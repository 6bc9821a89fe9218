import FluentSql.Log.Session
import FluentSql.Proofs.Files
import Mathlib.Data.List.Induction

/-! The steps of a session, each with the session in which it is taken, and what one step does.
Folders and files are taken to be made without a refusal. -/
namespace FluentSql

/-- What is done has gone on to its end. -/
theorem Outcome.andThen_of_done {σ : Type} {o : Outcome σ} {next : σ → Outcome σ}
    (h : (o.andThen next).fault = none) : o.andThen next = next o.state := by
  unfold andThen at h ⊢
  cases hf : o.fault with
  | none => rfl
  | some f =>
    simp only [hf] at h
    cases h

namespace Log

/-- A step together with the session in which it is taken. -/
structure Visit where
  before : Session
  step : Step

namespace Session

/-- The steps of a run, each with the session that it finds. -/
def visits (s : Session) : List Step → List Visit
  | [] => []
  | step :: steps => ⟨s, step⟩ :: (s.step step).state.visits steps

@[simp] theorem map_step_visits (s : Session) (steps : List Step) :
    (s.visits steps).map Visit.step = steps := by
  induction steps generalizing s with
  | nil => rfl
  | cons step rest ih => simp [visits, ih]

@[simp] theorem length_visits (s : Session) (steps : List Step) :
    (s.visits steps).length = steps.length := by
  rw [← List.length_map (f := Visit.step), map_step_visits]

theorem run_append (s : Session) (first second : List Step) :
    s.run (first ++ second) = (s.run first).run second := by
  simp [run, List.foldl_append]

theorem visits_append (s : Session) (first second : List Step) :
    s.visits (first ++ second) = s.visits first ++ (s.run first).visits second := by
  induction first generalizing s with
  | nil => rfl
  | cons step rest ih =>
    simp only [List.cons_append, visits, ih]
    rfl

end Session

/-- What a setup puts in place: a level, a console and a file. -/
structure Arrangement where
  level : Nat
  console? : Option Layout
  file? : Option Path
  deriving DecidableEq, Repr

/-- What is logged: by which logger, or by the root, at which level, and what. -/
structure Logged where
  logger? : Option String
  level : Int
  message : String

namespace Arrangement

/-- The console comes first, and then the file, both at the same level. -/
def handlers (a : Arrangement) : List Handler :=
  (a.console?.map fun layout => { file? := none, level := a.level, layout }).toList ++
    (a.file?.map fun path => { file? := some path, level := a.level, layout := .plain }).toList

end Arrangement

namespace Setup

/-- The place of a file in a folder. -/
def placeIn? (folder file : Value) : Option Path := do
  let folder ← (pathOf .folderNotText folder).toOption
  let file ← (pathOf .fileNotText file).toOption
  return (folder.within file).shortest.place

/-- The place of the file that a setup attaches, if it attaches one. -/
def place? (settings : Settings) (setup : Setup) : Option Path :=
  (Session.setupFile? settings setup).bind fun (folder, file) => placeIn? folder file

/-- What a setup is to put in place. It is nothing if the level is unknown. -/
def arrangement? (settings : Settings) (setup : Setup) : Option Arrangement :=
  (Session.setupLevel settings setup).toOption.map fun level =>
    { level
      console? :=
        if setup.console.isGiven then some (if setup.colors.isGiven then .vivid else .plain)
        else none
      file? := setup.place? settings }

end Setup

namespace Session

theorem consoleHandlers_eq (setup : Setup) (level : Nat) :
    consoleHandlers setup level =
      ((if setup.console.isGiven then some (if setup.colors.isGiven then .vivid else .plain)
        else none : Option Layout).map fun layout =>
          ({ file? := none, level, layout } : Handler)).toList := by
  unfold consoleHandlers
  split <;> rfl

theorem attach_done {s : Session} {level : Nat} {path : Path}
    (h : (s.attach level path).fault = none) :
    ∃ disk, disk.files = s.disk.filesWith (some path.place) ∧
      (s.attach level path).state =
        { s with
          disk
          handlers := s.handlers ++ [{ file? := some path.place, level, layout := .plain }] } := by
  unfold attach at h ⊢
  cases ho : s.disk.openFile path with
  | error r =>
    rw [ho] at h
    cases h
  | ok disk => exact ⟨disk, Disk.files_of_openFile ho, rfl⟩

/-- A file is attached last, at its place, and only the disk changes besides. -/
theorem attachIn_done {s : Session} {level : Nat} {folder file : Value}
    (h : (s.attachIn level folder file).fault = none) :
    ∃ place disk, Setup.placeIn? folder file = some place ∧
      disk.files = s.disk.filesWith (some place) ∧
      (s.attachIn level folder file).state =
        { s with
          disk
          handlers := s.handlers ++ [{ file? := some place, level, layout := .plain }] } := by
  unfold attachIn at h ⊢
  cases hd : pathOf .folderNotText folder with
  | error f =>
    rw [hd] at h
    cases h
  | ok folder =>
    simp only [hd] at h ⊢
    have he := Outcome.andThen_of_done h
    rw [he] at h ⊢
    cases hn : pathOf .fileNotText file with
    | error f =>
      rw [hn] at h
      cases h
    | ok file =>
      simp only [hn] at h ⊢
      obtain ⟨disk, hdisk, hs⟩ := attach_done h
      refine ⟨_, disk, by simp only [Setup.placeIn?, hd, hn]; rfl, ?_, hs⟩
      rw [hdisk]
      exact Disk.filesWith_congr (Disk.files_makeFolders _ _) _

theorem setUp_of_arrangement? {s : Session} {setup : Setup}
    (h : setup.arrangement? s.settings = none) : ∃ f, s.setUp setup = .refused s f := by
  unfold Setup.arrangement? at h
  unfold setUp
  cases hl : setupLevel s.settings setup with
  | error f => exact ⟨f, rfl⟩
  | ok level =>
    rw [hl] at h
    cases h

/-- A setup that is carried out puts its arrangement in place and touches only the disk besides. -/
theorem setUp_done {s : Session} {setup : Setup} {a : Arrangement}
    (ha : setup.arrangement? s.settings = some a) (hf : (s.setUp setup).fault = none) :
    ∃ disk, disk.files = s.disk.filesWith a.file? ∧
      (s.setUp setup).state =
        { s with
          disk
          registry := s.registry.setRootLevel a.level
          handlers := a.handlers } := by
  unfold Setup.arrangement? at ha
  unfold setUp at hf ⊢
  cases hl : setupLevel s.settings setup with
  | error f =>
    rw [hl] at ha
    cases ha
  | ok level =>
    rw [hl] at ha hf
    obtain rfl := Option.some.inj ha
    simp only [Arrangement.handlers, Setup.place?, ← consoleHandlers_eq] at hf ⊢
    cases hp : setupFile? s.settings setup with
    | none => exact ⟨s.disk, rfl, by simp [Outcome.done]⟩
    | some pair =>
      simp only [hp] at hf
      obtain ⟨place, disk, hplace, hdisk, hs⟩ := attachIn_done hf
      refine ⟨disk, ?_, ?_⟩
      · rw [hdisk, Option.bind_some, hplace]
      · simp only [hs, Option.bind_some, hplace]
        rfl

end Session

namespace Visit

def outcome (v : Visit) : Outcome Session := v.before.step v.step

/-- The setup that a step asks for. The default one is asked for only if no handler stands. -/
def setup? (v : Visit) : Option Setup :=
  match v.step with
  | .setup setup => some setup
  | .initDefault => if v.before.handlers.isEmpty then some {} else none
  | .logger _ _ | .log _ _ _ => none

/-- A setup of known level is not refused by the disk. -/
def Opens (v : Visit) : Prop :=
  (v.setup?.bind (·.arrangement? v.before.settings)).isSome → v.outcome.fault.isNone

instance : DecidablePred Opens := fun _ => inferInstanceAs (Decidable (_ → _))

/-- What a step has put in place, if it was a setup that has been carried out. -/
def arrangement? (v : Visit) : Option Arrangement :=
  if v.outcome.fault.isNone then v.setup?.bind (·.arrangement? v.before.settings) else none

/-- The logger, or the root, to which a step has given a level by name, and that level. -/
def given? (v : Visit) : Option (Option String × Nat) :=
  match v.step with
  | .logger name level =>
    if level.isGiven then
      (loggerName name).toOption.bind fun name? => (levelNumber level).toOption.map (name?, ·)
    else none
  | .setup _ | .initDefault | .log _ _ _ => none

/-- What a step logs: the logger, or the root, with the level and the message. -/
def logged? (v : Visit) : Option Logged :=
  match v.step with
  | .log name level message =>
    (loggerName name).toOption.map fun logger? => { logger?, level, message }
  | .setup _ | .initDefault | .logger _ _ => none

/-- The session in which a step acts. -/
def ready (v : Visit) : Session := { v.before with console := "" }

@[simp] theorem registry_ready (v : Visit) : v.ready.registry = v.before.registry := rfl

@[simp] theorem handlers_ready (v : Visit) : v.ready.handlers = v.before.handlers := rfl

@[simp] theorem disk_ready (v : Visit) : v.ready.disk = v.before.disk := rfl

/-- What a step does: it carries out a setup, it gives a level, it logs, or at most it makes a
logger. Only in the last case can it have been refused. -/
inductive Effect (v : Visit) : Prop
  | setup (a : Arrangement) (disk : Disk) (arranged : v.arrangement? = some a)
    (given : v.given? = none) (logged : v.logged? = none) (done : v.outcome.fault = none)
    (files : disk.files = v.before.disk.filesWith a.file?)
    (state : v.outcome.state =
      { v.ready with
        disk
        registry := v.before.registry.setRootLevel a.level
        handlers := a.handlers })
  | level (name? : Option String) (level : Nat) (arranged : v.arrangement? = none)
    (given : v.given? = some (name?, level)) (logged : v.logged? = none)
    (done : v.outcome.fault = none)
    (state : v.outcome.state = (v.ready.ensure name?).setLevel name? level)
  | log (e : Logged) (arranged : v.arrangement? = none) (given : v.given? = none)
    (logged : v.logged? = some e) (done : v.outcome.fault = none)
    (state : v.outcome.state = (v.ready.ensure e.logger?).emit e.logger? e.level e.message)
  | mention (name? : Option String) (arranged : v.arrangement? = none) (given : v.given? = none)
    (logged : v.logged? = none) (state : v.outcome.state = v.ready.ensure name?)

variable {v : Visit}

theorem effect_of_setup {setup : Setup} (h : v.Opens) (hs : v.setup? = some setup)
    (hg : v.given? = none) (hl : v.logged? = none) (ho : v.outcome = v.ready.setUp setup) :
    v.Effect := by
  cases ha : setup.arrangement? v.before.settings with
  | none =>
    obtain ⟨f, hr⟩ : ∃ f, v.ready.setUp setup = .refused v.ready f :=
      Session.setUp_of_arrangement? ha
    exact .mention none (by simp [arrangement?, hs, ha]) hg hl (by rw [ho, hr]; rfl)
  | some a =>
    have hf : v.outcome.fault = none := Option.isNone_iff_eq_none.1 (h (by simp [hs, ha]))
    obtain ⟨disk, hd, hst⟩ := Session.setUp_done (s := v.ready) ha (by rw [← ho, hf])
    exact .setup a disk (by simp [arrangement?, hf, hs, ha]) hg hl hf hd (by rw [ho, hst]; rfl)

theorem arrangement?_of_setup? (h : v.setup? = none) : v.arrangement? = none := by
  simp [arrangement?, h]

theorem effect_of_logger {name level : Value} (hs : v.step = .logger name level) : v.Effect := by
  have ha : v.arrangement? = none := arrangement?_of_setup? (by simp [setup?, hs])
  have hl : v.logged? = none := by simp [logged?, hs]
  have ho : v.outcome = v.ready.getLogger name level := by rw [outcome, hs]; rfl
  unfold Session.getLogger at ho
  cases hn : loggerName name with
  | error f =>
    simp only [hn] at ho
    exact .mention none ha (by simp [given?, hs, hn, Except.toOption]) hl (by rw [ho]; rfl)
  | ok name? =>
    simp only [hn] at ho
    cases hg : level.isGiven with
    | false =>
      simp only [hg] at ho
      exact .mention name? ha (by simp [given?, hs, hg]) hl (by rw [ho]; rfl)
    | true =>
      simp only [hg, if_true] at ho
      cases hv : levelNumber level with
      | error f =>
        rw [hv] at ho
        exact .mention name? ha (by simp [given?, hs, hn, hv, Except.toOption]) hl
          (by rw [ho]; rfl)
      | ok n =>
        rw [hv] at ho
        exact .level name? n ha (by simp [given?, hs, hn, hg, hv, Except.toOption]) hl
          (by rw [ho]; rfl) (by rw [ho]; rfl)

theorem effect_of_log {name : Value} {level : Int} {message : String}
    (hs : v.step = .log name level message) : v.Effect := by
  have ha : v.arrangement? = none := arrangement?_of_setup? (by simp [setup?, hs])
  have hg : v.given? = none := by simp [given?, hs]
  have ho : v.outcome = v.ready.log name level message := by rw [outcome, hs]; rfl
  unfold Session.log at ho
  cases hn : loggerName name with
  | error f =>
    simp only [hn] at ho
    exact .mention none ha hg (by simp [logged?, hs, hn, Except.toOption]) (by rw [ho]; rfl)
  | ok name? =>
    simp only [hn] at ho
    exact .log ⟨name?, level, message⟩ ha hg (by simp [logged?, hs, hn, Except.toOption])
      (by rw [ho]; rfl) (by rw [ho]; rfl)

theorem effect (v : Visit) (h : v.Opens) : v.Effect := by
  obtain ⟨s, step⟩ := v
  cases step with
  | setup setup => exact effect_of_setup h rfl rfl rfl rfl
  | initDefault =>
    cases hh : s.handlers.isEmpty with
    | true =>
      refine effect_of_setup h (show _ = some {} by simp [setup?, hh]) rfl rfl ?_
      simp [outcome, Session.step, Session.act, Session.initDefault, ready, hh]
    | false =>
      refine .mention none (arrangement?_of_setup? (by simp [setup?, hh])) rfl rfl ?_
      simp [outcome, Session.step, Session.act, Session.initDefault, ready, hh]
      rfl
  | logger name level => exact effect_of_logger rfl
  | log name level message => exact effect_of_log rfl

end Visit

/-! What a step leaves alone. -/
namespace Session

theorem deliver_frame (level : Nat) (r : Record) (s : Session) (h : Handler) :
    (deliver level r s h).handlers = s.handlers ∧
      (deliver level r s h).registry = s.registry := by
  unfold deliver
  split
  · exact ⟨rfl, rfl⟩
  · split <;> exact ⟨rfl, rfl⟩

theorem foldl_deliver_frame (level : Nat) (r : Record) (hs : List Handler) (s : Session) :
    (hs.foldl (deliver level r) s).handlers = s.handlers ∧
      (hs.foldl (deliver level r) s).registry = s.registry := by
  induction hs generalizing s with
  | nil => exact ⟨rfl, rfl⟩
  | cons h rest ih =>
    obtain ⟨hh, hr⟩ := deliver_frame level r s h
    rw [List.foldl_cons, (ih _).1, (ih _).2, hh, hr]
    exact ⟨rfl, rfl⟩

@[simp] theorem handlers_emit (s : Session) (name? : Option String) (level : Int)
    (message : String) : (s.emit name? level message).handlers = s.handlers := by
  unfold emit
  dsimp only
  split
  · exact (foldl_deliver_frame _ _ _ _).1
  · rfl

@[simp] theorem registry_emit (s : Session) (name? : Option String) (level : Int)
    (message : String) :
    (s.emit name? level message).registry = (s.registry.ask name? level).2 := by
  unfold emit
  dsimp only
  split
  · exact (foldl_deliver_frame _ _ _ _).2
  · rfl

@[simp] theorem handlers_ensure (s : Session) (name? : Option String) :
    (s.ensure name?).handlers = s.handlers := by
  cases name? <;> rfl

@[simp] theorem disk_ensure (s : Session) (name? : Option String) :
    (s.ensure name?).disk = s.disk := by
  cases name? <;> rfl

@[simp] theorem handlers_setLevel (s : Session) (name? : Option String) (level : Nat) :
    (s.setLevel name? level).handlers = s.handlers := by
  cases name? <;> rfl

@[simp] theorem disk_setLevel (s : Session) (name? : Option String) (level : Nat) :
    (s.setLevel name? level).disk = s.disk := by
  cases name? <;> rfl

end Session

namespace Registry

@[simp] theorem rootLevel_ensure (r : Registry) (name : String) :
    (r.ensure name).rootLevel = r.rootLevel := by
  unfold ensure
  split <;> rfl

@[simp] theorem rootLevel_ask (r : Registry) (name? : Option String) (level : Int) :
    (r.ask name? level).2.rootLevel = r.rootLevel := by
  cases name? with
  | none => rfl
  | some name =>
    unfold ask
    dsimp only
    split <;> rfl

end Registry

@[simp] theorem Session.rootLevel_ensure (s : Session) (name? : Option String) :
    (s.ensure name?).registry.rootLevel = s.registry.rootLevel := by
  cases name? with
  | none => rfl
  | some name => exact s.registry.rootLevel_ensure name

namespace Session

/-- What every step keeps, a whole run keeps. The property may speak of the steps taken so far. -/
theorem visits_induction {P : List Visit → Session → Prop} {s : Session} (start : P [] s)
    (next : ∀ past v, v.Opens → P past v.before → P (past ++ [v]) v.outcome.state)
    (steps : List Step) (h : ∀ v ∈ s.visits steps, v.Opens) : P (s.visits steps) (s.run steps) := by
  induction steps using List.reverseRecOn with
  | nil => exact start
  | append_singleton front last ih =>
    rw [visits_append] at h ⊢
    rw [run_append]
    exact next _ _ (h _ (by simp [visits])) (ih fun v hv => h v (by simp [hv]))

end Session

end Log

end FluentSql
