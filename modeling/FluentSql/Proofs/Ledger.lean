import FluentSql.Proofs.Arrangement
import FluentSql.Proofs.Decisions

/-! What files hold after a session. Main result: every file holds one line for each record that
reached it, in order and without color, and nothing else, however often it was attached. -/
namespace FluentSql.Log

/-- The line of a record in a file. -/
def Logged.line (e : Logged) : String :=
  epoch ++ " - " ++ e.logger?.getD rootName ++ " - " ++ Level.nameOf e.level.toNat ++ " - " ++
    e.message ++ "\n"

/-- What a step adds to the file at a place, where `a?` is the last arrangement and `judge` the
session in which a logger has the effective level that counts. -/
def Visit.addition (judge : Logged → Session) (a? : Option Arrangement) (place : Path)
    (v : Visit) : String :=
  match v.logged?, a? with
  | some e, some a =>
    if a.file? = some place ∧ (a.level : Int) ≤ e.level ∧ 0 < e.level ∧
        (((judge e).ensure e.logger?).registry.effective e.logger? : Int) ≤ e.level then
      e.line
    else ""
  | _, _ => ""

/-- What a file holds after further steps. The session that counts is told from the past, from the
present session and from what is logged. -/
def ledgerAfter (judge : List Visit → Session → Logged → Session) (place : Path)
    (past : List Visit) : List Visit → String
  | [] => ""
  | v :: later =>
    v.addition (judge past v.before) (lastArrangement? past) place ++
      ledgerAfter judge place (past ++ [v]) later

/-- What a file is to hold after the steps of a session. -/
def ledger (judge : List Visit → Session → Logged → Session) (place : Path) (vs : List Visit) :
    String :=
  ledgerAfter judge place [] vs

/-- Some setup that was carried out has attached the file at a place. -/
def Attached (vs : List Visit) (place : Path) : Prop :=
  ∃ v ∈ vs, ∃ a, v.arrangement? = some a ∧ a.file? = some place

section Ledger

variable {judge : List Visit → Session → Logged → Session} {place : Path} {vs : List Visit}
  {v : Visit}

theorem ledgerAfter_concat (past : List Visit) :
    ledgerAfter judge place past (vs ++ [v]) =
      ledgerAfter judge place past vs ++
        v.addition (judge (past ++ vs) v.before) (lastArrangement? (past ++ vs)) place := by
  induction vs generalizing past with
  | nil => simp [ledgerAfter]
  | cons w rest ih => simp [ledgerAfter, ih, String.append_assoc]

theorem ledger_concat :
    ledger judge place (vs ++ [v]) =
      ledger judge place vs ++ v.addition (judge vs v.before) (lastArrangement? vs) place :=
  ledgerAfter_concat []

theorem addition_of_not_logged (h : v.logged? = none) {judge : Logged → Session}
    {a? : Option Arrangement} : v.addition judge a? place = "" := by
  simp [Visit.addition, h]

theorem attached_of_last {a : Arrangement} (ha : lastArrangement? vs = some a)
    (hp : a.file? = some place) : Attached vs place := by
  obtain ⟨v, hv, hva⟩ := List.mem_filterMap.1 (List.mem_of_getLast? ha)
  exact ⟨v, hv, a, hva, hp⟩

theorem attached_concat :
    Attached (vs ++ [v]) place ↔
      Attached vs place ∨ ∃ a, v.arrangement? = some a ∧ a.file? = some place := by
  simp [Attached, or_and_right, exists_or]

theorem addition_of_not_attached (h : ¬Attached vs place) {judge : Logged → Session} :
    v.addition judge (lastArrangement? vs) place = "" := by
  unfold Visit.addition
  split
  · next e a he ha =>
    have hp : a.file? ≠ some place := fun hp => h (attached_of_last ha hp)
    rw [if_neg fun hc => hp hc.1]
  · rfl

/-- Nothing is to be held by a file that was never attached. -/
theorem ledger_of_not_attached (h : ¬Attached vs place) : ledger judge place vs = "" := by
  induction vs using List.reverseRecOn with
  | nil => rfl
  | append_singleton vs v ih =>
    rw [attached_concat] at h
    have hvs : ¬Attached vs place := fun ha => h (.inl ha)
    rw [ledger_concat, ih hvs, addition_of_not_attached hvs]
    rfl

end Ledger

namespace Session

/-- A console that stands first changes nothing in the file that stands after it. -/
theorem files_foldl_deliver (a : Arrangement) (level : Nat) (r : Record) (s : Session) :
    (a.handlers.foldl (deliver level r) s).disk.files =
      s.disk.files.map fun f =>
        if a.file? = some f.1 ∧ a.level ≤ level then (f.1, f.2 ++ (Layout.plain.line r ++ "\n"))
        else f := by
  obtain ⟨n, console?, file?⟩ := a
  by_cases hn : level < n
  · have : ¬n ≤ level := by omega
    cases console? <;> cases file? <;> simp [Arrangement.handlers, deliver, hn, this]
  · have : n ≤ level := by omega
    cases console? <;> cases file? <;>
      simp [Arrangement.handlers, deliver, hn, this, Disk.appendTo, eq_comm]

end Session

/-- Logging adds to every file what it is to have of the record, and to no file anything else. -/
theorem Visit.files_of_log {past : List Visit} {v : Visit} {e : Logged}
    (hh : v.before.handlers = ((lastArrangement? past).map Arrangement.handlers).getD [])
    (hr : v.before.Remembers past) (hl : v.logged? = some e)
    (hs : v.outcome.state = (v.ready.ensure e.logger?).emit e.logger? e.level e.message) :
    v.outcome.state.disk.files = v.before.disk.files.map fun f =>
      (f.1, f.2 ++ v.addition (firstAsked past v.before) (lastArrangement? past) f.1) := by
  have hpass : ((v.ready.ensure e.logger?).registry.ask e.logger? e.level).1 =
      ((firstAsked past v.before e).ensure e.logger?).registry.admits e.logger? e.level := by
    rw [← hr.ask_fst e]
    cases e.logger? <;> rfl
  have hhandlers : (v.ready.ensure e.logger?).handlers =
      ((lastArrangement? past).map Arrangement.handlers).getD [] := by simp [hh]
  rw [hs]
  unfold Session.emit addition
  simp only [hpass, hl, hhandlers]
  rw [Registry.admits]
  cases lastArrangement? past with
  | none => simp
  | some a =>
    dsimp only
    generalize ((firstAsked past v.before e).ensure e.logger?).registry.effective e.logger? = n
    by_cases hp : 0 < e.level ∧ (n : Int) ≤ e.level
    · have hlevel : a.level ≤ e.level.toNat ↔ (a.level : Int) ≤ e.level := by omega
      simp only [hp, and_true, decide_true, if_true, Option.map_some, Option.getD_some,
        Session.files_foldl_deliver, Session.disk_ensure, Visit.disk_ready, hlevel]
      refine List.map_congr_left fun f _ => ?_
      split
      · rw [Logged.line, Layout.line_plain]
      · simp
    · simp [hp]

/-- To attach a file leaves the files alone, or else it adds one that was not there. -/
theorem Disk.filesWith_cases (d : Disk) (place? : Option Path) :
    (d.filesWith place? = d.files ∧
      ∀ place, place? = some place → place = sink ∨ place ∈ d.files.map Prod.fst) ∨
    ∃ place, place? = some place ∧ place ≠ sink ∧ place ∉ d.files.map Prod.fst ∧
      d.filesWith place? = d.files ++ [(place, "")] := by
  have hfile : ∀ place, d.isFile place = true ↔ place = sink ∨ place ∈ d.files.map Prod.fst := by
    simp [isFile]
  cases place? with
  | none => exact .inl ⟨rfl, nofun⟩
  | some place =>
    by_cases h : d.isFile place = true
    · refine .inl ⟨if_pos h, fun p hp => ?_⟩
      rw [← Option.some.inj hp]
      exact (hfile place).1 h
    · have hnot := not_or.1 (mt (hfile place).2 h)
      exact .inr ⟨place, rfl, hnot.1, hnot.2, if_neg h⟩

/-- The files are those that were attached, each with what it is to hold. What is written to the
sink is in no file. -/
structure Disk.Holds (d : Disk) (vs : List Visit) : Prop where
  nodup : (d.files.map Prod.fst).Nodup
  content : ∀ f ∈ d.files, f.2 = ledger firstAsked f.1 vs
  attached : ∀ place, place ∈ d.files.map Prod.fst ↔ place ≠ Disk.sink ∧ Attached vs place

namespace Disk.Holds

variable {d after : Disk} {past : List Visit} {v : Visit}

/-- A setup makes at most one file. That one is empty, as nothing was attached there before. -/
theorem setup (h : d.Holds past) {a : Arrangement} (ha : v.arrangement? = some a)
    (hl : v.logged? = none) (hf : after.files = d.filesWith a.file?) :
    after.Holds (past ++ [v]) := by
  have hattached : ∀ place, Attached (past ++ [v]) place ↔
      Attached past place ∨ a.file? = some place := by
    simp [attached_concat, ha]
  have hledger : ∀ place, ledger firstAsked place (past ++ [v]) = ledger firstAsked place past := by
    simp [ledger_concat, addition_of_not_logged hl]
  rcases d.filesWith_cases a.file? with ⟨hsame, hthere⟩ | ⟨new, hnew, hsink, hfree, hadded⟩
  · rw [hsame] at hf
    refine ⟨hf ▸ h.nodup, fun f hmem => ?_, fun place => ?_⟩
    · rw [hledger, h.content f (hf ▸ hmem)]
    · rw [hf, hattached]
      refine ⟨fun hp => ?_, fun ⟨hp, hor⟩ => hor.elim (fun ha => (h.attached place).2 ⟨hp, ha⟩)
        fun ha => (hthere place ha).resolve_left hp⟩
      have hold := (h.attached place).1 hp
      exact ⟨hold.1, .inl hold.2⟩
  · rw [hadded] at hf
    have hnever : ¬Attached past new := fun ha => hfree ((h.attached new).2 ⟨hsink, ha⟩)
    have hplaces : after.files.map Prod.fst = d.files.map Prod.fst ++ [new] := by simp [hf]
    refine ⟨?_, fun f hmem => ?_, fun place => ?_⟩
    · rw [hplaces, List.nodup_append]
      exact ⟨h.nodup, by simp, fun p hp q hq hpq =>
        hfree (List.mem_singleton.1 hq ▸ hpq ▸ hp)⟩
    · rw [hledger]
      rw [hf] at hmem
      rcases List.mem_append.1 hmem with hmem | hmem
      · exact h.content f hmem
      · rw [List.mem_singleton.1 hmem, ledger_of_not_attached hnever]
    · rw [hplaces, hattached, hnew, List.mem_append, h.attached, List.mem_singleton,
        Option.some.injEq]
      constructor
      · rintro (⟨hp, ha⟩ | rfl)
        · exact ⟨hp, .inl ha⟩
        · exact ⟨hsink, .inr rfl⟩
      · rintro ⟨hp, ha | rfl⟩
        · exact .inl ⟨hp, ha⟩
        · exact .inr rfl

/-- Logging makes no file and adds to each file what it is to have. -/
theorem log (h : d.Holds past) (ha : v.arrangement? = none)
    (hf : after.files = d.files.map fun f =>
      (f.1, f.2 ++ v.addition (firstAsked past v.before) (lastArrangement? past) f.1)) :
    after.Holds (past ++ [v]) := by
  have hplaces : after.files.map Prod.fst = d.files.map Prod.fst := by
    rw [hf, List.map_map]
    rfl
  refine ⟨hplaces ▸ h.nodup, fun f hmem => ?_, fun place => ?_⟩
  · rw [hf] at hmem
    obtain ⟨old, hold, rfl⟩ := List.mem_map.1 hmem
    rw [ledger_concat, h.content old hold]
  · rw [hplaces, h.attached, attached_concat, ha]
    simp

/-- A step that neither sets up nor logs leaves all files alone. -/
theorem idle (h : d.Holds past) (ha : v.arrangement? = none) (hl : v.logged? = none) :
    d.Holds (past ++ [v]) :=
  h.log ha (by simp [addition_of_not_logged hl])

theorem step (h : v.before.disk.Holds past) (ho : v.Opens)
    (hh : v.before.handlers = ((lastArrangement? past).map Arrangement.handlers).getD [])
    (hr : v.before.Remembers past) : v.outcome.state.disk.Holds (past ++ [v]) := by
  cases v.effect ho with
  | setup a disk arranged given logged done files state =>
    exact h.setup arranged logged (by rw [state, files])
  | level name? level arranged given logged done state =>
    have hd : v.outcome.state.disk = v.before.disk := by simp [state]
    exact hd ▸ h.idle arranged logged
  | log e arranged given logged done state =>
    exact h.log arranged (Visit.files_of_log hh hr logged state)
  | mention name? arranged given logged state =>
    have hd : v.outcome.state.disk = v.before.disk := by simp [state]
    exact hd ▸ h.idle arranged logged

end Disk.Holds

namespace Session

/-- After any steps every file holds, in order, one plain line for each record that reached it: the
last setup had attached the file, and the level was positive, at least the one of that setup, and at
least the effective level that its logger had when it was first asked about this level since a level
was last set. The files are all those that were ever attached, but for the sink. -/
theorem files_hold_ledgers (settings : Settings) (steps : List Step)
    (h : ∀ v ∈ ({ settings } : Session).visits steps, v.Opens) :
    (({ settings } : Session).run steps).disk.Holds (({ settings } : Session).visits steps) := by
  induction steps using List.reverseRecOn with
  | nil => exact ⟨List.nodup_nil, nofun, by simp [run, visits, Attached]⟩
  | append_singleton front last ih =>
    rw [visits_append] at h ⊢
    rw [run_append]
    have hfront : ∀ v ∈ ({ settings } : Session).visits front, v.Opens :=
      fun v hv => h v (List.mem_append_left _ hv)
    have hlast : Visit.Opens ⟨({ settings } : Session).run front, last⟩ :=
      h _ (List.mem_append_right _ List.mem_cons_self)
    exact Disk.Holds.step (ih hfront) hlast (handlers_of_visits rfl hfront)
      (remembers_of_visits rfl hfront)

/-- The file is attached at `DEBUG` beside a colored console, left for another one, and attached
again at `ERROR`. What was written before stays, and a refused setup changes nothing. -/
theorem files_after_reattachment :
    let steps : List Step :=
      [.setup { level := .text "DEBUG", file := .text "a.log" }, .log (.text "db") 10 "one",
        .logger (.text "db") (.text "INFO"), .log (.text "db") 10 "two", .log (.text "db.x") 20 "three",
        .setup { level := .text "INFO", file := .text "b.log", console := .bool false },
        .log .null 25 "four",
        .setup { level := .text "ERROR", file := .text "a.log" }, .initDefault,
        .setup { level := .text "LOUD" }, .log (.text "db.x") 30 "five",
        .log (.text "root") 50 "six"]
    let s : Session := { settings := .ofEnvironment [] }
    (∀ v ∈ s.visits steps, v.Opens) ∧
      ledger firstAsked { parts := ["logs", "a.log"] } (s.visits steps) =
        "1970-01-01 00:00:00 - db - DEBUG - one\n" ++
          "1970-01-01 00:00:00 - db.x - INFO - three\n" ++
          "1970-01-01 00:00:00 - root - CRITICAL - six\n" ∧
      (s.run steps).disk.Holds (s.visits steps) := by
  intro steps s
  have h : ∀ v ∈ s.visits steps, v.Opens := by decide +kernel
  have hholds : (s.run steps).disk.Holds (s.visits steps) :=
    files_hold_ledgers (.ofEnvironment []) steps h
  refine ⟨h, ?_, hholds⟩
  have hfile : ({ parts := ["logs", "a.log"] },
      "1970-01-01 00:00:00 - db - DEBUG - one\n" ++
        "1970-01-01 00:00:00 - db.x - INFO - three\n" ++
        "1970-01-01 00:00:00 - root - CRITICAL - six\n") ∈ (s.run steps).disk.files := by
    decide +kernel
  have hcontent := hholds.content _ hfile
  exact hcontent.symm

/-- A logger that comes between others late changes what level counts for those below, but not what
they have decided: here the second record is written, although its logger has the effective level
`ERROR` by then. -/
theorem record_written_below_effective_level :
    let steps : List Step :=
      [.setup { level := .text "DEBUG", file := .text "a.log", console := .bool false },
        .logger (.text "r.x.y") .null, .logger (.text "r") (.text "ERROR"),
        .log (.text "r.x.y") 10 "first", .logger (.text "r.x") .null,
        .logger (.text "r.x.y") .null, .log (.text "r.x.y") 10 "second"]
    let s : Session := { settings := .ofEnvironment [] }
    let place : Path := { parts := ["logs", "a.log"] }
    (∀ v ∈ s.visits steps, v.Opens) ∧
      (s.run (steps.take 6)).registry.effective (some "r.x.y") = 40 ∧
      (s.run steps).disk.files =
        [(place, "1970-01-01 00:00:00 - r.x.y - DEBUG - first\n" ++
          "1970-01-01 00:00:00 - r.x.y - DEBUG - second\n")] ∧
      ledger (fun _ present _ => present) place (s.visits steps) =
        "1970-01-01 00:00:00 - r.x.y - DEBUG - first\n" := by
  decide +kernel

end Session

end FluentSql.Log
