import FluentSql.Log.Session
import FluentSql.Proofs.Lettering

/-! Environment variables that are set to a blank text. Main result: the flags take such a variable
for unset, the other settings do not, and a blank level name is refused as an unknown one. -/
namespace FluentSql

/-- A text of blanks only, or an empty one. -/
def Text.allBlank (s : String) : Bool := s.toList.all isBlank

namespace Environment

/-- The environment without the variables whose value is blank. -/
def withoutBlanks (env : Environment) : Environment :=
  env.filter fun entry => !(env.get? entry.1).any Text.allBlank

/-- To drop keys from a table is to find nothing under them. -/
theorem lookup_filter_key (keep : String → Bool) (name : String) (l : List (String × String)) :
    (l.filter fun e => keep e.1).lookup name = if keep name then l.lookup name else none := by
  induction l with
  | nil => simp
  | cons e rest ih =>
    obtain ⟨key, value⟩ := e
    by_cases hn : name = key
    · subst hn
      cases hk : keep name <;> simp [hk, ih]
    · have hne : (name == key) = false := beq_eq_false_iff_ne.2 hn
      cases hk : keep key <;> simp [hk, List.lookup_cons, hne, ih]

/-- A blank variable is unset, and all others are as they were. An earlier value that the blank one
hides does not come back. -/
theorem get?_withoutBlanks (env : Environment) (name : String) :
    env.withoutBlanks.get? name = (env.get? name).filter (!Text.allBlank ·) := by
  have h := lookup_filter_key (fun key => !(env.get? key).any Text.allBlank) name env.reverse
  rw [withoutBlanks, get?, ← List.filter_reverse, h, ← get?]
  cases env.get? name <;> simp [Option.filter]

end Environment

namespace Settings

open Text (allBlank)

variable {set? : Option String}

/-- A flag takes a blank text for none. -/
theorem flag_filter (default : Bool) (set? : Option String) :
    flag default (set?.filter (!allBlank ·)) = flag default set? := by
  cases set? with
  | none => rfl
  | some text =>
    cases hb : allBlank text with
    | false => simp [Option.filter, hb]
    | true =>
      have ht : Text.trim text.toList = [] := Text.trim_eq_nil_iff.2 (List.all_eq_true.1 hb)
      simp [Option.filter, hb, flag, ht]

/-- A text with a default takes a blank text as it is. -/
theorem getD_filter_iff {default : String} (hd : allBlank default = false) :
    (set?.filter (!allBlank ·)).getD default = set?.getD default ↔
      set?.any allBlank = false := by
  cases set? with
  | none => simp
  | some text =>
    cases hb : allBlank text with
    | false => simp [Option.filter, hb]
    | true =>
      have hne : default ≠ text := fun h => by simp [h, hb] at hd
      simp [Option.filter, hb, hne]

/-- An optional text takes only the empty text for none. -/
theorem nonempty?_filter_iff :
    nonempty? (set?.filter (!allBlank ·)) = nonempty? set? ↔
      ∀ text, set? = some text → allBlank text = true → text = "" := by
  cases set? with
  | none => simp
  | some text =>
    cases hb : allBlank text with
    | false => simp [Option.filter, hb]
    | true =>
      have hn : (some text).filter (!allBlank ·) = none := by simp [Option.filter, hb]
      rw [hn]
      by_cases he : text = "" <;> simp [nonempty?, Option.filter, he, hb]

/-- A variable is set to a blank text. -/
def Variable.BlankIn (v : Variable) (env : Environment) : Prop :=
  (env.get? v.name).any allBlank = true

instance (v : Variable) (env : Environment) : Decidable (v.BlankIn env) :=
  inferInstanceAs (Decidable (_ = true))

/-- The settings are those of the environment without its blank variables exactly if the texts with
a default are not blank, and an optional one is blank only if it is empty. -/
theorem ofEnvironment_withoutBlanks_iff (env : Environment) :
    ofEnvironment env.withoutBlanks = ofEnvironment env ↔
      (∀ v ∈ [Variable.logLevel, .logFolder, .databaseUrl], ¬v.BlankIn env) ∧
        ∀ file, env.get? Variable.logFile.name = some file → allBlank file = true → file = "" := by
  simp only [ofEnvironment, Environment.get?_withoutBlanks, flag_filter, Settings.mk.injEq,
    getD_filter_iff (show allBlank "INFO" = false by decide),
    getD_filter_iff (show allBlank "logs" = false by decide),
    getD_filter_iff (show allBlank "sqlite://" = false by decide), nonempty?_filter_iff,
    List.forall_mem_cons, Variable.BlankIn, Bool.not_eq_true]
  tauto

end Settings

namespace Log

/-- No level has a blank name. -/
theorem Level.ofName?_of_allBlank {name : String} (h : Text.allBlank name = true) :
    ofName? name = none := by
  have hne : ∀ word, Text.allBlank word = false → name ≠ word := fun word hw he => by
    rw [he, hw] at h
    cases h
  rw [ofName?, if_neg (hne _ (by decide)), if_neg (hne _ (by decide)), List.find?_eq_none]
  intro level _ hl
  exact hne level.name (by cases level <;> decide) (beq_iff_eq.1 hl).symm

theorem levelNumber_text (name : String) :
    levelNumber (.text name) =
      match Level.ofName? (.ofList (Text.upper name.toList)) with
      | some level => .ok level.number
      | none => .error (.unknownLevel (.ofList (Text.upper name.toList))) := rfl

/-- A level has that name in some case. -/
def NamesLevel (name : String) : Prop :=
  (Level.ofName? (.ofList (Text.upper name.toList))).isSome = true

instance (name : String) : Decidable (NamesLevel name) := inferInstanceAs (Decidable (_ = true))

theorem levelNumber_text_eq_ok_iff {name : String} :
    (∃ n, levelNumber (.text name) = .ok n) ↔ NamesLevel name := by
  rw [levelNumber_text, NamesLevel]
  cases Level.ofName? (.ofList (Text.upper name.toList)) <;> simp

theorem levelNumber_of_allBlank {name : String} (h : Text.allBlank name = true) :
    levelNumber (.text name) = .error (.unknownLevel name) := by
  have hu : String.ofList (Text.upper name.toList) = name := by
    rw [Text.upper_of_blank (List.all_eq_true.1 h), String.ofList_toList]
  rw [levelNumber_text, hu, Level.ofName?_of_allBlank h]

namespace Session

/-- Whether a file can be attached depends on the disk alone. -/
theorem fault_attachIn_congr {s t : Session} (h : s.disk = t.disk) (m n : Nat)
    (folder file : Value) :
    (s.attachIn m folder file).fault = (t.attachIn n folder file).fault := by
  unfold attachIn
  rw [h]
  cases pathOf .folderNotText folder with
  | error f => rfl
  | ok folder =>
    simp only [Outcome.andThen, Outcome.fault_map, Outcome.state_map]
    cases hf : (t.disk.makeFolders folder).fault with
    | some f => simp only [Outcome.fault_map]
    | none =>
      cases pathOf .fileNotText file with
      | error f => rfl
      | ok file =>
        simp only [attach]
        cases (t.disk.makeFolders folder).state.openFile (folder.within file).shortest <;> rfl

/-- The file of the settings, if there is one, can be attached in their folder. -/
def CanAttach (s : Session) : Prop :=
  ∀ file, s.settings.logFile = some file →
    ∀ level, (s.attachIn level (.text s.settings.logFolder) (.text file)).fault = none

theorem initDefault_eq {s : Session} (h : s.handlers = []) : s.initDefault = s.setUp {} := by
  simp [initDefault, h]

theorem fault_setUp_default_of_unknown {s : Session} {f : Fault}
    (h : levelNumber (.text s.settings.logLevel) = .error f) : (s.setUp {}).fault = some f := by
  have hl : setupLevel s.settings {} = .error f := h
  rw [setUp, hl]
  rfl

/-- The default setup is carried out exactly if the settings name a level and their file can be
attached. -/
theorem fault_setUp_default_iff (s : Session) :
    (s.setUp {}).fault = none ↔ NamesLevel s.settings.logLevel ∧ s.CanAttach := by
  rw [← levelNumber_text_eq_ok_iff]
  cases hl : levelNumber (.text s.settings.logLevel) with
  | error f =>
    rw [fault_setUp_default_of_unknown hl]
    exact iff_of_false nofun fun ⟨⟨n, hn⟩, _⟩ => nomatch hn
  | ok level =>
    have hs : setupLevel s.settings {} = .ok level := hl
    have hfile : setupFile? s.settings {} =
        s.settings.logFile.map fun file => (.text s.settings.logFolder, .text file) := rfl
    simp only [setUp, hs, hfile, CanAttach]
    cases s.settings.logFile with
    | none => simp [Outcome.done]
    | some file =>
      simp only [Option.map_some, Option.some.injEq, forall_eq', Except.ok.injEq, exists_eq',
        true_and]
      exact ⟨fun h n => (fault_attachIn_congr (by rfl) n level _ _).trans h, fun h =>
        (fault_attachIn_congr (by rfl) level level _ _).trans (h level)⟩

end Session

end Log

namespace Settings

open Text (allBlank)

/-- Only the flags take every blank variable for unset: the level, the folder and the address take
it as it is, and the file takes the empty text alone for none. So a root without handlers is set up
by default exactly if the variable of the level is unset or names one, and the file can be attached.
A blank text names no level. -/
theorem blank_counts_as_unset_iff (env : Environment) (registry : Log.Registry) (disk : Log.Disk)
    (console : String) :
    (ofEnvironment env.withoutBlanks = ofEnvironment env ↔
      (∀ v ∈ [Variable.logLevel, .logFolder, .databaseUrl], ¬v.BlankIn env) ∧
        ∀ file, env.get? Variable.logFile.name = some file → allBlank file = true → file = "") ∧
    let s : Log.Session := { settings := ofEnvironment env, registry, disk, console }
    (s.initDefault.fault = none ↔
      (∀ name, env.get? Variable.logLevel.name = some name → Log.NamesLevel name) ∧
        s.CanAttach) ∧
    ∀ name, env.get? Variable.logLevel.name = some name → allBlank name = true →
      s.initDefault.fault = some (.unknownLevel name) := by
  refine ⟨ofEnvironment_withoutBlanks_iff env, ?_⟩
  intro s
  have hs : s.initDefault = s.setUp {} := Log.Session.initDefault_eq rfl
  have hlevel : s.settings.logLevel = (env.get? Variable.logLevel.name).getD "INFO" := rfl
  rw [hs]
  refine ⟨?_, fun name hname hblank => ?_⟩
  · rw [s.fault_setUp_default_iff, hlevel]
    refine and_congr_left fun _ => ?_
    cases env.get? Variable.logLevel.name with
    | none => exact iff_of_true (by decide +kernel) nofun
    | some name => simp
  · apply s.fault_setUp_default_of_unknown
    rw [hlevel, hname]
    exact Log.levelNumber_of_allBlank hblank

/-- An empty level name is no level, although the flags and the file take the empty text for none:
the settings are not those of the empty environment, and the default setup is refused. -/
theorem blank_level_refused :
    let env : Environment := [(Variable.logLevel.name, "")]
    let s : Log.Session := { settings := ofEnvironment env }
    env.withoutBlanks = [] ∧ ofEnvironment env.withoutBlanks ≠ ofEnvironment env ∧
      s.initDefault.fault = some (.unknownLevel "") ∧
      ({ settings := ofEnvironment env.withoutBlanks } : Log.Session).initDefault.fault = none := by
  intro env s
  have hlevel : s.settings.logLevel = "" := by decide +kernel
  have hunknown : Log.levelNumber (.text s.settings.logLevel) = .error (.unknownLevel "") := by
    rw [hlevel]
    exact Log.levelNumber_of_allBlank (by decide)
  refine ⟨by decide +kernel, by decide +kernel, ?_, by decide +kernel⟩
  rw [Log.Session.initDefault_eq rfl]
  exact s.fault_setUp_default_of_unknown hunknown

end Settings

end FluentSql
