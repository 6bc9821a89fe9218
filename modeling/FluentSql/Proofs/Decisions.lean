import FluentSql.Proofs.Visits
import Mathlib.Data.List.DropRight

/-! What loggers have decided. A decision stands until a level is set anywhere, and it is the one
that was right when the logger was asked first. Main result: whether a record passes its logger is
told by the session in which that logger was first asked about that level. -/
namespace FluentSql.Log

namespace Registry

variable {r : Registry} {name other : String} {level asked : Int}

/-- What keeps the names of all loggers keeps who is found under a name. -/
theorem find?_map_of_name {g : Logger → Logger} (hg : ∀ l, (g l).name = l.name)
    (ls : List Logger) (name : String) :
    (ls.map g).find? (·.name == name) = (ls.find? (·.name == name)).map g := by
  rw [List.find?_map]
  congr 2
  funext l
  simp [hg]

theorem adopt_frame (name : String) (l : Logger) :
    (adopt name l).name = l.name ∧ (adopt name l).decided = l.decided := by
  unfold adopt
  split <;> exact ⟨rfl, rfl⟩

theorem isSome_find?_ensure (r : Registry) (name : String) :
    ((r.ensure name).find? name).isSome := by
  unfold ensure
  cases h : r.find? name with
  | some l => simp [h]
  | none => simp [find?, List.find?_append]

/-- A new logger has decided nothing, and those that it comes between keep what they decided. -/
@[simp] theorem decision?_ensure (r : Registry) (name other : String) (level : Int) :
    (r.ensure name).decision? other level = r.decision? other level := by
  unfold ensure
  cases h : r.find? name with
  | some l => rfl
  | none =>
    have hmap := find?_map_of_name (fun l => (adopt_frame name l).1) r.loggers other
    simp only [decision?, find?, List.find?_append, hmap]
    cases r.loggers.find? (·.name == other) with
    | some l => simp [(adopt_frame name l).2]
    | none => by_cases hn : name = other <;> simp [hn]

@[simp] theorem decision?_setRootLevel (r : Registry) (n : Nat) (name : String) (level : Int) :
    (r.setRootLevel n).decision? name level = none := by
  have h := find?_map_of_name (g := fun l => { l with decided := [] }) (fun _ => rfl) r.loggers name
  simp only [decision?, find?, setRootLevel, forget, h]
  cases r.loggers.find? (·.name == name) <;> rfl

@[simp] theorem decision?_setLevel (r : Registry) (named : String) (n : Nat) (name : String)
    (level : Int) : (r.setLevel named n).decision? name level = none := by
  have h := find?_map_of_name
    (g := fun l => if l.name = named then { l with level := n } else l)
    (fun l => by split <;> rfl) r.forget.loggers name
  have hf := r.decision?_setRootLevel n name level
  simp only [decision?, find?, setRootLevel] at hf
  simp only [decision?, find?, setLevel, h]
  cases hl : r.forget.loggers.find? (·.name == name) with
  | none => rfl
  | some l =>
    rw [hl] at hf
    simp only [Option.map_some, Option.bind_some] at hf ⊢
    split <;> exact hf

theorem decision?_note (passes : Bool) (hn : (r.find? name).isSome) :
    (r.note name asked passes).decision? other level =
      if other = name ∧ level = asked then some passes else r.decision? other level := by
  have h := find?_map_of_name
    (g := fun l => if l.name = name then { l with decided := (asked, passes) :: l.decided } else l)
    (fun l => by split <;> rfl) r.loggers other
  simp only [decision?, find?, note, h] at hn ⊢
  cases ho : r.loggers.find? (·.name == other) with
  | none =>
    have : other ≠ name := by
      rintro rfl
      simp [ho] at hn
    simp [this]
  | some l =>
    have hl : l.name = other := by simpa using List.find?_some ho
    by_cases hname : other = name
    · by_cases hlevel : level = asked
      · simp [hl, hname, hlevel]
      · have : (level == asked) = false := by simpa using hlevel
        simp [hl, hname, hlevel, List.lookup_cons, this]
    · simp [hl, hname]

@[simp] theorem ask_none (r : Registry) (level : Int) :
    r.ask none level = (r.admits none level, r) := rfl

theorem ask_some (r : Registry) (name : String) (level : Int) :
    r.ask (some name) level =
      match r.decision? name level with
      | some passes => (passes, r)
      | none => (r.admits name level, r.note name level (r.admits name level)) := rfl

/-- A logger answers as it did, or else as its level is now. -/
theorem ask_fst (r : Registry) (name : String) (level : Int) :
    (r.ask (some name) level).1 = (r.decision? name level).getD (r.admits (some name) level) := by
  rw [ask_some]
  cases r.decision? name level <;> rfl

/-- A logger remembers what it has answered. -/
theorem decision?_ask (hn : (r.find? name).isSome) :
    (r.ask (some name) asked).2.decision? other level =
      if other = name ∧ level = asked then some (r.ask (some name) asked).1
      else r.decision? other level := by
  rw [ask_fst, ask_some]
  cases hd : r.decision? name asked with
  | none => exact decision?_note _ hn
  | some passes =>
    dsimp only
    split
    · next h => rw [h.1, h.2, hd, Option.getD_some]
    · rfl

theorem admits_none (r : Registry) (level : Int) :
    r.admits none level = decide (0 < level ∧ (r.rootLevel : Int) ≤ level) := rfl

end Registry

namespace Visit

/-- A step sets a level somewhere. -/
def setsLevel (v : Visit) : Bool := v.arrangement?.isSome || v.given?.isSome

/-- A step asks a logger, or the root, whether a level passes. -/
def asks (name? : Option String) (level : Int) (v : Visit) : Bool :=
  v.logged?.any fun e => e.logger? == name? && e.level == level

end Visit

/-- The steps since a level was last set. -/
def sinceLeveled (past : List Visit) : List Visit := past.rtakeWhile (!·.setsLevel)

/-- The session in which a logger was first asked about a level since any level was set. It is the
present one if it has not been asked yet. -/
def firstAsked (past : List Visit) (present : Session) (e : Logged) : Session :=
  (((sinceLeveled past).find? (Visit.asks e.logger? e.level)).map Visit.before).getD present

theorem sinceLeveled_of_setsLevel {past : List Visit} {v : Visit} (h : v.setsLevel = true) :
    sinceLeveled (past ++ [v]) = [] := by
  simp [sinceLeveled, h]

theorem sinceLeveled_of_keeps {past : List Visit} {v : Visit} (h : v.setsLevel = false) :
    sinceLeveled (past ++ [v]) = sinceLeveled past ++ [v] := by
  simp [sinceLeveled, h]

/-- What the loggers have decided is what was right when they were asked first, and the level of the
root has been the same since. -/
structure Session.Remembers (past : List Visit) (s : Session) : Prop where
  decision : ∀ name level, s.registry.decision? name level =
    ((sinceLeveled past).find? (Visit.asks (some name) level)).map fun v =>
      (v.before.ensure (some name)).registry.admits (some name) level
  root : ∀ v ∈ sinceLeveled past, v.before.registry.rootLevel = s.registry.rootLevel

namespace Session

variable {past : List Visit} {s : Session}

/-- Right after a level has been set nothing is decided. -/
theorem remembers_of_setsLevel {v : Visit} (hv : v.setsLevel = true)
    (hs : ∀ name level, s.registry.decision? name level = none) : s.Remembers (past ++ [v]) where
  decision name level := by simp [hs, sinceLeveled_of_setsLevel hv]
  root w hw := by simp [sinceLeveled_of_setsLevel hv] at hw

@[simp] theorem decision?_ensure (s : Session) (name? : Option String) (name : String)
    (level : Int) :
    (s.ensure name?).registry.decision? name level = s.registry.decision? name level := by
  cases name? with
  | none => rfl
  | some other => exact s.registry.decision?_ensure other name level

theorem Remembers.root_concat {v : Visit} (h : v.before.Remembers past)
    (hv : v.setsLevel = false) (hs : s.registry.rootLevel = v.before.registry.rootLevel) :
    ∀ w ∈ sinceLeveled (past ++ [v]), w.before.registry.rootLevel = s.registry.rootLevel := by
  intro w hw
  rw [sinceLeveled_of_keeps hv] at hw
  rcases List.mem_append.1 hw with hw | hw
  · rw [h.root w hw, hs]
  · rw [List.mem_singleton.1 hw, hs]

/-- Whether a record passes its logger was decided when the logger was first asked. -/
theorem Remembers.ask_fst (h : s.Remembers past) (e : Logged) :
    ((s.ensure e.logger?).registry.ask e.logger? e.level).1 =
      ((firstAsked past s e).ensure e.logger?).registry.admits e.logger? e.level := by
  obtain ⟨logger?, level, message⟩ := e
  unfold firstAsked
  cases logger? with
  | none =>
    simp only [ensure, Registry.ask, Registry.admits_none]
    cases hf : (sinceLeveled past).find? (Visit.asks none level) with
    | none => rfl
    | some v =>
      rw [Option.map_some, Option.getD_some, h.root v (List.mem_of_find?_eq_some hf)]
  | some name =>
    rw [Registry.ask_fst, decision?_ensure, h.decision]
    cases (sinceLeveled past).find? (Visit.asks (some name) level) <;> rfl

/-- A logger that is asked about a level keeps the first decision on it. -/
theorem Remembers.log {v : Visit} (h : v.before.Remembers past) {e : Logged}
    (hv : v.setsLevel = false) (hl : v.logged? = some e)
    (hs : s.registry = ((v.before.ensure e.logger?).registry.ask e.logger? e.level).2) :
    s.Remembers (past ++ [v]) where
  decision name level := by
    rw [sinceLeveled_of_keeps hv, List.find?_append, hs]
    obtain ⟨logger?, asked, message⟩ := e
    cases logger? with
    | none =>
      have hasks : Visit.asks (some name) level v = false := by simp [Visit.asks, hl]
      rw [Registry.ask_none, decision?_ensure, h.decision]
      simp [hasks]
    | some other =>
      have hmade : ((v.before.ensure (some other)).registry.find? other).isSome :=
        v.before.registry.isSome_find?_ensure other
      rw [Registry.decision?_ask hmade, Registry.ask_fst, decision?_ensure, decision?_ensure,
        h.decision, h.decision]
      by_cases hsame : name = other ∧ level = asked
      · obtain ⟨rfl, rfl⟩ := hsame
        have hasks : Visit.asks (some name) level v = true := by simp [Visit.asks, hl]
        cases (sinceLeveled past).find? (Visit.asks (some name) level) <;> simp [hasks]
      · have hasks : Visit.asks (some name) level v = false := by
          simp only [Visit.asks, hl, Option.any_some, Bool.and_eq_false_iff, beq_eq_false_iff_ne]
          grind
        simp [hsame, hasks]
  root := h.root_concat hv (by rw [hs, Registry.rootLevel_ask, rootLevel_ensure])

theorem remembers_of_visits {steps : List Step} (hs : s.registry.loggers = [])
    (h : ∀ v ∈ s.visits steps, v.Opens) : (s.run steps).Remembers (s.visits steps) := by
  refine visits_induction (P := fun past s => s.Remembers past) ?_ ?_ steps h
  · exact ⟨fun name level => by simp [Registry.decision?, Registry.find?, hs, sinceLeveled],
      fun v hv => by simp [sinceLeveled] at hv⟩
  · intro past v ho ih
    cases v.effect ho with
    | setup a disk arranged given logged done files state =>
      exact remembers_of_setsLevel (by simp [Visit.setsLevel, arranged]) (by simp [state])
    | level name? level arranged given logged done state =>
      refine remembers_of_setsLevel (by simp [Visit.setsLevel, given]) fun name asked => ?_
      rw [state]
      cases name? <;> simp [setLevel]
    | log e arranged given logged done state =>
      refine ih.log (by simp [Visit.setsLevel, arranged, given]) logged ?_
      rw [state, registry_emit]
      cases e.logger? <;> rfl
    | mention name? arranged given logged state =>
      have hv : v.setsLevel = false := by simp [Visit.setsLevel, arranged, given]
      refine ⟨fun name level => ?_, ih.root_concat hv (by simp [state])⟩
      have hasks : Visit.asks (some name) level v = false := by simp [Visit.asks, logged]
      rw [state, sinceLeveled_of_keeps hv, List.find?_append, decision?_ensure, Visit.registry_ready,
        ih.decision]
      simp [hasks]

end Session

end FluentSql.Log
