import FluentSql.Proofs.Visits

/-! How the root stands along a session. Main result: its handlers and its level are those of the
last setup, but for the level that a caller has given to the root itself. -/
namespace FluentSql.Log

/-- What the last setup that has been carried out has put in place. -/
def lastArrangement? (vs : List Visit) : Option Arrangement :=
  (vs.filterMap Visit.arrangement?).getLast?

theorem lastArrangement?_concat (vs : List Visit) (v : Visit) :
    lastArrangement? (vs ++ [v]) = v.arrangement?.or (lastArrangement? vs) := by
  cases h : v.arrangement? <;> simp [lastArrangement?, List.filterMap_append, h]

/-- The handlers of the root are those of the last setup, if there has been one. -/
theorem handlers_of_visits {s : Session} (hs : s.handlers = []) {steps : List Step}
    (h : ∀ v ∈ s.visits steps, v.Opens) :
    (s.run steps).handlers =
      ((lastArrangement? (s.visits steps)).map Arrangement.handlers).getD [] := by
  refine Session.visits_induction
    (P := fun vs s => s.handlers = ((lastArrangement? vs).map Arrangement.handlers).getD [])
    hs ?_ steps h
  intro past v ho ih
  rw [lastArrangement?_concat]
  cases v.effect ho with
  | setup a disk arranged given logged done files state =>
    rw [state, arranged]
    rfl
  | level name? level arranged given logged done state =>
    rw [state, arranged]
    simpa using ih
  | log e arranged given logged done state =>
    rw [state, arranged]
    simpa using ih
  | mention name? arranged given logged state =>
    rw [state, arranged]
    simpa using ih

/-- The level that a step gives to the root, if it gives it one. -/
def Visit.rootLevel? (v : Visit) : Option Nat :=
  (v.arrangement?.map Arrangement.level).or
    (v.given?.bind fun (name?, level) => if name?.isNone then some level else none)

/-- The level of the root is the one given last. -/
theorem rootLevel_of_visits {s : Session} {steps : List Step}
    (h : ∀ v ∈ s.visits steps, v.Opens) :
    (s.run steps).registry.rootLevel =
      (((s.visits steps).filterMap Visit.rootLevel?).getLast?).getD s.registry.rootLevel := by
  refine Session.visits_induction
    (P := fun vs t => t.registry.rootLevel =
      ((vs.filterMap Visit.rootLevel?).getLast?).getD s.registry.rootLevel) rfl ?_ steps h
  intro past v ho ih
  cases v.effect ho with
  | setup a disk arranged given logged done files state =>
    simp [state, List.filterMap_append, Visit.rootLevel?, arranged, Registry.setRootLevel]
  | level name? level arranged given logged done state =>
    cases name? with
    | none =>
      simp [state, List.filterMap_append, Visit.rootLevel?, arranged, given, Session.setLevel,
        Registry.setRootLevel]
    | some name =>
      simp only [state, Session.setLevel, Registry.setLevel, Registry.forget,
        Session.rootLevel_ensure]
      simpa [List.filterMap_append, Visit.rootLevel?, arranged, given] using ih
  | log e arranged given logged done state =>
    simpa [state, List.filterMap_append, Visit.rootLevel?, arranged, given] using ih
  | mention name? arranged given logged state =>
    simpa [state, List.filterMap_append, Visit.rootLevel?, arranged, given] using ih

/-- A step gives the root a level under its own name or under none. -/
def Visit.LevelsRoot (v : Visit) : Prop :=
  ∃ name level, v.step = .logger name level ∧ level.isGiven ∧ v.outcome.fault = none ∧
    (name.isGiven = false ∨ name = .text rootName)

theorem eq_root_of_loggerName {name : Value} (h : loggerName name = .ok none) :
    name.isGiven = false ∨ name = .text rootName := by
  unfold loggerName at h
  split at h
  · next hn => exact .inl (by simpa using hn)
  · split at h
    · split at h
      · next hr => exact .inr (by rw [hr])
      · cases h
    · cases h

theorem Visit.levelsRoot_of_given? {v : Visit} {level : Nat} (ho : v.Opens)
    (h : v.given? = some (none, level)) : v.LevelsRoot := by
  have hf : v.outcome.fault = none := by
    cases v.effect ho with
    | level name? n arranged given logged done state => exact done
    | setup a disk arranged given logged done files state => exact done
    | log e arranged given logged done state => exact done
    | mention name? arranged given logged state =>
      rw [given] at h
      cases h
  unfold given? at h
  split at h
  · next name asked hstep =>
    split at h
    · next hg =>
      obtain ⟨name?, hn, h⟩ := Option.bind_eq_some_iff.1 h
      obtain ⟨n, -, h⟩ := Option.map_eq_some_iff.1 h
      obtain ⟨rfl, -⟩ := Prod.mk.inj h
      exact ⟨name, asked, hstep, hg, hf, eq_root_of_loggerName (eq_ok_of_toOption hn)⟩
    · cases h
  all_goals cases h

/-- Nobody has given the root another level since. -/
theorem rootLevel_of_last {s : Session} {steps : List Step} {past later : List Visit} {v : Visit}
    {a : Arrangement} (h : ∀ w ∈ s.visits steps, w.Opens)
    (hv : s.visits steps = past ++ v :: later) (ha : v.arrangement? = some a)
    (hn : ∀ w ∈ later, w.arrangement? = none) (hr : ∀ w ∈ later, ¬w.LevelsRoot) :
    (s.run steps).registry.rootLevel = a.level := by
  have hlater : later.filterMap Visit.rootLevel? = [] := by
    refine List.filterMap_eq_nil_iff.2 fun w hw => ?_
    have ho : w.Opens := h w (by rw [hv]; simp [hw])
    cases hg : w.given? with
    | none => simp [Visit.rootLevel?, hn w hw, hg]
    | some given =>
      obtain ⟨name?, level⟩ := given
      cases name? with
      | none => exact absurd (Visit.levelsRoot_of_given? ho hg) (hr w hw)
      | some name => simp [Visit.rootLevel?, hn w hw, hg]
  have hrv : v.rootLevel? = some a.level := by simp [Visit.rootLevel?, ha]
  rw [rootLevel_of_visits h, hv, List.filterMap_append, List.filterMap_cons_some hrv, hlater]
  simp

/-- A refused step has at most made a logger. -/
theorem Visit.kept_of_fault {v : Visit} (ho : v.Opens) (hf : v.outcome.fault ≠ none) :
    v.outcome.state.registry.rootLevel = v.before.registry.rootLevel ∧
      v.outcome.state.handlers = v.before.handlers ∧ v.outcome.state.disk = v.before.disk := by
  cases v.effect ho with
  | setup a disk arranged given logged done files state => exact absurd done hf
  | level name? level arranged given logged done state => exact absurd done hf
  | log e arranged given logged done state => exact absurd done hf
  | mention name? arranged given logged state => simp [state]

theorem Visit.initDefault_done {v : Visit} (hs : v.step = .initDefault)
    (hh : v.before.handlers ≠ []) : v.outcome = .done v.ready := by
  have he : v.before.handlers.isEmpty = false := by simpa using hh
  simp [outcome, hs, Session.step, Session.act, Session.initDefault, ready, he]

/-- The root has the handlers of the last setup that was carried out: at most a console and then at
most a file, both at the level of that setup. That is the level of the root too, unless the root has
been given another one since. A refused step changes neither level nor handlers nor files, and the
default setup changes nothing where a handler stands. -/
theorem Session.arranged_by_last_setup (settings : Settings) (steps : List Step)
    (h : ∀ v ∈ ({ settings } : Session).visits steps, v.Opens) :
    let vs := ({ settings } : Session).visits steps
    let s := ({ settings } : Session).run steps
    s.handlers = ((lastArrangement? vs).map Arrangement.handlers).getD [] ∧
      (∀ past v later a, vs = past ++ v :: later → v.arrangement? = some a →
        (∀ w ∈ later, w.arrangement? = none) → (∀ w ∈ later, ¬w.LevelsRoot) →
          s.registry.rootLevel = a.level) ∧
      (∀ v ∈ vs, v.outcome.fault ≠ none →
        v.outcome.state.registry.rootLevel = v.before.registry.rootLevel ∧
          v.outcome.state.handlers = v.before.handlers ∧
          v.outcome.state.disk = v.before.disk) ∧
      ∀ v ∈ vs, v.step = .initDefault → v.before.handlers ≠ [] →
        v.outcome = .done { v.before with console := "" } :=
  ⟨handlers_of_visits rfl h,
    fun _ _ _ _ hv ha hn hr => rootLevel_of_last h hv ha hn hr,
    fun v hv hf => Visit.kept_of_fault (h v hv) hf,
    fun _ _ hs hh => Visit.initDefault_done hs hh⟩

/-- The second setup is refused for its level, and the default ones come too late. -/
theorem Session.arranged_after_refusal :
    let steps : List Step :=
      [.setup { level := .text "INFO", file := .text "a.log" }, .setup { level := .text "LOUD" },
        .initDefault, .setup { level := .text "error", file := .text "b.log", colors := .null },
        .logger (.text "db") (.text "DEBUG"), .initDefault]
    let s : Session := { settings := .ofEnvironment [] }
    (∀ v ∈ s.visits steps, v.Opens) ∧
      (s.run steps).handlers =
        [{ file? := none, level := 40, layout := .plain },
          { file? := some { parts := ["logs", "b.log"] }, level := 40, layout := .plain }] ∧
      (s.run steps).registry.rootLevel = 40 ∧
      ∃ v ∈ s.visits steps, v.outcome.fault ≠ none ∧
        v.outcome.state.handlers = v.before.handlers := by
  intro steps s
  have h : ∀ v ∈ s.visits steps, v.Opens := by decide +kernel
  have hlen : (s.visits steps).length = 6 := s.length_visits steps
  obtain ⟨hhandlers, hlevel, hkept, -⟩ := arranged_by_last_setup (.ofEnvironment []) steps h
  refine ⟨h, hhandlers.trans (by decide +kernel), ?_, ?_⟩
  · have hsplit : s.visits steps =
        (s.visits steps).take 3 ++ (s.visits steps)[3] :: (s.visits steps).drop 4 := by
      rw [List.getElem_cons_drop, List.take_append_drop]
    have harranged : (s.visits steps)[3].arrangement? = some
        { level := 40, console? := some .plain, file? := some { parts := ["logs", "b.log"] } } := by
      decide +kernel
    have hlast : ∀ w ∈ (s.visits steps).drop 4, w.arrangement? = none := by decide +kernel
    -- Of the later steps only one gives a level, and not to the root.
    have hroot : ∀ w ∈ (s.visits steps).drop 4, ¬w.LevelsRoot := by
      rintro w hw ⟨name, level, hstep, -, -, hroot⟩
      have hmem : w.step ∈ steps.drop 4 := by
        rw [← s.map_step_visits steps, ← List.map_drop]
        exact List.mem_map_of_mem hw
      rw [hstep] at hmem
      obtain ⟨rfl, -⟩ : name = .text "db" ∧ level = .text "DEBUG" := by simpa [steps] using hmem
      rcases hroot with hroot | hroot <;> simp [Value.isGiven, rootName] at hroot
    rw [hlevel _ _ _ _ hsplit harranged hlast hroot]
  · have hmem : (s.visits steps)[1] ∈ s.visits steps := List.getElem_mem _
    have hfault : (s.visits steps)[1].outcome.fault ≠ none := by decide +kernel
    exact ⟨_, hmem, hfault, (hkept _ hmem hfault).2.1⟩

/-- Nothing names the root as well: here its level is no longer that of the setup, although no step
names a logger with the empty name or the name of the root. -/
theorem Session.root_leveled_without_name :
    let steps : List Step := [.setup { level := .text "INFO" }, .logger .null (.text "DEBUG")]
    let s : Session := { settings := .ofEnvironment [] }
    (∀ v ∈ s.visits steps, v.Opens) ∧
      (∀ step ∈ steps, ∀ level,
        step ≠ .logger (.text "") level ∧ step ≠ .logger (.text rootName) level) ∧
      (lastArrangement? (s.visits steps)).map Arrangement.level = some 20 ∧
      (s.run steps).registry.rootLevel = 10 := by
  refine ⟨by decide +kernel, ?_, by decide +kernel, by decide +kernel⟩
  simp

end FluentSql.Log
