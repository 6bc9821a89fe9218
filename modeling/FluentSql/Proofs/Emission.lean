import FluentSql.Proofs.Decisions

/-! What becomes of the records of a logger that has been given a level of its own. Main result: the
root's handlers write a record exactly if its level is at least that of the logger and that of the
setup, so the level of the logger alone decides only if it is not the lower one. -/
namespace FluentSql.Log

namespace Registry

variable {r : Registry} {name other : String} {k : Nat}

/-- The level that the logger of a name has itself, if there is such a logger. -/
def level? (r : Registry) (name : String) : Option Nat := (r.find? name).map Logger.level

theorem level_adopt (name : String) (l : Logger) : (adopt name l).level = l.level := by
  unfold adopt
  split <;> rfl

theorem level?_map {g : Logger → Logger} (hg : ∀ l, (g l).name = l.name)
    (hl : ∀ l, (g l).level = l.level) (r : Registry) (name : String) :
    ({ r with loggers := r.loggers.map g } : Registry).level? name = r.level? name := by
  simp only [level?, find?, find?_map_of_name hg, Option.map_map]
  congr 1
  exact funext hl

/-- A new logger has no level, and those that are there keep theirs. -/
theorem level?_ensure (h : r.level? name = some k) (other : String) :
    (r.ensure other).level? name = some k := by
  unfold ensure
  cases ho : r.find? other with
  | some l => exact h
  | none =>
    have hmap := find?_map_of_name (fun l => (adopt_frame other l).1) r.loggers name
    obtain ⟨l, hl, hk⟩ := Option.map_eq_some_iff.1 h
    rw [find?] at hl
    simp [level?, find?, List.find?_append, hmap, hl, level_adopt, hk]

@[simp] theorem level?_setRootLevel (r : Registry) (n : Nat) (name : String) :
    (r.setRootLevel n).level? name = r.level? name :=
  level?_map (g := fun l => { l with decided := [] }) (fun _ => rfl) (fun _ => rfl) r name

theorem level?_setLevel (r : Registry) (named name : String) (n : Nat) :
    (r.setLevel named n).level? name =
      if name = named then (r.level? name).map fun _ => n else r.level? name := by
  have hg := find?_map_of_name
    (g := fun l => if l.name = named then { l with level := n } else l)
    (fun l => by split <;> rfl) r.forget.loggers name
  rw [← r.level?_setRootLevel n name]
  simp only [level?, setRootLevel, setLevel, find?, hg, Option.map_map]
  cases hf : r.forget.loggers.find? (·.name == name) with
  | none => simp
  | some l =>
    have hl : l.name = name := by simpa using List.find?_some hf
    by_cases hn : name = named <;> simp [hl, hn]

@[simp] theorem level?_ask (r : Registry) (logger? : Option String) (n : Int) (name : String) :
    (r.ask logger? n).2.level? name = r.level? name := by
  cases logger? with
  | none => rfl
  | some other =>
    rw [ask_some]
    cases r.decision? other n with
    | some passes => rfl
    | none => exact level?_map (fun l => by split <;> rfl) (fun l => by split <;> rfl) r name

/-- A logger with a level of its own takes no other. -/
theorem effective_of_level? (h : r.level? name = some k) (hk : k ≠ 0) :
    r.effective (some name) = k := by
  obtain ⟨l, hl, rfl⟩ := Option.map_eq_some_iff.1 h
  simp [effective, effectiveWithin, hl, hk]

/-- A logger has this level itself, and whatever it has decided it has decided by it. -/
structure Overridden (r : Registry) (name : String) (k : Nat) : Prop where
  own : r.level? name = some k
  decided : ∀ n passes, r.decision? name n = some passes →
    passes = decide (0 < n ∧ (k : Int) ≤ n)

namespace Overridden

theorem of_nothing_decided (h : r.level? name = some k) (hd : ∀ n, r.decision? name n = none) :
    r.Overridden name k where
  own := h
  decided n passes hp := by
    rw [hd] at hp
    cases hp

theorem ask_fst (h : r.Overridden name k) (hk : k ≠ 0) (n : Int) :
    (r.ask (some name) n).1 = decide (0 < n ∧ (k : Int) ≤ n) := by
  rw [Registry.ask_fst]
  cases hd : r.decision? name n with
  | some passes => exact h.decided n passes hd
  | none => rw [Option.getD_none, admits, effective_of_level? h.own hk]

theorem ensure (h : r.Overridden name k) (other : String) : (r.ensure other).Overridden name k where
  own := level?_ensure h.own other
  decided n passes hp := h.decided n passes (by rwa [decision?_ensure] at hp)

theorem setLevel (h : r.Overridden name k) (hne : name ≠ other) (n : Nat) :
    (r.setLevel other n).Overridden name k :=
  of_nothing_decided (by rw [level?_setLevel, if_neg hne, h.own]) (by simp)

theorem setRootLevel (h : r.Overridden name k) (n : Nat) : (r.setRootLevel n).Overridden name k :=
  of_nothing_decided (by rw [level?_setRootLevel, h.own]) (by simp)

/-- To ask a logger that is there changes no level, and the one overridden answers by its own. -/
theorem ask (h : r.Overridden name k) (hk : k ≠ 0) {logger? : Option String}
    (hmade : ∀ other ∈ logger?, (r.find? other).isSome) (n : Int) :
    (r.ask logger? n).2.Overridden name k where
  own := by rw [level?_ask, h.own]
  decided m passes hp := by
    cases logger? with
    | none => exact h.decided m passes hp
    | some other =>
      rw [decision?_ask (hmade other rfl)] at hp
      split at hp
      · next hsame =>
        obtain ⟨rfl, rfl⟩ := hsame
        rw [← Option.some.inj hp, h.ask_fst hk]
      · exact h.decided m passes hp

/-- The logger that was given a level has it, and has decided nothing yet. -/
theorem of_setLevel (hmade : (r.find? name).isSome) (k : Nat) :
    (r.setLevel name k).Overridden name k := by
  obtain ⟨l, hl⟩ := Option.isSome_iff_exists.1 hmade
  have hk : (r.setLevel name k).level? name = some k := by
    rw [level?_setLevel, if_pos rfl, level?, hl]
    rfl
  exact of_nothing_decided hk (by simp)

end Overridden

end Registry

/-- Only a text that is not empty names a level. -/
theorem isGiven_of_levelNumber {v : Value} {n : Nat} (h : levelNumber v = .ok n) :
    v.isGiven = true := by
  cases v with
  | text s =>
    by_cases hs : s = ""
    · subst hs
      cases h
    · simpa [Value.isGiven] using hs
  | _ => cases h

theorem loggerName_text {name : String} (hname : name ≠ "") (hroot : name ≠ rootName) :
    loggerName (.text name) = .ok (some name) := by
  simp [loggerName, Value.isGiven, hname, hroot]

theorem Session.overridden_ensure {s : Session} {name : String} {k : Nat}
    (h : s.registry.Overridden name k) (logger? : Option String) :
    (s.ensure logger?).registry.Overridden name k := by
  cases logger? with
  | none => exact h
  | some other => exact h.ensure other

theorem Arrangement.level_of_mem_handlers {a : Arrangement} {h : Handler} (hh : h ∈ a.handlers) :
    h.level = a.level := by
  obtain ⟨level, console?, file?⟩ := a
  cases console? <;> cases file? <;> simp [handlers] at hh
  · rw [hh]
  · rw [hh]
  · rcases hh with rfl | rfl <;> rfl

namespace Visit

variable {v : Visit} {name : String} {k : Nat}

/-- A step asks for no setup and gives no level to a logger. -/
structure Spares (v : Visit) (name : String) : Prop where
  setup : v.setup? = none
  level : v.given?.map Prod.fst ≠ some (some name)

instance (v : Visit) (name : String) : Decidable (v.Spares name) :=
  decidable_of_iff (v.setup? = none ∧ v.given?.map Prod.fst ≠ some (some name))
    ⟨fun ⟨hs, hl⟩ => ⟨hs, hl⟩, fun h => ⟨h.setup, h.level⟩⟩

theorem opens_of_setup? (h : v.setup? = none) : v.Opens := by
  simp [Opens, h]

/-- Only a setup changes the handlers. -/
theorem handlers_of_setup? (h : v.setup? = none) :
    v.outcome.state.handlers = v.before.handlers := by
  cases v.effect (opens_of_setup? h) with
  | setup a disk arranged given logged done files state =>
    rw [arrangement?_of_setup? h] at arranged
    cases arranged
  | level name? level arranged given logged done state => simp [state]
  | log e arranged given logged done state => simp [state]
  | mention name? arranged given logged state => simp [state]

/-- A logger that a step spares keeps its level and what it decides by it. -/
theorem Spares.overridden (h : v.Spares name) (hk : k ≠ 0)
    (ho : v.before.registry.Overridden name k) : v.outcome.state.registry.Overridden name k := by
  have hensure := Session.overridden_ensure (s := v.ready) ho
  cases v.effect (opens_of_setup? h.setup) with
  | setup a disk arranged given logged done files state =>
    rw [arrangement?_of_setup? h.setup] at arranged
    cases arranged
  | level name? level arranged given logged done state =>
    rw [state]
    cases name? with
    | none => exact (hensure none).setRootLevel level
    | some other =>
      have hne : name ≠ other := by
        rintro rfl
        exact h.level (by rw [given]; rfl)
      exact (hensure (some other)).setLevel hne level
  | log e arranged given logged done state =>
    rw [state, Session.registry_emit]
    refine (hensure e.logger?).ask hk (fun other hother => ?_) e.level
    rw [Option.mem_def.1 hother]
    exact v.ready.registry.isSome_find?_ensure other
  | mention name? arranged given logged state =>
    rw [state]
    exact hensure name?

end Visit

namespace Session

variable {s : Session}

/-- What a step keeps under a condition, a run keeps if each of its steps meets the condition. -/
theorem run_keeps {P : Session → Prop} {C : Visit → Prop}
    (next : ∀ v, C v → P v.before → P v.outcome.state) (start : P s) {steps : List Step}
    (h : ∀ v ∈ s.visits steps, C v) : P (s.run steps) := by
  induction steps generalizing s with
  | nil => exact start
  | cons step rest ih =>
    obtain ⟨hstep, hrest⟩ := List.forall_mem_cons.1 h
    exact ih (next ⟨s, step⟩ hstep start) hrest

theorem handlers_run {steps : List Step} (h : ∀ v ∈ s.visits steps, v.setup? = none) :
    (s.run steps).handlers = s.handlers :=
  run_keeps (P := fun t => t.handlers = s.handlers)
    (fun _ hv ht => (Visit.handlers_of_setup? hv).trans ht) rfl h

theorem overridden_run {name : String} {k : Nat} (hk : k ≠ 0) {steps : List Step}
    (hs : s.registry.Overridden name k) (h : ∀ v ∈ s.visits steps, v.Spares name) :
    (s.run steps).registry.Overridden name k :=
  run_keeps (P := fun t => t.registry.Overridden name k) (fun _ hv ht => hv.overridden hk ht) hs h

/-- The handlers that write a record of a logger, or of the root, in their order. -/
def writers (s : Session) (logger? : Option String) (level : Int) : List Handler :=
  if ((s.ensure logger?).registry.ask logger? level).1 then
    s.handlers.filter fun h => h.level ≤ level.toNat
  else []

/-- A handler writes the line of a record where it leads. -/
def write (r : Record) (s : Session) (h : Handler) : Session :=
  match h.file? with
  | none => { s with console := s.console ++ (h.layout.line r ++ "\n") }
  | some place => { s with disk := s.disk.appendTo place (h.layout.line r ++ "\n") }

theorem foldl_deliver (level : Nat) (r : Record) (hs : List Handler) (s : Session) :
    hs.foldl (deliver level r) s = (hs.filter fun h => h.level ≤ level).foldl (write r) s := by
  rw [List.foldl_filter]
  congr
  funext t h
  by_cases hlevel : level < h.level
  · simp [deliver, hlevel, Nat.not_le.2 hlevel]
  · have hle : h.level ≤ level := Nat.le_of_not_lt hlevel
    have hd : deliver level r t h = write r t h := if_neg hlevel
    simp [hd, hle]

/-- To emit a record is to let its writers write, and to remember what the logger has decided. -/
theorem emit_ensure (s : Session) (logger? : Option String) (level : Int) (message : String) :
    ∃ registry, (s.ensure logger?).emit logger? level message =
      (s.writers logger? level).foldl
        (write { logger := logger?.getD rootName, levelName := Level.nameOf level.toNat, message })
        { s with registry } := by
  have hs : ∀ registry, { s.ensure logger? with registry } = { s with registry } :=
    fun _ => by cases logger? <;> rfl
  refine ⟨((s.ensure logger?).registry.ask logger? level).2, ?_⟩
  simp only [emit, writers, hs]
  split
  · rw [foldl_deliver, handlers_ensure]
  · rfl

theorem state_step_log (s : Session) {name : Value} {logger? : Option String}
    (hn : loggerName name = .ok logger?) (level : Int) (message : String) :
    ∃ registry, (s.step (.log name level message)).state =
      (s.writers logger? level).foldl
        (write { logger := logger?.getD rootName, levelName := Level.nameOf level.toNat, message })
        { s with console := "", registry } := by
  have hw : ({ s with console := "" } : Session).writers logger? level =
      s.writers logger? level := by cases logger? <;> rfl
  have he := emit_ensure { s with console := "" } logger? level message
  rw [hw] at he
  simpa only [step, act, log, hn, Outcome.done] using he

/-- To ask for a logger by a level gives it that level. -/
theorem state_step_logger (s : Session) {name level : Value} {logger? : Option String} {k : Nat}
    (hn : loggerName name = .ok logger?) (hk : levelNumber level = .ok k) :
    (s.step (.logger name level)).state =
      (({ s with console := "" } : Session).ensure logger?).setLevel logger? k := by
  simp only [step, act, getLogger, hn, isGiven_of_levelNumber hk, if_true, hk]
  rfl

/-- The handlers that a setup has put in place stand at its level. -/
theorem level_of_setup {setup : Setup} (hf : (s.step (.setup setup)).fault = none) :
    ∃ level, setupLevel s.settings setup = .ok level ∧
      ∀ h ∈ (s.run [.setup setup]).handlers, h.level = level := by
  cases hl : setupLevel s.settings setup with
  | error f =>
    have hr : s.step (.setup setup) = .refused { s with console := "" } f := by
      simp only [step, act, setUp, hl]
    rw [hr] at hf
    cases hf
  | ok level =>
    obtain ⟨a, ha, hlevel⟩ : ∃ a, setup.arrangement? s.settings = some a ∧ a.level = level :=
      ⟨_, by rw [Setup.arrangement?, hl]; rfl, rfl⟩
    obtain ⟨disk, -, hstate⟩ := setUp_done (s := { s with console := "" }) ha hf
    have hh : (s.run [.setup setup]).handlers = a.handlers := congrArg Session.handlers hstate
    refine ⟨level, rfl, fun h hmem => ?_⟩
    rw [hh] at hmem
    rw [Arrangement.level_of_mem_handlers hmem, hlevel]

/-- The writers for a logger with a level of its own. -/
theorem mem_writers_iff {name : String} {k : Nat} (ho : s.registry.Overridden name k) (hk : k ≠ 0)
    {n : Int} {h : Handler} :
    h ∈ s.writers (some name) n ↔
      h ∈ s.handlers ∧ 0 < n ∧ (k : Int) ≤ n ∧ (h.level : Int) ≤ n := by
  have hask : ((s.ensure (some name)).registry.ask (some name) n).1 =
      decide (0 < n ∧ (k : Int) ≤ n) := (ho.ensure name).ask_fst hk n
  rw [writers, hask]
  by_cases hn : 0 < n ∧ (k : Int) ≤ n
  · have hlevel : h.level ≤ n.toNat ↔ (h.level : Int) ≤ n := by omega
    simp [hn, hlevel]
  · simp only [hn, decide_false, Bool.false_eq_true, if_false, List.not_mem_nil, false_iff]
    exact fun ⟨_, hpos, hle, _⟩ => hn ⟨hpos, hle⟩

section Override

variable {setup : Setup} {name : String} {override : Value} {k : Nat} {between later : List Step}

/-- The logger stands with its level, and the handlers are still those of the setup. -/
theorem overridden_after (hn : loggerName (.text name) = .ok (some name))
    (hk : levelNumber override = .ok k) (hset : k ≠ 0)
    (hbetween : ∀ v ∈ (s.run [.setup setup]).visits between, v.setup? = none)
    (hlater : ∀ v ∈ (s.run (.setup setup :: between ++
      [.logger (.text name) override])).visits later, v.Spares name) :
    let t := s.run (.setup setup :: between ++ .logger (.text name) override :: later)
    t.registry.Overridden name k ∧ t.handlers = (s.run [.setup setup]).handlers := by
  intro t
  let u := s.run (.setup setup :: between)
  let w := s.run (.setup setup :: between ++ [.logger (.text name) override])
  have hu : u.handlers = (s.run [.setup setup]).handlers := handlers_run hbetween
  have hw : w = (({ u with console := "" } : Session).ensure (some name)).setLevel (some name) k :=
    (s.run_append _ _).trans (u.state_step_logger hn hk)
  have ht : t = w.run later := by
    rw [← run_append, List.append_assoc]
    rfl
  have how : w.registry.Overridden name k := by
    rw [hw]
    exact .of_setLevel (u.registry.isSome_find?_ensure name) k
  have hwh : w.handlers = u.handlers := by simp [hw]
  rw [ht]
  exact ⟨overridden_run hset how hlater,
    (handlers_run fun v hv => (hlater v hv).setup).trans (hwh.trans hu)⟩

/-- A logger is given a level by name, `k`, at any time after a setup that was carried out, and
neither does another setup follow nor is that logger given another level. Then a handler of the root
writes a record of the logger exactly if the level of the record is at least both `k` and the level
of the setup. That the level of the logger decides alone is true exactly if it is not below the one
of the setup. -/
theorem override_decides_iff (hf : (s.step (.setup setup)).fault = none) (hname : name ≠ "")
    (hroot : name ≠ rootName) (hk : levelNumber override = .ok k) (hset : k ≠ 0)
    (hbetween : ∀ v ∈ (s.run [.setup setup]).visits between, v.setup? = none)
    (hlater : ∀ v ∈ (s.run (.setup setup :: between ++
      [.logger (.text name) override])).visits later, v.Spares name) :
    let t := s.run (.setup setup :: between ++ .logger (.text name) override :: later)
    ∃ level, setupLevel s.settings setup = .ok level ∧
      (∀ n message, ∃ registry, (t.step (.log (.text name) n message)).state =
        (t.writers (some name) n).foldl
          (write { logger := name, levelName := Level.nameOf n.toNat, message })
          { t with console := "", registry }) ∧
      (∀ n h, 0 < n → h ∈ t.handlers →
        (h ∈ t.writers (some name) n ↔ (k : Int) ≤ n ∧ (level : Int) ≤ n)) ∧
      ((∀ n h, 0 < n → h ∈ t.handlers → (h ∈ t.writers (some name) n ↔ (k : Int) ≤ n)) ↔
        t.handlers = [] ∨ level ≤ k) := by
  intro t
  have hn : loggerName (.text name) = .ok (some name) := loggerName_text hname hroot
  obtain ⟨ho, hh⟩ : t.registry.Overridden name k ∧ t.handlers = (s.run [.setup setup]).handlers :=
    overridden_after hn hk hset hbetween hlater
  obtain ⟨level, hlevel, hall⟩ := level_of_setup hf
  have hwriters : ∀ n h, 0 < n → h ∈ t.handlers →
      (h ∈ t.writers (some name) n ↔ (k : Int) ≤ n ∧ (level : Int) ≤ n) := by
    intro n h hpos hmem
    rw [mem_writers_iff ho hset, hall h (hh ▸ hmem)]
    exact ⟨fun hw => hw.2.2, fun hw => ⟨hmem, hpos, hw⟩⟩
  refine ⟨level, hlevel, fun n message => t.state_step_log hn n message, hwriters, ?_, ?_⟩
  · intro hlaw
    cases hhandlers : t.handlers with
    | nil => exact .inl rfl
    | cons h rest =>
      -- A record just at the level of the logger is written by the law.
      have hmem : h ∈ t.handlers := by rw [hhandlers]; exact List.mem_cons_self
      have hpos : 0 < (k : Int) := by omega
      have hw := (hwriters k h hpos hmem).1 ((hlaw k h hpos hmem).2 (Int.le_refl _))
      exact .inr (Int.ofNat_le.1 hw.2)
  · rintro (hnone | hle) n h hpos hmem
    · rw [hnone] at hmem
      cases hmem
    · rw [hwriters n h hpos hmem]
      exact ⟨fun hw => hw.1, fun hw => ⟨hw, by omega⟩⟩

end Override

/-- A console and a file at `WARNING`, and a logger at `ERROR`: its level decides, although the root
logs in between and a logger below it is given another level. -/
theorem override_decides_above_setup :
    let s : Session := { settings := .ofEnvironment [] }
    let setup : Setup :=
      { level := .text "warning", file := .text "a.log", colors := .bool false }
    let between : List Step := [.log .null 30 "one", .initDefault]
    let override : Value := .text "Error"
    let later : List Step := [.logger (.text "db") .null, .logger (.text "db.x") (.text "DEBUG"),
      .log (.text "db") 30 "two"]
    let t := s.run (.setup setup :: between ++ .logger (.text "db") override :: later)
    (s.step (.setup setup)).fault = none ∧ levelNumber override = .ok 40 ∧
    (∀ v ∈ (s.run [.setup setup]).visits between, v.setup? = none) ∧
    (∀ v ∈ (s.run (.setup setup :: between ++
      [.logger (.text "db") override])).visits later, v.Spares "db") ∧
    t.handlers.length = 2 ∧
    ∀ n h, 0 < n → h ∈ t.handlers → (h ∈ t.writers (some "db") n ↔ 40 ≤ n) := by
  intro s setup between override later t
  have hf : (s.step (.setup setup)).fault = none := by decide +kernel
  have hk : levelNumber override = .ok 40 := eq_ok_of_toOption (by decide +kernel)
  have hbetween : ∀ v ∈ (s.run [.setup setup]).visits between, v.setup? = none := by
    decide +kernel
  have hlater : ∀ v ∈ (s.run (.setup setup :: between ++
      [.logger (.text "db") override])).visits later, v.Spares "db" := by decide +kernel
  obtain ⟨level, hlevel, -, -, hlaw⟩ :=
    override_decides_iff hf (by decide) (by decide) hk (by decide) hbetween hlater
  have hwarning : setupLevel s.settings setup = .ok 30 := eq_ok_of_toOption (by decide +kernel)
  obtain rfl : level = 30 := Except.ok.inj (hlevel.symm.trans hwarning)
  exact ⟨hf, hk, hbetween, hlater, by decide +kernel, hlaw.2 (.inr (by decide))⟩

/-- A logger set to `DEBUG` after a setup at `INFO` is not heard: its record has the level of the
logger, and yet no handler writes it. -/
theorem lowered_logger_unheard :
    let s : Session := { settings := .ofEnvironment [] }
    let setup : Step := .setup { level := .text "INFO", colors := .bool false }
    let name : Value := .text "sql.statement_builder"
    let t := s.run [setup, .logger name (.text "DEBUG")]
    (s.step setup).fault = none ∧ t.handlers ≠ [] ∧
      t.answer? (.logger name (.text "DEBUG")) = some ("sql.statement_builder", 10, 10) ∧
      (∀ h ∈ t.handlers, h ∉ t.writers (some "sql.statement_builder") 10) ∧
      (t.step (.log name 10 "Rendered: SELECT 1;")).state.console = "" := by
  decide +kernel

end Session

end FluentSql.Log
