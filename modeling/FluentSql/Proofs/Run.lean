import FluentSql.Query.Call

/-! What one call does to each part of a query, and the queries that calls lead to. Every call
either does all it was asked for or leaves the entries of its family alone. -/
namespace FluentSql

/-- What succeeds in two steps succeeds in each. -/
theorem eq_ok_of_bind {ε α β : Type} {x : Except ε α} {f : α → Except ε β} {b : β}
    (h : x >>= f = .ok b) : ∃ a, x = .ok a ∧ f a = .ok b := by
  cases x with
  | error e => cases h
  | ok a => exact ⟨a, rfl, h⟩

theorem eq_ok_of_map {ε α β : Type} {x : Except ε α} {f : α → β} {b : β}
    (h : x.map f = .ok b) : ∃ a, x = .ok a ∧ f a = b := by
  cases x with
  | error e => cases h
  | ok a => exact ⟨a, rfl, Except.ok.inj h⟩

theorem eq_ok_of_toOption {α : Type} {x : Except Fault α} {a : α} (h : x.toOption = some a) :
    x = .ok a := by
  cases x with
  | error e => cases h
  | ok b => exact congrArg Except.ok (Option.some.inj h)

theorem Value.isArgument_of_requireKey {v : Value} {f : Fault} (h : v.requireKey = .error f) :
    f.isArgument = false := by
  unfold requireKey at h
  split at h
  · rw [← Except.error.inj h]
    rfl
  · cases h

theorem Family.add_cases {β : Type} (f : Family β) (k : Value) (b : β) :
    f.add k b = .done (f.put k b) ∨ ∃ e, f.add k b = .refused f e ∧ e.isArgument = false := by
  unfold add
  cases hk : k.requireKey with
  | ok u => exact .inl rfl
  | error e => exact .inr ⟨e, rfl, Value.isArgument_of_requireKey hk⟩

/-- A join keeps the kind in force unless it names another one. It takes the kind before the table
is found to be no key. -/
theorem Joins.add_cases (j : Joins) (table condition : Value) (kind : JoinKind.Source) :
    (∃ kind', j.kind.orKeep kind = .ok kind' ∧
      j.add table condition kind =
        .done { toFamily := j.toFamily.put table condition, kind := kind' }) ∨
    ∃ kind' e, j.add table condition kind = .refused { j with kind := kind' } e ∧
      (e.isArgument = true → kind' = j.kind) := by
  unfold add
  split
  · exact .inr ⟨j.kind, _, rfl, fun _ => rfl⟩
  · cases hk : j.kind.orKeep kind with
    | error e => exact .inr ⟨j.kind, e, rfl, fun _ => rfl⟩
    | ok kind' =>
      rcases j.toFamily.add_cases table condition with h | ⟨e, h, he⟩
      · exact .inl ⟨kind', rfl, by simp only [h]; rfl⟩
      · exact .inr ⟨kind', e, by simp only [h]; rfl, by simp [he]⟩

namespace Comparisons

def operatorOr (operator : Value) : Value := if operator.isGiven then operator else equals

theorem add_cases (c : Comparisons) (column value operator : Value) :
    (c.add column value operator =
      .done { c with toFamily := c.put column value (operatorOr operator) }) ∨
    ∃ e, c.add column value operator = .refused c e := by
  unfold add
  split
  · exact .inr ⟨_, rfl⟩
  · cases column.requireKey with
    | ok u => exact .inl rfl
    | error e => exact .inr ⟨e, rfl⟩

/-- The connective is taken before the conditions are found to be no map. -/
theorem addAll_cases (c : Comparisons) (connective : Connective) (conditions : Value) :
    (∃ entries, conditions = .map entries ∧
      c.addAll connective conditions = .done (entries.foldl putEqual { c with connective })) ∨
    ∃ connective' e, c.addAll connective conditions =
        .refused { c with connective := connective' } e ∧
      (e.isArgument = true → connective' = c.connective) := by
  unfold addAll
  cases conditions.elements with
  | error e => exact .inr ⟨c.connective, e, rfl, fun _ => rfl⟩
  | ok columns =>
    by_cases hc : columns.any (!·.isGiven)
    · exact .inr ⟨c.connective, .missingColumn .comparison, by simp only [hc]; rfl, fun _ => rfl⟩
    · simp only [hc]
      cases conditions with
      | map entries => exact .inl ⟨entries, rfl, rfl⟩
      | _ => exact .inr ⟨connective, _, rfl, nofun⟩

end Comparisons

/-- The way of linking is taken before the column is found to be no key. -/
theorem Patterns.add_cases (p : Patterns) (column pattern anyOf : Value) :
    (p.add column pattern anyOf =
      .done { p.linked anyOf with toFamily := p.toFamily.put column pattern }) ∨
    ∃ anyOf' e, p.add column pattern anyOf = .refused { p with anyOf := anyOf' } e ∧
      (e.isArgument = true → anyOf' = p.anyOf) := by
  unfold add
  split
  · exact .inr ⟨p.anyOf, _, rfl, fun _ => rfl⟩
  · rcases p.toFamily.add_cases column pattern with h | ⟨e, h, he⟩
    · exact .inl (by simp only [h]; rfl)
    · exact .inr ⟨(p.linked anyOf).anyOf, e, by simp only [h]; rfl, by simp [he]⟩

theorem Value.elements_eq_ok {v : Value} {items : List Value} (h : v.elements = .ok items) :
    v.elements? = some items := by
  unfold elements at h
  split at h
  · next hi => rw [hi, Except.ok.inj h]
  · cases h

/-- What is given and has elements has at least one. -/
theorem Value.ne_nil_of_isGiven {v : Value} {items : List Value} (h : v.isGiven = true)
    (hi : v.elements? = some items) : items ≠ [] := by
  rintro rfl
  cases v <;> simp_all [isGiven, elements?]

/-- Only what has elements can be a list of candidates, and it needs at least one. -/
theorem Inclusion.checked_eq_ok {column candidates : Value} {items : List Value}
    (h : checked column candidates = .ok items) :
    candidates.elements? = some items ∧ items ≠ [] := by
  have hc : candidates.isGiven = true ∧ candidates.elements = .ok items := by
    unfold checked at h
    split at h
    · cases h
    · cases h
    · split at h
      · next hg => exact ⟨hg, h⟩
      · cases h
  have hi := Value.elements_eq_ok hc.2
  exact ⟨hi, Value.ne_nil_of_isGiven hc.1 hi⟩

theorem Inclusion.add_cases (f : Family (List Value)) (column candidates : Value) :
    (∃ items, candidates.elements? = some items ∧ items ≠ [] ∧
      add f column candidates = .done (f.put column items)) ∨
    ∃ e, add f column candidates = .refused f e := by
  unfold add
  split
  · exact .inr ⟨_, rfl⟩
  · cases hc : checked column candidates with
    | error e => exact .inr ⟨e, rfl⟩
    | ok items =>
      obtain ⟨hi, hn⟩ := checked_eq_ok hc
      rcases f.add_cases column items with h | ⟨e, h, -⟩
      · exact .inl ⟨items, hi, hn, h⟩
      · exact .inr ⟨e, h⟩

theorem Range.bound_eq_ok {i : Nat} {v b : Value} (h : bound i v = .ok b) : v.at? i = some b := by
  unfold bound at h
  split at h
  · next hb => rw [hb, Except.ok.inj h]
  · cases h

/-- Bounds are the two elements of something of length two. -/
theorem Range.checked_eq_ok {column bounds low high : Value}
    (h : checked column bounds = .ok (low, high)) :
    bounds.length = .ok 2 ∧ bounds.at? 0 = some low ∧ bounds.at? 1 = some high := by
  unfold checked at h
  split at h
  · cases h
  · cases h
  · obtain ⟨n, hl, h⟩ := eq_ok_of_bind h
    split at h
    · cases h
    · next hn =>
      obtain ⟨b0, h0, h⟩ := eq_ok_of_bind h
      obtain ⟨b1, h1, h⟩ := eq_ok_of_bind h
      obtain ⟨rfl, rfl⟩ := Prod.mk.inj (Except.ok.inj h)
      have hn : n = 2 := by simpa using hn
      exact ⟨hn ▸ hl, bound_eq_ok h0, bound_eq_ok h1⟩

theorem Range.add_cases (f : Family (Value × Value)) (column bounds : Value) :
    (∃ low high, bounds.length = .ok 2 ∧ bounds.at? 0 = some low ∧ bounds.at? 1 = some high ∧
      add f column bounds = .done (f.put column (low, high))) ∨
    ∃ e, add f column bounds = .refused f e := by
  unfold add
  split
  · exact .inr ⟨_, rfl⟩
  · cases hc : checked column bounds with
    | error e => exact .inr ⟨e, rfl⟩
    | ok pair =>
      obtain ⟨hl, h0, h1⟩ := checked_eq_ok hc
      rcases f.add_cases column pair with h | ⟨e, h, -⟩
      · exact .inl ⟨pair.1, pair.2, hl, h0, h1, h⟩
      · exact .inr ⟨e, h⟩

namespace Query

/-- A selection gets camel case aliases as it asks for itself, or else as the options do. -/
def aliased (o : Options) : Value → Bool
  | .null => o.camelCase
  | flag => flag.isGiven

theorem projectionOf_eq (o : Options) (columns : Columns.Source) (flag : Value) :
    projectionOf o columns flag = (do
      let c ← Columns.ofSource columns
      if aliased o flag then (← c.aliased).clause else c.clause) := by
  cases flag <;> rfl

/-- The calls of a list that are not refused, each made on what the ones before it left. -/
def accepted (q : Query) : List Change → List Change
  | [] => []
  | c :: rest =>
    let later := (q.apply c).state.accepted rest
    if (q.apply c).fault.isNone then c :: later else later

theorem mem_accepted_cons {q : Query} {c d : Change} {rest : List Change} :
    d ∈ q.accepted (c :: rest) ↔
      ((q.apply c).fault = none ∧ d = c) ∨ d ∈ (q.apply c).state.accepted rest := by
  cases hf : (q.apply c).fault <;> simp [accepted, hf]

theorem accepted_sublist (q : Query) (calls : List Change) :
    List.Sublist (q.accepted calls) calls := by
  induction calls generalizing q with
  | nil => exact List.Sublist.refl []
  | cons c rest ih =>
    unfold accepted
    dsimp only
    split
    · exact (ih _).cons_cons c
    · exact (ih _).cons c

theorem accepted_eq_of_length {q : Query} {calls : List Change}
    (h : (q.accepted calls).length = calls.length) : q.accepted calls = calls :=
  (q.accepted_sublist calls).eq_of_length h

/-- If all calls are accepted, then so is the first one, and so are the others after it. -/
theorem accepted_cons_eq {q : Query} {c : Change} {rest : List Change}
    (h : q.accepted (c :: rest) = c :: rest) :
    (q.apply c).fault = none ∧ (q.apply c).state.accepted rest = rest := by
  have hl := ((q.apply c).state.accepted_sublist rest).length_le
  cases hf : (q.apply c).fault with
  | none => exact ⟨rfl, by simpa [accepted, hf] using h⟩
  | some f =>
    have hr : (q.apply c).state.accepted rest = c :: rest := by simpa [accepted, hf] using h
    rw [hr, List.length_cons] at hl
    omega

/-! What an accepted call leaves. -/
section Accepted

variable {q : Query} {column value operator pattern anyOf candidates bounds : Value}

theorem state_join {table condition : Value} {kind : JoinKind.Source}
    (h : (q.apply (.join table condition kind)).fault = none) :
    ∃ kind', q.joins.kind.orKeep kind = .ok kind' ∧
      (q.apply (.join table condition kind)).state =
        { q with joins :=
            { toFamily := q.joins.toFamily.put table condition, kind := kind' } } := by
  simp only [apply] at h ⊢
  rcases q.joins.add_cases table condition kind with ⟨kind', hk, ha⟩ | ⟨kind', e, ha, -⟩ <;>
    rw [ha] at h ⊢
  · exact ⟨kind', hk, rfl⟩
  · cases h

theorem state_compare (h : (q.apply (.compare column value operator)).fault = none) :
    (q.apply (.compare column value operator)).state =
      { q with comparisons := { q.comparisons with
          toFamily := q.comparisons.put column value (Comparisons.operatorOr operator) } } := by
  simp only [apply] at h ⊢
  rcases q.comparisons.add_cases column value operator with ha | ⟨e, ha⟩ <;> rw [ha] at h ⊢
  · rfl
  · cases h

theorem state_compareAll {connective : Connective} {conditions : Value}
    (h : (q.apply (.compareAll connective conditions)).fault = none) :
    ∃ entries, conditions = .map entries ∧
      (q.apply (.compareAll connective conditions)).state =
        { q with comparisons :=
            entries.foldl Comparisons.putEqual { q.comparisons with connective } } := by
  simp only [apply] at h ⊢
  rcases q.comparisons.addAll_cases connective conditions with
    ⟨entries, hm, ha⟩ | ⟨connective', e, ha, -⟩ <;> rw [ha] at h ⊢
  · exact ⟨entries, hm, rfl⟩
  · cases h

theorem state_like (h : (q.apply (.like column pattern anyOf)).fault = none) :
    (q.apply (.like column pattern anyOf)).state =
      { q with patterns := { q.patterns.linked anyOf with
          toFamily := q.patterns.toFamily.put column pattern } } := by
  simp only [apply] at h ⊢
  rcases q.patterns.add_cases column pattern anyOf with ha | ⟨anyOf', e, ha, -⟩ <;> rw [ha] at h ⊢
  · rfl
  · cases h

theorem state_member (h : (q.apply (.member column candidates)).fault = none) :
    ∃ items, candidates.elements? = some items ∧ items ≠ [] ∧
      (q.apply (.member column candidates)).state =
        { q with inclusions := q.inclusions.put column items } := by
  simp only [apply] at h ⊢
  rcases Inclusion.add_cases q.inclusions column candidates with ⟨items, hi, hn, ha⟩ | ⟨e, ha⟩ <;>
    rw [ha] at h ⊢
  · exact ⟨items, hi, hn, rfl⟩
  · cases h

theorem state_between (h : (q.apply (.between column bounds)).fault = none) :
    ∃ low high, bounds.at? 0 = some low ∧ bounds.at? 1 = some high ∧
      (q.apply (.between column bounds)).state =
        { q with ranges := q.ranges.put column (low, high) } := by
  simp only [apply] at h ⊢
  rcases Range.add_cases q.ranges column bounds with ⟨low, high, -, h0, h1, ha⟩ | ⟨e, ha⟩ <;>
    rw [ha] at h ⊢
  · exact ⟨low, high, h0, h1, rfl⟩
  · cases h

end Accepted

/-- The queries that calls lead to from a new one. -/
def Reachable (q : Query) : Prop :=
  ∃ source q₀ changes, new source = .ok q₀ ∧ q = q₀.applyAll changes

/-- A new query has nothing but its options. -/
theorem new_eq_ok {source : Options.Source} {q : Query} (h : new source = .ok q) :
    q = { options := q.options } := by
  unfold new at h
  simp only [apply, Outcome.fault_map, Outcome.state_map] at h
  split at h
  · rw [← Except.ok.inj h]
  · cases h

@[simp] theorem applyAll_nil (q : Query) : q.applyAll [] = q := rfl

@[simp] theorem applyAll_cons (q : Query) (c : Change) (rest : List Change) :
    q.applyAll (c :: rest) = (q.apply c).state.applyAll rest := rfl

/-- The query that calls of any kind leave behind. -/
def after (q : Query) : List Call → Query
  | [] => q
  | c :: rest => (q.call c).1.after rest

/-- The calls with what each of them answers and logs. -/
def answers (q : Query) : List Call → List (Call × Call.Response)
  | [] => []
  | c :: rest => (c, (q.call c).2) :: (q.call c).1.answers rest

/-- What every call keeps, every run keeps. -/
theorem applyAll_induction {P : Query → Prop} (step : ∀ q c, P q → P (q.apply c).state)
    {q : Query} (h : P q) (changes : List Change) : P (q.applyAll changes) := by
  induction changes generalizing q with
  | nil => exact h
  | cons c rest ih => exact ih (step q c h)

end Query

end FluentSql
