import FluentSql.Proofs.Run

/-! The activity of each family agrees with its entries, in every query that calls lead to. -/
namespace FluentSql

/-- A family is active exactly when it has entries. -/
def Family.Coherent {β : Type} (f : Family β) : Prop := f.active = true ↔ f.entries ≠ []

theorem Family.put_coherent {β : Type} (f : Family β) (k : Value) (b : β) :
    (f.put k b).Coherent := by
  simp [Coherent, put]

theorem Family.Coherent.active_eq {β : Type} {f : Family β} (h : f.Coherent) :
    f.active = !f.entries.isEmpty := by
  unfold Coherent at h
  cases he : f.entries <;> cases ha : f.active <;> simp_all

theorem Joins.coherent_add {j : Joins} (h : j.toFamily.Coherent) (table condition : Value)
    (kind : JoinKind.Source) : (j.add table condition kind).state.toFamily.Coherent := by
  rcases j.add_cases table condition kind with ⟨kind', -, h'⟩ | ⟨kind', e, h', -⟩ <;> rw [h']
  · exact j.toFamily.put_coherent table condition
  · exact h

namespace Comparisons

theorem coherent_add {c : Comparisons} (h : c.toFamily.Coherent) (column value operator : Value) :
    (c.add column value operator).state.toFamily.Coherent := by
  rcases c.add_cases column value operator with h' | ⟨e, h'⟩ <;> rw [h']
  · exact c.toFamily.put_coherent _ _
  · exact h

theorem coherent_foldl_putEqual {c : Comparisons} (h : c.toFamily.Coherent)
    (entries : List (Value × Value)) : (entries.foldl putEqual c).toFamily.Coherent := by
  induction entries generalizing c with
  | nil => exact h
  | cons e rest ih => exact ih (c.toFamily.put_coherent _ _)

/-- No entry at all changes the connective but leaves an inactive family inactive. -/
theorem coherent_addAll {c : Comparisons} (h : c.toFamily.Coherent) (connective : Connective)
    (conditions : Value) : (c.addAll connective conditions).state.toFamily.Coherent := by
  rcases c.addAll_cases connective conditions with
    ⟨entries, -, h'⟩ | ⟨connective', e, h', -⟩ <;> rw [h']
  · exact coherent_foldl_putEqual (c := { c with connective }) h entries
  · exact h

end Comparisons

theorem Patterns.coherent_add {p : Patterns} (h : p.toFamily.Coherent)
    (column pattern anyOf : Value) : (p.add column pattern anyOf).state.toFamily.Coherent := by
  rcases p.add_cases column pattern anyOf with h' | ⟨anyOf', e, h', -⟩ <;> rw [h']
  · exact p.toFamily.put_coherent column pattern
  · exact h

namespace Inclusion

theorem coherent_add {f : Family (List Value)} (h : f.Coherent) (column candidates : Value) :
    (add f column candidates).state.Coherent := by
  rcases add_cases f column candidates with ⟨items, -, -, h'⟩ | ⟨e, h'⟩ <;> rw [h']
  · exact f.put_coherent column items
  · exact h

/-- Every column that is tested has a candidate. -/
def Inhabited (f : Family (List Value)) : Prop := ∀ e ∈ f.entries, e.2 ≠ []

theorem inhabited_add {f : Family (List Value)} (h : Inhabited f) (column candidates : Value) :
    Inhabited (add f column candidates).state := by
  rcases add_cases f column candidates with ⟨items, -, hn, h'⟩ | ⟨e, h'⟩ <;> rw [h']
  · intro e he
    rcases Keyed.eq_of_mem_put he with he | he
    · exact h e he
    · exact he ▸ hn
  · exact h

end Inclusion

theorem Range.coherent_add {f : Family (Value × Value)} (h : f.Coherent) (column bounds : Value) :
    (add f column bounds).state.Coherent := by
  rcases add_cases f column bounds with ⟨low, high, -, -, -, h'⟩ | ⟨e, h'⟩ <;> rw [h']
  · exact f.put_coherent column (low, high)
  · exact h

theorem Columns.clause_eq_ok {c : Columns} {s : String} (h : c.clause = .ok s) :
    ∃ body, s = "SELECT " ++ body := by
  obtain ⟨body, -, hs⟩ := eq_ok_of_map h
  exact ⟨body, hs.symm⟩

namespace Query

structure Coherent (q : Query) : Prop where
  joins : q.joins.toFamily.Coherent
  comparisons : q.comparisons.toFamily.Coherent
  inclusions : q.inclusions.Coherent
  patterns : q.patterns.toFamily.Coherent
  ranges : q.ranges.Coherent
  candidates : Inclusion.Inhabited q.inclusions

theorem coherent_of_options (options : Options) : ({ options } : Query).Coherent := by
  constructor <;> simp [Family.Coherent, Inclusion.Inhabited]

theorem Coherent.apply {q : Query} (h : q.Coherent) (c : Change) : (q.apply c).state.Coherent := by
  cases c with
  | join table condition kind => exact { h with joins := Joins.coherent_add h.joins _ _ _ }
  | compare column value operator =>
    exact { h with comparisons := Comparisons.coherent_add h.comparisons _ _ _ }
  | compareAll connective conditions =>
    exact { h with comparisons := Comparisons.coherent_addAll h.comparisons _ _ }
  | like column pattern anyOf =>
    exact { h with patterns := Patterns.coherent_add h.patterns _ _ _ }
  | member column candidates =>
    exact { h with
      inclusions := Inclusion.coherent_add h.inclusions _ _
      candidates := Inclusion.inhabited_add h.candidates _ _ }
  | between column bounds => exact { h with ranges := Range.coherent_add h.ranges _ _ }
  | _ => exact { h with }

theorem Reachable.coherent {q : Query} (h : q.Reachable) : q.Coherent := by
  obtain ⟨source, q₀, changes, h₀, rfl⟩ := h
  apply applyAll_induction (P := Coherent) fun _ c h => h.apply c
  rw [new_eq_ok h₀]
  exact coherent_of_options q₀.options

/-- A chosen projection is a clause of its own, and nothing is written before one is chosen. -/
def Projected (q : Query) : Prop := q.projection = "" ∨ ∃ body, q.projection = "SELECT " ++ body

theorem projectionOf_eq_ok {o : Options} {columns : Columns.Source} {camelCase : Value} {s : String}
    (h : projectionOf o columns camelCase = .ok s) : ∃ body, s = "SELECT " ++ body := by
  rw [projectionOf_eq] at h
  obtain ⟨c, -, h⟩ := eq_ok_of_bind h
  split at h
  · obtain ⟨c', -, h⟩ := eq_ok_of_bind h
    exact Columns.clause_eq_ok h
  · exact Columns.clause_eq_ok h

theorem Projected.apply {q : Query} (h : q.Projected) (c : Change) :
    (q.apply c).state.Projected := by
  cases c with
  | select columns camelCase =>
    simp only [Query.apply]
    cases hp : projectionOf q.options columns camelCase with
    | error e => exact h
    | ok s => exact .inr (projectionOf_eq_ok hp)
  | _ => exact h

theorem Reachable.projected {q : Query} (h : q.Reachable) : q.Projected := by
  obtain ⟨source, q₀, changes, h₀, rfl⟩ := h
  apply applyAll_induction (P := Projected) fun _ c h => h.apply c
  rw [new_eq_ok h₀]
  exact .inl rfl

end Query

end FluentSql
