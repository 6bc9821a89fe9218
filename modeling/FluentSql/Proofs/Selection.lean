import FluentSql.Proofs.Wording

/-! What runs of calls leave for a selection: when it has a table, where its bounds come from, and
the text that it makes. -/
namespace FluentSql

/-- The bounds are the two elements of a value, or what stands in it under the numbers 0 and 1. -/
def Range.Pairs (bounds : Value) (pair : Value × Value) : Prop :=
  bounds.length = .ok 2 ∧ bounds.at? 0 = some pair.1 ∧ bounds.at? 1 = some pair.2

namespace Query

theorem apply_source (q : Query) (table : Value) :
    (table.isGiven = true ∧ q.apply (.source table) = .done { q with table }) ∨
    (table.isGiven = false ∧ q.apply (.source table) = .refused q .missingTable) := by
  simp only [apply, tableOf, Clause.source]
  cases table.isGiven
  · exact .inr ⟨rfl, rfl⟩
  · exact .inl ⟨rfl, rfl⟩

/-- Only a call for a table gives a query its table. -/
theorem apply_table_isGiven (q : Query) (c : Change) :
    (q.apply c).state.table.isGiven = true ↔
      q.table.isGiven = true ∨ ∃ table, c = .source table ∧ (q.apply c).fault = none := by
  cases c with
  | source table =>
    rcases q.apply_source table with ⟨ht, h⟩ | ⟨ht, h⟩
    · simp [h, Outcome.done, ht]
    · simp [h, Outcome.refused]
  | _ => simp [apply]

theorem applyAll_table_isGiven (q : Query) (changes : List Change) :
    (q.applyAll changes).table.isGiven = true ↔
      q.table.isGiven = true ∨ ∃ table, Change.source table ∈ q.accepted changes := by
  induction changes generalizing q with
  | nil => simp [accepted]
  | cons c rest ih =>
    rw [applyAll_cons, ih, apply_table_isGiven]
    simp only [mem_accepted_cons, exists_or, or_assoc]
    constructor
    · rintro (h | ⟨table, rfl, hf⟩ | h)
      · exact .inl h
      · exact .inr (.inl ⟨table, hf, rfl⟩)
      · exact .inr (.inr h)
    · rintro (h | ⟨table, hf, rfl⟩ | h)
      · exact .inl h
      · exact .inr (.inl ⟨table, rfl, hf⟩)
      · exact .inr (.inr h)

/-- A pair of bounds that is new after a call is the one that the call gave. -/
theorem pair_of_apply {q : Query} {c : Change} {e : Value × Value × Value}
    (h : e ∈ (q.apply c).state.ranges.entries) :
    e ∈ q.ranges.entries ∨ ∃ column bounds, c = .between column bounds ∧
      (q.apply c).fault = none ∧ Range.Pairs bounds e.2 := by
  cases c with
  | between column bounds =>
    simp only [apply, Outcome.state_map, Outcome.fault_map] at h ⊢
    rcases Range.add_cases q.ranges column bounds with ⟨low, high, hl, h0, h1, hd⟩ | ⟨f, hd⟩ <;>
      rw [hd] at h ⊢
    · rcases Keyed.eq_of_mem_put h with h | h
      · exact .inl h
      · exact .inr ⟨column, bounds, rfl, rfl, h ▸ ⟨hl, h0, h1⟩⟩
    · exact .inl h
  | _ => exact .inl h

theorem pair_of_applyAll {q : Query} {changes : List Change} {e : Value × Value × Value}
    (h : e ∈ (q.applyAll changes).ranges.entries) :
    e ∈ q.ranges.entries ∨ ∃ column bounds, Change.between column bounds ∈ q.accepted changes ∧
      Range.Pairs bounds e.2 := by
  induction changes generalizing q with
  | nil => exact .inl h
  | cons c rest ih =>
    rcases ih h with h | ⟨column, bounds, hm, hp⟩
    · rcases pair_of_apply h with h | ⟨column, bounds, rfl, hf, hp⟩
      · exact .inl h
      · exact .inr ⟨column, bounds, mem_accepted_cons.mpr (.inl ⟨hf, rfl⟩), hp⟩
    · exact .inr ⟨column, bounds, mem_accepted_cons.mpr (.inr hm), hp⟩

/-- After any run the families are active exactly while they have entries. The filter is therefore
never refused and has one segment for each family with entries, and a selection is refused exactly
while no call has given a table. Otherwise it is its clauses, one space apart and with one closing
mark. -/
theorem run_coherent_and_rendered {source : Options.Source} {q₀ : Query}
    (h₀ : new source = .ok q₀) (changes : List Change) :
    let q := q₀.applyAll changes
    (q.Coherent ∧ ∀ e ∈ q.ranges.entries, ∃ column bounds,
      Change.between column bounds ∈ q₀.accepted changes ∧ Range.Pairs bounds e.2) ∧
    (∃ segments, q.conditions = .ok segments ∧ ∀ prepared,
      segments.map (Template.fill prepared) = Text.opened (q.filters.map (q.wording prepared)) ∧
      ∀ f ∈ q.filters, q.wording prepared f ≠ "") ∧
    (∀ f, q.render .select = .error f ↔
      f = .missingTable ∧ ∀ table, Change.source table ∉ q₀.accepted changes) ∧
    (Fault.missingTable.isArgument = true ∧
      Fault.missingTable.message = "Table name is required") ∧
    ((∃ table, Change.source table ∈ q₀.accepted changes) →
      q.render .select = .ok (" ".intercalate (q.clauses q.options.prepared) ++ ";")) := by
  intro q
  have hr : q.Reachable := ⟨source, q₀, changes, h₀, rfl⟩
  have hc := hr.coherent
  have hn : q₀.table = .null ∧ q₀.ranges.entries = [] := by
    rw [new_eq_ok h₀]
    exact ⟨rfl, rfl⟩
  have ht : q.table.isGiven = true ↔ ∃ table, Change.source table ∈ q₀.accepted changes := by
    rw [applyAll_table_isGiven, hn.1]
    simp [Value.isGiven]
  refine ⟨⟨hc, ?_⟩, ⟨_, hc.conditions_eq, ?_⟩, ?_, ⟨rfl, rfl⟩, ?_⟩
  · intro e he
    rcases pair_of_applyAll he with he | he
    · simp [hn.2] at he
    · exact he
  · intro prepared
    constructor
    · exact q.fill_opened_eq_wording prepared
    · intro f hf
      rw [← fill_condition_eq_wording]
      exact fill_condition_ne_empty hf prepared
  · intro f
    by_cases hg : q.table.isGiven = true
    · simp [hc.render_select_eq_clauses hr.projected hg, ht.mp hg]
    · have hg' : q.table.isGiven = false := by simpa using hg
      simp only [hc.render_select_of_no_table hg', Except.error.injEq]
      constructor
      · rintro rfl
        exact ⟨rfl, fun table hm => hg (ht.mpr ⟨table, hm⟩)⟩
      · exact fun h => h.1.symm
  · exact fun hs => hc.render_select_eq_clauses hr.projected (ht.mpr hs)

/-- A join that is refused leaves its kind to those that follow, and an empty group its connective.
Without a table there is no selection, and with one it has a clause of every kind. -/
theorem run_with_refusals_rendered :
    let refused : List Change :=
      [.compareAll .or (.map []), .join (.list [.null]) (.text "c") (.value (.text "left")),
        .source (.text "")]
    let calls : List Change := refused ++
      [.select (.value (.list [.text "a", .text "b"])) .null, .source (.text "t"),
        .join (.text "u") (.text "u.a = t.a") (.value .null),
        .join (.text "v") (.text "v.a = t.a") (.value .null),
        .compare (.text "a") (.text "1") (.text ">"), .compare (.text "b") (.text "2") .null,
        .compareAll .and (.map [(.text "c", .text "3")]), .member (.text "d") (.list []),
        .member (.text "d") (.list [.text "4", .text "5"]), .like (.text "e") (.text "6%") .null,
        .between (.text "f") (.text "78"), .between (.text "f") (.tuple [.text "7", .text "8"]),
        .group (.list [.text "g", .text "h"]), .order (.text "i") (.text "desc"), .limit (.int 10),
        .offset (.int 0), .offset (.int 5)]
    let early := ({} : Query).applyAll refused
    let late := ({} : Query).applyAll calls
    new (.value .null) = .ok {} ∧
    (early.joins.kind = .left ∧ early.joins.active = false ∧ early.joins.entries = []) ∧
    early.render .select = .error .missingTable ∧
    (∃ segments, late.conditions = .ok segments ∧
      segments.map (Template.fill true) =
        ["WHERE (a > ? OR b = ?) AND c = ?", "AND d IN (?,?)", "AND e LIKE ?",
          "AND f BETWEEN ? AND ?"]) ∧
    late.render .select =
      .ok ("SELECT a, b FROM t LEFT JOIN u ON u.a = t.a LEFT JOIN v ON v.a = t.a" ++
        " WHERE (a > \x221\x22 OR b = \x222\x22) AND c = \x223\x22" ++
        " AND d IN (\x224\x22,\x225\x22)" ++ " AND e LIKE \x226%\x22 AND f BETWEEN 7 AND 8" ++
        " GROUP BY g, h ORDER BY i DESC LIMIT 10 OFFSET 5;") := by
  intro refused calls early late
  have h₀ : new (.value .null) = .ok {} := rfl
  obtain ⟨⟨hc, -⟩, -, he, -, -⟩ := run_coherent_and_rendered h₀ refused
  obtain ⟨-, ⟨segments, hs, hf⟩, -, -, hr⟩ := run_coherent_and_rendered h₀ calls
  have hn : ∀ table, Change.source table ∉ ({} : Query).accepted refused := by
    have ha : ({} : Query).accepted refused = [.compareAll .or (.map [])] := rfl
    simp [ha]
  have ht : ∃ table, Change.source table ∈ ({} : Query).accepted calls :=
    ((applyAll_table_isGiven {} calls).mp (by decide +kernel)).resolve_left (by decide)
  exact ⟨h₀, ⟨rfl, hc.joins.active_eq, rfl⟩, (he _).mpr ⟨rfl, hn⟩,
    ⟨segments, hs, (hf true).1.trans (by decide +kernel)⟩,
    (hr ht).trans (congrArg Except.ok (by decide +kernel))⟩

end Query

end FluentSql
