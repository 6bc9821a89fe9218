import FluentSql.Proofs.Coherence

/-! The filter of a query and the selection it makes, read off the families that have entries. -/
namespace FluentSql

/-- The families of tests in grammar order. -/
def Filter.all : List Filter := [.comparison, .inclusion, .pattern, .range]

theorem Template.join_cons (separator : String) (t : Template) (ts : List Template) :
    join separator (t :: ts) = t ++ ts.flatMap fun u => .text separator :: u := by
  induction ts generalizing t with
  | nil => simp [join]
  | cons u rest ih => rw [join, ih, List.flatMap_cons, List.cons_append]

/-- The first condition opens the filter, every later one continues it. -/
def Template.opened : List Template → List Template
  | [] => []
  | first :: others => (.text "WHERE " :: first) :: others.map (.text "AND " :: ·)

/-- Written conditions as segments of one filter. -/
def Text.opened : List String → List String
  | [] => []
  | first :: others => ("WHERE " ++ first) :: others.map ("AND " ++ ·)

theorem Template.fill_opened (prepared : Bool) (ts : List Template) :
    (opened ts).map (fill prepared) = Text.opened (ts.map (fill prepared)) := by
  cases ts <;> simp [opened, Text.opened, Function.comp_def]

theorem Template.fill_join_map_ne_empty {α : Type} {prepared : Bool} {test : α → Template}
    (ht : ∀ a, (test a).fill prepared ≠ "") {tests : List α} (h : tests ≠ []) (separator : String) :
    fill prepared (join separator (tests.map test)) ≠ "" := by
  obtain ⟨a, rest, rfl⟩ := List.exists_cons_of_ne_nil h
  cases rest <;> simp [join, String.append_eq_empty_iff, ht a]

namespace Comparison

/-- The condition that comparisons make together, empty only without any. -/
def condition (predicates : List Predicate) : Template := (walk none [] predicates).getD []

theorem flush_ne_none {written : Option Template} {run : List Template}
    (h : written ≠ none ∨ run ≠ []) : flush written run ≠ none := by
  unfold flush
  split <;> simp_all

theorem walk_ne_none {written : Option Template} {run : List Template} {predicates : List Predicate}
    (h : written ≠ none ∨ run ≠ [] ∨ predicates ≠ []) : walk written run predicates ≠ none := by
  induction predicates generalizing written run with
  | nil => exact flush_ne_none (by simpa using h)
  | cons p rest ih =>
    unfold walk
    split
    · exact ih (.inr (.inl (by simp)))
    · exact ih (.inl (by simp))

theorem segment_eq {predicates : List Predicate} (h : predicates ≠ []) :
    segment predicates = .text "WHERE " :: condition predicates := by
  unfold segment condition
  cases hw : walk none [] predicates with
  | none => exact absurd hw (walk_ne_none (.inr (.inr h)))
  | some t => rfl

theorem fill_term_ne_empty (prepared : Bool) (p : Predicate) : p.term.fill prepared ≠ "" := by
  simp [Predicate.term, String.append_eq_empty_iff]

theorem fill_attach_ne_empty {prepared : Bool} {part : Template} (h : part.fill prepared ≠ "")
    (joiner : String) (written : Option Template) :
    (attach joiner part written).fill prepared ≠ "" := by
  cases written <;> simp [attach, String.append_eq_empty_iff, h]

theorem fill_flush_ne_empty {prepared : Bool} {written : Option Template} {run : List Template}
    (hw : ∀ t, written = some t → t.fill prepared ≠ "")
    (hr : ∀ t ∈ run, Template.fill prepared t ≠ "") :
    ∀ t, flush written run = some t → t.fill prepared ≠ "" := by
  intro t ht
  unfold flush at ht
  split at ht
  · exact hw t ht
  · obtain rfl := Option.some.inj ht
    exact fill_attach_ne_empty (hr _ (by simp)) _ _
  · obtain rfl := Option.some.inj ht
    exact fill_attach_ne_empty (by simp [group, String.append_eq_empty_iff]) _ _

/-- Whatever is written holds a term, because parts are only ever added. -/
theorem fill_walk_ne_empty {prepared : Bool} {predicates : List Predicate}
    {written : Option Template} {run : List Template}
    (hw : ∀ t, written = some t → t.fill prepared ≠ "")
    (hr : ∀ t ∈ run, Template.fill prepared t ≠ "") :
    ∀ t, walk written run predicates = some t → t.fill prepared ≠ "" := by
  induction predicates generalizing written run with
  | nil => exact fill_flush_ne_empty hw hr
  | cons p rest ih =>
    unfold walk
    split
    · apply ih hw
      intro t ht
      rcases List.mem_append.mp ht with ht | ht
      · exact hr t ht
      · exact List.mem_singleton.mp ht ▸ fill_term_ne_empty prepared p
    · apply ih
      · intro t ht
        obtain rfl := Option.some.inj ht
        exact fill_attach_ne_empty (fill_term_ne_empty prepared p) _ _
      · simp

theorem fill_condition_ne_empty (prepared : Bool) {predicates : List Predicate}
    (h : predicates ≠ []) : (condition predicates).fill prepared ≠ "" := by
  unfold condition
  cases hw : walk none [] predicates with
  | none => exact absurd hw (walk_ne_none (.inr (.inr h)))
  | some t => exact fill_walk_ne_empty (by simp) (by simp) t hw

end Comparison

namespace Inclusion

/-- The test of a column that has candidates. -/
def member (column : Value) (candidates : List Value) : Template :=
  .text (column.shown ++ " IN (") :: slots candidates ++ [.text ")"]

def condition (tests : List (Value × List Value)) : Template :=
  Template.join " AND " (tests.map fun t => member t.1 t.2)

theorem mapM_test {tests : List (Value × List Value)} (h : ∀ t ∈ tests, t.2 ≠ []) :
    tests.mapM (fun t => test t.1 t.2) = .ok (tests.map fun t => member t.1 t.2) := by
  induction tests with
  | nil => rfl
  | cons t rest ih =>
    have ht : test t.1 t.2 = .ok (member t.1 t.2) := by
      simp [test, member, List.isEmpty_iff, h t List.mem_cons_self]
    have hr := ih fun u hu => h u (List.mem_cons_of_mem t hu)
    rw [List.mapM_cons, ht, hr]
    rfl

theorem segment_eq {continuation : Bool} {tests : List (Value × List Value)}
    (h : ∀ t ∈ tests, t.2 ≠ []) :
    segment continuation tests =
      .ok (.text (openingWord continuation ++ " ") :: condition tests) := by
  unfold segment
  rw [mapM_test h]
  rfl

end Inclusion

def Pattern.condition (anyOf : Bool) (tests : List (Value × Value)) : Template :=
  Template.join (joiner anyOf) (tests.map fun t => test t.1 t.2)

def Range.condition (tests : List (Value × Value × Value)) : Template :=
  Template.join " AND " (tests.map fun t => test t.1 t.2.1 t.2.2)

namespace Query

/-- How many tests a family holds. -/
def size (q : Query) : Filter → Nat
  | .comparison => q.comparisons.entries.length
  | .inclusion => q.inclusions.entries.length
  | .pattern => q.patterns.entries.length
  | .range => q.ranges.entries.length

/-- The families that hold a test, in grammar order. -/
def filters (q : Query) : List Filter := Filter.all.filter fun f => q.size f != 0

/-- The condition of a family, without the word that opens its segment. -/
def condition (q : Query) : Filter → Template
  | .comparison => Comparison.condition (q.comparisons.entries.map Prod.snd)
  | .inclusion => Inclusion.condition q.inclusions.entries
  | .pattern => Pattern.condition q.patterns.anyOf q.patterns.entries
  | .range => Range.condition q.ranges.entries

/-- The flags decide about segments and their words as the entries themselves would. -/
theorem Coherent.conditions_eq {q : Query} (h : q.Coherent) :
    q.conditions = .ok (Template.opened (q.filters.map q.condition)) := by
  have hs : segmentIf (!q.comparisons.entries.isEmpty)
      (Comparison.segment (q.comparisons.entries.map Prod.snd)) =
      segmentIf (!q.comparisons.entries.isEmpty) (.text "WHERE " :: q.condition .comparison) := by
    cases he : q.comparisons.entries with
    | nil => rfl
    | cons e rest => rw [Comparison.segment_eq (by simp)]; simp only [condition, he]
  simp only [conditions, inclusionSegment, h.comparisons.active_eq, h.inclusions.active_eq,
    h.patterns.active_eq, h.ranges.active_eq, Inclusion.segment_eq h.candidates, hs]
  -- which word opens a segment depends on all families before it
  by_cases hc : q.comparisons.entries = [] <;> by_cases hi : q.inclusions.entries = [] <;>
    by_cases hp : q.patterns.entries = [] <;> by_cases hr : q.ranges.entries = [] <;>
    simp [hc, hi, hp, hr, filters, Filter.all, size, condition, Template.opened, segmentIf,
      openingWord, Pattern.segment, Pattern.condition, Range.segment, Range.condition,
      bind, Except.bind, pure, Except.pure, Except.map]

/-- Every condition of the filter says something, whatever the values. -/
theorem fill_condition_ne_empty {q : Query} {f : Filter} (h : f ∈ q.filters) (prepared : Bool) :
    (q.condition f).fill prepared ≠ "" := by
  have hs : q.size f ≠ 0 := by simpa [filters] using (List.mem_filter.mp h).2
  cases f with
  | comparison => exact Comparison.fill_condition_ne_empty prepared (by simpa [size] using hs)
  | inclusion =>
    have ht : ∀ e : Value × List Value, (Inclusion.member e.1 e.2).fill prepared ≠ "" := by
      simp [Inclusion.member, String.append_eq_empty_iff]
    exact Template.fill_join_map_ne_empty ht (by simpa [size] using hs) _
  | pattern =>
    have ht : ∀ e : Value × Value, (Pattern.test e.1 e.2).fill prepared ≠ "" := by
      simp [Pattern.test, String.append_eq_empty_iff]
    exact Template.fill_join_map_ne_empty ht (by simpa [size] using hs) _
  | range =>
    have ht : ∀ e : Value × Value × Value, (Range.test e.1 e.2.1 e.2.2).fill prepared ≠ "" := by
      simp [Range.test, String.append_eq_empty_iff]
    exact Template.fill_join_map_ne_empty ht (by simpa [size] using hs) _

/-- The clauses of a selection in grammar order, each one that is asked for. -/
def clauseTemplates (q : Query) : List Template :=
  [.ofText q.projectionClause, .ofText ("FROM " ++ q.table.shown)] ++
    (if q.joins.entries.isEmpty then []
      else [.ofText (Join.segment q.joins.kind q.joins.entries)]) ++
    Template.opened (q.filters.map q.condition) ++ q.tailClauses

theorem Coherent.selection_eq {q : Query} (h : q.Coherent) :
    q.selection =
      if q.table.isGiven then .ok (Template.join " " q.clauseTemplates ++ [.text ";"])
      else .error .missingTable := by
  have hj : q.joinClauses = if q.joins.entries.isEmpty then []
      else [.ofText (Join.segment q.joins.kind q.joins.entries)] := by
    unfold joinClauses
    rw [h.joins.active_eq]
    cases q.joins.entries <;> rfl
  unfold selection Clause.source
  rw [h.conditions_eq, hj]
  cases q.table.isGiven <;> rfl

/-- A finished selection needs no trimming: it begins with a keyword and ends with its mark. -/
theorem finish_selection (s : String) : finish ("SELECT " ++ s ++ ";") = "SELECT " ++ s ++ ";" := by
  have hl : ("SELECT " ++ s ++ ";").toList =
      'S' :: (("ELECT ".toList ++ s.toList) ++ [';']) := by
    simp [String.toList_append]
  unfold finish
  rw [hl, Text.trim_eq_self (by decide) (by decide), ← hl, String.ofList_toList]

theorem Projected.projectionClause_eq {q : Query} (h : q.Projected) :
    ∃ body, q.projectionClause = "SELECT " ++ body := by
  rcases h with h | ⟨body, h⟩
  · exact ⟨"*", by simp [projectionClause, h]⟩
  · exact ⟨body, by simp [projectionClause, h, String.append_eq_empty_iff]⟩

/-- A selection is its clauses, one space apart and with one closing mark. -/
theorem Coherent.render_select {q : Query} (h : q.Coherent) (hp : q.Projected)
    (ht : q.table.isGiven = true) :
    q.render .select =
      .ok (Text.join " " (q.clauseTemplates.map (Template.fill q.options.prepared)) ++ ";") := by
  obtain ⟨body, hb⟩ := hp.projectionClause_eq
  have hf : Template.fill q.options.prepared (Template.join " " q.clauseTemplates ++ [.text ";"]) =
      Text.join " " (q.clauseTemplates.map (Template.fill q.options.prepared)) ++ ";" := by
    simp [Template.fill_join, Template.fill, Piece.fill]
  have hs : ∃ s, Text.join " " (q.clauseTemplates.map (Template.fill q.options.prepared)) =
      "SELECT " ++ s := by
    simp only [clauseTemplates, hb, List.cons_append, List.map_cons, Template.fill_ofText]
    exact ⟨_, Text.join_append_head _ _ _ _⟩
  obtain ⟨s, hs⟩ := hs
  simp only [render, template, h.selection_eq, ht, if_true, Except.map, hf]
  rw [hs, finish_selection]

theorem Coherent.render_select_of_no_table {q : Query} (h : q.Coherent)
    (ht : q.table.isGiven = false) : q.render .select = .error .missingTable := by
  simp [render, template, h.selection_eq, ht, Except.map]

end Query

end FluentSql
