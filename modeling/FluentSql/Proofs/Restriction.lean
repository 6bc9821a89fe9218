import FluentSql.Proofs.Grouping

/-! What the filter of a query says about a row. Its segments are linked by `AND`, but not put in
parentheses. Main result: each segment restricts the filter exactly when there is but one, or none
of them has an `OR` outside parentheses. -/
namespace FluentSql

namespace Item

/-- A row passes an item by passing one of its tests. -/
def holds (row : Test → Bool) (i : Item) : Bool := i.tests.any row

theorem reads_tokens (row : Test → Bool) {i : Item} (h : i.tests ≠ []) :
    Reads row .factor i.tokens (i.holds row) := by
  obtain ⟨link, tests⟩ := i
  rcases tests with - | ⟨t, - | ⟨t', rest⟩⟩
  · exact absurd rfl h
  · have hh : holds row ⟨link, [t]⟩ = row t := by simp [holds]
    rw [hh]
    exact .test t
  · have hr : Reads row .disjunction
        (chain (fun _ => Connective.or) (fun t => [.test t]) (t :: t' :: rest))
        (meaning ((t :: t' :: rest).map fun t => (Connective.or, row t))) :=
      reads_chain (by simp) fun t _ => .test t
    rw [meaning_of_or (by simp) (by simp), List.any_map] at hr
    exact .group hr

/-- The connectives of items with the truth of the items on a row. -/
def truths (row : Test → Bool) (items : List Item) : List (Connective × Bool) :=
  items.map fun i => (i.link, i.holds row)

theorem reads_chained (row : Test → Bool) {items : List Item} (hn : items ≠ [])
    (h : ∀ i ∈ items, i.tests ≠ []) :
    Reads row .disjunction (chained items) (meaning (truths row items)) :=
  reads_chain hn fun i hi => reads_tokens row (h i hi)

/-- The items of a segment that continues a condition. -/
def continued : List Item → List Item
  | [] => []
  | i :: rest => { i with link := .and } :: rest

theorem continued_ne_nil {items : List Item} (h : items ≠ []) : continued items ≠ [] := by
  cases items with
  | nil => exact absurd rfl h
  | cons i rest => simp [continued]

theorem continued_append {before : List Item} (h : before ≠ []) (after : List Item) :
    continued (before ++ after) = continued before ++ after := by
  cases before with
  | nil => exact absurd rfl h
  | cons i rest => rfl

theorem chained_continued (items : List Item) : chained (continued items) = chained items := by
  cases items <;> rfl

theorem meaning_continued (row : Test → Bool) (items : List Item) :
    meaning (truths row (continued items)) = meaning (truths row items) := by
  cases items <;> rfl

theorem link_of_mem_continued {items : List Item} (h : ∀ i ∈ items.tail, i.link = .and) :
    ∀ i ∈ continued items, i.link = .and := by
  cases items with
  | nil => simp [continued]
  | cons first rest => simpa [continued] using h

theorem all_continued (row : Test → Bool) (items : List Item) :
    (continued items).all (holds row) = items.all (holds row) := by
  cases items <;> rfl

theorem link_chained {items : List Item} (h : items ≠ []) :
    .link .and :: chained items =
      (continued items).flatMap fun i => .link i.link :: i.tokens := by
  cases items with
  | nil => exact absurd rfl h
  | cons i rest => rfl

end Item

namespace Comparison

/-- A comparison linked by `OR` stands after one linked by `AND` and before no other one linked by
`OR`. -/
def HasLoneOr (predicates : List Predicate) : Prop :=
  ∃ before p p' after, predicates = before ++ p :: p' :: after ∧ p.connective = .and ∧
    p'.connective = .or ∧ ∀ next ∈ after.head?, next.connective = .and

theorem itemOf_tests (run : List Predicate) : (itemOf run).tests = run.map .comparison := by
  unfold itemOf
  split <;> rfl

/-- An item is attached with `OR` only if it is a single comparison. -/
theorem eq_single_of_link {run : List Predicate} (h : (itemOf run).link = .or) :
    ∃ p, run = [p] ∧ p.connective = .or := by
  unfold itemOf at h
  split at h
  · next p => exact ⟨p, rfl, h⟩
  · cases h

theorem exists_item_of_loneOr {predicates : List Predicate} (h : HasLoneOr predicates) :
    ∃ before i after, items predicates = before ++ i :: after ∧ before ≠ [] ∧ i.link = .or := by
  obtain ⟨before, p, p', after, rfl, hp, hp', ha⟩ := h
  have hs : ∀ next ∈ after.head?, sameRun p' next = false := fun next hn => by
    simp [sameRun, ha next hn]
  refine ⟨items before ++ [itemOf [p]], itemOf [p'], items after, ?_, by simp, hp'⟩
  rw [items_append hp, items_cons hs]
  simp

/-- The comparisons next to an item attached with `OR` make no run with it. -/
theorem loneOr_of_items {predicates : List Predicate} {before after : List Item} {i : Item}
    (h : items predicates = before ++ i :: after) (hb : before ≠ []) (hi : i.link = .or) :
    HasLoneOr predicates := by
  obtain ⟨runs, rest, hr, rfl, ht⟩ := List.map_eq_append_iff.mp h
  obtain ⟨run, later, rfl, rfl, -⟩ := List.map_eq_cons_iff.mp ht
  obtain ⟨p', rfl, hp'⟩ := eq_single_of_link hi
  have hc := List.isChain_getLast_head_splitBy sameRun predicates
  have hf := List.flatten_splitBy sameRun predicates
  rw [hr] at hc hf
  obtain rfl | ⟨runs, run, rfl⟩ := runs.eq_nil_or_concat
  · exact absurd rfl hb
  rw [List.concat_eq_append, List.append_assoc, List.singleton_append,
    List.isChain_append_cons_cons] at hc
  obtain ⟨-, ⟨hn, _, hs⟩, hc⟩ := hc
  obtain ⟨front, p, rfl⟩ := run.eq_nil_or_concat.resolve_left hn
  have hp : sameRun p p' = false := by simpa using hs
  refine ⟨runs.flatten ++ front, p, p', later.flatten, by simpa using hf.symm, ?_, hp', ?_⟩
  · cases hq : p.connective with
    | and => rfl
    | or => simp [sameRun, hq, hp'] at hp
  · intro next hnext
    cases later with
    | nil => cases hnext
    | cons run later =>
      obtain ⟨_, hn, hs⟩ := (List.isChain_cons_cons.mp hc).1
      obtain ⟨p, rest, rfl⟩ := List.exists_cons_of_ne_nil hn
      obtain rfl : p = next := Option.some.inj hnext
      cases hq : p.connective with
      | and => rfl
      | or => simp [sameRun, hq, hp'] at hs

end Comparison

namespace Query

/-- A segment with an `OR` outside parentheses: a lone comparison linked by `OR`, or several
patterns of which any may match. -/
def LinksByOr (q : Query) : Filter → Prop
  | .comparison => Comparison.HasLoneOr (q.comparisons.entries.map Prod.snd)
  | .pattern => q.patterns.anyOf = true ∧ 2 ≤ q.patterns.entries.length
  | .inclusion | .range => False

/-- The query without the tests of other families. -/
def alone (q : Query) : Filter → Query
  | .comparison => { q with inclusions := {}, patterns := {}, ranges := {} }
  | .inclusion => { q with comparisons := {}, patterns := {}, ranges := {} }
  | .pattern => { q with comparisons := {}, inclusions := {}, ranges := {} }
  | .range => { q with comparisons := {}, inclusions := {}, patterns := {} }

/-- The filter as it is written lets a row pass. -/
def Selects (q : Query) (row : Test → Bool) : Prop := Reads row .disjunction q.tokens true

section Items

variable {q : Query} {f : Filter}

theorem size_ne_zero (h : f ∈ q.filters) : q.size f ≠ 0 := by
  simpa [filters] using (List.mem_filter.mp h).2

theorem items_ne_nil (h : f ∈ q.filters) : q.items f ≠ [] := by
  have hs := size_ne_zero h
  cases f <;> simpa [items, Comparison.items, size] using hs

theorem tests_ne_nil {i : Item} (h : i ∈ q.items f) : i.tests ≠ [] := by
  cases f with
  | comparison =>
    obtain ⟨run, hr, rfl⟩ := List.mem_map.mp h
    simpa [Comparison.itemOf_tests] using List.ne_nil_of_mem_splitBy hr
  | _ =>
    obtain ⟨e, -, rfl⟩ := List.mem_map.mp h
    simp

theorem family_of_mem {i : Item} {t : Test} (h : i ∈ q.items f) (ht : t ∈ i.tests) :
    t.family = f := by
  cases f with
  | comparison =>
    obtain ⟨run, hr, rfl⟩ := List.mem_map.mp h
    rw [Comparison.itemOf_tests] at ht
    obtain ⟨p, -, rfl⟩ := List.mem_map.mp ht
    rfl
  | _ =>
    obtain ⟨e, -, rfl⟩ := List.mem_map.mp h
    rw [List.mem_singleton.mp ht]
    rfl

/-- An `OR` outside parentheses stands before an item that is not the first of its segment. -/
theorem linksByOr_iff : q.LinksByOr f ↔
    ∃ before i after, q.items f = before ++ i :: after ∧ before ≠ [] ∧ i.link = .or := by
  cases f with
  | comparison =>
    exact ⟨Comparison.exists_item_of_loneOr, fun ⟨_, _, _, h, hb, hi⟩ =>
      Comparison.loneOr_of_items h hb hi⟩
  | pattern =>
    constructor
    · rintro ⟨ha, hl⟩
      obtain ⟨e, e', rest, he⟩ : ∃ e e' rest, q.patterns.entries = e :: e' :: rest := by
        match q.patterns.entries, hl with
        | e :: e' :: rest, _ => exact ⟨e, e', rest, rfl⟩
      exact ⟨[_], _, _, by simp only [items, he, ha]; rfl, by simp, rfl⟩
    · rintro ⟨before, i, after, h, hb, hi⟩
      have hm : i ∈ q.items .pattern := by simp [h]
      obtain ⟨e, -, rfl⟩ := List.mem_map.mp hm
      have hl := congrArg List.length h
      have hn := List.length_pos_iff.mpr hb
      simp only [items, List.length_map, List.length_append, List.length_cons] at hl
      refine ⟨?_, by omega⟩
      cases ha : q.patterns.anyOf <;> simp_all
  | _ =>
    refine ⟨False.elim, ?_⟩
    rintro ⟨before, i, after, h, -, hi⟩
    obtain ⟨e, -, rfl⟩ := List.mem_map.mp (h ▸ List.mem_append_right _ List.mem_cons_self)
    cases hi

theorem filters_alone (h : f ∈ q.filters) : (q.alone f).filters = [f] := by
  have hs := size_ne_zero h
  simp only [filters, Filter.all, List.filter_cons, List.filter_nil]
  cases f <;> simpa [alone, size] using hs

theorem items_alone (q : Query) (f : Filter) : (q.alone f).items f = q.items f := by
  cases f <;> rfl

theorem Coherent.alone (h : q.Coherent) (f : Filter) : (q.alone f).Coherent := by
  have he : ∀ {β : Type}, ({} : Family β).Coherent := by simp [Family.Coherent]
  have hi : Inclusion.Inhabited {} := by simp [Inclusion.Inhabited]
  cases f with
  | comparison => exact { h with inclusions := he, patterns := he, ranges := he, candidates := hi }
  | inclusion => exact { h with comparisons := he, patterns := he, ranges := he }
  | pattern => exact { h with comparisons := he, inclusions := he, ranges := he, candidates := hi }
  | range => exact { h with comparisons := he, inclusions := he, patterns := he, candidates := hi }

end Items

/-- The items of a family as they follow another segment. -/
def attached (q : Query) (f : Filter) : List Item := Item.continued (q.items f)

/-- All items of the filter, each with the connective that is written before it. -/
def allItems (q : Query) : List Item := q.filters.flatMap q.attached

theorem attached_ne_nil {q : Query} {f : Filter} (h : f ∈ q.filters) : q.attached f ≠ [] :=
  Item.continued_ne_nil (items_ne_nil h)

theorem tokens_eq_chained (q : Query) : q.tokens = Item.chained q.allItems := by
  have hn := fun f (h : f ∈ q.filters) => items_ne_nil h
  unfold tokens allItems
  cases hf : q.filters with
  | nil => rfl
  | cons f rest =>
    rw [hf] at hn
    have ha : q.attached f ≠ [] := attached_ne_nil (hf ▸ List.mem_cons_self)
    rw [List.flatMap_cons, Item.chained, chain_append Item.link Item.tokens ha, List.flatMap_assoc]
    exact congrArg₂ (· ++ ·) (Item.chained_continued (q.items f)).symm
      (List.flatMap_congr fun g hg => Item.link_chained (hn g (List.mem_cons_of_mem f hg)))

theorem exists_of_mem_attached {q : Query} {f : Filter} {i : Item} (h : i ∈ q.attached f) :
    ∃ i' ∈ q.items f, i.tests = i'.tests := by
  unfold attached at h
  cases hi : q.items f with
  | nil => simp [hi, Item.continued] at h
  | cons first rest =>
    rw [hi] at h
    rcases List.mem_cons.mp h with rfl | h
    · exact ⟨first, List.mem_cons_self, rfl⟩
    · exact ⟨i, List.mem_cons_of_mem first h, rfl⟩

theorem allItems_ne_nil {q : Query} (hn : q.filters ≠ []) : q.allItems ≠ [] := by
  obtain ⟨f, hf⟩ := List.exists_mem_of_ne_nil _ hn
  obtain ⟨i, hi⟩ := List.exists_mem_of_ne_nil _ (attached_ne_nil hf)
  exact List.ne_nil_of_mem (List.mem_flatMap.mpr ⟨f, hf, hi⟩)

theorem reads_tokens {q : Query} (hn : q.filters ≠ []) (row : Test → Bool) :
    Reads row .disjunction q.tokens (meaning (Item.truths row q.allItems)) := by
  rw [tokens_eq_chained]
  apply Item.reads_chained row (allItems_ne_nil hn)
  intro i hi
  obtain ⟨f, -, hi⟩ := List.mem_flatMap.mp hi
  obtain ⟨i', hi', ht⟩ := exists_of_mem_attached hi
  exact ht ▸ tests_ne_nil hi'

theorem selects_iff {q : Query} (hn : q.filters ≠ []) (row : Test → Bool) :
    q.Selects row ↔ meaning (Item.truths row q.allItems) = true := by
  have hr := reads_tokens hn row
  refine ⟨fun h => hr.unique h, fun h => ?_⟩
  rw [h] at hr
  exact hr

theorem selects_alone_iff {q : Query} {f : Filter} (hf : f ∈ q.filters) (row : Test → Bool) :
    (q.alone f).Selects row ↔ meaning (Item.truths row (q.items f)) = true := by
  have ha := filters_alone hf
  rw [selects_iff (by simp [ha]), allItems, ha, List.flatMap_singleton, attached, items_alone,
    Item.meaning_continued]

theorem links_of_not_linksByOr {q : Query} {f : Filter} (h : ¬ q.LinksByOr f) :
    ∀ i ∈ (q.items f).tail, i.link = .and := by
  intro i hi
  cases hq : q.items f with
  | nil => simp [hq] at hi
  | cons first rest =>
    rw [hq, List.tail_cons] at hi
    obtain ⟨before, after, rfl⟩ := List.append_of_mem hi
    cases hl : i.link with
    | and => rfl
    | or => exact absurd (linksByOr_iff.mpr ⟨first :: before, i, after, hq, by simp, hl⟩) h

/-- Without an `OR` outside parentheses, a row has to pass all items of a segment. -/
theorem meaning_items_of_and {q : Query} {f : Filter} (h : ¬ q.LinksByOr f) (row : Test → Bool) :
    meaning (Item.truths row (q.items f)) = (q.items f).all (Item.holds row) := by
  have hl : ∀ e ∈ (Item.truths row (q.items f)).tail, e.1 = .and := by
    intro e he
    rw [Item.truths, ← List.map_tail] at he
    obtain ⟨i, hi, rfl⟩ := List.mem_map.mp he
    exact links_of_not_linksByOr h i hi
  rw [meaning_of_and hl, Item.truths, List.all_map]
  rfl

/-- Without any `OR` outside parentheses, a row has to pass all segments. -/
theorem selects_iff_of_and {q : Query} (hn : q.filters ≠ [])
    (h : ∀ f ∈ q.filters, ¬ q.LinksByOr f) (row : Test → Bool) :
    q.Selects row ↔ ∀ f ∈ q.filters, (q.alone f).Selects row := by
  have hl : ∀ e ∈ (Item.truths row q.allItems).tail, e.1 = .and := by
    intro e he
    obtain ⟨i, hi, rfl⟩ := List.mem_map.mp (List.mem_of_mem_tail he)
    obtain ⟨f, hf, hi⟩ := List.mem_flatMap.mp hi
    exact Item.link_of_mem_continued (links_of_not_linksByOr (h f hf)) i hi
  have ha : (Item.truths row q.allItems).all Prod.snd =
      q.filters.all fun f => (q.items f).all (Item.holds row) := by
    simp only [Item.truths, allItems, List.all_map, List.all_flatMap]
    exact congrArg _ (funext fun f => Item.all_continued row (q.items f))
  rw [selects_iff hn, meaning_of_and hl, ha, List.all_eq_true]
  refine forall₂_congr fun f hf => ?_
  rw [selects_alone_iff hf, meaning_items_of_and (h f hf)]

/-- A row that passes all tests of some families and no others. -/
def familyRow (chosen : Filter → Bool) (t : Test) : Bool := chosen t.family

theorem holds_familyRow (chosen : Filter → Bool) {q : Query} {f : Filter} {i : Item}
    (h : i ∈ q.attached f) : i.holds (familyRow chosen) = chosen f := by
  obtain ⟨i', hi', ht⟩ := exists_of_mem_attached h
  have hc : ∀ t ∈ i.tests, familyRow chosen t = chosen f := fun t hm =>
    congrArg chosen (family_of_mem hi' (ht ▸ hm))
  obtain ⟨t, hm⟩ := List.exists_mem_of_ne_nil _ (ht ▸ tests_ne_nil hi')
  rw [Item.holds, Bool.eq_iff_iff, List.any_eq_true]
  exact ⟨fun ⟨t', hm', hr⟩ => hc t' hm' ▸ hr, fun hf => ⟨t, hm, (hc t hm).trans hf⟩⟩

/-- Such a row passes or fails whole segments, and any part of the filter that comes from families
with the same fate. -/
theorem meaning_familyRow (chosen : Filter → Bool) {q : Query} {items : List Item} {b : Bool}
    (hn : items ≠ []) (h : ∀ i ∈ items, ∃ f, i ∈ q.attached f ∧ chosen f = b) :
    meaning (Item.truths (familyRow chosen) items) = b := by
  apply meaning_of_agree (by simpa [Item.truths] using hn)
  intro e he
  obtain ⟨i, hi, rfl⟩ := List.mem_map.mp he
  obtain ⟨f, hf, hb⟩ := h i hi
  exact (holds_familyRow chosen hf).trans hb

theorem not_selects_alone_familyRow {chosen : Filter → Bool} {q : Query} {f : Filter}
    (hf : f ∈ q.filters) (hc : chosen f = false) : ¬ (q.alone f).Selects (familyRow chosen) := by
  have hm : meaning (Item.truths (familyRow chosen) (q.attached f)) = false :=
    meaning_familyRow chosen (attached_ne_nil hf) fun i hi => ⟨f, hi, hc⟩
  rw [selects_alone_iff hf, ← Item.meaning_continued]
  exact fun h => Bool.false_ne_true (hm.symm.trans h)

/-- An `OR` outside parentheses parts the whole filter, not just its own segment. -/
theorem selects_iff_of_linksByOr {q : Query} {f : Filter} (hf : f ∈ q.filters)
    (h : q.LinksByOr f) :
    ∃ earlier before after later, q.filters = earlier ++ f :: later ∧
      q.attached f = before ++ after ∧ before ≠ [] ∧ after ≠ [] ∧
      ∀ row, q.Selects row ↔
        meaning (Item.truths row (earlier.flatMap q.attached ++ before)) = true ∨
        meaning (Item.truths row (after ++ later.flatMap q.attached)) = true := by
  obtain ⟨front, i, back, hi, hb, ho⟩ := linksByOr_iff.mp h
  obtain ⟨earlier, later, hq⟩ := List.append_of_mem hf
  have hc : q.attached f = Item.continued front ++ i :: back := by
    rw [attached, hi, Item.continued_append hb]
  have hn := Item.continued_ne_nil hb
  refine ⟨earlier, Item.continued front, i :: back, later, hq, hc, hn, by simp, fun row => ?_⟩
  have ha : q.allItems = (earlier.flatMap q.attached ++ Item.continued front) ++
      i :: (back ++ later.flatMap q.attached) := by
    simp [allItems, hq, hc]
  rw [selects_iff (List.ne_nil_of_mem hf), ha, Item.truths, List.map_append, List.map_cons,
    meaning_append (by simp [hn]) ho, Bool.or_eq_true]
  rfl

/-- With an `OR` outside parentheses in one of several segments, some row gets past another
segment. -/
theorem exists_selected_row {q : Query} {f : Filter} (hl : 2 ≤ q.filters.length)
    (hf : f ∈ q.filters) (h : q.LinksByOr f) :
    ∃ row, q.Selects row ∧ ∃ g ∈ q.filters, ¬ (q.alone g).Selects row := by
  obtain ⟨earlier, before, after, later, hq, hc, hb, ha, hs⟩ := selects_iff_of_linksByOr hf h
  have hd : (earlier ++ f :: later).Nodup := hq ▸ List.Pairwise.filter _ (by decide)
  rw [List.nodup_append, List.nodup_cons] at hd
  obtain ⟨-, ⟨hfl, -⟩, hel⟩ := hd
  cases earlier with
  | nil =>
    -- the row passes the first segment, which alone opens the filter up to its `OR`
    have hn : later ≠ [] := by
      rintro rfl
      rw [hq] at hl
      simp at hl
    obtain ⟨g, rest, rfl⟩ := List.exists_cons_of_ne_nil hn
    have hg : g ∈ q.filters := by simp [hq]
    have hne : (g == f) = false := beq_false_of_ne fun he => hfl (he ▸ List.mem_cons_self)
    refine ⟨familyRow (· == f), (hs _).mpr (.inl ?_), g, hg, not_selects_alone_familyRow hg hne⟩
    apply meaning_familyRow _ hb
    intro i hi
    exact ⟨f, hc ▸ List.mem_append_left _ hi, by simp⟩
  | cons e rest =>
    -- the row fails the segments before the `OR` and passes everything after it
    have he : e ∈ q.filters := by simp [hq]
    refine ⟨familyRow (!(e :: rest).contains ·), (hs _).mpr (.inr ?_), e, he,
      not_selects_alone_familyRow he (by simp)⟩
    apply meaning_familyRow (q := q) _ (by simp [ha])
    intro i hi
    have hg : ∃ g ∈ f :: later, i ∈ q.attached g := by
      rcases List.mem_append.mp hi with hi | hi
      · exact ⟨f, List.mem_cons_self, hc ▸ List.mem_append_right _ hi⟩
      · obtain ⟨g, hg, hi⟩ := List.mem_flatMap.mp hi
        exact ⟨g, List.mem_cons_of_mem f hg, hi⟩
    obtain ⟨g, hg, hi⟩ := hg
    refine ⟨g, hi, ?_⟩
    have hge : g ∉ e :: rest := fun h => hel g h g hg rfl
    simpa using hge

/-- A filter is read in one way. Each of its segments restricts it exactly when there is but one, or
none of them has an `OR` outside parentheses. -/
theorem segments_restrict_iff {q : Query} (h : q.Reachable) (hn : q.filters ≠ []) :
    (∀ r ∈ q :: q.filters.map q.alone, r.Writes r.tokens ∧
      ∀ row, ∃! b, Reads row .disjunction r.tokens b) ∧
    ((∀ row, q.Selects row ↔ ∀ f ∈ q.filters, (q.alone f).Selects row) ↔
      q.filters.length ≤ 1 ∨ ∀ f ∈ q.filters, ¬ q.LinksByOr f) := by
  constructor
  · have hr : ∀ r : Query, r.Coherent → r.filters ≠ [] → r.Writes r.tokens ∧
        ∀ row, ∃! b, Reads row .disjunction r.tokens b := fun r hc hr =>
      ⟨hc.writes_tokens hr, fun row =>
        ⟨_, reads_tokens hr row, fun b hb => hb.unique (reads_tokens hr row)⟩⟩
    rw [List.forall_mem_cons, List.forall_mem_map]
    exact ⟨hr q h.coherent hn, fun f hf => hr _ (h.coherent.alone f) (by simp [filters_alone hf])⟩
  · constructor
    · intro ha
      by_contra hc
      rw [not_or, not_le] at hc
      push Not at hc
      obtain ⟨hl, f, hf, ho⟩ := hc
      obtain ⟨row, hs, g, hg, hgs⟩ := exists_selected_row hl hf ho
      exact hgs ((ha row).mp hs g hg)
    · rintro (hl | ho) row
      · obtain ⟨f, hf⟩ := List.length_eq_one_iff.mp
          (Nat.le_antisymm hl (List.length_pos_iff.mpr hn))
        have hm : f ∈ q.filters := by simp [hf]
        have ha : q.allItems = Item.continued (q.items f) := by simp [allItems, attached, hf]
        rw [selects_iff hn, ha, Item.meaning_continued, ← selects_alone_iff hm, hf,
          List.forall_mem_singleton]
      · exact selects_iff_of_and hn ho row

/-- A group of comparisons stands in parentheses, and the patterns have to match together. -/
theorem grouped_segments_restrict :
    let q := ({} : Query).applyAll [
      .compareAll .or (.map [(.text "a", .int 1), (.text "b", .int 2)]),
      .compareAll .and (.map [(.text "c", .int 3)]), .like (.text "d") (.text "x%") .null,
      .like (.text "e") (.text "y%") .null, .member (.text "f") (.list [.int 4, .int 5])]
    q.Reachable ∧
    q.render (.delete (.text "t")) =
      .ok ("DELETE FROM t WHERE (a = \x221\x22 OR b = \x222\x22) AND c = \x223\x22 AND " ++
        "f IN (\x224\x22,\x225\x22) AND d LIKE \x22x%\x22 AND e LIKE \x22y%\x22") ∧
    ∀ row, q.Selects row ↔ ∀ f ∈ [Filter.comparison, .inclusion, .pattern],
      (q.alone f).Selects row := by
  intro q
  have hr : q.Reachable := ⟨.value .null, {}, _, rfl, rfl⟩
  have hf : q.filters = [.comparison, .inclusion, .pattern] := rfl
  have hl : ∀ f ∈ q.filters, ∀ i ∈ q.items f, i.link = .and := by decide
  have ho : ∀ f ∈ q.filters, ¬ q.LinksByOr f := by
    intro f hm h
    obtain ⟨before, i, after, hi, -, hi'⟩ := linksByOr_iff.mp h
    have ha := hl f hm i (by simp [hi])
    rw [hi'] at ha
    cases ha
  exact ⟨hr, eq_ok_of_toOption (by decide +kernel),
    (segments_restrict_iff hr (by simp [hf])).2.mpr (.inr ho)⟩

/-- The row that one pattern lets in belongs to another tenant. -/
theorem pattern_selects_past_comparison :
    let q := ({} : Query).applyAll [.compare (.text "tenant") (.int 7) .null,
      .like (.text "name") (.text "A%") (.bool true), .like (.text "email") (.text "B%") .null]
    let row : Test → Bool := fun
      | .pattern (.text column) _ => column == "email"
      | _ => false
    q.Reachable ∧
    q.render (.delete (.text "users")) =
      .ok ("DELETE FROM users WHERE tenant = \x227\x22 AND " ++
        "name LIKE \x22A%\x22 OR email LIKE \x22B%\x22") ∧
    q.filters = [.comparison, .pattern] ∧
    q.Selects row ∧ ¬ (q.alone .comparison).Selects row ∧ (q.alone .pattern).Selects row := by
  intro q row
  have hf : q.filters = [.comparison, .pattern] := rfl
  have hs : q.Selects row := .or (.disjunction (.and (.conjunction (.test _)) (.test _)))
    (.conjunction (.test _))
  have hc : Reads row .disjunction (q.alone .comparison).tokens false :=
    .disjunction (.conjunction (.test _))
  have hp : (q.alone .pattern).Selects row :=
    .or (.disjunction (.conjunction (.test _))) (.conjunction (.test _))
  exact ⟨⟨.value .null, {}, _, rfl, rfl⟩, eq_ok_of_toOption (by decide +kernel), hf, hs,
    fun h => Bool.false_ne_true (hc.unique h), hp⟩

end Query

end FluentSql
