import FluentSql.Proofs.Blocks
import FluentSql.Proofs.Filling
import FluentSql.Proofs.Outline

/-! What the filter of a query tells when its values are bound later. Main result: two filters have
the same text exactly when they agree in everything but their values and the connective of a first
comparison that stands alone. -/
namespace FluentSql

theorem splitBy_map {α β : Type} (f : α → β) (r : β → β → Bool) (xs : List α) :
    (xs.map f).splitBy r = (xs.splitBy fun x y => r (f x) (f y)).map (List.map f) := by
  rw [List.splitBy_eq_iff]
  refine ⟨?_, ?_, ?_, ?_⟩
  · rw [← List.map_flatten, List.flatten_splitBy]
  · intro hm
    obtain ⟨run, hr, hn⟩ := List.mem_map.mp hm
    exact List.ne_nil_of_mem_splitBy hr (List.map_eq_nil_iff.mp hn)
  · rw [List.forall_mem_map]
    exact fun run hr => (List.isChain_map f).mpr (List.isChain_of_mem_splitBy hr)
  · rw [List.isChain_map]
    refine (List.isChain_getLast_head_splitBy _ xs).imp fun run next ⟨hr, hn, h⟩ => ?_
    exact ⟨by simpa using hr, by simpa using hn, by simpa using h⟩

/-- An item without its values. -/
structure Item.Outline where
  link : Connective
  tests : List Test.Outline

def Item.outline (i : Item) : Outline := { link := i.link, tests := i.tests.map Test.outline }

namespace Item.Outline

def tokens (o : Outline) : List (Token Test.Outline) :=
  match o.tests with
  | [t] => [.test t]
  | tests => .opening :: chain (fun _ => .or) (fun t => [.test t]) tests ++ [.closing]

def chained (items : List Outline) : List (Token Test.Outline) := chain link tokens items

theorem map_tokens (i : Item) : i.tokens.map (Token.map Test.outline) = i.outline.tokens := by
  obtain ⟨link, tests⟩ := i
  rcases tests with - | ⟨t, - | ⟨t', rest⟩⟩
  · rfl
  · rfl
  · simp [Item.tokens, outline, tokens, chain, Token.map, List.map_flatMap, List.flatMap_map]

theorem map_chained (items : List Item) :
    (Item.chained items).map (Token.map Test.outline) = chained (items.map outline) := by
  cases items with
  | nil => rfl
  | cons i rest =>
    simp [Item.chained, chained, chain, map_tokens, List.map_flatMap, List.flatMap_map, Token.map,
      outline]

/-- A closing parenthesis tells where the tests of a group end. -/
theorem group_append_inj {tests tests' : List Test.Outline} {ts us : List (Token Test.Outline)}
    (h : (tests.flatMap fun t => [.link .or, .test t]) ++ .closing :: ts =
      (tests'.flatMap fun t => [.link .or, .test t]) ++ .closing :: us) :
    tests = tests' ∧ ts = us := by
  induction tests generalizing tests' with
  | nil =>
    cases tests' with
    | nil => exact ⟨rfl, (List.cons.inj h).2⟩
    | cons t' rest' => cases (List.cons.inj h).1
  | cons t rest ih =>
    cases tests' with
    | nil => cases (List.cons.inj h).1
    | cons t' rest' =>
      obtain ⟨ht, h⟩ := List.cons.inj (List.cons.inj h).2
      obtain ⟨rfl, hr⟩ := ih h
      exact ⟨by rw [Token.test.inj ht], hr⟩

theorem tokens_append_inj {o o' : Outline} (h : o.tests ≠ []) (h' : o'.tests ≠ [])
    {ts us : List (Token Test.Outline)} (ht : o.tokens ++ ts = o'.tokens ++ us) :
    o.tests = o'.tests ∧ ts = us := by
  obtain ⟨link, tests⟩ := o
  obtain ⟨link', tests'⟩ := o'
  rcases tests with - | ⟨t, - | ⟨t₂, rest⟩⟩ <;> rcases tests' with - | ⟨t', - | ⟨t₂', rest'⟩⟩
  case cons.nil.cons.nil =>
    obtain ⟨ht, hr⟩ := List.cons.inj ht
    exact ⟨by rw [Token.test.inj ht], hr⟩
  case cons.cons.cons.cons =>
    simp only [tokens, chain, List.cons_append, List.append_assoc, List.nil_append] at ht
    obtain ⟨ht, hr⟩ := List.cons.inj (List.cons.inj ht).2
    obtain ⟨hl, hr⟩ := group_append_inj hr
    exact ⟨congrArg₂ List.cons (Token.test.inj ht) hl, hr⟩
  case cons.nil.cons.cons => cases (List.cons.inj ht).1
  case cons.cons.cons.nil => cases (List.cons.inj ht).1
  all_goals contradiction

theorem linked_inj {items items' : List Outline} (h : ∀ o ∈ items, o.tests ≠ [])
    (h' : ∀ o ∈ items', o.tests ≠ [])
    (ht : (items.flatMap fun o => .link o.link :: o.tokens) =
      items'.flatMap fun o => .link o.link :: o.tokens) : items = items' := by
  induction items generalizing items' with
  | nil =>
    cases items' with
    | nil => rfl
    | cons o' rest' => cases ht
  | cons o rest ih =>
    cases items' with
    | nil => cases ht
    | cons o' rest' =>
      rw [List.forall_mem_cons] at h h'
      obtain ⟨hl, ha⟩ := List.cons.inj ht
      obtain ⟨hs, hr⟩ := tokens_append_inj h.1 h'.1 ha
      obtain rfl : o = o' := congrArg₂ mk (Token.link.inj hl) hs
      rw [ih h.2 h'.2 hr]

/-- The tokens tell the items, apart from the connective of the first one, which is not written. -/
theorem chained_inj {o o' : Outline} {rest rest' : List Outline} (h : ∀ i ∈ o :: rest, i.tests ≠ [])
    (h' : ∀ i ∈ o' :: rest', i.tests ≠ []) (hl : o.link = o'.link)
    (ht : chained (o :: rest) = chained (o' :: rest')) : o :: rest = o' :: rest' := by
  rw [List.forall_mem_cons] at h h'
  obtain ⟨hs, hr⟩ := tokens_append_inj h.1 h'.1 ht
  obtain rfl : o = o' := congrArg₂ mk hl hs
  rw [linked_inj h.2 h'.2 hr]

/-- The tests of an item with their own connectives. -/
def stamps (o : Outline) : List (Connective × Test.Outline) :=
  match o.tests with
  | [t] => [(o.link, t)]
  | tests => tests.map fun t => (.or, t)

/-- The items of a segment that continues a condition. -/
def continued : List Outline → List Outline
  | [] => []
  | o :: rest => { o with link := .and } :: rest

theorem map_continued (items : List Item) :
    (Item.continued items).map outline = continued (items.map outline) := by
  cases items <;> rfl

end Item.Outline

namespace Comparison

def stamp (p : Predicate) : Connective × Test.Outline :=
  (p.connective, .comparison p.column p.operator)

/-- The connective of a first comparison matters only if it makes a run with the second one, and is
taken to be `AND` otherwise. -/
def settle : List (Connective × Test.Outline) → List (Connective × Test.Outline)
  | [] => []
  | (.or, t) :: (.or, t') :: rest => (.or, t) :: (.or, t') :: rest
  | (_, t) :: rest => (.and, t) :: rest

/-- The comparisons without their values, each with its connective as far as that matters. -/
def settled (predicates : List Predicate) : List (Connective × Test.Outline) :=
  settle (predicates.map stamp)

def bothOr (s s' : Connective × Test.Outline) : Bool := s.1 == .or && s'.1 == .or

def outlineOf : List (Connective × Test.Outline) → Item.Outline
  | [s] => { link := s.1, tests := [s.2] }
  | run => { link := .and, tests := run.map Prod.snd }

def grouped (stamps : List (Connective × Test.Outline)) : List Item.Outline :=
  (stamps.splitBy bothOr).map outlineOf

theorem outline_itemOf (run : List Predicate) :
    (itemOf run).outline = outlineOf (run.map stamp) := by
  rcases run with - | ⟨p, - | ⟨p', rest⟩⟩
  · rfl
  · rfl
  · simp [itemOf, outlineOf, Item.outline, Test.outline, stamp]

theorem map_outline_items (predicates : List Predicate) :
    (items predicates).map Item.outline = grouped (predicates.map stamp) := by
  have hs : (predicates.map stamp).splitBy bothOr =
      (predicates.splitBy sameRun).map (List.map stamp) := splitBy_map stamp bothOr predicates
  rw [grouped, hs, items, List.map_map, List.map_map]
  exact List.map_congr_left fun run _ => outline_itemOf run

theorem stamps_outlineOf {run : List (Connective × Test.Outline)}
    (h : run.IsChain fun s s' => bothOr s s') : (outlineOf run).stamps = run := by
  rcases run with - | ⟨s, - | ⟨s', rest⟩⟩
  · rfl
  · rfl
  · have ho := forall_of_isChain (P := fun s : Connective × Test.Outline => s.1 == .or) h
    have hm : ∀ z ∈ s :: s' :: rest, (Connective.or, z.2) = id z := fun z hz =>
      Prod.ext (eq_of_beq (ho z hz)).symm rfl
    simpa [outlineOf, Item.Outline.stamps, Function.comp_def] using List.map_congr_left hm

/-- The groups tell the connectives from which they were made. -/
theorem stamps_grouped (stamps : List (Connective × Test.Outline)) :
    (grouped stamps).flatMap Item.Outline.stamps = stamps := by
  have hs : ∀ run ∈ stamps.splitBy bothOr, (outlineOf run).stamps = run := fun run hr =>
    stamps_outlineOf (List.isChain_of_mem_splitBy hr)
  rw [grouped, List.flatMap_map, List.flatMap_congr hs, List.flatMap_id',
    List.flatten_splitBy]

theorem grouped_injective : Function.Injective grouped := fun s s' h => by
  rw [← stamps_grouped s, h, stamps_grouped]

theorem grouped_cons {s : Connective × Test.Outline} {rest : List (Connective × Test.Outline)}
    (h : ∀ next ∈ rest.head?, bothOr s next = false) :
    grouped (s :: rest) = outlineOf [s] :: grouped rest := by
  have hs : ([s] ++ rest).splitBy bothOr = [s].splitBy bothOr ++ rest.splitBy bothOr :=
    List.splitBy_append (by simpa using h)
  rw [grouped, ← List.singleton_append, hs, List.map_append]
  rfl

/-- A run of several is linked by `AND`. -/
theorem grouped_of_run {s t : Connective × Test.Outline} (h : bothOr s t = true)
    (rest : List (Connective × Test.Outline)) :
    ∃ tests later, grouped (s :: t :: rest) = { link := .and, tests } :: later := by
  have hf := List.flatten_splitBy bothOr (s :: t :: rest)
  have he := List.nil_notMem_splitBy bothOr (s :: t :: rest)
  have hl := List.isChain_getLast_head_splitBy bothOr (s :: t :: rest)
  unfold grouped
  rcases hr : (s :: t :: rest).splitBy bothOr with - | ⟨run, later⟩
  · simp at hr
  rw [hr] at hf he hl
  rcases run with - | ⟨x, - | ⟨y, more⟩⟩
  · exact absurd List.mem_cons_self he
  · -- a run of one would end where the second one goes on with it
    rcases later with - | ⟨run, later⟩
    · cases hf
    rcases run with - | ⟨z, more⟩
    · exact absurd (by simp) he
    obtain ⟨⟨_, _, hb⟩, -⟩ := List.isChain_cons_cons.mp hl
    obtain ⟨rfl, hs⟩ := List.cons.inj hf
    obtain ⟨rfl, -⟩ := List.cons.inj hs
    exact absurd h (by simpa using hb)
  · exact ⟨_, _, rfl⟩

theorem continued_grouped (stamps : List (Connective × Test.Outline)) :
    Item.Outline.continued (grouped stamps) = grouped (settle stamps) := by
  fun_cases settle stamps with
  | case1 => rfl
  | case2 t t' rest =>
    obtain ⟨tests, later, hg⟩ := grouped_of_run (s := (.or, t)) (t := (.or, t')) rfl rest
    rw [hg]
    rfl
  | case3 link t rest h =>
    have hb : ∀ next ∈ rest.head?, bothOr (link, t) next = false := by
      intro next hn
      obtain ⟨later, rfl⟩ := List.head?_eq_some_iff.mp hn
      cases hl : link with
      | and => rfl
      | or =>
        cases hc : next.1 with
        | and => simp [bothOr, hc]
        | or => exact (h next.2 later (by rw [← hc]) hl).elim
    have hb' : ∀ next ∈ rest.head?, bothOr (.and, t) next = false := fun _ _ => rfl
    rw [grouped_cons hb, grouped_cons hb']
    rfl

end Comparison

def Test.Outline.family : Test.Outline → Filter
  | .comparison _ _ => .comparison
  | .inclusion _ _ => .inclusion
  | .pattern _ => .pattern
  | .range _ => .range

def Item.Outline.family? (o : Outline) : Option Filter := o.tests.head?.map Test.Outline.family

namespace Query

/-- The filter of a query whose values are bound later. -/
def preparedFilter (q : Query) : Except Fault String :=
  q.conditions.map fun segments => Text.join " " (segments.map (Template.fill true))

/-- All names in the filter are plain words, and no operator is a word for another kind of test. -/
structure Worded (q : Query) : Prop where
  comparisons : ∀ e ∈ q.comparisons.entries, e.2.column.IsWord ∧ e.2.operator.IsWord ∧
    e.2.operator.shown ∉ ["IN", "LIKE", "BETWEEN"]
  inclusions : ∀ e ∈ q.inclusions.entries, e.1.IsWord
  patterns : ∀ e ∈ q.patterns.entries, e.1.IsWord
  ranges : ∀ e ∈ q.ranges.entries, e.1.IsWord

theorem worded_iff {q : Query} : q.Worded ↔
    (∀ e ∈ q.comparisons.entries, e.2.column.IsWord ∧ e.2.operator.IsWord ∧
      e.2.operator.shown ∉ ["IN", "LIKE", "BETWEEN"]) ∧
    (∀ e ∈ q.inclusions.entries, e.1.IsWord) ∧ (∀ e ∈ q.patterns.entries, e.1.IsWord) ∧
    ∀ e ∈ q.ranges.entries, e.1.IsWord :=
  ⟨fun ⟨hc, hi, hp, hr⟩ => ⟨hc, hi, hp, hr⟩, fun ⟨hc, hi, hp, hr⟩ => ⟨hc, hi, hp, hr⟩⟩

instance : DecidablePred Worded := fun _ => decidable_of_iff _ worded_iff.symm

/-- The filters agree in everything but their values and the connective of a first comparison that
stands alone. -/
structure SameOutline (q r : Query) : Prop where
  comparisons : Comparison.settled (q.comparisons.entries.map Prod.snd) =
    Comparison.settled (r.comparisons.entries.map Prod.snd)
  inclusions : q.inclusions.entries.map (fun e => (e.1, e.2.length)) =
    r.inclusions.entries.map fun e => (e.1, e.2.length)
  patterns : q.patterns.entries.map Prod.fst = r.patterns.entries.map Prod.fst
  anyOf : 2 ≤ q.patterns.entries.length → q.patterns.anyOf = r.patterns.anyOf
  ranges : q.ranges.entries.map Prod.fst = r.ranges.entries.map Prod.fst

/-- The items of a family as they follow another segment, without their values. -/
def outlines (q : Query) (f : Filter) : List Item.Outline := (q.attached f).map Item.outline

theorem outlines_comparison (q : Query) : q.outlines .comparison =
    Comparison.grouped (Comparison.settled (q.comparisons.entries.map Prod.snd)) := by
  rw [outlines, attached, Item.Outline.map_continued, items, Comparison.map_outline_items,
    Comparison.continued_grouped]
  rfl

theorem outlines_inclusion (q : Query) : q.outlines .inclusion =
    (q.inclusions.entries.map fun e => (e.1, e.2.length)).map
      fun e => { link := .and, tests := [.inclusion e.1 e.2] } := by
  rw [outlines, attached, items]
  cases q.inclusions.entries <;> simp [Item.continued, Item.outline, Test.outline]

theorem outlines_range (q : Query) : q.outlines .range =
    (q.ranges.entries.map Prod.fst).map fun column => { link := .and, tests := [.range column] } := by
  rw [outlines, attached, items]
  cases q.ranges.entries <;> simp [Item.continued, Item.outline, Test.outline]

theorem outlines_pattern (q : Query) : q.outlines .pattern =
    Item.Outline.continued ((q.patterns.entries.map Prod.fst).map fun column =>
      { link := if q.patterns.anyOf then .or else .and, tests := [.pattern column] }) := by
  rw [outlines, attached, items, Item.Outline.map_continued, List.map_map, List.map_map]
  rfl

theorem tests_ne_nil_of_mem_outlines {q : Query} {f : Filter} {o : Item.Outline}
    (h : o ∈ q.outlines f) : o.tests ≠ [] := by
  obtain ⟨i, hi, rfl⟩ := List.mem_map.mp h
  obtain ⟨i', hi', ht⟩ := exists_of_mem_attached hi
  simpa [Item.outline, ht] using tests_ne_nil hi'

theorem family?_of_mem_outlines {q : Query} {f : Filter} {o : Item.Outline}
    (h : o ∈ q.outlines f) : o.family? = some f := by
  obtain ⟨i, hi, rfl⟩ := List.mem_map.mp h
  obtain ⟨i', hi', ht⟩ := exists_of_mem_attached hi
  obtain ⟨t, rest, hr⟩ := List.exists_cons_of_ne_nil (tests_ne_nil hi')
  have hf : t.family = f := family_of_mem hi' (hr ▸ List.mem_cons_self)
  have ho : t.outline.family = t.family := by cases t <;> rfl
  simp [Item.outline, Item.Outline.family?, ht, hr, ho, hf]

/-- All items of the filter, without their values. -/
def outlined (q : Query) : List Item.Outline := q.allItems.map Item.outline

theorem outlined_eq (q : Query) : q.outlined = Filter.all.flatMap q.outlines := by
  have ha : ∀ f, q.size f = 0 → q.attached f = [] := by
    intro f hf
    cases f <;> simp_all [size, attached, items, Comparison.items, Item.continued]
  rw [outlined, allItems, filters, flatMap_filters q Filter.all q.attached ha, List.map_flatMap]
  rfl

/-- The items of a family are told apart from the others by their tests. -/
theorem outlines_eq_filter (q : Query) (f : Filter) :
    q.outlines f = q.outlined.filter fun o => o.family? == some f := by
  have hf : ∀ g, (q.outlines g).filter (fun o => o.family? == some f) =
      if g = f then q.outlines g else [] := by
    intro g
    split
    · next h => exact List.filter_eq_self.mpr fun o ho => by simp [family?_of_mem_outlines ho, h]
    · next h => exact List.filter_eq_nil_iff.mpr fun o ho => by simp [family?_of_mem_outlines ho, h]
  rw [outlined_eq, List.filter_flatMap]
  simp only [hf]
  cases f <;> simp [Filter.all]

theorem outlined_eq_iff {q r : Query} :
    q.outlined = r.outlined ↔ ∀ f, q.outlines f = r.outlines f := by
  constructor
  · intro h f
    rw [outlines_eq_filter, outlines_eq_filter, h]
  · intro h
    rw [outlined_eq, outlined_eq, funext h]

theorem continued_patterns_eq_iff {columns columns' : List Value} {link link' : Connective} :
    Item.Outline.continued (columns.map fun column => ⟨link, [.pattern column]⟩) =
      Item.Outline.continued (columns'.map fun column => ⟨link', [.pattern column]⟩) ↔
    columns = columns' ∧ (2 ≤ columns.length → link = link') := by
  have hi : ∀ link, Function.Injective fun column : Value =>
      (⟨link, [.pattern column]⟩ : Item.Outline) := fun link _ _ h => by simpa using h
  rcases columns with - | ⟨c, - | ⟨c₂, rest⟩⟩ <;> rcases columns' with - | ⟨c', - | ⟨c₂', rest'⟩⟩
  case cons.cons.cons.cons =>
    by_cases hl : link = link'
    · subst hl
      have hr := (List.map_injective_iff.mpr (hi link)).eq_iff (a := rest) (b := rest')
      simp [Item.Outline.continued, hr]
    · simp [Item.Outline.continued, hl]
  all_goals simp [Item.Outline.continued]

theorem outlines_eq_iff {q r : Query} : (∀ f, q.outlines f = r.outlines f) ↔ q.SameOutline r := by
  have hc : q.outlines .comparison = r.outlines .comparison ↔
      Comparison.settled (q.comparisons.entries.map Prod.snd) =
        Comparison.settled (r.comparisons.entries.map Prod.snd) := by
    rw [outlines_comparison, outlines_comparison]
    exact Comparison.grouped_injective.eq_iff
  have hi : q.outlines .inclusion = r.outlines .inclusion ↔
      q.inclusions.entries.map (fun e => (e.1, e.2.length)) =
        r.inclusions.entries.map fun e => (e.1, e.2.length) := by
    rw [outlines_inclusion, outlines_inclusion]
    exact (List.map_injective_iff.mpr fun e e' h => by
      simpa [Prod.ext_iff] using h).eq_iff
  have hp : q.outlines .pattern = r.outlines .pattern ↔
      q.patterns.entries.map Prod.fst = r.patterns.entries.map Prod.fst ∧
        (2 ≤ q.patterns.entries.length → q.patterns.anyOf = r.patterns.anyOf) := by
    rw [outlines_pattern, outlines_pattern, continued_patterns_eq_iff, List.length_map]
    cases q.patterns.anyOf <;> cases r.patterns.anyOf <;> simp
  have hr : q.outlines .range = r.outlines .range ↔
      q.ranges.entries.map Prod.fst = r.ranges.entries.map Prod.fst := by
    rw [outlines_range, outlines_range]
    exact (List.map_injective_iff.mpr fun c c' h => by simpa using h).eq_iff
  constructor
  · intro h
    have hp := hp.mp (h .pattern)
    exact ⟨hc.mp (h .comparison), hi.mp (h .inclusion), hp.1, hp.2, hr.mp (h .range)⟩
  · intro h f
    cases f with
    | comparison => exact hc.mpr h.comparisons
    | inclusion => exact hi.mpr h.inclusions
    | pattern => exact hp.mpr ⟨h.patterns, h.anyOf⟩
    | range => exact hr.mpr h.ranges

/-- The first item of the filter is written without a connective. -/
theorem exists_outlined {q : Query} (hn : q.filters ≠ []) :
    ∃ o rest, q.outlined = o :: rest ∧ o.link = .and := by
  obtain ⟨f, later, hf⟩ := List.exists_cons_of_ne_nil hn
  have hm : f ∈ q.filters := hf ▸ List.mem_cons_self
  obtain ⟨i, rest, hi⟩ := List.exists_cons_of_ne_nil (items_ne_nil hm)
  refine ⟨_, _, by simp [outlined, allItems, hf, attached, hi, Item.continued]; exact ⟨rfl, rfl⟩, rfl⟩

theorem tests_ne_nil_of_mem_outlined {q : Query} {o : Item.Outline} (h : o ∈ q.outlined) :
    o.tests ≠ [] := by
  rw [outlined_eq] at h
  obtain ⟨f, -, ho⟩ := List.mem_flatMap.mp h
  exact tests_ne_nil_of_mem_outlines ho

theorem tokens_outlined (q : Query) :
    q.tokens.map (Token.map Test.outline) = Item.Outline.chained q.outlined := by
  rw [tokens_eq_chained, Item.Outline.map_chained]
  rfl

theorem Worded.outline {q : Query} (h : q.Worded) {f : Filter} {i : Item} {t : Test}
    (hi : i ∈ q.items f) (ht : t ∈ i.tests) : t.outline.Worded := by
  cases f with
  | comparison =>
    obtain ⟨run, hr, rfl⟩ := List.mem_map.mp hi
    rw [Comparison.itemOf_tests] at ht
    obtain ⟨p, hp, rfl⟩ := List.mem_map.mp ht
    have hm := List.mem_flatten_of_mem hr hp
    rw [List.flatten_splitBy] at hm
    obtain ⟨e, he, rfl⟩ := List.mem_map.mp hm
    exact h.comparisons e he
  | inclusion =>
    obtain ⟨e, he, rfl⟩ := List.mem_map.mp hi
    exact List.mem_singleton.mp ht ▸ h.inclusions e he
  | pattern =>
    obtain ⟨e, he, rfl⟩ := List.mem_map.mp hi
    exact List.mem_singleton.mp ht ▸ h.patterns e he
  | range =>
    obtain ⟨e, he, rfl⟩ := List.mem_map.mp hi
    exact List.mem_singleton.mp ht ▸ h.ranges e he

theorem Worded.tokens {q : Query} (h : q.Worded) :
    ∀ t ∈ q.tokens.map (Token.map Test.outline), t.Worded := by
  rw [List.forall_mem_map, tokens_eq_chained]
  intro t ht
  cases t with
  | test a =>
    have ha : a ∈ (Item.chained q.allItems).filterMap Token.test? :=
      List.mem_filterMap.mpr ⟨_, ht, rfl⟩
    rw [Item.filterMap_test?_chained] at ha
    obtain ⟨i, hi, ha⟩ := List.mem_flatMap.mp ha
    obtain ⟨f, -, hi⟩ := List.mem_flatMap.mp hi
    obtain ⟨i', hi', hs⟩ := exists_of_mem_attached hi
    exact h.outline hi' (hs ▸ ha)
  | link connective => trivial
  | opening => trivial
  | closing => trivial

theorem Coherent.preparedFilter_eq {q : Query} (h : q.Coherent) (hn : q.filters ≠ []) :
    q.preparedFilter = .ok ("WHERE " ++ (spell q.tokens).fill true) := by
  obtain ⟨segments, hs, ht⟩ := h.writes_tokens hn
  rw [preparedFilter, hs, ← ht true]
  rfl

/-- The tokens tell the items, since the first item continues nothing. -/
theorem tokens_eq_iff {q r : Query} (hq : q.filters ≠ []) (hr : r.filters ≠ []) :
    q.tokens.map (Token.map Test.outline) = r.tokens.map (Token.map Test.outline) ↔
      q.outlined = r.outlined := by
  obtain ⟨o, rest, ho, hl⟩ := exists_outlined hq
  obtain ⟨o', rest', ho', hl'⟩ := exists_outlined hr
  have hn : ∀ i ∈ o :: rest, i.tests ≠ [] := fun i hi => tests_ne_nil_of_mem_outlined (ho ▸ hi)
  have hn' : ∀ i ∈ o' :: rest', i.tests ≠ [] := fun i hi => tests_ne_nil_of_mem_outlined (ho' ▸ hi)
  rw [tokens_outlined, tokens_outlined, ho, ho']
  exact ⟨Item.Outline.chained_inj hn hn' (hl.trans hl'.symm), congrArg _⟩

/-- With placeholders, two filters have the same text exactly when they agree in everything but
their values and the connective of a first comparison that stands alone. -/
theorem preparedFilter_eq_iff {q r : Query} (hq : q.Reachable) (hr : r.Reachable)
    (hqn : q.filters ≠ []) (hrn : r.filters ≠ []) (hqw : q.Worded) (hrw : r.Worded) :
    (∃ text, q.preparedFilter = .ok text) ∧
    (q.preparedFilter = r.preparedFilter ↔ q.SameOutline r) := by
  have hf := hq.coherent.preparedFilter_eq hqn
  refine ⟨⟨_, hf⟩, ?_⟩
  rw [hf, hr.coherent.preparedFilter_eq hrn, ← outlines_eq_iff, ← outlined_eq_iff,
    ← tokens_eq_iff hqn hrn, Except.ok.injEq, String.append_right_inj, ← String.toList_inj,
    fill_spell, fill_spell]
  exact ⟨Token.flatMap_text_inj hqw.tokens hrw.tokens, congrArg _⟩

/-- Whether the first comparison is linked by `AND` or is the only one linked by `OR` cannot be
seen. -/
theorem preparedFilter_of_lone_or :
    let q := ({} : Query).applyAll [
      .compareAll .or (.map [(.text "a", .int 1)]), .compareAll .and (.map [(.text "b", .int 2)]),
      .member (.text "c") (.list [.int 3, .int 4]), .like (.text "d") (.text "x%") (.bool true),
      .like (.text "e") (.text "y%") .null, .between (.text "f") (.tuple [.int 5, .int 6])]
    let r := ({} : Query).applyAll [
      .between (.text "f") (.list [.null, .null]), .compare (.text "a") (.text "u") .null,
      .compare (.text "b") (.text "v") .null, .like (.text "d") (.text "u%") .null,
      .like (.text "e") (.text "v%") (.bool true), .member (.text "c") (.tuple [.null, .text "w"])]
    q.Reachable ∧ r.Reachable ∧ q.filters ≠ [] ∧ r.filters ≠ [] ∧ q.Worded ∧ r.Worded ∧
    q.SameOutline r ∧
    q.comparisons.entries.map (fun e => e.2.connective) = [.or, .and] ∧
    r.comparisons.entries.map (fun e => e.2.connective) = [.and, .and] ∧
    q.preparedFilter = .ok ("WHERE a = ? AND b = ? AND c IN (?,?) AND d LIKE ? OR e LIKE ? AND " ++
      "f BETWEEN ? AND ?") ∧
    r.preparedFilter = q.preparedFilter := by
  intro q r
  have hq : q.Reachable := ⟨.value .null, {}, _, rfl, rfl⟩
  have hr : r.Reachable := ⟨.value .null, {}, _, rfl, rfl⟩
  have hqn : q.filters ≠ [] := by decide +kernel
  have hrn : r.filters ≠ [] := by decide +kernel
  have hqw : q.Worded := by decide +kernel
  have hrw : r.Worded := by decide +kernel
  have hs : q.SameOutline r := ⟨rfl, rfl, rfl, fun _ => rfl, rfl⟩
  exact ⟨hq, hr, hqn, hrn, hqw, hrw, hs, rfl, rfl, eq_ok_of_toOption (by decide +kernel),
    ((preparedFilter_eq_iff hq hr hqn hrn hqw hrw).2.mpr hs).symm⟩

end Query

end FluentSql
