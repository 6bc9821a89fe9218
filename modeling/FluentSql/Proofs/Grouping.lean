import FluentSql.Proofs.Reading
import FluentSql.Proofs.Segments
import Mathlib.Data.List.SplitBy

/-! The tests of a query in the groups in which they are written. Main result: the filter's text is
that of its tests, in order, with the connectives and parentheses that the groups ask for. -/
namespace FluentSql

/-- A single test, which a row passes or not. -/
inductive Test where
  | comparison (p : Predicate)
  | inclusion (column : Value) (candidates : List Value)
  | pattern (column like : Value)
  | range (column low high : Value)

namespace Test

def family : Test → Filter
  | .comparison _ => .comparison
  | .inclusion _ _ => .inclusion
  | .pattern _ _ => .pattern
  | .range _ _ _ => .range

def template : Test → Template
  | .comparison p => p.term
  | .inclusion column candidates => Inclusion.member column candidates
  | .pattern column like => Pattern.test column like
  | .range column low high => Range.test column low high

end Test

/-- A test, or several tests linked by `OR` in parentheses, with the connective before it. -/
structure Item where
  link : Connective
  tests : List Test

namespace Item

def tokens (i : Item) : List (Token Test) :=
  match i.tests with
  | [t] => [.test t]
  | tests => .opening :: chain (fun _ => .or) (fun t => [.test t]) tests ++ [.closing]

/-- The tokens of items in order. -/
def chained (items : List Item) : List (Token Test) := chain link tokens items

end Item

namespace Comparison

def sameRun (p p' : Predicate) : Bool := p.connective == .or && p'.connective == .or

/-- A run of several comparisons is linked by `AND`, whatever links them to each other. -/
def itemOf : List Predicate → Item
  | [p] => { link := p.connective, tests := [.comparison p] }
  | run => { link := .and, tests := run.map .comparison }

/-- One item for each comparison linked by `AND` and for each longest run of neighbours linked by
`OR`. -/
def items (predicates : List Predicate) : List Item := (predicates.splitBy sameRun).map itemOf

end Comparison

namespace Query

/-- Only comparisons are grouped. -/
def items (q : Query) : Filter → List Item
  | .comparison => Comparison.items (q.comparisons.entries.map Prod.snd)
  | .inclusion => q.inclusions.entries.map fun e => ⟨.and, [.inclusion e.1 e.2]⟩
  | .pattern =>
    q.patterns.entries.map fun e => ⟨if q.patterns.anyOf then .or else .and, [.pattern e.1 e.2]⟩
  | .range => q.ranges.entries.map fun e => ⟨.and, [.range e.1 e.2.1 e.2.2]⟩

/-- The filter's segments, linked by `AND` and not put in parentheses. -/
def tokens (q : Query) : List (Token Test) :=
  chain (fun _ => .and) (fun f => Item.chained (q.items f)) q.filters

end Query

def Connective.joiner : Connective → String
  | .and => " AND "
  | .or => " OR "

def Token.template : Token Test → Template
  | .test t => t.template
  | .link connective => [.text connective.joiner]
  | .opening => [.text "("]
  | .closing => [.text ")"]

/-- The text of tokens, with slots for the values. -/
def spell (ts : List (Token Test)) : Template := ts.flatMap Token.template

theorem spell_append (ts us : List (Token Test)) : spell (ts ++ us) = spell ts ++ spell us :=
  List.flatMap_append

/-- A chain with one and the same connective is written with that connective between neighbours. -/
theorem spell_chain {β : Type} {link : β → Connective} {c : Connective} (h : ∀ x, link x = c)
    (tokens : β → List (Token Test)) (xs : List β) :
    spell (chain link tokens xs) = Template.join c.joiner (xs.map fun x => spell (tokens x)) := by
  cases xs with
  | nil => rfl
  | cons x rest =>
    rw [List.map_cons, Template.join_cons, chain, spell_append]
    simp only [spell, List.flatMap_assoc, List.flatMap_cons, List.flatMap_map, Token.template, h,
      List.singleton_append]

theorem spell_test (t : Test) : spell [.test t] = t.template := by
  simp [spell, Token.template]

/-- Items of one test each stand side by side. -/
theorem spell_single {β : Type} {link : β → Connective} {c : Connective} (h : ∀ x, link x = c)
    (test : β → Test) (xs : List β) :
    spell (Item.chained (xs.map fun x => ⟨link x, [test x]⟩)) =
      Template.join c.joiner (xs.map fun x => (test x).template) := by
  have hc : Item.chained (xs.map fun x => ⟨link x, [test x]⟩) =
      chain link (fun x => [.test (test x)]) xs := by
    cases xs <;> simp [Item.chained, chain, Item.tokens, List.flatMap_map]
  rw [hc, spell_chain h]
  simp only [spell_test]

theorem Text.join_continued (word s : String) (rest : List String) :
    join " " ((word ++ s) :: rest.map ("AND " ++ ·)) = word ++ join " AND " (s :: rest) := by
  induction rest generalizing word s with
  | nil => rfl
  | cons t rest ih =>
    have hs : " " ++ "AND " = " AND " := rfl
    rw [List.map_cons, join, ih, join, ← hs]
    simp only [String.append_assoc]

/-- Segments one space apart are their conditions with the opening word before the first one. -/
theorem Text.join_opened {conditions : List String} (h : conditions ≠ []) :
    join " " (opened conditions) = "WHERE " ++ join " AND " conditions := by
  obtain ⟨s, rest, rfl⟩ := List.exists_cons_of_ne_nil h
  exact join_continued "WHERE " s rest

namespace Comparison

/-- What is written for the items so far. -/
def writtenItems (done : List Item) : Option Template :=
  if done.isEmpty then none else some (spell (Item.chained done))

/-- Every item after the first one is attached with its own connective. -/
theorem attach_item (done : List Item) (i : Item) :
    some (attach i.link.joiner (spell i.tokens) (writtenItems done)) =
      writtenItems (done ++ [i]) := by
  cases done with
  | nil => simp [writtenItems, attach, Item.chained, chain]
  | cons d rest =>
    have hc : Item.chained (d :: rest ++ [i]) =
        Item.chained (d :: rest) ++ .link i.link :: i.tokens := by
      rw [Item.chained, chain_append Item.link Item.tokens (by simp)]
      simp [Item.chained]
    have hl : spell (.link i.link :: i.tokens) = .text i.link.joiner :: spell i.tokens := rfl
    simp only [writtenItems, List.isEmpty_cons, attach, hc, spell_append, hl]
    rfl

theorem spell_itemOf_single (p : Predicate) : spell (itemOf [p]).tokens = p.term :=
  spell_test (.comparison p)

theorem spell_itemOf_run (p p' : Predicate) (rest : List Predicate) :
    spell (itemOf (p :: p' :: rest)).tokens = group ((p :: p' :: rest).map Predicate.term) := by
  have hc : spell (chain (fun _ => Connective.or) (fun t => [.test t])
      ((p :: p' :: rest).map Test.comparison)) =
      Template.join " OR " ((p :: p' :: rest).map Predicate.term) := by
    rw [spell_chain fun _ => rfl, List.map_map]
    simp only [Function.comp_def, spell_test]
    rfl
  have ht : spell (itemOf (p :: p' :: rest)).tokens =
      .text "(" :: (spell (chain (fun _ => Connective.or) (fun t => [.test t])
        ((p :: p' :: rest).map Test.comparison) ++ [.closing])) := rfl
  rw [ht, spell_append, hc]
  rfl

theorem items_of_run {run : List Predicate} (hn : run ≠ []) (h : ∀ p ∈ run, p.connective = .or) :
    items run = [itemOf run] := by
  have hc : run.IsChain fun p p' => sameRun p p' :=
    List.Pairwise.isChain (List.pairwise_of_forall_mem_list fun p hp p' hp' => by
      simp [sameRun, h p hp, h p' hp'])
  rw [items, List.splitBy_of_isChain hn hc, List.map_singleton]

/-- A comparison that makes no run with the next one stands alone, if it is the first. -/
theorem items_cons {p : Predicate} {after : List Predicate}
    (h : ∀ next ∈ after.head?, sameRun p next = false) :
    items (p :: after) = itemOf [p] :: items after := by
  have hs : ([p] ++ after).splitBy sameRun = [p].splitBy sameRun ++ after.splitBy sameRun :=
    List.splitBy_append (by simpa using h)
  rw [← List.singleton_append, items, hs, List.map_append]
  rfl

/-- A comparison linked by `AND` ends the run before it and stands alone. -/
theorem items_append {p : Predicate} (hp : p.connective = .and) (before after : List Predicate) :
    items (before ++ p :: after) = items before ++ itemOf [p] :: items after := by
  have hb : (before ++ p :: after).splitBy sameRun =
      before.splitBy sameRun ++ (p :: after).splitBy sameRun :=
    List.splitBy_append_cons after fun p' _ => by simp [sameRun, hp]
  rw [← items_cons fun next _ => by simp [sameRun, hp], items, hb, List.map_append]
  rfl

theorem flush_items (done : List Item) {run : List Predicate}
    (h : ∀ p ∈ run, p.connective = .or) :
    flush (writtenItems done) (run.map Predicate.term) = writtenItems (done ++ items run) := by
  rcases run with - | ⟨p, - | ⟨p', rest⟩⟩
  · simp [flush, items]
  · have hp : (itemOf [p]).link.joiner = " OR " := congrArg Connective.joiner (h p (by simp))
    rw [items_of_run (by simp) h, ← attach_item, spell_itemOf_single, hp]
    rfl
  · rw [items_of_run (by simp) h, ← attach_item, spell_itemOf_run]
    rfl

/-- The walk writes the items one after the other; its open run is an item still to come. -/
theorem walk_items (done : List Item) {run : List Predicate}
    (h : ∀ p ∈ run, p.connective = .or) (predicates : List Predicate) :
    walk (writtenItems done) (run.map Predicate.term) predicates =
      writtenItems (done ++ items (run ++ predicates)) := by
  induction predicates generalizing done run with
  | nil => rw [List.append_nil]; exact flush_items done h
  | cons p rest ih =>
    cases hc : p.connective with
    | or =>
      have hr : ∀ p' ∈ run ++ [p], p'.connective = .or := by
        simpa [or_imp, forall_and, hc] using h
      rw [walk, hc]
      have hi := ih done hr
      rw [List.map_append, List.append_assoc] at hi
      exact hi
    | and =>
      have hp : (itemOf [p]).link.joiner = " AND " := congrArg Connective.joiner hc
      have ha := attach_item (done ++ items run) (itemOf [p])
      rw [spell_itemOf_single, hp] at ha
      have hi := @ih (done ++ items run ++ [itemOf [p]]) [] (by simp)
      rw [walk, hc, items_append hc]
      simp only [flush_items done h, ha]
      simpa using hi

theorem condition_eq_spell (predicates : List Predicate) :
    condition predicates = spell (Item.chained (items predicates)) := by
  have hw : walk none [] predicates = writtenItems (items predicates) :=
    @walk_items [] [] (by simp) predicates
  rw [condition, hw]
  cases items predicates <;> rfl

end Comparison

namespace Query

theorem condition_eq_spell (q : Query) (f : Filter) :
    q.condition f = spell (Item.chained (q.items f)) := by
  cases f with
  | comparison => exact Comparison.condition_eq_spell _
  | inclusion =>
    rw [items, spell_single fun _ => rfl]
    rfl
  | pattern =>
    rw [items, spell_single fun _ => rfl]
    cases ha : q.patterns.anyOf <;> simp only [condition, ha] <;> rfl
  | range =>
    rw [items, spell_single fun _ => rfl]
    rfl

theorem spell_tokens (q : Query) :
    spell q.tokens = Template.join " AND " (q.filters.map q.condition) := by
  rw [tokens, spell_chain fun _ => rfl]
  simp only [← condition_eq_spell]
  rfl

/-- The filter's segments, one space apart, have the text of the tokens. -/
def Writes (q : Query) (ts : List (Token Test)) : Prop :=
  ∃ segments, q.conditions = .ok segments ∧
    ∀ prepared, Text.join " " (segments.map (Template.fill prepared)) =
      "WHERE " ++ (spell ts).fill prepared

theorem Coherent.writes_tokens {q : Query} (h : q.Coherent) (hn : q.filters ≠ []) :
    q.Writes q.tokens := by
  refine ⟨_, h.conditions_eq, fun prepared => ?_⟩
  rw [Template.fill_opened, spell_tokens, Template.fill_join]
  exact Text.join_opened (by simpa using hn)

end Query

end FluentSql
