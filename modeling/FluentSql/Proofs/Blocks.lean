import FluentSql.Proofs.Restriction
import FluentSql.Proofs.Wording

/-! What a list of comparisons says. It is cut into runs: single comparisons linked by `AND`, and
longest runs of comparisons linked by `OR`. Main result: the segment is the text of these runs, and
it means the disjunction of its blocks, each of which is the conjunction of its runs. -/
namespace FluentSql

/-- Where each entry of a list settles the next one, all but the first are settled. -/
theorem forall_tail_of_isChain {α : Type} {P : α → Prop} {xs : List α}
    (h : xs.IsChain fun _ next => P next) : ∀ x ∈ xs.tail, P x := by
  induction xs with
  | nil => simp
  | cons x rest ih =>
    cases rest with
    | nil => simp
    | cons y later =>
      obtain ⟨hy, hl⟩ := List.isChain_cons_cons.mp h
      exact List.forall_mem_cons.mpr ⟨hy, ih hl⟩

/-- Where any two neighbours share a property, all entries have it. -/
theorem forall_of_isChain {α : Type} {P : α → Bool} {x y : α} {rest : List α}
    (h : (x :: y :: rest).IsChain fun z next => P z && P next) : ∀ z ∈ x :: y :: rest, P z := by
  have hx := (Bool.and_eq_true_iff.mp (List.isChain_cons_cons.mp h).1).1
  have hc : (x :: y :: rest).IsChain fun _ next => P next = true :=
    h.imp fun _ _ hs => (Bool.and_eq_true_iff.mp hs).2
  exact List.forall_mem_cons.mpr ⟨hx, forall_tail_of_isChain hc⟩

/-- The test that a token stands for, if it is one. -/
def Token.test? {α : Type} : Token α → Option α
  | .test a => some a
  | .link _ | .opening | .closing => none

namespace Item

/-- A block begins with the first item and with every later one that is attached with `OR`. -/
def blocks (items : List Item) : List (List Item) := items.splitBy fun _ next => next.link == .and

/-- Blocks side by side are alternatives, if each but the first one is attached with `OR`. -/
theorem meaning_flatten (row : Test → Bool) {blocks : List (List Item)} (hn : blocks ≠ [])
    (he : [] ∉ blocks) (ha : ∀ block ∈ blocks, ∀ i ∈ block.tail, i.link = .and)
    (ho : ∀ block ∈ blocks.tail, ∀ i ∈ block.head?, i.link = .or) :
    meaning (truths row blocks.flatten) = blocks.any fun block => block.all (holds row) := by
  induction blocks with
  | nil => exact absurd rfl hn
  | cons block rest ih =>
    have hb : meaning (truths row block) = block.all (holds row) := by
      have hl : ∀ e ∈ (truths row block).tail, e.1 = .and := by
        rw [truths, ← List.map_tail]
        exact List.forall_mem_map.mpr (ha block List.mem_cons_self)
      rw [meaning_of_and hl, truths, List.all_map]
      rfl
    rw [List.mem_cons, not_or] at he
    cases rest with
    | nil => simpa using hb
    | cons next later =>
      obtain ⟨i, items, rfl⟩ := List.exists_cons_of_ne_nil fun h => he.2 (h ▸ List.mem_cons_self)
      have hi : i.link = .or := ho _ List.mem_cons_self i rfl
      have hr := ih (by simp) he.2 (fun b hm => ha b (List.mem_cons_of_mem block hm))
        fun b hm => ho b (List.mem_cons_of_mem _ hm)
      have hs : truths row (block :: (i :: items) :: later).flatten =
          truths row block ++ (i.link, i.holds row) :: truths row (items ++ later.flatten) := by
        simp [truths]
      have ht : truths row block ≠ [] := by simpa [truths] using Ne.symm he.1
      rw [hs, meaning_append ht hi, hb, List.any_cons, ← hr]
      simp [truths]

theorem meaning_blocks (row : Test → Bool) {items : List Item} (hn : items ≠ []) :
    meaning (truths row items) = (blocks items).any fun block => block.all (holds row) := by
  have hf : (blocks items).flatten = items := List.flatten_splitBy _ items
  have he : [] ∉ blocks items := List.nil_notMem_splitBy _ items
  have hb : blocks items ≠ [] := List.splitBy_ne_nil.mpr hn
  have ha : ∀ block ∈ blocks items, ∀ i ∈ block.tail, i.link = .and := fun block hb =>
    forall_tail_of_isChain <| (List.isChain_of_mem_splitBy hb).imp fun _ _ h => by
      simpa using h
  have ho : ∀ block ∈ (blocks items).tail, ∀ i ∈ block.head?, i.link = .or :=
    forall_tail_of_isChain <| (List.isChain_getLast_head_splitBy _ items).imp
      fun _ next ⟨_, hb, h⟩ i hi => by
        rw [List.head?_eq_some_head hb, Option.mem_some_iff] at hi
        cases hl : i.link with
        | and => simp [hi, hl] at h
        | or => rfl
  rw [← meaning_flatten row hb he ha ho, hf]

theorem filterMap_test?_tokens {i : Item} : i.tokens.filterMap Token.test? = i.tests := by
  obtain ⟨link, tests⟩ := i
  have hr : ∀ tests : List Test, (tests.flatMap fun t => [.link Connective.or, .test t]).filterMap
      Token.test? = tests := by
    intro tests
    induction tests with
    | nil => rfl
    | cons t rest ih => simp [List.filterMap_cons, Token.test?, ih]
  rcases tests with - | ⟨t, - | ⟨t', rest⟩⟩
  · rfl
  · rfl
  · simp [tokens, chain, List.filterMap_cons, Token.test?, hr]

/-- The tokens of items hold the tests of the items and no others. -/
theorem filterMap_test?_chained (items : List Item) :
    (chained items).filterMap Token.test? = items.flatMap tests := by
  cases items with
  | nil => rfl
  | cons i rest =>
    simp only [chained, chain, List.filterMap_append, List.filterMap_flatMap, List.filterMap_cons,
      Token.test?, filterMap_test?_tokens, List.flatMap_cons]

end Item

namespace Comparison

def LinkedByOr (run : List Predicate) : Prop := ∀ p ∈ run, p.connective = .or

/-- The way of cutting comparisons into runs: one for each comparison linked by `AND`, and one for
each longest row of neighbours linked by `OR`. -/
structure Cut (predicates : List Predicate) (runs : List (List Predicate)) : Prop where
  flatten : runs.flatten = predicates
  run : ∀ run ∈ runs, (∃ p, run = [p] ∧ p.connective = .and) ∨ run ≠ [] ∧ LinkedByOr run
  longest : runs.IsChain fun run next => ¬ (LinkedByOr run ∧ LinkedByOr next)

theorem cut_splitBy (predicates : List Predicate) :
    Cut predicates (predicates.splitBy sameRun) where
  flatten := List.flatten_splitBy sameRun predicates
  run := by
    intro run hr
    have hn := List.ne_nil_of_mem_splitBy hr
    have hc := List.isChain_of_mem_splitBy hr
    rcases run with - | ⟨p, - | ⟨p', rest⟩⟩
    · exact absurd rfl hn
    · cases hp : p.connective with
      | and => exact .inl ⟨p, rfl, hp⟩
      | or => exact .inr ⟨hn, by simp [LinkedByOr, hp]⟩
    · have ho := forall_of_isChain (P := fun p : Predicate => p.connective == .or) hc
      exact .inr ⟨hn, fun p hp => by simpa using ho p hp⟩
  longest := (List.isChain_getLast_head_splitBy sameRun predicates).imp
    fun run next ⟨ha, hb, h⟩ ⟨hr, hx⟩ => by
      simp [sameRun, hr _ (List.getLast_mem ha), hx _ (List.head_mem hb)] at h

/-- There is only one way to cut comparisons. -/
theorem Cut.eq_splitBy {predicates : List Predicate} {runs : List (List Predicate)}
    (h : Cut predicates runs) : runs = predicates.splitBy sameRun := by
  have hn : [] ∉ runs := by
    intro hm
    rcases h.run [] hm with ⟨p, hp, -⟩ | ⟨hp, -⟩
    · cases hp
    · exact hp rfl
  have hc : ∀ run ∈ runs, run.IsChain fun p p' => sameRun p p' := by
    intro run hr
    rcases h.run run hr with ⟨p, rfl, -⟩ | ⟨-, ho⟩
    · exact List.isChain_singleton p
    · exact List.Pairwise.isChain (List.pairwise_of_forall_mem_list fun p hp p' hp' => by
        simp [sameRun, ho p hp, ho p' hp'])
  have hl : runs.IsChain fun run next =>
      ∃ ha hb, sameRun (run.getLast ha) (next.head hb) = false := by
    refine h.longest.imp_of_mem_imp fun run next hr hx hs => ?_
    refine ⟨fun he => hn (he ▸ hr), fun he => hn (he ▸ hx), ?_⟩
    rcases h.run run hr with ⟨p, rfl, hp⟩ | ⟨-, ho⟩
    · simp [sameRun, hp]
    · rcases h.run next hx with ⟨p, rfl, hp⟩ | ⟨-, ho'⟩
      · simp [sameRun, hp]
      · exact absurd ⟨ho, ho'⟩ hs
  exact (List.splitBy_eq_iff.mpr ⟨h.flatten.symm, hn, hc, hl⟩).symm

/-- The segment is the text of the runs, in which each comparison stands once and in order, with its
value in double quotes or a placeholder, and it is read as an alternative of blocks. -/
theorem segmentOf_cut {entries : List (Value × Predicate)} (hn : entries ≠ []) :
    (∃! runs, Cut (entries.map Prod.snd) runs) ∧
    ∀ runs, Cut (entries.map Prod.snd) runs →
      (∃ t, segmentOf (.entries (entries.map fun e => (e.1, .predicate e.2))) = .ok t ∧
        ∀ prepared, t.fill prepared =
          "WHERE " ++ spelled prepared (Item.chained (runs.map itemOf))) ∧
      (∀ p : Predicate,
        (Test.comparison p).wording true =
          p.column.shown ++ " " ++ p.operator.shown ++ " " ++ "?" ∧
        (Test.comparison p).wording false =
          p.column.shown ++ " " ++ p.operator.shown ++ " " ++
            ("\x22" ++ p.value.shown ++ "\x22")) ∧
      (Item.chained (runs.map itemOf)).filterMap Token.test? =
        entries.map (fun e => .comparison e.2) ∧
      ∀ row b, Reads row .disjunction (Item.chained (runs.map itemOf)) b ↔
        b = (Item.blocks (runs.map itemOf)).any fun block => block.all (Item.holds row) := by
  have hp : entries.map Prod.snd ≠ [] := by simpa using hn
  refine ⟨⟨_, cut_splitBy _, fun runs h => h.eq_splitBy⟩, fun runs h => ⟨?_, fun p => ?_, ?_, ?_⟩⟩
  · have hs : (entries.map fun e => (e.1, Source.predicate e.2)).mapM (fun e => e.2.check) =
        (pure (entries.map Prod.snd) : Except Fault (List Predicate)) := by
      rw [List.mapM_map]
      exact List.mapM_pure
    refine ⟨segment (entries.map Prod.snd), by rw [segmentOf, hs]; rfl, fun prepared => ?_⟩
    rw [segment_eq hp, condition_eq_spell, items, h.eq_splitBy, Template.fill_text,
      fill_spell_eq_spelled]
  · exact ⟨rfl, rfl⟩
  · have ht : (runs.map itemOf).flatMap Item.tests = runs.flatten.map .comparison := by
      rw [List.flatMap_map, List.map_flatten, List.flatMap_def]
      simp only [itemOf_tests]
    rw [Item.filterMap_test?_chained, ht, h.flatten, List.map_map]
    rfl
  · intro row b
    have hi : runs.map itemOf ≠ [] := by
      rw [h.eq_splitBy]
      simpa using hp
    have hr := Item.reads_chained row hi fun i hi => by
      obtain ⟨run, hm, rfl⟩ := List.mem_map.mp hi
      rw [h.eq_splitBy] at hm
      simpa [itemOf_tests] using List.ne_nil_of_mem_splitBy hm
    rw [Item.meaning_blocks row hi] at hr
    exact ⟨fun hb => hb.unique hr, fun hb => hb ▸ hr⟩

/-- A lone comparison linked by `OR` opens a new block unless it is the first of all. -/
theorem segmentOf_mixed_runs :
    let p (column : String) (n : Int) (connective : Connective) : Predicate :=
      { column := .text column, operator := .text "<", value := .int n, connective }
    let predicates := [p "a" 1 .or, p "b" 2 .and, p "c" 3 .or, p "d" 4 .or, p "e" 5 .and,
      p "f" 6 .or, p "g" 7 .and]
    let entries := predicates.map fun p => (p.column, p)
    let runs := [[p "a" 1 .or], [p "b" 2 .and], [p "c" 3 .or, p "d" 4 .or], [p "e" 5 .and],
      [p "f" 6 .or], [p "g" 7 .and]]
    entries ≠ [] ∧ Cut (entries.map Prod.snd) runs ∧
    (∃ t, segmentOf (.entries (entries.map fun e => (e.1, .predicate e.2))) = .ok t ∧
      t.fill true = "WHERE a < ? AND b < ? AND (c < ? OR d < ?) AND e < ? OR f < ? AND g < ?" ∧
      t.fill false =
        "WHERE a < \x221\x22 AND b < \x222\x22 AND (c < \x223\x22 OR d < \x224\x22)" ++
          " AND e < \x225\x22 OR f < \x226\x22 AND g < \x227\x22") ∧
    ∀ passes : String → Bool, ∀ b,
      Reads (fun t => match t with | .comparison p => passes p.column.shown | _ => false)
        .disjunction (Item.chained (runs.map itemOf)) b ↔
      b = ((passes "a" && passes "b" && (passes "c" || passes "d") && passes "e") ||
        (passes "f" && passes "g")) := by
  intro p predicates entries runs
  have hn : entries ≠ [] := by simp [entries, predicates]
  have hc : Cut (entries.map Prod.snd) runs := cut_splitBy (entries.map Prod.snd)
  obtain ⟨⟨t, ht, hf⟩, -, -, hr⟩ := (segmentOf_cut hn).2 runs hc
  refine ⟨hn, hc, ⟨t, ht, (hf true).trans ?_, (hf false).trans ?_⟩, fun passes b => ?_⟩
  · decide +kernel
  · decide +kernel
  · have hb : Item.blocks (runs.map itemOf) =
        [(runs.take 4).map itemOf, (runs.drop 4).map itemOf] := rfl
    rw [hr, hb]
    simp [runs, p, itemOf, Item.holds, Bool.and_assoc]

end Comparison

end FluentSql
