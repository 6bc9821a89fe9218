import FluentSql.Proofs.Filling
import Mathlib.Data.List.Perm.Basic

/-! The order in which the values of a selection are bound, told from the calls that passed them. It
is the order of the calls where these test each column once and come in grammar order. -/
namespace FluentSql

namespace Keyed

variable {β γ : Type}

def putAll (table : Keyed β) (entries : List (Value × β)) : Keyed β :=
  entries.foldl (fun table e => table.put e.1 e.2) table

@[simp] theorem putAll_nil (table : Keyed β) : table.putAll [] = table := rfl

@[simp] theorem putAll_cons (table : Keyed β) (e : Value × β) (entries : List (Value × β)) :
    table.putAll (e :: entries) = (table.put e.1 e.2).putAll entries := rfl

theorem putAll_append (table : Keyed β) (entries others : List (Value × β)) :
    table.putAll (entries ++ others) = (table.putAll entries).putAll others :=
  List.foldl_append

/-- No key stands there twice. -/
def Distinct (entries : List (Value × β)) : Prop :=
  entries.Pairwise fun a b => a.1.sameKey b.1 = false

theorem putAll_of_distinct {table : Keyed β} {entries : List (Value × β)}
    (h : Distinct (table ++ entries)) : table.putAll entries = table ++ entries := by
  induction entries generalizing table with
  | nil => simp
  | cons e rest ih =>
    have he : ∀ a ∈ table, a.1.sameKey e.1 = false := fun a ha =>
      (List.pairwise_append.mp h).2.2 a ha e List.mem_cons_self
    have hr : Distinct ((table ++ [e]) ++ rest) := by simpa using h
    rw [putAll_cons, put_eq_append he, ih hr, List.append_assoc, List.singleton_append]

/-- How many values a table holds. -/
def size (table : Keyed (List γ)) : Nat := (table.flatMap Prod.snd).length

@[simp] theorem size_nil : size ([] : Keyed (List γ)) = 0 := rfl

@[simp] theorem size_cons (e : Value × List γ) (table : Keyed (List γ)) :
    size (e :: table) = e.2.length + size table := by
  simp [size]

@[simp] theorem size_append (table other : Keyed (List γ)) :
    size (table ++ other) = size table + size other := by
  simp [size]

theorem size_put_le (k : Value) (b : List γ) (table : Keyed (List γ)) :
    size (table.put k b) ≤ size table + b.length := by
  induction table with
  | nil => simp [put]
  | cons e rest ih =>
    unfold put
    split <;> simp only [size_cons] <;> omega

/-- What is written over is lost. -/
theorem size_put_lt {k : Value} {b : List γ} {table : Keyed (List γ)}
    (hn : ∀ e ∈ table, e.2 ≠ []) (hk : ∃ e ∈ table, e.1.sameKey k = true) :
    size (table.put k b) < size table + b.length := by
  induction table with
  | nil => simp at hk
  | cons e rest ih =>
    unfold put
    split
    · have he := List.length_pos_iff.mpr (hn e List.mem_cons_self)
      simp only [size_cons]
      omega
    · next hne =>
      obtain ⟨d, hd, hs⟩ := hk
      have hd : d ∈ rest := (List.mem_cons.mp hd).resolve_left fun h => hne (h ▸ hs)
      have hr := ih (fun e' he' => hn e' (List.mem_cons_of_mem e he')) ⟨d, hd, hs⟩
      simp only [size_cons]
      omega

theorem size_putAll_le (table : Keyed (List γ)) (entries : List (Value × List γ)) :
    size (table.putAll entries) ≤ size table + size entries := by
  induction entries generalizing table with
  | nil => simp
  | cons e rest ih =>
    have hp := size_put_le e.1 e.2 table
    have hr := ih (table.put e.1 e.2)
    simp only [putAll_cons, size_cons]
    omega

/-- Entries of which nothing is lost were put under keys of their own. -/
theorem distinct_of_size_putAll {table : Keyed (List γ)} {entries : List (Value × List γ)}
    (hd : Distinct table) (hn : ∀ e ∈ table, e.2 ≠ []) (hm : ∀ e ∈ entries, e.2 ≠ [])
    (hs : size (table.putAll entries) = size table + size entries) :
    Distinct (table ++ entries) := by
  induction entries generalizing table with
  | nil => simpa using hd
  | cons e rest ih =>
    have hr := size_putAll_le (table.put e.1 e.2) rest
    simp only [putAll_cons, size_cons] at hs hr
    have hk : ∀ a ∈ table, a.1.sameKey e.1 = false := by
      intro a ha
      by_contra hc
      have hl := size_put_lt (b := e.2) hn ⟨a, ha, by simpa using hc⟩
      omega
    have hp : table.put e.1 e.2 = table ++ [e] := put_eq_append hk e.2
    have hd' : Distinct (table ++ [e]) := by
      refine List.pairwise_append.mpr ⟨hd, by simp, ?_⟩
      intro a ha b hb
      exact List.mem_singleton.mp hb ▸ hk a ha
    have hn' : ∀ a ∈ table ++ [e], a.2 ≠ [] := by
      intro a ha
      rcases List.mem_append.mp ha with ha | ha
      · exact hn a ha
      · exact List.mem_singleton.mp ha ▸ hm e List.mem_cons_self
    have hs' : size ((table ++ [e]).putAll rest) = size (table ++ [e]) + size rest := by
      rw [hp] at hs
      simp only [size_append, size_cons, size_nil]
      omega
    have hf := ih hd' hn' (fun a ha => hm a (List.mem_cons_of_mem e ha)) hs'
    simpa using hf

end Keyed

/-- One test of a filter, with the values to which it compares its column. -/
structure Filter.Test where
  family : Filter
  column : Value
  values : List Value

/-- The tests that a call asks for. -/
def Change.tests : Change → List Filter.Test
  | .compare column value _ => [⟨.comparison, column, [value]⟩]
  | .compareAll _ (.map entries) => entries.map fun e => ⟨.comparison, e.1, [e.2]⟩
  | .like column pattern _ => [⟨.pattern, column, [pattern]⟩]
  | .member column candidates => [⟨.inclusion, column, candidates.elements?.getD []⟩]
  | .between column bounds =>
    [⟨.range, column, [(bounds.at? 0).getD .null, (bounds.at? 1).getD .null]⟩]
  | _ => []

namespace Filter

/-- The place of a family in the grammar. -/
def rank : Filter → Nat
  | .comparison => 0
  | .inclusion => 1
  | .pattern => 2
  | .range => 3

namespace Test

/-- The values of tests in the order in which the tests were made. -/
def passed (tests : List Test) : List Value := tests.flatMap values

/-- The tests of one family, under their columns. -/
def entries (f : Filter) (tests : List Test) : List (Value × List Value) :=
  (tests.filter fun t => t.family = f).map fun t => (t.column, t.values)

/-- No family tests a column twice. -/
def Distinct (tests : List Test) : Prop :=
  tests.Pairwise fun s t => s.family = t.family → s.column.sameKey t.column = false

/-- The families come in grammar order. -/
def Ordered (tests : List Test) : Prop := tests.Pairwise fun s t => s.family.rank ≤ t.family.rank

instance (tests : List Test) : Decidable (Distinct tests) :=
  inferInstanceAs (Decidable (tests.Pairwise _))

instance (tests : List Test) : Decidable (Ordered tests) :=
  inferInstanceAs (Decidable (tests.Pairwise _))

/-- The tests family by family. -/
def grouped (tests : List Test) : List Test :=
  Filter.all.flatMap fun f => tests.filter fun t => t.family = f

theorem entries_append (f : Filter) (tests others : List Test) :
    entries f (tests ++ others) = entries f tests ++ entries f others := by
  simp [entries]

theorem distinct_entries {tests : List Test} :
    Distinct tests ↔ ∀ f, Keyed.Distinct (entries f tests) := by
  simp only [Distinct, Keyed.Distinct, entries, List.pairwise_map, List.pairwise_filter,
    decide_eq_true_eq]
  constructor
  · intro h f
    refine h.imp fun hst hs ht => ?_
    exact hst (hs.trans ht.symm)
  · intro h
    rw [List.pairwise_iff_forall_sublist]
    intro s t hst hf
    exact List.pairwise_iff_forall_sublist.mp (h t.family) hst hf rfl

theorem passed_grouped (tests : List Test) :
    passed (grouped tests) = Filter.all.flatMap fun f => (entries f tests).flatMap Prod.snd := by
  simp [passed, grouped, entries, List.flatMap_assoc, List.flatMap_map]

theorem grouped_cons {t : Test} {tests : List Test}
    (h : ∀ u ∈ tests, t.family.rank ≤ u.family.rank) :
    grouped (t :: tests) = t :: grouped tests := by
  obtain ⟨f, column, values⟩ := t
  have hb : ∀ g, rank g < f.rank → tests.filter (fun u => decide (u.family = g)) = [] := by
    intro g hg
    refine List.filter_eq_nil_iff.mpr fun u hu => ?_
    have hne : u.family ≠ g := fun he => Nat.not_lt.mpr (h u hu) (he ▸ hg)
    simpa using hne
  cases f with
  | comparison => simp [grouped, Filter.all]
  | inclusion => simp [grouped, Filter.all, hb .comparison (by decide)]
  | pattern => simp [grouped, Filter.all, hb .comparison (by decide), hb .inclusion (by decide)]
  | range =>
    simp [grouped, Filter.all, hb .comparison (by decide), hb .inclusion (by decide),
      hb .pattern (by decide)]

theorem grouped_of_ordered {tests : List Test} (h : Ordered tests) : grouped tests = tests := by
  induction tests with
  | nil => rfl
  | cons t rest ih =>
    obtain ⟨ht, hr⟩ := List.pairwise_cons.mp h
    rw [grouped_cons ht, ih hr]

theorem ordered_grouped (tests : List Test) : Ordered (grouped tests) := by
  have ha : Filter.all.Pairwise fun f g => f.rank ≤ g.rank := by decide
  refine List.pairwise_flatMap.mpr ⟨fun f _ => ?_, ha.imp fun hfg s hs t ht => ?_⟩
  · refine List.pairwise_filter.mpr (List.pairwise_of_forall fun s t hs ht => ?_)
    simp only [decide_eq_true_eq] at hs ht
    exact Nat.le_of_eq (by rw [hs, ht])
  · simp only [List.mem_filter, decide_eq_true_eq] at hs ht
    rw [hs.2, ht.2]
    exact hfg

theorem grouped_cons_perm (t : Test) (tests : List Test) :
    (grouped (t :: tests)).Perm (t :: grouped tests) := by
  obtain ⟨f, column, values⟩ := t
  cases f <;> simp only [grouped, Filter.all, List.flatMap_cons, List.flatMap_nil,
    List.append_nil, List.filter_cons, reduceCtorEq, decide_true, decide_false, if_true,
    Bool.false_eq_true, if_false]
  case comparison => exact List.Perm.refl _
  case inclusion => exact List.perm_middle
  case pattern => exact (List.perm_middle.append_left _).trans List.perm_middle
  case range =>
    exact (((List.perm_middle.append_left _).trans List.perm_middle).append_left _).trans
      List.perm_middle

theorem grouped_perm (tests : List Test) : (grouped tests).Perm tests := by
  induction tests with
  | nil => exact List.Perm.refl []
  | cons t rest ih => exact (grouped_cons_perm t rest).trans (ih.cons t)

/-- Where no value is passed twice, the values tell the order of their tests. -/
theorem eq_of_passed_eq {tests others : List Test} (hp : tests.Perm others)
    (hd : (passed tests).Nodup) (hn : ∀ t ∈ tests, t.values ≠ [])
    (h : passed tests = passed others) : tests = others := by
  induction tests generalizing others with
  | nil => exact (List.nil_perm.mp hp).symm
  | cons t rest ih =>
    cases others with
    | nil => exact absurd hp.length_eq (by simp)
    | cons u rest' =>
      have hut : u = t := by
        have hu : u ∈ t :: rest := hp.mem_iff.mpr List.mem_cons_self
        obtain ⟨v, vs, hv⟩ := List.exists_cons_of_ne_nil (hn t List.mem_cons_self)
        obtain ⟨w, ws, hw⟩ := List.exists_cons_of_ne_nil (hn u hu)
        simp only [passed, List.flatMap_cons, hv, hw, List.cons_append, List.cons.injEq,
          List.nodup_cons] at h hd
        rcases List.mem_cons.mp hu with hu | hu
        · exact hu
        · have hm : v ∈ rest.flatMap values :=
            List.mem_flatMap.mpr ⟨u, hu, by rw [hw, h.1]; exact List.mem_cons_self⟩
          exact absurd (List.mem_append_right vs hm) hd.1
      subst hut
      simp only [passed, List.flatMap_cons, List.nodup_append, List.append_cancel_left_eq] at h hd
      rw [ih hp.cons_inv hd.2.1 (fun s hs => hn s (List.mem_cons_of_mem u hs)) h]

theorem passed_grouped_eq_iff {tests : List Test} (hd : (passed tests).Nodup)
    (hn : ∀ t ∈ tests, t.values ≠ []) :
    passed (grouped tests) = passed tests ↔ Ordered tests := by
  constructor
  · intro h
    rw [eq_of_passed_eq (grouped_perm tests).symm hd hn h.symm]
    exact ordered_grouped tests
  · intro h
    rw [grouped_of_ordered h]

/-- The values kept of tests put one after the other into the table of their family. -/
def kept (tests : List Test) : List Value :=
  Filter.all.flatMap fun f => (Keyed.putAll [] (entries f tests)).flatMap Prod.snd

theorem kept_of_distinct {tests : List Test} (h : Distinct tests) :
    kept tests = passed (grouped tests) := by
  unfold kept
  rw [passed_grouped]
  congr 1
  funext f
  rw [Keyed.putAll_of_distinct (by simpa using distinct_entries.mp h f), List.nil_append]

theorem distinct_of_length_kept {tests : List Test} (hn : ∀ t ∈ tests, t.values ≠ [])
    (h : (kept tests).length = (passed tests).length) : Distinct tests := by
  have hg : (passed tests).length = (passed (grouped tests)).length :=
    ((grouped_perm tests).symm.flatMap_right values).length_eq
  have he : ∀ f, ∀ e ∈ entries f tests, e.2 ≠ [] := by
    intro f e he
    simp only [entries, List.mem_map, List.mem_filter] at he
    obtain ⟨t, ⟨ht, -⟩, rfl⟩ := he
    exact hn t ht
  have hle := fun f => Keyed.size_putAll_le [] (entries f tests)
  have hs : ∀ f, Keyed.size (Keyed.putAll [] (entries f tests)) =
      Keyed.size ([] : Keyed (List Value)) + Keyed.size (entries f tests) := by
    rw [hg, passed_grouped] at h
    simp only [kept, Filter.all, List.flatMap_cons, List.flatMap_nil, List.length_append] at h
    have h0 := hle .comparison
    have h1 := hle .inclusion
    have h2 := hle .pattern
    have h3 := hle .range
    simp only [Keyed.size, List.flatMap_nil, List.length_nil] at h0 h1 h2 h3 ⊢
    intro f
    cases f <;> omega
  refine distinct_entries.mpr fun f => ?_
  have hd : Keyed.Distinct ([] ++ entries f tests) :=
    Keyed.distinct_of_size_putAll List.Pairwise.nil (by simp) (he f) (hs f)
  simpa using hd

/-- The exact condition for the order of the tests to be the order of their values. -/
theorem kept_eq_passed_iff {tests : List Test} (hn : ∀ t ∈ tests, t.values ≠ []) :
    kept tests = passed tests ↔ Distinct tests ∧ passed (grouped tests) = passed tests := by
  constructor
  · intro h
    have hd := distinct_of_length_kept hn (congrArg List.length h)
    exact ⟨hd, (kept_of_distinct hd).symm.trans h⟩
  · rintro ⟨hd, hg⟩
    exact (kept_of_distinct hd).trans hg

end Test

end Filter

theorem Change.values_ne_nil {q : Query} {c : Change} (h : (q.apply c).fault = none) :
    ∀ t ∈ c.tests, t.values ≠ [] := by
  intro t ht
  cases c with
  | member column candidates =>
    obtain ⟨items, hi, hn, -⟩ := Query.state_member h
    rw [List.mem_singleton.mp ht, hi]
    exact hn
  | compareAll connective conditions =>
    cases conditions with
    | map entries =>
      obtain ⟨e, -, rfl⟩ := List.mem_map.mp ht
      exact List.cons_ne_nil _ _
    | _ => cases ht
  | _ => simp_all [tests]

namespace Query

/-- The values that a family holds, under their columns. -/
def held (q : Query) : Filter → Keyed (List Value)
  | .comparison => q.comparisons.entries.map fun e => (e.1, [e.2.value])
  | .inclusion => q.inclusions.entries
  | .pattern => q.patterns.entries.map fun e => (e.1, [e.2])
  | .range => q.ranges.entries.map fun e => (e.1, [e.2.1, e.2.2])

theorem bound_values (q : Query) (f : Filter) :
    (q.bound f).map Prod.snd = (q.held f).flatMap Prod.snd := by
  cases f <;> simp [bound, held, List.map_flatMap, List.flatMap_map, ← List.map_eq_flatMap,
    Function.comp_def]

theorem held_foldl_putEqual (c : Comparisons) (entries : List (Value × Value)) :
    (entries.foldl Comparisons.putEqual c).entries.map (fun e => (e.1, [e.2.value])) =
      Keyed.putAll (c.entries.map fun e => (e.1, [e.2.value]))
        (entries.map fun e => (e.1, [e.2])) := by
  induction entries generalizing c with
  | nil => rfl
  | cons e rest ih =>
    rw [List.foldl_cons, ih, List.map_cons, Keyed.putAll_cons]
    congr 1
    exact Keyed.map_put (fun p : Predicate => [p.value]) _ _ _

/-- An accepted call puts its tests into the tables of their families. -/
theorem held_apply {q : Query} {c : Change} (h : (q.apply c).fault = none) (f : Filter) :
    (q.apply c).state.held f = (q.held f).putAll (Filter.Test.entries f c.tests) := by
  cases c with
  | compare column value operator =>
    rw [state_compare h]
    cases f with
    | comparison => exact Keyed.map_put (fun p : Predicate => [p.value]) _ _ _
    | _ => rfl
  | compareAll connective conditions =>
    obtain ⟨entries, rfl, hs⟩ := state_compareAll h
    have he : Filter.Test.entries f (Change.tests (.compareAll connective (.map entries))) =
        if f = .comparison then entries.map fun e => (e.1, [e.2]) else [] := by
      cases f <;> simp [Change.tests, Filter.Test.entries, List.filter_map, Function.comp_def]
    rw [hs, he]
    cases f with
    | comparison => exact held_foldl_putEqual { q.comparisons with connective } entries
    | _ => rfl
  | like column pattern anyOf =>
    rw [state_like h]
    cases f with
    | pattern => exact Keyed.map_put (fun v : Value => [v]) _ _ _
    | _ => rfl
  | member column candidates =>
    obtain ⟨items, hi, -, hs⟩ := state_member h
    simp only [hs, Change.tests, hi, Option.getD_some]
    cases f <;> rfl
  | between column bounds =>
    obtain ⟨low, high, h0, h1, hs⟩ := state_between h
    simp only [hs, Change.tests, h0, h1, Option.getD_some]
    cases f with
    | range => exact Keyed.map_put (fun b : Value × Value => [b.1, b.2]) _ _ _
    | _ => rfl
  | _ => cases f <;> rfl

theorem held_applyAll {q : Query} {calls : List Change} (h : q.accepted calls = calls)
    (f : Filter) : (q.applyAll calls).held f =
      (q.held f).putAll (Filter.Test.entries f (calls.flatMap Change.tests)) := by
  induction calls generalizing q with
  | nil => rfl
  | cons c rest ih =>
    obtain ⟨hc, hr⟩ := accepted_cons_eq h
    rw [applyAll_cons, ih hr, held_apply hc, List.flatMap_cons, Filter.Test.entries_append,
      Keyed.putAll_append]

theorem values_ne_nil_of_accepted {q : Query} {calls : List Change}
    (h : q.accepted calls = calls) : ∀ t ∈ calls.flatMap Change.tests, t.values ≠ [] := by
  induction calls generalizing q with
  | nil => simp
  | cons c rest ih =>
    obtain ⟨hc, hr⟩ := accepted_cons_eq h
    intro t ht
    rcases List.mem_append.mp ht with ht | ht
    · exact Change.values_ne_nil hc t ht
    · exact ih hr t ht

/-- The values to bind to the placeholders of a selection are the passed ones in the order of the
calls exactly if no family tests a column twice and if it changes nothing to take the tests family
by family. If all passed values differ, then the latter means that the families come in grammar
order. -/
theorem bound_in_call_order_iff {source : Options.Source} {q₀ : Query}
    (h₀ : new source = .ok q₀) {calls : List Change} (ha : q₀.accepted calls = calls)
    (hp : (q₀.applyAll calls).options.prepared = true)
    (ht : (q₀.applyAll calls).table.isGiven = true) :
    let tests := calls.flatMap Change.tests
    ∃ t, (q₀.applyAll calls).template .select = .ok t ∧
      (q₀.applyAll calls).render .select = .ok (finish (t.fill true)) ∧
      (t.values = Filter.Test.passed tests ↔ Filter.Test.Distinct tests ∧
        Filter.Test.passed (Filter.Test.grouped tests) = Filter.Test.passed tests) ∧
      (Filter.Test.Distinct tests → Filter.Test.Ordered tests →
        t.values = Filter.Test.passed tests) ∧
      ((Filter.Test.passed tests).Nodup →
        (t.values = Filter.Test.passed tests ↔
          Filter.Test.Distinct tests ∧ Filter.Test.Ordered tests)) := by
  intro tests
  have hc : (q₀.applyAll calls).Coherent := Reachable.coherent ⟨source, q₀, calls, h₀, rfl⟩
  have hn : ∀ t ∈ tests, t.values ≠ [] := values_ne_nil_of_accepted ha
  have hh : ∀ f, (q₀.applyAll calls).held f =
      Keyed.putAll [] (Filter.Test.entries f tests) := by
    intro f
    rw [held_applyAll ha, new_eq_ok h₀]
    cases f <;> rfl
  obtain ⟨t, hs⟩ : ∃ t, (q₀.applyAll calls).template .select = .ok t :=
    ⟨_, hc.selection_eq.trans (if_pos ht)⟩
  have hv : t.values = Filter.Test.kept tests := by
    rw [Template.values_eq_slots, hc.slots_template hs, bindings, List.map_flatMap]
    simp only [bound_values, hh]
    rfl
  have hr : (q₀.applyAll calls).render .select = .ok (finish (t.fill true)) := by
    rw [render, hs, hp]
    rfl
  have hi := Filter.Test.kept_eq_passed_iff hn
  rw [← hv] at hi
  refine ⟨t, hs, hr, hi, fun hd ho => ?_, fun hd => ?_⟩
  · rw [hi, Filter.Test.grouped_of_ordered ho]
    exact ⟨hd, rfl⟩
  · rw [hi, Filter.Test.passed_grouped_eq_iff hd hn]

/-- Comparisons before candidates, on columns of their own. -/
theorem bound_in_call_order_of_groups :
    let q₀ : Query := { options := { prepared := true } }
    let calls : List Change := [.compareAll .or (.map [(.text "a", .int 1), (.text "b", .int 2)]),
      .compareAll .and (.map [(.text "c", .int 3)]), .compare (.text "d") (.int 4) (.text ">"),
      .member (.text "e") (.list [.int 5, .int 6]), .source (.text "t")]
    (new (.options { prepared := true }) = .ok q₀ ∧ q₀.accepted calls = calls ∧
      (q₀.applyAll calls).options.prepared = true ∧
      (q₀.applyAll calls).table.isGiven = true) ∧
    ∃ t, (q₀.applyAll calls).template .select = .ok t ∧
      finish (t.fill true) =
        "SELECT * FROM t WHERE (a = ? OR b = ?) AND c = ? AND d > ? AND e IN (?,?);" ∧
      t.values = [.int 1, .int 2, .int 3, .int 4, .int 5, .int 6] := by
  intro q₀ calls
  have h₀ : new (.options { prepared := true }) = .ok q₀ := rfl
  have ha : q₀.accepted calls = calls := accepted_eq_of_length (by decide +kernel)
  obtain ⟨t, hs, hr, -, hv, -⟩ := bound_in_call_order_iff h₀ ha rfl rfl
  have ht : (q₀.applyAll calls).render .select =
      .ok "SELECT * FROM t WHERE (a = ? OR b = ?) AND c = ? AND d > ? AND e IN (?,?);" :=
    eq_ok_of_toOption (by decide +kernel)
  exact ⟨⟨h₀, ha, rfl, rfl⟩, t, hs, Except.ok.inj (hr.symm.trans ht),
    hv (by decide +kernel) (by decide +kernel)⟩

/-- A pattern that is passed first is bound last. -/
theorem pattern_bound_after_comparison :
    let q₀ : Query := { options := { prepared := true } }
    let calls : List Change := [.like (.text "name") (.text "A%") .null,
      .compare (.text "age") (.int 30) .null, .source (.text "users")]
    (new (.options { prepared := true }) = .ok q₀ ∧ q₀.accepted calls = calls) ∧
    (q₀.applyAll calls).render .select =
      .ok "SELECT * FROM users WHERE age = ? AND name LIKE ?;" ∧
    ∃ t, (q₀.applyAll calls).template .select = .ok t ∧ t.values = [.int 30, .text "A%"] ∧
      Filter.Test.passed (calls.flatMap Change.tests) = [.text "A%", .int 30] ∧
      t.values ≠ Filter.Test.passed (calls.flatMap Change.tests) := by
  intro q₀ calls
  have hr : (q₀.applyAll calls).render .select =
      .ok "SELECT * FROM users WHERE age = ? AND name LIKE ?;" :=
    eq_ok_of_toOption (by decide +kernel)
  have hne : ([.int 30, .text "A%"] : List Value) ≠ [.text "A%", .int 30] := by simp
  exact ⟨⟨rfl, rfl⟩, hr, _, rfl, rfl, rfl, hne⟩

end Query

end FluentSql
