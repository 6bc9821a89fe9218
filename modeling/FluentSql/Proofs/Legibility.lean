import FluentSql.Proofs.Cutting
import FluentSql.Proofs.Masking
import Mathlib.Data.List.Basic

/-! Statements with their values written out tell the values. Nothing is escaped in them, so a value
must not have the quote that ends it. Main result: selections from queries that differ in nothing
but such values have the same text only if all values are written the same, and only if every column
has as many candidates. -/
namespace FluentSql

/-- Lists with the same image are the two sides of a list of pairs. -/
theorem exists_pairs {α β : Type} {f : α → β} {xs ys : List α} (h : xs.map f = ys.map f) :
    ∃ pairs : List (α × α), pairs.map Prod.fst = xs ∧ pairs.map Prod.snd = ys ∧
      ∀ p ∈ pairs, f p.1 = f p.2 := by
  induction xs generalizing ys with
  | nil => exact ⟨[], rfl, (List.map_eq_nil_iff.mp h.symm).symm, nofun⟩
  | cons x xs ih =>
    obtain ⟨y, ys, rfl, hf, ht⟩ := List.map_eq_cons_iff.mp h.symm
    obtain ⟨pairs, rfl, rfl, hp⟩ := ih ht.symm
    exact ⟨(x, y) :: pairs, rfl, rfl, List.forall_mem_cons.mpr ⟨hf.symm, hp⟩⟩

/-- A value that can be told from the quotes around it. -/
def Value.QuoteFree (v : Value) : Prop := '\x22' ∉ v.shown.toList

instance : DecidablePred Value.QuoteFree := fun v =>
  inferInstanceAs (Decidable ('\x22' ∉ v.shown.toList))

namespace Template

/-- Two templates that begin one and the same text end in the same place of it, and the text settles
something about them. -/
def Settles (t u : Template) (P : Prop) : Prop :=
  ∀ r s : List Char, (t.fill false).toList ++ r = (u.fill false).toList ++ s → P ∧ r = s

section Settles

variable {t t' u u' : Template} {P Q : Prop}

theorem settles_self (t : Template) : Settles t t True := fun _ _ h =>
  ⟨trivial, List.append_cancel_left h⟩

theorem Settles.imp (h : Settles t u P) (hi : P → Q) : Settles t u Q := fun r s he =>
  (h r s he).imp_left hi

theorem Settles.append (h : Settles t u P) (h' : Settles t' u' Q) :
    Settles (t ++ t') (u ++ u') (P ∧ Q) := by
  intro r s he
  simp only [fill_append, String.toList_append, List.append_assoc] at he
  obtain ⟨hp, he⟩ := h _ _ he
  obtain ⟨hq, he⟩ := h' _ _ he
  exact ⟨⟨hp, hq⟩, he⟩

theorem Settles.text (x : String) (h : Settles t u P) :
    Settles (.text x :: t) (.text x :: u) P :=
  ((settles_self [.text x]).append h).imp And.right

theorem Settles.append_self (h : Settles t u P) (t' : Template) :
    Settles (t ++ t') (u ++ t') P :=
  (h.append (settles_self t')).imp And.left

/-- The closing quote is found, because the value has none. -/
theorem settles_slot {v w : Value} (hv : v.QuoteFree) (hw : w.QuoteFree) :
    Settles [.slot .double v] [.slot .double w] (v.shown = w.shown) := by
  intro r s h
  have hs : ∀ (x : Value) (r : List Char), (fill false [.slot .double x]).toList ++ r =
      '\x22' :: (x.shown.toList ++ '\x22' :: r) := by
    intro x r
    simp [fill, Piece.fill, Quote.around, String.toList_append]
  rw [hs, hs] at h
  obtain ⟨he, hr⟩ := Text.append_cons_inj hv hw (List.cons.inj h).2
  exact ⟨String.toList_inj.mp he, hr⟩

end Settles

section Lists

variable {ι : Type} {f g : ι → Template} {P : ι → Prop} {l : List ι}

theorem Settles.flatMap (h : ∀ i ∈ l, Settles (f i) (g i) (P i)) :
    Settles (l.flatMap f) (l.flatMap g) (∀ i ∈ l, P i) := by
  induction l with
  | nil => exact (settles_self []).imp fun _ => nofun
  | cons i rest ih =>
    rw [List.forall_mem_cons] at h
    exact (h.1.append (ih h.2)).imp List.forall_mem_cons.mpr

theorem Settles.join (separator : String) (h : ∀ i ∈ l, Settles (f i) (g i) (P i)) :
    Settles (join separator (l.map f)) (join separator (l.map g)) (∀ i ∈ l, P i) := by
  cases l with
  | nil => exact (settles_self []).imp fun _ => nofun
  | cons i rest =>
    rw [List.forall_mem_cons] at h
    rw [List.map_cons, List.map_cons, join_cons, join_cons, List.flatMap_map, List.flatMap_map]
    exact (h.1.append (.flatMap fun j hj => (h.2 j hj).text separator)).imp
      List.forall_mem_cons.mpr

theorem Settles.opened (h : ∀ i ∈ l, Settles (f i) (g i) (P i)) :
    Settles ((opened (l.map f)).flatMap fun t => .text " " :: t)
      ((opened (l.map g)).flatMap fun t => .text " " :: t) (∀ i ∈ l, P i) := by
  cases l with
  | nil => exact (settles_self []).imp fun _ => nofun
  | cons i rest =>
    rw [List.forall_mem_cons] at h
    simp only [List.map_cons, Template.opened, List.flatMap_cons, List.flatMap_map, List.map_map]
    exact (((h.1.text _).text _).append
      (.flatMap fun j hj => ((h.2 j hj).text _).text _)).imp List.forall_mem_cons.mpr

/-- Conditions are found between the same clauses. -/
theorem Settles.between (first : Template) (before after : List Template)
    (h : ∀ i ∈ l, Settles (f i) (g i) (P i)) :
    Settles (Template.join " " (first :: before ++ Template.opened (l.map f) ++ after))
      (Template.join " " (first :: before ++ Template.opened (l.map g) ++ after))
      (∀ i ∈ l, P i) := by
  simp only [List.cons_append, join_cons, List.flatMap_append]
  exact ((settles_self _).append (((settles_self _).append (Settles.opened h)).append_self _)).imp
    fun hp => hp.2.2

end Lists

/-- Tests of the same columns settle their values one by one. -/
theorem settles_tests {α β γ : Type} {key : α → β} {test : α → Template} {literal : α → γ}
    {xs ys : List α} (separator : String) (hk : xs.map key = ys.map key)
    (h : ∀ x ∈ xs, ∀ y ∈ ys, key x = key y →
      Settles (test x) (test y) (literal x = literal y)) :
    Settles (join separator (xs.map test)) (join separator (ys.map test))
      (xs.map literal = ys.map literal) := by
  obtain ⟨pairs, rfl, rfl, hp⟩ := exists_pairs hk
  simp only [List.map_map]
  exact (Settles.join separator fun p hm => h _ (List.mem_map_of_mem hm) _
    (List.mem_map_of_mem hm) (hp p hm)).imp List.map_congr_left

/-- The values of a template as they are written. -/
def written (t : Template) : List String := t.values.map Value.shown

@[simp] theorem written_append (t u : Template) : (t ++ u).written = t.written ++ u.written := by
  simp [written]

@[simp] theorem written_text (x : String) (t : Template) :
    written (.text x :: t) = t.written := rfl

/-- The texts of two templates settle how their values are written. -/
def Legible (t u : Template) : Prop := Settles t u (t.written = u.written)

end Template

namespace Comparison

open Template

/-- Templates that are legible one by one are so with a text between them. -/
theorem legible_join {run : List (Template × Template)} (h : ∀ p ∈ run, Legible p.1 p.2)
    (separator : String) :
    Legible (join separator (run.map Prod.fst)) (join separator (run.map Prod.snd)) := by
  refine (Settles.join separator h).imp fun hp => ?_
  simp only [written, values_join, List.map_flatMap, List.flatMap_map]
  exact List.flatMap_congr hp

theorem legible_group {run : List (Template × Template)} (h : ∀ p ∈ run, Legible p.1 p.2) :
    Legible (group (run.map Prod.fst)) (group (run.map Prod.snd)) := by
  refine (((legible_join h " OR ").append_self [.text ")"]).text "(").imp fun hw => ?_
  simpa [group] using hw

theorem legible_attach (joiner : String) {part part' : Template} (hp : Legible part part')
    {w w' : Option Template} (hw : Option.Rel Legible w w') :
    Legible (attach joiner part w) (attach joiner part' w') := by
  cases hw with
  | none => exact hp
  | some hw =>
    refine (hw.append (hp.text joiner)).imp fun ⟨he, he'⟩ => ?_
    simp [attach, he, he']

theorem legible_flush {w w' : Option Template} (hw : Option.Rel Legible w w')
    {run : List (Template × Template)} (hr : ∀ p ∈ run, Legible p.1 p.2) :
    Option.Rel Legible (flush w (run.map Prod.fst)) (flush w' (run.map Prod.snd)) := by
  rcases run with - | ⟨p, - | ⟨p', rest⟩⟩
  · exact hw
  · exact .some (legible_attach " OR " (hr p List.mem_cons_self) hw)
  · exact .some (legible_attach " AND " (legible_group hr) hw)

/-- Comparisons that are linked alike are grouped alike. -/
theorem legible_walk {pairs : List (Predicate × Predicate)}
    (h : ∀ p ∈ pairs, p.1.connective = p.2.connective ∧ Legible p.1.term p.2.term)
    {w w' : Option Template} (hw : Option.Rel Legible w w') {run : List (Template × Template)}
    (hr : ∀ p ∈ run, Legible p.1 p.2) :
    Option.Rel Legible (walk w (run.map Prod.fst) (pairs.map Prod.fst))
      (walk w' (run.map Prod.snd) (pairs.map Prod.snd)) := by
  have hn : ∀ p ∈ ([] : List (Template × Template)), Legible p.1 p.2 := nofun
  induction pairs generalizing w w' run with
  | nil => exact legible_flush hw hr
  | cons p rest ih =>
    obtain ⟨⟨hc, ht⟩, h⟩ := List.forall_mem_cons.mp h
    rw [List.map_cons, List.map_cons, walk, walk, ← hc]
    cases p.1.connective with
    | and => exact ih h (.some (legible_attach " AND " ht (legible_flush hw hr))) hn
    | or =>
      have hl : ∀ p' ∈ run ++ [(p.1.term, p.2.term)], Legible p'.1 p'.2 := by
        intro p' hp'
        rcases List.mem_append.mp hp' with hp' | hp'
        · exact hr p' hp'
        · rw [List.mem_singleton.mp hp']
          exact ht
      simpa using ih h hw hl

theorem legible_term {p p' : Predicate} (hm : p.masked = p'.masked) (hp : p.value.QuoteFree)
    (hp' : p'.value.QuoteFree) : p.connective = p'.connective ∧ Legible p.term p'.term := by
  obtain ⟨hc, ho, -, hl⟩ := Predicate.mk.inj hm
  refine ⟨hl, ?_⟩
  rw [Predicate.term, Predicate.term, hc, ho]
  exact ((settles_slot hp hp').text _).imp fun h => by simp [written, values, h]

theorem legible_condition {pairs : List (Predicate × Predicate)}
    (h : ∀ p ∈ pairs, p.1.connective = p.2.connective ∧ Legible p.1.term p.2.term) :
    Legible (condition (pairs.map Prod.fst)) (condition (pairs.map Prod.snd)) := by
  have hn : ∀ p ∈ ([] : List (Template × Template)), Legible p.1 p.2 := nofun
  have hw : Option.Rel Legible (walk none [] (pairs.map Prod.fst))
      (walk none [] (pairs.map Prod.snd)) := legible_walk h .none hn
  rw [condition, condition]
  generalize walk none [] (pairs.map Prod.fst) = w at hw ⊢
  generalize walk none [] (pairs.map Prod.snd) = w' at hw ⊢
  cases hw with
  | none => exact (settles_self []).imp fun _ => rfl
  | some hw => exact hw

end Comparison

namespace Inclusion

open Template

/-- Candidates end where no comma follows. -/
theorem settles_candidates {xs ys : List Value} (hx : ∀ v ∈ xs, v.QuoteFree)
    (hy : ∀ v ∈ ys, v.QuoteFree) :
    Settles ((xs.flatMap fun v => [.text ",", .slot .double v]) ++ [.text ")"])
      ((ys.flatMap fun v => [.text ",", .slot .double v]) ++ [.text ")"])
      (xs.map Value.shown = ys.map Value.shown) := by
  induction xs generalizing ys with
  | nil =>
    cases ys with
    | nil => exact (settles_self _).imp fun _ => rfl
    | cons w ys =>
      intro r s h
      simp [fill, Piece.fill, String.toList_append] at h
  | cons v xs ih =>
    cases ys with
    | nil =>
      intro r s h
      simp [fill, Piece.fill, String.toList_append] at h
    | cons w ys =>
      rw [List.forall_mem_cons] at hx hy
      refine (((settles_slot hx.1 hy.1).text ",").append (ih hx.2 hy.2)).imp fun h => ?_
      rw [List.map_cons, List.map_cons, h.1, h.2]

theorem settles_member (column : Value) {xs ys : List Value} (hxn : xs ≠ []) (hyn : ys ≠ [])
    (hx : ∀ v ∈ xs, v.QuoteFree) (hy : ∀ v ∈ ys, v.QuoteFree) :
    Settles (member column xs) (member column ys) (xs.map Value.shown = ys.map Value.shown) := by
  obtain ⟨v, xs, rfl⟩ := List.exists_cons_of_ne_nil hxn
  obtain ⟨w, ys, rfl⟩ := List.exists_cons_of_ne_nil hyn
  rw [List.forall_mem_cons] at hx hy
  have hs : ∀ (v : Value) (xs : List Value), member column (v :: xs) =
      .text (column.shown ++ " IN (") :: ([.slot .double v] ++
        ((xs.flatMap fun v => [.text ",", .slot .double v]) ++ [.text ")"])) := by
    intro v xs
    simp [member, slots, join_cons, List.flatMap_map]
  rw [hs, hs]
  refine (((settles_slot hx.1 hy.1).append (settles_candidates hx.2 hy.2)).text _).imp fun h => ?_
  rw [List.map_cons, List.map_cons, h.1, h.2]

end Inclusion

namespace Query

open Template

/-- The query without its values, and without the number of candidates that a column has. -/
def bare (q : Query) : Query := { q.masked with inclusions := q.inclusions.map fun _ => [] }

/-- The values of each test of a family as they are written. -/
def literals (q : Query) : Filter → List (List String)
  | .comparison => q.comparisons.entries.map fun e => [e.2.value.shown]
  | .inclusion => q.inclusions.entries.map fun e => e.2.map Value.shown
  | .pattern => q.patterns.entries.map fun e => [e.2.shown]
  | .range => q.ranges.entries.map fun e => [e.2.1.shown, e.2.2.shown]

theorem size_bare (q : Query) (f : Filter) : q.bare.size f = q.size f := by
  cases f <;> simp [size, bare, masked, Comparisons.masked, Patterns.masked, Family.map]

theorem filters_bare (q : Query) : q.bare.filters = q.filters := by
  simp only [filters, size_bare]

/-- What does not depend on values is the same in queries that differ in nothing else. -/
theorem eq_of_bare {β : Type} {g : Query → β} (hg : ∀ q, g q.bare = g q) {q r : Query}
    (hb : q.bare = r.bare) : g q = g r := by
  rw [← hg q, hb, hg]

/-- No value has a quote in it. -/
def QuoteFree (q : Query) : Prop := ∀ f, ∀ b ∈ q.bound f, b.2.QuoteFree

section Pair

variable {q r : Query}

theorem settles_comparisons (hb : q.bare = r.bare) (vq : q.QuoteFree) (vr : r.QuoteFree) :
    Settles (q.condition .comparison) (r.condition .comparison)
      (q.literals .comparison = r.literals .comparison) := by
  have hk : (q.comparisons.entries.map Prod.snd).map Predicate.masked =
      (r.comparisons.entries.map Prod.snd).map Predicate.masked := by
    simpa [bare, masked, Comparisons.masked, Family.map, Function.comp_def] using
      congrArg (fun s : Query => s.comparisons.entries.map Prod.snd) hb
  have hv : ∀ (q : Query), q.QuoteFree →
      ∀ p ∈ q.comparisons.entries.map Prod.snd, p.value.QuoteFree := fun q v =>
    List.forall_mem_map.mpr fun e he => v .comparison (.double, e.2.value)
      (List.mem_map_of_mem he)
  have hw : ∀ predicates : List Predicate, (Comparison.condition predicates).written =
      predicates.map fun p => p.value.shown := by
    intro predicates
    simp [written, values_eq_slots, Comparison.slots_condition, Function.comp_def]
  have hl : ∀ q : Query, q.literals .comparison =
      ((q.comparisons.entries.map Prod.snd).map fun p => p.value.shown).map ([·]) := by
    intro q
    simp [literals, Function.comp_def]
  obtain ⟨pairs, hpq, hpr, hp⟩ := exists_pairs hk
  have hc : Legible (Comparison.condition (pairs.map Prod.fst))
      (Comparison.condition (pairs.map Prod.snd)) :=
    Comparison.legible_condition fun p hm => Comparison.legible_term (hp p hm)
      (hv q vq _ (hpq ▸ List.mem_map_of_mem hm)) (hv r vr _ (hpr ▸ List.mem_map_of_mem hm))
  rw [hpq, hpr] at hc
  exact hc.imp fun h => by rw [hl, hl, ← hw, ← hw, h]

theorem settles_inclusions (hq : q.Coherent) (hr : r.Coherent) (hb : q.bare = r.bare)
    (vq : q.QuoteFree) (vr : r.QuoteFree) :
    Settles (q.condition .inclusion) (r.condition .inclusion)
      (q.literals .inclusion = r.literals .inclusion) := by
  have hk : q.inclusions.entries.map Prod.fst = r.inclusions.entries.map Prod.fst := by
    simpa [bare, Family.map, Function.comp_def] using
      congrArg (fun s : Query => s.inclusions.entries.map Prod.fst) hb
  have hv : ∀ q : Query, q.QuoteFree → ∀ e ∈ q.inclusions.entries, ∀ v ∈ e.2, v.QuoteFree :=
    fun q hq e he v hm => hq .inclusion (.double, v)
      (List.mem_flatMap.mpr ⟨e, he, List.mem_map_of_mem hm⟩)
  refine settles_tests " AND " hk fun e he e' he' hc => ?_
  rw [hc]
  exact Inclusion.settles_member e'.1 (hq.candidates e he) (hr.candidates e' he') (hv q vq e he)
    (hv r vr e' he')

theorem settles_patterns (hb : q.bare = r.bare) (vq : q.QuoteFree) (vr : r.QuoteFree) :
    Settles (q.condition .pattern) (r.condition .pattern)
      (q.literals .pattern = r.literals .pattern) := by
  have hk : q.patterns.entries.map Prod.fst = r.patterns.entries.map Prod.fst := by
    simpa [bare, masked, Patterns.masked, Family.map, Function.comp_def] using
      congrArg (fun s : Query => s.patterns.entries.map Prod.fst) hb
  have ha : q.patterns.anyOf = r.patterns.anyOf :=
    eq_of_bare (g := fun s => s.patterns.anyOf) (fun _ => rfl) hb
  rw [condition, condition, Pattern.condition, Pattern.condition, ha]
  refine settles_tests _ hk fun e he e' he' hc => ?_
  rw [Pattern.test, Pattern.test, hc]
  exact ((settles_slot (vq .pattern _ (List.mem_map_of_mem he))
    (vr .pattern _ (List.mem_map_of_mem he'))).text _).imp fun h => by rw [h]

/-- The conditions of a family settle the values of its tests. Bounds are not quoted, so there must
not be any. -/
theorem settles_condition (hq : q.Coherent) (hr : r.Coherent) (hb : q.bare = r.bare)
    (hn : q.ranges.entries = []) (vq : q.QuoteFree) (vr : r.QuoteFree) (f : Filter) :
    Settles (q.condition f) (r.condition f) (q.literals f = r.literals f) := by
  cases f with
  | comparison => exact settles_comparisons hb vq vr
  | inclusion => exact settles_inclusions hq hr hb vq vr
  | pattern => exact settles_patterns hb vq vr
  | range =>
    have hn' : r.ranges.entries = [] := by
      have hs : q.size .range = r.size .range :=
        eq_of_bare (g := fun s => s.size .range) (fun s => s.size_bare .range) hb
      rw [size, size, hn] at hs
      exact List.length_eq_zero_iff.mp hs.symm
    rw [condition, condition, literals, literals, hn, hn']
    exact (settles_self _).imp fun _ => rfl

/-- The clauses around the filter are the same. -/
theorem settles_clauseTemplates (hb : q.bare = r.bare) {P : Filter → Prop}
    (h : ∀ f ∈ q.filters, Settles (q.condition f) (r.condition f) (P f)) :
    Settles (join " " q.clauseTemplates) (join " " r.clauseTemplates) (∀ f ∈ q.filters, P f) := by
  have hp : q.projectionClause = r.projectionClause := eq_of_bare (fun _ => rfl) hb
  have ht : q.table = r.table := eq_of_bare (fun _ => rfl) hb
  have hj : q.joins = r.joins := eq_of_bare (fun _ => rfl) hb
  have he : q.tailClauses = r.tailClauses := eq_of_bare (fun _ => rfl) hb
  have hf : q.filters = r.filters := eq_of_bare filters_bare hb
  rw [clauseTemplates, clauseTemplates, hp, ht, hj, he, ← hf]
  exact .between _ (_ :: _) _ h

theorem length_literals (q : Query) (f : Filter) : (q.literals f).length = q.size f := by
  cases f <;> simp [literals, size]

/-- The text of a selection is that of its clauses and the closing mark. -/
theorem Coherent.toList_render_select (hq : q.Coherent) (hp : q.Projected) {text : String}
    (h : q.render .select = .ok text) :
    text.toList = ((join " " q.clauseTemplates).fill q.options.prepared).toList ++ [';'] := by
  cases ht : q.table.isGiven with
  | false =>
    rw [hq.render_select_of_no_table ht] at h
    cases h
  | true =>
    rw [hq.render_select hp ht] at h
    rw [← Except.ok.inj h, String.toList_append, fill_join]
    rfl

/-- Selections of two queries that differ in nothing but their values, and have no ranges, show the
same text with the values written out only if they have the same values, as written. This also
tells how many candidates a column has. -/
theorem literals_eq_of_render_eq (hq : q.Reachable) (hr : r.Reachable) (hb : q.bare = r.bare)
    (hn : q.ranges.entries = []) (vq : q.QuoteFree) (vr : r.QuoteFree)
    (hl : q.options.prepared = false) {text : String} (tq : q.render .select = .ok text)
    (tr : r.render .select = .ok text) :
    (∀ f, q.literals f = r.literals f) ∧
    (q.inclusions.entries.map fun e => e.2.length) =
      r.inclusions.entries.map fun e => e.2.length := by
  have hl' : r.options.prepared = false := by
    rw [← hl]
    exact (eq_of_bare (g := fun s => s.options.prepared) (fun _ => rfl) hb).symm
  have hc : ∀ f ∈ q.filters, q.literals f = r.literals f := by
    have ht := hq.coherent.toList_render_select hq.projected tq
    rw [hr.coherent.toList_render_select hr.projected tr, hl, hl'] at ht
    exact (settles_clauseTemplates hb fun f _ =>
      settles_condition hq.coherent hr.coherent hb hn vq vr f)
      _ _ ht.symm |>.1
  have hs : ∀ f, q.literals f = r.literals f := by
    intro f
    by_cases hf : f ∈ q.filters
    · exact hc f hf
    · have hz : q.size f = 0 := by
        have hm : f ∈ Filter.all := by cases f <;> simp [Filter.all]
        simpa [filters, hm] using hf
      have hz' : r.size f = 0 :=
        (eq_of_bare (g := fun s => s.size f) (fun s => s.size_bare f) hb).symm.trans hz
      rw [List.length_eq_zero_iff.mp ((q.length_literals f).trans hz),
        List.length_eq_zero_iff.mp ((r.length_literals f).trans hz')]
  refine ⟨hs, ?_⟩
  simpa [literals, Function.comp_def] using congrArg (List.map List.length) (hs .inclusion)

end Pair

/-- All other marks may stand in values: numbers, nothing and their texts are written the same. -/
theorem literals_of_same_text :
    let run := fun a d (candidates : Value) =>
      ({} : Query).applyAll [.source (.text "t"), .compare (.text "a") a (.text ">"),
        .compareAll .or (.map [(.text "b", .text ") OR ("), (.text "c", .text "; --")]),
        .member (.text "d") candidates, .like (.text "e") d .null]
    let q := run (.int 1) .null (.list [.int 2, .text "x','y, "])
    let r := run (.text "1") (.text "None") (.tuple [.text "2", .text "x','y, "])
    let text := "SELECT * FROM t WHERE a > \x221\x22 AND (b = \x22) OR (\x22 OR c = \x22; --\x22) " ++
      "AND d IN (\x222\x22,\x22x','y, \x22) AND e LIKE \x22None\x22;"
    q.Reachable ∧ r.Reachable ∧ q.bare = r.bare ∧ q.ranges.entries = [] ∧ q.QuoteFree ∧
    r.QuoteFree ∧ q.options.prepared = false ∧ q.render .select = .ok text ∧
    r.render .select = .ok text ∧ (∀ f, q.literals f = r.literals f) ∧
    (q.inclusions.entries.map fun e => e.2.length) =
      r.inclusions.entries.map fun e => e.2.length := by
  intro run q r text
  have hq : q.Reachable := ⟨.value .null, {}, _, rfl, rfl⟩
  have hr : r.Reachable := ⟨.value .null, {}, _, rfl, rfl⟩
  have hb : q.bare = r.bare := rfl
  have vq : q.QuoteFree := by
    intro f
    cases f <;> decide +kernel
  have vr : r.QuoteFree := by
    intro f
    cases f <;> decide +kernel
  have tq : q.render .select = .ok text := eq_ok_of_toOption (by decide +kernel)
  have tr : r.render .select = .ok text := eq_ok_of_toOption (by decide +kernel)
  exact ⟨hq, hr, hb, rfl, vq, vr, rfl, tq, tr,
    literals_eq_of_render_eq hq hr hb rfl vq vr rfl tq tr⟩

/-- A quote within a value ends it: one candidate is taken for two. -/
example :
    let run := fun (candidates : List Value) => ({} : Query).applyAll
      [.source (.text "t"), .member (.text "a") (.list candidates)]
    ((run [.text "x\x22,\x22y"]).render .select).toOption =
        some "SELECT * FROM t WHERE a IN (\x22x\x22,\x22y\x22);" ∧
      ((run [.text "x", .text "y"]).render .select).toOption =
        some "SELECT * FROM t WHERE a IN (\x22x\x22,\x22y\x22);" := by
  decide +kernel

end Query

end FluentSql
