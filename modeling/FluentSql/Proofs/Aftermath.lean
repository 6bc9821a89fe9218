import FluentSql.Proofs.Segments
import Mathlib.Data.Fintype.EquivFin

/-! What later calls see of a group of comparisons that was refused. Main result: all statements come
out as if the call had not been made exactly if the group was refused before its connective was
taken or that connective was in force anyway. -/
namespace FluentSql

theorem Text.join_cons_of_ne_nil {separator s : String} {rest : List String} (h : rest ≠ []) :
    join separator (s :: rest) = s ++ separator ++ join separator rest := by
  obtain ⟨t, others, rfl⟩ := List.exists_cons_of_ne_nil h
  rfl

/-- Between the same neighbours only the same text makes the same whole. -/
theorem Text.join_append_cons_inj {separator : String} {before after : List String} {s t : String}
    (h : join separator (before ++ s :: after) = join separator (before ++ t :: after)) :
    s = t := by
  induction before with
  | nil =>
    cases after with
    | nil => exact h
    | cons u rest =>
      simp only [List.nil_append, join, String.append_assoc] at h
      exact (String.append_left_inj _).mp h
  | cons u rest ih =>
    rw [List.cons_append, List.cons_append, join_cons_of_ne_nil (by simp),
      join_cons_of_ne_nil (by simp)] at h
    exact ih ((String.append_right_inj _).mp h)

/-- There is always one more name. -/
theorem Keyed.exists_fresh {β : Type} (table : Keyed β) (used : List String) :
    ∃ name, name ∉ used ∧ ∀ e ∈ table, e.1.sameKey (.text name) = false := by
  obtain ⟨name, hn⟩ :=
    Infinite.exists_notMem_finset (used ++ table.map fun e => e.1.shown).toFinset
  rw [List.mem_toFinset, List.mem_append, not_or] at hn
  refine ⟨name, hn.1, fun e he => Bool.eq_false_iff.mpr fun hs => hn.2 ?_⟩
  exact List.mem_map.mpr ⟨e, he, by rw [Value.eq_text_of_sameKey_text hs]; rfl⟩

namespace Comparison

theorem exists_attach (joiner : String) (part : Template) (written : Option Template) :
    ∃ t, attach joiner part written = t ++ part := by
  cases written with
  | none => exact ⟨[], rfl⟩
  | some u => exact ⟨u ++ [.text joiner], by simp [attach]⟩

/-- A last comparison linked by `AND` stands at the very end. -/
theorem exists_walk_of_and {p : Predicate} (h : p.connective = .and) (earlier : List Predicate)
    (written : Option Template) (run : List Template) :
    ∃ t, walk written run (earlier ++ [p]) = some (t ++ p.term) := by
  induction earlier generalizing written run with
  | nil =>
    obtain ⟨t, ht⟩ := exists_attach " AND " p.term (flush written run)
    refine ⟨t, ?_⟩
    rw [List.nil_append, walk, h, ← ht]
    rfl
  | cons p' rest ih =>
    rw [List.cons_append, walk]
    split
    · exact ih _ _
    · exact ih _ _

/-- Two last comparisons linked by `OR` belong to a group, whose parenthesis stands at the very
end. -/
theorem exists_walk_of_or {p r : Predicate} (h : p.connective = .or) (h' : r.connective = .or)
    (earlier : List Predicate) (written : Option Template) (run : List Template) :
    ∃ t, walk written run (earlier ++ [p, r]) = some (t ++ [.text ")"]) := by
  induction earlier generalizing written run with
  | nil =>
    have hf : flush written (run ++ [p.term, r.term]) =
        some (attach " AND " (group (run ++ [p.term, r.term])) written) := by
      rcases run with - | ⟨t, - | ⟨u, rest⟩⟩ <;> rfl
    obtain ⟨t, ht⟩ := exists_attach " AND " (group (run ++ [p.term, r.term])) written
    refine ⟨t ++ .text "(" :: Template.join " OR " (run ++ [p.term, r.term]), ?_⟩
    have hw : walk written run [p, r] = flush written (run ++ [p.term, r.term]) := by
      simp only [walk, h, h', List.append_assoc, List.singleton_append]
    rw [List.nil_append, hw, hf, ht, group, List.append_assoc, List.cons_append]
  | cons q rest ih =>
    rw [List.cons_append, walk]
    split
    · exact ih _ _
    · exact ih _ _

/-- A comparison ends with its value, not with a parenthesis. -/
theorem exists_fill_term (prepared : Bool) (p : Predicate) :
    ∃ s c, p.term.fill prepared = s ++ String.singleton c ∧ c ≠ ')' := by
  have ht : p.term.fill prepared = p.column.shown ++ " " ++ p.operator.shown ++ " " ++
      (Piece.slot .double p.value).fill prepared := by
    simp [Predicate.term, Template.fill]
  rw [ht]
  cases prepared with
  | true => exact ⟨_, '?', rfl, by decide⟩
  | false => exact ⟨_, '\x22', String.append_assoc.symm, by decide⟩

/-- The connective of two last comparisons shows. -/
theorem fill_condition_ne (prepared : Bool) (earlier : List Predicate) (p p' : Predicate) :
    (condition (earlier ++ [{ p with connective := .and }, { p' with connective := .and }])).fill
        prepared ≠
      (condition (earlier ++ [{ p with connective := .or }, { p' with connective := .or }])).fill
        prepared := by
  intro he
  obtain ⟨t, ht⟩ := exists_walk_of_and (p := { p' with connective := .and }) rfl
    (earlier ++ [{ p with connective := .and }]) none []
  obtain ⟨u, hu⟩ := exists_walk_of_or (p := { p with connective := .or })
    (r := { p' with connective := .or }) rfl rfl earlier none []
  obtain ⟨s, c, hs, hc⟩ := exists_fill_term prepared { p' with connective := .and }
  rw [List.append_assoc, List.singleton_append] at ht
  rw [condition, condition, ht, hu, Option.getD_some, Option.getD_some, Template.fill_append,
    Template.fill_append, hs] at he
  have hl := congrArg (fun s => s.toList.getLast?) he
  exact hc (by simpa [Template.fill, Piece.fill, String.toList_append] using hl)

end Comparison

namespace Query

/-- The same query under another connective. -/
def linkedBy (q : Query) (connective : Connective) : Query :=
  { q with comparisons := { q.comparisons with connective } }

/-- What stands around the comparisons of a selection does not hang on them. -/
theorem exists_clauseTemplates (q : Query) : ∃ before after, ∀ c : Comparisons, c.entries ≠ [] →
    ({ q with comparisons := c } : Query).clauseTemplates =
      before ++ (.text "WHERE " :: Comparison.condition (c.entries.map Prod.snd)) :: after := by
  let others : List Filter := [.inclusion, .pattern, .range].filter fun f => q.size f != 0
  refine ⟨[.ofText q.projectionClause, .ofText ("FROM " ++ q.table.shown)] ++
      (if q.joins.entries.isEmpty then []
        else [.ofText (Join.segment q.joins.kind q.joins.entries)]),
    others.map (fun f => .text "AND " :: q.condition f) ++ q.tailClauses, fun c hc => ?_⟩
  have hf : ({ q with comparisons := c } : Query).filters = .comparison :: others :=
    List.filter_cons_of_pos (by simpa [size] using hc)
  have ho : others.map ({ q with comparisons := c } : Query).condition =
      others.map q.condition := by
    refine List.map_congr_left fun f hm => ?_
    cases f with
    | comparison => simp [others] at hm
    | _ => rfl
  simp only [clauseTemplates, hf, List.map_cons, ho, Template.opened, List.map_map,
    List.append_assoc, List.cons_append]
  rfl

/-- The comparisons with one more, of a column that is not among them. -/
def extended (c : Comparisons) (name : String) : Comparisons :=
  let predicate : Predicate :=
    { column := .text name, operator := Comparisons.equals, value := .null
      connective := c.connective }
  { c with active := true, entries := c.entries ++ [(.text name, predicate)] }

theorem state_compare_fresh {q : Query} {name : String} (hn : name ≠ "")
    (hf : ∀ e ∈ q.comparisons.entries, e.1.sameKey (.text name) = false) :
    (q.apply (.compare (.text name) .null .null)).state =
      { q with comparisons := extended q.comparisons name } := by
  have hg : (Value.text name).isGiven = true := by simpa [Value.isGiven] using hn
  have ha : q.comparisons.add (.text name) .null .null = .done { q.comparisons with
      toFamily := q.comparisons.put (.text name) .null Comparisons.equals } := by
    simp only [Comparisons.add, hg, Value.requireKey_text]
    rfl
  simp only [apply, ha, Comparisons.put, Family.put, Keyed.put_eq_append hf]
  rfl

/-- Calls that make a selection with two more comparisons. -/
def sampling (first second : String) : List Change :=
  [.compare (.text first) .null .null, .compare (.text second) .null .null, .source (.text "t")]

theorem applyAll_sampling {q : Query} {first second : String} (h₁ : first ≠ "") (h₂ : second ≠ "")
    (hne : first ≠ second)
    (hf₁ : ∀ e ∈ q.comparisons.entries, e.1.sameKey (.text first) = false)
    (hf₂ : ∀ e ∈ q.comparisons.entries, e.1.sameKey (.text second) = false) :
    q.applyAll (sampling first second) = { q with
      table := .text "t"
      comparisons := extended (extended q.comparisons first) second } := by
  have hf : ∀ e ∈ (extended q.comparisons first).entries,
      e.1.sameKey (.text second) = false := by
    refine List.forall_mem_append.mpr ⟨hf₂, List.forall_mem_singleton.mpr ?_⟩
    simpa using hne
  rw [sampling, applyAll_cons, state_compare_fresh h₁ hf₁, applyAll_cons,
    state_compare_fresh h₂ hf]
  rfl

/-- The filter of a selection with two more comparisons that were added under a connective. -/
def sampledFilter (q : Query) (first second : String) (connective : Connective) : String :=
  (Comparison.condition ((extended (extended { q.comparisons with connective } first)
    second).entries.map Prod.snd)).fill q.options.prepared

theorem sampledFilter_ne (q : Query) (first second : String) :
    q.sampledFilter first second .and ≠ q.sampledFilter first second .or := by
  have hf := Comparison.fill_condition_ne q.options.prepared (q.comparisons.entries.map Prod.snd)
    { column := .text first, operator := Comparisons.equals, value := .null, connective := .and }
    { column := .text second, operator := Comparisons.equals, value := .null, connective := .and }
  simpa [sampledFilter, extended] using hf

/-- Around the filter the selection is the same under both connectives. -/
theorem render_sampling {q : Query} (hc : q.Coherent) (hp : q.Projected) {first second : String}
    (h₁ : first ≠ "") (h₂ : second ≠ "") (hne : first ≠ second)
    (hf₁ : ∀ e ∈ q.comparisons.entries, e.1.sameKey (.text first) = false)
    (hf₂ : ∀ e ∈ q.comparisons.entries, e.1.sameKey (.text second) = false) :
    ∃ before after : List String, ∀ connective,
      ((q.linkedBy connective).applyAll (sampling first second)).render .select =
        .ok (Text.join " " (before ++
          ("WHERE " ++ q.sampledFilter first second connective) :: after) ++ ";") := by
  obtain ⟨before, after, hb⟩ := ({ q with table := .text "t" } : Query).exists_clauseTemplates
  refine ⟨before.map (Template.fill q.options.prepared),
    after.map (Template.fill q.options.prepared), fun connective => ?_⟩
  have hs : (q.linkedBy connective).applyAll (sampling first second) = { q with
      table := .text "t"
      comparisons := extended (extended { q.comparisons with connective } first) second } :=
    applyAll_sampling h₁ h₂ hne hf₁ hf₂
  have hl : (q.linkedBy connective).Coherent := { hc with comparisons := hc.comparisons }
  have hl' : (q.linkedBy connective).Projected := hp
  have ha := applyAll_induction (fun _ d h => h.apply d) hl (sampling first second)
  have ha' := applyAll_induction (fun _ d h => h.apply d) hl' (sampling first second)
  rw [ha.render_select ha' (by rw [hs]; rfl), hs, hb _ (by simp [extended]), List.map_append,
    List.map_cons]
  rfl

/-- A selection tells two more comparisons under one connective from the same under another. -/
theorem exists_render_ne {q : Query} (hc : q.Coherent) (hp : q.Projected) {connective : Connective}
    (hne : connective ≠ q.comparisons.connective) : ∃ changes,
      ((q.linkedBy connective).applyAll changes).render .select ≠
        (q.applyAll changes).render .select := by
  obtain ⟨first, hu₁, hf₁⟩ := Keyed.exists_fresh q.comparisons.entries [""]
  obtain ⟨second, hu₂, hf₂⟩ := Keyed.exists_fresh q.comparisons.entries ["", first]
  simp only [List.mem_cons, List.not_mem_nil, or_false, not_or] at hu₁ hu₂
  obtain ⟨before, after, hr⟩ := render_sampling hc hp hu₁ hu₂.1 (Ne.symm hu₂.2) hf₁ hf₂
  refine ⟨sampling first second, fun he => ?_⟩
  have ht := Except.ok.inj
    ((hr connective).symm.trans (he.trans (hr q.comparisons.connective)))
  have hi : q.sampledFilter first second connective =
      q.sampledFilter first second q.comparisons.connective :=
    (String.append_right_inj _).mp (Text.join_append_cons_inj ((String.append_left_inj _).mp ht))
  have hd := q.sampledFilter_ne first second
  cases hk : connective <;> cases hk' : q.comparisons.connective <;> rw [hk, hk'] at hne hi
  · exact hne rfl
  · exact hd hi
  · exact hd hi.symm
  · exact hne rfl

end Query

namespace Comparisons

/-- The conditions cannot be gone through, or one of their columns is empty. -/
def StopsEarly (conditions : Value) : Prop :=
  ∀ columns, conditions.elements? = some columns → ∃ column ∈ columns, column.isGiven = false

/-- A group is refused before its connective is taken, or after that because it is no map. -/
theorem addAll_cases_of_fault {c : Comparisons} {connective : Connective} {conditions : Value}
    {f : Fault} (h : (c.addAll connective conditions).fault = some f) :
    (StopsEarly conditions ∧ (c.addAll connective conditions).state = c) ∨
    (¬ StopsEarly conditions ∧
      (c.addAll connective conditions).state = { c with connective }) := by
  unfold addAll Value.elements at h ⊢
  cases hc : conditions.elements? with
  | none => exact .inl ⟨by simp [StopsEarly, hc], rfl⟩
  | some columns =>
    have hs : StopsEarly conditions ↔ columns.any (!·.isGiven) = true := by
      simp [StopsEarly, hc]
    simp only [hc] at h ⊢
    rw [hs]
    split
    · exact .inl ⟨‹_›, rfl⟩
    · next hn =>
      rw [if_neg hn] at h
      refine .inr ⟨hn, ?_⟩
      cases conditions with
      | map entries => cases h
      | _ => rfl

end Comparisons

namespace Query

/-- A refused group of comparisons leaves everything but the connective. What comes later is as if the
group had not been there exactly if it was refused before its connective was taken, or if that
was in force anyway; otherwise some later selection shows it. -/
theorem refused_group_unseen_iff {q : Query} (hq : q.Reachable) {connective : Connective}
    {conditions : Value} {f : Fault}
    (hf : (q.apply (.compareAll connective conditions)).fault = some f) :
    let left := (q.apply (.compareAll connective conditions)).state
    let unseen := Comparisons.StopsEarly conditions ∨ connective = q.comparisons.connective
    left = q.linkedBy left.comparisons.connective ∧
    (left = q ↔ unseen) ∧
    ((∀ changes s, (left.applyAll changes).render s = (q.applyAll changes).render s) ↔
      unseen) := by
  intro left unseen
  have hl : left = { q with
      comparisons := (q.comparisons.addAll connective conditions).state } := rfl
  rcases Comparisons.addAll_cases_of_fault hf with ⟨hs, ha⟩ | ⟨hs, ha⟩ <;> rw [ha] at hl
  · have hu : unseen := .inl hs
    rw [hl]
    exact ⟨rfl, iff_of_true rfl hu, iff_of_true (fun _ _ => rfl) hu⟩
  · have hu : unseen ↔ connective = q.comparisons.connective := or_iff_right hs
    rw [hu, hl]
    by_cases hc : connective = q.comparisons.connective
    · rw [hc]
      exact ⟨rfl, iff_of_true rfl rfl, iff_of_true (fun _ _ => rfl) rfl⟩
    · obtain ⟨changes, hr⟩ := exists_render_ne hq.coherent hq.projected hc
      refine ⟨rfl, iff_of_false (fun he => hc ?_) hc, iff_of_false (fun he => ?_) hc⟩
      · exact congrArg (fun r : Query => r.comparisons.connective) he
      · exact hr (he changes .select)

/-- Neither what cannot be gone through nor an empty column among others is seen later. -/
theorem refused_groups_unseen :
    let q := ({} : Query).applyAll [.source (.text "t"), .compare (.text "a") (.int 1) .null]
    let holed := Change.compareAll .or (.list [.text "b", .text ""])
    let missing := Change.compareAll .or .null
    let later := [Change.compare (.text "c") (.int 2) .null]
    q.Reachable ∧
    ((q.apply holed).fault = some (.missingColumn .comparison) ∧
      ((q.apply holed).state.applyAll later).render .select =
        .ok "SELECT * FROM t WHERE a = \x221\x22 AND c = \x222\x22;") ∧
    (q.apply missing).fault = some (.notIterable .null) ∧
      ((q.apply missing).state.applyAll later).render .select =
        .ok "SELECT * FROM t WHERE a = \x221\x22 AND c = \x222\x22;" := by
  intro q holed missing later
  have hr : q.Reachable := ⟨.value .null, {}, _, rfl, rfl⟩
  have hh : (q.apply holed).fault = some (.missingColumn .comparison) := rfl
  have hm : (q.apply missing).fault = some (.notIterable .null) := rfl
  have ht : (q.applyAll later).render .select =
      .ok "SELECT * FROM t WHERE a = \x221\x22 AND c = \x222\x22;" :=
    eq_ok_of_toOption (by decide +kernel)
  have hs : Comparisons.StopsEarly (.list [.text "b", .text ""]) := fun columns hc =>
    ⟨.text "", by rw [← Option.some.inj hc]; simp, rfl⟩
  obtain ⟨-, -, hu⟩ := refused_group_unseen_iff hr hh
  obtain ⟨-, -, hu'⟩ := refused_group_unseen_iff hr hm
  exact ⟨hr, ⟨hh, (hu.mpr (.inl hs) later .select).trans ht⟩, hm,
    (hu'.mpr (.inl nofun) later .select).trans ht⟩

/-- A group that is no map is refused, and later comparisons are linked as it asked for. -/
theorem refused_list_links_later_comparison :
    let q := ({} : Query).applyAll [.source (.text "t"), .compare (.text "a") (.int 1) .null]
    let listed := Change.compareAll .or (.list [.text "b"])
    let later := [Change.compare (.text "c") (.int 2) .null]
    q.Reachable ∧
    (q.apply listed).fault = some (.unanswered .list .items) ∧
    ((q.apply listed).state.comparisons.connective = .or ∧ q.comparisons.connective = .and) ∧
    ((q.apply listed).state.applyAll later).render .select =
      .ok "SELECT * FROM t WHERE a = \x221\x22 OR c = \x222\x22;" ∧
    (q.applyAll later).render .select =
      .ok "SELECT * FROM t WHERE a = \x221\x22 AND c = \x222\x22;" := by
  intro q listed later
  exact ⟨⟨.value .null, {}, _, rfl, rfl⟩, rfl, ⟨rfl, rfl⟩,
    eq_ok_of_toOption (by decide +kernel), eq_ok_of_toOption (by decide +kernel)⟩

end Query

end FluentSql
