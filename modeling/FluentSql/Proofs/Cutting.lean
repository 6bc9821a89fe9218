import FluentSql.Text.Split

/-! Cutting text at a delimiter, and joining texts. Main results: the delimiter puts the parts
together again, texts without the delimiter are the parts of what it joins them to, and all parts
are empty exactly if the text is made of delimiters. -/
namespace FluentSql.Text

/-! Cutting at any delimiter. -/

/-- Skipping what is left of a delimiter goes on behind it. -/
theorem splitSkipping_eq (d : List Char) (skip : Nat) (s : List Char) :
    splitSkipping d skip s = split d (s.drop skip) := by
  induction s generalizing skip with
  | nil => cases skip <;> rfl
  | cons c rest ih =>
    cases skip with
    | zero => rfl
    | succ n => exact ih n

theorem split_append {d : List Char} (hd : d ≠ []) (s : List Char) :
    split d (d ++ s) = [] :: split d s := by
  obtain ⟨c, rest, rfl⟩ := List.exists_cons_of_ne_nil hd
  have hp : (c :: rest).isPrefixOf (c :: (rest ++ s)) = true :=
    List.isPrefixOf_iff_prefix.mpr (List.prefix_append (c :: rest) s)
  rw [List.cons_append, split, splitSkipping, if_pos hp, splitSkipping_eq, List.length_cons,
    Nat.add_sub_cancel, List.drop_left]

theorem split_cons_of_not_isPrefix {d : List Char} {c : Char} {s : List Char}
    (h : ¬ d <+: c :: s) : split d (c :: s) = consFirst c (split d s) := by
  rw [split, splitSkipping, if_neg (mt List.isPrefixOf_iff_prefix.mp h)]
  rfl

/-- A text in which the delimiter does not occur is its only part. -/
theorem split_of_not_occurs {d s : List Char} (h : ¬ occurs d s = true) : split d s = [s] := by
  induction s with
  | nil => rfl
  | cons c rest ih =>
    rw [occurs, Bool.or_eq_true, not_or, List.isPrefixOf_iff_prefix] at h
    rw [split_cons_of_not_isPrefix h.1, ih h.2]
    rfl

theorem intercalate_consFirst (d : List Char) (c : Char) {parts : List (List Char)}
    (h : parts ≠ []) : d.intercalate (consFirst c parts) = c :: d.intercalate parts := by
  obtain ⟨part, rest, rfl⟩ := List.exists_cons_of_ne_nil h
  cases rest <;> simp [consFirst]

theorem intercalate_nil_cons (d : List Char) {parts : List (List Char)} (h : parts ≠ []) :
    d.intercalate ([] :: parts) = d ++ d.intercalate parts := by
  obtain ⟨part, rest, rfl⟩ := List.exists_cons_of_ne_nil h
  simp

/-- Nothing is lost by cutting: the delimiter puts the parts together again. -/
theorem intercalate_split {d : List Char} (hd : d ≠ []) (s : List Char) :
    d.intercalate (split d s) = s := by
  -- a whole delimiter is taken at once, so the induction is on the length
  induction hn : s.length using Nat.strongRecOn generalizing s with
  | ind n ih =>
  cases s with
  | nil => rfl
  | cons c rest =>
    by_cases hp : d <+: c :: rest
    · obtain ⟨back, hb⟩ := hp
      have hl : back.length < n := by
        have := List.length_pos_iff.mpr hd
        rw [← hn, ← hb, List.length_append]
        omega
      rw [← hb, split_append hd, intercalate_nil_cons d (split_ne_nil d back), ih _ hl back rfl]
    · have hl : rest.length < n := by
        rw [← hn, List.length_cons]
        omega
      rw [split_cons_of_not_isPrefix hp, intercalate_consFirst d c (split_ne_nil d rest),
        ih _ hl rest rfl]

theorem mem_intercalate {d part : List Char} {parts : List (List Char)} (hp : part ∈ parts)
    {c : Char} (hc : c ∈ part) : c ∈ d.intercalate parts := by
  induction parts with
  | nil => cases hp
  | cons first rest ih =>
    rcases List.mem_cons.mp hp with rfl | hp
    · cases rest <;> simp [hc]
    · obtain ⟨second, others, rfl⟩ := List.exists_cons_of_ne_nil (List.ne_nil_of_mem hp)
      rw [List.intercalate_cons_cons]
      exact List.mem_append_right _ (ih hp)

theorem of_mem_intercalate {d : List Char} {parts : List (List Char)} {c : Char}
    (h : c ∈ d.intercalate parts) : c ∈ d ∨ ∃ part ∈ parts, c ∈ part := by
  induction parts with
  | nil => simp at h
  | cons first rest ih =>
    cases rest with
    | nil => exact .inr ⟨first, List.mem_cons_self, by simpa using h⟩
    | cons second others =>
      rw [List.intercalate_cons_cons, List.mem_append, List.mem_append] at h
      rcases h with (h | h) | h
      · exact .inr ⟨first, List.mem_cons_self, h⟩
      · exact .inl h
      · exact (ih h).imp_right fun ⟨part, hp, hc⟩ => ⟨part, List.mem_cons_of_mem first hp, hc⟩

theorem mem_of_mem_split {d : List Char} (hd : d ≠ []) {c : Char} {s part : List Char}
    (hp : part ∈ split d s) (hc : c ∈ part) : c ∈ s := by
  rw [← intercalate_split hd s]
  exact mem_intercalate hp hc

theorem exists_mem_split {d : List Char} (hd : d ≠ []) {c : Char} {s : List Char} (hc : c ∈ s)
    (hn : c ∉ d) : ∃ part ∈ split d s, c ∈ part := by
  rw [← intercalate_split hd s] at hc
  exact (of_mem_intercalate hc).resolve_left hn

theorem split_replicate {d : List Char} (hd : d ≠ []) (n : Nat) :
    split d (List.replicate n d).flatten = List.replicate (n + 1) [] := by
  induction n with
  | zero => rfl
  | succ n ih =>
    rw [List.replicate_succ, List.flatten_cons, split_append hd, ih]
    rfl

theorem intercalate_replicate_nil (d : List Char) (n : Nat) :
    d.intercalate (List.replicate (n + 1) []) = (List.replicate n d).flatten := by
  induction n with
  | zero => simp
  | succ n ih =>
    have hn : List.replicate (n + 1) ([] : List Char) ≠ [] := List.cons_ne_nil _ _
    rw [List.replicate_succ, intercalate_nil_cons d hn, ih, List.replicate_succ, List.flatten_cons]

/-- There is nothing between the delimiters of a text that is made of them. -/
theorem split_all_nil_iff {d : List Char} (hd : d ≠ []) {s : List Char} :
    (∀ part ∈ split d s, part = []) ↔ ∃ n, s = (List.replicate n d).flatten := by
  constructor
  · intro h
    obtain ⟨part, rest, hs⟩ := List.exists_cons_of_ne_nil (split_ne_nil d s)
    have hr : split d s = List.replicate (rest.length + 1) [] :=
      List.eq_replicate_iff.mpr ⟨by rw [hs, List.length_cons], h⟩
    exact ⟨rest.length, by rw [← intercalate_replicate_nil, ← hr, intercalate_split hd]⟩
  · rintro ⟨n, rfl⟩ part hp
    rw [split_replicate hd] at hp
    exact List.eq_of_mem_replicate hp

/-! Cutting at a single character. -/

/-- A delimiter tells where a text without it ends. -/
theorem append_cons_inj {α : Type} {d : α} {xs ys us vs : List α} (hx : d ∉ xs) (hy : d ∉ ys)
    (h : xs ++ d :: us = ys ++ d :: vs) : xs = ys ∧ us = vs := by
  induction xs generalizing ys with
  | nil =>
    cases ys with
    | nil => exact ⟨rfl, (List.cons.inj h).2⟩
    | cons y ys => exact absurd ((List.cons.inj h).1 ▸ List.mem_cons_self) hy
  | cons x xs ih =>
    rw [List.mem_cons, not_or] at hx
    cases ys with
    | nil => exact absurd (List.cons.inj h).1.symm hx.1
    | cons y ys =>
      rw [List.mem_cons, not_or] at hy
      obtain ⟨rfl, ht⟩ := List.cons.inj h
      obtain ⟨rfl, rfl⟩ := ih hx.2 hy.2 ht
      exact ⟨rfl, rfl⟩

theorem split_cons (d c : Char) (s : List Char) :
    split [d] (c :: s) = if c = d then [] :: split [d] s else consFirst c (split [d] s) := by
  have hp : [d].isPrefixOf (c :: s) = true ↔ c = d := by
    rw [List.isPrefixOf_cons_cons, List.isPrefixOf_nil_left, Bool.and_true, beq_iff_eq, eq_comm]
  rw [split, splitSkipping]
  simp only [hp]
  rfl

/-- Cutting at a single character. -/
theorem split_eq_splitOn (d : Char) (s : List Char) : split [d] s = s.splitOn d := by
  induction s with
  | nil => rw [List.splitOn_nil]; rfl
  | cons c s ih =>
    have hm : ∀ parts : List (List Char), parts ≠ [] →
        consFirst c parts = parts.modifyHead (List.cons c) := by
      intro parts hp
      obtain ⟨part, rest, rfl⟩ := List.exists_cons_of_ne_nil hp
      rfl
    rw [split_cons, List.splitOn_cons_eq_if_modifyHead, ih, hm _ (List.splitOn_ne_nil _ _)]
    simp

/-- No part has the character at which the text was cut. -/
theorem notMem_of_mem_split {d : Char} {s part : List Char} (hp : part ∈ split [d] s) :
    d ∉ part := by
  induction s generalizing part with
  | nil => rw [List.mem_singleton.mp hp]; exact List.not_mem_nil
  | cons first rest ih =>
    rw [split_cons] at hp
    split at hp
    · rcases List.mem_cons.mp hp with rfl | hp
      · exact List.not_mem_nil
      · exact ih hp
    · next hf =>
      obtain ⟨head, tail, hs⟩ := List.exists_cons_of_ne_nil (split_ne_nil [d] rest)
      rw [hs] at hp ih
      rcases List.mem_cons.mp hp with rfl | hp
      · rw [List.mem_cons, not_or]
        exact ⟨Ne.symm hf, ih List.mem_cons_self⟩
      · exact ih (List.mem_cons_of_mem head hp)

theorem occurs_iff {d : Char} {s : List Char} : occurs [d] s = true ↔ d ∈ s := by
  induction s with
  | nil => simp [occurs]
  | cons c s ih => simp [occurs, List.isPrefixOf, ih]

/-! Joining. -/

theorem toList_join (separator : String) (texts : List String) :
    (join separator texts).toList = separator.toList.intercalate (texts.map String.toList) := by
  fun_induction join separator texts with
  | case1 => rfl
  | case2 s => simp
  | case3 s t rest ih => simp [ih, String.toList_append]

theorem of_mem_join {separator : String} {texts : List String} {c : Char}
    (h : c ∈ (join separator texts).toList) :
    c ∈ separator.toList ∨ ∃ s ∈ texts, c ∈ s.toList := by
  rw [toList_join] at h
  exact (of_mem_intercalate h).imp_right fun ⟨_, hp, hc⟩ =>
    let ⟨s, hs, he⟩ := List.mem_map.mp hp
    ⟨s, hs, he ▸ hc⟩

theorem eq_empty_of_join {separator : String} {texts : List String}
    (h : join separator texts = "") {s : String} (hs : s ∈ texts) : s = "" := by
  refine String.toList_eq_nil_iff.mp (List.eq_nil_iff_forall_not_mem.mpr fun c hc => ?_)
  have hm : c ∈ (join separator texts).toList := by
    rw [toList_join]
    exact mem_intercalate (List.mem_map_of_mem hs) hc
  rw [h] at hm
  cases hm

/-- If the separator is not met, there is nothing to separate. -/
theorem eq_singleton_of_join {separator : String} {texts : List String} {d : Char}
    (hd : d ∈ separator.toList) (h : d ∉ (join separator texts).toList) {s : String}
    (hs : s ∈ texts) : texts = [s] := by
  cases texts with
  | nil => cases hs
  | cons first rest =>
    cases rest with
    | nil => rw [List.mem_singleton.mp hs]
    | cons second others =>
      refine absurd ?_ h
      rw [toList_join, List.map_cons, List.map_cons, List.intercalate_cons_cons]
      exact List.mem_append_left _ (List.mem_append_right _ hd)

theorem split_join {d : Char} {texts : List String} (hn : texts ≠ [])
    (h : ∀ s ∈ texts, d ∉ s.toList) :
    split [d] (join (.singleton d) texts).toList = texts.map String.toList := by
  rw [toList_join, split_eq_splitOn, String.toList_singleton]
  exact List.splitOn_intercalate d (List.forall_mem_map.mpr h) (by simpa using hn)

theorem afterLast_suffix (d : Char) (s : List Char) : afterLast d s <:+ s := by
  unfold afterLast
  cases hb : afterLast? d s with
  | none => exact List.suffix_refl s
  | some back =>
    obtain ⟨front, rfl, -⟩ := eq_append_of_afterLast? hb
    exact ⟨front ++ [d], by simp⟩

theorem mem_of_mem_afterLast {c d : Char} {s : List Char} (h : c ∈ afterLast d s) : c ∈ s :=
  (afterLast_suffix d s).mem h

end FluentSql.Text
