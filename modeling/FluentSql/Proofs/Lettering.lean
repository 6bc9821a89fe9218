import FluentSql.Text.Case
import Mathlib.Data.List.DropRight

/-! What the conversions of text can bring in. Main results: upper, lower and title case bring in no
character of a class that has no letters in it, and they lose no character altogether. -/
namespace FluentSql.Text

/-! Trimming. -/

theorem squeeze_trimStart (s : List Char) : squeeze (trimStart s) = squeeze s := by
  induction s with
  | nil => rfl
  | cons c rest ih =>
    by_cases hc : isBlank c = true
    · have hs : squeeze (c :: rest) = squeeze rest := by simp [squeeze, hc]
      rw [trimStart, List.dropWhile_cons_of_pos hc, hs]
      exact ih
    · rw [trimStart, List.dropWhile_cons_of_neg hc]

/-- Without any blank it does not matter which blanks were removed before. -/
theorem squeeze_trim (s : List Char) : squeeze (trim s) = squeeze s := by
  have hr : ∀ t, squeeze t.reverse = (squeeze t).reverse := fun t => List.filter_reverse
  rw [trim, trimEnd, hr, squeeze_trimStart, hr, List.reverse_reverse, squeeze_trimStart]

theorem squeeze_eq_nil_iff {s : List Char} : squeeze s = [] ↔ ∀ c ∈ s, isBlank c = true := by
  simp [squeeze, List.filter_eq_nil_iff]

theorem squeeze_eq_self_iff {s : List Char} : squeeze s = s ↔ ∀ c ∈ s, isBlank c = false := by
  simp [squeeze, List.filter_eq_self]

theorem mem_of_mem_trim {c : Char} {s : List Char} (h : c ∈ trim s) : c ∈ s := by
  have hs : ∀ {t : List Char}, c ∈ trimStart t → c ∈ t := fun h =>
    (List.dropWhile_sublist _).subset h
  rw [trim, trimEnd, List.mem_reverse] at h
  exact hs (List.mem_reverse.mp (hs h))

/-- Nothing remains of blanks only. -/
theorem trim_eq_nil_iff {s : List Char} : trim s = [] ↔ ∀ c ∈ s, isBlank c = true := by
  constructor
  · intro h
    rw [← squeeze_eq_nil_iff, ← squeeze_trim, h]
    rfl
  · intro h
    have hs : ∀ t : List Char, (∀ c ∈ t, isBlank c = true) → trimStart t = [] := fun t ht => by
      rw [trimStart, List.dropWhile_eq_nil_iff]
      exact ht
    rw [trim, hs s h]
    rfl

theorem trim_trim (s : List Char) : trim (trim s) = trim s := by
  have hs : trimStart (trim s) = trim s := by
    rw [trimStart, List.dropWhile_eq_self_iff]
    intro hl
    have hp : trim s <+: trimStart s := List.rdropWhile_prefix isBlank (trimStart s)
    have hn := List.dropWhile_eq_self_iff.mp (List.dropWhile_idempotent isBlank s)
      (hl.trans_le hp.length_le)
    rwa [hp.getElem hl]
  calc trim (trim s) = trimEnd (trim s) := by rw [trim, hs]
    _ = trim s := List.rdropWhile_idempotent isBlank (trimStart s)

/-- A trimmed text does not end with a blank. -/
theorem isBlank_getLast_trim {s : List Char} (h : trim s ≠ []) :
    isBlank ((trim s).getLast h) = false :=
  Bool.eq_false_iff.mpr (List.rdropWhile_last_not isBlank (trimStart s) h)

/-! Case forms. -/

/-- No letter is mapped to a code point between the bounds. -/
def avoids (low high : Nat) (runs : List CaseRun) (expansions : List (Nat × List Nat)) : Bool :=
  runs.all (fun run => high < run.target || run.target + (run.last - run.first) < low) &&
    expansions.all fun e => e.2.all fun n => high < n || n < low

/-- The code points between the bounds have no letters among them: none of them stands in the upper
or lower case form of another character. -/
structure CaseFree (low high : Nat) : Prop where
  pos : 0 < low
  upper : avoids low high upperRuns upperExpansions = true
  lower : avoids low high lowerRuns lowerExpansions = true
  sigma : ['σ', 'ς'].all (fun c => high < c.toNat || c.toNat < low) = true

instance (low high : Nat) : Decidable (CaseFree low high) :=
  decidable_of_iff (0 < low ∧ avoids low high upperRuns upperExpansions = true ∧
      avoids low high lowerRuns lowerExpansions = true ∧
      ['σ', 'ς'].all (fun c => high < c.toNat || c.toNat < low) = true)
    ⟨fun ⟨h₁, h₂, h₃, h₄⟩ => ⟨h₁, h₂, h₃, h₄⟩, fun h => ⟨h.pos, h.upper, h.lower, h.sigma⟩⟩

theorem image_of_avoids {low high : Nat} {runs : List CaseRun} {expansions : List (Nat × List Nat)}
    (h : avoids low high runs expansions = true) {run : CaseRun} (hr : run ∈ runs) {n image : Nat}
    (hi : run.image? n = some image) : high < image ∨ image < low := by
  have ha := List.all_eq_true.mp (Bool.and_eq_true_iff.mp h).1 run hr
  simp only [Bool.or_eq_true, decide_eq_true_eq] at ha
  unfold CaseRun.image? at hi
  split at hi
  · rw [← Option.some.inj hi]
    omega
  · cases hi

/-- A code point that is no character stands for none between positive bounds. -/
theorem toNat_ofNat_outside {low high n : Nat} (hl : 0 < low) (h : high < n ∨ n < low) :
    high < (Char.ofNat n).toNat ∨ (Char.ofNat n).toNat < low := by
  by_cases hn : n.isValidChar
  · rw [Char.ofNat, dif_pos hn]
    exact h
  · rw [Char.ofNat, dif_neg hn]
    exact .inr hl

theorem eq_of_mem_mapped {low high : Nat} (hl : 0 < low) {runs : List CaseRun}
    {expansions : List (Nat × List Nat)} (h : avoids low high runs expansions = true) {c d : Char}
    (hd : d ∈ mapped runs expansions c) (h₁ : low ≤ d.toNat) (h₂ : d.toNat ≤ high) : d = c := by
  unfold mapped at hd
  split at hd
  · next image he =>
    obtain ⟨n, hn, rfl⟩ := List.mem_map.mp hd
    obtain ⟨front, back, rfl, -⟩ := List.lookup_eq_some_iff.mp he
    have ha := List.all_eq_true.mp (List.all_eq_true.mp (Bool.and_eq_true_iff.mp h).2
      (c.toNat, image) (by simp)) n hn
    simp only [Bool.or_eq_true, decide_eq_true_eq] at ha
    have ho := toNat_ofNat_outside hl ha
    omega
  · rw [List.mem_singleton] at hd
    cases hr : runs.findSome? (·.image? c.toNat) with
    | none => simpa [hr] using hd
    | some n =>
      obtain ⟨run, hm, hi⟩ := List.exists_of_findSome?_eq_some hr
      have ho := toNat_ofNat_outside hl (image_of_avoids h hm hi)
      rw [hr, Option.map_some, Option.getD_some] at hd
      rw [← hd] at ho
      omega

namespace CaseFree

variable {low high : Nat} {d : Char}

theorem mem_of_mem_lowerAfter (h : CaseFree low high) (h₁ : low ≤ d.toNat) (h₂ : d.toNat ≤ high)
    {before s : List Char} (hd : d ∈ lowerAfter before s) : d ∈ s := by
  induction s generalizing before with
  | nil => cases hd
  | cons c rest ih =>
    rw [lowerAfter, List.mem_append] at hd
    rcases hd with hd | hd
    · rw [List.mem_cons]
      split at hd
      · -- neither small sigma stands between the bounds
        have hs : d ∈ ['σ', 'ς'] := by split at hd <;> simp_all
        have ho := List.all_eq_true.mp h.sigma d hs
        simp only [Bool.or_eq_true, decide_eq_true_eq] at ho
        omega
      · exact .inl (eq_of_mem_mapped h.pos h.lower hd h₁ h₂)
    · exact List.mem_cons_of_mem c (ih hd)

theorem mem_of_mem_lower (h : CaseFree low high) (h₁ : low ≤ d.toNat) (h₂ : d.toNat ≤ high)
    {s : List Char} (hd : d ∈ Text.lower s) : d ∈ s :=
  h.mem_of_mem_lowerAfter h₁ h₂ hd

theorem mem_of_mem_title (h : CaseFree low high) (h₁ : low ≤ d.toNat) (h₂ : d.toNat ≤ high)
    {s : List Char} (hd : d ∈ title s) : d ∈ s := by
  unfold title at hd
  split at hd
  · cases hd
  · exact List.mem_singleton.mpr (eq_of_mem_mapped h.pos h.upper hd h₁ h₂)
  · rw [List.mem_cons]
    rcases List.mem_append.mp hd with hd | hd
    · exact .inl (eq_of_mem_mapped h.pos h.upper hd h₁ h₂)
    · exact .inr (h.mem_of_mem_lower h₁ h₂ (mem_of_mem_trim hd))

end CaseFree

theorem caseFree_underscore : CaseFree '_'.toNat '_'.toNat := by decide +kernel

theorem caseFree_comma : CaseFree ','.toNat ','.toNat := by decide +kernel

/-- The ranges of the blanks. -/
def blankRanges : List (Nat × Nat) := [
  (0x9, 0xD), (0x1C, 0x20), (0x85, 0x85), (0xA0, 0xA0), (0x1680, 0x1680), (0x2000, 0x200A),
  (0x2028, 0x2029), (0x202F, 0x202F), (0x205F, 0x205F), (0x3000, 0x3000)]

theorem exists_range_of_isBlank {c : Char} (h : isBlank c = true) :
    ∃ r ∈ blankRanges, r.1 ≤ c.toNat ∧ c.toNat ≤ r.2 := by
  simp only [isBlank, Bool.or_eq_true, Bool.and_eq_true, decide_eq_true_eq, beq_iff_eq] at h
  simp only [blankRanges, List.exists_mem_cons_iff]
  omega

theorem caseFree_blank : ∀ r ∈ blankRanges, CaseFree r.1 r.2 := by decide +kernel

/-- A blank is its own upper case. -/
theorem upperChar_of_isBlank {c : Char} (h : isBlank c = true) : upperChar c = [c] := by
  have hnone : ∀ r ∈ blankRanges, ∀ k < r.2 - r.1 + 1,
      upperExpansions.lookup (r.1 + k) = none ∧
        upperRuns.findSome? (·.image? (r.1 + k)) = none := by decide +kernel
  obtain ⟨r, hr, h₁, h₂⟩ := exists_range_of_isBlank h
  have hc := hnone r hr (c.toNat - r.1) (by omega)
  rw [Nat.add_sub_of_le h₁] at hc
  simp [upperChar, mapped, hc]

theorem upper_of_blank {s : List Char} (h : ∀ c ∈ s, isBlank c = true) : upper s = s := by
  induction s with
  | nil => rfl
  | cons c rest ih =>
    obtain ⟨hc, hrest⟩ := List.forall_mem_cons.1 h
    rw [upper, List.flatMap_cons, upperChar_of_isBlank hc, ← upper, ih hrest]
    rfl

/-! A character has case forms of at least one character. -/

theorem mapped_ne_nil {runs : List CaseRun} {expansions : List (Nat × List Nat)}
    (h : expansions.all (fun e => !e.2.isEmpty) = true) (c : Char) :
    mapped runs expansions c ≠ [] := by
  unfold mapped
  split
  · next image he =>
    obtain ⟨front, back, rfl, -⟩ := List.lookup_eq_some_iff.mp he
    have hi := List.all_eq_true.mp h (c.toNat, image) (by simp)
    simpa using hi
  · exact List.cons_ne_nil _ _

theorem upperChar_ne_nil (c : Char) : upperChar c ≠ [] := mapped_ne_nil (by decide) c

theorem lower_eq_nil_iff {s : List Char} : lower s = [] ↔ s = [] := by
  cases s with
  | nil => exact iff_of_true rfl rfl
  | cons c rest =>
    refine iff_of_false (fun h => ?_) (List.cons_ne_nil c rest)
    have hc := (List.append_eq_nil_iff.mp h).1
    split at hc
    · split at hc <;> cases hc
    · exact mapped_ne_nil (by decide) c hc

theorem title_eq_nil_iff {s : List Char} : title s = [] ↔ s = [] := by
  rcases s with - | ⟨c, - | ⟨c', rest⟩⟩
  · exact iff_of_true rfl rfl
  · exact iff_of_false (upperChar_ne_nil c) (List.cons_ne_nil _ _)
  · exact iff_of_false (fun h => upperChar_ne_nil c (List.append_eq_nil_iff.mp h).1)
      (List.cons_ne_nil _ _)

end FluentSql.Text
