import FluentSql.Alias
import FluentSql.Proofs.Cutting
import FluentSql.Proofs.Lettering

/-! The camel case form of one name. Main result: it is always a plain name, and the plain names are
those that are their own forms. Nothing remains of a name that is made of delimiters. -/
namespace FluentSql.Alias

open Text (isBlank squeeze trim)

/-- What has no case forms of its own comes from a part of the name. -/
theorem exists_part_of_mem_camel {low high : Nat} (h : Text.CaseFree low high) {c : Char}
    (h₁ : low ≤ c.toNat) (h₂ : c.toNat ≤ high) {d name : List Char} (hc : c ∈ camel d name) :
    ∃ part ∈ Text.split d (squeeze name), c ∈ part := by
  simp only [camel] at hc
  split at hc
  · obtain ⟨first, others, hs⟩ := List.exists_cons_of_ne_nil (Text.split_ne_nil d (squeeze name))
    rw [hs] at hc ⊢
    rcases List.mem_append.mp hc with hc | hc
    · exact ⟨first, List.mem_cons_self, h.mem_of_mem_lower h₁ h₂ hc⟩
    · obtain ⟨part, hp, hc⟩ := List.mem_flatMap.mp hc
      exact ⟨part, List.mem_cons_of_mem first hp, h.mem_of_mem_title h₁ h₂ hc⟩
  · next ho => exact ⟨squeeze name, by simp [Text.split_of_not_occurs ho], hc⟩

theorem underscore_notMem_camel (name : List Char) : '_' ∉ camel ['_'] name := fun h => by
  obtain ⟨part, hp, hc⟩ := exists_part_of_mem_camel Text.caseFree_underscore le_rfl le_rfl h
  exact Text.notMem_of_mem_split hp hc

/-- Blanks go before the name is cut, and no case form brings one in. -/
theorem isBlank_of_mem_camel {d : List Char} (hd : d ≠ []) {name : List Char} {c : Char}
    (hc : c ∈ camel d name) : isBlank c = false := by
  by_contra hb
  obtain ⟨r, hr, h₁, h₂⟩ := Text.exists_range_of_isBlank (Bool.not_eq_false _ ▸ hb)
  obtain ⟨part, hp, hc⟩ := exists_part_of_mem_camel (Text.caseFree_blank r hr) h₁ h₂ hc
  exact hb (Text.mem_squeeze.mp (Text.mem_of_mem_split hd hp hc)).2

theorem comma_mem_of_mem_camel {d : List Char} (hd : d ≠ []) {name : List Char}
    (h : ',' ∈ camel d name) : ',' ∈ name := by
  obtain ⟨part, hp, hc⟩ := exists_part_of_mem_camel Text.caseFree_comma le_rfl le_rfl h
  exact (Text.mem_squeeze.mp (Text.mem_of_mem_split hd hp hc)).1

@[simp] theorem camel_trim (delimiter name : List Char) :
    camel delimiter (trim name) = camel delimiter name := by
  simp only [camel, Text.squeeze_trim]

theorem camel_of_not_mem {d : Char} {name : List Char} (h : d ∉ name) :
    camel [d] name = squeeze name := by
  have ho : ¬ Text.occurs [d] (squeeze name) = true := fun ho =>
    h (Text.mem_squeeze.mp (Text.occurs_iff.mp ho)).1
  simp only [camel, ho, Bool.false_eq_true, if_false]

/-- The form is empty exactly if the name is made of delimiters, blanks apart. -/
theorem camel_eq_nil_iff {d : List Char} (hd : d ≠ []) {name : List Char} :
    camel d name = [] ↔ ∃ n, squeeze name = (List.replicate n d).flatten := by
  rw [← Text.split_all_nil_iff hd]
  simp only [camel]
  split
  · obtain ⟨first, others, hs⟩ := List.exists_cons_of_ne_nil (Text.split_ne_nil d (squeeze name))
    simp only [hs, List.append_eq_nil_iff, List.flatMap_eq_nil_iff, Text.lower_eq_nil_iff,
      Text.title_eq_nil_iff, List.forall_mem_cons]
  · next ho => simp [Text.split_of_not_occurs ho]

/-- The characters of a name that is its own camel case form. -/
def plain (c : Char) : Bool := c != '_' && !isBlank c

theorem plain_iff {c : Char} : plain c = true ↔ c ≠ '_' ∧ isBlank c = false := by
  simp [plain]

theorem plain_of_mem_camel {name : List Char} {c : Char} (hc : c ∈ camel ['_'] name) :
    plain c = true :=
  plain_iff.mpr ⟨fun he => underscore_notMem_camel name (he ▸ hc),
    isBlank_of_mem_camel (List.cons_ne_nil _ _) hc⟩

theorem camel_eq_self_iff {name : List Char} :
    camel ['_'] name = name ↔ name.all plain = true := by
  rw [List.all_eq_true]
  constructor
  · exact fun h c hc => plain_of_mem_camel (h.symm ▸ hc)
  · intro h
    rw [camel_of_not_mem fun hu => (plain_iff.mp (h '_' hu)).1 rfl]
    exact Text.squeeze_eq_self_iff.mpr fun c hc => (plain_iff.mp (h c hc)).2

theorem camelCase_text (s : String) {delimiter : String} (hd : delimiter ≠ "") :
    camelCase (.text s) (.text delimiter) =
      .ok (.ofList (camel delimiter.toList s.toList)) := by
  have ht : delimiterText (.text delimiter) = .ok delimiter.toList := by
    simp [delimiterText, hd]
  rw [camelCase, ht]
  rfl

theorem toList_underscore : ("_" : String).toList = ['_'] := rfl

theorem camelCase_default (s : String) :
    camelCase (.text s) defaultDelimiter = .ok (.ofList (camel ['_'] s.toList)) := by
  rw [defaultDelimiter, camelCase_text s (by decide), toList_underscore]

/-- Every text has a camel case form. It has neither the delimiter nor a blank in it, and it is its own
form; a text without these two is kept as it is, and no other one is. -/
theorem camelCase_plain (name : String) :
    ∃ made, camelCase (.text name) defaultDelimiter = .ok made ∧
      (∀ c ∈ made.toList, c ≠ '_' ∧ isBlank c = false) ∧
      camelCase (.text made) defaultDelimiter = .ok made ∧
      (made = name ↔ ∀ c ∈ name.toList, c ≠ '_' ∧ isBlank c = false) := by
  have hp : ∀ c ∈ camel ['_'] name.toList, plain c = true := fun c => plain_of_mem_camel
  have hm : camel ['_'] (camel ['_'] name.toList) = camel ['_'] name.toList :=
    camel_eq_self_iff.mpr (List.all_eq_true.mpr hp)
  refine ⟨.ofList (camel ['_'] name.toList), camelCase_default name, ?_, ?_, ?_⟩
  · simpa only [String.toList_ofList, plain_iff] using hp
  · rw [camelCase_default, String.toList_ofList, hm]
  · rw [← String.toList_inj, String.toList_ofList, camel_eq_self_iff]
    simp only [List.all_eq_true, plain_iff]

end FluentSql.Alias
