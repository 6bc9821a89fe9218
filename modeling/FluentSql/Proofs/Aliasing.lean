import FluentSql.Proofs.Camel
import Mathlib.Data.List.Forall2

/-! The projection of a list of column names. Main results: a name is selected without an alias
exactly if its last part has neither the delimiter nor a blank, the parts of the projection
between its commas are the names, each with or without the alias of its last part, and an alias is
missing exactly if that part is made of delimiters. -/
namespace FluentSql.Alias

open Text (afterLast isBlank squeeze trim)

/-! The projection of a list of texts. -/

/-- The names that are not blank, each without the blanks at its ends. -/
def kept (names : List String) : List (List Char) :=
  ((names.map String.toList).filter fun s => s.any (!isBlank ·)).map trim

/-- A stripped name with the alias of its last part. -/
def aliased (s : List Char) : String :=
  .ofList s ++ " AS " ++ .ofList (camel ['_'] (afterLast '.' s))

/-- What a stripped name contributes to the projection. -/
def entry (s : List Char) : String :=
  if (afterLast '.' s).all plain then .ofList s else aliased s

theorem aliased_ne (s : List Char) : aliased s ≠ .ofList s := by
  intro h
  have hl := congrArg String.length h
  simp only [aliased, String.length_append] at hl
  have : 0 < " AS ".length := by decide
  omega

theorem entry_eq_self_iff {s : List Char} :
    entry s = .ofList s ↔ (afterLast '.' s).all plain = true := by
  rw [entry]
  split
  · next h => exact iff_of_true rfl h
  · next h => exact iff_of_false (aliased_ne s) h

theorem mapM_eq_ok {α β : Type} {f : α → Except Fault β} {g : α → β} (h : ∀ a, f a = .ok (g a))
    (l : List α) : l.mapM f = .ok (l.map g) := by
  rw [funext h]
  exact List.mapM_pure

theorem ownName_text (s : List Char) :
    ownName (.text (.ofList s)) = .ok (.ofList (afterLast '.' s)) := by
  rw [ownName, String.toList_ofList]

theorem strippedNames_texts (names : List String) :
    strippedNames (names.map .text) = .ok ((kept names).map fun s => .text (.ofList s)) := by
  induction names with
  | nil => rfl
  | cons name rest ih =>
    have hs : Value.strip (.text name) = .ok (.text (.ofList (trim name.toList))) := rfl
    have hg : (Value.text (.ofList (trim name.toList))).isGiven =
        name.toList.any (!isBlank ·) := by
      rw [Bool.eq_iff_iff]
      simp [Value.isGiven, Text.trim_eq_nil_iff]
    rw [List.map_cons, strippedNames, hs, ih]
    simp only [bind, Except.bind, hg, kept, List.map_cons, List.filter_cons]
    cases name.toList.any (!isBlank ·) <;> rfl

theorem items_map {α : Type} (name : α → Value) (own made : α → String) (l : List α) :
    items (l.map name) (l.map own) (l.map made) = l.map fun a => item (name a) (own a) (made a) := by
  induction l with
  | nil => rfl
  | cons a rest ih => rw [List.map_cons, List.map_cons, List.map_cons, items, ih, List.map_cons]

/-- The alias that a stripped name gets from its last part. -/
def made (d s : List Char) : List Char := camel d (afterLast '.' s)

/-- What a stripped name contributes to a projection with a delimiter of its own. -/
def entryBy (d s : List Char) : String :=
  if made d s = afterLast '.' s then .ofList s else .ofList s ++ " AS " ++ .ofList (made d s)

theorem item_eq_entryBy (d s : List Char) :
    item (.text (.ofList s)) (.ofList (afterLast '.' s)) (.ofList (made d s)) = entryBy d s := by
  simp only [item, entryBy, String.ofList_inj, eq_comm (a := afterLast '.' s)]
  rfl

theorem entryBy_underscore (s : List Char) : entryBy ['_'] s = entry s := by
  simp only [entryBy, entry, made, camel_eq_self_iff]
  rfl

theorem projection_delimited (names : List String) {delimiter : String} (hd : delimiter ≠ "") :
    projection (.list (names.map .text)) (.text delimiter) =
      .ok (Text.join "," ((kept names).map (entryBy delimiter.toList))) := by
  have ho : ((kept names).map fun s => Value.text (.ofList s)).mapM ownName =
      .ok ((kept names).map fun s => .ofList (afterLast '.' s)) := by
    rw [List.mapM_map]
    exact mapM_eq_ok ownName_text (kept names)
  have hm : ((kept names).map fun s => String.ofList (afterLast '.' s)).mapM (fun own =>
      camelCase (.text (.ofList (trim own.toList))) (.text delimiter)) =
      .ok ((kept names).map fun s => .ofList (made delimiter.toList s)) := by
    rw [List.mapM_map]
    refine mapM_eq_ok (fun s => ?_) (kept names)
    rw [Function.comp_apply, camelCase_text _ hd, String.toList_ofList, String.toList_ofList,
      camel_trim, made]
  rw [projection, ofNames, strippedNames_texts]
  simp only [bind, Except.bind, ho, hm, items_map, item_eq_entryBy]
  rfl

theorem projection_texts (names : List String) :
    projection (.list (names.map .text)) defaultDelimiter =
      .ok (Text.join "," ((kept names).map entry)) := by
  rw [defaultDelimiter, projection_delimited names (by decide), toList_underscore,
    funext entryBy_underscore]

/-- A name is selected bare exactly if its last part has neither the delimiter nor a blank. Without
the delimiter anywhere only a blank within the last part makes an alias, and with the delimiter
in the last part there always is one. -/
theorem projection_bare_iff (names : List String) :
    projection (.list (names.map .text)) defaultDelimiter =
      .ok (Text.join "," ((kept names).map entry)) ∧
    ∀ s ∈ kept names,
      ('_' ∉ s → (entry s = .ofList s ↔ ∀ c ∈ afterLast '.' s, isBlank c = false)) ∧
      ('_' ∈ afterLast '.' s → entry s = aliased s) := by
  refine ⟨projection_texts names, fun s _ => ⟨fun hu => ?_, fun hu => ?_⟩⟩
  · have ho : ∀ c ∈ afterLast '.' s, c ≠ '_' := fun c hc he =>
      hu (he ▸ Text.mem_of_mem_afterLast hc)
    simp only [entry_eq_self_iff, List.all_eq_true, plain_iff]
    exact ⟨fun h c hc => (h c hc).2, fun h c hc => ⟨ho c hc, h c hc⟩⟩
  · have hp : ¬ (afterLast '.' s).all plain = true := fun h =>
      absurd (List.all_eq_true.mp h '_' hu) (by decide)
    rw [entry, if_neg hp]

/-- Names without the delimiter get an alias when their last part has a blank in it. -/
theorem blank_within_aliased :
    let names := ["id", "u. id", "price AS cost"]
    (∀ s ∈ names, '_' ∉ s.toList) ∧
    (kept names).map String.ofList = names ∧
    projection (.list (names.map .text)) defaultDelimiter =
      .ok "id,u. id AS id,price AS cost AS priceAScost" ∧
    projection (.list (names.map .text)) defaultDelimiter ≠ .ok (Text.join "," names) := by
  intro names
  rw [projection_texts]
  exact ⟨by decide +kernel, by decide +kernel, congrArg Except.ok (by decide +kernel),
    fun h => absurd (Except.ok.inj h) (by decide +kernel)⟩

theorem exists_name_of_mem_kept {names : List String} {s : List Char} (h : s ∈ kept names) :
    ∃ name ∈ names, trim name.toList = s ∧ ∃ c ∈ name.toList, isBlank c = false := by
  obtain ⟨t, ht, rfl⟩ := List.mem_map.mp h
  obtain ⟨hm, ha⟩ := List.mem_filter.mp ht
  obtain ⟨name, hn, rfl⟩ := List.mem_map.mp hm
  obtain ⟨c, hc, hb⟩ := List.any_eq_true.mp ha
  exact ⟨name, hn, rfl, c, hc, by simpa using hb⟩

theorem mem_of_mem_kept {names : List String} {s : List Char} (h : s ∈ kept names) {c : Char}
    (hc : c ∈ s) : ∃ name ∈ names, c ∈ name.toList := by
  obtain ⟨name, hn, rfl, -⟩ := exists_name_of_mem_kept h
  exact ⟨name, hn, Text.mem_of_mem_trim hc⟩

theorem trim_of_mem_kept {names : List String} {s : List Char} (h : s ∈ kept names) :
    trim s = s := by
  obtain ⟨name, -, rfl, -⟩ := exists_name_of_mem_kept h
  exact Text.trim_trim name.toList

theorem kept_eq_nil_iff {names : List String} :
    kept names = [] ↔ ∀ name ∈ names, ∀ c ∈ name.toList, isBlank c = true := by
  simp [kept, List.filter_eq_nil_iff]

theorem kept_ne_nil {names : List String}
    (h : ∃ s ∈ names, ∃ c ∈ s.toList, isBlank c = false) : kept names ≠ [] := by
  obtain ⟨s, hs, c, hc, hb⟩ := h
  exact fun hk => Bool.noConfusion (hb.symm.trans (kept_eq_nil_iff.mp hk s hs c hc))

theorem comma_not_mem_entry {s : List Char} (h : ',' ∉ s) : ',' ∉ (entry s).toList := by
  have ha : ',' ∉ camel ['_'] (afterLast '.' s) := fun hc =>
    h (Text.mem_of_mem_afterLast (comma_mem_of_mem_camel (List.cons_ne_nil _ _) hc))
  rw [entry]
  split
  · simpa using h
  · simp [aliased, h, ha]

/-- A text without a star is the list of what stands between its commas. -/
theorem projection_text {s : String} (h : '*' ∉ s.toList) (delimiter : Value) :
    projection (.text s) delimiter =
      projection (.list (((Text.split [','] s.toList).map String.ofList).map .text)) delimiter := by
  rw [projection, if_neg h, List.map_map]
  rfl

theorem projection_join {names : List String} (hn : names ≠ [])
    (hc : ∀ s ∈ names, ',' ∉ s.toList) (hs : ∀ s ∈ names, '*' ∉ s.toList) (delimiter : Value) :
    projection (.text (Text.join "," names)) delimiter =
      projection (.list (names.map .text)) delimiter := by
  have hj : '*' ∉ (Text.join "," names).toList := by
    intro h
    rcases Text.of_mem_join h with h | ⟨s, hm, h⟩
    · exact absurd h (by decide)
    · exact hs s hm h
  have hp : (Text.split [','] (Text.join "," names).toList).map String.ofList = names := by
    have hs : Text.split [','] (Text.join "," names).toList = names.map String.toList :=
      Text.split_join hn hc
    rw [hs, List.map_map]
    exact List.map_id'' (fun _ => String.ofList_toList) names
  rw [projection_text hj, hp]

/-- Between the commas of the projection stand the names that are not blank, in order, each with
or without the alias of its last part. A text of the same names with commas between them has the
same projection. -/
theorem split_projection {names : List String} (hc : ∀ s ∈ names, ',' ∉ s.toList)
    (hn : ∃ s ∈ names, ∃ c ∈ s.toList, isBlank c = false) :
    ∃ text, projection (.list (names.map .text)) defaultDelimiter = .ok text ∧
    List.Forall₂ (fun s part => part = s ∨
        part = s ++ " AS ".toList ++ camel ['_'] (afterLast '.' s))
      (kept names) (Text.split [','] text.toList) ∧
    ((∀ s ∈ names, '*' ∉ s.toList) →
      projection (.text (Text.join "," names)) defaultDelimiter = .ok text) := by
  have hk : ∀ s ∈ kept names, ',' ∉ s := fun s hs hm => by
    obtain ⟨name, hn, hm⟩ := mem_of_mem_kept hs hm
    exact hc name hn hm
  have hp : Text.split [','] (Text.join "," ((kept names).map entry)).toList =
      ((kept names).map entry).map String.toList :=
    Text.split_join (by simpa using kept_ne_nil hn)
      (List.forall_mem_map.mpr fun s hs => comma_not_mem_entry (hk s hs))
  refine ⟨_, projection_texts names, ?_, fun hs => ?_⟩
  · rw [hp, List.map_map, List.forall₂_map_right_iff, List.forall₂_same]
    intro s _
    rw [Function.comp_apply, entry]
    split
    · exact .inl String.toList_ofList
    · exact .inr (by simp [aliased])
  · have hnames : names ≠ [] := by
      obtain ⟨s, hs, -⟩ := hn
      exact List.ne_nil_of_mem hs
    rw [projection_join hnames hc hs, projection_texts]

theorem split_projection_with_blanks :
    let names := [" u.first_name ", "", "id", "u. id"]
    let text := "u.first_name AS firstName,id,u. id AS id"
    (∀ s ∈ names, ',' ∉ s.toList) ∧ (∃ s ∈ names, ∃ c ∈ s.toList, isBlank c = false) ∧
    (∀ s ∈ names, '*' ∉ s.toList) ∧
    kept names = ["u.first_name".toList, "id".toList, "u. id".toList] ∧
    projection (.list (names.map .text)) defaultDelimiter = .ok text ∧
    List.Forall₂ (fun s part => part = s ∨
        part = s ++ " AS ".toList ++ camel ['_'] (afterLast '.' s))
      (kept names) (Text.split [','] text.toList) ∧
    projection (.text (Text.join "," names)) defaultDelimiter = .ok text := by
  intro names text
  have hc : ∀ s ∈ names, ',' ∉ s.toList := by decide +kernel
  have hn : ∃ s ∈ names, ∃ c ∈ s.toList, isBlank c = false :=
    ⟨"id", by simp [names], 'i', by decide +kernel, rfl⟩
  have hs : ∀ s ∈ names, '*' ∉ s.toList := by decide +kernel
  have ht : projection (.list (names.map .text)) defaultDelimiter = .ok text := by
    rw [projection_texts]
    exact congrArg Except.ok (by decide +kernel)
  obtain ⟨made, hm, hp, hj⟩ := split_projection hc hn
  obtain rfl : text = made := Except.ok.inj (ht.symm.trans hm)
  exact ⟨hc, hn, hs, by decide +kernel, ht, hp, hj hs⟩

/-! Missing aliases. -/

/-- The last part of a stripped name has something else than blanks, if it has anything. -/
theorem afterLast_eq_nil_of_squeeze {s : List Char} (hs : trim s = s)
    (h : squeeze (afterLast '.' s) = []) : afterLast '.' s = [] := by
  by_contra hn
  have hne : trim s ≠ [] := fun he =>
    hn (List.suffix_nil.mp ((hs.symm.trans he) ▸ Text.afterLast_suffix '.' s))
  have hl : isBlank ((afterLast '.' s).getLast hn) = false := by
    have hg := Text.isBlank_getLast_trim hne
    rw [(Text.afterLast_suffix '.' s).getLast hn]
    simpa only [hs] using hg
  rw [Text.squeeze_eq_nil_iff.mp h _ (List.getLast_mem hn)] at hl
  cases hl

/-- Nothing follows `AS` if the alias is empty although the last part of the name is not. -/
theorem entryBy_eq_iff {d s : List Char} :
    entryBy d s = .ofList s ++ " AS " ↔ made d s = [] ∧ afterLast '.' s ≠ [] := by
  rw [entryBy]
  split
  · next h =>
    refine iff_of_false (fun he => ?_) (fun ⟨hm, hn⟩ => hn (h ▸ hm))
    have hl := congrArg String.length he
    simp [String.length_append] at hl
  · next h =>
    constructor
    · intro he
      have hm : made d s = [] := by
        have hl := congrArg String.toList he
        simpa [String.toList_append] using hl
      exact ⟨hm, fun hn => h (hm.trans hn.symm)⟩
    · rintro ⟨hm, -⟩
      rw [hm, String.ofList_nil, String.append_empty]

/-- A list of names has a projection for every delimiter, with each name alone or with an alias that
has no blank in it. The alias is missing exactly if the last part of the name is made of
delimiters, blanks apart. -/
theorem alias_missing_iff (names : List String) {delimiter : String} (hd : delimiter ≠ "") :
    let d := delimiter.toList
    projection (.list (names.map .text)) (.text delimiter) =
      .ok (Text.join "," ((kept names).map (entryBy d))) ∧
    ∀ s ∈ kept names,
      (entryBy d s = .ofList s ∨ entryBy d s = .ofList s ++ " AS " ++ .ofList (made d s)) ∧
      (∀ c ∈ made d s, isBlank c = false) ∧
      (entryBy d s = .ofList s ++ " AS " ↔
        ∃ n, squeeze (afterLast '.' s) = (List.replicate (n + 1) d).flatten) := by
  intro d
  have hd' : d ≠ [] := fun h => hd (String.toList_eq_nil_iff.mp h)
  refine ⟨projection_delimited names hd, fun s hs => ⟨?_, fun c => isBlank_of_mem_camel hd', ?_⟩⟩
  · rw [entryBy]
    split
    · exact .inl rfl
    · exact .inr rfl
  · rw [entryBy_eq_iff, made, camel_eq_nil_iff hd']
    constructor
    · rintro ⟨⟨n, hn⟩, hne⟩
      cases n with
      | zero => exact absurd (afterLast_eq_nil_of_squeeze (trim_of_mem_kept hs) hn) hne
      | succ n => exact ⟨n, hn⟩
    · rintro ⟨n, hn⟩
      refine ⟨⟨n + 1, hn⟩, fun he => ?_⟩
      rw [he, List.replicate_succ, List.flatten_cons] at hn
      exact hd' (List.append_eq_nil_iff.mp hn.symm).1

/-- A last part of one delimiter, with a blank within it or alone, and one with nothing in it. -/
theorem alias_missing_of_delimiters :
    let names := ["u.first--name", " t.- -", "--", "a.", " "]
    "--" ≠ "" ∧
    kept names = ["u.first--name".toList, "t.- -".toList, "--".toList, "a.".toList] ∧
    projection (.list (names.map .text)) (.text "--") =
      .ok "u.first--name AS firstName,t.- - AS ,-- AS ,a." ∧
    entryBy "--".toList "t.- -".toList = "t.- -" ++ " AS " := by
  intro names
  have hd : "--" ≠ "" := by decide
  have hk : kept names =
      ["u.first--name".toList, "t.- -".toList, "--".toList, "a.".toList] := by decide +kernel
  obtain ⟨hp, he⟩ := alias_missing_iff names hd
  refine ⟨hd, hk, ?_, ?_⟩
  · rw [hp]
    exact congrArg Except.ok (by decide +kernel)
  · exact (he "t.- -".toList (by rw [hk]; simp)).2.2.mpr ⟨0, by decide +kernel⟩

/-- The alias of a lone underscore is empty, and yet it is announced. -/
theorem underscore_aliased_to_nothing :
    let names := ["user_id", "u._"]
    projection (.list (names.map .text)) defaultDelimiter = .ok "user_id AS userId,u._ AS " ∧
    entryBy ['_'] "u._".toList = "u._" ++ " AS " ++ .ofList (made ['_'] "u._".toList) ∧
    made ['_'] "u._".toList = [] := by
  intro names
  rw [projection_texts]
  exact ⟨congrArg Except.ok (by decide +kernel), by decide +kernel, by decide +kernel⟩

end FluentSql.Alias
