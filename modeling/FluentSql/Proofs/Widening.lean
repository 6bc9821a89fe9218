import FluentSql.Proofs.Aliasing
import FluentSql.Proofs.Run

/-! When a selection of named columns selects everything. Main result: without aliases it does not
unless a name is a star, and with camel case aliases it also does if all names are blank, and only
then. -/
namespace FluentSql

open Text (isBlank squeeze trim)

/-- If nothing but a star remains of a text without its blanks, it has no other character. -/
theorem Text.eq_star_of_trim {s : List Char} (h : trim s = ['*']) {c : Char} (hc : c ∈ s)
    (hb : isBlank c = false) : c = '*' := by
  have hs : squeeze s = ['*'] := by rw [← squeeze_trim, h]; rfl
  exact List.mem_singleton.mp (hs ▸ mem_squeeze.mpr ⟨hc, hb⟩)

namespace Alias

/-- The projection of a list of names is empty exactly if all of them are blank. -/
theorem join_entries_eq_empty_iff {names : List String} :
    Text.join "," ((kept names).map entry) = "" ↔
      ∀ name ∈ names, ∀ c ∈ name.toList, isBlank c = true := by
  rw [← kept_eq_nil_iff]
  refine ⟨fun h => List.eq_nil_iff_forall_not_mem.mpr fun s hs => ?_, fun h => by rw [h]; rfl⟩
  have he : entry s = "" := Text.eq_empty_of_join h (List.mem_map_of_mem hs)
  have hn : s = [] := by
    rw [entry] at he
    split at he
    · exact String.ofList_eq_empty_iff.mp he
    · simp [aliased] at he
  obtain ⟨name, -, ht, c, hc, hb⟩ := exists_name_of_mem_kept hs
  rw [Text.trim_eq_nil_iff.mp (ht.trans hn) c hc] at hb
  cases hb

/-- A star for a projection comes from a name that is one. -/
theorem exists_star_of_join_entries {names : List String}
    (h : trim (Text.join "," ((kept names).map entry)).toList = ['*']) :
    ∃ name ∈ names, trim name.toList = ['*'] := by
  have hm : '*' ∈ (Text.join "," ((kept names).map entry)).toList :=
    Text.mem_of_mem_trim (by rw [h]; simp)
  have hc : ',' ∉ (Text.join "," ((kept names).map entry)).toList := fun hc =>
    absurd (Text.eq_star_of_trim h hc rfl) (by decide)
  obtain ⟨e, he, -⟩ := (Text.of_mem_join hm).resolve_left (by decide)
  have hs : (kept names).map entry = [e] := Text.eq_singleton_of_join (by decide) hc he
  obtain ⟨s, hk, rfl⟩ := List.mem_map.mp he
  rw [hs] at h
  have hb : entry s = .ofList s := by
    rw [entry]
    split
    · rfl
    · next hp =>
      have ha : 'A' ∈ (Text.join "," [entry s]).toList := by
        rw [Text.join, entry, if_neg hp]
        simp [aliased]
      exact absurd (Text.eq_star_of_trim h ha rfl) (by decide)
  rw [Text.join, hb, String.toList_ofList, trim_of_mem_kept hk] at h
  obtain ⟨name, hn, ht, -⟩ := exists_name_of_mem_kept hk
  exact ⟨name, hn, ht.trans h⟩

end Alias

namespace Columns

/-- The names that a list of texts, or a text with commas between them, selects. -/
def Lists (columns : Value) (names : List String) : Prop :=
  columns = .list (names.map .text) ∨
    ∃ s : String, columns = .text s ∧ names = (Text.split [','] s.toList).map .ofList

/-- Nothing is given, or one of the names is a star. -/
def Stars (columns : Value) (names : List String) : Prop :=
  columns.isGiven = false ∨ ∃ name ∈ names, trim name.toList = ['*']

/-- A text that selects everything: none at all or a lone star. -/
def Wide (text : String) : Prop := text = "" ∨ trim text.toList = ['*']

instance (text : String) : Decidable (Wide text) :=
  inferInstanceAs (Decidable (text = "" ∨ trim text.toList = ['*']))

theorem ofText_text (text : String) :
    ofText (.text text) =
      .ok (if Wide text then all else { kind := .raw, text := .text text }) := by
  have hs : String.ofList (trim text.toList) = "*" ↔ trim text.toList = ['*'] := by
    rw [← String.toList_inj, String.toList_ofList]
    rfl
  by_cases ht : text = ""
  · rw [if_pos (.inl ht), ht]
    rfl
  · have hg : (Value.text text).isGiven = true := by simpa [Value.isGiven] using ht
    simp only [ofText, hg, Value.strip, Except.map, star, hs, Wide, ht, false_or]
    rfl

/-- The clause of a projection that is given as text. -/
def clauseOfText (text : String) : String := if Wide text then "SELECT *" else "SELECT " ++ text

theorem clause_ofText (text : String) :
    (do (← ofText (.text text)).clause) = .ok (clauseOfText text) := by
  rw [ofText_text, clauseOfText]
  split <;> rfl

theorem clauseOfText_eq_iff {text : String} : clauseOfText text = "SELECT *" ↔ Wide text := by
  rw [clauseOfText]
  split
  · next h => exact iff_of_true rfl h
  · next h =>
    refine iff_of_false (fun he => h (.inr ?_)) h
    have hs : text = "*" := (String.append_right_inj "SELECT ").mp he
    rw [hs]
    rfl

/-- A text in which only a star is selected has no comma. -/
theorem split_of_trim {s : String} (h : trim s.toList = ['*']) :
    Text.split [','] s.toList = [s.toList] := by
  refine Text.split_of_not_occurs fun ho => ?_
  exact absurd (Text.eq_star_of_trim h (Text.occurs_iff.mp ho) (by decide)) (by decide)

section Lists

variable {columns : Value} {names : List String}

/-- Listed names have a projection with aliases. It is made of the names, unless it is a text with a
star somewhere, which is kept. -/
theorem Lists.projection (hn : Lists columns names) :
    ∃ text, Alias.projection columns Alias.defaultDelimiter = .ok text ∧
      (text = Text.join "," ((Alias.kept names).map Alias.entry) ∨
        '*' ∈ text.toList ∧ names = (Text.split [','] text.toList).map .ofList) := by
  rcases hn with rfl | ⟨s, rfl, rfl⟩
  · exact ⟨_, Alias.projection_texts names, .inl rfl⟩
  · by_cases hs : '*' ∈ s.toList
    · exact ⟨s, if_pos hs, .inr ⟨hs, rfl⟩⟩
    · exact ⟨_, (Alias.projection_text hs _).trans (Alias.projection_texts _), .inl rfl⟩

/-- The clause of named columns with aliases is that of their projection. -/
theorem clause_aliased {c : Columns} (hc : c.isAll = false) {text : String}
    (h : Alias.projection (if c.names.isEmpty then c.text else .list c.names)
      Alias.defaultDelimiter = .ok text) :
    (do (← c.aliased).clause) = .ok (clauseOfText text) := by
  have ha : c.aliased = (do ofText (.text (← Alias.projection
      (if c.names.isEmpty then c.text else .list c.names) Alias.defaultDelimiter))) :=
    if_neg (by simp [hc])
  rw [ha, h]
  exact clause_ofText text

/-- With aliases the clause is that of the projection, however the names are listed. -/
theorem Lists.aliased_clause (hn : Lists columns names) {text : String}
    (ht : Alias.projection columns Alias.defaultDelimiter = .ok text) :
    (do (← (← ofSource (.value columns)).aliased).clause) = .ok (clauseOfText text) := by
  rcases hn with rfl | ⟨s, rfl, -⟩
  · cases names with
    | nil =>
      obtain rfl : "" = text := Except.ok.inj ((Alias.projection_texts []).symm.trans ht)
      rfl
    | cons name rest => exact clause_aliased (c := ofNames ((name :: rest).map .text)) rfl ht
  · show (do (← (← ofText (.text s)).aliased).clause) = _
    rw [ofText_text]
    split
    · next hw =>
      -- a lone star is kept as it is, and so is no text at all
      have hs : text = s := by
        rcases hw with rfl | hw
        · exact (Except.ok.inj ((Alias.projection_text (by simp) _).symm.trans ht)).symm
        · have hm : '*' ∈ s.toList := Text.mem_of_mem_trim (by rw [hw]; simp)
          exact (Except.ok.inj ((if_pos hm).symm.trans ht)).symm
      rw [hs, clauseOfText, if_pos hw]
      rfl
    · exact clause_aliased (c := { kind := .raw, text := .text s }) rfl ht

theorem exists_star_of_trim {s : String} (h : trim s.toList = ['*']) :
    ∃ name ∈ (Text.split [','] s.toList).map String.ofList, trim name.toList = ['*'] := by
  refine ⟨s, ?_, h⟩
  rw [split_of_trim h]
  simp

/-- Without aliases only a star or nothing at all selects everything. -/
theorem Lists.plain_clause (hn : Lists columns names) :
    ∃ clause, (do (← ofSource (.value columns)).clause) = .ok clause ∧
      (clause = "SELECT *" → Stars columns names) := by
  rcases hn with rfl | ⟨s, rfl, rfl⟩
  · cases names with
    | nil => exact ⟨_, rfl, fun _ => .inl rfl⟩
    | cons name rest =>
      refine ⟨"SELECT " ++ Text.join ", " (name :: rest), ?_, fun hc => .inr ?_⟩
      · show ((Value.texts ((name :: rest).map .text)).map (Text.join ", ")).map
          ("SELECT " ++ ·) = _
        rw [Value.texts_map_text]
        rfl
      · have hj : Text.join ", " (name :: rest) = "*" := (String.append_right_inj "SELECT ").mp hc
        have hsep : ',' ∈ ", ".toList := by decide
        have hs : name :: rest = [name] :=
          Text.eq_singleton_of_join hsep (by rw [hj]; decide) List.mem_cons_self
        rw [hs, Text.join] at hj
        exact ⟨name, List.mem_cons_self, by rw [hj]; rfl⟩
  · refine ⟨clauseOfText s, clause_ofText s, fun hc => ?_⟩
    rcases clauseOfText_eq_iff.mp hc with rfl | hw
    · exact .inl rfl
    · exact .inr (exists_star_of_trim hw)

/-- With aliases it is selected just as well by blank names. -/
theorem Lists.aliased_wide_iff (hn : Lists columns names) :
    ∃ clause, (do (← (← ofSource (.value columns)).aliased).clause) = .ok clause ∧
      (clause = "SELECT *" ∧ ¬ Stars columns names ↔
        columns.isGiven = true ∧ ∀ name ∈ names, ∀ c ∈ name.toList, isBlank c = true) := by
  obtain ⟨text, hp, ht⟩ := hn.projection
  refine ⟨_, hn.aliased_clause hp, ?_⟩
  rw [clauseOfText_eq_iff, Stars, not_or, Bool.not_eq_false]
  constructor
  · rintro ⟨hw, hg, hs⟩
    refine ⟨hg, ?_⟩
    rcases ht with rfl | ⟨hm, rfl⟩
    · exact Alias.join_entries_eq_empty_iff.mp
        (hw.resolve_right (mt Alias.exists_star_of_join_entries hs))
    · rcases hw with rfl | hw
      · cases hm
      · exact absurd (exists_star_of_trim hw) hs
  · rintro ⟨hg, hb⟩
    refine ⟨?_, hg, ?_⟩
    · rcases ht with rfl | ⟨hm, rfl⟩
      · exact .inl (Alias.join_entries_eq_empty_iff.mpr hb)
      · obtain ⟨part, hp, hc⟩ := Text.exists_mem_split (List.cons_ne_nil ',' []) hm (by decide)
        have hf := hb (.ofList part) (List.mem_map_of_mem hp) '*' (by rwa [String.toList_ofList])
        cases hf
    · rintro ⟨name, hn, hs⟩
      have hm : '*' ∈ name.toList := Text.mem_of_mem_trim (by rw [hs]; exact List.mem_cons_self)
      cases hb name hn '*' hm

end Lists

end Columns

namespace Query

theorem apply_select {q : Query} {columns : Columns.Source} {flag : Value} {clause : String}
    (h : projectionOf q.options columns flag = .ok clause) :
    q.apply (.select columns flag) = .done { q with projection := clause } := by
  rw [apply, h]
  rfl

/-- A selection of listed names is accepted with or without aliases. Without them it selects
everything only if nothing is given or a name is a star. With them it also does so, and only then,
if something is given but all names are blank. -/
theorem widened_iff {columns : Value} {names : List String} (hn : Columns.Lists columns names)
    (q : Query) :
    let bare := q.apply (.select (.value columns) (.bool false))
    let aliased := q.apply (.select (.value columns) (.bool true))
    bare.fault = none ∧ aliased.fault = none ∧
    (bare.state.projection = "SELECT *" → Columns.Stars columns names) ∧
    (aliased.state.projection = "SELECT *" ∧ ¬ Columns.Stars columns names ↔
      columns.isGiven = true ∧ ∀ name ∈ names, ∀ c ∈ name.toList, isBlank c = true) := by
  intro bare aliased
  obtain ⟨plain, hp, hs⟩ := hn.plain_clause
  obtain ⟨camel, hc, hw⟩ := hn.aliased_wide_iff
  have hb : bare = .done { q with projection := plain } := apply_select hp
  have ha : aliased = .done { q with projection := camel } := apply_select hc
  rw [hb, ha]
  exact ⟨rfl, rfl, hs, hw⟩

/-- Blanks on both sides of a comma select everything with aliases, and two blank names without. -/
theorem widened_by_blank_text :
    let columns := Value.text " ,\t"
    let names := [" ", "\t"]
    Columns.Lists columns names ∧ columns.isGiven = true ∧
    (∀ name ∈ names, ∀ c ∈ name.toList, isBlank c = true) ∧ ¬ Columns.Stars columns names ∧
    (({} : Query).apply (.select (.value columns) (.bool true))).state.projection = "SELECT *" ∧
    (({} : Query).apply (.select (.value columns) (.bool false))).state.projection =
      "SELECT  ,\t" := by
  intro columns names
  have hn : Columns.Lists columns names := .inr ⟨" ,\t", rfl, by decide +kernel⟩
  have hg : columns.isGiven = true := by decide +kernel
  have hb : ∀ name ∈ names, ∀ c ∈ name.toList, isBlank c = true :=
    Alias.kept_eq_nil_iff.mp (by decide +kernel)
  obtain ⟨-, -, -, hw⟩ := widened_iff hn {}
  obtain ⟨ha, hs⟩ := hw.mpr ⟨hg, hb⟩
  exact ⟨hn, hg, hb, hs, ha, by decide +kernel⟩

/-- A blank name in a list is no star, and yet it selects everything. -/
theorem blank_name_selects_everything :
    let columns := Value.list [.text " "]
    Columns.Lists columns [" "] ∧ ¬ Columns.Stars columns [" "] ∧
    (({} : Query).apply (.select (.value columns) (.bool true))).fault = none ∧
    (({} : Query).apply (.select (.value columns) (.bool true))).state.projection =
      "SELECT *" ∧
    (({} : Query).apply (.select (.value columns) (.bool false))).state.projection =
      "SELECT  " := by
  intro columns
  have hs : ¬ Columns.Stars columns [" "] := by
    rintro (hg | ⟨name, hm, ht⟩)
    · cases hg
    · rw [List.mem_singleton.mp hm] at ht
      cases ht
  exact ⟨.inl rfl, hs, by decide +kernel, by decide +kernel, by decide +kernel⟩

end Query

end FluentSql
