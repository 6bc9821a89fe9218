import FluentSql.Proofs.Cutting
import FluentSql.Proofs.Grouping

/-! Conditions without their values, as they stand in a statement whose values are bound later.
Main result: where names are plain words, the written condition tells all its tokens but for their
values. -/
namespace FluentSql

/-- A plain word: neither empty nor with a blank or a parenthesis in it. -/
def Value.IsWord (v : Value) : Prop :=
  ∃ s : String, v = .text s ∧ s ≠ "" ∧ ∀ c ∈ s.toList, Text.isBlank c = false ∧ c ≠ '(' ∧ c ≠ ')'

theorem Value.isWord_text {s : String} : (Value.text s).IsWord ↔
    s ≠ "" ∧ ∀ c ∈ s.toList, Text.isBlank c = false ∧ c ≠ '(' ∧ c ≠ ')' := by
  simp [IsWord]

instance : DecidablePred Value.IsWord
  | .text s =>
    decidable_of_iff (s ≠ "" ∧ s.toList.all fun c => !Text.isBlank c && c != '(' && c != ')')
      (by simp [Value.isWord_text, and_assoc])
  | .null | .bool _ | .int _ | .real _ | .blob _ | .list _ | .tuple _ | .map _ =>
    isFalse fun ⟨_, h, _⟩ => nomatch h

namespace Value.IsWord

variable {v w : Value}

theorem space_notMem (h : v.IsWord) : ' ' ∉ v.shown.toList := by
  obtain ⟨s, rfl, -, hs⟩ := h
  exact fun hm => Bool.noConfusion (hs ' ' hm).1

/-- A word begins with a character that begins nothing else. -/
theorem exists_head (h : v.IsWord) :
    ∃ c rest, v.shown.toList = c :: rest ∧ c ≠ ' ' ∧ c ≠ '(' ∧ c ≠ ')' := by
  obtain ⟨s, rfl, hn, hs⟩ := h
  obtain ⟨c, rest, hc⟩ := List.exists_cons_of_ne_nil fun h => hn (String.toList_eq_nil_iff.mp h)
  obtain ⟨hb, ho⟩ := hs c (hc ▸ List.mem_cons_self)
  exact ⟨c, rest, hc, fun he => by simp [he, Text.isBlank] at hb, ho⟩

theorem eq_of_shown (hv : v.IsWord) (hw : w.IsWord) (h : v.shown.toList = w.shown.toList) :
    v = w := by
  obtain ⟨s, rfl, -⟩ := hv
  obtain ⟨t, rfl, -⟩ := hw
  exact congrArg Value.text (String.toList_inj.mp h)

end Value.IsWord

/-- A test without its values. -/
inductive Test.Outline where
  | comparison (column operator : Value)
  | inclusion (column : Value) (count : Nat)
  | pattern (column : Value)
  | range (column : Value)

def Test.outline : Test → Outline
  | .comparison p => .comparison p.column p.operator
  | .inclusion column candidates => .inclusion column candidates.length
  | .pattern column _ => .pattern column
  | .range column _ _ => .range column

namespace Test.Outline

def column : Outline → Value
  | .comparison column _ | .inclusion column _ | .pattern column | .range column => column

/-- The word that stands after the column. -/
def word : Outline → String
  | .comparison _ operator => operator.shown
  | .inclusion _ _ => "IN"
  | .pattern _ => "LIKE"
  | .range _ => "BETWEEN"

def marks : Nat → List Char
  | 0 => []
  | 1 => ['?']
  | count + 2 => '?' :: ',' :: marks (count + 1)

/-- The places of the values, with what stands around them. -/
def places : Outline → List Char
  | .comparison _ _ | .pattern _ => ['?']
  | .inclusion _ count => '(' :: marks count ++ [')']
  | .range _ => ['?', ' ', 'A', 'N', 'D', ' ', '?']

def text (o : Outline) : List Char :=
  o.column.shown.toList ++ ' ' :: (o.word.toList ++ ' ' :: o.places)

/-- The names are plain words, and no operator is a word for another kind of test. -/
def Worded : Outline → Prop
  | .comparison column operator =>
    column.IsWord ∧ operator.IsWord ∧ operator.shown ∉ ["IN", "LIKE", "BETWEEN"]
  | .inclusion column _ | .pattern column | .range column => column.IsWord

theorem Worded.column {o : Outline} (h : o.Worded) : o.column.IsWord := by
  cases o with
  | comparison column operator => exact h.1
  | _ => exact h

theorem Worded.space_notMem {o : Outline} (h : o.Worded) : ' ' ∉ o.word.toList := by
  cases o with
  | comparison column operator => exact h.2.1.space_notMem
  | _ => simp [word]

theorem count_marks (count : Nat) : (marks count).count '?' = count := by
  fun_induction marks count with
  | case1 => rfl
  | case2 => rfl
  | case3 count ih => simp [ih]

theorem closing_notMem_marks (count : Nat) : ')' ∉ marks count := by
  fun_induction marks count with
  | case1 => simp
  | case2 => simp
  | case3 count ih => simpa using ih

theorem fill_slots (candidates : List Value) :
    ((Inclusion.slots candidates).fill true).toList = marks candidates.length := by
  unfold Inclusion.slots
  induction candidates with
  | nil => rfl
  | cons v rest ih =>
    cases rest with
    | nil => simp [Template.join, Template.fill, Piece.fill, placeholder, marks]
    | cons w later =>
      simpa [Template.join, Template.fill, Piece.fill, placeholder, marks] using ih

/-- With placeholders a test is written as its outline is. -/
theorem fill_template (t : Test) : (t.template.fill true).toList = t.outline.text := by
  cases t with
  | comparison p =>
    simp [Test.template, Predicate.term, Template.fill, Piece.fill, placeholder, outline, text,
      Outline.column, word, places]
  | inclusion column candidates =>
    simp [Test.template, Inclusion.member, fill_slots, Template.fill, Piece.fill, outline, text,
      Outline.column, word, places]
  | pattern column like =>
    simp [Test.template, Pattern.test, Template.fill, Piece.fill, placeholder, outline, text,
      Outline.column, word, places]
  | range column low high =>
    simp [Test.template, Range.test, Template.fill, Piece.fill, placeholder, outline, text,
      Outline.column, word, places]

theorem places_append_inj {o o' : Outline} (h : o.Worded) (h' : o'.Worded)
    (hc : o.column = o'.column) (hw : o.word = o'.word) {rest rest' : List Char}
    (ht : o.places ++ rest = o'.places ++ rest') : o = o' ∧ rest = rest' := by
  cases o <;> cases o'
  case comparison.comparison column operator column' operator' =>
    have ho : operator = operator' := h.2.1.eq_of_shown h'.2.1 (congrArg String.toList hw)
    exact ⟨congrArg₂ comparison hc ho, (List.cons.inj ht).2⟩
  case inclusion.inclusion column count column' count' =>
    simp only [places, List.cons_append, List.append_assoc, List.nil_append] at ht
    obtain ⟨hm, hr⟩ := Text.append_cons_inj (closing_notMem_marks count) (closing_notMem_marks count')
      (List.cons.inj ht).2
    have hn := congrArg (List.count '?') hm
    rw [count_marks, count_marks] at hn
    exact ⟨congrArg₂ inclusion hc hn, hr⟩
  case pattern.pattern column column' => exact ⟨congrArg pattern hc, (List.cons.inj ht).2⟩
  case range.range column column' => exact ⟨congrArg range hc, List.append_cancel_left ht⟩
  -- the word tells tests of different kinds apart
  all_goals simp_all [Worded, word]

theorem text_append_inj {o o' : Outline} (h : o.Worded) (h' : o'.Worded) {rest rest' : List Char}
    (ht : o.text ++ rest = o'.text ++ rest') : o = o' ∧ rest = rest' := by
  simp only [text, List.append_assoc, List.cons_append] at ht
  obtain ⟨hc, ht⟩ := Text.append_cons_inj h.column.space_notMem h'.column.space_notMem ht
  obtain ⟨hw, ht⟩ := Text.append_cons_inj h.space_notMem h'.space_notMem ht
  exact places_append_inj h h' (h.column.eq_of_shown h'.column hc) (String.toList_inj.mp hw) ht

/-- A test begins like neither a connective nor a parenthesis. -/
theorem Worded.exists_head {o : Outline} (h : o.Worded) :
    ∃ c rest, o.text = c :: rest ∧ c ≠ ' ' ∧ c ≠ '(' ∧ c ≠ ')' := by
  obtain ⟨c, rest, hc, hn⟩ := h.column.exists_head
  exact ⟨c, _, by rw [text, hc, List.cons_append], hn⟩

end Test.Outline

theorem Connective.joiner_append_inj {c c' : Connective} {rest rest' : List Char}
    (h : c.joiner.toList ++ rest = c'.joiner.toList ++ rest') : c = c' ∧ rest = rest' := by
  cases c <;> cases c' <;> simp_all [joiner]

namespace Token

variable {α β : Type}

def map (f : α → β) : Token α → Token β
  | .test a => .test (f a)
  | .link connective => .link connective
  | .opening => .opening
  | .closing => .closing

/-- The text of a token whose values are bound later. -/
def text : Token Test.Outline → List Char
  | .test o => o.text
  | .link connective => connective.joiner.toList
  | .opening => ['(']
  | .closing => [')']

def Worded : Token Test.Outline → Prop
  | .test o => o.Worded
  | .link _ | .opening | .closing => True

/-- The characters with which a token can begin. -/
def Opens (c : Char) : Token Test.Outline → Prop
  | .test _ => c ≠ ' ' ∧ c ≠ '(' ∧ c ≠ ')'
  | .link _ => c = ' '
  | .opening => c = '('
  | .closing => c = ')'

theorem Worded.exists_opens {t : Token Test.Outline} (h : t.Worded) :
    ∃ c rest, t.text = c :: rest ∧ t.Opens c := by
  cases t with
  | test o => exact Test.Outline.Worded.exists_head h
  | link connective => cases connective <;> exact ⟨' ', _, rfl, rfl⟩
  | opening => exact ⟨'(', [], rfl, rfl⟩
  | closing => exact ⟨')', [], rfl, rfl⟩

/-- The first character tells the kind of a token, and the kind tells where the token ends. -/
theorem text_append_inj {t u : Token Test.Outline} (ht : t.Worded) (hu : u.Worded)
    {rest rest' : List Char} (h : t.text ++ rest = u.text ++ rest') : t = u ∧ rest = rest' := by
  obtain ⟨c, _, hc, ho⟩ := ht.exists_opens
  obtain ⟨c', _, hc', ho'⟩ := hu.exists_opens
  obtain rfl : c = c' := by
    rw [hc, hc'] at h
    exact (List.cons.inj h).1
  cases t <;> cases u
  case test.test o o' =>
    obtain ⟨rfl, hr⟩ := Test.Outline.text_append_inj ht hu h
    exact ⟨rfl, hr⟩
  case link.link connective connective' =>
    obtain ⟨rfl, hr⟩ := Connective.joiner_append_inj h
    exact ⟨rfl, hr⟩
  case opening.opening => exact ⟨rfl, (List.cons.inj h).2⟩
  case closing.closing => exact ⟨rfl, (List.cons.inj h).2⟩
  all_goals simp_all [Opens]

theorem flatMap_text_inj {ts us : List (Token Test.Outline)} (ht : ∀ t ∈ ts, t.Worded)
    (hu : ∀ u ∈ us, u.Worded) (h : ts.flatMap text = us.flatMap text) : ts = us := by
  induction ts generalizing us with
  | nil =>
    cases us with
    | nil => rfl
    | cons u us =>
      obtain ⟨c, rest, hc, -⟩ := (hu u List.mem_cons_self).exists_opens
      rw [List.flatMap_cons, hc] at h
      cases h
  | cons t ts ih =>
    cases us with
    | nil =>
      obtain ⟨c, rest, hc, -⟩ := (ht t List.mem_cons_self).exists_opens
      rw [List.flatMap_cons, hc] at h
      cases h
    | cons u us =>
      rw [List.forall_mem_cons] at ht hu
      obtain ⟨rfl, hr⟩ := text_append_inj ht.1 hu.1 h
      rw [ih ht.2 hu.2 hr]

theorem fill_template (t : Token Test) :
    (t.template.fill true).toList = (t.map Test.outline).text := by
  cases t with
  | test t => exact Test.Outline.fill_template t
  | link connective => simp [template, Template.fill, map, text]
  | opening => rfl
  | closing => rfl

end Token

/-- With placeholders a condition is written as its outline is. -/
theorem fill_spell (ts : List (Token Test)) :
    ((spell ts).fill true).toList = (ts.map (Token.map Test.outline)).flatMap Token.text := by
  induction ts with
  | nil => rfl
  | cons t rest ih =>
    have hs : spell (t :: rest) = t.template ++ spell rest := rfl
    rw [hs, Template.fill_append, String.toList_append, ih, Token.fill_template, List.map_cons,
      List.flatMap_cons]

end FluentSql
