/-! Cutting text at a delimiter, and joining parts back together. -/
namespace FluentSql.Text

/-- Puts a character in front of the first part. -/
def consFirst (c : Char) : List (List Char) → List (List Char)
  | [] => [[c]]
  | part :: parts => (c :: part) :: parts

/-- Cuts after skipping `skip` characters, which belong to the delimiter just met. -/
def splitSkipping (delimiter : List Char) : Nat → List Char → List (List Char)
  | _, [] => [[]]
  | skip + 1, _ :: rest => splitSkipping delimiter skip rest
  | 0, c :: rest =>
    if delimiter.isPrefixOf (c :: rest) then
      [] :: splitSkipping delimiter (delimiter.length - 1) rest
    else
      consFirst c (splitSkipping delimiter 0 rest)

/-- The parts between the occurrences of a non-empty delimiter, found from the left and without
overlap. There is always at least one part. -/
def split (delimiter s : List Char) : List (List Char) := splitSkipping delimiter 0 s

/-- A non-empty delimiter occurs in the text. -/
def occurs (delimiter : List Char) : List Char → Bool
  | [] => delimiter.isEmpty
  | c :: rest => delimiter.isPrefixOf (c :: rest) || occurs delimiter rest

/-- What follows the last occurrence of `d`, if there is one. -/
def afterLast? (d : Char) : List Char → Option (List Char)
  | [] => none
  | c :: rest =>
    match afterLast? d rest with
    | some back => some back
    | none => if c = d then some rest else none

/-- What follows the last occurrence of `d`, or the whole text if there is none. -/
def afterLast (d : Char) (s : List Char) : List Char := (afterLast? d s).getD s

/-- What precedes the last occurrence of `d`, if there is one. -/
def beforeLast? (d : Char) : List Char → Option (List Char)
  | [] => none
  | c :: rest =>
    match beforeLast? d rest with
    | some front => some (c :: front)
    | none => if c = d then some [] else none

/-- The texts in order with a separator between neighbours. -/
def join (separator : String) : List String → String
  | [] => ""
  | [s] => s
  | s :: t :: rest => s ++ separator ++ join separator (t :: rest)

theorem join_append_head (separator s t : String) (rest : List String) :
    join separator ((s ++ t) :: rest) = s ++ join separator (t :: rest) := by
  cases rest <;> simp [join, String.append_assoc]

theorem consFirst_ne_nil (c : Char) (parts : List (List Char)) : consFirst c parts ≠ [] := by
  cases parts <;> simp [consFirst]

theorem splitSkipping_ne_nil (delimiter : List Char) (skip : Nat) (s : List Char) :
    splitSkipping delimiter skip s ≠ [] := by
  fun_induction splitSkipping delimiter skip s with
  | case1 => simp
  | case2 _ _ _ ih => exact ih
  | case3 => simp
  | case4 => exact consFirst_ne_nil _ _

theorem split_ne_nil (delimiter s : List Char) : split delimiter s ≠ [] :=
  splitSkipping_ne_nil delimiter 0 s

theorem afterLast?_eq_none_iff {d : Char} {s : List Char} : afterLast? d s = none ↔ d ∉ s := by
  induction s with
  | nil => simp [afterLast?]
  | cons c rest ih =>
    cases h : afterLast? d rest with
    | none => simp [afterLast?, h, ih.mp h, eq_comm]
    | some back => simp [afterLast?, h, show d ∈ rest by simpa [h] using ih]

/-- The text is cut exactly at the last occurrence. -/
theorem eq_append_of_afterLast? {d : Char} {s back : List Char} (h : afterLast? d s = some back) :
    ∃ front, s = front ++ d :: back ∧ d ∉ back := by
  induction s with
  | nil => simp [afterLast?] at h
  | cons c rest ih =>
    cases hr : afterLast? d rest with
    | some b =>
      obtain ⟨front, hs, hb⟩ := ih (by simpa [afterLast?, hr] using h)
      exact ⟨c :: front, by simp [hs], hb⟩
    | none =>
      simp only [afterLast?, hr, Option.ite_none_right_eq_some, Option.some.injEq] at h
      obtain ⟨rfl, rfl⟩ := h
      exact ⟨[], rfl, afterLast?_eq_none_iff.mp hr⟩

end FluentSql.Text
