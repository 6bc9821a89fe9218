/-! Blank characters, and text with its blanks removed at the ends or everywhere. -/
namespace FluentSql.Text

/-- A character is blank when it separates words or lines: the space separators, the line and
paragraph separators, the tab and line controls, and the four information separators. -/
def isBlank (c : Char) : Bool :=
  let n := c.toNat
  (9 ≤ n && n ≤ 13) || (28 ≤ n && n ≤ 32) || n == 0x85 || n == 0xA0 || n == 0x1680 ||
    (0x2000 ≤ n && n ≤ 0x200A) || n == 0x2028 || n == 0x2029 || n == 0x202F || n == 0x205F ||
    n == 0x3000

def trimStart (s : List Char) : List Char := s.dropWhile isBlank

def trimEnd (s : List Char) : List Char := (trimStart s.reverse).reverse

/-- The text without the blanks at its two ends. -/
def trim (s : List Char) : List Char := trimEnd (trimStart s)

/-- The text without any blank. -/
def squeeze (s : List Char) : List Char := s.filter (fun c => !isBlank c)

theorem mem_squeeze {c : Char} {s : List Char} : c ∈ squeeze s ↔ c ∈ s ∧ isBlank c = false := by
  simp [squeeze]

/-- Only blanks at an end are removed. -/
theorem trim_eq_self {c d : Char} (hc : isBlank c = false) (hd : isBlank d = false)
    (s : List Char) : trim (c :: (s ++ [d])) = c :: (s ++ [d]) := by
  simp [trim, trimEnd, trimStart, hc, hd]

end FluentSql.Text
