import FluentSql.Decimal.Shortest
import FluentSql.Text.Blank
import FluentSql.Text.Digit

/-! The written form of a double, and the reading of decimal text. -/
namespace FluentSql.Decimal

/-- The least decimal exponent that is written positionally. -/
def positionalFrom : Int := -4

/-- The least decimal exponent above those written positionally. -/
def positionalTo : Int := 16

def zeros (n : Nat) : List Char := List.replicate n '0'

/-- Digits with the point after the leading `1 + exponent` places; a whole number shows one place
after the point. -/
def positional (digits : List Char) (exponent : Int) : List Char :=
  if exponent < 0 then
    '0' :: '.' :: zeros (-exponent - 1).toNat ++ digits
  else
    let whole := exponent.toNat + 1
    if digits.length ≤ whole then
      digits ++ zeros (whole - digits.length) ++ ['.', '0']
    else
      digits.take whole ++ '.' :: digits.drop whole

/-- One digit, the others after a point if there are any, and a signed exponent of at least two
digits. -/
def scientific (digits : List Char) (exponent : Int) : List Char :=
  let mantissa :=
    match digits with
    | [] => []
    | [d] => [d]
    | d :: rest => d :: '.' :: rest
  let size := Nat.toDigits 10 exponent.natAbs
  mantissa ++ 'e' :: (if exponent < 0 then '-' else '+') :: zeros (2 - size.length) ++ size

def dropEndZeros (digits : List Char) : List Char :=
  (digits.reverse.dropWhile (· == '0')).reverse

/-- The text of the positive decimal `d * 10 ^ k`. -/
def decimalText (d : Nat) (k : Int) : List Char :=
  let digits := Nat.toDigits 10 d
  let exponent := k + digits.length - 1
  let digits := dropEndZeros digits
  if positionalFrom ≤ exponent ∧ exponent < positionalTo then positional digits exponent
  else scientific digits exponent

/-- The shortest text that reads back as the same double. -/
def Double.text : Double → String
  | .nan => "nan"
  | .infinite negative => if negative then "-inf" else "inf"
  | .finite negative m e =>
    let body :=
      if m = 0 then "0.0"
      else String.ofList (decimalText (shortest m e).1 (shortest m e).2)
    if negative then "-" ++ body else body

/-- The digits at the front, single underscores between them being skipped, and the rest. -/
def digitRun : List Char → List Nat × List Char
  | [] => ([], [])
  | c :: rest =>
    match Text.digitValue? c with
    | some d => ((d :: (digitRun rest).1), (digitRun rest).2)
    | none =>
      match c, rest with
      | '_', next :: _ => if (Text.digitValue? next).isSome then digitRun rest else ([], c :: rest)
      | _, _ => ([], c :: rest)

def ofDigits (digits : List Nat) : Nat := digits.foldl (fun n d => 10 * n + d) 0

def sign : List Char → Bool × List Char
  | '-' :: rest => (true, rest)
  | '+' :: rest => (false, rest)
  | s => (false, s)

/-- A run of digits that starts with a digit. -/
def leadingRun (s : List Char) : List Nat × List Char :=
  match s with
  | '_' :: _ => ([], s)
  | _ => digitRun s

/-- Reads a whole number between blanks. -/
def wholeOfText? (text : String) : Option Int :=
  let (negative, s) := sign (Text.trim text.toList)
  match leadingRun s with
  | (d :: digits, []) =>
    some (if negative then -(ofDigits (d :: digits) : Int) else ofDigits (d :: digits))
  | _ => none

/-- An optional exponent up to the end of the text. -/
def exponent? : List Char → Option Int
  | [] => some 0
  | c :: rest =>
    if c = 'e' ∨ c = 'E' then
      match leadingRun (sign rest).2 with
      | (d :: digits, []) =>
        let size := ofDigits (d :: digits)
        some (if (sign rest).1 then -(size : Int) else size)
      | _ => none
    else none

/-- The double nearest to `m * 10 ^ e`; far out of range it is an infinity or a zero. -/
def Double.ofDecimal (negative : Bool) (m : Nat) (e : Int) : Double :=
  if m = 0 then zero negative
  else
    let lead := e + digitCount m
    if 400 < lead then .infinite negative
    else if lead < -400 then zero negative
    else nearest negative (m * Nat.pow 10 e.toNat) (Nat.pow 10 (-e).toNat)

/-- Unsigned decimal text: digits, a point, digits, and an exponent; one side of the point may be
missing. -/
def Double.ofUnsigned? (negative : Bool) (s : List Char) : Option Double :=
  let (whole, rest) := leadingRun s
  let (places, rest) :=
    match rest with
    | '.' :: more => leadingRun more
    | _ => ([], rest)
  if whole.isEmpty && places.isEmpty then none
  else
    (exponent? rest).map fun e =>
      ofDecimal negative (ofDigits (whole ++ places)) (e - places.length)

/-- Reads decimal text, or one of the names of the infinity and of what is not a number, between
blanks. -/
def Double.ofText? (text : String) : Option Double :=
  let (negative, s) := sign (Text.trim text.toList)
  let name := String.ofList (s.map Char.toLower)
  if name = "nan" then some .nan
  else if name = "inf" ∨ name = "infinity" then some (.infinite negative)
  else ofUnsigned? negative s

end FluentSql.Decimal
