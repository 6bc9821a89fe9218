import FluentSql.Text.Unprintable

/-! The quoted form of text and of raw bytes, as they stand inside a written list, tuple or map. -/
namespace FluentSql.Text

def singleQuote : Char := '\x27'

def doubleQuote : Char := '\x22'

/-- The quote that needs the fewest escapes: the double one only for text that holds single quotes
and no double ones. -/
def quoteFor (s : List Char) : Char :=
  if singleQuote ∈ s ∧ doubleQuote ∉ s then doubleQuote else singleQuote

/-- `width` hexadecimal digits, small letters, zeros in front. -/
def hex (width n : Nat) : List Char :=
  let digits := Nat.toDigits 16 n
  List.replicate (width - digits.length) '0' ++ digits

def backslash : Char := '\\'

/-- The escapes that text and bytes share: the quote in use, the backslash, and three controls. -/
def shortEscape? (quote : Char) (n : Nat) : Option (List Char) :=
  if n = quote.toNat ∨ n = backslash.toNat then some [backslash, Char.ofNat n]
  else if n = 10 then some [backslash, 'n']
  else if n = 13 then some [backslash, 'r']
  else if n = 9 then some [backslash, 't']
  else none

def escapeChar (quote c : Char) : List Char :=
  let n := c.toNat
  match shortEscape? quote n with
  | some escape => escape
  | none =>
    if isPrintable n then [c]
    else if n < 0x100 then backslash :: 'x' :: hex 2 n
    else if n < 0x10000 then backslash :: 'u' :: hex 4 n
    else backslash :: 'U' :: hex 8 n

def escapeByte (quote : Char) (b : UInt8) : List Char :=
  let n := b.toNat
  match shortEscape? quote n with
  | some escape => escape
  | none =>
    if 32 ≤ n ∧ n < 127 then [Char.ofNat n] else backslash :: 'x' :: hex 2 n

def quoteText (s : String) : String :=
  let quote := quoteFor s.toList
  .ofList (quote :: s.toList.flatMap (escapeChar quote) ++ [quote])

/-- Bytes are marked by a letter in front and show their printable ASCII characters. -/
def quoteBytes (data : List UInt8) : String :=
  let quote := quoteFor (data.map (fun b => Char.ofNat b.toNat))
  .ofList ('b' :: quote :: data.flatMap (escapeByte quote) ++ [quote])

end FluentSql.Text
