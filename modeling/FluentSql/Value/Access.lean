import FluentSql.Fault
import FluentSql.Text.Case
import FluentSql.Value.Key

/-! Using a loosely typed value as a list, a map, a text or a key, with the fault that tells why it
cannot be used so. -/
namespace FluentSql.Value

def elements (v : Value) : Except Fault (List Value) :=
  match v.elements? with
  | some items => .ok items
  | none => .error (.notIterable v.kind)

def length (v : Value) : Except Fault Nat :=
  match v.length? with
  | some n => .ok n
  | none => .error (.unsized v.kind)

/-- Nothing at all, or something of length zero. -/
def isVoid : Value → Except Fault Bool
  | .null => .ok true
  | v => v.length.map (· == 0)

/-- The entries of a map, which was asked for as `request`. -/
def entriesFor (request : Request) : Value → Except Fault (List (Value × Value))
  | .map entries => .ok entries
  | v => .error (.unanswered v.kind request)

/-- The texts of a list, counted from `index` in the report of one that is not a text. -/
def textsFrom (index : Nat) : List Value → Except Fault (List String)
  | [] => .ok []
  | .text s :: rest => (textsFrom (index + 1) rest).map (s :: ·)
  | v :: _ => .error (.notTextItem index v.kind)

def texts (items : List Value) : Except Fault (List String) := textsFrom 0 items

/-- Joins the elements of a value, all of which have to be texts. -/
def joinTexts (separator : String) (v : Value) : Except Fault String :=
  match v.elements? with
  | some items => (texts items).map (Text.join separator)
  | none => .error .notJoinable

/-- Keys hold neither lists nor maps. -/
def requireKey (v : Value) : Except Fault Unit :=
  match v.changeable? with
  | some kind => .error (.notKey kind)
  | none => .ok ()

/-- The value under a whole number, as a position of a sequence or a key of a map. -/
def at? (i : Nat) : Value → Option Value
  | .map entries => (entries.find? (fun e => e.1.sameKey (.int i))).map Prod.snd
  | v => v.elements?.bind (·[i]?)

def isAsciiBlank (b : UInt8) : Bool := (9 ≤ b && b ≤ 13) || b == 32

/-- A text or bytes without the blanks at its ends. -/
def strip : Value → Except Fault Value
  | .text s => .ok (.text (.ofList (Text.trim s.toList)))
  | .blob data =>
    .ok (.blob ((data.dropWhile isAsciiBlank).reverse.dropWhile isAsciiBlank).reverse)
  | v => .error (.unanswered v.kind .strip)

def upperByte (b : UInt8) : UInt8 := if 97 ≤ b && b ≤ 122 then b - 32 else b

def upper : Value → Except Fault Value
  | .text s => .ok (.text (.ofList (Text.upper s.toList)))
  | .blob data => .ok (.blob (data.map upperByte))
  | v => .error (.unanswered v.kind .upper)

@[simp] theorem requireKey_text (s : String) : requireKey (.text s) = .ok () := rfl

theorem texts_map_text (l : List String) : texts (l.map .text) = .ok l := by
  suffices h : ∀ n, textsFrom n (l.map .text) = .ok l from h 0
  induction l with
  | nil => intro n; rfl
  | cons s rest ih => intro n; simp [textsFrom, ih, Except.map]

end FluentSql.Value
