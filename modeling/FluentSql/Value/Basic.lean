import FluentSql.Decimal.Double

/-! The loosely typed values that callers hand to clauses: what counts as missing, what has a
length, and what can be run through. -/
namespace FluentSql

inductive Value where
  | null
  | bool (b : Bool)
  | int (n : Int)
  | real (x : Decimal.Double)
  | text (s : String)
  | list (items : List Value)
  | tuple (items : List Value)
  /-- Entries in insertion order. -/
  | map (entries : List (Value × Value))
  | blob (data : List UInt8)
  deriving Inhabited

/-- What an argument is, as far as error messages tell. -/
inductive Kind where
  | null | bool | int | real | text | list | tuple | map | blob
  /-- A range of positions. -/
  | slice
  /-- A comparison that is no value. -/
  | predicate
  deriving DecidableEq, Repr

def Kind.name : Kind → String
  | .null => "NoneType"
  | .bool => "bool"
  | .int => "int"
  | .real => "float"
  | .text => "str"
  | .list => "list"
  | .tuple => "tuple"
  | .map => "dict"
  | .blob => "bytes"
  | .slice => "slice"
  | .predicate => "Predicate"

namespace Value

def kind : Value → Kind
  | .null => .null
  | .bool _ => .bool
  | .int _ => .int
  | .real _ => .real
  | .text _ => .text
  | .list _ => .list
  | .tuple _ => .tuple
  | .map _ => .map
  | .blob _ => .blob

/-- Whether the value counts as given: nothing, zero and whatever is empty do not. -/
def isGiven : Value → Bool
  | .null => false
  | .bool b => b
  | .int n => n != 0
  | .real x => !x.isZero
  | .text s => !s.isEmpty
  | .list items => !items.isEmpty
  | .tuple items => !items.isEmpty
  | .map entries => !entries.isEmpty
  | .blob data => !data.isEmpty

def char (c : Char) : Value := .text (.singleton c)

def byte (b : UInt8) : Value := .int b.toNat

/-- What a walk through the value meets: characters, items, keys or byte numbers. -/
def elements? : Value → Option (List Value)
  | .text s => some (s.toList.map char)
  | .list items => some items
  | .tuple items => some items
  | .map entries => some (entries.map Prod.fst)
  | .blob data => some (data.map byte)
  | _ => none

def length? (v : Value) : Option Nat := v.elements?.map List.length

end Value

end FluentSql
