import FluentSql.Decimal.Notation
import FluentSql.Text.Quoted
import FluentSql.Text.Split
import FluentSql.Value.Basic

/-! The text of a value: as a whole it shows plainly, inside another value it is quoted. -/
namespace FluentSql.Value

mutual

/-- The form in which a value stands inside a list, tuple or map. -/
def quoted : Value → String
  | .null => "None"
  | .bool b => if b then "True" else "False"
  | .int n => toString n
  | .real x => x.text
  | .text s => Text.quoteText s
  | .list items => "[" ++ Text.join ", " (quotedItems items) ++ "]"
  | .tuple items =>
    match quotedItems items with
    | [only] => "(" ++ only ++ ",)"
    | all => "(" ++ Text.join ", " all ++ ")"
  | .map entries => "\x7b" ++ Text.join ", " (quotedEntries entries) ++ "\x7d"
  | .blob data => Text.quoteBytes data

def quotedItems : List Value → List String
  | [] => []
  | v :: rest => v.quoted :: quotedItems rest

def quotedEntries : List (Value × Value) → List String
  | [] => []
  | (k, v) :: rest => (k.quoted ++ ": " ++ v.quoted) :: quotedEntries rest

end

/-- The form in which a value stands in a statement: text as it is, all else quoted. Whole numbers
are written in full; the limit that may be set on how many digits are written is taken to be off. -/
def shown : Value → String
  | .text s => s
  | v => v.quoted

@[simp] theorem shown_text (s : String) : shown (.text s) = s := rfl

end FluentSql.Value
