import FluentSql.Template
import FluentSql.Value.Access

/-! Tests for lying between two bounds, which are written without quotes. -/
namespace FluentSql.Range

def test (column low high : Value) : Template :=
  [.text (column.shown ++ " BETWEEN "), .slot .bare low, .text " AND ", .slot .bare high]

def segment (continuation : Bool) (tests : List (Value × Value × Value)) : Template :=
  .text (openingWord continuation ++ " ") ::
    Template.join " AND " (tests.map fun t => test t.1 t.2.1 t.2.2)

/-- Anything with exactly two elements is a pair of bounds. -/
def bounds (column v : Value) : Except Fault (Value × Value) := do
  if (← v.length) != 2 then .error (.unpairedBounds column)
  else
    match v.elements? with
    | some [low, high] => return (low, high)
    | _ => .error (.unpairedBounds column)

/-- The segment of a map from columns to bounds, empty if there are none. -/
def segmentOf (continuation : Bool) (clause : Value) : Except Fault Template := do
  if ← clause.isVoid then return []
  let entries ← clause.entriesFor .items
  return segment continuation (← entries.mapM fun e => do return (e.1, ← bounds e.1 e.2))

end FluentSql.Range
