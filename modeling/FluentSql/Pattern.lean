import FluentSql.Template
import FluentSql.Value.Access

/-! Tests against patterns, all linked in the same way. -/
namespace FluentSql.Pattern

def test (column pattern : Value) : Template :=
  [.text (column.shown ++ " LIKE "), .slot .double pattern]

def joiner (anyOf : Bool) : String := if anyOf then " OR " else " AND "

def segment (anyOf continuation : Bool) (tests : List (Value × Value)) : Template :=
  .text (openingWord continuation ++ " ") ::
    Template.join (joiner anyOf) (tests.map fun t => test t.1 t.2)

/-- The segment of a map from columns to patterns, empty if there are none. -/
def segmentOf (anyOf continuation : Bool) (clause : Value) : Except Fault Template := do
  if ← clause.isVoid then return []
  return segment anyOf continuation (← clause.entriesFor .items)

end FluentSql.Pattern
