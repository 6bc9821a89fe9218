import FluentSql.Template
import FluentSql.Value.Access

/-! Tests for being one of several candidate values. -/
namespace FluentSql.Inclusion

def slots (candidates : List Value) : Template :=
  Template.join "," (candidates.map fun v => [.slot .double v])

/-- A column needs at least one candidate. -/
def test (column : Value) (candidates : List Value) : Except Fault Template :=
  if candidates.isEmpty then .error (.noCandidates column)
  else .ok (.text (column.shown ++ " IN (") :: slots candidates ++ [.text ")"])

def segment (continuation : Bool) (tests : List (Value × List Value)) : Except Fault Template := do
  let tests ← tests.mapM fun t => test t.1 t.2
  return .text (openingWord continuation ++ " ") :: Template.join " AND " tests

/-- The candidates in the loose form in which they are given, a missing one being no candidates at
all. -/
def candidates (v : Value) : Except Fault (List Value) :=
  if v.isGiven then v.elements else .ok []

/-- The segment of a map from columns to candidates, empty if there are none. -/
def segmentOf (continuation : Bool) (clause : Value) : Except Fault Template := do
  if ← clause.isVoid then return []
  let entries ← clause.entriesFor .items
  let tests ← entries.mapM fun e => do test e.1 (← candidates e.2)
  return .text (openingWord continuation ++ " ") :: Template.join " AND " tests

end FluentSql.Inclusion
