import FluentSql.Template
import FluentSql.Value.Access

/-! Joined tables with their conditions, all joined in the same way. -/
namespace FluentSql

/-- A join kind in the loose form in which callers give it. -/
inductive JoinKind.Source where
  | kind (kind : JoinKind)
  | value (v : Value)

namespace JoinKind

/-- The kind named by the text of a value, whatever its case and outer blanks. -/
def ofValue (v : Value) : Except Fault JoinKind :=
  match ofWord? (.ofList (Text.upper (Text.trim v.shown.toList))) with
  | some kind => .ok kind
  | none => .error (.unknownJoinKind v)

/-- Without a name the join is an inner one. -/
def ofSource : Source → Except Fault JoinKind
  | .kind kind => .ok kind
  | .value .null => .ok .inner
  | .value v => ofValue v

/-- The kind to go on with, which stays as it is unless another one is given. -/
def orKeep (current : JoinKind) : Source → Except Fault JoinKind
  | .kind kind => .ok kind
  | .value .null => .ok current
  | .value v => ofValue v

end JoinKind

namespace Join

def clause (kind : JoinKind) (table condition : Value) : String :=
  kind.word ++ " JOIN " ++ table.shown ++ " ON " ++ condition.shown

def segment (kind : JoinKind) (joins : List (Value × Value)) : String :=
  Text.join " " (joins.map fun j => clause kind j.1 j.2)

/-- The clauses of a map from tables to conditions, empty if there are none. -/
def segmentOf (joins : Value) (kind : JoinKind.Source) : Except Fault String := do
  if ← joins.isVoid then return ""
  let kind ← JoinKind.ofSource kind
  return segment kind (← joins.entriesFor .items)

end Join

end FluentSql
