import FluentSql.Template
import FluentSql.Value.Access

/-! Comparisons of a column with a value, and the `WHERE` segment they make. Comparisons linked by
`AND` stand side by side. Each run of neighbours linked by `OR` makes one group: a run of two or
more is put in parentheses and attached with `AND`, a run of one is attached with `OR`. -/
namespace FluentSql

structure Predicate where
  column : Value
  operator : Value
  value : Value
  connective : Connective

def Predicate.term (p : Predicate) : Template :=
  [.text (p.column.shown ++ " " ++ p.operator.shown ++ " "), .slot .double p.value]

namespace Comparison

def group (run : List Template) : Template :=
  .text "(" :: Template.join " OR " run ++ [.text ")"]

/-- What is written so far, followed by one more part. -/
def attach (joiner : String) (part : Template) : Option Template → Template
  | none => part
  | some written => written ++ .text joiner :: part

/-- Closes a run of terms linked by `OR`. -/
def flush (written : Option Template) : List Template → Option Template
  | [] => written
  | [t] => some (attach " OR " t written)
  | run => some (attach " AND " (group run) written)

/-- Goes through the predicates with what is written so far and the open run of terms linked by
`OR`. -/
def walk (written : Option Template) (run : List Template) : List Predicate → Option Template
  | [] => flush written run
  | p :: rest =>
    match p.connective with
    | .or => walk written (run ++ [p.term]) rest
    | .and => walk (some (attach " AND " p.term (flush written run))) [] rest

def segment (predicates : List Predicate) : Template :=
  match walk none [] predicates with
  | none => []
  | some written => .text "WHERE " :: written

/-- A comparison in the loose form in which it is given: one that is none answers to no column. -/
inductive Source where
  | predicate (p : Predicate)
  | value (v : Value)

def Source.check : Source → Except Fault Predicate
  | .predicate p => .ok p
  | .value v => .error (.unanswered v.kind .column)

/-- A collection of comparisons in the loose form in which it is given. -/
inductive Collection where
  | entries (entries : List (Value × Source))
  | predicate
  | value (v : Value)

/-- The segment of a collection of comparisons, empty if there are none. -/
def segmentOf : Collection → Except Fault Template
  | .entries entries => do return segment (← entries.mapM fun e => e.2.check)
  | .predicate => .error (.unsized .predicate)
  | .value v => do
    if ← v.isVoid then return []
    let entries ← v.entriesFor .values
    return segment (← entries.mapM fun e => (Source.value e.2).check)

end Comparison

end FluentSql
