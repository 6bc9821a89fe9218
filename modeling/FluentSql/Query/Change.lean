import FluentSql.Query.Basic

/-! The calls that change a query. A call works on one part of the query and leaves the others
alone; a refused call leaves the collections as they were. -/
namespace FluentSql

namespace Family

variable {β : Type}

/-- Puts an entry under a value, if that can be a key. -/
def add (f : Family β) (k : Value) (b : β) : Outcome (Family β) :=
  .ofExcept f (k.requireKey.map fun _ => f.put k b)

end Family

namespace Joins

def add (j : Joins) (table condition : Value) (kind : JoinKind.Source) : Outcome Joins :=
  if !table.isGiven || !condition.isGiven then .refused j .incompleteJoin
  else
    match j.kind.orKeep kind with
    | .error f => .refused j f
    | .ok kind => (j.toFamily.add table condition).map fun f => { j with toFamily := f, kind }

end Joins

namespace Comparisons

def put (c : Comparisons) (column value operator : Value) : Family Predicate :=
  c.toFamily.put column { column, operator, value, connective := c.connective }

def equals : Value := .text "="

/-- A comparison takes the connective in force; without an operator it tests for equality. -/
def add (c : Comparisons) (column value operator : Value) : Outcome Comparisons :=
  if !column.isGiven then .refused c (.missingColumn .comparison)
  else
    .ofExcept c (column.requireKey.map fun _ =>
      { c with toFamily := c.put column value (if operator.isGiven then operator else equals) })

def putEqual (c : Comparisons) (e : Value × Value) : Comparisons :=
  { c with toFamily := c.put e.1 e.2 equals }

/-- Tests for equality under a connective that stays in force. The columns are looked at before
anything changes, the values only after the connective has changed. -/
def addAll (c : Comparisons) (connective : Connective) (conditions : Value) :
    Outcome Comparisons :=
  match conditions.elements with
  | .error f => .refused c f
  | .ok columns =>
    if columns.any (!·.isGiven) then .refused c (.missingColumn .comparison)
    else
      let c := { c with connective }
      match conditions.entriesFor .items with
      | .error f => .refused c f
      | .ok entries => .done (entries.foldl putEqual c)

end Comparisons

namespace Patterns

/-- The way of linking changes for all pattern tests, unless none is asked for. -/
def linked (p : Patterns) (anyOf : Value) : Patterns :=
  match anyOf with
  | .null => p
  | v => { p with anyOf := v.isGiven }

def add (p : Patterns) (column pattern anyOf : Value) : Outcome Patterns :=
  if !column.isGiven then .refused p (.missingColumn .pattern)
  else
    (p.toFamily.add column pattern).map fun f => { p.linked anyOf with toFamily := f }

end Patterns

namespace Inclusion

/-- Text and bytes are no list of candidates, although they have elements. -/
def checked (column candidates : Value) : Except Fault (List Value) :=
  match candidates with
  | .text _ | .blob _ => .error (.notCandidates column)
  | v => if v.isGiven then v.elements else .error (.notCandidates column)

def add (f : Family (List Value)) (column candidates : Value) : Outcome (Family (List Value)) :=
  if !column.isGiven then .refused f (.missingColumn .inclusion)
  else
    match checked column candidates with
    | .error e => .refused f e
    | .ok items => f.add column items

end Inclusion

namespace Range

def bound (i : Nat) (v : Value) : Except Fault Value :=
  match v.at? i with
  | some b => .ok b
  | none => .error (.absentKey (.int i))

/-- Text and bytes are no bounds, although they have elements. A map has its bounds under the keys
0 and 1. -/
def checked (column bounds : Value) : Except Fault (Value × Value) :=
  match bounds with
  | .text _ | .blob _ => .error (.notBounds column)
  | v => do
    if (← v.length) != 2 then .error (.notBounds column)
    else return (← bound 0 v, ← bound 1 v)

def add (f : Family (Value × Value)) (column bounds : Value) : Outcome (Family (Value × Value)) :=
  if !column.isGiven then .refused f (.missingColumn .range)
  else
    match checked column bounds with
    | .error e => .refused f e
    | .ok pair => f.add column pair

end Range

inductive Change where
  | setOptions (source : Options.Source) (overrides : List (Value × Value))
  | select (columns : Columns.Source) (camelCase : Value)
  | source (table : Value)
  | join (table condition : Value) (kind : JoinKind.Source)
  | compare (column value operator : Value)
  | compareAll (connective : Connective) (conditions : Value)
  | like (column pattern anyOf : Value)
  | member (column candidates : Value)
  | between (column bounds : Value)
  | group (key : Value)
  | order (key direction : Value)
  | limit (number : Value)
  | offset (number : Value)

namespace Query

/-- The projection's clause, with camel case aliases if the call asks for them or, failing that, the
options do. -/
def projectionOf (o : Options) (columns : Columns.Source) (camelCase : Value) :
    Except Fault String := do
  let c ← Columns.ofSource columns
  let camelCase :=
    match camelCase with
    | .null => o.camelCase
    | v => v.isGiven
  if camelCase then (← c.aliased).clause else c.clause

/-- The table is kept as it was given, once it is known that it makes a clause. -/
def tableOf (table : Value) : Except Fault Value := (Clause.source table).map fun _ => table

def apply (q : Query) : Change → Outcome Query
  | .setOptions source overrides =>
    (Options.change q.options source overrides).map fun options => { q with options }
  | .select columns camelCase =>
    (Outcome.ofExcept q.projection (projectionOf q.options columns camelCase)).map
      fun projection => { q with projection }
  | .source table => (Outcome.ofExcept q.table (tableOf table)).map fun table => { q with table }
  | .join table condition kind =>
    (q.joins.add table condition kind).map fun joins => { q with joins }
  | .compare column value operator =>
    (q.comparisons.add column value operator).map fun comparisons => { q with comparisons }
  | .compareAll connective conditions =>
    (q.comparisons.addAll connective conditions).map fun comparisons => { q with comparisons }
  | .like column pattern anyOf =>
    (q.patterns.add column pattern anyOf).map fun patterns => { q with patterns }
  | .member column candidates =>
    (Inclusion.add q.inclusions column candidates).map fun inclusions => { q with inclusions }
  | .between column bounds =>
    (Range.add q.ranges column bounds).map fun ranges => { q with ranges }
  | .group key =>
    (Outcome.ofExcept q.grouping (Clause.grouping key)).map fun grouping => { q with grouping }
  | .order key direction =>
    (Outcome.ofExcept q.ordering (Clause.ordering key direction)).map
      fun ordering => { q with ordering }
  | .limit number =>
    (Outcome.ofExcept q.limit (Clause.limit number)).map fun limit => { q with limit }
  | .offset number =>
    (Outcome.ofExcept q.offset (Clause.offset number)).map fun offset => { q with offset }

/-- The query that a list of calls leaves behind. -/
def applyAll (q : Query) (changes : List Change) : Query :=
  changes.foldl (fun q c => (q.apply c).state) q

end Query

end FluentSql
