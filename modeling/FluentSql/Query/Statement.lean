import FluentSql.Query.Basic

/-! The statements that a query makes, as templates and as text. -/
namespace FluentSql

/-- The statements a query can be asked for. -/
inductive Statement where
  | select
  | insert (table data : Value) (orUpdate updates : Value)
  | update (table data : Value)
  | delete (table : Value)

def Statement.word : Statement → String
  | .select => "SELECT"
  | .insert _ _ _ _ => "INSERT"
  | .update _ _ => "UPDATE"
  | .delete _ => "DELETE"

namespace Query

/-- A segment stands in the filter while its family is active. -/
def segmentIf (active : Bool) (segment : Template) : List Template :=
  if active then [segment] else []

def inclusionSegment (q : Query) : Except Fault (List Template) :=
  if q.inclusions.active then
    (Inclusion.segment q.comparisons.active q.inclusions.entries).map fun t => [t]
  else .ok []

/-- The active filter segments in grammar order: comparisons, inclusions, patterns, ranges. Only
the first one opens the filter. -/
def conditions (q : Query) : Except Fault (List Template) := do
  let compared := q.comparisons.active
  let included := q.inclusions.active
  let matched := q.patterns.active
  let inclusions ← q.inclusionSegment
  return segmentIf compared (Comparison.segment (q.comparisons.entries.map Prod.snd)) ++
    inclusions ++
    segmentIf matched
      (Pattern.segment q.patterns.anyOf (compared || included) q.patterns.entries) ++
    segmentIf q.ranges.active
      (Range.segment (compared || included || matched) q.ranges.entries)

/-- The clauses after the filter that are set, in grammar order. -/
def tailClauses (q : Query) : List Template :=
  ([q.grouping, q.ordering, q.limit, q.offset].filter (!·.isEmpty)).map .ofText

def projectionClause (q : Query) : String :=
  if q.projection.isEmpty then "SELECT *" else q.projection

def joinClauses (q : Query) : List Template :=
  if q.joins.active then [.ofText (Join.segment q.joins.kind q.joins.entries)] else []

def selection (q : Query) : Except Fault Template := do
  let source ← Clause.source q.table
  let conditions ← q.conditions
  return Template.join " " ([.ofText q.projectionClause, .ofText source] ++ q.joinClauses ++
    conditions ++ q.tailClauses) ++ [.text ";"]

/-- The filter is no part of an insertion. -/
def insertion (table data orUpdate updates : Value) : Except Fault Template := do
  let head ← Clause.insertion table data
  if orUpdate.isGiven && updates.isGiven then
    return head ++ .text " " :: (← Clause.conflict updates)
  else return head

def filtered (q : Query) (head : Except Fault Template) : Except Fault Template := do
  let head ← head
  return Template.join " " (head :: (← q.conditions))

def template (q : Query) : Statement → Except Fault Template
  | .select => q.selection
  | .insert table data orUpdate updates => insertion table data orUpdate updates
  | .update table data => q.filtered (Clause.update table data)
  | .delete table => q.filtered (Clause.deletion table)

def finish (text : String) : String := .ofList (Text.trim text.toList)

/-- The text of a statement without blanks at its ends. -/
def render (q : Query) (s : Statement) : Except Fault String :=
  (q.template s).map fun t => finish (t.fill q.options.prepared)

end Query

end FluentSql
