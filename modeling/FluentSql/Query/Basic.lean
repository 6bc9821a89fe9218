import FluentSql.Clause.Modification
import FluentSql.Clause.Rows
import FluentSql.Columns
import FluentSql.Comparison
import FluentSql.Inclusion
import FluentSql.Join
import FluentSql.Keyed
import FluentSql.Options.Change
import FluentSql.Pattern
import FluentSql.Range

/-! A query under construction. It has independent parts, each of which gathers what one group of
calls asks for. -/
namespace FluentSql

structure Joins extends Family Value where
  kind : JoinKind := .inner

/-- The comparisons, with the connective for those still to come. -/
structure Comparisons extends Family Predicate where
  connective : Connective := .and

/-- The pattern tests, with the way in which all of them are linked. -/
structure Patterns extends Family Value where
  anyOf : Bool := false

structure Query where
  options : Options := {}
  /-- The written projection, empty before the first one is chosen. -/
  projection : String := ""
  table : Value := .null
  joins : Joins := {}
  comparisons : Comparisons := {}
  inclusions : Family (List Value) := {}
  patterns : Patterns := {}
  ranges : Family (Value × Value) := {}
  grouping : String := ""
  ordering : String := ""
  limit : String := ""
  offset : String := ""

end FluentSql
