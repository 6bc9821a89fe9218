import FluentSql.Alias

/-! What a query selects: everything, a list of names, or a text of its own. -/
namespace FluentSql

inductive Columns.Kind where
  | all | list | raw
  deriving DecidableEq, Repr

structure Columns where
  kind : Columns.Kind := .all
  names : List Value := []
  text : Value := .text ""

/-- A projection in the loose form in which callers give it. -/
inductive Columns.Source where
  | columns (c : Columns)
  | value (v : Value)

namespace Columns

def Kind.word : Kind → String
  | .all => "ALL"
  | .list => "LIST"
  | .raw => "RAW"

def all : Columns := {}

def isAll (c : Columns) : Bool := c.kind == .all

def ofNames (names : List Value) : Columns :=
  if names.isEmpty then all else { kind := .list, names }

/-- A projection of the elements of a value; without any it selects everything. -/
def ofValue (names : Value) : Except Fault Columns := names.elements.map ofNames

def star : String := "*"

/-- A projection given as text, which selects everything if it is missing or a lone star. -/
def ofText (text : Value) : Except Fault Columns :=
  if !text.isGiven then .ok all
  else
    text.strip.map fun stripped =>
      match stripped with
      | .text s => if s = star then all else { kind := .raw, text }
      | _ => { kind := .raw, text }

def ofSource : Source → Except Fault Columns
  | .columns c => .ok c
  | .value v =>
    match v with
    | .null => .ok all
    | .text _ => ofText v
    | .list names | .tuple names => .ok (ofNames names)
    | v => .error (.notColumns v.kind)

/-- The projection's text after `SELECT`. -/
def body (c : Columns) : Except Fault String :=
  if c.isAll then .ok star
  else if c.names.isEmpty then .ok c.text.shown
  else (Value.texts c.names).map (Text.join ", ")

def clause (c : Columns) : Except Fault String := c.body.map ("SELECT " ++ ·)

/-- The clause of a projection given in its final form or not at all. -/
def clauseOf : Source → Except Fault String
  | .columns c => c.clause
  | .value .null => all.clause
  | .value v => .error (.unanswered v.kind .isAll)

/-- The same projection with camel case aliases. -/
def aliased (c : Columns) : Except Fault Columns :=
  if c.isAll then .ok c
  else do
    let source := if c.names.isEmpty then c.text else .list c.names
    ofText (.text (← Alias.projection source Alias.defaultDelimiter))

end Columns

end FluentSql
