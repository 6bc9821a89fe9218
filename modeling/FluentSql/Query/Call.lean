import FluentSql.Log.Layout
import FluentSql.Query.Change
import FluentSql.Query.Statement

/-! The calls on a query with what they answer and log. A call changes the query or asks it for a
statement; asking leaves the query as it is. -/
namespace FluentSql

inductive Call where
  | change (change : Change)
  | make (statement : Statement)
  /-- A statement written by hand. -/
  | raw (statement : Value)

/-- A change answers with the query itself, everything else with a value. -/
inductive Call.Answer where
  | itself
  | value (v : Value)

structure Call.Response where
  answer : Except Fault Call.Answer
  log : List Log.Record

namespace Query

def loggerName : String := "sql.statement_builder"

def record (s : Statement) (text : String) : Log.Record :=
  { logger := loggerName
    levelName := Log.Level.debug.name
    message := "Built " ++ s.word ++ " statement: " ++ text }

/-- A refused statement logs nothing. -/
def make (q : Query) (s : Statement) : Call.Response :=
  match q.render s with
  | .ok text => { answer := .ok (.value (.text text)), log := [record s text] }
  | .error f => { answer := .error f, log := [] }

/-- A statement written by hand is only trimmed. -/
def trimmed (statement : Value) : Call.Response :=
  { answer := statement.strip.map .value, log := [] }

def response (o : Outcome Query) : Call.Response :=
  { answer :=
      match o.fault with
      | none => .ok .itself
      | some f => .error f
    log := [] }

def call (q : Query) : Call → Query × Call.Response
  | .change c => ((q.apply c).state, response (q.apply c))
  | .make s => (q, q.make s)
  | .raw statement => (q, trimmed statement)

/-- A new query with options, unless they are refused. -/
def new (source : Options.Source) : Except Fault Query :=
  let o := ({} : Query).apply (.setOptions source [])
  match o.fault with
  | none => .ok o.state
  | some f => .error f

end Query

end FluentSql
