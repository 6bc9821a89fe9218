import FluentSql.Log.Layout
import FluentSql.Settings
import FluentSql.Value.Access

/-! Sending statements to a database engine, with what the engine gets to see and what is logged. -/
namespace FluentSql.Engine

def loggerName : String := "utils.database_utils"

/-- How the engine answers a statement. -/
inductive Reply where
  | result (count rows : Value)
  | refusal (reason : String)
  | breakdown (reason : String)

/-- Why a context is left early. -/
inductive Failure where
  | refused (reason : String)
  | fault (f : Fault)

inductive Event where
  | enter (task : Task)
  | statement (text : Value) (parameters : Option (List Value))
  | leave (failure : Option Failure)

structure Run where
  events : List Event
  result : Except Fault Value
  log : List Log.Record

/-- Parameters are passed on in order if any are given. -/
def parametersOf (v : Value) : Except Fault (Option (List Value)) :=
  if v.isGiven then v.elements.map some else .ok none

/-- The rows, each one as a tuple. -/
def tuples (rows : Value) : Except Fault (List Value) := do
  (← rows.elements).mapM fun row => row.elements.map Value.tuple

def answer (task : Task) (count rows : Value) : Except Fault Value :=
  match task with
  | .execute => .ok count
  | .fetch => (tuples rows).map Value.list

def refusalRecord (task : Task) (text : Value) (reason : String) : Log.Record :=
  { logger := loggerName
    levelName := Log.Level.error.name
    message := "❌ " ++ task.title ++ " failed: " ++ text.shown ++ " (" ++ reason ++ ")" }

/-- What happens inside the context: the statement if it is sent, and how the context is left. -/
def inside (task : Task) (text parameters : Value) (reply : Reply) :
    List Event × Except Failure Value :=
  match parametersOf parameters with
  | .error f => ([], .error (.fault f))
  | .ok parameters =>
    ([.statement text parameters],
      match reply with
      | .refusal reason => .error (.refused reason)
      | .breakdown reason => .error (.fault (.broken reason))
      | .result count rows => (answer task count rows).mapError .fault)

/-- Enters a context, sends the statement and leaves the context. A refusal by the database is
logged and reported as a failed execution; any other fault goes on to the caller. -/
def run (task : Task) (text parameters : Value) (reply : Reply) : Run :=
  let (events, outcome) := inside task text parameters reply
  match outcome with
  | .ok v => { events := .enter task :: events ++ [.leave none], result := .ok v, log := [] }
  | .error failure =>
    let events := .enter task :: events ++ [.leave (some failure)]
    match failure with
    | .fault f => { events, result := .error f, log := [] }
    | .refused reason =>
      { events, result := .error (.rejected task reason), log := [refusalRecord task text reason] }

/-- The address of the database: the one given, or else the one of the settings. -/
def address (settings : Settings) (url : Value) : Value :=
  if url.isGiven then url else .text settings.databaseUrl

def creationRecord (url : Value) : Log.Record :=
  { logger := loggerName
    levelName := Log.Level.debug.name
    message := "Creating engine for " ++ url.shown }

/-- What a new engine is made with, and what is logged about it. -/
def create (settings : Settings) (url echo : Value) : (Value × Value) × List Log.Record :=
  let url := address settings url
  ((url, echo), [creationRecord url])

end FluentSql.Engine
