/-! Named levels of severity. -/
namespace FluentSql.Log

inductive Level where
  | unset | debug | info | warning | error | critical
  deriving DecidableEq, Repr

namespace Level

def all : List Level := [.unset, .debug, .info, .warning, .error, .critical]

def number : Level → Nat
  | .unset => 0
  | .debug => 10
  | .info => 20
  | .warning => 30
  | .error => 40
  | .critical => 50

def name : Level → String
  | .unset => "NOTSET"
  | .debug => "DEBUG"
  | .info => "INFO"
  | .warning => "WARNING"
  | .error => "ERROR"
  | .critical => "CRITICAL"

/-- The level of a name in capitals. Two levels have a second name. `BASIC_FORMAT` and `_STYLES`,
which name no level but settings of another kind, count as missing like any other name. -/
def ofName? (name : String) : Option Level :=
  if name = "WARN" then some .warning
  else if name = "FATAL" then some .critical
  else all.find? (·.name == name)

def ofNumber? (n : Nat) : Option Level := all.find? (·.number == n)

/-- The name of a number, made up if the number has none. -/
def nameOf (n : Nat) : String :=
  match ofNumber? n with
  | some level => level.name
  | none => "Level " ++ toString n

end Level

end FluentSql.Log
