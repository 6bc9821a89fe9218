import FluentSql.Options.Basic
import FluentSql.Text.Case

/-! Settings read from environment variables. -/
namespace FluentSql

abbrev Environment := List (String × String)

/-- A later setting of a variable hides the earlier ones. -/
def Environment.get? (env : Environment) (name : String) : Option String :=
  env.reverse.lookup name

structure Settings where
  options : Options
  logLevel : String
  logFile : Option String
  logFolder : String
  databaseUrl : String
  deriving DecidableEq, Repr

namespace Settings

inductive Variable where
  | prepared | camelCase | logLevel | logFile | logFolder | databaseUrl
  deriving DecidableEq, Repr

def Variable.name : Variable → String
  | .prepared => "SQL_BUILDER_PREPARED_STATEMENT"
  | .camelCase => "SQL_BUILDER_CAMEL_CASE"
  | .logLevel => "SQL_BUILDER_LOG_LEVEL"
  | .logFile => "SQL_BUILDER_LOG_FILE"
  | .logFolder => "SQL_BUILDER_LOG_DIR"
  | .databaseUrl => "DATABASE_URL"

def truthy : List String := ["1", "true", "yes", "on"]

/-- A flag is on if its text, in lower case and without outer blanks, is one of a few words. A
missing or blank text leaves the default. -/
def flag (default : Bool) : Option String → Bool
  | none => default
  | some text =>
    let trimmed := Text.trim text.toList
    if trimmed.isEmpty then default else truthy.contains (String.ofList (Text.lower trimmed))

/-- A text that counts only if it is not empty. -/
def nonempty? (s : Option String) : Option String := s.filter (!·.isEmpty)

def ofEnvironment (env : Environment) : Settings :=
  let get (v : Variable) := env.get? v.name
  { options := { prepared := flag false (get .prepared), camelCase := flag false (get .camelCase) }
    logLevel := (get .logLevel).getD "INFO"
    logFile := nonempty? (get .logFile)
    logFolder := (get .logFolder).getD "logs"
    databaseUrl := (get .databaseUrl).getD "sqlite://" }

end Settings

end FluentSql
