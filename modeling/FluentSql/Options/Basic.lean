/-! The rendering options of a query. -/
namespace FluentSql

structure Options where
  /-- Values are written as placeholders. -/
  prepared : Bool := false
  /-- Selected columns get camel case aliases. -/
  camelCase : Bool := false
  deriving DecidableEq, Repr

inductive Options.Name where
  | camelCase | prepared
  deriving DecidableEq, Repr

namespace Options

def Name.word : Name → String
  | .camelCase => "convert_columns_to_camel_case"
  | .prepared => "prepared_statement"

/-- The option names in the order of their words. -/
def Name.all : List Name := [.camelCase, .prepared]

def Name.ofWord? (word : String) : Option Name := all.find? (·.word == word)

def get (o : Options) : Name → Bool
  | .camelCase => o.camelCase
  | .prepared => o.prepared

def set (o : Options) (name : Name) (value : Bool) : Options :=
  match name with
  | .camelCase => { o with camelCase := value }
  | .prepared => { o with prepared := value }

theorem get_set (o : Options) (name other : Name) (value : Bool) :
    (o.set name value).get other = if other = name then value else o.get other := by
  cases name <;> cases other <;> rfl

end Options

end FluentSql
