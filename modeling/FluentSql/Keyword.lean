/-! The words of the statement grammar from which callers choose. -/
namespace FluentSql

/-- How a comparison is linked to the ones before it. -/
inductive Connective where
  | and | or
  deriving DecidableEq, Repr

def Connective.word : Connective → String
  | .and => "AND"
  | .or => "OR"

/-- The kind shared by all joins of a query. -/
inductive JoinKind where
  | inner | left | right | full
  deriving DecidableEq, Repr

def JoinKind.word : JoinKind → String
  | .inner => "INNER"
  | .left => "LEFT"
  | .right => "RIGHT"
  | .full => "FULL"

def JoinKind.all : List JoinKind := [.inner, .left, .right, .full]

def JoinKind.ofWord? (word : String) : Option JoinKind := all.find? (·.word == word)

inductive Direction where
  | ascending | descending
  deriving DecidableEq, Repr

def Direction.word : Direction → String
  | .ascending => "ASC"
  | .descending => "DESC"

def Direction.ofWord? (word : String) : Option Direction :=
  [Direction.ascending, .descending].find? (·.word == word)

/-- The word that opens a filter segment: the first one stands after `WHERE`, later ones continue
it. -/
def openingWord (continuation : Bool) : String := if continuation then "AND" else "WHERE"

end FluentSql
