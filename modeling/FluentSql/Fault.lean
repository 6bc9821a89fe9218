import FluentSql.Keyword
import FluentSql.Options.Basic
import FluentSql.Value.Written

/-! The causes for which a call is refused, and the wording of each. -/
namespace FluentSql

/-- What a loosely typed argument was asked to do. -/
inductive Request where
  | items | keys | values | strip | upper | lower | column | isAll
  deriving DecidableEq, Repr

def Request.word : Request → String
  | .items => "items"
  | .keys => "keys"
  | .values => "values"
  | .strip => "strip"
  | .upper => "upper"
  | .lower => "lower"
  | .column => "column"
  | .isAll => "is_all"

/-- The four filter families, by the calls that fill them. -/
inductive Filter where
  | comparison | inclusion | pattern | range
  deriving DecidableEq, Repr

def Filter.word : Filter → String
  | .comparison => "where"
  | .inclusion => "whereIn"
  | .pattern => "whereLike"
  | .range => "whereBetween"

/-- The ways of sending a statement to a database. -/
inductive Engine.Task where
  | execute | fetch
  deriving DecidableEq, Repr

def Engine.Task.noun : Engine.Task → String
  | .execute => "statement"
  | .fetch => "query"

def Engine.Task.title : Engine.Task → String
  | .execute => "Statement"
  | .fetch => "Query"

/-- Why a path cannot be used as a folder or as a file. -/
inductive Log.Refusal where
  | missing | taken | notFolder | isFolder | nameTooLong
  deriving DecidableEq, Repr

def Log.Refusal.number : Log.Refusal → Nat
  | .missing => 2
  | .taken => 17
  | .notFolder => 20
  | .isFolder => 21
  | .nameTooLong => 36

def Log.Refusal.reason : Log.Refusal → String
  | .missing => "No such file or directory"
  | .taken => "File exists"
  | .notFolder => "Not a directory"
  | .isFolder => "Is a directory"
  | .nameTooLong => "File name too long"

inductive Fault where
  | missingTable
  | incompleteJoin
  | unknownJoinKind (kind : Value)
  | missingColumn (filter : Filter)
  | notCandidates (column : Value)
  | noCandidates (column : Value)
  | notBounds (column : Value)
  | unpairedBounds (column : Value)
  | missingGroupKey
  | missingOrderKey
  | unknownDirection (direction : Value)
  | missingLimit
  | missingOffset
  | nothingToAssign
  | nothingToInsert
  | notColumns (kind : Kind)
  | unknownOptions (names : List String)
  /-- Something was given by name twice. -/
  | repeatedArgument (name : String)
  /-- Something was given by name that has a place of its own. -/
  | placedArgument (name : String)
  | nameNotText
  | notAliasSource
  /-- The database refused the statement for this reason. -/
  | rejected (task : Engine.Task) (reason : String)
  /-- The database failed in a way of its own. -/
  | broken (reason : String)
  | unknownLevel (name : String)
  | levelNotText
  | loggerNotText
  | folderNotText (kind : Kind)
  | fileNotText (kind : Kind)
  | nulInPath
  /-- The disk refused the path for this reason. -/
  | disk (refusal : Log.Refusal) (path : String)
  | pathTooDeep
  | unanswered (kind : Kind) (request : Request)
  | notIterable (kind : Kind)
  | unsized (kind : Kind)
  | notJoinable
  | notTextItem (index : Nat) (kind : Kind)
  | notKey (kind : Kind)
  | notSearchable (kind : Kind)
  | rawBytesSearched
  | notDelimiter (kind : Kind)
  | textDelimitsBytes
  | emptyDelimiter
  | unordered (left right : Kind)
  | notPair (index : Nat)
  | pairSize (index size : Nat)
  | absentKey (key : Value)

namespace Fault

/-- The family of a cause: an argument refused by a rule of the grammar, a failed execution, a
value that cannot be used as it was, or a path refused by the disk. -/
inductive Category where
  | argument | aliasSyntax | execution | breakdown | request | misuse | content | lookup
  | depth
  | disk (refusal : Log.Refusal)
  deriving DecidableEq, Repr

def category : Fault → Category
  | .missingTable | .incompleteJoin | .unknownJoinKind _ | .missingColumn _ | .notCandidates _
  | .noCandidates _ | .notBounds _ | .unpairedBounds _ | .missingGroupKey | .missingOrderKey
  | .unknownDirection _ | .missingLimit | .missingOffset | .nothingToAssign | .nothingToInsert
  | .notColumns _ | .unknownOptions _ => .argument
  | .notAliasSource => .aliasSyntax
  | .rejected _ _ => .execution
  | .broken _ => .breakdown
  | .unknownLevel _ | .unanswered _ _ => .request
  | .notIterable _ | .unsized _ | .notJoinable | .notTextItem _ _ | .notKey _ | .notSearchable _
  | .levelNotText | .loggerNotText | .folderNotText _ | .fileNotText _ | .rawBytesSearched
  | .notDelimiter _ | .textDelimitsBytes | .unordered _ _ | .notPair _ | .repeatedArgument _
  | .placedArgument _ | .nameNotText => .misuse
  | .emptyDelimiter | .pairSize _ _ | .nulInPath => .content
  | .absentKey _ => .lookup
  | .disk refusal _ => .disk refusal
  | .pathTooDeep => .depth

/-- An argument was refused by a rule of the grammar. -/
def isArgument (f : Fault) : Bool :=
  match f.category with
  | .argument | .aliasSyntax => true
  | _ => false

def message : Fault → String
  | .missingTable => "Table name is required"
  | .incompleteJoin => "Join requires a table name and an ON condition"
  | .unknownJoinKind kind =>
    "Unsupported join type '" ++ kind.shown ++ "' (expected one of " ++
      Text.join ", " (JoinKind.all.map JoinKind.word) ++ ")"
  | .missingColumn filter => "Column name is required for " ++ filter.word
  | .notCandidates column =>
    "whereIn for '" ++ column.shown ++ "' requires a non-empty list of values"
  | .noCandidates column =>
    "IN clause for '" ++ column.shown ++ "' requires at least one value"
  | .notBounds column =>
    "whereBetween for '" ++ column.shown ++ "' requires exactly two bounds"
  | .unpairedBounds column =>
    "BETWEEN clause for '" ++ column.shown ++ "' requires exactly two bounds"
  | .missingGroupKey => "Key is required for groupBy"
  | .missingOrderKey => "Key is required for orderBy"
  | .unknownDirection direction =>
    "Order direction must be ASC or DESC, got '" ++ direction.shown ++ "'"
  | .missingLimit => "Number is required for limit"
  | .missingOffset => "Number is required for offset"
  | .nothingToAssign => "At least one column is required for assignment"
  | .nothingToInsert => "At least one column is required for insert"
  | .notColumns kind => "Columns must be a string or a list of names, got " ++ kind.name
  | .unknownOptions names =>
    "Unknown builder option(s): " ++ Text.join ", " names ++ " (expected " ++
      Text.join ", " (Options.Name.all.map Options.Name.word) ++ ")"
  | .repeatedArgument name =>
    "sql.statement_builder.SqlQueryBuilder.set_options() got multiple values for keyword argument '"
      ++ name ++ "'"
  | .placedArgument name =>
    "SqlQueryBuilder.set_options() got multiple values for argument '" ++ name ++ "'"
  | .nameNotText => "keywords must be strings"
  | .notAliasSource =>
    "syntax error in select statement, fields should be in comma(,) separated style or in array"
  | .rejected task reason => "Failed to execute " ++ task.noun ++ ": " ++ reason
  | .broken reason => reason
  | .unknownLevel name => "module 'logging' has no attribute '" ++ name ++ "'"
  | .levelNotText => "attribute name must be string, not 'bytes'"
  | .loggerNotText => "A logger name must be a string"
  | .folderNotText .blob =>
    "argument should be a str object or an os.PathLike object returning str, not <class 'bytes'>"
  | .folderNotText kind => "expected str, bytes or os.PathLike object, not " ++ kind.name
  | .fileNotText kind =>
    "unsupported operand type(s) for /: 'PosixPath' and '" ++ kind.name ++ "'"
  | .nulInPath => "embedded null byte"
  | .disk refusal path =>
    "[Errno " ++ toString refusal.number ++ "] " ++ refusal.reason ++ ": " ++ Text.quoteText path
  | .pathTooDeep => "maximum recursion depth exceeded while calling a Python object"
  | .unanswered kind request =>
    "'" ++ kind.name ++ "' object has no attribute '" ++ request.word ++ "'"
  | .notIterable kind => "'" ++ kind.name ++ "' object is not iterable"
  | .unsized kind => "object of type '" ++ kind.name ++ "' has no len()"
  | .notJoinable => "can only join an iterable"
  | .notTextItem index kind =>
    "sequence item " ++ toString index ++ ": expected str instance, " ++ kind.name ++ " found"
  | .notKey kind => "unhashable type: '" ++ kind.name ++ "'"
  | .notSearchable kind => "expected string or bytes-like object, got '" ++ kind.name ++ "'"
  | .rawBytesSearched => "cannot use a string pattern on a bytes-like object"
  | .notDelimiter kind => "'in <string>' requires string as left operand, not " ++ kind.name
  | .textDelimitsBytes => "a bytes-like object is required, not 'str'"
  | .emptyDelimiter => "empty separator"
  | .unordered left right =>
    "'<' not supported between instances of '" ++ left.name ++ "' and '" ++ right.name ++ "'"
  | .notPair index =>
    "cannot convert dictionary update sequence element #" ++ toString index ++ " to a sequence"
  | .pairSize index size =>
    "dictionary update sequence element #" ++ toString index ++ " has length " ++
      toString size ++ "; 2 is required"
  | .absentKey key => key.quoted

end Fault

end FluentSql
