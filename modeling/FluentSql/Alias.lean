import FluentSql.Text.Split
import FluentSql.Value.Access

/-! Camel case aliases of column names. A name is cut at a delimiter, its first word is put in lower
case and the others in title case; a qualified name takes its alias from what follows the last
dot. -/
namespace FluentSql.Alias

def defaultDelimiter : Value := .text "_"

/-- The camel case form of a name, without blanks. A name in which the non-empty delimiter does not
occur only loses its blanks. -/
def camel (delimiter name : List Char) : List Char :=
  let name := Text.squeeze name
  if Text.occurs delimiter name then
    match Text.split delimiter name with
    | [] => []
    | first :: others => Text.lower first ++ others.flatMap Text.title
  else name

/-- A delimiter is a text, and it can only be cut at if it is not empty. -/
def delimiterText : Value → Except Fault (List Char)
  | .text s => if s.isEmpty then .error .emptyDelimiter else .ok s.toList
  | v => .error (.notDelimiter v.kind)

def camelCase (name delimiter : Value) : Except Fault String :=
  match name with
  | .text s => (delimiterText delimiter).map fun d => .ofList (camel d s.toList)
  | .blob _ => .error .rawBytesSearched
  | v => .error (.notSearchable v.kind)

/-- The camel case forms of several names, each without the blanks at its ends. -/
def camelCases (names delimiter : Value) : Except Fault (List String) := do
  (← names.elements).mapM fun name => do camelCase (← name.strip) delimiter

/-- The first element in upper case and the rest in lower case, for whatever can be cut so. -/
def titleCase (v : Value) : Except Fault Value := do
  if !v.isGiven then return v
  if (← v.length) == 1 then v.upper
  else
    match v with
    | .text s => return .text (.ofList (Text.title s.toList))
    | v =>
      match v.at? 0 with
      | none => .error (.absentKey (.int 0))
      | some first =>
        let _ ← first.upper
        match v with
        | .map _ => .error (.notKey .slice)
        | v => .error (.unanswered v.kind .lower)

/-- The names to select, each without the blanks at its ends; blank ones are left out. -/
def strippedNames : List Value → Except Fault (List Value)
  | [] => .ok []
  | v :: rest => do
    let name ← v.strip
    let names ← strippedNames rest
    return if name.isGiven then name :: names else names

/-- The part of a qualified name from which the alias is made. -/
def ownName : Value → Except Fault String
  | .text s => .ok (.ofList (Text.afterLast '.' s.toList))
  | .blob _ => .error .textDelimitsBytes
  | v => .error (.unanswered v.kind .strip)

/-- The item of a projection: the name, with its alias if that is not the name's own last part. -/
def item (name : Value) (own made : String) : String :=
  if own = made then name.shown else name.shown ++ " AS " ++ made

def items : List Value → List String → List String → List String
  | name :: names, own :: owns, made :: others => item name own made :: items names owns others
  | _, _, _ => []

/-- The projection of a list of names. -/
def ofNames (names : List Value) (delimiter : Value) : Except Fault String := do
  let names ← strippedNames names
  let owns ← names.mapM ownName
  let aliases ← owns.mapM fun own =>
    camelCase (.text (.ofList (Text.trim own.toList))) delimiter
  return Text.join "," (items names owns aliases)

/-- The projection of a list of names or of a text with commas between them. A text that selects
everything somewhere is kept as it is. -/
def projection (names delimiter : Value) : Except Fault String :=
  match names with
  | .text s =>
    if '*' ∈ s.toList then .ok s
    else ofNames ((Text.split [','] s.toList).map fun part => .text (.ofList part)) delimiter
  | .list names | .tuple names => ofNames names delimiter
  | _ => .error .notAliasSource

end FluentSql.Alias
