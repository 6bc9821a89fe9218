import FluentSql.Keyed
import FluentSql.Outcome
import FluentSql.Value.Access
import FluentSql.Value.Order

/-! Replacing some options by name, from a map or from a list of pairs. -/
namespace FluentSql.Options

def nameOf? : Value → Option Name
  | .text s => Name.ofWord? s
  | _ => none

/-- Puts in the truth of the values that stand under option names. -/
def setAll (o : Options) (entries : List (Value × Value)) : Options :=
  entries.foldl (fun o e =>
    match nameOf? e.1 with
    | some name => o.set name e.2.isGiven
    | none => o) o

/-- All names have to be those of options. -/
def requireNames (overrides : Value) : Except Fault Unit := do
  let keys ← overrides.elements
  keys.forM Value.requireKey
  let unknown ← Value.sort ((Value.distinct keys).filter fun k => (nameOf? k).isNone)
  if unknown.isEmpty then return ()
  else throw (.unknownOptions (← Value.texts unknown))

def merge (o : Options) (overrides : Value) : Except Fault Options := do
  requireNames overrides
  return o.setAll (← overrides.entriesFor .items)

/-- Adds the pairs of a list, counted from `index`, under their first elements. -/
def addPairs (table : Keyed Value) (index : Nat) : List Value → Except Fault (Keyed Value)
  | [] => .ok table
  | item :: rest =>
    match item.elements? with
    | none => .error (.notPair index)
    | some [k, v] => do
      k.requireKey
      addPairs (table.put k v) (index + 1) rest
    | some parts => .error (.pairSize index parts.length)

/-- The entries of a map or of a list of pairs; nothing given means no entries. -/
def entriesOf (v : Value) : Except Fault (Keyed Value) :=
  if !v.isGiven then .ok []
  else
    match v with
    | .map entries => .ok entries
    | v => do addPairs [] 0 (← v.elements)

/-- Options in the loose form in which callers give them. -/
inductive Source where
  | options (o : Options)
  | value (v : Value)

/-- The value in place of which something was given. Options given whole count as given. -/
def Source.toValue : Source → Value
  | .options _ => .bool true
  | .value v => v

/-- The name by which callers may hand over the source. -/
def sourceName : String := "options"

/-- The name of the query that is to change, which can never be handed over by name. -/
def ownName : String := "self"

def isNamed (name : String) : Value → Bool
  | .text s => s == name
  | _ => false

/-- The source and the overrides of a call: what is given by the source's name is the source, unless
that was given already, and what is given by other names overrides. -/
def sortArguments (source? : Option Source) (named : Keyed Source) :
    Except Fault (Source × List (Value × Value)) := do
  let bySourceName := named.filter fun e => isNamed sourceName e.1
  if source?.isSome && !bySourceName.isEmpty then throw (.repeatedArgument sourceName)
  if named.any fun e => e.1.kind != .text then throw .nameNotText
  if named.any fun e => isNamed ownName e.1 then throw (.placedArgument ownName)
  let source? := source?.or (bySourceName.head?.map Prod.snd)
  let overrides := (named.filter fun e => !isNamed sourceName e.1).map fun e => (e.1, e.2.toValue)
  return (source?.getD (.value .null), overrides)

/-- The options from which a change starts: those given whole, or the current ones. -/
def Source.base (current : Options) : Source → Options
  | .options o => o
  | .value _ => current

def Source.entries : Source → Except Fault (Keyed Value)
  | .options _ => .ok []
  | .value v => entriesOf v

/-- The base overwritten by the entries given and then by the overrides. -/
def Source.apply (base : Options) (source : Source) (overrides : List (Value × Value)) :
    Except Fault Options := do
  let given ← source.entries
  let all := overrides.foldl (fun table e => table.put e.1 e.2) given
  if all.isEmpty then return base else base.merge (.map all)

/-- Options given whole take effect before the others are looked at. -/
def change (current : Options) (source : Source) (overrides : List (Value × Value)) :
    Outcome Options :=
  .ofExcept (source.base current) (source.apply (source.base current) overrides)

end FluentSql.Options
