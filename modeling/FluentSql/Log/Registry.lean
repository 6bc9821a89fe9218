import FluentSql.Text.Split

/-! Loggers in a hierarchy of dotted names. A logger without a level of its own takes the one of its
parent, and at the top stands the root. What a logger has decided about a level stays decided until
a level is set somewhere. -/
namespace FluentSql.Log

structure Logger where
  name : String
  level : Nat := 0
  /-- The name of the parent, or nothing for the root. -/
  parent? : Option String := none
  /-- The levels asked about since a level was last set, and whether they pass. -/
  decided : List (Int × Bool) := []
  deriving DecidableEq, Repr

structure Registry where
  rootLevel : Nat := 30
  loggers : List Logger := []
  deriving DecidableEq, Repr

def rootName : String := "root"

/-- The names above a dotted name, nearest first, in at most `fuel` steps. After a cut the
character before the dot is passed over, so that an empty part is never cut at. -/
def namesAboveWithin : Nat → List Char → List (List Char)
  | 0, _ => []
  | fuel + 1, s =>
    match Text.beforeLast? '.' s with
    | none | some [] => []
    | some front => front :: namesAboveWithin fuel front.dropLast

def namesAbove (name : String) : List String :=
  (namesAboveWithin name.toList.length name.toList).map String.ofList

namespace Registry

def find? (r : Registry) (name : String) : Option Logger :=
  r.loggers.find? (·.name == name)

/-- The nearest logger above a name. -/
def parentOf? (r : Registry) (name : String) : Option String :=
  (namesAbove name).find? fun above => (r.find? above).isSome

/-- A new logger comes between the loggers below it and their parents, except where the parent's
name starts with the new name. -/
def adopt (name : String) (below : Logger) : Logger :=
  if (namesAbove below.name).contains name &&
      !name.toList.isPrefixOf (below.parent?.getD rootName).toList then
    { below with parent? := some name }
  else below

/-- Makes a logger of that name unless there is one. -/
def ensure (r : Registry) (name : String) : Registry :=
  match r.find? name with
  | some _ => r
  | none =>
    { r with loggers := r.loggers.map (adopt name) ++ [{ name, parent? := r.parentOf? name }] }

/-- Makes all loggers decide anew. -/
def forget (r : Registry) : Registry :=
  { r with loggers := r.loggers.map fun l => { l with decided := [] } }

def setRootLevel (r : Registry) (level : Nat) : Registry := { r.forget with rootLevel := level }

def setLevel (r : Registry) (name : String) (level : Nat) : Registry :=
  { r.forget with
    loggers := r.forget.loggers.map fun l => if l.name = name then { l with level } else l }

/-- The level of the nearest logger that has one, going up at most `fuel` times. -/
def effectiveWithin (r : Registry) : Nat → Option String → Nat
  | _, none => r.rootLevel
  | 0, some _ => r.rootLevel
  | fuel + 1, some name =>
    match r.find? name with
    | none => r.rootLevel
    | some l => if l.level = 0 then r.effectiveWithin fuel l.parent? else l.level

/-- The level from which on a logger, or the root, lets records pass. -/
def effective (r : Registry) (name? : Option String) : Nat :=
  r.effectiveWithin (r.loggers.length + 1) name?

/-- The level that a logger, or the root, has itself. -/
def own (r : Registry) : Option String → Nat
  | none => r.rootLevel
  | some name => ((r.find? name).map Logger.level).getD 0

/-- A level passes if it is positive and at least the effective one. -/
def admits (r : Registry) (name? : Option String) (level : Int) : Bool :=
  decide (0 < level ∧ (r.effective name? : Int) ≤ level)

/-- What a logger has decided already. -/
def decision? (r : Registry) (name : String) (level : Int) : Option Bool :=
  (r.find? name).bind fun l => l.decided.lookup level

def note (r : Registry) (name : String) (level : Int) (passes : Bool) : Registry :=
  { r with
    loggers := r.loggers.map fun l =>
      if l.name = name then { l with decided := (level, passes) :: l.decided } else l }

/-- Asks whether records of a level pass. A logger answers as it did before, even if its place in
the hierarchy has changed since. -/
def ask (r : Registry) (name? : Option String) (level : Int) : Bool × Registry :=
  match name? with
  | none => (r.admits none level, r)
  | some name =>
    match r.decision? name level with
    | some passes => (passes, r)
    | none => (r.admits name level, r.note name level (r.admits name level))

end Registry

end FluentSql.Log
