import FluentSql.Log.Disk
import FluentSql.Log.Layout
import FluentSql.Log.Registry
import FluentSql.Settings
import FluentSql.Value.Access

/-! A logging session: the loggers, the handlers of the root, and what has been written to the
console and to files. -/
namespace FluentSql.Log

/-- Where the root's records go: to the console, or to a file. -/
structure Handler where
  file? : Option Path
  level : Nat
  layout : Layout
  deriving DecidableEq, Repr

structure Session where
  settings : Settings
  registry : Registry := {}
  handlers : List Handler := []
  /-- What the last step wrote to the console. -/
  console : String := ""
  disk : Disk := {}

/-- What a caller asks of a new setup. What is missing is taken from the settings. -/
structure Setup where
  level : Value := .null
  file : Value := .null
  folder : Value := .null
  console : Value := .bool true
  colors : Value := .bool true

inductive Step where
  | setup (setup : Setup)
  | initDefault
  | logger (name level : Value)
  | log (name : Value) (level : Int) (message : String)

/-- The number of a level given by its name in any case. -/
def levelNumber (v : Value) : Except Fault Nat := do
  match ← v.upper with
  | .text name =>
    match Level.ofName? name with
    | some level => return level.number
    | none => .error (.unknownLevel name)
  | _ => .error .levelNotText

/-- The logger meant by a name; nothing and the root's own name mean the root. -/
def loggerName (v : Value) : Except Fault (Option String) :=
  if !v.isGiven then .ok none
  else
    match v with
    | .text s => .ok (if s = rootName then none else some s)
    | _ => .error .loggerNotText

/-- The path given by a text. -/
def pathOf (notText : Kind → Fault) : Value → Except Fault Path
  | .text s => if '\x00' ∈ s.toList then .error .nulInPath else .ok (.ofText s)
  | v => .error (notText v.kind)

namespace Session

def consoleHandlers (setup : Setup) (level : Nat) : List Handler :=
  if setup.console.isGiven then
    [{ file? := none, level, layout := if setup.colors.isGiven then .vivid else .plain }]
  else []

/-- The folder and the file that a setup attaches, if it attaches one. -/
def setupFile? (settings : Settings) (setup : Setup) : Option (Value × Value) :=
  let folder := if setup.folder.isGiven then setup.folder else .text settings.logFolder
  if setup.file.isGiven then some (folder, setup.file)
  else settings.logFile.map fun file => (folder, .text file)

def setupLevel (settings : Settings) (setup : Setup) : Except Fault Nat :=
  levelNumber (if setup.level.isGiven then setup.level else .text settings.logLevel)

/-- Opens a file and hands it the root's records from that level on. -/
def attach (s : Session) (level : Nat) (path : Path) : Outcome Session :=
  match s.disk.openFile path with
  | .error r => .refused s (.disk r path.text)
  | .ok disk =>
    let handler : Handler := { file? := some path.place, level, layout := .plain }
    .done { s with disk, handlers := s.handlers ++ [handler] }

/-- Makes the folder, and then attaches the file in it. -/
def attachIn (s : Session) (level : Nat) (folder file : Value) : Outcome Session :=
  match pathOf .folderNotText folder with
  | .error f => .refused s f
  | .ok folder =>
    ((s.disk.makeFolders folder).map fun disk => { s with disk }).andThen fun s =>
      match pathOf .fileNotText file with
      | .error f => .refused s f
      | .ok file => s.attach level (folder.within file).shortest

/-- Replaces the root's level and handlers. Nothing happens if the level is unknown. The level and
the console stay if the file is refused. -/
def setUp (s : Session) (setup : Setup) : Outcome Session :=
  match setupLevel s.settings setup with
  | .error f => .refused s f
  | .ok level =>
    let s :=
      { s with
        registry := s.registry.setRootLevel level
        handlers := consoleHandlers setup level }
    match setupFile? s.settings setup with
    | none => .done s
    | some (folder, file) => s.attachIn level folder file

/-- Sets up a console unless the root has a handler. -/
def initDefault (s : Session) : Outcome Session :=
  if s.handlers.isEmpty then s.setUp {} else .done s

def ensure (s : Session) : Option String → Session
  | none => s
  | some name => { s with registry := s.registry.ensure name }

def setLevel (s : Session) (name? : Option String) (level : Nat) : Session :=
  match name? with
  | none => { s with registry := s.registry.setRootLevel level }
  | some name => { s with registry := s.registry.setLevel name level }

/-- Makes the logger, and then gives it a level if one is asked for. -/
def getLogger (s : Session) (name level : Value) : Outcome Session :=
  match loggerName name with
  | .error f => .refused s f
  | .ok name? =>
    let s := s.ensure name?
    if level.isGiven then
      .ofExcept s ((levelNumber level).map (s.setLevel name?))
    else .done s

/-- Hands a record to one handler, if its level is high enough for it. -/
def deliver (level : Nat) (r : Record) (s : Session) (h : Handler) : Session :=
  if level < h.level then s
  else
    let text := h.layout.line r ++ "\n"
    match h.file? with
    | none => { s with console := s.console ++ text }
    | some path => { s with disk := s.disk.appendTo path text }

/-- Hands a record to the root's handlers, if its logger lets its level pass. -/
def emit (s : Session) (name? : Option String) (level : Int) (message : String) : Session :=
  let (passes, registry) := s.registry.ask name? level
  let s := { s with registry }
  if passes then
    let r : Record :=
      { logger := name?.getD rootName, levelName := Level.nameOf level.toNat, message }
    s.handlers.foldl (deliver level.toNat r) s
  else s

def log (s : Session) (name : Value) (level : Int) (message : String) : Outcome Session :=
  match loggerName name with
  | .error f => .refused s f
  | .ok name? => .done ((s.ensure name?).emit name? level message)

def act (s : Session) : Step → Outcome Session
  | .setup setup => s.setUp setup
  | .initDefault => s.initDefault
  | .logger name level => s.getLogger name level
  | .log name level message => s.log name level message

/-- A step starts with an empty console. -/
def step (s : Session) (step : Step) : Outcome Session := { s with console := "" }.act step

def run (s : Session) (steps : List Step) : Session :=
  steps.foldl (fun s step => (s.step step).state) s

/-- The name of a logger with its own level and its effective one. -/
def describe (s : Session) (name? : Option String) : String × Nat × Nat :=
  (name?.getD rootName, s.registry.own name?, s.registry.effective name?)

/-- What a step answers once it is done: only asking for a logger answers anything. -/
def answer? (s : Session) : Step → Option (String × Nat × Nat)
  | .logger name _ => (loggerName name).toOption.map s.describe
  | _ => none

/-- The files in the working folder and below, in the order of their paths. -/
def listing (s : Session) : List (String × String) :=
  ((s.disk.files.filter (·.1.isInner)).map fun f => (f.1.text, f.2)).mergeSort
    fun a b => a.1 ≤ b.1

end Session

end FluentSql.Log
