import FluentSql.Log.Path
import FluentSql.Outcome

/-! Folders and files as they are made step by step, starting from an empty working folder, and the
reasons for which a path is refused. -/
namespace FluentSql.Log

/-- What has been made so far, each at its place and in the order of making. -/
structure Disk where
  folders : List Path := []
  /-- The files with their contents. -/
  files : List (Path × String) := []
  deriving DecidableEq, Repr

namespace Disk

/-- The size in bytes that a single name may have. -/
def maxName : Nat := 255

/-- The size in bytes that a whole path may have. -/
def maxPath : Nat := 4095

/-- The number of folders that can be missing one above the other. -/
def maxMissing : Nat := 989

/-- The folders that stand at the root of every system. -/
def rootFolders : List String :=
  ["bin", "boot", "dev", "etc", "home", "lib", "media", "mnt", "opt", "proc", "root", "run", "sbin",
    "srv", "sys", "tmp", "usr", "var"]

def isRootFolder (place : Path) : Bool :=
  match place.anchor, place.parts with
  | .slash, [name] => rootFolders.contains name
  | _, _ => false

/-- The file that takes everything and holds nothing. -/
def sink : Path := { anchor := .slash, parts := ["dev", "null"] }

/-- The working folder, the folders above it and the root are there from the start. -/
def isFolder (d : Disk) (place : Path) : Bool :=
  place.parts.all (· == "..") || isRootFolder place || d.folders.contains place

def isFile (d : Disk) (place : Path) : Bool := place == sink || d.files.any (·.1 == place)

/-- Goes from a folder to the folder of that name in it. -/
def enter (d : Disk) (place : Path) (part : String) : Except Refusal Path :=
  if maxName < part.utf8ByteSize then .error .nameTooLong
  else if d.isFolder (place.child part) then .ok (place.child part)
  else if d.isFile (place.child part) then .error .notFolder
  else .error .missing

/-- The folder in which the last part of a path stands. -/
def above (d : Disk) (p : Path) : Except Refusal Path :=
  if maxPath < p.text.utf8ByteSize then .error .nameTooLong
  else p.parts.dropLast.foldlM d.enter p.start.place

/-- What stands at the end of a path. -/
inductive Entry where
  | folder
  | file
  /-- Nothing yet. -/
  | free
  deriving DecidableEq, Repr

def entry (d : Disk) (p : Path) : Except Refusal Entry := do
  let folder ← d.above p
  match p.parts.getLast? with
  | none => return .folder
  | some part =>
    match d.enter folder part with
    | .ok _ => return .folder
    | .error .notFolder => return .file
    | .error .missing => return .free
    | .error r => throw r

/-- Makes a folder within one that is there. -/
def makeFolder (d : Disk) (p : Path) : Except Refusal Disk := do
  match ← d.entry p with
  | .free => return { d with folders := d.folders ++ [p.place] }
  | .folder | .file => throw .taken

def leadsToFolder (d : Disk) (p : Path) : Bool :=
  match d.entry p with
  | .ok .folder => true
  | _ => false

/-- A folder that is there already is as good as one that has been made. -/
def settle (d : Disk) (p : Path) : Except Refusal Disk → Outcome Disk
  | .ok made => .done made
  | .error r =>
    if d.leadsToFolder p then .done d else .refused d (.disk r p.text)

/-- Makes the folder of a path, given by its parts from the last one on. If what is above is
missing, that is made first, `left` times at most, and it stays if the rest is refused. -/
def makeAll (d : Disk) (start : Path) : Nat → List String → Outcome Disk
  | _, [] => .done d
  | 0, _ :: _ => .refused d .pathTooDeep
  | left + 1, part :: parts =>
    let p : Path := { start with parts := (part :: parts).reverse }
    match d.makeFolder p with
    | .error .missing => (d.makeAll start left parts).andThen fun d => d.settle p (d.makeFolder p)
    | made => d.settle p made

def makeFolders (d : Disk) (p : Path) : Outcome Disk := d.makeAll p.start maxMissing p.parts.reverse

/-- Opens a file, which makes it unless it is there. What it holds is kept. -/
def openFile (d : Disk) (p : Path) : Except Refusal Disk := do
  match ← d.entry p with
  | .folder => throw .isFolder
  | .file => return d
  | .free => return { d with files := d.files ++ [(p.place, "")] }

def appendTo (d : Disk) (p : Path) (text : String) : Disk :=
  { d with files := d.files.map fun f => if f.1 = p then (f.1, f.2 ++ text) else f }

theorem files_settle_error (d : Disk) (p : Path) (r : Refusal) :
    (d.settle p (.error r)).state = d := by
  simp only [settle]
  split <;> rfl

/-- Making a folder leaves the files alone. -/
theorem files_of_makeFolder {d made : Disk} {p : Path} (h : d.makeFolder p = .ok made) :
    made.files = d.files := by
  unfold makeFolder at h
  cases he : d.entry p with
  | error r => rw [he] at h; cases h
  | ok e =>
    rw [he] at h
    cases e <;> cases h
    rfl

theorem files_settle (d : Disk) (p : Path) :
    (d.settle p (d.makeFolder p)).state.files = d.files := by
  cases h : d.makeFolder p with
  | ok made => exact files_of_makeFolder h
  | error r => rw [files_settle_error]

theorem files_makeAll (d : Disk) (start : Path) (left : Nat) (parts : List String) :
    (d.makeAll start left parts).state.files = d.files := by
  induction parts generalizing left with
  | nil => cases left <;> rfl
  | cons part parts ih =>
    cases left with
    | zero => rfl
    | succ left =>
      simp only [makeAll]
      split
      · simp only [Outcome.andThen]
        split
        · rw [files_settle, ih]
        · exact ih left
      · exact files_settle d _

@[simp] theorem files_makeFolders (d : Disk) (p : Path) :
    (d.makeFolders p).state.files = d.files := files_makeAll d _ _ _

end Disk

end FluentSql.Log
