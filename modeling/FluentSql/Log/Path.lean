import FluentSql.Text.Split

/-! File paths: their parts, their written form, and their shortest form. -/
namespace FluentSql.Log

/-- Where a path starts. The root is written as one slash or as two. -/
inductive Path.Anchor where
  | workingFolder | slash | twoSlashes
  deriving DecidableEq, Repr

structure Path where
  anchor : Path.Anchor := .workingFolder
  /-- The names in order. Two dots stand for the way up. -/
  parts : List String := []
  deriving DecidableEq, Repr

namespace Path

def Anchor.text : Anchor → String
  | .workingFolder => ""
  | .slash => "/"
  | .twoSlashes => "//"

/-- Two slashes at the front are kept, any other number of them is one. -/
def Anchor.ofText (s : String) : Anchor :=
  match (s.toList.takeWhile (· == '/')).length with
  | 0 => .workingFolder
  | 2 => .twoSlashes
  | _ => .slash

/-- Both ways of writing the root mean the same place. -/
def Anchor.place : Anchor → Anchor
  | .workingFolder => .workingFolder
  | .slash | .twoSlashes => .slash

/-- Empty parts and single dots stand for nothing. -/
def ofText (s : String) : Path :=
  { anchor := .ofText s
    parts := ((Text.split ['/'] s.toList).map String.ofList).filter fun part =>
      part != "" && part != "." }

def text (p : Path) : String :=
  if p = {} then "." else p.anchor.text ++ Text.join "/" p.parts

/-- The path of a file within a folder. What starts at the root is the same within every folder. -/
def within (folder file : Path) : Path :=
  match file.anchor with
  | .workingFolder => { folder with parts := folder.parts ++ file.parts }
  | .slash | .twoSlashes => file

/-- The way up from a path. Above the root there is nothing but the root. -/
def up (p : Path) : Path :=
  match p.parts.getLast? with
  | none | some ".." =>
    if p.anchor = .workingFolder then { p with parts := p.parts ++ [".."] } else p
  | some _ => { p with parts := p.parts.dropLast }

def child (p : Path) (part : String) : Path :=
  if part = ".." then p.up else { p with parts := p.parts ++ [part] }

/-- The same path without its parts. -/
def start (p : Path) : Path := { p with parts := [] }

/-- The same path without detours. -/
def shortest (p : Path) : Path := p.parts.foldl child p.start

/-- The place to which a path leads. -/
def place (p : Path) : Path := { p.shortest with anchor := p.anchor.place }

/-- A place in the working folder or below. -/
def isInner (place : Path) : Bool :=
  place.anchor == .workingFolder && place.parts.head? != some ".."

end Path

end FluentSql.Log
