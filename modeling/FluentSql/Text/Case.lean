import FluentSql.Text.Blank
import FluentSql.Text.CaseContext
import FluentSql.Text.CaseTable

/-! Upper, lower and title case of text. A letter may become several characters, and a capital
sigma that ends a word becomes the final one. -/
namespace FluentSql.Text

/-- A character's image: its expansion if it has one, else its place in a run, else itself. -/
def mapped (runs : List CaseRun) (expansions : List (Nat × List Nat)) (c : Char) : List Char :=
  match expansions.lookup c.toNat with
  | some image => image.map Char.ofNat
  | none => [((runs.findSome? (·.image? c.toNat)).map Char.ofNat).getD c]

def upperChar (c : Char) : List Char := mapped upperRuns upperExpansions c

def lowerChar (c : Char) : List Char := mapped lowerRuns lowerExpansions c

def upper (s : List Char) : List Char := s.flatMap upperChar

/-- The nearest character that is not looked through has case. -/
def meetsCased (s : List Char) : Bool := (s.dropWhile isTransparent).head?.any isCased

def capitalSigma : Char := 'Σ'

/-- Lower case of the characters that follow `before`, which is given in reverse. -/
def lowerAfter (before : List Char) : List Char → List Char
  | [] => []
  | c :: rest =>
    (if c = capitalSigma then
      (if meetsCased before && !meetsCased rest then ['ς'] else ['σ'])
    else lowerChar c) ++ lowerAfter (c :: before) rest

def lower (s : List Char) : List Char := lowerAfter [] s

/-- The first character in upper case and the rest in lower case, trimmed. -/
def title : List Char → List Char
  | [] => []
  | [c] => upperChar c
  | c :: rest => upperChar c ++ trim (lower rest)

end FluentSql.Text
