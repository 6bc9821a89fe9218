import FluentSql.Value.Basic

/-! Values as keys: which ones can be keys, and when two keys are the same. -/
namespace FluentSql.Value

mutual

/-- The kind of the first part that keeps a value from being a key: lists and maps can change, so
neither they nor tuples that hold them are keys. -/
def changeable? : Value → Option Kind
  | .list _ => some .list
  | .map _ => some .map
  | .tuple items => changeableItem? items
  | _ => none

def changeableItem? : List Value → Option Kind
  | [] => none
  | v :: rest => v.changeable?.or (changeableItem? rest)

end

/-- The whole number that a truth value or a number without places stands for. -/
def wholeNumber? : Value → Option Int
  | .bool b => some (if b then 1 else 0)
  | .int n => some n
  | _ => none

/-- Numbers are compared by size, whatever their kind. -/
def sameNumber : Value → Value → Bool
  | .real x, .real y => x.same y
  | .real x, w => w.wholeNumber?.any x.sameInt
  | v, .real y => v.wholeNumber?.any y.sameInt
  | v, w =>
    match v.wholeNumber?, w.wholeNumber? with
    | some m, some n => m == n
    | _, _ => false

mutual

/-- The same key. Keys hold neither lists nor maps. -/
def sameKey : Value → Value → Bool
  | .null, .null => true
  | .text s, .text t => s == t
  | .blob s, .blob t => s == t
  | .tuple s, .tuple t => sameKeys s t
  | v, w => sameNumber v w

def sameKeys : List Value → List Value → Bool
  | [], [] => true
  | v :: vs, w :: ws => v.sameKey w && sameKeys vs ws
  | _, _ => false

end

@[simp] theorem sameKey_text (s t : String) : sameKey (.text s) (.text t) = (s == t) := by
  simp [sameKey]

theorem eq_text_of_sameKey {s : String} {v : Value} (h : sameKey (.text s) v = true) :
    v = .text s := by
  cases v <;> simp_all [sameKey, sameNumber, wholeNumber?]

theorem eq_text_of_sameKey_text {s : String} {v : Value} (h : sameKey v (.text s) = true) :
    v = .text s := by
  cases v <;> simp_all [sameKey, sameNumber, wholeNumber?]

end FluentSql.Value
