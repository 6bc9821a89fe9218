import FluentSql.Fault
import FluentSql.Value.Key

/-! The order of values of one kind, and the sorting of lists that have one. -/
namespace FluentSql.Value

/-- A number as a fraction, preceded by the sign of an infinity or by zero. -/
def magnitude? : Value → Option (Int × Int × Nat)
  | .bool b => some (0, if b then 1 else 0, 1)
  | .int n => some (0, n, 1)
  | .real (.infinite negative) => some (if negative then -1 else 1, 0, 1)
  | .real (.finite negative m e) =>
    some (0, Decimal.Double.signed negative m * Int.pow 2 e.toNat, Nat.pow 2 (-e).toNat)
  | _ => none

def isNumber : Value → Bool
  | .bool _ | .int _ | .real _ => true
  | _ => false

/-- What is not a number is below nothing and above nothing. -/
def lessNumber (v w : Value) : Bool :=
  match v.magnitude?, w.magnitude? with
  | some (r, n, d), some (s, m, c) => r < s || (r == s && n * c < m * d)
  | _, _ => false

mutual

def less : Value → Value → Except Fault Bool
  | .text s, .text t => .ok (s < t)
  | .blob s, .blob t => .ok (s < t)
  | .list s, .list t => lessItems s t
  | .tuple s, .tuple t => lessItems s t
  | v, w =>
    if v.isNumber && w.isNumber then .ok (lessNumber v w) else .error (.unordered v.kind w.kind)

/-- The first items that differ decide. -/
def lessItems : List Value → List Value → Except Fault Bool
  | _, [] => .ok false
  | [], _ :: _ => .ok true
  | v :: vs, w :: ws => if v.sameKey w then lessItems vs ws else less v w

end

def insertSorted (v : Value) : List Value → Except Fault (List Value)
  | [] => .ok [v]
  | w :: rest => do
    if ← v.less w then return v :: w :: rest else return w :: (← insertSorted v rest)

def sort : List Value → Except Fault (List Value)
  | [] => .ok []
  | v :: rest => do insertSorted v (← sort rest)

/-- The keys in their order, each one once. -/
def distinct (keys : List Value) : List Value :=
  keys.foldl (fun seen k => if seen.any (·.sameKey k) then seen else seen ++ [k]) []

end FluentSql.Value
