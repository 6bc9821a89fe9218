/-! Double precision numbers as exact data: sign, 53-bit mantissa and binary exponent, with
rounding of a quotient to the nearest one and exact comparison. -/
namespace FluentSql.Decimal

/-- `finite s m e` is `m * 2 ^ e`, negated if `s`. It is kept in the form with `m < 2 ^ 53` and
`-1074 ≤ e ≤ 971` in which `2 ^ 52 ≤ m` unless `e` is the least exponent. -/
inductive Double where
  | nan
  | infinite (negative : Bool)
  | finite (negative : Bool) (mantissa : Nat) (exponent : Int)
  deriving DecidableEq, Repr

def leastExponent : Int := -1074

def greatestExponent : Int := 971

/-- The quotient to the nearest natural number, a half going to the even neighbour. -/
def divNearest (n d : Nat) : Nat :=
  let q := n / d
  let r := n % d
  if 2 * r < d then q
  else if d < 2 * r then q + 1
  else if q % 2 = 0 then q else q + 1

/-- The quotient `n / d` measured in units of `2 ^ e`, as a pair to divide. -/
def inUnits (n d : Nat) (e : Int) : Nat × Nat := (n * Nat.pow 2 (-e).toNat, d * Nat.pow 2 e.toNat)

/-- The exponent at which `n / d` has a 53-bit mantissa, or the least one if that is greater. -/
def unitExponent (n d : Nat) : Int :=
  let guess : Int := (n.log2 : Int) - d.log2 - 52
  let (a, b) := inUnits n d guess
  max leastExponent (if a < b * Nat.pow 2 52 then guess - 1 else guess)

namespace Double

def zero (negative : Bool) : Double := .finite negative 0 leastExponent

/-- The double nearest to `n / d`, or the infinity if that is out of range. -/
def nearest (negative : Bool) (n d : Nat) : Double :=
  if n = 0 then zero negative
  else
    let e := unitExponent n d
    let (a, b) := inUnits n d e
    let m := divNearest a b
    let (m, e) := if m = Nat.pow 2 53 then (Nat.pow 2 52, e + 1) else (m, e)
    if greatestExponent < e then .infinite negative else .finite negative m e

def isZero : Double → Bool
  | .finite _ m _ => m == 0
  | _ => false

def signed (negative : Bool) (m : Nat) : Int := if negative then -(m : Int) else m

/-- Numerical equality: the two zeros are equal, and nothing equals what is not a number. -/
def same : Double → Double → Bool
  | .infinite s, .infinite t => s == t
  | .finite s m e, .finite t n f => (m == 0 && n == 0) || (s == t && m == n && e == f)
  | _, _ => false

def sameInt : Double → Int → Bool
  | .finite s m e, n => signed s m * Int.pow 2 e.toNat == n * Int.pow 2 (-e).toNat
  | _, _ => false

end Double

end FluentSql.Decimal
