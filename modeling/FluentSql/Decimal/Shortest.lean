import FluentSql.Decimal.Double

/-! The shortest decimal that reads back as a given double, found by trying ever finer decimal
grids and looking at the two grid points next to the value. -/
namespace FluentSql.Decimal

def digitCount (n : Nat) : Nat := if n = 0 then 0 else (Nat.toDigits 10 n).length

/-- The decimal exponent of the leading digit of `n / d`. -/
def leadingExponent (n d : Nat) : Int :=
  if d ≤ n then (digitCount (n / d) : Int) - 1 else -(digitCount ((d - 1) / n) : Int)

/-- The reals that round to a double, in quarters of its unit: from `low` to `high` around
`centre`, each quarter being `2 ^ scale`. The ends belong to it if `closed`. -/
structure Interval where
  low : Nat
  centre : Nat
  high : Nat
  scale : Int
  closed : Bool
  deriving Repr

/-- Below a power of two the doubles lie twice as dense, so the interval is narrower there. -/
def Interval.around (m : Nat) (e : Int) : Interval :=
  let narrow := m == Nat.pow 2 52 && e != leastExponent
  { low := 4 * m - (if narrow then 1 else 2), centre := 4 * m, high := 4 * m + 2,
    scale := e - 2, closed := m % 2 == 0 }

/-- A grid point `d * 10 ^ k` and a number of quarters, brought to one common unit. -/
def Interval.onGrid (i : Interval) (k : Int) (d : Nat) : Nat :=
  d * Nat.pow 10 k.toNat * Nat.pow 2 (-i.scale).toNat

def Interval.offGrid (i : Interval) (k : Int) (quarters : Nat) : Nat :=
  quarters * Nat.pow 2 i.scale.toNat * Nat.pow 10 (-k).toNat

def Interval.contains (i : Interval) (k : Int) (d : Nat) : Bool :=
  let x := i.onGrid k d
  if i.closed then i.offGrid k i.low ≤ x && x ≤ i.offGrid k i.high
  else i.offGrid k i.low < x && x < i.offGrid k i.high

/-- The grid point of the interval nearest to its centre, among the two next to the centre. Of two
equally near points the even one is taken. -/
def Interval.point? (i : Interval) (k : Int) : Option Nat :=
  let centre := i.offGrid k i.centre
  let below := centre / i.onGrid k 1
  let above := below + 1
  match i.contains k below, i.contains k above with
  | true, true =>
    let gapBelow := centre - i.onGrid k below
    let gapAbove := i.onGrid k above - centre
    if gapBelow < gapAbove then some below
    else if gapAbove < gapBelow then some above
    else if below % 2 = 0 then some below else some above
  | true, false => some below
  | false, true => some above
  | false, false => none

/-- Tries the grids with unit `10 ^ k`, `10 ^ (k - 1)`, … in turn. -/
def Interval.search (i : Interval) : Nat → Int → Nat × Int
  | 0, k => (i.offGrid k i.centre / i.onGrid k 1, k)
  | tries + 1, k =>
    match i.point? k with
    | some d => (d, k)
    | none => i.search tries (k - 1)

/-- The shortest decimal `d * 10 ^ k` for the positive double `m * 2 ^ e`. Seventeen digits always
suffice. -/
def shortest (m : Nat) (e : Int) : Nat × Int :=
  (Interval.around m e).search 17 (leadingExponent (m * Nat.pow 2 e.toNat) (Nat.pow 2 (-e).toNat))

end FluentSql.Decimal
