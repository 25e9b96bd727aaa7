import TagAtlas.Decimal.View

/-!
# Shortest decimal that reads back

Among the decimals that round to a given number, the one with the fewest digits, and of those the
nearest; of two at the same distance, the even one. The numbers that round to `m * 2 ^ q` form an
interval around it, whose ends belong to it when `m` is even. On the decimal grid of a given
number of digits only the two neighbours of the value have to be tried.
-/

namespace TagAtlas.Decimal

/-- The positive number `m * 2 ^ q` and the interval that rounds to it, in quarters of `2 ^ q`. -/
structure Rounding where
  value : Nat
  low : Nat
  high : Nat
  closed : Bool
  exponent : Int

/-- The rounding interval of `m * 2 ^ q`. Just above a power of two the gap below is half as wide,
except among the smallest numbers. -/
def Rounding.of (m : Nat) (q : Int) : Rounding where
  value := 4 * m
  low := if m = leadingBit && -1074 < q then 4 * m - 1 else 4 * m - 2
  high := 4 * m + 2
  closed := m % 2 = 0
  exponent := q - 2

/-- Factors that put `d * 10 ^ p` and `x * 2 ^ e` on one scale: compare `d * a` with `x * b`. -/
def scales (p e : Int) : Nat × Nat :=
  (Nat.pow 10 p.toNat * Nat.pow 2 (-e).toNat, Nat.pow 10 (-p).toNat * Nat.pow 2 e.toNat)

/-- The multiple of `10 ^ p` that rounds to the number, if the grid has one. -/
def Rounding.onGrid? (r : Rounding) (p : Int) : Option Nat :=
  let (a, b) := scales p r.exponent
  let inside (d : Nat) : Bool :=
    if r.closed then r.low * b ≤ d * a && d * a ≤ r.high * b
    else r.low * b < d * a && d * a < r.high * b
  let below := r.value * b / a
  let above := below + 1
  if 0 < below && inside below then
    if inside above then
      let down := r.value * b - below * a
      let up := above * a - r.value * b
      if down < up || (down = up && below % 2 = 0) then some below else some above
    else some below
  else if inside above then some above
  else none

/-- Number of digits before the decimal point of `m * 2 ^ q`; not positive when it is below 1,
less by one for each zero that follows the point. -/
def leadingPlace (m : Nat) (q : Int) : Int :=
  let num := m * Nat.pow 2 q.toNat
  let den := Nat.pow 2 (-q).toNat
  if den ≤ num then (digits (num / den)).length
  else match (List.range 400).find? fun j => den ≤ num * Nat.pow 10 (j + 1) with
    | some j => -j
    | none => 0

/-- The shortest decimal `d * 10 ^ p` that reads back as `m * 2 ^ q`. The first grid has only the
power of ten above the number; then each grid has one digit more. -/
def shortest (m : Nat) (q : Int) : Nat × Int :=
  let r := Rounding.of m q
  let place := leadingPlace m q
  let tries := (List.range 18).map fun n => place - (n : Nat)
  (tries.findSome? fun p => (r.onGrid? p).map fun d => (d, p)).getD (0, 0)

end TagAtlas.Decimal
