import TagAtlas.Decimal.View

/-!
# Decimals with a fixed number of places

The exact value is rounded to the nearest decimal with that many places; a half goes to the even
neighbour.
-/

namespace TagAtlas.Decimal

/-- The natural number nearest to a quotient; a half goes to the even one. -/
def roundDiv (num den : Nat) : Nat :=
  let below := num / den
  let rest := 2 * (num % den)
  if rest < den || (rest = den && below % 2 = 0) then below else below + 1

/-- The digits of `units / 10 ^ places`, with a point before the last places. -/
def withPoint (units places : Nat) : String :=
  let ds := digits units
  let padded := List.replicate (places + 1 - ds.length) '0' ++ ds
  if places = 0 then String.ofList padded
  else String.ofList (padded.take (padded.length - places)) ++ "." ++
    String.ofList (padded.drop (padded.length - places))

def fixed (places : Nat) (x : Float) : String :=
  match View.ofFloat x with
  | .notANumber => "NaN"
  | .infinite negative => if negative then "-inf" else "inf"
  | .finite negative m q =>
    let units := roundDiv (m * Nat.pow 2 q.toNat * Nat.pow 10 places) (Nat.pow 2 (-q).toNat)
    (if negative then "-" else "") ++ withPoint units places

end TagAtlas.Decimal
