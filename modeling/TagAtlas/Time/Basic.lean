/-!
# Times

Times are counted in nanoseconds from the start of 1970 in UTC; earlier ones are negative.
-/

namespace TagAtlas

abbrev Time := Int

def Time.second : Nat := 1000000000

/-- Nanoseconds from one time to a later one; none to an earlier one. -/
def Time.elapsed (start now : Time) : Nat := (now - start).toNat

end TagAtlas
