/-!
# Cache statistics
-/

namespace TagAtlas

structure CacheStats where
  hits : Nat
  misses : Nat
  evictions : Nat
  entries : Nat
  capacity : Nat
  deriving DecidableEq, Repr

namespace CacheStats

/-- The part of the look-ups that found something; 0 before the first. -/
def hitRate (s : CacheStats) : Float :=
  if s.hits + s.misses = 0 then 0.0
  else Float.ofNat s.hits / Float.ofNat (s.hits + s.misses)

/-- The part of the look-ups that found nothing; 1 before the first. -/
def missRate (s : CacheStats) : Float := 1.0 - s.hitRate

end CacheStats

end TagAtlas
