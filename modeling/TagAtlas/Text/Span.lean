/-!
# Spans of code points

A table of spans states a Unicode property: the property holds of the code points that one of
its spans holds.
-/

namespace TagAtlas.Text

/-- The code points from `first` to `last`, each `stride` apart. -/
structure Span where
  first : Nat
  last : Nat
  stride : Nat
  deriving Repr

def Span.holds (s : Span) (n : Nat) : Bool :=
  s.first ≤ n && n ≤ s.last && (n - s.first) % s.stride = 0

/-- Whether a code point lies in one of the spans. -/
def inSpans (table : List Span) (n : Nat) : Bool := table.any (·.holds n)

end TagAtlas.Text
