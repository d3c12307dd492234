/-
# Ranges of code points

A property of characters, given as a list of closed ranges of code points.

Key definitions: `Text.inRanges`.
-/

namespace SignedHooks
namespace Text

/-- A code point that one of the ranges holds. -/
def inRanges (ranges : List (Nat × Nat)) (n : Nat) : Bool :=
  ranges.any fun r => r.1 ≤ n && n ≤ r.2

end Text
end SignedHooks
