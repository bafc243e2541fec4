/-!
# Runs of code points

A class of characters is given by the code points at which its runs begin or end, in ascending
order: runs begin at the even places and end before the odd ones.
-/

namespace ConformanceSuite.Text

/-- Whether a code point lies in one of the runs with the given bounds. -/
def inRuns (bounds : Array Nat) (code : Nat) : Bool :=
  (bounds.takeWhile (· ≤ code)).size % 2 == 1

end ConformanceSuite.Text
