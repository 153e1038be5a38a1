/-!
# Ranges of code points

A property of characters is kept as the closed ranges of the code points that have it.
-/

namespace RecordTypes.Text

/-- Closed ranges of code points. -/
abbrev Ranges := List (Nat × Nat)

/-- Whether a character lies in one of the ranges. -/
def Ranges.covers (rs : Ranges) (c : Char) : Bool :=
  rs.any fun r => r.1 ≤ c.toNat && c.toNat ≤ r.2

end RecordTypes.Text
