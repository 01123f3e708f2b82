/-!
# Runs of code points

A character class is a list of inclusive runs of code points.
-/
namespace SqlWire.Text

/-- The code points from the first to the second, both included. -/
abbrev Run := Nat × Nat

/-- Some run holds the character. -/
def covered (runs : List Run) (c : Char) : Bool :=
  runs.any fun r => r.1 ≤ c.toNat && c.toNat ≤ r.2

end SqlWire.Text
