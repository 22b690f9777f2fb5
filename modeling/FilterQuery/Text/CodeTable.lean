set_option autoImplicit false
set_option relaxedAutoImplicit false

/-!
Tables over code points: sets given by their ranges, and maps given by arithmetic runs.
-/

namespace FilterQuery.Text.CodeTable

/-- Whether a code point lies in one of the ranges; both ends belong to a range. -/
def covers (ranges : List (Nat × Nat)) (n : Nat) : Bool :=
  ranges.any fun r => r.1 ≤ n && n ≤ r.2

/-- The code points `first`, `first + step`, … up to `last`, mapped in order to `image`, `image +
step`, …. -/
structure Run where
  first : Nat
  last : Nat
  step : Nat
  image : Nat

/-- The image of a code point under a run, `none` where the run does not reach it. -/
def Run.imageOf? (r : Run) (n : Nat) : Option Nat :=
  if r.first ≤ n ∧ n ≤ r.last ∧ (n - r.first) % r.step = 0 then some (r.image + (n - r.first))
    else none

/-- The image of a code point under the first run that reaches it. -/
def lookup? (runs : List Run) (n : Nat) : Option Nat :=
  runs.findSome? (·.imageOf? n)

/-- A character mapped through a table; one that the table does not mention stays as it is. -/
def mapChar (runs : List Run) (c : Char) : Char :=
  ((lookup? runs c.toNat).map Char.ofNat).getD c

end FilterQuery.Text.CodeTable
