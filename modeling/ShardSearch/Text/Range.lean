/-
Ranges of code points, the form in which character classes are tabulated.
-/
namespace ShardSearch.Text

/-- The code points from `first` to `last`, both included. -/
structure Range where
  first : Nat
  last : Nat
deriving DecidableEq, Repr

/-- Whether a range covers a code point. -/
def Range.covers (r : Range) (n : Nat) : Bool := r.first ≤ n && n ≤ r.last

/-- Whether a character is in a class given by ranges. -/
def inRanges (table : List Range) (c : Char) : Bool := table.any (·.covers c.toNat)

end ShardSearch.Text
