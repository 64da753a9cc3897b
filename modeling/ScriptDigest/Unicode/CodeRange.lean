/-!
# Ranges of code points

A character class of the Unicode character database is a list of ranges of code points. A character is in the class when
one of the ranges holds it.
-/

namespace ScriptDigest.Unicode

/-- The code points from `first` to `last`, both ends included. -/
structure CodeRange where
  first : Nat
  last : Nat
  deriving DecidableEq, Repr

/-- Whether a range holds the code point of a character. -/
def CodeRange.contains (r : CodeRange) (c : Char) : Bool :=
  r.first ≤ c.toNat && c.toNat ≤ r.last

end ScriptDigest.Unicode
