/-!
# Properties of characters

A property of characters beyond ASCII is given by the ascending list of the code points where it begins or ceases to hold:
a code point has the property if an odd number of them are at most the code point.
-/

namespace Concord.Source

/-- The property changes at each of the listed code points, and begins at the first. -/
def changesTo (changes : Array Nat) (code : Nat) : Bool :=
  changes.foldl (fun holds change => if change ≤ code then !holds else holds) false

end Concord.Source
