import Concord.Concept.Basic

/-!
# Concepts on construction

Whether a variable of a type can be initialised. Of constructors only those with one argument are known, as implicit
conversions.
-/

namespace Concord

namespace Table

variable {ι : Type} (T : Table ι)

/-- Every valid type, references included. -/
def destructible (t : Ty ι) : Bool := t.valid

/-- A variable of type `t` can be initialised from the arguments: from none unless it is a reference, from one by a
conversion. -/
def constructible (t : Ty ι) (arguments : Pack ι) : Bool :=
  destructible t &&
    if arguments.length = 0 then t.isPrvalue
    else arguments.length = 1 && T.convertible arguments.first t

def defaultConstructible (t : Ty ι) : Bool := T.constructible t []

def moveConstructible (t : Ty ι) : Bool := T.constructible t [t] && T.convertibleTo t t

/-- A type can be constructed from a value, a lvalue and a `const` value of itself. -/
def copyConstructible (t : Ty ι) : Bool :=
  T.moveConstructible t &&
    [t.addLvalueReference, t.asConstLvalue, t.addConst].all fun u =>
      T.constructible t [u] && T.convertibleTo u t

end Table

end Concord
