import FieldCalc.Text.Ranges

/-!
# Packed sets of characters

The sets that belong to properties are long.  They are written in lines as a sequence of numbers:
by turns how many characters are left out and how many follow after the first that is taken.  The
last digit of a number is a capital, with the base 26, and the digits before it have the base 36.
-/

namespace FieldCalc

namespace Pattern

/-- A set of characters with its names, in lowercase and without spaces, hyphens and underscores. -/
structure Named where
  names : List String
  packed : List String

namespace Named

/-- The value of a digit. -/
def digitValue (c : Char) : Nat :=
  if c.isDigit then c.toNat - '0'.toNat else c.toNat - 'a'.toNat + 10

/-- The numbers in a packed text, given the digits of the first that are read already. -/
def numbers (n : Nat) : List Char → List Nat
  | [] => []
  | c :: cs =>
    if c.isUpper then (n * 26 + (c.toNat - 'A'.toNat)) :: numbers 0 cs
    else numbers (n * 36 + digitValue c) cs

/-- The ranges from a code point on. -/
def rangesFrom (next : Nat) : List Nat → Text.Ranges
  | gap :: more :: ns => (next + gap, next + gap + more) :: rangesFrom (next + gap + more + 1) ns
  | _ => []

def ranges (t : Named) : Text.Ranges := rangesFrom 0 (numbers 0 (t.packed.flatMap String.toList))

/-- The set with a name. -/
def find? (ts : List Named) (name : String) : Option Text.Ranges :=
  (ts.find? (·.names.contains name)).map ranges

end Named

end Pattern

end FieldCalc
