import FieldCalc.Number.Binary

/-!
# Folding numbers

The sum, the mean and the extremes of a list of numbers, each taken from left to right.
-/

namespace FieldCalc

namespace Number

/-- The sum.  That of nothing is the negative zero, which changes no number that it is added to. -/
def total (xs : List Float) : Float := xs.foldl (· + ·) (-(ofNat 0))

/-- The mean, if there are any numbers. -/
def mean? : List Float → Option Float
  | [] => none
  | xs => some (total xs / ofNat xs.length)

/-- The smaller of two numbers, the later if they are equal; a NaN gives way to a number. -/
def least (x y : Float) : Float :=
  if isNaN y || order? x y == some .lt then x else y

/-- The larger of two numbers, the later if they are equal; a NaN gives way to a number. -/
def greatest (x y : Float) : Float :=
  if isNaN y || order? x y == some .gt then x else y

/-- A nonempty list folded from its first item on. -/
def reduce? (f : Float → Float → Float) : List Float → Option Float
  | [] => none
  | x :: xs => some (xs.foldl f x)

def least? (xs : List Float) : Option Float := reduce? least xs

def greatest? (xs : List Float) : Option Float := reduce? greatest xs

end Number

end FieldCalc
