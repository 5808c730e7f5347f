import FieldCalc.Number.Fold
import FieldCalc.Value.Coercion

/-!
# Numeric functions

Functions on the numbers of their arguments.  Those of any number of arguments open lists, at every
depth, and see the leaves in order.
-/

namespace FieldCalc

namespace Formula

namespace Builtin

mutual

/-- The numbers of the leaves of a value. -/
def leafNumbers : Value → List Float
  | .list items => leafNumbersOf items
  | v => [v.toNumber]

def leafNumbersOf : List Value → List Float
  | [] => []
  | v :: vs => leafNumbers v ++ leafNumbersOf vs

end

theorem leafNumbersOf_eq_flatMap (vs : List Value) : leafNumbersOf vs = vs.flatMap leafNumbers := by
  induction vs with
  | nil => rfl
  | cons v vs ih => rw [leafNumbersOf, ih, List.flatMap_cons]

def total (vs : List Value) : Value := .number (Number.total (leafNumbersOf vs))

def mean (vs : List Value) : Value :=
  .number ((Number.mean? (leafNumbersOf vs)).getD (Number.ofNat 0))

def smallest (vs : List Value) : Value :=
  .number ((Number.least? (leafNumbersOf vs)).getD (Number.ofNat 0))

def largest (vs : List Value) : Value :=
  .number ((Number.greatest? (leafNumbersOf vs)).getD (Number.ofNat 0))

/-- The number of decimal places that a precision asks for, between -15 and 15. -/
def places (precision : Float) : Int :=
  match Number.shape precision with
  | .nan => 0
  | .infinite negative => if negative then -15 else 15
  | .finite negative m e => max (-15) (min 15 (Number.wholePart negative m e))

/-- A number scaled by a power of ten, rounded with a half away from zero, and scaled back. -/
def roundTo (x : Float) (places : Int) : Float :=
  let power := Number.ofNat (10 ^ places.natAbs)
  let factor := if places < 0 then Number.ofNat 1 / power else power
  Number.toIntegral .halfAway (x * factor) / factor

def rounded (v : Value) (precision : Option Value) : Value :=
  .number (roundTo v.toNumber ((precision.map fun p => places p.toNumber).getD 0))

def roundedDown (v : Value) : Value := .number (Number.toIntegral .down v.toNumber)

def roundedUp (v : Value) : Value := .number (Number.toIntegral .up v.toNumber)

def magnitude (v : Value) : Value := .number v.toNumber.abs

end Builtin

end Formula

end FieldCalc
