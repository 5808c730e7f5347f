import FieldCalc.Number.Fold
import FieldCalc.Table.FieldError
import FieldCalc.Value.Coercion

/-!
# Aggregations

The functions that rollups bring lists of values to one with.
-/

namespace FieldCalc

inductive Aggregation where
  | count
  | countFilled
  | sum
  | average
  | least
  | greatest
deriving DecidableEq, Repr

namespace Aggregation

/-- The function with a name, blanks and case aside. -/
def ofName (name : String) : Except FieldError Aggregation :=
  match Text.upperAscii (Text.trim name) with
  | "COUNT" => .ok .count
  | "COUNTA" => .ok .countFilled
  | "SUM" => .ok .sum
  | "AVG" => .ok .average
  | "AVERAGE" => .ok .average
  | "MIN" => .ok .least
  | "MAX" => .ok .greatest
  | _ => .error (.unknownAggregation name)

/-- Whether a value is there and is not the empty text. -/
def isFilled : Value → Bool
  | .null => false
  | .text s => s != ""
  | _ => true

/-- The result for a list of values.  There is no mean and no extreme of an empty list. -/
def apply (a : Aggregation) (vs : List Value) : Value :=
  let xs := vs.map Value.toNumber
  let orNull (x : Option Float) : Value := (x.map Value.number).getD .null
  match a with
  | .count => .number (Number.ofNat vs.length)
  | .countFilled => .number (Number.ofNat (vs.countP isFilled))
  | .sum => .number (Number.total xs)
  | .average => orNull (Number.mean? xs)
  | .least => orNull (Number.least? xs)
  | .greatest => orNull (Number.greatest? xs)

end Aggregation

/-- The result of the function with a name. -/
def aggregate (name : String) (vs : List Value) : Except FieldError Value :=
  (Aggregation.ofName name).map fun a => a.apply vs

end FieldCalc
