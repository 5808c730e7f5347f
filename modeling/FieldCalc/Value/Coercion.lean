import FieldCalc.Json.Writer
import FieldCalc.Number.Numeral
import FieldCalc.Text.Blank
import FieldCalc.Text.Case
import FieldCalc.Value.Basic

/-!
# Coercions

Every value has a number, a truth value and a text.  A text has the number it spells, if that is
finite; a number has the text of its shortest digits, and a list the texts of its items.  Two
values compare as numbers when both are numeric and as texts otherwise.
-/

namespace FieldCalc

namespace Value

/-- The finite number that a text spells, blanks around it aside. -/
def numericText? (s : String) : Option Float :=
  ((Number.Numeral.read? (Text.trimChars s.toList)).map Number.Numeral.toFloat).filter
    Number.isFinite

/-- The number of a value, zero where it has none. -/
def toNumber : Value → Float
  | .number x => x
  | .text s => (numericText? s).getD (Number.ofNat 0)
  | .bool b => Number.ofNat (if b then 1 else 0)
  | _ => Number.ofNat 0

/-- The truth value of a value.  A text is true unless it is empty or spells `false`. -/
def toBool : Value → Bool
  | .bool b => b
  | .number x => !Number.isZero x
  | .text s => !s.isEmpty && Text.lowerAscii s != "false"
  | .null => false
  | .list _ => true
  | .object _ => true

/-- The text of a number; both zeros are written `0`. -/
def numberText (x : Float) : String :=
  if Number.isZero x then "0" else Number.Layout.text.render x

mutual

/-- The text of a value. -/
def toText : Value → String
  | .null => ""
  | .bool b => if b then "true" else "false"
  | .number x => numberText x
  | .text s => s
  | .list items => ", ".intercalate (toTexts items)
  | .object members => (toJson (.object members)).compact

def toTexts : List Value → List String
  | [] => []
  | v :: vs => v.toText :: toTexts vs

end

theorem toTexts_eq_map (vs : List Value) : toTexts vs = vs.map toText := by
  induction vs with
  | nil => rfl
  | cons v vs ih => rw [toTexts, ih, List.map_cons]

/-- Nothing, a text of white space, or an empty list. -/
def isBlank : Value → Bool
  | .null => true
  | .text s => s.toList.all Text.isBlank
  | .list items => items.isEmpty
  | _ => false

/-! ### Comparison -/

/-- The number that a value is compared by: numbers, truth values and numeric texts have one. -/
def comparable? : Value → Option Float
  | .number x => some x
  | .bool b => some (Number.ofNat (if b then 1 else 0))
  | .text s => numericText? s
  | _ => none

/-- The order of two values; there is none when a number that is compared is NaN. -/
def order? (v w : Value) : Option Ordering :=
  match v.comparable?, w.comparable? with
  | some x, some y => Number.order? x y
  | _, _ => some (compare v.toText w.toText)

/-! ### Result types -/

/-- What a formula field declares its results to be. -/
inductive ResultType where
  | number
  | text
  | boolean
deriving DecidableEq, Repr

/-- The result type with a name, blanks and case aside. -/
def ResultType.ofName? (name : String) : Option ResultType :=
  match Text.lowerAscii (Text.trim name) with
  | "number" => some .number
  | "text" => some .text
  | "boolean" => some .boolean
  | _ => none

def ResultType.name : ResultType → String
  | .number => "number"
  | .text => "text"
  | .boolean => "boolean"

/-- A value brought to a result type; without one it stays as it is. -/
def coerce (v : Value) : Option ResultType → Value
  | some .number => .number v.toNumber
  | some .text => .text v.toText
  | some .boolean => .bool v.toBool
  | none => v

end Value

end FieldCalc
