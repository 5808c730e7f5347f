import FieldCalc.Formula.Builtin.Date
import FieldCalc.Formula.Builtin.Logic
import FieldCalc.Formula.Builtin.Numeric
import FieldCalc.Formula.Builtin.Text
import FieldCalc.Formula.Error

/-!
# Functions

The table of the functions that formulas can call.  A function is found by its name in any case of
ASCII, and it takes as many arguments as its body says.
-/

namespace FieldCalc

namespace Formula

namespace Builtin

/-- What a function computes, by the arguments that it takes. -/
inductive Body where
  | clock (f : Moment → Value)
  | one (f : Value → Value)
  | oneOrTwo (f : Value → Option Value → Value)
  | two (f : Value → Value → Value)
  | three (f : Value → Value → Value → Value)
  | many (f : List Value → Value)

/-- How many arguments are wanted, in words. -/
def Body.wants : Body → String
  | .clock _ => "0"
  | .one _ => "1"
  | .oneOrTwo _ => "1 or 2"
  | .two _ => "2"
  | .three _ => "3"
  | .many _ => "any number of"

/-- Whether a number of arguments is accepted. -/
def Body.accepts : Body → Nat → Bool
  | .clock _, n => n == 0
  | .one _, n => n == 1
  | .oneOrTwo _, n => n == 1 || n == 2
  | .two _, n => n == 2
  | .three _, n => n == 3
  | .many _, _ => true

/-- The result for the given arguments, if their number is accepted. -/
def Body.result? (now : Moment) : Body → List Value → Option Value
  | .clock f, [] => some (f now)
  | .one f, [v] => some (f v)
  | .oneOrTwo f, [v] => some (f v none)
  | .oneOrTwo f, [v, w] => some (f v (some w))
  | .two f, [v, w] => some (f v w)
  | .three f, [u, v, w] => some (f u v w)
  | .many f, vs => some (f vs)
  | _, _ => none

end Builtin

/-- A function: its name, the name that errors give it, and what it computes. -/
structure Builtin where
  name : String
  description : String
  body : Builtin.Body
  reportedName : String

namespace Builtin

/-- The functions in the order that they are listed in. -/
def table : List Builtin :=
  [⟨"CONCAT", "Join all arguments as text with no separator", .many joined, "CONCAT"⟩,
   ⟨"UPPER", "Uppercase text", .one inUpper, "UPPER"⟩,
   ⟨"LOWER", "Lowercase text", .one inLower, "LOWER"⟩,
   ⟨"TRIM", "Strip leading and trailing whitespace", .one trimmed, "TRIM"⟩,
   ⟨"LEN", "Number of characters in text", .one length, "LEN"⟩,
   ⟨"LEFT", "First n characters of text", .two left, "LEFT"⟩,
   ⟨"RIGHT", "Last n characters of text", .two right, "RIGHT"⟩,
   ⟨"MID", "Substring from a 1-based start position", .three mid, "MID"⟩,
   ⟨"SUBSTITUTE", "Replace every occurrence of old with new", .three substitute, "SUBSTITUTE"⟩,
   ⟨"SUM", "Sum of numeric values", .many total, "SUM"⟩,
   ⟨"AVERAGE", "Mean of numeric values", .many mean, "AVERAGE"⟩,
   ⟨"AVG", "Mean of numeric values", .many mean, "AVG"⟩,
   ⟨"MIN", "Smallest numeric value", .many smallest, "MIN"⟩,
   ⟨"MAX", "Largest numeric value", .many largest, "MAX"⟩,
   ⟨"ROUND", "Round to a number of decimal places (default 0)", .oneOrTwo rounded, "ROUND"⟩,
   ⟨"FLOOR", "Round down to an integer", .one roundedDown, "FLOOR"⟩,
   ⟨"CEILING", "Round up to an integer", .one roundedUp, "CEILING"⟩,
   ⟨"CEIL", "Round up to an integer", .one roundedUp, "CEILING"⟩,
   ⟨"ABS", "Absolute value", .one magnitude, "ABS"⟩,
   ⟨"IF", "Choose between two values on a condition", .three choose, "IF"⟩,
   ⟨"AND", "True when every argument is truthy", .many allTrue, "AND"⟩,
   ⟨"OR", "True when any argument is truthy", .many anyTrue, "OR"⟩,
   ⟨"NOT", "Logical negation", .one negated, "NOT"⟩,
   ⟨"ISBLANK", "True for null, empty text or an empty list", .one blank, "ISBLANK"⟩,
   ⟨"TODAY", "Current date as YYYY-MM-DD", .clock today, "TODAY"⟩,
   ⟨"NOW", "Current timestamp (RFC 3339)", .clock timestamp, "NOW"⟩,
   ⟨"YEAR", "Year of a date, 0 if unparseable", .one yearOf, "YEAR"⟩,
   ⟨"MONTH", "Month of a date, 0 if unparseable", .one monthOf, "MONTH"⟩,
   ⟨"DAY", "Day of month of a date, 0 if unparseable", .one dayOf, "DAY"⟩]

/-- The function with a name, in any case. -/
def find? (name : String) : Option Builtin :=
  let upper := Text.upperAscii name
  table.find? fun b => b.name == upper

/-- Calls a function. -/
def call (b : Builtin) (now : Moment) (args : List Value) : Except Error Value :=
  match b.body.result? now args with
  | some v => .ok v
  | none => .error (.argumentCount b.reportedName b.body.wants args.length)

end Builtin

end Formula

end FieldCalc
