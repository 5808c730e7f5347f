import FieldCalc.Calendar.DateText
import FieldCalc.Value.Coercion

/-!
# Date functions

The present, and the parts of the date that a text has; a text without a date has parts zero.
-/

namespace FieldCalc

namespace Formula

namespace Builtin

def today (m : Moment) : Value := .text m.dateText

def timestamp (m : Moment) : Value := .text m.timestampText

/-- A part of the date that a value's text has. -/
def datePart (part : Date → Int) (v : Value) : Value :=
  .number (Number.ofInt (((DateText.read? v.toText).map part).getD 0))

def yearOf (v : Value) : Value := datePart (fun d => d.year) v

def monthOf (v : Value) : Value := datePart (fun d => d.month) v

def dayOf (v : Value) : Value := datePart (fun d => d.day) v

end Builtin

end Formula

end FieldCalc
