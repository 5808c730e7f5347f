import FieldCalc.Value.Coercion

/-!
# Logical functions

Functions on the truth values of their arguments.
-/

namespace FieldCalc

namespace Formula

namespace Builtin

/-- One of two values, both of them computed. -/
def choose (condition yes no : Value) : Value := if condition.toBool then yes else no

def allTrue (vs : List Value) : Value := .bool (vs.all Value.toBool)

def anyTrue (vs : List Value) : Value := .bool (vs.any Value.toBool)

def negated (v : Value) : Value := .bool (!v.toBool)

def blank (v : Value) : Value := .bool v.isBlank

end Builtin

end Formula

end FieldCalc
