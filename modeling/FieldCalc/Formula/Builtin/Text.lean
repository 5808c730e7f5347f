import FieldCalc.Value.Coercion

/-!
# Text functions

Functions on the texts of their arguments.  Counts and positions are in characters; a count is the
integer part of a number, and zero for what is negative or no number.
-/

namespace FieldCalc

namespace Formula

namespace Builtin

/-- A count of characters. -/
def charCount (v : Value) : Nat :=
  match Number.shape v.toNumber with
  | .nan => 0
  | .infinite negative => if negative then 0 else 2 ^ 64 - 1
  | .finite negative m e => min (Number.wholePart negative m e).toNat (2 ^ 64 - 1)

def joined (vs : List Value) : Value := .text (String.join (vs.map Value.toText))

def inUpper (v : Value) : Value := .text (Text.upper v.toText)

def inLower (v : Value) : Value := .text (Text.lower v.toText)

def trimmed (v : Value) : Value := .text (Text.trim v.toText)

def length (v : Value) : Value := .number (Number.ofNat v.toText.length)

def left (v count : Value) : Value :=
  .text (String.ofList (v.toText.toList.take (charCount count)))

def right (v count : Value) : Value :=
  let cs := v.toText.toList
  .text (String.ofList (cs.drop (cs.length - charCount count)))

/-- The characters from a position on, which counts from one. -/
def mid (v start count : Value) : Value :=
  .text (String.ofList ((v.toText.toList.drop (charCount start - 1)).take (charCount count)))

/-- Every occurrence of `old` from the front on replaced, where the next `skip` characters belong to
one that is replaced already. -/
def replaceFrom (old new : List Char) : Nat → List Char → List Char
  | _, [] => []
  | skip + 1, _ :: cs => replaceFrom old new skip cs
  | 0, c :: cs =>
    if old.isPrefixOf (c :: cs) then new ++ replaceFrom old new (old.length - 1) cs
    else c :: replaceFrom old new 0 cs

/-- Every occurrence of a text replaced, the leftmost first; the empty text does not occur. -/
def substitute (v old new : Value) : Value :=
  let old := old.toText.toList
  if old = [] then .text v.toText
  else .text (String.ofList (replaceFrom old new.toText.toList 0 v.toText.toList))

end Builtin

end Formula

end FieldCalc
