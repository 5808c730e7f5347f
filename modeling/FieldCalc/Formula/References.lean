import FieldCalc.Text.Blank

/-!
# References of a source

The names between braces that a formula mentions, found without parsing it, so that formulas that
cannot be read have them too.  Braces inside text literals do not count.
-/

namespace FieldCalc

namespace Formula

/-- Where a source is being read: in the open, in a text literal, or behind a backslash in one. -/
inductive Place where
  | outside
  | literal
  | escaped
deriving DecidableEq

/-- A source with the contents of its text literals replaced by blanks. -/
def blankLiterals : Place → List Char → List Char
  | _, [] => []
  | .outside, c :: cs => c :: blankLiterals (if c = '"' then .literal else .outside) cs
  | .literal, c :: cs =>
    if c = '"' then '"' :: blankLiterals .outside cs
    else ' ' :: blankLiterals (if c = '\\' then .escaped else .literal) cs
  | .escaped, _ :: cs => ' ' :: blankLiterals .literal cs

/-- The contents of the braces of a text in order.  `inner?` holds what has been read since an
opening brace, the last character first; a second opening brace begins again. -/
def bracedFrom (inner? : Option (List Char)) : List Char → List (List Char)
  | [] => []
  | c :: cs =>
    if c = '\x7b' then bracedFrom (some []) cs
    else
      match inner? with
      | none => bracedFrom none cs
      | some inner =>
        if c = '\x7d' then inner.reverse :: bracedFrom none cs
        else bracedFrom (some (c :: inner)) cs

/-- The references of a source in the order that they first appear in. -/
def references (source : String) : List String :=
  let names := (bracedFrom none (blankLiterals .outside source.toList)).map Text.trimChars
  ((names.filter (· ≠ [])).map String.ofList).eraseDups

end Formula

end FieldCalc
