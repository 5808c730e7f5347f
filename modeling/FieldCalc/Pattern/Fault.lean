import FieldCalc.Number.Layout

/-!
# Faults in patterns

What can be wrong with a regular expression, and where.  A report shows the pattern with the place
marked under it, and the cause.  Patterns of several lines are shown with line numbers.
-/

namespace FieldCalc

namespace Pattern

/-- A line and a column, both counted from one. -/
structure Position where
  line : Nat := 1
  column : Nat := 1
deriving DecidableEq, Repr

/-- The position behind a character. -/
def Position.after (p : Position) (c : Char) : Position :=
  if c = '\n' then ⟨p.line + 1, 1⟩ else ⟨p.line, p.column + 1⟩

/-- A stretch of a pattern, which may be empty. -/
structure Span where
  start : Position
  stop : Position
deriving DecidableEq, Repr

/-- How deep the parts of a pattern may be nested. -/
def nestLimit : Nat := 250

inductive Cause where
  | classEscape
  | classRangeReversed
  | classRangeBoundary
  | classUnclosed
  | countTooLarge
  | hexEmpty
  | hexNoCharacter
  | hexDigit
  | escapeUnfinished
  | escapeUnknown
  | flagDangling
  | flagTwice
  | flagNegatedTwice
  | flagUnfinished
  | flagUnknown
  | nameTwice
  | nameEmpty
  | nameCharacter
  | nameUnfinished
  | groupUnclosed
  | groupUnopened
  | nestedTooDeep
  | countReversed
  | countMissing
  | countUnclosed
  | nothingRepeated
  | boundaryUnclosed
  | boundaryUnknown
  | boundaryUnfinished
  | propertyEscape
  | backreference
  | lookAround
  | unicodeNotAllowed
  | notUtf8
  | propertyUnknown
  | propertyValueUnknown
deriving DecidableEq, Repr

def Cause.message : Cause → String
  | .classEscape => "invalid escape sequence found in character class"
  | .classRangeReversed => "invalid character class range, the start must be <= the end"
  | .classRangeBoundary => "invalid range boundary, must be a literal"
  | .classUnclosed => "unclosed character class"
  | .countTooLarge => "decimal literal invalid"
  | .hexEmpty => "hexadecimal literal empty"
  | .hexNoCharacter => "hexadecimal literal is not a Unicode scalar value"
  | .hexDigit => "invalid hexadecimal digit"
  | .escapeUnfinished => "incomplete escape sequence, reached end of pattern prematurely"
  | .escapeUnknown => "unrecognized escape sequence"
  | .flagDangling => "dangling flag negation operator"
  | .flagTwice => "duplicate flag"
  | .flagNegatedTwice => "flag negation operator repeated"
  | .flagUnfinished => "expected flag but got end of regex"
  | .flagUnknown => "unrecognized flag"
  | .nameTwice => "duplicate capture group name"
  | .nameEmpty => "empty capture group name"
  | .nameCharacter => "invalid capture group character"
  | .nameUnfinished => "unclosed capture group name"
  | .groupUnclosed => "unclosed group"
  | .groupUnopened => "unopened group"
  | .nestedTooDeep =>
    "exceed the maximum number of nested parentheses/brackets (" ++
      Number.integerText nestLimit ++ ")"
  | .countReversed => "invalid repetition count range, the start must be <= the end"
  | .countMissing => "repetition quantifier expects a valid decimal"
  | .countUnclosed => "unclosed counted repetition"
  | .nothingRepeated => "repetition operator missing expression"
  | .boundaryUnclosed =>
    "special word boundary assertion is either unclosed or contains an invalid character"
  | .boundaryUnknown =>
    "unrecognized special word boundary assertion, valid choices are: start, end, start-half " ++
      "or end-half"
  | .boundaryUnfinished =>
    "found either the beginning of a special word boundary or a bounded repetition on a \\b " ++
      "with an opening brace, but no closing brace"
  | .propertyEscape => "invalid Unicode character class"
  | .backreference => "backreferences are not supported"
  | .lookAround => "look-around, including look-ahead and look-behind, is not supported"
  | .unicodeNotAllowed => "Unicode not allowed here"
  | .notUtf8 => "pattern can match invalid UTF-8"
  | .propertyUnknown => "Unicode property not found"
  | .propertyValueUnknown => "Unicode property value not found"

/-- What is wrong and where, with the earlier place that it clashes with, if there is one. -/
structure Fault where
  cause : Cause
  span : Span
  earlier : Option Span := none
deriving DecidableEq, Repr

namespace Fault

/-- The stretches that a report marks, in their order. -/
def spans (f : Fault) : List Span := f.earlier.toList ++ [f.span]

/-! ### Lines -/

/-- The lines of a pattern without their ends; nothing after the last end is no line. -/
def linesOf (pattern : String) : List String :=
  let parts := pattern.splitOn "\n"
  let whole := parts.dropLast.map fun l =>
    if l.endsWith "\r" then String.ofList l.toList.dropLast else l
  match parts.getLast? with
  | some "" => whole
  | some l => whole ++ [l]
  | none => whole

/-- The width of the line numbers, zero if there are none. -/
def numberWidth (pattern : String) : Nat :=
  let count := (linesOf pattern).length + (if pattern.endsWith "\n" then 1 else 0)
  if count ≤ 1 then 0 else (Number.digitsOf count).length

/-- Marks under stretches of one line, of which `done` columns are written already. -/
def marks (done : Nat) : List Span → List Char
  | [] => []
  | s :: ss =>
    let gap := s.start.column - 1 - done
    let width := max 1 (s.stop.column - s.start.column)
    List.replicate gap ' ' ++ List.replicate width '^' ++ marks (done + gap + width) ss

/-- The line with the given number as it is shown, and the marks under it. -/
def shownLine (width : Nat) (spans : List Span) (number : Nat) (line : String) : String :=
  let digits := Number.digitsOf number
  let margin := if width = 0 then "    "
    else String.ofList (List.replicate (width - digits.length) ' ' ++ digits) ++ ": "
  let here := spans.filter fun s => s.start.line = number ∧ s.stop.line = number
  let below := if here = [] then "" else
    String.ofList (List.replicate margin.length ' ' ++ marks 0 here) ++ "\n"
  margin ++ line ++ "\n" ++ below

/-- A stretch over several lines in words. -/
def stretchText (s : Span) : String :=
  let text (n : Nat) := Number.integerText n
  "on line " ++ text s.start.line ++ " (column " ++ text s.start.column ++ ") through line " ++
    text s.stop.line ++ " (column " ++ text (s.stop.column - 1) ++ ")"

/-- The report of a fault in a pattern. -/
def report (pattern : String) (f : Fault) : String :=
  let width := numberWidth pattern
  let shown := String.join ((linesOf pattern).zipIdx.map fun (l, i) =>
    shownLine width f.spans (i + 1) l)
  let long := f.spans.filter fun s => s.start.line ≠ s.stop.line
  let long := if long = [] then "" else "\n".intercalate (long.map stretchText) ++ "\n"
  let body := if pattern.contains '\n' then
      let rule := String.ofList (List.replicate 79 '~') ++ "\n"
      rule ++ shown ++ rule ++ long
    else shown
  "regex parse error:\n" ++ body ++ "error: " ++ f.cause.message

end Fault

end Pattern

end FieldCalc
