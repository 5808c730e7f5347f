import FieldCalc.Json.Basic
import FieldCalc.Number.Layout

/-!
# JSON text

Documents as text: `compact` without any blanks, `pretty` with every member and element on a line
of its own.  Quotes, backslashes and control characters are escaped, and nothing else is.
-/

namespace FieldCalc

namespace Json

/-- A character inside a string. -/
def escapeChar (c : Char) : List Char :=
  if c = '"' ∨ c = '\\' then ['\\', c]
  else if c = '\n' then ['\\', 'n']
  else if c = '\r' then ['\\', 'r']
  else if c = '\t' then ['\\', 't']
  else if c = '\x08' then ['\\', 'b']
  else if c = '\x0c' then ['\\', 'f']
  else if c.toNat < 0x20 then
    ['\\', 'u', '0', '0', Nat.digitChar (c.toNat / 16), Nat.digitChar (c.toNat % 16)]
  else [c]

def stringText (s : String) : String :=
  String.ofList ('"' :: (s.toList.flatMap escapeChar ++ ['"']))

/-- A number with a fraction or an exponent; what is no number is `null`. -/
def floatText (x : Float) : String :=
  if Number.isFinite x then Number.Layout.json.render x else "null"

mutual

/-- The text of a document without blanks. -/
def compact : Json → String
  | .null => "null"
  | .bool b => if b then "true" else "false"
  | .int n => Number.integerText n
  | .float x => floatText x
  | .str s => stringText s
  | .arr items => "[" ++ ",".intercalate (compactItems items) ++ "]"
  | .obj members => "\x7b" ++ ",".intercalate (compactMembers members) ++ "\x7d"

def compactItems : List Json → List String
  | [] => []
  | j :: js => j.compact :: compactItems js

def compactMembers : List (String × Json) → List String
  | [] => []
  | (k, j) :: ms => (stringText k ++ ":" ++ j.compact) :: compactMembers ms

end

theorem compactItems_eq_map (js : List Json) : compactItems js = js.map compact := by
  induction js with
  | nil => rfl
  | cons j js ih => rw [compactItems, ih, List.map_cons]

theorem compactMembers_eq_map (ms : List (String × Json)) :
    compactMembers ms = ms.map fun m => stringText m.1 ++ ":" ++ m.2.compact := by
  induction ms with
  | nil => rfl
  | cons m ms ih => rw [compactMembers, ih, List.map_cons]

/-- A bracketed group, its parts on lines of their own two columns further in. -/
def group (opening closing indent : String) : List String → String
  | [] => opening ++ closing
  | parts =>
    let inner := indent ++ "  "
    opening ++ "\n" ++ inner ++ (",\n" ++ inner).intercalate parts ++ "\n" ++ indent ++ closing

mutual

/-- The text of a document over several lines, which start at `indent`. -/
def prettyFrom (indent : String) : Json → String
  | .arr items => group "[" "]" indent (prettyItems (indent ++ "  ") items)
  | .obj members => group "\x7b" "\x7d" indent (prettyMembers (indent ++ "  ") members)
  | .null => "null"
  | .bool b => if b then "true" else "false"
  | .int n => Number.integerText n
  | .float x => floatText x
  | .str s => stringText s

def prettyItems (indent : String) : List Json → List String
  | [] => []
  | j :: js => j.prettyFrom indent :: prettyItems indent js

def prettyMembers (indent : String) : List (String × Json) → List String
  | [] => []
  | (k, j) :: ms => (stringText k ++ ": " ++ j.prettyFrom indent) :: prettyMembers indent ms

end

def pretty (j : Json) : String := j.prettyFrom ""

end Json

end FieldCalc
