import FieldCalc.Formula.Error
import FieldCalc.Number.Numeral
import FieldCalc.Text.Blank
import FieldCalc.Text.Letter

/-!
# Scanning a formula

A source is read as tokens separated by optional blanks.  `readToken` takes the longest token at
the front of a text and says how many characters it has; `Scan.ofChars` repeats it.  A scan lists
the tokens with their offsets, up to the end of the source or to the first place where no token
can be read.
-/

namespace FieldCalc

namespace Formula

/-- The length of a text in UTF-8. -/
def byteLength (cs : List Char) : Nat := cs.foldr (fun c n => c.utf8Size + n) 0

/-- The tokens of a source in order, and how they end. -/
inductive Scan where
  | token (t : Token) (offset : Nat) (rest : Scan)
  | ended (offset : Nat)
  | broken (offset : Nat) (fault : Fault)

/-! ### Single tokens -/

/-- The character that a backslash in a text literal makes of the next one. -/
def unescape (c : Char) : Char := if c = 'n' then '\n' else if c = 't' then '\t' else c

/-- The contents of a text literal after its opening quote, and its length with the closing one. -/
def readText : List Char → Option (List Char × Nat)
  | [] => none
  | '"' :: _ => some ([], 1)
  | '\\' :: c :: cs => (readText cs).map fun (s, n) => (unescape c :: s, n + 2)
  | c :: cs => (readText cs).map fun (s, n) => (c :: s, n + 1)

def isBrace (c : Char) : Bool := c == '\x7b' || c == '\x7d'

/-- A reference after its opening brace. -/
def readReference (cs : List Char) : Except Fault (Token × Nat) :=
  let inner := cs.takeWhile fun c => !isBrace c
  if cs[inner.length]? = some '\x7d' then
    match Text.trimChars inner with
    | [] => .error .emptyReference
    | name => .ok (.reference (String.ofList name), inner.length + 1)
  else .error .unterminatedReference

def isNumberPart (c : Char) : Bool := c.isDigit || c == '.'

/-- The number that a numeral spells. -/
def numberToken (numeral : List Char) : Except Fault Token :=
  match Number.Numeral.read? numeral with
  | none => .error (.invalidNumber (String.ofList numeral))
  | some n =>
    if Number.isFinite n.toFloat then .ok (.number n.toFloat) else .error .numberOutOfRange

/-- The letter of an exponent and its sign, at the front of a text. -/
def exponentMark : List Char → List Char
  | e :: s :: _ =>
    if e = 'e' ∨ e = 'E' then if s = '+' ∨ s = '-' then [e, s] else [e] else []
  | [e] => if e = 'e' ∨ e = 'E' then [e] else []
  | [] => []

/-- A number, and the length of its numeral. -/
def readNumber (cs : List Char) : Except Fault (Token × Nat) :=
  let body := cs.takeWhile isNumberPart
  let mark := exponentMark (cs.drop body.length)
  let power := (cs.drop (body.length + mark.length)).takeWhile Char.isDigit
  match mark with
  | [] => (numberToken body).map fun t => (t, body.length)
  | _ =>
    if power = [] then .error (.noExponentDigits (String.ofList (body ++ mark)))
    else
      let numeral := body ++ mark ++ power
      (numberToken numeral).map fun t => (t, numeral.length)

def isNameStart (c : Char) : Bool := Text.isAlphabetic c || c == '_'

def isNamePart (c : Char) : Bool := Text.isAlphanumeric c || c == '_' || c == '.'

/-- The longest token at the front of `c :: cs`, and how many characters of `cs` it takes. -/
def readToken (c : Char) (cs : List Char) : Except Fault (Token × Nat) :=
  match c with
  | '(' => .ok (.leftParen, 0)
  | ')' => .ok (.rightParen, 0)
  | ',' => .ok (.comma, 0)
  | '+' => .ok (.operator .add, 0)
  | '-' => .ok (.operator .subtract, 0)
  | '*' => .ok (.operator .multiply, 0)
  | '/' => .ok (.operator .divide, 0)
  | '&' => .ok (.operator .concat, 0)
  | '=' => if cs.head? = some '=' then .ok (.operator .equal, 1) else .ok (.operator .equal, 0)
  | '!' =>
    if cs.head? = some '=' then .ok (.operator .notEqual, 1) else .error .loneExclamation
  | '<' =>
    if cs.head? = some '=' then .ok (.operator .lessEqual, 1)
    else if cs.head? = some '>' then .ok (.operator .notEqual, 1)
    else .ok (.operator .less, 0)
  | '>' =>
    if cs.head? = some '=' then .ok (.operator .greaterEqual, 1) else .ok (.operator .greater, 0)
  | '"' =>
    match readText cs with
    | some (s, n) => .ok (.text (String.ofList s), n)
    | none => .error .unterminatedText
  | '\x7b' => readReference cs
  | c =>
    if isNumberPart c then (readNumber (c :: cs)).map fun (t, n) => (t, n - 1)
    else if isNameStart c then
      let tail := cs.takeWhile isNamePart
      .ok (.name (String.ofList (c :: tail)), tail.length)
    else .error (.unexpectedCharacter c)

/-! ### Whole sources -/

namespace Scan

/-- The tokens of a text that begins `offset` bytes into its source. -/
def ofChars (offset : Nat) (cs : List Char) : Scan :=
  let start := offset + byteLength (cs.takeWhile Text.isBlank)
  match _h : cs.dropWhile Text.isBlank with
  | [] => .ended start
  | c :: r =>
    match readToken c r with
    | .error fault => .broken start fault
    | .ok (t, n) => .token t start (ofChars (start + byteLength (c :: r.take n)) (r.drop n))
termination_by cs.length
decreasing_by
  have := congrArg List.length _h
  have := (List.dropWhile_sublist Text.isBlank (l := cs)).length_le
  simp only [List.length_cons, List.length_drop] at *
  omega

def ofSource (source : String) : Scan := ofChars 0 source.toList

end Scan

end Formula

end FieldCalc
