import FieldCalc.Json.Basic
import FieldCalc.Number.Numeral
import FieldCalc.Text.Reader

/-!
# Reading JSON

One document and nothing but blanks around it.  Containers may be nested 127 deep.  The digits of a
number that is no integer are taken into a significand below `2^64`, later ones are dropped, and
one power of ten scales it; a number beyond the floats is refused.
-/

namespace FieldCalc

namespace Json

open Text (Reader)

def isSpace (c : Char) : Bool := c == ' ' || c == '\n' || c == '\t' || c == '\r'

def skipSpace (cs : List Char) : List Char := cs.dropWhile isSpace

/-! ### Strings -/

/-- Four hexadecimal digits. -/
def readUnit : Reader Nat
  | a :: b :: c :: d :: cs => do
    let a ← Reader.hexDigit? a
    let b ← Reader.hexDigit? b
    let c ← Reader.hexDigit? c
    let d ← Reader.hexDigit? d
    return (((a * 16 + b) * 16 + c) * 16 + d, cs)
  | _ => none

/-- The character that `\u` and what follows it stand for; surrogates come in pairs. -/
def readCodePoint (cs : List Char) : Option (Char × List Char) := do
  let (high, cs) ← readUnit cs
  if 0xd800 ≤ high ∧ high < 0xdc00 then
    match cs with
    | '\\' :: 'u' :: cs =>
      let (low, cs) ← readUnit cs
      if 0xdc00 ≤ low ∧ low < 0xe000 then
        return (Char.ofNat (0x10000 + (high - 0xd800) * 0x400 + (low - 0xdc00)), cs)
      else none
    | _ => none
  else if 0xdc00 ≤ high ∧ high < 0xe000 then none
  else return (Char.ofNat high, cs)

/-- The character that an escape stands for, after its backslash. -/
def readEscape : Reader Char
  | '"' :: cs => some ('"', cs)
  | '\\' :: cs => some ('\\', cs)
  | '/' :: cs => some ('/', cs)
  | 'b' :: cs => some ('\x08', cs)
  | 'f' :: cs => some ('\x0c', cs)
  | 'n' :: cs => some ('\n', cs)
  | 'r' :: cs => some ('\r', cs)
  | 't' :: cs => some ('\t', cs)
  | 'u' :: cs => readCodePoint cs
  | _ => none

/-- The characters of a string up to its closing quote.  `fuel` bounds their number. -/
def readChars : Nat → Reader (List Char)
  | 0, _ => none
  | _ + 1, [] => none
  | fuel + 1, c :: cs =>
    if c = '"' then some ([], cs)
    else if c = '\\' then do
      let (c, cs) ← readEscape cs
      let (r, cs) ← readChars fuel cs
      return (c :: r, cs)
    else if c.toNat < 0x20 then none
    else do
      let (r, cs) ← readChars fuel cs
      return (c :: r, cs)

/-- A string after its opening quote. -/
def readString : Reader String := fun cs => do
  let (s, cs) ← readChars cs.length cs
  return (String.ofList s, cs)

/-! ### Numbers -/

/-- Takes digits into a significand while it stays below `2^64`; also the digits left over. -/
def takeDigits (significand : Nat) : List Char → Nat × List Char
  | [] => (significand, [])
  | c :: cs =>
    let next := significand * 10 + (c.toNat - '0'.toNat)
    if next < 2 ^ 64 then takeDigits next cs else (significand, c :: cs)

/-- The float `x * 10 ^ exponent` in one scaling, or in steps of `10^308` down towards zero. -/
def scaleDown : Nat → Float → Int → Float
  | 0, x, _ => x
  | fuel + 1, x, exponent =>
    if -308 ≤ exponent then x / Number.ofNat (10 ^ (-exponent).toNat)
    else if Number.isZero x then x
    else scaleDown fuel (x / Number.ofNat (10 ^ 308)) (exponent + 308)

/-- The float `significand * 10 ^ exponent`, unless it is too large. -/
def scaled? (significand : Nat) (exponent : Int) : Option Float :=
  let x := Number.ofNat significand
  if exponent < 0 then some (scaleDown 5 x exponent)
  else if significand = 0 then some x
  else if 308 < exponent then none
  else
    let y := x * Number.ofNat (10 ^ exponent.toNat)
    if Number.isFinite y then some y else none

/-- The digits before a point: a single zero, or a run that does not begin with one. -/
def readWhole : Reader (List Char)
  | '0' :: cs =>
    match cs with
    | c :: _ => if c.isDigit then none else some (['0'], cs)
    | [] => some (['0'], cs)
  | cs => Reader.digits cs

/-- A number with a point, an exponent or too many digits. -/
def float? (negative : Bool) (whole fraction : List Char) (power : Int) : Option Json := do
  let (significand, dropped) := takeDigits 0 whole
  let (significand, left) := takeDigits significand fraction
  let x ← scaled? significand (power + dropped.length - (fraction.length - left.length : Nat))
  return .float (if negative then -x else x)

/-- A number: its sign is read already. -/
def readNumber (negative : Bool) : Reader Json := fun cs => do
  let (whole, cs) ← readWhole cs
  let (fraction, cs) ← Number.readFraction Reader.digits cs
  let (power, cs) ← Number.readPower Reader.digits cs
  let n := Reader.longValue whole
  if fraction.isNone && power.isNone && !negative && decide (n < 2 ^ 64) then
    return (.int n, cs)
  else if fraction.isNone && power.isNone && negative && decide (0 < n ∧ n ≤ 2 ^ 63) then
    return (.int (-n), cs)
  else
    let power := power.elim 0 fun (minus, ds) => Number.signed minus (Reader.longValue ds)
    let j ← float? negative whole (fraction.getD []) power
    return (j, cs)

/-! ### Documents -/

/-- The parts of a container up to its closing bracket.  `fuel` bounds their number. -/
def readParts {α : Type} (close : Char) (part : Reader α) : Nat → Reader (List α)
  | 0, _ => none
  | fuel + 1, cs => do
    let (a, cs) ← part cs
    match skipSpace cs with
    | [] => none
    | c :: cs =>
      if c = close then return ([a], cs)
      else if c = ',' then do
        let (as, cs) ← readParts close part fuel cs
        return (a :: as, cs)
      else none

/-- A container after its opening bracket. -/
def readContainer {α : Type} (close : Char) (part : Reader α) : Reader (List α) := fun cs =>
  match skipSpace cs with
  | [] => none
  | c :: r => if c = close then some ([], r) else readParts close part cs.length (c :: r)

/-- A key, a colon and a value, which may be read differently under each key. -/
def readMember (value : String → Reader Json) : Reader (String × Json) := fun cs =>
  match skipSpace cs with
  | '"' :: cs => do
    let (k, cs) ← readString cs
    match skipSpace cs with
    | ':' :: cs =>
      let (j, cs) ← value k cs
      return ((k, j), cs)
    | _ => none
  | _ => none

/-- A number, a string or a word. -/
def readScalar : Reader Json
  | '"' :: cs => do
    let (s, cs) ← readString cs
    return (.str s, cs)
  | '-' :: cs => readNumber true cs
  | 'n' :: 'u' :: 'l' :: 'l' :: cs => some (.null, cs)
  | 't' :: 'r' :: 'u' :: 'e' :: cs => some (.bool true, cs)
  | 'f' :: 'a' :: 'l' :: 's' :: 'e' :: cs => some (.bool false, cs)
  | cs => readNumber false cs

/-- A value with containers nested at most `depth` deep. -/
def readValue : Nat → Reader Json
  | 0, cs =>
    match skipSpace cs with
    | '[' :: _ => none
    | '\x7b' :: _ => none
    | cs => readScalar cs
  | depth + 1, cs =>
    match skipSpace cs with
    | '[' :: cs => do
      let (items, cs) ← readContainer ']' (readValue depth) cs
      return (.arr items, cs)
    | '\x7b' :: cs => do
      let (members, cs) ← readContainer '\x7d' (readMember fun _ => readValue depth) cs
      return (.obj members, cs)
    | cs => readScalar cs

/-- How deep containers may be nested. -/
def maxDepth : Nat := 127

/-- The document that a text spells, in canonical form. -/
def read? (s : String) : Option Json := do
  let (j, cs) ← readValue maxDepth s.toList
  if skipSpace cs = [] then return j.canonical else none

end Json

end FieldCalc
