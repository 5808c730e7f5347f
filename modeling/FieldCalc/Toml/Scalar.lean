import FieldCalc.Calendar.DateText
import FieldCalc.Json.Reader
import FieldCalc.Toml.Basic

/-!
# TOML scalars

Truth values, dates, floats and integers.  A number may have a single underscore between two
digits, and no zero before its first digit.  Floats do not reach beyond the largest one upwards,
integers have 64 bits, and dates are those of the calendar.
-/

namespace FieldCalc

namespace Toml

open Text (Reader)

/-! ### Digits -/

/-- Digits from the second one on, each of them after an underscore or not. -/
def moreDigits (isDigit : Char → Bool) : List Char → List Char × List Char
  | '_' :: c :: cs =>
    if isDigit c then
      let (ds, r) := moreDigits isDigit cs
      (c :: ds, r)
    else ([], '_' :: c :: cs)
  | c :: cs =>
    if isDigit c then
      let (ds, r) := moreDigits isDigit cs
      (c :: ds, r)
    else ([], c :: cs)
  | [] => ([], [])

/-- A nonempty run of digits, without its underscores. -/
def readDigits (isDigit : Char → Bool) : Reader (List Char)
  | c :: cs =>
    if isDigit c then
      let (ds, r) := moreDigits isDigit cs
      some (c :: ds, r)
    else none
  | [] => none

/-- The digits of a whole number, which is zero or does not begin with a zero. -/
def readWhole : Reader (List Char)
  | '0' :: cs => some (['0'], cs)
  | cs => readDigits Char.isDigit cs

/-! ### Numbers -/

/-- A number with a fraction or an exponent. -/
def readFloat : Reader Unit := fun cs => do
  let digits := readDigits Char.isDigit
  let (negative, cs) := Number.readSign cs
  let (whole, cs) ← readWhole cs
  let (fraction, cs) ← Number.readFraction digits cs
  let (power, cs) ← Number.readPower digits cs
  if fraction.isNone && power.isNone then none
  else
    let fraction := fraction.getD []
    let n : Number.Numeral :=
      ⟨negative, Reader.longValue (whole ++ fraction), Number.exponentOf power - fraction.length⟩
    if Number.shape n.toFloat == .infinite false then none else return ((), cs)

/-- An infinity, or what is no number. -/
def readNonfinite : Reader Unit := fun cs =>
  match (Number.readSign cs).2 with
  | 'i' :: 'n' :: 'f' :: cs => some ((), cs)
  | 'n' :: 'a' :: 'n' :: cs => some ((), cs)
  | _ => none

/-- A whole number without a sign, in another base than ten. -/
def readBased (base : Nat) : Reader Unit := fun cs => do
  let below (c : Char) : Bool := (Reader.hexDigit? c).any fun d => decide (d < base)
  let (ds, cs) ← readDigits below cs
  let n := ds.foldl (fun n c => n * base + (Reader.hexDigit? c).getD 0) 0
  if n < 2 ^ 63 then return ((), cs) else none

/-- A whole number. -/
def readInteger : Reader Unit
  | '0' :: 'x' :: cs => readBased 16 cs
  | '0' :: 'o' :: cs => readBased 8 cs
  | '0' :: 'b' :: cs => readBased 2 cs
  | cs => do
    let (negative, cs) := Number.readSign cs
    let (ds, cs) ← readWhole cs
    let n := Reader.longValue ds
    if n < 2 ^ 63 ∨ negative ∧ n = 2 ^ 63 then return ((), cs) else none

/-! ### Dates -/

/-- A reader that may leave the text as it is. -/
def optionally (r : Reader Unit) : Reader Unit := fun cs => some ((r cs).getD ((), cs))

/-- A time of day behind a date, perhaps with an offset from universal time. -/
def readTimeAfterDate : Reader Unit := fun cs => do
  let (_, cs) ← DateText.separator cs
  let (_, cs) ← DateText.strictTime cs
  optionally (DateText.offset ['+', '-']) cs

/-- A date, perhaps with a time of day, or a time of day alone. -/
def readDate : Reader Unit := fun cs =>
  match DateText.strictDate cs with
  | some (_, cs) => optionally readTimeAfterDate cs
  | none => DateText.strictTime cs

/-! ### All scalars -/

/-- A truth value, or a number or a date, whose value is not kept. -/
def readScalar : Reader Toml
  | 't' :: 'r' :: 'u' :: 'e' :: cs => some (.boolean true, cs)
  | 'f' :: 'a' :: 'l' :: 's' :: 'e' :: cs => some (.boolean false, cs)
  | cs =>
    ([readDate, readFloat, readNonfinite, readInteger].findSome? fun form => form cs).map
      fun (_, cs) => (.scalar, cs)

end Toml

end FieldCalc
