import FieldCalc.Number.Binary
import FieldCalc.Text.Reader

/-!
# Numerals

Decimal texts of numbers: an optional sign, digits with at most one point, at least one digit in
all, and an optional exponent.  A numeral is read exactly and then rounded once, so the float is
the closest one to what is written.
-/

namespace FieldCalc

namespace Number

open Text (Reader)

/-- What a numeral says: `± digits * 10 ^ exponent`. -/
structure Numeral where
  negative : Bool
  digits : Nat
  exponent : Int
deriving DecidableEq, Repr

/-! ### Parts of numerals -/

/-- A leading sign: whether it is a minus, and what follows. -/
def readSign : List Char → Bool × List Char
  | '-' :: cs => (true, cs)
  | '+' :: cs => (false, cs)
  | cs => (false, cs)

def signed (negative : Bool) (n : Nat) : Int := if negative then -n else n

/-- The digits after a point, if there is a point. -/
def readFraction (digits : Reader (List Char)) : Reader (Option (List Char))
  | '.' :: cs => (digits cs).map fun (ds, cs) => (some ds, cs)
  | cs => some (none, cs)

/-- The sign and the digits after an exponent's letter, if there is one. -/
def readPower (digits : Reader (List Char)) : Reader (Option (Bool × List Char))
  | c :: cs =>
    if c = 'e' ∨ c = 'E' then
      let (negative, cs) := readSign cs
      (digits cs).map fun (ds, cs) => (some (negative, ds), cs)
    else some (none, c :: cs)
  | [] => some (none, [])

/-- The value of an exponent's digits.  No more are taken once it has reached `2^16`. -/
def exponentValue (ds : List Char) : Nat :=
  ds.foldl (fun n c => if n < 2 ^ 16 then n * 10 + (c.toNat - '0'.toNat) else n) 0

/-- The exponent that a sign and digits spell; where there are none it is zero. -/
def exponentOf : Option (Bool × List Char) → Int
  | some (negative, ds) => signed negative (exponentValue ds)
  | none => 0

namespace Numeral

/-- The numeral that a text spells, with nothing before or after it. -/
def read? (cs : List Char) : Option Numeral :=
  let (negative, cs) := readSign cs
  let whole := cs.takeWhile Char.isDigit
  let cs := cs.dropWhile Char.isDigit
  let (fraction, cs) := match cs with
    | '.' :: r => (r.takeWhile Char.isDigit, r.dropWhile Char.isDigit)
    | cs => ([], cs)
  if whole = [] ∧ fraction = [] then none
  else ((readPower Reader.digits).all? cs).map fun power =>
    ⟨negative, Reader.longValue (whole ++ fraction), exponentOf power - fraction.length⟩

/-- The float closest to a numeral.  Far beyond either end of the floats no power is formed. -/
def toFloat (n : Numeral) : Float :=
  if n.digits = 0 then ofMagnitude n.negative 0
  else
    let lead := n.exponent + (n.digits.log2 * 30103 / 100000 : Nat)
    if 400 < lead then infinity n.negative
    else if lead < -400 then ofMagnitude n.negative 0
    else nearest n.negative (n.digits * 10 ^ n.exponent.toNat) (10 ^ (-n.exponent).toNat)

end Numeral

end Number

end FieldCalc
