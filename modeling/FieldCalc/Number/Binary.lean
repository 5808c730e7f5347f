import FieldCalc.Number.Power

/-!
# Numbers as integers times powers of two

Cell numbers are binary64 floats.  `shape` reads one as an exact integer times a power of two,
`nearest` goes back from an exact quotient to the closest float, and `order?` compares two floats
by their bits.  Whatever the library decides about a number (is it integral, what are its digits,
what is its floor) it decides on these exact integers.
-/

namespace FieldCalc

namespace Number

/-- What a float stands for: no number, an infinity, or `± significand * 2 ^ exponent`. -/
inductive Shape where
  | nan
  | infinite (negative : Bool)
  | finite (negative : Bool) (significand : Nat) (exponent : Int)
deriving DecidableEq, Repr

/-- The shape of a 64-bit word: sign, eleven exponent bits, fifty-two fraction bits. -/
def Shape.ofBits (b : Nat) : Shape :=
  let negative := decide (2 ^ 63 ≤ b)
  let e : Nat := b / 2 ^ 52 % 2 ^ 11
  let fraction := b % 2 ^ 52
  if e = 2047 then if fraction = 0 then .infinite negative else .nan
  else if e = 0 then .finite negative fraction (-1074)
  else .finite negative (2 ^ 52 + fraction) ((e : Int) - 1075)

/-- The shape of a float. -/
def shape (x : Float) : Shape := Shape.ofBits x.toBits.toNat

/-- The float with the given magnitude bits and sign. -/
def ofMagnitude (negative : Bool) (bits : Nat) : Float :=
  Float.ofBits (UInt64.ofNat (if negative then 2 ^ 63 + bits else bits))

def infinity (negative : Bool) : Float := ofMagnitude negative (2047 * 2 ^ 52)

def nan : Float := ofMagnitude false (2047 * 2 ^ 52 + 2 ^ 51)

/-! ## Rounding an exact quotient -/

/-- The quotient `num / den` rounded to the nearest integer, a half to the even neighbour. -/
def roundDiv (num den : Nat) : Nat :=
  let q := num / den
  let r := num % den
  if 2 * r < den then q else if den < 2 * r then q + 1 else q + q % 2

/-- A rounded quotient is at most half a unit away. -/
theorem roundDiv_near (num den : Nat) (h : 0 < den) :
    2 * num ≤ 2 * (den * roundDiv num den) + den ∧
      2 * (den * roundDiv num den) ≤ 2 * num + den := by
  have hd := Nat.div_add_mod num den
  have hl := Nat.mod_lt num h
  unfold roundDiv
  dsimp only
  split
  · omega
  · split
    · rw [Nat.mul_add]; omega
    · rw [Nat.mul_add]
      rcases Nat.mod_two_eq_zero_or_one (num / den) with he | he <;> rw [he] <;> omega

/-- A half goes to the even neighbour. -/
theorem roundDiv_even {num den : Nat} (h : den = 2 * (num % den)) : roundDiv num den % 2 = 0 := by
  unfold roundDiv
  dsimp only
  rw [if_neg (by omega), if_neg (by omega)]
  omega

/-- The power of two that leaves `num / den` fifty-three bits, or the least one there is. -/
def unitExponent (num den : Nat) : Int :=
  let e : Int := (num.log2 : Int) - den.log2 - 52
  let e := if num * 2 ^ (-e).toNat < 2 ^ 52 * (den * 2 ^ e.toNat) then e - 1 else e
  max e (-1074)

/-- The magnitude bits of the float closest to `num / den`; beyond the largest one, infinity's. -/
def nearestBits (num den : Nat) : Nat :=
  if num = 0 then 0
  else
    let e := unitExponent num den
    let k := roundDiv (num * 2 ^ (-e).toNat) (den * 2 ^ e.toNat)
    min ((e + 1074).toNat * 2 ^ 52 + k) (2047 * 2 ^ 52)

/-- The float closest to `± num / den`, a tie going to the even significand. -/
def nearest (negative : Bool) (num den : Nat) : Float := ofMagnitude negative (nearestBits num den)

def ofNat (n : Nat) : Float := nearest false n 1

def ofInt (n : Int) : Float := nearest (decide (n < 0)) n.natAbs 1

/-! ## Order -/

def isNaN (x : Float) : Bool := shape x == .nan

def isFinite (x : Float) : Bool :=
  match shape x with
  | .finite .. => true
  | _ => false

/-- Zero of either sign. -/
def isZero (x : Float) : Bool := x.toBits.toNat % 2 ^ 63 == 0

/-- The place of a float on the number line: its magnitude bits, counted down below zero. -/
def rank (x : Float) : Int :=
  let b := x.toBits.toNat
  if b < 2 ^ 63 then b else -((b : Int) - 2 ^ 63)

/-- The order of two numbers; a NaN has none.  The two zeros are equal. -/
def order? (x y : Float) : Option Ordering :=
  if isNaN x || isNaN y then none else some (compare (rank x) (rank y))

/-! ## Integral parts -/

/-- How the quotient of a magnitude by a unit is brought to an integer. -/
inductive Direction where
  | down
  | up
  | halfAway
  | towardZero

/-- The integer chosen for `± significand / unit`. -/
def Direction.divide (d : Direction) (negative : Bool) (significand unit : Nat) : Nat :=
  let up := (significand + unit - 1) / unit
  let down := significand / unit
  match d with
  | .down => if negative then up else down
  | .up => if negative then down else up
  | .halfAway => (2 * significand + unit) / (2 * unit)
  | .towardZero => down

/-- An integral float near `x`, with the sign of `x`; integral floats and infinities stay. -/
def toIntegral (d : Direction) (x : Float) : Float :=
  match shape x with
  | .finite negative m e =>
    if 0 ≤ e then x else nearest negative (d.divide negative m (2 ^ (-e).toNat)) 1
  | _ => x

/-- The integer part of `± m * 2 ^ e`. -/
def wholePart (negative : Bool) (m : Nat) (e : Int) : Int :=
  let n : Int := (m * 2 ^ e.toNat / 2 ^ (-e).toNat : Nat)
  if negative then -n else n

/-- The integer that a float is, if it is one. -/
def integer? (x : Float) : Option Int :=
  match shape x with
  | .finite negative m e =>
    if m % 2 ^ (-e).toNat = 0 then some (wholePart negative m e) else none
  | _ => none

end Number

end FieldCalc
