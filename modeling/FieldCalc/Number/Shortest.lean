import FieldCalc.Number.Binary

/-!
# Shortest decimals

The decimal with the fewest digits that rounds back to a given magnitude `m * 2 ^ e`, and among
those the closest one.  The reals that round to a magnitude form an interval, closed exactly when
`m` is even; a decimal grid is tried for one digit, then two, up to seventeen, and on each grid
only the two neighbours of the magnitude can lie in the interval.  Everything is compared by
cross-multiplying naturals.
-/

namespace FieldCalc

namespace Number

/-- The decimal `digits * 10 ^ exponent`. -/
structure Decimal where
  digits : Nat
  exponent : Int
deriving DecidableEq, Repr

/-- Where a decimal halfway between two candidates goes. -/
inductive Tie where
  | toEven
  | away
deriving DecidableEq, Repr

/-- The order of `a * 10 ^ i` and `n * 2 ^ j`. -/
def compareScaled (a : Nat) (i : Int) (n : Nat) (j : Int) : Ordering :=
  compare (a * 10 ^ i.toNat * 2 ^ (-j).toNat) (n * 2 ^ j.toNat * 10 ^ (-i).toNat)

/-- Whether a decimal lies among the reals that round to the magnitude `m * 2 ^ e`. -/
def Decimal.readsBack (m : Nat) (e : Int) (d : Decimal) : Bool :=
  let narrow := m == 2 ^ 52 && decide (-1074 < e)
  let low := if narrow then 4 * m - 1 else 4 * m - 2
  let high := 4 * m + 2
  let closed := m % 2 == 0
  let below := compareScaled d.digits d.exponent low (e - 2)
  let above := compareScaled d.digits d.exponent high (e - 2)
  (below == .gt || closed && below == .eq) && (above == .lt || closed && above == .eq)

/-- The least `k` with `m * 2 ^ e < 10 ^ k`, started from the binary logarithm. -/
def decimalScale (m : Nat) (e : Int) : Int :=
  let start : Int := (m.log2 + e) * 30103 / 100000
  if compareScaled 1 start m e == .gt then start
  else if compareScaled 1 (start + 1) m e == .gt then start + 1
  else start + 2

/-- The candidate with `n` digits, if one of the magnitude's two neighbours on that grid fits. -/
def candidate? (tie : Tie) (m : Nat) (e k : Int) (n : Nat) : Option Decimal :=
  let grid := k - n
  let num := m * 2 ^ e.toNat * 10 ^ (-grid).toNat
  let den := 2 ^ (-e).toNat * 10 ^ grid.toNat
  let d := num / den
  let below : Decimal := ⟨d, grid⟩
  let above : Decimal := ⟨d + 1, grid⟩
  match below.readsBack m e, above.readsBack m e with
  | true, true =>
    match compare (2 * num) ((2 * d + 1) * den) with
    | .lt => some below
    | .gt => some above
    | .eq => if tie = .toEven ∧ d % 2 = 0 then some below else some above
  | true, false => some below
  | false, true => some above
  | false, false => none

/-- The same decimal without trailing zeros, at most `fuel` of them taken off. -/
def Decimal.strip : Nat → Decimal → Decimal
  | 0, d => d
  | fuel + 1, d => if d.digits % 10 = 0 then strip fuel ⟨d.digits / 10, d.exponent + 1⟩ else d

/-- Every digit of the magnitude `m * 2 ^ e`. -/
def Decimal.exact (m : Nat) (e : Int) : Decimal :=
  if 0 ≤ e then ⟨m * 2 ^ e.toNat, 0⟩ else ⟨m * 5 ^ (-e).toNat, e⟩

/-- The shortest decimal of a positive magnitude, and the nearest of the shortest ones. -/
def shortest (tie : Tie) (m : Nat) (e : Int) : Decimal :=
  let k := decimalScale m e
  match (List.range' 1 17).findSome? (candidate? tie m e k) with
  | some d => d.strip 17
  | none => Decimal.exact m e

end Number

end FieldCalc
