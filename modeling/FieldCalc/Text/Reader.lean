import FieldCalc.Number.Power

/-!
# Readers

A reader takes something off the front of a text and returns it with what is left, or refuses.
-/

namespace FieldCalc

namespace Text

/-- Takes an `α` off the front of a text. -/
abbrev Reader (α : Type) := List Char → Option (α × List Char)

namespace Reader

/-- One given character. -/
def char (c : Char) : Reader Unit
  | d :: cs => if d = c then some ((), cs) else none
  | [] => none

/-- The value of a hexadecimal digit. -/
def hexDigit? (c : Char) : Option Nat :=
  if '0' ≤ c ∧ c ≤ '9' then some (c.toNat - '0'.toNat)
  else if 'a' ≤ c ∧ c ≤ 'f' then some (c.toNat - 'a'.toNat + 10)
  else if 'A' ≤ c ∧ c ≤ 'F' then some (c.toNat - 'A'.toNat + 10)
  else none

/-- The value of a run of digits. -/
def digitsValue (ds : List Char) : Nat := ds.foldl (fun n c => n * 10 + (c.toNat - '0'.toNat)) 0

theorem foldl_digits (ds : List Char) (n : Nat) :
    ds.foldl (fun n c => n * 10 + (c.toNat - '0'.toNat)) n =
      n * 10 ^ ds.length + digitsValue ds := by
  induction ds generalizing n with
  | nil => simp [digitsValue]
  | cons c cs ih =>
    rw [digitsValue, List.foldl_cons, List.foldl_cons, ih, ih, List.length_cons, Nat.pow_succ']
    grind

theorem digitsValue_append (as bs : List Char) :
    digitsValue (as ++ bs) = digitsValue as * 10 ^ bs.length + digitsValue bs := by
  rw [digitsValue, List.foldl_append, foldl_digits]
  rfl

/-- The value of a run of digits, a long one cut in halves at most `depth` times. -/
def halvedValue : Nat → List Char → Nat
  | 0, ds => digitsValue ds
  | depth + 1, ds =>
    if ds.length ≤ 64 then digitsValue ds
    else
      let k := ds.length / 2
      halvedValue depth (ds.take k) * 10 ^ (ds.length - k) + halvedValue depth (ds.drop k)

theorem halvedValue_eq_digitsValue (depth : Nat) (ds : List Char) :
    halvedValue depth ds = digitsValue ds := by
  induction depth generalizing ds with
  | zero => rfl
  | succ depth ih =>
    unfold halvedValue
    split
    · rfl
    · dsimp only
      rw [ih, ih, ← List.length_drop, ← digitsValue_append, List.take_append_drop]

/-- The value of a run of digits that may be long. -/
def longValue (ds : List Char) : Nat := halvedValue ds.length.log2 ds

/-- A nonempty run of digits. -/
def digits : Reader (List Char) := fun cs =>
  match cs.takeWhile Char.isDigit with
  | [] => none
  | ds => some (ds, cs.dropWhile Char.isDigit)

/-- A number of one digit or more, of which at most `width` are taken. -/
def numberUpTo (width : Nat) : Reader Nat := fun cs =>
  match (cs.take width).takeWhile Char.isDigit with
  | [] => none
  | ds => some (digitsValue ds, cs.drop ds.length)

/-- A number of exactly `width` digits. -/
def numberOf (width : Nat) : Reader Nat := fun cs =>
  let ds := cs.take width
  if ds.length = width ∧ ds.all Char.isDigit then some (digitsValue ds, cs.drop width) else none

/-- The value of a whole text. -/
def all? {α : Type} (r : Reader α) (cs : List Char) : Option α :=
  match r cs with
  | some (a, []) => some a
  | _ => none

end Reader

end Text

end FieldCalc
