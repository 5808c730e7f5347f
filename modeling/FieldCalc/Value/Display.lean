import FieldCalc.Json.Writer
import FieldCalc.Value.Basic

/-!
# Display

How a cell shows its value: integral numbers below `10^15` without a point, other numbers rounded
to ten places with the trailing zeros taken off, and the items of a list on lines of their own.
-/

namespace FieldCalc

namespace Value

/-- A text without the trailing run of a character. -/
def stripTrailing (c : Char) (cs : List Char) : List Char :=
  (cs.reverse.dropWhile (· == c)).reverse

/-- A number as a cell shows it. -/
def displayNumber (x : Float) : String :=
  match Number.shape x with
  | .nan => "#NAN!"
  | .infinite _ => "#INF!"
  | .finite negative m e =>
    match Number.integer? x with
    | some n =>
      if n.natAbs < 10 ^ 15 then String.ofList (Number.fixed 0 negative m e)
      else String.ofList (stripTrailing '.' (stripTrailing '0' (Number.fixed 10 negative m e)))
    | none => String.ofList (stripTrailing '.' (stripTrailing '0' (Number.fixed 10 negative m e)))

mutual

/-- A value as a cell shows it. -/
def display : Value → String
  | .null => ""
  | .bool b => if b then "TRUE" else "FALSE"
  | .number x => displayNumber x
  | .text s => s
  | .list items => "\n".intercalate (displays items)
  | .object members => (toJson (.object members)).compact

def displays : List Value → List String
  | [] => []
  | v :: vs => v.display :: displays vs

end

theorem displays_eq_map (vs : List Value) : displays vs = vs.map display := by
  induction vs with
  | nil => rfl
  | cons v vs ih => rw [displays, ih, List.map_cons]

end Value

end FieldCalc
