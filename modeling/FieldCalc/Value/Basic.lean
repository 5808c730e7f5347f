import FieldCalc.Dictionary
import FieldCalc.Json.Basic

/-!
# Cell values

What a cell holds and a formula computes with: nothing, a truth value, a number, a text, a list or
an object.  Stored documents become values with every number a float.  On the way back integral
numbers up to `2^53 - 1` are written as integers, and what is no finite number as `null`.
-/

namespace FieldCalc

inductive Value where
  | null
  | bool (b : Bool)
  | number (x : Float)
  | text (s : String)
  | list (items : List Value)
  | object (members : List (String × Value))

instance : Inhabited Value := ⟨.null⟩

namespace Value

/-- The name of a value's kind. -/
def kind : Value → String
  | .null => "null"
  | .bool _ => "boolean"
  | .number _ => "number"
  | .text _ => "text"
  | .list _ => "array"
  | .object _ => "object"

def isNull : Value → Bool
  | .null => true
  | _ => false

/-! ### Documents -/

mutual

/-- The value that a stored document stands for. -/
def ofJson : Json → Value
  | .null => .null
  | .bool b => .bool b
  | .int n => .number (Number.ofInt n)
  | .float x => .number x
  | .str s => .text s
  | .arr items => .list (ofItems items)
  | .obj members => .object (ofMembers members)

def ofItems : List Json → List Value
  | [] => []
  | j :: js => ofJson j :: ofItems js

def ofMembers : List (String × Json) → List (String × Value)
  | [] => []
  | (k, j) :: ms => (k, ofJson j) :: ofMembers ms

end

theorem ofItems_eq_map (js : List Json) : ofItems js = js.map ofJson := by
  induction js with
  | nil => rfl
  | cons j js ih => rw [ofItems, ih, List.map_cons]

theorem ofMembers_eq_map (ms : List (String × Json)) :
    ofMembers ms = ms.map fun m => (m.1, ofJson m.2) := by
  induction ms with
  | nil => rfl
  | cons m ms ih => rw [ofMembers, ih, List.map_cons]

/-- A number as it is stored. -/
def numberJson (x : Float) : Json :=
  match Number.integer? x with
  | some n => if n.natAbs < 2 ^ 53 then .int n else .float x
  | none => if Number.isFinite x then .float x else .null

mutual

/-- The document that a value is stored as. -/
def toJson : Value → Json
  | .null => .null
  | .bool b => .bool b
  | .number x => numberJson x
  | .text s => .str s
  | .list items => .arr (toItems items)
  | .object members => .obj (toMembers members)

def toItems : List Value → List Json
  | [] => []
  | v :: vs => v.toJson :: toItems vs

def toMembers : List (String × Value) → List (String × Json)
  | [] => []
  | (k, v) :: ms => (k, v.toJson) :: toMembers ms

end

theorem toItems_eq_map (vs : List Value) : toItems vs = vs.map toJson := by
  induction vs with
  | nil => rfl
  | cons v vs ih => rw [toItems, ih, List.map_cons]

theorem toMembers_eq_map (ms : List (String × Value)) :
    toMembers ms = ms.map fun m => (m.1, m.2.toJson) := by
  induction ms with
  | nil => rfl
  | cons m ms ih => rw [toMembers, ih, List.map_cons]

end Value

end FieldCalc
