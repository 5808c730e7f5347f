import FieldCalc.Dictionary
import FieldCalc.Number.Binary

/-!
# JSON documents

The documents that records and fields are stored as.  An integer between `-2^63` and `2^64` keeps
all its digits; every other number is a float.  A document as read keeps the members of its
objects as they were written; its canonical form has them in the order of their keys, the last one
of several with the same key.
-/

namespace FieldCalc

inductive Json where
  | null
  | bool (b : Bool)
  | int (n : Int)
  | float (x : Float)
  | str (s : String)
  | arr (items : List Json)
  | obj (members : List (String × Json))

instance : Inhabited Json := ⟨.null⟩

namespace Json

/-! ### Canonical form -/

mutual

/-- The same document with the members of its objects in order and without repetition. -/
def canonical : Json → Json
  | .arr items => .arr (canonicalItems items)
  | .obj members => .obj (Dictionary.ofList (canonicalMembers members))
  | j => j

def canonicalItems : List Json → List Json
  | [] => []
  | j :: js => j.canonical :: canonicalItems js

def canonicalMembers : List (String × Json) → List (String × Json)
  | [] => []
  | (k, j) :: ms => (k, j.canonical) :: canonicalMembers ms

end

theorem canonicalItems_eq_map (js : List Json) : canonicalItems js = js.map canonical := by
  induction js with
  | nil => rfl
  | cons j js ih => rw [canonicalItems, ih, List.map_cons]

theorem canonicalMembers_eq_map (ms : List (String × Json)) :
    canonicalMembers ms = ms.map fun m => (m.1, m.2.canonical) := by
  induction ms with
  | nil => rfl
  | cons m ms ih => rw [canonicalMembers, ih, List.map_cons]

/-! ### Sameness -/

mutual

/-- Whether two documents are the same.  Floats are compared as numbers, and an integer is never
the same as a float. -/
def same : Json → Json → Bool
  | .null, .null => true
  | .bool a, .bool b => a == b
  | .int m, .int n => m == n
  | .float x, .float y => Number.order? x y == some .eq
  | .str s, .str t => s == t
  | .arr xs, .arr ys => sameItems xs ys
  | .obj xs, .obj ys => sameMembers xs ys
  | _, _ => false

def sameItems : List Json → List Json → Bool
  | [], [] => true
  | x :: xs, y :: ys => x.same y && sameItems xs ys
  | _, _ => false

def sameMembers : List (String × Json) → List (String × Json) → Bool
  | [], [] => true
  | (k, x) :: xs, (l, y) :: ys => k == l && x.same y && sameMembers xs ys
  | _, _ => false

end

/-! ### Views -/

def str? : Json → Option String
  | .str s => some s
  | _ => none

/-- The member of an object. -/
def member? (j : Json) (k : String) : Option Json :=
  match j with
  | .obj members => Dictionary.get? members k
  | _ => none

end Json

end FieldCalc
