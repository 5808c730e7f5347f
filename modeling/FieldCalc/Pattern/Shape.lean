import FieldCalc.Pattern.Characters
import FieldCalc.Pattern.Tree

/-!
# Shapes

What a pattern matches, without the ways to write it.  Shapes are built by functions that simplify:
literals behind one another are one literal, alternatives that are all single characters are one
set, and what all alternatives begin with stands in front of them.
-/

namespace FieldCalc

namespace Pattern

open Text (Ranges)

/-- A place between characters. -/
inductive Place where
  | textStart
  | textStop
  | lineStart (crlf : Bool)
  | lineStop (crlf : Bool)
  | boundary (b : Boundary) (unicode : Bool)
deriving DecidableEq, Repr

inductive Shape where
  | empty
  | literal (cs : List Char)
  | characters (unicode : Bool) (set : Ranges)
  | place (p : Place)
  | repetition (count : Count) (part : Shape)
  | capture (part : Shape)
  | concatenation (parts : List Shape)
  | alternation (parts : List Shape)

namespace Shape

/-! ### Lengths of matches -/

mutual

/-- Whether every match is empty. -/
def isZeroWidth : Shape → Bool
  | .empty => true
  | .literal _ => false
  | .characters _ _ => false
  | .place _ => true
  | .repetition _ t => t.isZeroWidth
  | .capture t => t.isZeroWidth
  | .concatenation ts => areZeroWidth ts
  | .alternation ts => areZeroWidth ts

def areZeroWidth : List Shape → Bool
  | [] => true
  | t :: ts => t.isZeroWidth && areZeroWidth ts

end

theorem areZeroWidth_eq_all (ts : List Shape) : areZeroWidth ts = ts.all isZeroWidth := by
  induction ts with
  | nil => rfl
  | cons t ts ih => simp [areZeroWidth, ih]

mutual

/-- The length in bytes of the shortest matches; none if a part matches nothing at all. -/
def leastLength? : Shape → Option Nat
  | .empty => some 0
  | .literal cs => some (cs.foldl (fun n c => n + c.utf8Size) 0)
  | .characters _ set => set.head?.map fun r => (Char.ofNat r.1).utf8Size
  | .place _ => some 0
  | .repetition count t => t.leastLength?.map (count.low * ·)
  | .capture t => t.leastLength?
  | .concatenation ts => leastSum? 0 ts
  | .alternation ts => least? none ts

/-- The least length of parts behind one another, added to a number. -/
def leastSum? (sum : Nat) : List Shape → Option Nat
  | [] => some sum
  | t :: ts =>
    match t.leastLength? with
    | some n => leastSum? (sum + n) ts
    | none => none

/-- The least length of alternatives, if it is less than that of those before. -/
def least? (before : Option Nat) : List Shape → Option Nat
  | [] => before
  | t :: ts =>
    match t.leastLength? with
    | some n => least? (some (min (before.getD n) n)) ts
    | none => none

end

/-- Whether every match takes characters. -/
def consumes (t : Shape) : Bool := t.leastLength?.any (0 < ·)

/-! ### Anchors -/

mutual

/-- Whether every match begins at the start of the text. -/
def isAnchored : Shape → Bool
  | .place p => p == .textStart
  | .repetition count t => decide (0 < count.low) && t.isAnchored
  | .capture t => t.isAnchored
  | .concatenation ts => beginsAnchored ts
  | .alternation ts => areAnchored ts
  | _ => false

/-- Parts in front that match nothing do not matter. -/
def beginsAnchored : List Shape → Bool
  | [] => false
  | t :: ts => t.isAnchored || (t.isZeroWidth && beginsAnchored ts)

def areAnchored : List Shape → Bool
  | [] => true
  | t :: ts => t.isAnchored && areAnchored ts

end

theorem areAnchored_eq_all (ts : List Shape) : areAnchored ts = ts.all isAnchored := by
  induction ts with
  | nil => rfl
  | cons t ts ih => simp [areAnchored, ih]

/-! ### Equality -/

mutual

/-- Whether two parts of a pattern are the same.  A capture is the same as no other. -/
def isSame : Shape → Shape → Bool
  | .empty, .empty => true
  | .literal cs, .literal ds => cs == ds
  | .characters u rs, .characters v ss => u == v && rs == ss
  | .place p, .place q => p == q
  | .repetition c s, .repetition d t => c == d && s.isSame t
  | .concatenation ss, .concatenation ts => areSame ss ts
  | .alternation ss, .alternation ts => areSame ss ts
  | _, _ => false

def areSame : List Shape → List Shape → Bool
  | [], [] => true
  | s :: ss, t :: ts => s.isSame t && areSame ss ts
  | _, _ => false

end

/-- How many parts two lists have in common from the front. -/
def commonLength : List Shape → List Shape → Nat
  | s :: ss, t :: ts => if s.isSame t then commonLength ss ts + 1 else 0
  | _, _ => 0

/-! ### Building -/

/-- A shape that matches nothing. -/
def nothing : Shape := .characters false []

/-- One character of a set. -/
def ofSet (unicode : Bool) (set : Ranges) : Shape :=
  match set with
  | [] => nothing
  | [(l, h)] => if l = h then .literal [Char.ofNat l] else .characters unicode set
  | _ => .characters unicode set

/-- A part repeated.  An empty match is not repeated. -/
def repeated (count : Count) (t : Shape) : Shape :=
  let count := if t.isZeroWidth then
      { count with low := min count.low 1, high? := some (min (count.high?.getD 1) 1) }
    else count
  if count.high? = some 0 then .empty
  else if count.low = 1 ∧ count.high? = some 1 then t
  else .repetition count t

/-- The parts of a concatenation. -/
def parts : Shape → List Shape
  | .empty => []
  | .concatenation ts => ts
  | t => [t]

/-- A part in front of others, where literals are one. -/
def inFront (t : Shape) (ts : List Shape) : List Shape :=
  match t, ts with
  | .literal cs, .literal ds :: us => .literal (cs ++ ds) :: us
  | _, _ => t :: ts

def concat (ts : List Shape) : Shape :=
  match (ts.flatMap parts).foldr inFront [] with
  | [] => .empty
  | [t] => t
  | us => .concatenation us

/-- The alternatives of an alternation. -/
def alternatives : Shape → List Shape
  | .alternation ts => ts
  | t => [t]

/-- The character that is all of a shape, as a set. -/
def character? : Shape → Option Ranges
  | .literal [c] => some [(c.toNat, c.toNat)]
  | _ => none

def set? : Shape → Option Ranges
  | .characters _ set => some set
  | _ => none

def concatenated? : Shape → Option (List Shape)
  | .concatenation ts => some ts
  | _ => none

/-- Alternatives; `fuel` bounds how often what they begin with is put in front of them. -/
def alternateFrom : Nat → List Shape → Shape
  | 0, ts => .alternation ts
  | fuel + 1, ts =>
    match ts.flatMap alternatives with
    | [] => nothing
    | [t] => t
    | ts =>
      match (ts.mapM character?).or (ts.mapM set?) with
      | some sets => ofSet true (Characters.union sets)
      | none =>
        match ts.mapM concatenated? with
        | some (xs :: yss) =>
          let n := yss.foldl (fun n ys => commonLength (xs.take n) ys) xs.length
          if n = 0 then .alternation ts
          else
            let rests := (xs :: yss).map fun ys => concat (ys.drop n)
            concat (xs.take n ++ [alternateFrom fuel rests])
        | _ => .alternation ts

mutual

/-- The number of parts, and parts of parts, added to a number. -/
def weight (n : Nat) : Shape → Nat
  | .repetition _ t => t.weight (n + 1)
  | .capture t => t.weight (n + 1)
  | .concatenation ts => weights (n + 1) ts
  | .alternation ts => weights (n + 1) ts
  | _ => n + 1

def weights (n : Nat) : List Shape → Nat
  | [] => n
  | t :: ts => weights (t.weight n) ts

end

def alternate (ts : List Shape) : Shape := alternateFrom (weights 1 ts) ts

/-! ### Mirroring -/

mutual

/-- The shape with its parts in the opposite order, for matching backwards: the ends of the text
change places, literals are left to be read backwards. -/
def mirror : Shape → Shape
  | .place .textStart => .place .textStop
  | .place .textStop => .place .textStart
  | .repetition count t => .repetition count t.mirror
  | .capture t => .capture t.mirror
  | .concatenation ts => .concatenation (mirrorOnto [] ts)
  | .alternation ts => .alternation (mirrorOnto [] ts).reverse
  | t => t

/-- The mirrored parts, the last first, in front of others. -/
def mirrorOnto (done : List Shape) : List Shape → List Shape
  | [] => done
  | t :: ts => mirrorOnto (t.mirror :: done) ts

end

theorem mirrorOnto_eq_map (done ts : List Shape) :
    mirrorOnto done ts = (ts.map mirror).reverse ++ done := by
  induction ts generalizing done with
  | nil => rfl
  | cons t ts ih => simp [mirrorOnto, ih]

end Shape

end Pattern

end FieldCalc
