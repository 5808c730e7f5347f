import FieldCalc.Pattern.SetStates
import FieldCalc.Pattern.Shape
import FieldCalc.Pattern.Trie
import FieldCalc.Pattern.Words

/-!
# Automata of patterns

The automaton of a pattern as far as its size: the states of its parts and the links between them.
A part that ends in a fork holds the link to what follows it.
-/

namespace FieldCalc

namespace Pattern

open Text (Ranges)

/-! ### Repetition -/

/-- Parts behind one another, so many of them, behind a part that ends in a fork or not. -/
def buildTimes (part : Building Bool) : Nat → Bool → Building Bool
  | 0, fork => return fork
  | n + 1, fork => do
    let next ← part
    link fork
    buildTimes part n next

/-- Parts any of which may be the last, so many of them. -/
def buildOptions (part : Building Bool) : Nat → Bool → Building Bool
  | 0, fork => do
    link fork
    return false
  | n + 1, fork => do
    grow 1 (2 * Extent.forkSize)
    let next ← part
    link fork
    buildOptions part n next

/-- A part repeated, and whether it ends in a fork; `consumes` says whether the part never matches
nothing. -/
def buildRepetition (count : Count) (consumes : Bool) (part : Building Bool) : Building Bool := do
  match count.low, count.high? with
  | 0, some 1 =>
    grow 1 (2 * Extent.forkSize)
    link (← part)
    grow 1 0
    return false
  | 0, none =>
    if consumes then
      grow 1 Extent.forkSize
      link (← part)
      return true
    else
      link (← part)
      grow 3 (4 * Extent.forkSize)
      return false
  | low, none =>
    link (← buildTimes part low false)
    grow 1 Extent.forkSize
    return true
  | low, some high =>
    if low = 0 then grow 1 0
    let fork ← buildTimes part low false
    if high ≤ low then return fork
    grow 1 0
    buildOptions part (high - low) fork

/-! ### Parts -/

/-- One character of a set. -/
def buildSet (backwards : Bool) (set : Ranges) : Building Unit := do
  let e ← get
  if Characters.isAscii set then grow 2 (set.length * Extent.rangeSize)
  else if backwards then reach (e.withSetBackwards set)
  else reach (e.withSet set)

/-- Alternatives that are all words. -/
def buildWords (words : List Word) : Building Unit := do
  let length := words.foldl (fun n w => max n w.length) 0
  let e := Trie.extent length words
  grow (e.states + 1) e.held

mutual

/-- Builds a part, and says whether it ends in a fork. -/
def Shape.build (backwards : Bool) : Shape → Building Bool
  | .empty => do
    grow 1 0
    return false
  | .literal cs => do
    grow (cs.foldl (fun n c => n + c.utf8Size) 0) 0
    return false
  | .characters _ set => do
    buildSet backwards set
    return false
  | .place _ => do
    grow 1 0
    return false
  | .repetition count t => buildRepetition count t.consumes (t.build backwards)
  | .capture t => do
    if backwards then t.build backwards
    else
      grow 1 0
      link (← t.build backwards)
      grow 1 0
      return false
  | .concatenation ts => buildAll backwards false ts
  | .alternation ts => do
    match ts.mapM Shape.word? with
    | some words => buildWords (if backwards then words.map List.reverse else words)
    | none => buildBranches backwards 0 ts
    return false

/-- Builds parts behind one another, behind a part that ends in a fork or not. -/
def buildAll (backwards fork : Bool) : List Shape → Building Bool
  | [] => return fork
  | t :: ts => do
    let next ← t.build backwards
    link fork
    buildAll backwards next ts

/-- Builds the alternatives behind so many others, and the fork and the end that they share as soon
as there are two. -/
def buildBranches (backwards : Bool) (before : Nat) : List Shape → Building Unit
  | [] => return ()
  | t :: ts => do
    link (← t.build backwards)
    grow (if before = 1 then 2 else 0) Extent.forkSize
    buildBranches backwards (before + 1) ts

end

/-! ### Whole patterns -/

/-- Builds the automaton of a pattern.  A match may begin anywhere, unless the pattern says where;
the automaton that matches forwards notes where a match begins and ends. -/
def Shape.buildWhole (backwards : Bool) (t : Shape) : Building Unit := do
  if t.isAnchored then grow 1 0
  else grow 3 (Extent.rangeSize + 2 * Extent.forkSize)
  if !backwards then grow 1 0
  link (← t.build backwards)
  grow (if backwards then 1 else 2) 0

/-- Whether the automata of a pattern, if it needs them, are not too large. -/
def Shape.isSmall (t : Shape) : Bool :=
  t.isWords || ((t.buildWhole false).run {}).isSome && ((t.mirror.buildWhole true).run {}).isSome

end Pattern

end FieldCalc
