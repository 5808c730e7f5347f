import FieldCalc.Pattern.Extent
import FieldCalc.Pattern.Utf8
import Std.Data.HashMap

/-!
# States for sets of characters

A set of characters is matched byte by byte.  States that do the same are built once, as far as
they are remembered: there is a limited number of places, and a state takes its place from the one
before.
-/

namespace FieldCalc

namespace Pattern

open Text (Ranges)

/-- An automaton with the states that are remembered, by their places: what a state does, and its
number. -/
structure Sharing where
  extent : Extent
  known : Std.HashMap Nat (List Nat × Nat) := {}

namespace Sharing

/-- A number for what a state does. -/
def hash (key : List Nat) : UInt64 :=
  key.foldl (fun h n => (h ^^^ n.toUInt64) * 1099511628211) 14695981039346656037

/-- The number of the state that does what a key says: one that is remembered in its place, or a new
one that holds some bytes. -/
def state (places held : Nat) (key : List Nat) : StateM Sharing Nat := do
  let s ← get
  let place := (hash key).toNat % places
  match s.known[place]? with
  | some (k, number) => if k = key then return number
  | none => pure ()
  let number := s.extent.states
  set { extent := s.extent.add ⟨1, held⟩, known := s.known.insert place (key, number) : Sharing }
  return number

end Sharing

/-! ### Forwards -/

/-- A state whose last range of bytes is still followed: what it does so far, as the ends of its
ranges and the numbers of the states that they lead to. -/
structure OpenState where
  links : List Nat := []
  last? : Option (Nat × Nat) := none

namespace OpenState

/-- Leads the last range to a state. -/
def close (next : Nat) (s : OpenState) : OpenState :=
  match s.last? with
  | some (l, h) => { links := s.links ++ [l, h, next] }
  | none => s

/-- Closes open states, each of which leads to the one behind it and the last to `target`; the
number of the first. -/
def closeAll (target : Nat) : List OpenState → StateM Sharing Nat
  | [] => return target
  | s :: ss => do
    let links := (s.close (← closeAll target ss)).links
    Sharing.state 10000 (links.length / 3 * Extent.rangeSize) links

/-- Follows a sequence of ranges as far as it is open, and opens states for the rest of it. -/
def follow (target : Nat) : Ranges → List OpenState → StateM Sharing (List OpenState)
  | [], ss => return ss
  | rs, [] => return rs.map fun r => { last? := some r }
  | r :: rs, s :: ss => do
    if s.last? = some r then return s :: (← follow target rs ss)
    else
      let s := s.close (← closeAll target ss)
      return { s with last? := some r } :: rs.map fun r => { last? := some r }

end OpenState

/-- The size with states that match a set from the first byte of a character to the last. -/
def Extent.withSet (set : Ranges) (e : Extent) : Extent :=
  let target := e.states
  let states := do
    let ss ← (set.flatMap Utf8.sequences).foldlM (fun ss rs => OpenState.follow target rs ss) [{}]
    OpenState.closeAll target ss
  (states.run { extent := e.add ⟨1, 0⟩ }).2.extent

/-! ### Backwards -/

/-- The size with states that match a set from the last byte of a character to the first: a fork
with a link for every sequence of ranges. -/
def Extent.withSetBackwards (set : Ranges) (e : Extent) : Extent :=
  let target := e.states + 1
  let sequences := set.flatMap Utf8.sequences
  let states : StateM Sharing Unit := sequences.forM fun rs =>
    discard (rs.foldlM (fun next (l, h) => Sharing.state 1000 0 [next, l, h]) target)
  let fork : Extent := ⟨2, sequences.length * Extent.forkSize⟩
  (states.run { extent := e.add fork }).2.extent

end Pattern

end FieldCalc
