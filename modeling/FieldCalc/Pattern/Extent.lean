import FieldCalc.Number.Power

/-!
# The size of automata

A pattern is matched by two automata, one for each direction.  How much memory they take is limited,
so their size is counted as they are built.
-/

namespace FieldCalc

namespace Pattern

/-- The states of an automaton, and the bytes that they hold beside their own. -/
structure Extent where
  states : Nat := 0
  held : Nat := 0
deriving DecidableEq, Repr

namespace Extent

/-- The bytes of a state by itself. -/
def stateSize : Nat := 32

/-- The bytes of a link that is one of several to choose from. -/
def forkSize : Nat := 4

/-- The bytes of a link for a range of bytes. -/
def rangeSize : Nat := 8

/-- The bytes that an automaton may take. -/
def limit : Nat := 10 * 2 ^ 20

def bytes (e : Extent) : Nat := e.states * stateSize + e.held

def add (e d : Extent) : Extent := ⟨e.states + d.states, e.held + d.held⟩

theorem bytes_add (e d : Extent) : (e.add d).bytes = e.bytes + d.bytes := by
  simp [bytes, add, Nat.add_mul]
  omega

end Extent

/-- Building an automaton, which ends when it becomes too large. -/
abbrev Building := StateT Extent Option

/-- Goes on with a size that is not too large. -/
def reach (e : Extent) : Building Unit := fun _ =>
  if e.bytes ≤ Extent.limit then some ((), e) else none

/-- What is built is never too large. -/
theorem reach_eq_some {e s : Extent} {r : Unit × Extent} :
    (reach e).run s = some r ↔ e.bytes ≤ Extent.limit ∧ r = ((), e) := by
  by_cases h : e.bytes ≤ Extent.limit <;> simp [reach, StateT.run, h, eq_comm]

/-- Adds states, and bytes that they hold. -/
def grow (states held : Nat) : Building Unit := do reach ((← get).add ⟨states, held⟩)

/-- A link from a state, which holds it if it is a fork. -/
def link (fork : Bool) : Building Unit := if fork then grow 0 Extent.forkSize else return ()

end Pattern

end FieldCalc
