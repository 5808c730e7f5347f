import FieldCalc.Json.Form

/-!
# Documents with named parts

A document that has known parts is an object with members of those names, or the list of its parts
in their order.  An object may have other members, but no known one twice; a list may leave out
parts at its end.  Where such documents are read from a text, other members are passed over.
-/

namespace FieldCalc

namespace Json

open Text (Reader)

/-- The parts of a document in the order of their names, each of them if it is there. -/
def parts? (names : List String) : Json → Option (List (Option Json))
  | .obj members =>
    if names.all fun n => (members.filter fun m => m.1 == n).length ≤ 1 then
      some (names.map fun n => List.lookup n members)
    else none
  | .arr items =>
    if items.length ≤ names.length then
      some (items.map some ++ List.replicate (names.length - items.length) none)
    else none
  | _ => none

/-- The items of a list, each of them read. -/
def items? {α : Type} (read : Json → Option α) : Json → Option (List α)
  | .arr items => items.mapM read
  | _ => none

/-! ### Texts -/

/-- A document whose members are read where they have one of the given names, and passed over
where they have not. -/
def readNamed (names : List String) (depth : Nat) : Reader Json := fun cs =>
  match depth, skipSpace cs with
  | depth + 1, '\x7b' :: cs => do
    let value (name : String) := if names.contains name then readValue depth else passOver
    let (members, cs) ← readContainer '\x7d' (readMember value) cs
    return (.obj members, cs)
  | depth, cs => readValue depth cs

/-- The list of such documents that a text spells. -/
def readListed? (names : List String) (s : String) : Option (List Json) := do
  match skipSpace s.toList with
  | '[' :: cs =>
    let (items, cs) ← readContainer ']' (readNamed names (maxDepth - 1)) cs
    if skipSpace cs = [] then return items else none
  | _ => none

end Json

end FieldCalc
