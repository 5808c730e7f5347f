import FieldCalc.Pattern.Extent

/-!
# Tries of words

Alternatives that are all words share the bytes that they begin with.  Their order counts: where a
word ends, the longer words before it are kept apart from those behind it.
-/

namespace FieldCalc

namespace Pattern

namespace Trie

/-- The words between those that end here. -/
def chunks (words : List (List Nat)) : List (List (List Nat)) :=
  words.foldr
    (fun w cs =>
      match w, cs with
      | [], _ => [] :: cs
      | _, c :: cs => (w :: c) :: cs
      | _, [] => [[w]])
    [[]]

/-- The bytes that words begin with. -/
def heads (words : List (List Nat)) : List Nat := (words.filterMap List.head?).eraseDups

/-- What follows a byte. -/
def behind (b : Nat) (words : List (List Nat)) : List (List Nat) :=
  words.filterMap fun w => if w.head? = some b then some w.tail else none

/-- The size of a state for a chunk. -/
def chunkExtent (count : Nat) : Extent :=
  if count = 0 then {} else ⟨1, if count = 1 then 0 else count * Extent.rangeSize⟩

/-- The size of what is left of words that are at most so long.  Nothing is built where every word
ends; several words that end before the first longer one count once. -/
def extent : Nat → List (List Nat) → Extent
  | 0, _ => {}
  | length + 1, words =>
    if words.all List.isEmpty then {}
    else
      let longer := words.dropWhile List.isEmpty
      let parts := chunks longer
      let ends := (if words.head? = some [] then 1 else 0) + (parts.length - 1)
      let filled := (parts.filter (!·.isEmpty)).length
      let fork : Extent := ⟨1, (filled + ends) * Extent.forkSize⟩
      parts.foldl
        (fun e chunk =>
          (heads chunk).foldl (fun e b => e.add (extent length (behind b chunk)))
            (e.add (chunkExtent (heads chunk).length)))
        fork

end Trie

end Pattern

end FieldCalc
