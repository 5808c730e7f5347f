import FieldCalc.Text.Ranges

/-!
# Sets of characters

A set of characters in its normal form is a list of ranges in their order that neither overlap nor
touch.  The surrogates are no characters: a range that runs over them holds those around them.
-/

namespace FieldCalc

namespace Pattern

namespace Characters

open Text (Ranges)

/-- The last character. -/
def last : Nat := 0x10ffff

/-- The character behind another. -/
def after (c : Nat) : Nat := if c = 0xd7ff then 0xe000 else c + 1

/-- The character in front of another. -/
def before (c : Nat) : Nat := if c = 0xe000 then 0xd7ff else c - 1

/-! ### Unions -/

/-- Joins a range with the ranges behind it that it overlaps or touches. -/
def join (low high : Nat) : Ranges → Ranges
  | [] => [(low, high)]
  | (l, h) :: rs => if l ≤ high + 1 then join low (max high h) rs else (low, high) :: join l h rs

/-- The normal form of ranges in any order. -/
def normal (rs : Ranges) : Ranges :=
  match rs.mergeSort fun r s => decide (r.1 ≤ s.1) with
  | [] => []
  | (l, h) :: rs => join l h rs

def union (sets : List Ranges) : Ranges := normal sets.flatten

/-! ### Complements -/

/-- The characters between two others; if there are none, those two themselves. -/
def between (c d : Nat) : Nat × Nat := (min (after c) (before d), max (after c) (before d))

/-- The gaps behind a character that belongs to the set. -/
def gapsAfter (c : Nat) : Ranges → Ranges
  | [] => if c < last then [(after c, last)] else []
  | (l, h) :: rs => between c l :: gapsAfter h rs

/-- The characters that a set in normal form does not hold.  Ranges that end and begin around the
surrogates have no character between them, and then their ends are taken. -/
def complement : Ranges → Ranges
  | [] => [(0, last)]
  | (l, h) :: rs => (if 0 < l then [(0, before l)] else []) ++ gapsAfter h rs

/-! ### Operations -/

/-- The characters of both sets, which are in normal form. -/
def intersection : Ranges → Ranges → Ranges
  | r :: rs, s :: ss =>
    let both := if max r.1 s.1 ≤ min r.2 s.2 then [(max r.1 s.1, min r.2 s.2)] else []
    both ++ if r.2 < s.2 then intersection rs (s :: ss) else intersection (r :: rs) ss
  | _, _ => []

/-- The characters of the first set that are not in the second. -/
def difference : Ranges → Ranges → Ranges
  | [], _ => []
  | rs, [] => rs
  | (l, h) :: rs, s :: ss =>
    if s.2 < l then difference ((l, h) :: rs) ss
    else if h < s.1 then (l, h) :: difference rs (s :: ss)
    else
      let front := if l < s.1 then [(l, before s.1)] else []
      if s.2 < h then front ++ difference ((after s.2, h) :: rs) ss
      else front ++ difference rs (s :: ss)
termination_by rs ss => rs.length + ss.length

/-- The characters of one set alone. -/
def symmetricDifference (rs ss : Ranges) : Ranges :=
  difference (union [rs, ss]) (intersection rs ss)

/-! ### Kinds -/

/-- Whether a set in normal form holds nothing behind ASCII. -/
def isAscii (rs : Ranges) : Bool := rs.getLast?.all (·.2 ≤ 0x7f)

end Characters

end Pattern

end FieldCalc
