import FieldCalc.Text.Ranges

/-!
# Ranges of characters as bytes

A range of characters is split into ranges that can be told by their bytes one after another: every
byte has a range of its own.
-/

namespace FieldCalc

namespace Pattern

open Text (Ranges)

namespace Utf8

/-- A range without the surrogates. -/
def aroundSurrogates (r : Nat × Nat) : Ranges :=
  if r.1 < 0xe000 ∧ 0xd7ff < r.2 then
    [(r.1, 0xd7ff), (0xe000, r.2)].filter fun s => decide (s.1 ≤ s.2)
  else [r]

/-- A range in two at the last code point of the first. -/
def splitAt (stop : Nat) (r : Nat × Nat) : Ranges :=
  if r.1 ≤ stop ∧ stop < r.2 then [(r.1, stop), (stop + 1, r.2)] else [r]

/-- The rest of a block at the front, whole blocks, and the part of a block at the end. -/
def splitBlocks (size : Nat) (r : Nat × Nat) : Ranges :=
  if r.1 / size = r.2 / size then [r]
  else
    let first := (r.1 + size - 1) / size * size
    let stop := (r.2 + 1) / size * size
    [(r.1, first - 1), (first, stop - 1), (stop, r.2)].filter fun s => decide (s.1 ≤ s.2)

/-- The bytes of a character. -/
def bytes (c : Nat) : List Nat := (String.utf8EncodeChar (Char.ofNat c)).map UInt8.toNat

/-- The ranges of bytes for a range of characters, in their order. -/
def sequences (r : Nat × Nat) : List Ranges :=
  let byLength := (((aroundSurrogates r).flatMap (splitAt 0x7f)).flatMap (splitAt 0x7ff)).flatMap
    (splitAt 0xffff)
  byLength.flatMap fun s =>
    if s.2 ≤ 0x7f then [[s]]
    else
      let blocks := ((splitBlocks 0x40 s).flatMap (splitBlocks 0x1000)).flatMap
        (splitBlocks 0x40000)
      blocks.map fun b => (bytes b.1).zip (bytes b.2)

end Utf8

end Pattern

end FieldCalc
