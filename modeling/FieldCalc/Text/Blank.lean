import FieldCalc.Text.Ranges

/-!
# White space

The twenty-five characters of the Unicode property `White_Space`, and trimming them off the ends
of a text.
-/

namespace FieldCalc

namespace Text

def blankRanges : Ranges :=
  [(0x9, 0xd), (0x20, 0x20), (0x85, 0x85), (0xa0, 0xa0), (0x1680, 0x1680), (0x2000, 0x200a),
   (0x2028, 0x2029), (0x202f, 0x202f), (0x205f, 0x205f), (0x3000, 0x3000)]

def isBlank (c : Char) : Bool := blankRanges.holds c

/-- The characters from the first to the last that is no white space. -/
def trimChars (cs : List Char) : List Char :=
  (((cs.dropWhile isBlank).reverse).dropWhile isBlank).reverse

def trim (s : String) : String := String.ofList (trimChars s.toList)

end Text

end FieldCalc
