import FieldCalc.Text.Ranges

/-!
# Named classes

The classes of characters in ASCII that have a name between brackets and colons.
-/

namespace FieldCalc

namespace Pattern

/-- The classes by their names. -/
def namedClasses : List (String × Text.Ranges) :=
  let digits := (0x30, 0x39)
  let capitals := (0x41, 0x5a)
  let small := (0x61, 0x7a)
  [("alnum", [digits, capitals, small]),
   ("alpha", [capitals, small]),
   ("ascii", [(0x00, 0x7f)]),
   ("blank", [(0x09, 0x09), (0x20, 0x20)]),
   ("cntrl", [(0x00, 0x1f), (0x7f, 0x7f)]),
   ("digit", [digits]),
   ("graph", [(0x21, 0x7e)]),
   ("lower", [small]),
   ("print", [(0x20, 0x7e)]),
   ("punct", [(0x21, 0x2f), (0x3a, 0x40), (0x5b, 0x60), (0x7b, 0x7e)]),
   ("space", [(0x09, 0x0d), (0x20, 0x20)]),
   ("upper", [capitals]),
   ("word", [digits, capitals, (0x5f, 0x5f), small]),
   ("xdigit", [digits, (0x41, 0x46), (0x61, 0x66)])]

/-- The class with a name. -/
def namedClass (name : String) : Text.Ranges := (namedClasses.lookup name).getD []

end Pattern

end FieldCalc
