import FieldCalc.Text.Blank
import FieldCalc.Uuid
import FieldCalc.Value.Basic

/-!
# Links

The identifiers of the records that a value links to: a text that spells one, or a list of such
texts and of objects with one under `id`.  What spells no identifier is passed over.
-/

namespace FieldCalc

/-- The identifier that a text spells, blanks around it aside. -/
def linkText? (s : String) : Option Uuid := Uuid.ofChars? (Text.trimChars s.toList)

/-- The identifier that an item of a list gives. -/
def linkItem? : Value → Option Uuid
  | .text s => linkText? s
  | .object members =>
    match Dictionary.get? members "id" with
    | some (.text s) => linkText? s
    | _ => none
  | _ => none

/-- The records that a value links to, in order and with repetitions. -/
def recordIds : Value → List Uuid
  | .text s => (linkText? s).toList
  | .list items => items.filterMap linkItem?
  | _ => []

end FieldCalc
