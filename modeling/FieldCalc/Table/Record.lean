import FieldCalc.Json.Parts
import FieldCalc.Table.FieldDocument

/-!
# Records

The rows of a table.  A record's values are stored as a document, which is normally an object with
a member for each field that has a value, under the canonical spelling of the field's identifier.
-/

namespace FieldCalc

structure Record where
  id : Uuid
  table : Uuid
  data : Json

/-- Values under the keys that they are stored under. -/
abbrev ValueMap := Dictionary Value

namespace Record

/-! ### Documents -/

/-- The parts of a record's document. -/
def partNames : List String := ["id", "tableId", "data"]

/-- The record that a document stands for. -/
def ofJson? (j : Json) : Option Record := do
  match ← j.parts? partNames with
  | [some id, some table, data] =>
    return ⟨← Uuid.ofJson? id, ← Uuid.ofJson? table, (data.getD .null).canonical⟩
  | _ => none

/-- The document that a record is stored as. -/
def toJson (r : Record) : Json :=
  .obj [("id", r.id.toJson), ("tableId", r.table.toJson), ("data", r.data)]

/-- Whether two records are the same, floats in their documents compared as numbers. -/
def same (r s : Record) : Bool := r.id == s.id && r.table == s.table && r.data.same s.data

/-! ### Values -/

/-- The members of the stored document; there are none if it is no object. -/
def members (r : Record) : Dictionary Json :=
  match r.data with
  | .obj members => members
  | _ => []

/-- The stored value of a field. -/
def get (r : Record) (field : Uuid) : Value :=
  ((Dictionary.get? r.members field.toText).map Value.ofJson).getD .null

/-- Every stored value. -/
def valueMap (r : Record) : ValueMap := Value.ofMembers r.members

/-- What a document that is no object is. -/
def oddKind? : Json → Option String
  | .obj _ => none
  | .null => some "null"
  | .bool _ => some "a boolean"
  | .int _ => some "a number"
  | .float _ => some "a number"
  | .str _ => some "a string"
  | .arr _ => some "an array"

/-- The notice of a record whose document is no object. -/
def notices (r : Record) : List Notice := (oddKind? r.data).toList.map (.notAnObject r.id)

/-- The record with a member of its document set to a stored value. -/
def withStored (r : Record) (field : Uuid) (j : Json) : Record :=
  { r with data := .obj (Dictionary.insert field.toText j r.members) }

/-- The record with values written over its document.  Other members stay as they are stored. -/
def withUpdates (r : Record) (updates : ValueMap) : Record :=
  { r with data := .obj (Dictionary.insertAll r.members (Value.toMembers updates)) }

end Record

end FieldCalc
