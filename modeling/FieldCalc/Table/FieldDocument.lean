import FieldCalc.Json.Parts
import FieldCalc.Table.Field
import FieldCalc.Table.Notice

/-!
# Stored fields

Fields as documents.  Options that cannot be read do not make a field unreadable: it gets the
options of its kind without anything set, and a notice says so.
-/

namespace FieldCalc

namespace PlainKind

/-- The name that a kind is stored under. -/
def name : PlainKind → String
  | .text => "text"
  | .longText => "long_text"
  | .number => "number"
  | .currency => "currency"
  | .percent => "percent"
  | .checkbox => "checkbox"
  | .date => "date"
  | .dateTime => "date_time"
  | .singleSelect => "single_select"
  | .multiSelect => "multi_select"
  | .email => "email"
  | .url => "url"
  | .phone => "phone"
  | .attachment => "attachment"
  | .other => "other"

/-- The known kinds. -/
def all : List PlainKind :=
  [.text, .longText, .number, .currency, .percent, .checkbox, .date, .dateTime, .singleSelect,
   .multiSelect, .email, .url, .phone, .attachment]

/-- The kind with a name. -/
def ofName (name : String) : PlainKind := (all.find? fun k => k.name == name).getD .other

end PlainKind

def Uuid.ofJson? (j : Json) : Option Uuid := j.str?.bind Uuid.ofText?

def Uuid.toJson (u : Uuid) : Json := .str u.toText

/-! ### Options -/

/-- An option that names a field or a table, or nothing. -/
def idOption? : Option Json → Option (Option Uuid)
  | none => some none
  | some .null => some none
  | some j => (Uuid.ofJson? j).map some

/-- An option that is a text, empty where it is left out. -/
def textOption? : Option Json → Option String
  | none => some ""
  | some j => j.str?

/-- The result type of a formula.  A name that is not known is the same as none. -/
def resultTypeOption? : Option Json → Option (Option Value.ResultType)
  | none => some none
  | some .null => some none
  | some j => j.str?.map Value.ResultType.ofName?

def LinkedRecordOptions.ofJson? (j : Json) : Option LinkedRecordOptions := do
  match ← j.parts? ["linkedTableId"] with
  | [table] => return { linkedTable := ← idOption? table }
  | _ => none

def FormulaOptions.ofJson? (j : Json) : Option FormulaOptions := do
  match ← j.parts? ["expression", "resultType"] with
  | [expression, type] =>
    return { expression := ← textOption? expression, resultType := ← resultTypeOption? type }
  | _ => none

def LookupOptions.ofJson? (j : Json) : Option LookupOptions := do
  match ← j.parts? ["lookupLinkedFieldId", "lookupFieldId"] with
  | [linked, target] => return { linked := ← idOption? linked, target := ← idOption? target }
  | _ => none

def RollupOptions.ofJson? (j : Json) : Option RollupOptions := do
  match ← j.parts? ["rollupLinkedFieldId", "rollupFieldId", "aggregationFunction"] with
  | [linked, target, function] =>
    return { linked := ← idOption? linked, target := ← idOption? target,
             function := ← textOption? function }
  | _ => none

def idOrNull (u : Option Uuid) : Json := (u.map Uuid.toJson).getD .null

def LinkedRecordOptions.toJson (o : LinkedRecordOptions) : Json :=
  .obj (o.linkedTable.toList.map fun u => ("linkedTableId", u.toJson))

def FormulaOptions.toJson (o : FormulaOptions) : Json :=
  .obj (("expression", .str o.expression) ::
    o.resultType.toList.map fun t => ("resultType", .str t.name))

def LookupOptions.toJson (o : LookupOptions) : Json :=
  .obj [("lookupFieldId", idOrNull o.target), ("lookupLinkedFieldId", idOrNull o.linked)]

def RollupOptions.toJson (o : RollupOptions) : Json :=
  .obj [("aggregationFunction", .str o.function), ("rollupFieldId", idOrNull o.target),
    ("rollupLinkedFieldId", idOrNull o.linked)]

/-! ### Kinds -/

/-- The name of a kind: a text, or an object with that name as its only member and nothing in it. -/
def kindName? : Json → Option String
  | .str name => some name
  | .obj [(name, .null)] => some name
  | _ => none

/-- Options as read, or those without anything set; and whether they could not be read. -/
def readOptions {α : Type} [Inhabited α] (read : Json → Option α) (options : Json) : α × Bool :=
  match options with
  | .null => (default, false)
  | j =>
    match read j with
    | some o => (o, false)
    | none => (default, true)

instance : Inhabited LinkedRecordOptions := ⟨{}⟩

instance : Inhabited FormulaOptions := ⟨{}⟩

instance : Inhabited LookupOptions := ⟨{}⟩

instance : Inhabited RollupOptions := ⟨{}⟩

/-- The kind with a name and options, and whether the options could not be read. -/
def FieldKind.read (name : String) (options : Json) : FieldKind × Bool :=
  match name with
  | "linked_record" =>
    let (o, malformed) := readOptions LinkedRecordOptions.ofJson? options
    (.linkedRecord o, malformed)
  | "formula" =>
    let (o, malformed) := readOptions FormulaOptions.ofJson? options
    (.formula o, malformed)
  | "lookup" =>
    let (o, malformed) := readOptions LookupOptions.ofJson? options
    (.lookup o, malformed)
  | "rollup" =>
    let (o, malformed) := readOptions RollupOptions.ofJson? options
    (.rollup o, malformed)
  | name => (.plain (PlainKind.ofName name), false)

def FieldKind.name : FieldKind → String
  | .plain kind => kind.name
  | .linkedRecord _ => "linked_record"
  | .formula _ => "formula"
  | .lookup _ => "lookup"
  | .rollup _ => "rollup"

/-- The options of a kind that has them. -/
def FieldKind.options? : FieldKind → Option Json
  | .plain _ => none
  | .linkedRecord o => some o.toJson
  | .formula o => some o.toJson
  | .lookup o => some o.toJson
  | .rollup o => some o.toJson

/-! ### Fields -/

namespace Field

/-- The parts of a field's document. -/
def partNames : List String := ["id", "tableId", "name", "type", "options"]

/-- The field that a document stands for, and the notices of reading it. -/
def ofJson? (j : Json) : Option (Field × List Notice) := do
  match ← j.parts? partNames with
  | [some id, some table, some name, some kind, options] =>
    let id ← Uuid.ofJson? id
    let table ← Uuid.ofJson? table
    let name ← name.str?
    let kind ← kindName? kind
    let (kind, malformed) := FieldKind.read kind (options.getD .null).canonical
    return (⟨id, table, name, kind⟩, if malformed then [.malformedOptions id] else [])
  | _ => none

/-- The document that a field is stored as. -/
def toJson (f : Field) : Json :=
  .obj ([("id", f.id.toJson), ("tableId", f.table.toJson), ("name", .str f.name),
    ("type", .str f.kind.name)] ++ f.kind.options?.toList.map fun o => ("options", o))

end Field

end FieldCalc
