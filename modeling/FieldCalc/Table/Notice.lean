import FieldCalc.Table.FieldError

/-!
# Notices

What reading and computing a table reports besides its results.
-/

namespace FieldCalc

inductive Notice where
  /-- The options of a field could not be read and were left out. -/
  | malformedOptions (field : Uuid)
  /-- The references of a formula field. -/
  | formulaReads (name : String) (field : Uuid) (references : List String)
  /-- How many fields of a catalog there are, and how many are computed in each way. -/
  | classified (fields formulas lookups rollups : Nat)
  /-- A record's document is no object; `kind` names what it is. -/
  | notAnObject (record : Uuid) (kind : String)
  /-- A computed field of a record has no value. -/
  | computedAsNull (record : Uuid) (name : String) (field : Uuid) (error : FieldError)

def Notice.message : Notice → String
  | .malformedOptions field => "warn: field " ++ field.toText ++ ": ignoring malformed options"
  | .formulaReads name field references =>
    "debug: formula field " ++ name ++ " (" ++ field.toText ++ ") reads [" ++
      ", ".intercalate (references.map Text.quoted) ++ "]"
  | .classified fields formulas lookups rollups =>
    s!"debug: classified {fields} fields: {formulas} formula, {lookups} lookup, {rollups} rollup"
  | .notAnObject record kind =>
    "warn: record " ++ record.toText ++ ": stored data is " ++ kind ++
      " rather than an object, treating as empty"
  | .computedAsNull record name field error =>
    "warn: record " ++ record.toText ++ ": field " ++ name ++ " (" ++ field.toText ++
      ") computed as null: " ++ error.message

end FieldCalc
