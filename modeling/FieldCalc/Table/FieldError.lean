import FieldCalc.Formula.Error
import FieldCalc.Uuid

/-!
# Errors of computed fields

Why a computed field of a record has no value.
-/

namespace FieldCalc

inductive FieldError where
  | formula (e : Formula.Error)
  | missingOption (field : Uuid) (option : String)
  | unknownField (id : Uuid)
  | notLinkField (field linked : Uuid)
  | unknownAggregation (name : String)
  | fetch (message : String)

def FieldError.message : FieldError → String
  | .formula e => "Formula error: " ++ e.message
  | .missingOption field option =>
    "Field " ++ field.toText ++ " is missing the " ++ option ++ " option"
  | .unknownField id => "Field " ++ id.toText ++ " is not in the table's field catalog"
  | .notLinkField field linked =>
    "Field " ++ field.toText ++ " links through " ++ linked.toText ++
      ", which does not hold record ids"
  | .unknownAggregation name => "Unknown aggregation function: " ++ name
  | .fetch message => "Linked record fetch failed: " ++ message

end FieldCalc
