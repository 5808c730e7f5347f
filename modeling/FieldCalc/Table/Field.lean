import FieldCalc.Uuid
import FieldCalc.Value.Coercion

/-!
# Fields

The columns of a table.  Formula, lookup and rollup fields are computed, each from options of its
own; linked-record and lookup fields hold the identifiers of records that lookups and rollups can
follow.
-/

namespace FieldCalc

/-- The kinds of field without options; `other` stands for every kind that is not known. -/
inductive PlainKind where
  | text
  | longText
  | number
  | currency
  | percent
  | checkbox
  | date
  | dateTime
  | singleSelect
  | multiSelect
  | email
  | url
  | phone
  | attachment
  | other
deriving DecidableEq, Repr

structure LinkedRecordOptions where
  linkedTable : Option Uuid := none
deriving DecidableEq

structure FormulaOptions where
  expression : String := ""
  resultType : Option Value.ResultType := none
deriving DecidableEq

/-- A lookup shows the values of `target` in the records that the field `linked` holds. -/
structure LookupOptions where
  linked : Option Uuid := none
  target : Option Uuid := none
deriving DecidableEq

/-- A rollup aggregates the values of `target` in the records that the field `linked` holds. -/
structure RollupOptions where
  linked : Option Uuid := none
  target : Option Uuid := none
  function : String := ""
deriving DecidableEq

inductive FieldKind where
  | plain (kind : PlainKind)
  | linkedRecord (options : LinkedRecordOptions)
  | formula (options : FormulaOptions)
  | lookup (options : LookupOptions)
  | rollup (options : RollupOptions)
deriving DecidableEq

structure Field where
  id : Uuid
  table : Uuid
  name : String
  kind : FieldKind
deriving DecidableEq

namespace Field

def isComputed (f : Field) : Bool :=
  match f.kind with
  | .formula _ | .lookup _ | .rollup _ => true
  | .plain _ | .linkedRecord _ => false

/-- Whether lookups and rollups can follow the values of a field. -/
def holdsRecordIds (f : Field) : Bool :=
  match f.kind with
  | .linkedRecord _ | .lookup _ => true
  | .plain _ | .formula _ | .rollup _ => false

end Field

end FieldCalc
