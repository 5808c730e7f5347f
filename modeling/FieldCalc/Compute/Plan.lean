import FieldCalc.Formula.Eval
import FieldCalc.Formula.References
import FieldCalc.Table.Aggregation
import FieldCalc.Table.Record

/-!
# Plans

What is to be computed for the records of a table: a step for each computed field of its catalog,
formulas first, then lookups, then rollups, each kind in the order of the catalog.  Formulas are
compiled and aggregations looked up once, and what goes wrong there is kept for every record.
-/

namespace FieldCalc

/-- The fields of a table. -/
abbrev Catalog := List Field

namespace Catalog

/-- The first field with an identifier. -/
def field? (c : Catalog) (id : Uuid) : Option Field := List.find? (fun f => f.id == id) c

/-- The first field with a name. -/
def named? (c : Catalog) (name : String) : Option Field := List.find? (fun f => f.name == name) c

/-- The value that a reference in a formula has: that of the key it is, else that of the field
with the name, else that of the field with the identifier it spells. -/
def resolve (c : Catalog) (values : ValueMap) (reference : String) :
    Except Formula.Error Value :=
  match Dictionary.get? values reference with
  | some v => .ok v
  | none =>
    match c.named? reference with
    | some f => .ok ((Dictionary.get? values f.id.toText).getD .null)
    | none =>
      match (Uuid.ofText? reference).bind c.field? with
      | some f => .ok ((Dictionary.get? values f.id.toText).getD .null)
      | none => .error (.fieldNotFound reference)

end Catalog

/-- How a computed field gets its value. -/
inductive Task where
  | formula (compiled : Except Formula.Error Formula) (resultType : Option Value.ResultType)
  | lookup (options : LookupOptions)
  | rollup (options : RollupOptions) (aggregation : Except FieldError Aggregation)

/-- A computed field and how it gets its value. -/
structure Step where
  field : Field
  task : Task

namespace Step

def formula? (f : Field) : Option Step :=
  match f.kind with
  | .formula o => some ⟨f, .formula (Formula.compile o.expression) o.resultType⟩
  | _ => none

def lookup? (f : Field) : Option Step :=
  match f.kind with
  | .lookup o => some ⟨f, .lookup o⟩
  | _ => none

def rollup? (f : Field) : Option Step :=
  match f.kind with
  | .rollup o => some ⟨f, .rollup o (Aggregation.ofName o.function)⟩
  | _ => none

end Step

/-- What is to be computed for a table's records. -/
structure Plan where
  catalog : Catalog
  formulas : List Step
  lookups : List Step
  rollups : List Step

namespace Plan

def ofCatalog (c : Catalog) : Plan :=
  ⟨c, List.filterMap Step.formula? c, List.filterMap Step.lookup? c,
    List.filterMap Step.rollup? c⟩

/-- The steps in the order they are taken. -/
def steps (p : Plan) : List Step := p.formulas ++ p.lookups ++ p.rollups

/-- The notice of a formula field. -/
def formulaNotice? (f : Field) : Option Notice :=
  match f.kind with
  | .formula o => some (.formulaReads f.name f.id (Formula.references o.expression))
  | _ => none

/-- The notices of making a plan. -/
def notices (p : Plan) : List Notice :=
  List.filterMap formulaNotice? p.catalog ++
    [.classified p.catalog.length p.formulas.length p.lookups.length p.rollups.length]

end Plan

end FieldCalc
