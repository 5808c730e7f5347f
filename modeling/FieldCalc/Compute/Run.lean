import FieldCalc.Compute.Plan
import FieldCalc.Table.Link
import FieldCalc.Table.Store

/-!
# Computing records

The computed fields of a record, step by step.  Formulas read the values as they are stored;
lookups and rollups read the working values, in which every field computed before them has its new
value.  A field that cannot be computed becomes null, with a notice, and the others are computed
all the same.
-/

namespace FieldCalc

/-- What a computation goes by besides the records. -/
structure Setting where
  plan : Plan
  source : LinkedSource
  now : Moment

namespace Setting

/-! ### Single fields -/

/-- The scope of formulas over stored values. -/
def scope (g : Setting) (stored : ValueMap) : Formula.Scope :=
  ⟨g.plan.catalog.resolve stored, g.now⟩

/-- An option that has to be set. -/
def required (field : Uuid) (option : String) : Option Uuid → Except FieldError Uuid
  | some id => .ok id
  | none => .error (.missingOption field option)

/-- The records that the field `linked` holds, for the field `field` to follow. -/
def linkedIds (g : Setting) (working : ValueMap) (field linked : Uuid) :
    Except FieldError (List Uuid) :=
  match g.plan.catalog.field? linked with
  | none => .error (.unknownField linked)
  | some f =>
    if f.holdsRecordIds then
      .ok (((Dictionary.get? working linked.toText).map recordIds).getD [])
    else .error (.notLinkField field linked)

/-- A single value stands for itself, and any other number of them for a list. -/
def bare : List Value → Value
  | [v] => v
  | vs => .list vs

def lookupValue (g : Setting) (working : ValueMap) (field : Uuid) (o : LookupOptions) :
    Except FieldError Value := do
  let linked ← required field "lookupLinkedFieldId" o.linked
  let target ← required field "lookupFieldId" o.target
  match ← g.linkedIds working field linked with
  | [] => return .null
  | ids => return bare (← g.source.fetch ids target)

/-- The value of a rollup.  Linked records are counted without being fetched. -/
def rollupValue (g : Setting) (working : ValueMap) (field : Uuid) (o : RollupOptions)
    (aggregation : Except FieldError Aggregation) : Except FieldError Value := do
  let aggregation ← aggregation
  let linked ← required field "rollupLinkedFieldId" o.linked
  let ids ← g.linkedIds working field linked
  if aggregation = .count then return .number (Number.ofNat ids.length)
  else
    let target ← required field "rollupFieldId" o.target
    match ids with
    | [] => return .null
    | ids => return aggregation.apply (← g.source.fetch ids target)

def formulaValue (g : Setting) (stored : ValueMap) (compiled : Except Formula.Error Formula)
    (resultType : Option Value.ResultType) : Except FieldError Value :=
  match compiled.bind fun f => f.eval (g.scope stored) with
  | .ok v => .ok (v.coerce resultType)
  | .error e => .error (.formula e)

/-- The value of a computed field. -/
def value (g : Setting) (stored working : ValueMap) (s : Step) : Except FieldError Value :=
  match s.task with
  | .formula compiled resultType => g.formulaValue stored compiled resultType
  | .lookup o => g.lookupValue working s.field.id o
  | .rollup o aggregation => g.rollupValue working s.field.id o aggregation

/-! ### Records -/

/-- How far the computation of a record has come. -/
structure Progress where
  working : ValueMap
  updates : ValueMap
  notices : List Notice

/-- Sets the value of a computed field. -/
def Progress.set (p : Progress) (field : Uuid) (v : Value) : Progress :=
  { p with working := Dictionary.insert field.toText v p.working
           updates := Dictionary.insert field.toText v p.updates }

/-- Takes a step. -/
def step (g : Setting) (r : Record) (p : Progress) (s : Step) : Progress :=
  match g.value r.valueMap p.working s with
  | .ok v => p.set s.field.id v
  | .error e =>
    { p.set s.field.id .null with
      notices := p.notices ++ [.computedAsNull r.id s.field.name s.field.id e] }

/-- The computation of all fields of a record. -/
def progress (g : Setting) (r : Record) : Progress :=
  g.plan.steps.foldl (g.step r) ⟨r.valueMap, [], r.notices⟩

/-- A record with its computed fields filled in, and the notices of computing them. -/
def computeRecord (g : Setting) (r : Record) : Record × List Notice :=
  let p := g.progress r
  (r.withUpdates p.updates, p.notices)

/-- The records of a batch with their computed fields filled in.  Where nothing is computed they
stay as they are. -/
def compute (g : Setting) (rs : List Record) : List Record × List Notice :=
  if g.plan.steps.isEmpty then (rs, [])
  else
    let results := rs.map g.computeRecord
    (results.map (·.1), results.flatMap (·.2))

end Setting

end FieldCalc
