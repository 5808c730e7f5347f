import FieldCalc.Formula.Builtin
import FieldCalc.Formula.Parser

/-!
# Evaluating formulas

A formula is parsed once, its calls are checked against the table of functions, and then it is
evaluated in any number of scopes.  Operands are evaluated from left to right and the first error
counts; of the branches of `IF` only the chosen one is evaluated.
-/

namespace FieldCalc

namespace Formula

/-- What a formula is evaluated in: the values of its references, and the present. -/
structure Scope where
  resolve : String → Except Error Value
  now : Moment

/-! ### Operators -/

/-- The result of an operator. -/
def Operator.apply (op : Operator) (v w : Value) : Except Error Value :=
  match op with
  | .add => .ok (.number (v.toNumber + w.toNumber))
  | .subtract => .ok (.number (v.toNumber - w.toNumber))
  | .multiply => .ok (.number (v.toNumber * w.toNumber))
  | .divide =>
    if Number.isZero w.toNumber then .error .divisionByZero
    else .ok (.number (v.toNumber / w.toNumber))
  | .concat => .ok (.text (v.toText ++ w.toText))
  | .equal => .ok (.bool (v.order? w == some .eq))
  | .notEqual => .ok (.bool (v.order? w != some .eq))
  | .less => .ok (.bool (v.order? w == some .lt))
  | .lessEqual => .ok (.bool (v.order? w == some .lt || v.order? w == some .eq))
  | .greater => .ok (.bool (v.order? w == some .gt))
  | .greaterEqual => .ok (.bool (v.order? w == some .gt || v.order? w == some .eq))

/-! ### Expressions -/

/-- The function whose unchosen branch is not evaluated. -/
def Builtin.isLazy (b : Builtin) : Bool := b.name == "IF"

mutual

/-- The value of an expression. -/
def Expr.eval (scope : Scope) : Expr → Except Error Value
  | .literal v => .ok v
  | .field reference => scope.resolve reference
  | .negate e => do
    let v ← e.eval scope
    return .number (-v.toNumber)
  | .chain first rest => do
    let v ← first.eval scope
    evalChain scope v rest
  | .call name args =>
    match Builtin.find? name with
    | none => .error (.unknownFunction name)
    | some b =>
      if b.isLazy then
        match args with
        | [condition, yes, no] => do
          let v ← condition.eval scope
          if v.toBool then yes.eval scope else no.eval scope
        | _ => .error (.argumentCount b.reportedName b.body.wants args.length)
      else do
        let vs ← evalArgs scope args
        b.call scope.now vs

def evalChain (scope : Scope) (v : Value) : List (Operator × Expr) → Except Error Value
  | [] => .ok v
  | (op, e) :: rest => do
    let w ← e.eval scope
    let v ← op.apply v w
    evalChain scope v rest

def evalArgs (scope : Scope) : List Expr → Except Error (List Value)
  | [] => .ok []
  | e :: es => do
    let v ← e.eval scope
    let vs ← evalArgs scope es
    return v :: vs

end

mutual

/-- The first called name that is in no table, from left to right. -/
def Expr.unknownCall? : Expr → Option String
  | .literal _ => none
  | .field _ => none
  | .negate e => e.unknownCall?
  | .chain first rest => first.unknownCall? <|> unknownInChain? rest
  | .call name args =>
    if (Builtin.find? name).isNone then some name else unknownInArgs? args

def unknownInChain? : List (Operator × Expr) → Option String
  | [] => none
  | (_, e) :: rest => e.unknownCall? <|> unknownInChain? rest

def unknownInArgs? : List Expr → Option String
  | [] => none
  | e :: es => e.unknownCall? <|> unknownInArgs? es

end

end Formula

/-! ### Formulas -/

/-- A formula that is ready to be evaluated. -/
structure Formula where
  source : String
  expr : Formula.Expr

namespace Formula

/-- Parses a formula and checks that every function it calls exists. -/
def compile (source : String) : Except Error Formula := do
  let e ← parse source
  match e.unknownCall? with
  | some name => throw (.unknownFunction name)
  | none => return ⟨source, e⟩

def eval (f : Formula) (scope : Scope) : Except Error Value := f.expr.eval scope

/-- The value of a source in a scope. -/
def evaluate (source : String) (scope : Scope) : Except Error Value := do
  let f ← compile source
  f.eval scope

end Formula

end FieldCalc
