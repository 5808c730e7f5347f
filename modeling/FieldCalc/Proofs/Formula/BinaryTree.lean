import FieldCalc.Formula.Eval

/-!
# Formulas as binary trees

The same formulas with one operator at every branch.  A chain becomes a tree that leans to the left,
its first operator deepest (`chainTree`), and evaluating the tree by plain recursion, the left
operand before the right one and both before the operator, comes to what evaluating the chain does,
down to the error that is met first (`Expr.eval_toTree`).
-/

namespace FieldCalc

namespace Formula

/-- A formula in which an operator has two operands. -/
inductive Tree where
  | literal (v : Value)
  | field (reference : String)
  | call (name : String) (args : List Tree)
  | negate (t : Tree)
  | binary (op : Operator) (left right : Tree)

/-! ### Evaluation -/

mutual

/-- The value of a tree. -/
def Tree.eval (scope : Scope) : Tree → Except Error Value
  | .literal v => .ok v
  | .field reference => scope.resolve reference
  | .negate t => do
    let v ← t.eval scope
    return .number (-v.toNumber)
  | .binary op left right => do
    let v ← left.eval scope
    let w ← right.eval scope
    op.apply v w
  | .call name args =>
    match Builtin.find? name with
    | none => .error (.unknownFunction name)
    | some b =>
      if b.isLazy then
        match args with
        | [condition, yes, no] => do
          let v ← condition.eval scope
          if v.toBool then yes.eval scope else no.eval scope
        | _ => .error (.argumentCount b.reportedName b.body.wants args.length)
      else do
        let vs ← evalTrees scope args
        b.call scope.now vs

def evalTrees (scope : Scope) : List Tree → Except Error (List Value)
  | [] => .ok []
  | t :: ts => do
    let v ← t.eval scope
    let vs ← evalTrees scope ts
    return v :: vs

end

/-! ### Chains that lean to the left -/

mutual

/-- The binary tree of an expression. -/
def Expr.toTree : Expr → Tree
  | .literal v => .literal v
  | .field reference => .field reference
  | .negate e => .negate e.toTree
  | .chain first rest => chainTree first.toTree rest
  | .call name args => .call name (toTrees args)

/-- The operators of a chain over what stands to their left. -/
def chainTree (left : Tree) : List (Operator × Expr) → Tree
  | [] => left
  | (op, e) :: rest => chainTree (.binary op left e.toTree) rest

def toTrees : List Expr → List Tree
  | [] => []
  | e :: es => e.toTree :: toTrees es

end

theorem toTrees_eq_map (es : List Expr) : toTrees es = es.map Expr.toTree := by
  induction es with
  | nil => rfl
  | cons e es ih => rw [toTrees, ih, List.map_cons]

mutual

theorem Expr.eval_toTree (scope : Scope) : ∀ e : Expr, e.toTree.eval scope = e.eval scope
  | .literal _ => rfl
  | .field _ => rfl
  | .negate e => by rw [Expr.toTree, Tree.eval, Expr.eval, Expr.eval_toTree scope e]
  | .chain first rest => by
    rw [Expr.toTree, Expr.eval, eval_chainTree scope rest, Expr.eval_toTree scope first]
  | .call name args => by
    rw [Expr.toTree, Tree.eval, Expr.eval, evalTrees_toTrees scope args]
    cases Builtin.find? name with
    | none => rfl
    | some b =>
      dsimp only
      split
      · -- a lazy call looks at its arguments one by one
        match args with
        | [condition, yes, no] =>
          simp only [toTrees, Expr.eval_toTree scope condition, Expr.eval_toTree scope yes,
            Expr.eval_toTree scope no]
        | [] | [_] | [_, _] | _ :: _ :: _ :: _ :: _ => simp [toTrees_eq_map]
      · rfl

theorem eval_chainTree (scope : Scope) : ∀ (rest : List (Operator × Expr)) {left : Tree},
    (chainTree left rest).eval scope = left.eval scope >>= fun v => evalChain scope v rest
  | [], left => by
    rw [chainTree]
    cases left.eval scope <;> rfl
  | (op, e) :: rest, left => by
    rw [chainTree, eval_chainTree scope rest, Tree.eval, Expr.eval_toTree scope e]
    -- both sides evaluate `left`, then `e`, then apply `op`
    cases left.eval scope with
    | error _ => rfl
    | ok v => cases h : e.eval scope <;> simp [evalChain, h, bind, Except.bind]

theorem evalTrees_toTrees (scope : Scope) : ∀ es : List Expr,
    evalTrees scope (toTrees es) = evalArgs scope es
  | [] => rfl
  | e :: es => by
    rw [toTrees, evalTrees, evalArgs, Expr.eval_toTree scope e, evalTrees_toTrees scope es]

end

end Formula

end FieldCalc
