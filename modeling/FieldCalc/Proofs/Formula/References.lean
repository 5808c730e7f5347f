import FieldCalc.Formula.Eval

/-!
# What an expression refers to

The references of an expression, and that its value depends on nothing else of the scope that it is
evaluated in (`Expr.eval_congr`).
-/

namespace FieldCalc

namespace Formula

mutual

/-- The references of an expression from left to right, in both branches of `IF`. -/
def Expr.references : Expr → List String
  | .literal _ => []
  | .field reference => [reference]
  | .negate e => e.references
  | .chain first rest => first.references ++ chainReferences rest
  | .call _ args => argsReferences args

def chainReferences : List (Operator × Expr) → List String
  | [] => []
  | (_, e) :: rest => e.references ++ chainReferences rest

def argsReferences : List Expr → List String
  | [] => []
  | e :: es => e.references ++ argsReferences es

end

/-- A reading succeeds if something can be told of what is read. -/
theorem exists_ok {α β : Type} {x : Except Error α} {b : β} (g : α → β)
    (h : x.toOption.map g = some b) : ∃ a, x = .ok a ∧ g a = b := by
  cases x with
  | error e => cases h
  | ok a => exact ⟨a, rfl, Option.some.inj h⟩

theorem exists_compile {source : String} {refs : List String}
    (h : (compile source).toOption.map (fun f => f.expr.references) = some refs) :
    ∃ f, compile source = .ok f ∧ f.expr.references = refs := exists_ok _ h

/-- Two scopes that agree on some references and on the present. -/
structure Scope.AgreeOn (s t : Scope) (refs : List String) : Prop where
  now_eq : s.now = t.now
  resolve_eq : ∀ ref ∈ refs, s.resolve ref = t.resolve ref

namespace Scope

variable {s t : Scope} {refs refs' : List String}

theorem AgreeOn.left (h : s.AgreeOn t (refs ++ refs')) : s.AgreeOn t refs :=
  ⟨h.now_eq, fun ref hr => h.resolve_eq ref (List.mem_append_left refs' hr)⟩

theorem AgreeOn.right (h : s.AgreeOn t (refs ++ refs')) : s.AgreeOn t refs' :=
  ⟨h.now_eq, fun ref hr => h.resolve_eq ref (List.mem_append_right refs hr)⟩

end Scope

mutual

theorem Expr.eval_congr {s t : Scope} : ∀ {e : Expr}, s.AgreeOn t e.references →
    e.eval s = e.eval t
  | .literal _, _ => rfl
  | .field reference, h => h.resolve_eq reference (by simp [Expr.references])
  | .negate e, h => by
    rw [Expr.references] at h
    rw [Expr.eval, Expr.eval, Expr.eval_congr h]
  | .chain first rest, h => by
    rw [Expr.references] at h
    rw [Expr.eval, Expr.eval, Expr.eval_congr h.left]
    exact congrArg _ (funext fun v => evalChain_congr v h.right)
  | .call name args, h => by
    rw [Expr.references] at h
    have hargs : evalArgs s args = evalArgs t args := evalArgs_congr h
    rw [Expr.eval, Expr.eval, hargs, h.now_eq]
    cases Builtin.find? name with
    | none => rfl
    | some b =>
      -- a lazy call evaluates its arguments one by one, and not all of them
      dsimp only
      split
      · split
        · rename_i condition yes no
          simp only [argsReferences] at h
          rw [Expr.eval_congr h.left, Expr.eval_congr h.right.left,
            Expr.eval_congr h.right.right.left]
        · rfl
      · rfl

theorem evalChain_congr {s t : Scope} : ∀ {rest : List (Operator × Expr)} (v : Value),
    s.AgreeOn t (chainReferences rest) → evalChain s v rest = evalChain t v rest
  | [], _, _ => rfl
  | (op, e) :: rest, v, h => by
    rw [chainReferences] at h
    rw [evalChain, evalChain, Expr.eval_congr h.left]
    exact congrArg _ (funext fun w => congrArg _ (funext fun u => evalChain_congr u h.right))

theorem evalArgs_congr {s t : Scope} : ∀ {es : List Expr}, s.AgreeOn t (argsReferences es) →
    evalArgs s es = evalArgs t es
  | [], _ => rfl
  | e :: es, h => by
    rw [argsReferences] at h
    rw [evalArgs, evalArgs, Expr.eval_congr h.left, evalArgs_congr h.right]

end

end Formula

end FieldCalc
