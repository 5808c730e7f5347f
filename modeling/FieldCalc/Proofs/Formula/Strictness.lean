import FieldCalc.Proofs.Formula.Failures

/-!
# Evaluating every argument

A formula could also be evaluated strictly, every argument of every call first and `IF` like any
other function of the table.  Where that gives a value, leaving out the branches that are not chosen
gives the same one; and where it fails and leaving them out does not, the error is that of a branch
that was left out (`eval_relaxes`).  The two evaluations go side by side, and what one step of them
keeps is `Relaxes`.
-/

namespace FieldCalc

namespace Formula

mutual

/-- The value of an expression when every argument of every call is evaluated. -/
def Expr.strictEval (scope : Scope) : Expr → Except Error Value
  | .literal v => .ok v
  | .field reference => scope.resolve reference
  | .negate e => do
    let v ← e.strictEval scope
    return .number (-v.toNumber)
  | .chain first rest => do
    let v ← first.strictEval scope
    strictChain scope v rest
  | .call name args =>
    match Builtin.find? name with
    | none => .error (.unknownFunction name)
    | some b => do
      let vs ← strictArgs scope args
      b.call scope.now vs

def strictChain (scope : Scope) (v : Value) : List (Operator × Expr) → Except Error Value
  | [] => .ok v
  | (op, e) :: rest => do
    let w ← e.strictEval scope
    let v ← op.apply v w
    strictChain scope v rest

def strictArgs (scope : Scope) : List Expr → Except Error (List Value)
  | [] => .ok []
  | e :: es => do
    let v ← e.strictEval scope
    let vs ← strictArgs scope es
    return v :: vs

end

/-- The branch that is left out when an expression is evaluated. -/
def Expr.skipped? (scope : Scope) : Expr → Option Expr
  | .call name [condition, yes, no] =>
    if (Builtin.find? name).any Builtin.isLazy then
      match condition.eval scope with
      | .ok v => some (if v.toBool then no else yes)
      | .error _ => none
    else none
  | _ => none

/-- The errors of the branches that are left out among some expressions. -/
def SkippedError (scope : Scope) (ps : List Expr) (err : Error) : Prop :=
  ∃ p ∈ ps, ∃ branch ∈ p.skipped? scope, branch.strictEval scope = .error err

theorem Expr.parts_subset_call {e : Expr} {es : List Expr} (name : String) (h : e ∈ es) :
    e.parts ⊆ (Expr.call name es).parts := by
  refine List.Subset.trans ?_ (List.subset_cons_self _ _)
  induction es with
  | nil => cases h
  | cons f es ih =>
    rw [argsParts]
    rcases List.mem_cons.1 h with rfl | h
    · exact List.subset_append_left _ _
    · exact List.Subset.trans (ih h) (List.subset_append_right _ _)

/-! ### Two outcomes side by side -/

/-- A value of `x` is the value of `y`, and an error of `x` in place of a value of `y` is one of the
given errors. -/
structure Relaxes {α : Type} (errors : Error → Prop) (x y : Except Error α) : Prop where
  ok : ∀ a, x = .ok a → y = .ok a
  error : ∀ err a, x = .error err → y = .ok a → errors err

namespace Relaxes

variable {α β : Type} {errors : Error → Prop} {x y : Except Error α}

theorem refl (x : Except Error α) : Relaxes errors x x where
  ok _ h := h
  error err a h h' := by
    rw [h] at h'
    cases h'

theorem mono {scope : Scope} {ps qs : List Expr} (h : Relaxes (SkippedError scope ps) x y)
    (hsub : ps ⊆ qs) : Relaxes (SkippedError scope qs) x y where
  ok := h.ok
  error err a hx hy := by
    obtain ⟨p, hp, hskip⟩ := h.error err a hx hy
    exact ⟨p, hsub hp, hskip⟩

theorem bind {f g : α → Except Error β} (h : Relaxes errors x y)
    (hf : ∀ a, x = .ok a → Relaxes errors (f a) (g a)) : Relaxes errors (x >>= f) (y >>= g) where
  ok b hb := by
    obtain ⟨a, ha, hfa⟩ := bind_eq_ok_iff.1 hb
    exact bind_eq_ok_iff.2 ⟨a, h.ok a ha, (hf a ha).ok b hfa⟩
  error err b hx hy := by
    obtain ⟨a, ha, hga⟩ := bind_eq_ok_iff.1 hy
    rcases bind_eq_error_iff.1 hx with hx | ⟨a', ha', hfa⟩
    · exact h.error err a hx ha
    · have hya := h.ok a' ha'
      rw [ha] at hya
      cases hya
      exact (hf a ha').error err b hfa hga

/-- What is evaluated before, and not used, may fail with one of the errors. -/
theorem after {z : Except Error β} (h : Relaxes errors x y)
    (hz : ∀ err, z = .error err → errors err) : Relaxes errors (z >>= fun _ => x) y where
  ok a ha := by
    obtain ⟨_, -, hx⟩ := bind_eq_ok_iff.1 ha
    exact h.ok a hx
  error err a hx hy := by
    rcases bind_eq_error_iff.1 hx with hz' | ⟨_, -, hx⟩
    · exact hz err hz'
    · exact h.error err a hx hy

/-- What is evaluated afterwards, and not used, may fail with one of the errors. -/
theorem before {z : Except Error β} (h : Relaxes errors x y)
    (hz : ∀ err, z = .error err → errors err) :
    Relaxes errors (x >>= fun a => z >>= fun _ => .ok a) y where
  ok a ha := by
    obtain ⟨a', hx, hza⟩ := bind_eq_ok_iff.1 ha
    obtain ⟨_, -, hok⟩ := bind_eq_ok_iff.1 hza
    exact Except.ok.inj hok ▸ h.ok a' hx
  error err a hx hy := by
    rcases bind_eq_error_iff.1 hx with hx | ⟨_, -, hx⟩
    · exact h.error err a hx hy
    · rcases bind_eq_error_iff.1 hx with hx | ⟨_, -, hx⟩
      · exact hz err hx
      · cases hx

theorem of_ne_ok {err : Error} (h : ∀ a, x ≠ .ok a) : Relaxes errors x (.error err) where
  ok a ha := absurd ha (h a)
  error _ _ _ hy := by cases hy

end Relaxes

/-! ### The function that is lazy -/

theorem Builtin.body_of_isLazy : ∀ b ∈ table, b.isLazy → b.body = .three choose := by
  simp [table, isLazy]

theorem strictArgs_eq_mapM (scope : Scope) (es : List Expr) :
    strictArgs scope es = es.mapM (Expr.strictEval scope) := by
  induction es with
  | nil => rfl
  | cons e es ih => rw [strictArgs, List.mapM_cons, ih]

section Lazy

variable {scope : Scope} {name : String} {b : Builtin}

theorem strictEval_lazy (hb : Builtin.find? name = some b) (hlazy : b.isLazy)
    (condition yes no : Expr) : (Expr.call name [condition, yes, no]).strictEval scope =
      condition.strictEval scope >>= fun v => yes.strictEval scope >>= fun w =>
        no.strictEval scope >>= fun u => .ok (Builtin.choose v w u) := by
  have hbody := Builtin.body_of_isLazy b (Builtin.mem_of_find? hb) hlazy
  have hcall : ∀ v w u, b.call scope.now [v, w, u] = .ok (Builtin.choose v w u) := fun v w u => by
    simp [Builtin.call, hbody, Builtin.Body.result?]
  rw [Expr.strictEval, hb]
  simp only [strictArgs]
  cases condition.strictEval scope with
  | error _ => rfl
  | ok v =>
    cases yes.strictEval scope with
    | error _ => rfl
    | ok w =>
      cases no.strictEval scope with
      | error _ => rfl
      | ok u => exact hcall v w u

/-- With another number of arguments than three there is no value. -/
theorem strictEval_lazy_ne_ok (hb : Builtin.find? name = some b) (hlazy : b.isLazy)
    {args : List Expr} (hargs : args.length ≠ 3) (v : Value) :
    (Expr.call name args).strictEval scope ≠ .ok v := by
  intro h
  rw [Expr.strictEval, hb] at h
  obtain ⟨vs, hvs, hv⟩ := bind_eq_ok_iff.1 h
  rw [strictArgs_eq_mapM] at hvs
  have haccepts : b.body.accepts vs.length = false := by
    rw [Builtin.accepts_of_isLazy b (Builtin.mem_of_find? hb) hlazy, length_of_mapM hvs,
      beq_eq_false_iff_ne.2 hargs]
  have hnone : b.body.result? scope.now vs = none := by
    rw [← Option.not_isSome_iff_eq_none, Builtin.Body.isSome_result?, haccepts]
    exact Bool.false_ne_true
  simp [Builtin.call, hnone] at hv

theorem skipped?_lazy (hb : Builtin.find? name = some b) (hlazy : b.isLazy)
    {condition : Expr} {v : Value} (hv : condition.eval scope = .ok v) (yes no : Expr) :
    (Expr.call name [condition, yes, no]).skipped? scope =
      some (if v.toBool then no else yes) := by
  simp [Expr.skipped?, hb, hlazy, hv]

/-- After the condition it is the branch it chooses that counts; the other one comes after it, or
before it, and is the one left out. -/
theorem relaxes_lazy (hb : Builtin.find? name = some b) (hlazy : b.isLazy)
    {condition yes no : Expr} {ps : List Expr} (hcall : .call name [condition, yes, no] ∈ ps)
    (hc : Relaxes (SkippedError scope ps) (condition.strictEval scope) (condition.eval scope))
    (hy : Relaxes (SkippedError scope ps) (yes.strictEval scope) (yes.eval scope))
    (hn : Relaxes (SkippedError scope ps) (no.strictEval scope) (no.eval scope)) :
    Relaxes (SkippedError scope ps) ((Expr.call name [condition, yes, no]).strictEval scope)
      ((Expr.call name [condition, yes, no]).eval scope) := by
  rw [strictEval_lazy hb hlazy, Expr.eval, hb]
  dsimp only
  rw [if_pos hlazy]
  refine hc.bind fun v hv => ?_
  have hskip := skipped?_lazy hb hlazy (hc.ok v hv) yes no
  by_cases htrue : v.toBool
  · simp only [Builtin.choose, htrue, if_true] at hskip ⊢
    exact hy.before fun err herr => ⟨_, hcall, no, hskip, herr⟩
  · simp only [Builtin.choose, htrue, if_false, Bool.false_eq_true] at hskip ⊢
    have hno : (no.strictEval scope >>= fun u => .ok u) = no.strictEval scope := by
      cases no.strictEval scope <;> rfl
    rw [hno]
    exact hn.after fun err herr => ⟨_, hcall, yes, hskip, herr⟩

end Lazy

/-! ### Expressions -/

mutual

theorem Expr.relaxes (scope : Scope) : ∀ e : Expr,
    Relaxes (SkippedError scope e.parts) (e.strictEval scope) (e.eval scope)
  | .literal _ => .refl _
  | .field _ => .refl _
  | .negate e => by
    rw [Expr.strictEval, Expr.eval, Expr.parts]
    exact ((e.relaxes scope).mono (List.subset_cons_self _ _)).bind fun _ _ => .refl _
  | .chain first rest => by
    rw [Expr.strictEval, Expr.eval, Expr.parts]
    have hfirst := (first.relaxes scope).mono (List.subset_append_left _ (chainParts rest))
    have hrest : ∀ v, _ := fun v =>
      (relaxes_chain scope rest v).mono (List.subset_append_right first.parts _)
    exact (hfirst.bind fun v _ => hrest v).mono (List.subset_cons_self _ _)
  | .call name args => by
    cases hb : Builtin.find? name with
    | none =>
      rw [Expr.strictEval, Expr.eval, hb]
      exact .refl _
    | some b =>
      by_cases hlazy : b.isLazy
      · match args with
        | [condition, yes, no] =>
          exact relaxes_lazy hb hlazy List.mem_cons_self
            ((condition.relaxes scope).mono (Expr.parts_subset_call name (by simp)))
            ((yes.relaxes scope).mono (Expr.parts_subset_call name (by simp)))
            ((no.relaxes scope).mono (Expr.parts_subset_call name (by simp)))
        | [] | [_] | [_, _] | _ :: _ :: _ :: _ :: _ =>
          rw [Expr.eval, hb]
          dsimp only
          rw [if_pos hlazy]
          exact .of_ne_ok (strictEval_lazy_ne_ok hb hlazy (by simp))
      · rw [Expr.strictEval, Expr.eval, Expr.parts, hb]
        dsimp only
        rw [if_neg hlazy]
        exact ((relaxes_args scope args).mono (List.subset_cons_self _ _)).bind fun _ _ => .refl _

theorem relaxes_chain (scope : Scope) : ∀ (rest : List (Operator × Expr)) (v : Value),
    Relaxes (SkippedError scope (chainParts rest)) (strictChain scope v rest)
      (evalChain scope v rest)
  | [], _ => .refl _
  | (op, e) :: rest, v => by
    rw [strictChain, evalChain, chainParts]
    refine ((e.relaxes scope).mono (List.subset_append_left _ _)).bind fun w _ => ?_
    refine (Relaxes.refl _).bind fun u _ => ?_
    exact (relaxes_chain scope rest u).mono (List.subset_append_right _ _)

theorem relaxes_args (scope : Scope) : ∀ es : List Expr,
    Relaxes (SkippedError scope (argsParts es)) (strictArgs scope es) (evalArgs scope es)
  | [] => .refl _
  | e :: es => by
    rw [strictArgs, evalArgs, argsParts]
    refine ((e.relaxes scope).mono (List.subset_append_left _ _)).bind fun v _ => ?_
    refine ((relaxes_args scope es).mono (List.subset_append_right _ _)).bind fun vs _ => ?_
    exact .refl _

end

/-- Where the strict evaluation of an expression has a value, leaving branches out gives the same
one.  Where it has an error and leaving them out gives a value, the error is that of a branch that
was left out. -/
theorem eval_relaxes (e : Expr) (scope : Scope) :
    (∀ v, e.strictEval scope = .ok v → e.eval scope = .ok v) ∧
    ∀ err v, e.strictEval scope = .error err → e.eval scope = .ok v →
      ∃ p ∈ e.parts, ∃ branch ∈ p.skipped? scope, branch.strictEval scope = .error err :=
  ⟨(e.relaxes scope).ok, (e.relaxes scope).error⟩

/-! ### A salutation -/

/-- Only a member has a name. -/
def visitor (member : Bool) : Scope where
  resolve
    | "Member" => .ok (.bool member)
    | "Name" => if member then .ok (.text "Ada") else .error (.fieldNotFound "Name")
    | ref => .error (.fieldNotFound ref)
  now := ⟨0, 0⟩

/-- `"Dear " & IF({Member}, If(NOT({Member}), "nobody", {Name}), "guest")` -/
def salutation : Expr :=
  .chain (.literal (.text "Dear ")) [(.concat, .call "IF" [.field "Member",
    .call "If" [.call "NOT" [.field "Member"], .literal (.text "nobody"), .field "Name"],
    .literal (.text "guest")])]

theorem eval_relaxes_salutation :
    salutation.eval (visitor true) = .ok (.text "Dear Ada") ∧
    salutation.eval (visitor false) = .ok (.text "Dear guest") ∧
    ∃ p ∈ salutation.parts, ∃ branch ∈ p.skipped? (visitor false),
      branch.strictEval (visitor false) = .error (.fieldNotFound "Name") := by
  have hmember : salutation.strictEval (visitor true) = .ok (.text "Dear Ada") := rfl
  have hguest : salutation.strictEval (visitor false) = .error (.fieldNotFound "Name") := rfl
  have hvalue : salutation.eval (visitor false) = .ok (.text "Dear guest") := rfl
  exact ⟨(eval_relaxes _ _).1 _ hmember, hvalue, (eval_relaxes _ _).2 _ _ hguest hvalue⟩

end Formula

end FieldCalc
