import FieldCalc.Proofs.Formula.Bounds

/-!
# Joining texts

Texts can be joined by a call of `CONCAT` and by a chain of `&`.  The call evaluates its arguments
and joins their texts at once, the chain joins each operand to a text that is brought to a text
again at the next one.  The outcome is the same (`call_concat_eq_chain`): the texts of the operands
one after the other, or the error of the first operand that has one.
-/

namespace FieldCalc

namespace Formula

variable {scope : Scope}

/-! ### The call and the chain -/

/-- Operands behind a first one, each after `&`. -/
def joinedTo (es : List Expr) : List (Operator × Expr) := es.map fun e => (.concat, e)

/-- Behind a value come the texts of the operands.  What is joined so far is a text, which is its
own text for the next operand. -/
theorem evalChain_joinedTo (v : Value) (e : Expr) (es : List Expr) :
    evalChain scope v (joinedTo (e :: es)) = evalArgs scope (e :: es) >>= fun vs =>
      .ok (.text (v.toText ++ String.join (vs.map Value.toText))) := by
  induction es generalizing v e with
  | nil =>
    rw [joinedTo, List.map_cons, evalChain, evalArgs]
    cases e.eval scope with
    | error _ => rfl
    | ok w =>
      refine congrArg (fun t => Except.ok (Value.text (v.toText ++ t))) ?_
      exact String.empty_append.symm
  | cons f es ih =>
    rw [joinedTo, List.map_cons, evalChain, evalArgs]
    cases e.eval scope with
    | error _ => rfl
    | ok w =>
      refine (ih (.text (v.toText ++ w.toText)) f).trans ?_
      cases evalArgs scope (f :: es) with
      | error _ => rfl
      | ok ws =>
        refine congrArg (fun t => Except.ok (Value.text t)) ?_
        rw [List.map_cons, String.join_cons, ← String.append_assoc]
        rfl

theorem eval_chain_joinedTo (first second : Expr) (rest : List Expr) :
    (Expr.chain first (joinedTo (second :: rest))).eval scope =
      evalArgs scope (first :: second :: rest) >>= fun vs => .ok (Builtin.joined vs) := by
  rw [Expr.eval, evalArgs]
  cases first.eval scope with
  | error _ => rfl
  | ok v =>
    refine (evalChain_joinedTo v second rest).trans ?_
    cases evalArgs scope (second :: rest) with
    | error _ => rfl
    | ok ws =>
      refine congrArg (fun t => Except.ok (Value.text t)) ?_
      rw [List.map_cons, String.join_cons]

section Call

variable {name : String} (h : Text.upperAscii name = "CONCAT") (es : List Expr)

include h

theorem find?_concat : Builtin.find? name = Builtin.find? "CONCAT" := by
  unfold Builtin.find?
  rw [h]
  rfl

theorem eval_call_concat : (Expr.call name es).eval scope =
    evalArgs scope es >>= fun vs => .ok (Builtin.joined vs) := by
  rw [Expr.eval, find?_concat h]
  rfl

theorem unknownCall?_concat : (Expr.call name es).unknownCall? = unknownInArgs? es := by
  rw [Expr.unknownCall?, find?_concat h]
  rfl

end Call

theorem unknownInChain?_joinedTo (es : List Expr) :
    unknownInChain? (joinedTo es) = unknownInArgs? es := by
  rw [unknownInChain?_eq_unknownInArgs?, joinedTo, List.map_map]
  exact congrArg unknownInArgs? (List.map_id es)

/-- `CONCAT`, in any case, of two or more operands and the chain of `&` over them have the same
outcome.  It is the text of all operands' texts one after the other if every operand has a value,
and the error of the first operand that has none otherwise.  Neither calls an unknown function that
the other does not call. -/
theorem call_concat_eq_chain {name : String} (h : Text.upperAscii name = "CONCAT")
    (first second : Expr) (rest : List Expr) (scope : Scope) :
    let operands := first :: second :: rest
    let call := Expr.call name operands
    let chain := Expr.chain first ((second :: rest).map fun e => (.concat, e))
    call.eval scope = chain.eval scope ∧
    (∀ v, chain.eval scope = .ok v ↔ ∃ ws,
      List.Forall₂ (fun e w => e.eval scope = .ok w) operands ws ∧
      v = .text (String.join (ws.map Value.toText))) ∧
    (∀ err, chain.eval scope = .error err ↔ ∃ before e after, operands = before ++ e :: after ∧
      (∀ f ∈ before, ∃ w, f.eval scope = .ok w) ∧ e.eval scope = .error err) ∧
    call.unknownCall? = chain.unknownCall? := by
  have hchain := @eval_chain_joinedTo scope first second rest
  dsimp only
  rw [eval_call_concat h, ← joinedTo, hchain, evalArgs_eq_mapM]
  refine ⟨rfl, fun v => ?_, fun err => ?_, ?_⟩
  · rw [bind_eq_ok_iff]
    simp only [← mapM_eq_ok_iff, Except.ok.injEq, Builtin.joined, eq_comm (a := v)]
  · rw [bind_eq_error_iff, ← mapM_eq_error_iff]
    simp
  · rw [unknownCall?_concat h, Expr.unknownCall?, unknownInChain?_joinedTo]
    rfl

/-! ### An address -/

/-- A street of several parts, and the given city. -/
def address (city : Except Error Value) : Scope where
  resolve
    | "Street" => .ok (.list [.text "Via Po", .null, .bool true])
    | "City" => city
    | ref => .error (.fieldNotFound ref)
  now := ⟨0, 0⟩

theorem call_concat_eq_chain_address :
    Text.upperAscii "Concat" = "CONCAT" ∧
    (Expr.call "Concat" [.field "Street", .literal (.text "; "), .field "City"]).eval
      (address (.ok .null)) = .ok (.text "Via Po, , true; ") ∧
    (Expr.call "Concat" [.field "Street", .field "City", .field "Country"]).eval
      (address (.error .divisionByZero)) = .error .divisionByZero := by
  have hname : Text.upperAscii "Concat" = "CONCAT" := by decide
  have hok := call_concat_eq_chain hname (.field "Street") (.literal (.text "; "))
    [.field "City"] (address (.ok .null))
  have herror := call_concat_eq_chain hname (.field "Street") (.field "City") [.field "Country"]
    (address (.error .divisionByZero))
  refine ⟨hname, hok.1.trans rfl, herror.1.trans ?_⟩
  exact (herror.2.2.1 _).2 ⟨[.field "Street"], .field "City", [.field "Country"], rfl,
    by simpa using ⟨_, rfl⟩, rfl⟩

end Formula

end FieldCalc
