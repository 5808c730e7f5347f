import FieldCalc.Proofs.Formula.Parts
import Mathlib.Data.List.Forall2

/-!
# What a compiled formula can fail of

Compiling rejects a source for the first of its called names that no function has, in the order in
which the calls are written (`calledNames`).  After that an evaluation has three ways to fail: the
division of a chain, the number of arguments of a call, and the value of a reference.  Each is the
fault of one subexpression (`Expr.Raises`), and evaluating passes it on as it is
(`Expr.exists_raises`).
-/

namespace FieldCalc

namespace Formula

open Grammar

/-! ### Unknown functions -/

namespace Builtin

/-- Some function has the name, in any case of ASCII. -/
def Named (name : String) : Prop :=
  ∃ b ∈ table, Text.upperAscii b.name = Text.upperAscii name

instance (name : String) : Decidable (Named name) :=
  inferInstanceAs (Decidable (∃ b ∈ table, _))

theorem upperAscii_name : ∀ b ∈ table, Text.upperAscii b.name = b.name := by
  decide

theorem find?_eq_none_iff {name : String} : find? name = none ↔ ¬ Named name := by
  unfold find? Named
  rw [List.find?_eq_none, not_exists]
  refine forall_congr' fun b => ?_
  rw [not_and, beq_iff_eq]
  exact forall_congr' fun hb => by rw [upperAscii_name b hb]

theorem mem_of_find? {name : String} {b : Builtin} (h : find? name = some b) : b ∈ table := by
  unfold find? at h
  exact List.mem_of_find?_eq_some h

theorem isNone_find?_iff {name : String} : (find? name).isNone ↔ ¬ Named name := by
  rw [Option.isNone_iff_eq_none, find?_eq_none_iff]

/-- The first of some names that no function has. -/
theorem find?_isNone_eq_some_iff {names : List String} {name : String} :
    names.find? (fun n => (find? n).isNone) = some name ↔
      ∃ before after, names = before ++ name :: after ∧ (∀ n ∈ before, Named n) ∧
        ¬ Named name := by
  have hnamed : ∀ n, (!(find? n).isNone) = true ↔ Named n := fun n => by
    rw [Bool.not_eq_true', ← Bool.not_eq_true, isNone_find?_iff, not_not]
  rw [List.find?_eq_some_iff_append, isNone_find?_iff]
  simp only [hnamed]
  constructor
  · rintro ⟨hn, before, after, hl, hb⟩
    exact ⟨before, after, hl, hb, hn⟩
  · rintro ⟨before, after, hl, hb, hn⟩
    exact ⟨hn, before, after, hl, hb⟩

theorem exists_find?_isNone_iff {names : List String} :
    (∃ name, names.find? (fun n => (find? n).isNone) = some name) ↔
      ∃ name ∈ names, ¬ Named name := by
  rw [← Option.isSome_iff_exists, List.find?_isSome]
  simp only [isNone_find?_iff]

end Builtin

mutual

/-- The unknown call that is found first is the first one of those that are written. -/
theorem Expr.unknownCall?_eq : ∀ e : Expr, e.unknownCall? =
    (e.parts.filterMap Expr.called?).find? fun name => (Builtin.find? name).isNone
  | .literal _ => rfl
  | .field _ => rfl
  | .negate e => Expr.unknownCall?_eq e
  | .chain first rest => by
    rw [Expr.unknownCall?, Expr.unknownCall?_eq first, unknownInChain?_eq rest,
      Option.orElse_eq_orElse, Option.orElse_eq_or, ← List.find?_append, ← List.filterMap_append]
    rfl
  | .call name args => by
    have hp : (Expr.call name args).parts.filterMap Expr.called? =
        name :: (argsParts args).filterMap Expr.called? := rfl
    rw [Expr.unknownCall?, unknownInArgs?_eq args, hp, List.find?_cons]
    cases (Builtin.find? name).isNone <;> rfl

theorem unknownInChain?_eq : ∀ rest : List (Operator × Expr), unknownInChain? rest =
    ((chainParts rest).filterMap Expr.called?).find? fun name => (Builtin.find? name).isNone
  | [] => rfl
  | (_, e) :: rest => by
    rw [unknownInChain?, Expr.unknownCall?_eq e, unknownInChain?_eq rest,
      Option.orElse_eq_orElse, Option.orElse_eq_or, ← List.find?_append, ← List.filterMap_append]
    rfl

theorem unknownInArgs?_eq : ∀ es : List Expr, unknownInArgs? es =
    ((argsParts es).filterMap Expr.called?).find? fun name => (Builtin.find? name).isNone
  | [] => rfl
  | e :: es => by
    rw [unknownInArgs?, Expr.unknownCall?_eq e, unknownInArgs?_eq es, Option.orElse_eq_orElse,
      Option.orElse_eq_or, ← List.find?_append, ← List.filterMap_append]
    rfl

end

theorem compile_of_parse {source : String} {e : Expr} (h : parse source = .ok e) :
    compile source = match e.unknownCall? with
      | some name => .error (.unknownFunction name)
      | none => .ok ⟨source, e⟩ := by
  unfold compile
  rw [h]
  cases hu : e.unknownCall? <;> simp only [bind, Except.bind, hu] <;> rfl

theorem compile_eq_error_iff {source : String} {e : Expr} (h : parse source = .ok e)
    {err : Error} : compile source = .error err ↔
      ∃ name, e.unknownCall? = some name ∧ err = .unknownFunction name := by
  rw [compile_of_parse h]
  cases e.unknownCall? with
  | none => simp
  | some name => simp [eq_comm]

theorem compile_eq_ok_iff {source : String} {e : Expr} (h : parse source = .ok e) {f : Formula} :
    compile source = .ok f ↔ e.unknownCall? = none ∧ f = ⟨source, e⟩ := by
  rw [compile_of_parse h]
  cases e.unknownCall? with
  | none => simp [eq_comm]
  | some name => simp

/-! ### Errors of single operations -/

theorem Operator.apply_eq_error {op : Operator} {v w : Value} {err : Error}
    (h : op.apply v w = .error err) : op = .divide ∧ err = .divisionByZero := by
  unfold Operator.apply at h
  cases op with
  | divide =>
    dsimp only at h
    split at h <;> cases h
    exact ⟨rfl, rfl⟩
  | _ => cases h

namespace Builtin

theorem Body.isSome_result? (now : Moment) (body : Body) (vs : List Value) :
    (body.result? now vs).isSome = body.accepts vs.length := by
  cases body <;> rcases vs with _ | ⟨v, _ | ⟨w, _ | ⟨x, _ | ⟨y, vs⟩⟩⟩⟩ <;> rfl

theorem call_eq_error {b : Builtin} {now : Moment} {vs : List Value} {err : Error}
    (h : b.call now vs = .error err) : b.body.accepts vs.length = false ∧
      err = .argumentCount b.reportedName b.body.wants vs.length := by
  have hs := Body.isSome_result? now b.body vs
  unfold call at h
  split at h
  · cases h
  · rename_i hn
    rw [hn] at hs
    exact ⟨hs.symm, (Except.error.inj h).symm⟩

/-- A lazy function takes three arguments. -/
theorem accepts_of_isLazy : ∀ b ∈ table, b.isLazy → ∀ n, b.body.accepts n = (n == 3) := by
  simp [table, isLazy, Body.accepts]

end Builtin

/-! ### Lists of arguments -/

theorem mapM_eq_ok_iff {ε α β : Type} {f : α → Except ε β} {l : List α} {bs : List β} :
    l.mapM f = .ok bs ↔ List.Forall₂ (fun a b => f a = .ok b) l bs := by
  induction l generalizing bs with
  | nil =>
    rw [List.mapM_nil, List.forall₂_nil_left_iff]
    exact ⟨fun h => (Except.ok.inj h).symm, fun h => h ▸ rfl⟩
  | cons a l ih =>
    rw [List.mapM_cons, bind_eq_ok_iff, List.forall₂_cons_left_iff]
    constructor
    · rintro ⟨b, hb, h⟩
      obtain ⟨cs, hcs, h⟩ := bind_eq_ok_iff.1 h
      exact ⟨b, cs, hb, ih.1 hcs, (Except.ok.inj h).symm⟩
    · rintro ⟨b, cs, hb, hcs, rfl⟩
      exact ⟨b, hb, bind_eq_ok_iff.2 ⟨cs, ih.2 hcs, rfl⟩⟩

/-- The error of a list is that of the first element that has no value. -/
theorem mapM_eq_error_iff {ε α β : Type} {f : α → Except ε β} {l : List α} {err : ε} :
    l.mapM f = .error err ↔ ∃ before a after, l = before ++ a :: after ∧
      (∀ b ∈ before, ∃ v, f b = .ok v) ∧ f a = .error err := by
  induction l with
  | nil => simp [pure, Except.pure]
  | cons a l ih =>
    rw [List.mapM_cons, bind_eq_error_iff]
    constructor
    · rintro (h | ⟨v, hv, h⟩)
      · exact ⟨[], a, l, rfl, nofun, h⟩
      · rcases bind_eq_error_iff.1 h with h | ⟨_, -, h⟩
        · obtain ⟨before, b, after, rfl, hbefore, hb⟩ := ih.1 h
          exact ⟨a :: before, b, after, rfl, List.forall_mem_cons.2 ⟨⟨v, hv⟩, hbefore⟩, hb⟩
        · cases h
    · rintro ⟨before, b, after, hl, hbefore, hb⟩
      cases before with
      | nil =>
        obtain ⟨rfl, rfl⟩ := List.cons.inj hl
        exact .inl hb
      | cons c before =>
        obtain ⟨rfl, rfl⟩ := List.cons.inj hl
        obtain ⟨⟨v, hv⟩, hbefore⟩ := List.forall_mem_cons.1 hbefore
        exact .inr ⟨v, hv, bind_eq_error_iff.2 (.inl (ih.2 ⟨before, b, after, rfl, hbefore, hb⟩))⟩

theorem length_of_mapM {ε α β : Type} {f : α → Except ε β} {l : List α} {bs : List β}
    (h : l.mapM f = .ok bs) : bs.length = l.length :=
  (mapM_eq_ok_iff.1 h).length_eq.symm

theorem evalArgs_eq_mapM (scope : Scope) (es : List Expr) :
    evalArgs scope es = es.mapM (Expr.eval scope) := by
  induction es with
  | nil => rfl
  | cons e es ih => rw [evalArgs, List.mapM_cons, ih]

/-- A call fails of one of its arguments, or of their number. -/
theorem eval_call_eq_error {scope : Scope} {name : String} {args : List Expr} {b : Builtin}
    {err : Error} (hb : Builtin.find? name = some b)
    (h : (Expr.call name args).eval scope = .error err) :
    (∃ e ∈ args, e.eval scope = .error err) ∨ b.body.accepts args.length = false ∧
      err = .argumentCount b.reportedName b.body.wants args.length := by
  rw [Expr.eval, hb] at h
  dsimp only at h
  split at h
  · rename_i hlazy
    split at h
    · -- the condition, and then the branch that it chooses
      rename_i condition yes no
      left
      rcases bind_eq_error_iff.1 h with h | ⟨v, -, h⟩
      · exact ⟨condition, by simp, h⟩
      · split at h
        · exact ⟨yes, by simp, h⟩
        · exact ⟨no, by simp, h⟩
    · rename_i hthree
      refine .inr ⟨?_, (Except.error.inj h).symm⟩
      rw [Builtin.accepts_of_isLazy b (Builtin.mem_of_find? hb) hlazy, beq_eq_false_iff_ne]
      intro hlength
      obtain ⟨x, y, z, rfl⟩ := List.length_eq_three.1 hlength
      exact hthree x y z rfl
  · rw [evalArgs_eq_mapM] at h
    rcases bind_eq_error_iff.1 h with h | ⟨vs, hvs, h⟩
    · obtain ⟨before, e, after, rfl, -, he⟩ := mapM_eq_error_iff.1 h
      exact .inl ⟨e, List.mem_append_right before List.mem_cons_self, he⟩
    · rw [← length_of_mapM hvs]
      exact .inr (Builtin.call_eq_error h)

/-! ### Errors of expressions -/

/-- The error is that of the expression itself and of none inside it: of a division in its chain, of
the number of its arguments, or of the reference that it is. -/
inductive Expr.Raises (scope : Scope) : Expr → Error → Prop
  | division {first : Expr} {rest : List (Operator × Expr)} : .divide ∈ rest.map Prod.fst →
      Raises scope (.chain first rest) .divisionByZero
  | arguments {name : String} {args : List Expr} {b : Builtin} : Builtin.find? name = some b →
      b.body.accepts args.length = false → Raises scope (.call name args)
        (.argumentCount b.reportedName b.body.wants args.length)
  | reference {ref : String} {err : Error} : scope.resolve ref = .error err →
      Raises scope (.field ref) err

/-- Every called name of some expressions is that of a function. -/
def Checked (ps : List Expr) : Prop :=
  ∀ p ∈ ps, ∀ name ∈ p.called?, Builtin.find? name ≠ none

theorem checked_cons {p : Expr} {ps : List Expr} : Checked (p :: ps) ↔
    (∀ name ∈ p.called?, Builtin.find? name ≠ none) ∧ Checked ps :=
  List.forall_mem_cons

theorem checked_append {ps qs : List Expr} : Checked (ps ++ qs) ↔ Checked ps ∧ Checked qs :=
  List.forall_mem_append

theorem checked_of_unknownCall?_eq_none {e : Expr} (h : e.unknownCall? = none) :
    Checked e.parts := by
  intro p hp name hname
  rw [e.unknownCall?_eq, List.find?_eq_none] at h
  simpa using h name (List.mem_filterMap.2 ⟨p, hp, hname⟩)

mutual

/-- Whatever a checked expression fails of, one of its parts raises. -/
theorem Expr.exists_raises {scope : Scope} {err : Error} : ∀ {e : Expr}, Checked e.parts →
    e.eval scope = .error err → ∃ p ∈ e.parts, p.Raises scope err
  | .literal _, _, h => by cases h
  | .field ref, _, h => ⟨_, List.mem_singleton_self _, .reference h⟩
  | .negate e, hc, h => by
    rw [Expr.parts, checked_cons] at hc
    rw [Expr.eval] at h
    rw [Expr.parts]
    rcases bind_eq_error_iff.1 h with h | ⟨v, -, h⟩
    · obtain ⟨p, hp, hr⟩ := Expr.exists_raises hc.2 h
      exact ⟨p, List.mem_cons_of_mem _ hp, hr⟩
    · cases h
  | .chain first rest, hc, h => by
    rw [Expr.parts, checked_cons, checked_append] at hc
    rw [Expr.eval] at h
    rw [Expr.parts]
    rcases bind_eq_error_iff.1 h with h | ⟨v, -, h⟩
    · obtain ⟨p, hp, hr⟩ := Expr.exists_raises hc.2.1 h
      exact ⟨p, List.mem_cons_of_mem _ (List.mem_append_left _ hp), hr⟩
    · rcases evalChain_exists_raises hc.2.2 h with ⟨p, hp, hr⟩ | ⟨hd, rfl⟩
      · exact ⟨p, List.mem_cons_of_mem _ (List.mem_append_right _ hp), hr⟩
      · exact ⟨_, List.mem_cons_self, .division hd⟩
  | .call name args, hc, h => by
    rw [Expr.parts, checked_cons] at hc
    rw [Expr.parts]
    cases hb : Builtin.find? name with
    | none => exact absurd hb (hc.1 name rfl)
    | some b =>
      rcases eval_call_eq_error hb h with ⟨e, he, h⟩ | ⟨ha, rfl⟩
      · obtain ⟨p, hp, hr⟩ := argsParts_exists_raises hc.2 e he h
        exact ⟨p, List.mem_cons_of_mem _ hp, hr⟩
      · exact ⟨_, List.mem_cons_self, .arguments hb ha⟩

theorem evalChain_exists_raises {scope : Scope} {err : Error} :
    ∀ {rest : List (Operator × Expr)} {v : Value}, Checked (chainParts rest) →
      evalChain scope v rest = .error err → (∃ p ∈ chainParts rest, p.Raises scope err) ∨
        .divide ∈ rest.map Prod.fst ∧ err = .divisionByZero
  | [], _, _, h => by cases h
  | (op, e) :: rest, v, hc, h => by
    rw [chainParts, checked_append] at hc
    rw [evalChain] at h
    rw [chainParts, List.map_cons]
    rcases bind_eq_error_iff.1 h with h | ⟨w, -, h⟩
    · obtain ⟨p, hp, hr⟩ := Expr.exists_raises hc.1 h
      exact .inl ⟨p, List.mem_append_left _ hp, hr⟩
    · rcases bind_eq_error_iff.1 h with h | ⟨u, -, h⟩
      · obtain ⟨rfl, rfl⟩ := Operator.apply_eq_error h
        exact .inr ⟨List.mem_cons_self, rfl⟩
      · rcases evalChain_exists_raises hc.2 h with ⟨p, hp, hr⟩ | ⟨hd, rfl⟩
        · exact .inl ⟨p, List.mem_append_right _ hp, hr⟩
        · exact .inr ⟨List.mem_cons_of_mem _ hd, rfl⟩

theorem argsParts_exists_raises {scope : Scope} {err : Error} :
    ∀ {es : List Expr}, Checked (argsParts es) → ∀ e ∈ es, e.eval scope = .error err →
      ∃ p ∈ argsParts es, p.Raises scope err
  | e :: es, hc, f, hf, h => by
    rw [argsParts, checked_append] at hc
    rw [argsParts]
    rcases List.mem_cons.1 hf with hf | hf
    · obtain ⟨p, hp, hr⟩ := Expr.exists_raises hc.1 (hf ▸ h)
      exact ⟨p, List.mem_append_left _ hp, hr⟩
    · obtain ⟨p, hp, hr⟩ := argsParts_exists_raises hc.2 f hf h
      exact ⟨p, List.mem_append_right _ hp, hr⟩

end

/-! ### Errors of formulas -/

/-- The calls of an expression, each with its number of arguments. -/
def Expr.calls (e : Expr) : List (String × Nat) := e.parts.filterMap Expr.call?

/-- The operators of a chain. -/
def Expr.chained : Expr → List Operator
  | .chain _ rest => rest.map Prod.fst
  | _ => []

def Expr.operators (e : Expr) : List Operator := e.parts.flatMap Expr.chained

/-- Why a checked expression has no value in a scope. -/
inductive Expr.Failure (e : Expr) (scope : Scope) : Error → Prop
  | division : .divide ∈ e.operators → Failure e scope .divisionByZero
  | arguments {name : String} {n : Nat} {b : Builtin} : (name, n) ∈ e.calls →
      Builtin.find? name = some b → b.body.accepts n = false →
      Failure e scope (.argumentCount b.reportedName b.body.wants n)
  | reference {ref : String} {err : Error} : ref ∈ e.references →
      scope.resolve ref = .error err → Failure e scope err

theorem Expr.Raises.failure {scope : Scope} {e p : Expr} {err : Error} (h : p.Raises scope err)
    (hp : p ∈ e.parts) : e.Failure scope err := by
  cases h with
  | division h => exact .division (List.mem_flatMap.2 ⟨_, hp, h⟩)
  | arguments hb ha => exact .arguments (List.mem_filterMap.2 ⟨_, hp, rfl⟩) hb ha
  | reference h => exact .reference (Expr.mem_references_iff.2 hp) h

theorem Expr.failure_of_eval {scope : Scope} {e : Expr} {err : Error}
    (hu : e.unknownCall? = none) (h : e.eval scope = .error err) : e.Failure scope err := by
  obtain ⟨p, hp, hr⟩ := Expr.exists_raises (checked_of_unknownCall?_eq_none hu) h
  exact hr.failure hp

/-- Which names of a source that is parsed make it be rejected. -/
theorem compile_eq_error_iff_calledNames {source : String} {e : Expr}
    (parsed : parse source = .ok e) : ∃ ts, (Scan.ofSource source).tokens? = some ts ∧
      ∀ err, compile source = .error err ↔ ∃ name,
        (calledNames ts).find? (fun n => (Builtin.find? n).isNone) = some name ∧
          err = .unknownFunction name := by
  obtain ⟨ts, n, d, hts, hc, -⟩ := exists_chain_of_parse parsed
  refine ⟨ts, hts, fun err => ?_⟩
  rw [hc.calledNames_eq, ← e.unknownCall?_eq]
  exact compile_eq_error_iff parsed

/-- Without divisions, and with as many arguments as the functions take, only a reference can leave
an expression without a value. -/
theorem Expr.exists_value {scope : Scope} {e : Expr} (hu : e.unknownCall? = none)
    (hd : .divide ∉ e.operators)
    (ha : ∀ name n b, (name, n) ∈ e.calls → Builtin.find? name = some b → b.body.accepts n)
    (hr : ∀ ref ∈ e.references, ∃ v, scope.resolve ref = .ok v) : ∃ v, e.eval scope = .ok v := by
  cases hv : e.eval scope with
  | ok v => exact ⟨v, rfl⟩
  | error err =>
    cases Expr.failure_of_eval hu hv with
    | division h => exact absurd h hd
    | arguments hn hb h =>
      rw [ha _ _ _ hn hb] at h
      cases h
    | reference href h =>
      obtain ⟨v, hv'⟩ := hr _ href
      rw [h] at hv'
      cases hv'

/-- A source that is parsed is rejected exactly for a called name that no function has, and for the
first of them.  Otherwise its formula has a value in every scope, unless it comes to the division by
a zero, to a call with a number of arguments that the function does not take, or to a reference that
the scope gives no value. -/
theorem compile_narrows {source : String} {e : Expr} (parsed : parse source = .ok e) :
    (∃ ts, (Scan.ofSource source).tokens? = some ts ∧
      ((∃ err, compile source = .error err) ↔ ∃ name ∈ calledNames ts, ¬ Builtin.Named name) ∧
      ∀ err, compile source = .error err ↔ ∃ before name after,
        calledNames ts = before ++ name :: after ∧ (∀ n ∈ before, Builtin.Named n) ∧
          ¬ Builtin.Named name ∧ err = .unknownFunction name) ∧
    ∀ f, compile source = .ok f → f = ⟨source, e⟩ ∧ ∀ scope,
      (∀ err, f.eval scope = .error err → e.Failure scope err) ∧
      (.divide ∉ e.operators →
        (∀ name n b, (name, n) ∈ e.calls → Builtin.find? name = some b → b.body.accepts n) →
        (∀ ref ∈ e.references, ∃ v, scope.resolve ref = .ok v) → ∃ v, f.eval scope = .ok v) := by
  constructor
  · obtain ⟨ts, hts, herr⟩ := compile_eq_error_iff_calledNames parsed
    refine ⟨ts, hts, ?_, fun err => ?_⟩
    · rw [← Builtin.exists_find?_isNone_iff]
      constructor
      · rintro ⟨err, h⟩
        obtain ⟨name, hn, -⟩ := (herr err).1 h
        exact ⟨name, hn⟩
      · rintro ⟨name, hn⟩
        exact ⟨_, (herr _).2 ⟨name, hn, rfl⟩⟩
    · rw [herr]
      simp only [Builtin.find?_isNone_eq_some_iff]
      constructor
      · rintro ⟨name, ⟨before, after, hl, hb, hn⟩, he⟩
        exact ⟨before, name, after, hl, hb, hn, he⟩
      · rintro ⟨before, name, after, hl, hb, hn, he⟩
        exact ⟨name, ⟨before, after, hl, hb, hn⟩, he⟩
  · intro f hf
    obtain ⟨hu, rfl⟩ := (compile_eq_ok_iff parsed).1 hf
    exact ⟨rfl, fun scope => ⟨fun err => Expr.failure_of_eval hu, Expr.exists_value hu⟩⟩

/-! ### A discount -/

/-- Two functions that there are not, one called in an argument of the other. -/
def discount : String := "If({Net} > 100, TIER(1 / Rebate()), 0)"

def surcharge : String := "if({Net} > 100, Round({Net} * 2, 1), abs(0))"

theorem compile_narrows_discount :
    (∃ e, parse discount = .ok e) ∧ compile discount = .error (.unknownFunction "TIER") ∧
    ∃ f, compile surcharge = .ok f ∧ ∀ v now, ∃ w, f.eval ⟨fun _ => .ok v, now⟩ = .ok w := by
  obtain ⟨e, he, -⟩ : ∃ e, parse discount = .ok e ∧ e.operators = [.greater, .divide] :=
    exists_ok Expr.operators (by decide +kernel)
  obtain ⟨e', he', hg⟩ : ∃ e, parse surcharge = .ok e ∧ (e.unknownCall?, e.operators, e.calls) =
      (none, [.greater, .multiply], [("if", 3), ("Round", 2), ("abs", 1)]) :=
    exists_ok (fun e : Expr => (e.unknownCall?, e.operators, e.calls)) (by decide +kernel)
  obtain ⟨hu, hops, hcalls⟩ : e'.unknownCall? = none ∧ e'.operators = [.greater, .multiply] ∧
      e'.calls = [("if", 3), ("Round", 2), ("abs", 1)] := by
    simpa only [Prod.mk.injEq] using hg
  obtain ⟨f, hf⟩ : ∃ f, compile surcharge = .ok f := ⟨_, (compile_eq_ok_iff he').2 ⟨hu, rfl⟩⟩
  refine ⟨⟨e, he⟩, ?_, f, hf, fun v now => ?_⟩
  · obtain ⟨⟨ts, hts, -, herr⟩, -⟩ := compile_narrows he
    have hnames : (Scan.ofSource discount).tokens?.map calledNames =
        some (["If"] ++ "TIER" :: ["Rebate"]) := by decide +kernel
    rw [hts] at hnames
    refine (herr _).2 ⟨["If"], "TIER", ["Rebate"], Option.some.inj hnames, ?_, ?_, rfl⟩
    · decide
    · decide
  · obtain ⟨rfl, h⟩ := (compile_narrows he').2 f hf
    refine (h ⟨fun _ => .ok v, now⟩).2 (by rw [hops]; decide) ?_ fun _ _ => ⟨v, rfl⟩
    intro name n b hn hb
    rw [hcalls] at hn
    simp only [List.mem_cons, Prod.mk.injEq, List.not_mem_nil, or_false] at hn
    rcases hn with ⟨rfl, rfl⟩ | ⟨rfl, rfl⟩ | ⟨rfl, rfl⟩ <;> cases hb <;> rfl

end Formula

end FieldCalc
