import FieldCalc.Proofs.Formula.Failures

/-!
# How large formulas are

The limits of the parser carry over to the expressions that it accepts (`parse_bounded`).  Every
node but a chain is counted as an operand.  Between an operand and those directly inside it there
are at most four chains, one of each level, so an expression is at most five times as high as its
operands are nested.  Evaluating it and looking for unknown functions in it take one frame for every
node on the way down, and so they come to their ends on a stack of as many frames.
-/

namespace FieldCalc

namespace Formula

open Grammar

/-! ### Nodes -/

/-- Whether a node is a literal, a reference, a call or a negation. -/
def Expr.isOperand : Expr → Bool
  | .chain _ _ => false
  | _ => true

/-- The operands of a chain are joined by operators of a single level, at least one. -/
def Expr.OneLevel : Expr → Prop
  | .chain _ rest => rest ≠ [] ∧ ∃ level, ∀ op ∈ rest.map Prod.fst, op.level = level
  | _ => True

/-- Subexpressions with at most `n` operands, every chain of which has operators of one level. -/
structure Counted (ps : List Expr) (n : Nat) : Prop where
  count_le : ps.countP Expr.isOperand ≤ n
  oneLevel : ∀ p ∈ ps, p.OneLevel

namespace Counted

variable {ps qs : List Expr} {n m : Nat}

theorem nil : Counted [] 0 := ⟨Nat.le_refl 0, nofun⟩

theorem mono (h : Counted ps n) (hn : n ≤ m) : Counted ps m :=
  ⟨Nat.le_trans h.count_le hn, h.oneLevel⟩

theorem append (h : Counted ps n) (h' : Counted qs m) : Counted (ps ++ qs) (n + m) where
  count_le := by
    rw [List.countP_append]
    exact Nat.add_le_add h.count_le h'.count_le
  oneLevel := List.forall_mem_append.2 ⟨h.oneLevel, h'.oneLevel⟩

theorem cons_operand {e : Expr} (he : e.isOperand) (h : Counted ps n) :
    Counted (e :: ps) (n + 1) where
  count_le := by
    rw [List.countP_cons_of_pos he]
    exact Nat.succ_le_succ h.count_le
  oneLevel := by
    refine List.forall_mem_cons.2 ⟨?_, h.oneLevel⟩
    cases e <;> trivial

theorem cons_chain {first : Expr} {rest : List (Operator × Expr)} (hne : rest ≠ []) {level : Level}
    (hl : ∀ op ∈ rest.map Prod.fst, op.level = level) (h : Counted ps n) :
    Counted (.chain first rest :: ps) n where
  count_le := by
    rw [List.countP_cons_of_neg Bool.false_ne_true]
    exact h.count_le
  oneLevel := List.forall_mem_cons.2 ⟨⟨hne, level, hl⟩, h.oneLevel⟩

end Counted

namespace Grammar

theorem Tail.level_eq {level : Level} {levels : List Level} {ts : List Token}
    {rest : List (Operator × Expr)} {n d : Nat} (h : Tail level levels ts rest n d) :
    ∀ op ∈ rest.map Prod.fst, op.level = level := by
  induction rest generalizing ts n d with
  | nil => simp
  | cons x rest ih =>
    cases h with
    | cons hop _ h => exact List.forall_mem_cons.2 ⟨Level.mem_operators.1 hop, ih h⟩

mutual

theorem Unary.counted {ts : List Token} {e : Expr} {n d : Nat} :
    Unary ts e n d → Counted e.parts n
  | .negative h => h.counted.cons_operand rfl
  | .positive h => h.counted.mono (Nat.le_succ _)
  | .bare h => h.counted

/-- An operand without a sign is not counted itself. -/
theorem Primary.counted {ts : List Token} {e : Expr} {n d : Nat} :
    Primary ts e n d → Counted e.parts (n + 1)
  | .number _ => Counted.nil.cons_operand rfl
  | .text _ => Counted.nil.cons_operand rfl
  | .reference _ => Counted.nil.cons_operand rfl
  | .truth _ _ => Counted.nil.cons_operand rfl
  | .call _ h => h.counted.cons_operand rfl
  | .group h => h.counted.mono (Nat.le_succ _)

theorem Chain.counted {levels : List Level} {ts : List Token} {e : Expr} {n d : Nat} :
    Chain levels ts e n d → Counted e.parts n
  | .operand h => h.counted
  | .single h => h.counted
  | .chain h h' hne => (h.counted.append h'.counted).cons_chain hne h'.level_eq

theorem Tail.counted {level : Level} {levels : List Level} {ts : List Token}
    {rest : List (Operator × Expr)} {n d : Nat} :
    Tail level levels ts rest n d → Counted (chainParts rest) n
  | .nil => .nil
  | .cons _ h h' => h.counted.append h'.counted

theorem CallArguments.counted {ts : List Token} {es : List Expr} {n d : Nat} :
    CallArguments ts es n d → Counted (argsParts es) n
  | .none => .nil
  | .some h => h.counted

theorem Separated.counted {ts : List Token} {es : List Expr} {n d : Nat} :
    Separated ts es n d → Counted (argsParts es) n
  | .one h => by
    rw [argsParts, argsParts]
    exact h.counted.append .nil
  | .more h h' => h.counted.append h'.counted

end

end Grammar

/-! ### Height -/

theorem Level.length_all : Level.all.length = 4 := rfl

/-- The expressions directly inside another one, from left to right. -/
def Expr.children : Expr → List Expr
  | .literal _ | .field _ => []
  | .negate e => [e]
  | .chain first rest => first :: rest.map Prod.snd
  | .call _ args => args

/-- Expressions that each lie directly inside the one before. -/
def Descends (es : List Expr) : Prop := es.IsChain fun e e' => e' ∈ e.children

mutual

/-- How many nodes there are at most on the way from an expression down to one without others
inside. -/
def Expr.height : Expr → Nat
  | .literal _ => 1
  | .field _ => 1
  | .negate e => e.height + 1
  | .chain first rest => max first.height (chainHeight rest) + 1
  | .call _ args => argsHeight args + 1

def chainHeight : List (Operator × Expr) → Nat
  | [] => 0
  | (_, e) :: rest => max e.height (chainHeight rest)

def argsHeight : List Expr → Nat
  | [] => 0
  | e :: es => max e.height (argsHeight es)

end

theorem Expr.height_pos (e : Expr) : 0 < e.height := by
  cases e <;> simp [height]

theorem chainHeight_eq (rest : List (Operator × Expr)) :
    chainHeight rest = argsHeight (rest.map Prod.snd) := by
  induction rest with
  | nil => rfl
  | cons x rest ih => rw [chainHeight, List.map_cons, argsHeight, ih]

theorem Expr.height_eq (e : Expr) : e.height = argsHeight e.children + 1 := by
  cases e with
  | chain first rest => rw [height, children, argsHeight, chainHeight_eq]
  | _ => simp [height, children, argsHeight]

theorem height_le_argsHeight {e : Expr} {es : List Expr} (h : e ∈ es) :
    e.height ≤ argsHeight es := by
  induction es with
  | nil => cases h
  | cons f es ih =>
    rw [argsHeight]
    rcases List.mem_cons.1 h with rfl | h
    · exact Nat.le_max_left _ _
    · exact Nat.le_trans (ih h) (Nat.le_max_right _ _)

theorem Expr.height_lt_of_mem_children {e e' : Expr} (h : e' ∈ e.children) :
    e'.height < e.height := by
  rw [e.height_eq]
  exact Nat.lt_succ_of_le (height_le_argsHeight h)

/-- No way down has more nodes than the expression is high. -/
theorem Descends.length_le {e : Expr} {es : List Expr} (h : Descends (e :: es)) :
    (e :: es).length ≤ e.height := by
  induction es generalizing e with
  | nil => exact e.height_pos
  | cons e' es ih =>
    obtain ⟨hmem, h⟩ := List.isChain_cons_cons.1 h
    have := Expr.height_lt_of_mem_children hmem
    have := ih h
    rw [List.length_cons]
    omega

namespace Grammar

mutual

theorem Unary.height_le {ts : List Token} {e : Expr} {n d : Nat} :
    Unary ts e n d → e.height + 4 ≤ 5 * d
  | .negative h => by
    have := h.height_le
    rw [Expr.height]
    omega
  | .positive h => by
    have := h.height_le
    omega
  | .bare h => by
    have := h.height_le
    omega

theorem Primary.height_le {ts : List Token} {e : Expr} {n d : Nat} :
    Primary ts e n d → e.height ≤ 5 * d + 1
  | .number _ => Nat.le_refl 1
  | .text _ => Nat.le_refl 1
  | .reference _ => Nat.le_refl 1
  | .truth _ _ => Nat.le_refl 1
  | .call _ h => by
    rw [Expr.height]
    exact Nat.succ_le_succ h.height_le
  | .group h => by
    have := h.height_le
    have := Level.length_all
    omega

/-- Every level adds one chain at most. -/
theorem Chain.height_le {levels : List Level} {ts : List Token} {e : Expr} {n d : Nat} :
    Chain levels ts e n d → e.height + 4 ≤ 5 * d + levels.length
  | .operand h => h.height_le
  | .single h => Nat.le_succ_of_le h.height_le
  | @Chain.chain _ _ _ _ first _ _ _ _ _ h h' _ => by
    have := h.height_le
    have := h'.height_le
    have := first.height_pos
    rw [Expr.height, List.length_cons]
    omega

theorem Tail.height_le {level : Level} {levels : List Level} {ts : List Token}
    {rest : List (Operator × Expr)} {n d : Nat} :
    Tail level levels ts rest n d → chainHeight rest ≤ 5 * d + levels.length - 4
  | .nil => Nat.zero_le _
  | .cons _ h h' => by
    have := h.height_le
    have := h'.height_le
    rw [chainHeight]
    omega

theorem CallArguments.height_le {ts : List Token} {es : List Expr} {n d : Nat} :
    CallArguments ts es n d → argsHeight es ≤ 5 * d
  | .none => Nat.zero_le _
  | .some h => h.height_le

theorem Separated.height_le {ts : List Token} {es : List Expr} {n d : Nat} :
    Separated ts es n d → argsHeight es ≤ 5 * d
  | .one h => by
    have := h.height_le
    have := Level.length_all
    rw [argsHeight, argsHeight]
    omega
  | .more h h' => by
    have := h.height_le
    have := h'.height_le
    have := Level.length_all
    rw [argsHeight]
    omega

end

end Grammar

/-! ### Stacks -/

/-- What is computed on a stack; nothing if the stack is too small for it. -/
abbrev OnStack (α : Type) := ExceptT Error Option α

/-- What takes no frame. -/
def OnStack.done {α : Type} (x : Except Error α) : OnStack α := .mk (some x)

theorem OnStack.done_bind {α β : Type} (x : Except Error α) (f : α → Except Error β) :
    (done x >>= fun a => done (f a)) = done (x >>= f) := by
  cases x <;> rfl

/-- The value of an expression on a stack of `frames` frames, one of which every expression takes
while it is evaluated. -/
def Expr.evalOnStack (scope : Scope) : Nat → Expr → OnStack Value
  | 0, _ => .mk none
  | _ + 1, .literal v => .done (.ok v)
  | _ + 1, .field reference => .done (scope.resolve reference)
  | frames + 1, .negate e => do
    let v ← e.evalOnStack scope frames
    .done (.ok (.number (-v.toNumber)))
  | frames + 1, .chain first rest => do
    let v ← first.evalOnStack scope frames
    rest.foldlM (fun v (op, e) => do
      let w ← e.evalOnStack scope frames
      .done (op.apply v w)) v
  | frames + 1, .call name args =>
    match Builtin.find? name with
    | none => .done (.error (.unknownFunction name))
    | some b =>
      if b.isLazy then
        match args with
        | [condition, yes, no] => do
          let v ← condition.evalOnStack scope frames
          if v.toBool then yes.evalOnStack scope frames else no.evalOnStack scope frames
        | _ => .done (.error (.argumentCount b.reportedName b.body.wants args.length))
      else do
        let vs ← args.mapM fun e => e.evalOnStack scope frames
        .done (b.call scope.now vs)

/-- The error of an unknown function, if there is one. -/
def refuse : Option String → Except Error Unit
  | some name => .error (.unknownFunction name)
  | none => .ok ()

/-- Looks for unknown functions on a stack of `frames` frames, one of which every expression takes
while it is looked through. -/
def Expr.checkOnStack : Nat → Expr → OnStack Unit
  | 0, _ => .mk none
  | frames + 1, .call name args =>
    if (Builtin.find? name).isNone then .done (.error (.unknownFunction name))
    else forM args (checkOnStack frames)
  | frames + 1, e => forM e.children (checkOnStack frames)

section Frames

variable {scope : Scope} {frames : Nat}

theorem foldlM_evalOnStack {rest : List (Operator × Expr)}
    (h : ∀ e ∈ rest.map Prod.snd, e.evalOnStack scope frames = .done (e.eval scope)) (v : Value) :
    (rest.foldlM (fun v (op, e) => do
      let w ← e.evalOnStack scope frames
      OnStack.done (op.apply v w)) v) = .done (evalChain scope v rest) := by
  induction rest generalizing v with
  | nil => rfl
  | cons x rest ih =>
    obtain ⟨op, e⟩ := x
    obtain ⟨he, hrest⟩ := List.forall_mem_cons.1 h
    rw [List.foldlM_cons, evalChain, ← bind_assoc, ← OnStack.done_bind]
    simp only [he, OnStack.done_bind, ih hrest]

theorem mapM_evalOnStack {es : List Expr}
    (h : ∀ e ∈ es, e.evalOnStack scope frames = .done (e.eval scope)) :
    (es.mapM fun e => e.evalOnStack scope frames) = .done (evalArgs scope es) := by
  induction es with
  | nil => rfl
  | cons e es ih =>
    obtain ⟨he, hes⟩ := List.forall_mem_cons.1 h
    rw [List.mapM_cons, evalArgs, he, ih hes, ← OnStack.done_bind]
    refine congrArg _ (funext fun v => ?_)
    rw [← OnStack.done_bind]
    rfl

/-- A stack is large enough for an expression that is not higher. -/
theorem Expr.evalOnStack_eq {e : Expr} (h : e.height ≤ frames) :
    e.evalOnStack scope frames = .done (e.eval scope) := by
  induction frames generalizing e with
  | zero => exact absurd h (Nat.not_le.2 e.height_pos)
  | succ frames ih =>
    have hchildren : ∀ e' ∈ e.children, e'.evalOnStack scope frames = .done (e'.eval scope) :=
      fun e' he' => ih (Nat.le_of_lt_succ (Nat.lt_of_lt_of_le (height_lt_of_mem_children he') h))
    cases e with
    | literal v => rfl
    | field reference => rfl
    | negate e =>
      rw [evalOnStack, eval, hchildren e List.mem_cons_self]
      exact OnStack.done_bind _ _
    | chain first rest =>
      obtain ⟨hfirst, hrest⟩ := List.forall_mem_cons.1 hchildren
      rw [evalOnStack, eval, hfirst, ← OnStack.done_bind]
      simp only [foldlM_evalOnStack hrest]
    | call name args =>
      rw [evalOnStack, eval]
      cases Builtin.find? name with
      | none => rfl
      | some b =>
        dsimp only
        split
        · match args, hchildren with
          | [], _ => rfl
          | [_], _ => rfl
          | [_, _], _ => rfl
          | [condition, yes, no], hchildren =>
            dsimp only
            rw [hchildren condition (by simp [children]), ← OnStack.done_bind]
            refine congrArg _ (funext fun v => ?_)
            split
            · exact hchildren yes (by simp [children])
            · exact hchildren no (by simp [children])
          | _ :: _ :: _ :: _ :: _, _ => rfl
        · have hargs : (args.mapM fun e => e.evalOnStack scope frames) =
              .done (evalArgs scope args) := mapM_evalOnStack hchildren
          rw [hargs]
          exact OnStack.done_bind _ _

theorem unknownInChain?_eq_unknownInArgs? (rest : List (Operator × Expr)) :
    unknownInChain? rest = unknownInArgs? (rest.map Prod.snd) := by
  induction rest with
  | nil => rfl
  | cons x rest ih => rw [unknownInChain?, List.map_cons, unknownInArgs?, ih]

theorem forM_checkOnStack {es : List Expr}
    (h : ∀ e ∈ es, e.checkOnStack frames = .done (refuse e.unknownCall?)) :
    (forM es (Expr.checkOnStack frames) : OnStack Unit) = .done (refuse (unknownInArgs? es)) := by
  induction es with
  | nil => rfl
  | cons e es ih =>
    obtain ⟨he, hes⟩ := List.forall_mem_cons.1 h
    rw [List.forM_cons, he, ih hes, unknownInArgs?]
    cases e.unknownCall? <;> rfl

theorem Expr.checkOnStack_eq {e : Expr} (h : e.height ≤ frames) :
    e.checkOnStack frames = .done (refuse e.unknownCall?) := by
  induction frames generalizing e with
  | zero => exact absurd h (Nat.not_le.2 e.height_pos)
  | succ frames ih =>
    have hchildren := forM_checkOnStack fun e' he' =>
      ih (Nat.le_of_lt_succ (Nat.lt_of_lt_of_le (height_lt_of_mem_children (e := e) he') h))
    cases e with
    | literal v => rfl
    | field reference => rfl
    | negate e =>
      rw [checkOnStack, hchildren]
      · simp [children, unknownInArgs?, unknownCall?]
      · exact nofun
    | chain first rest =>
      rw [checkOnStack, hchildren]
      · simp [children, unknownInArgs?, unknownCall?, unknownInChain?_eq_unknownInArgs?]
      · exact nofun
    | call name args =>
      rw [checkOnStack, unknownCall?]
      split
      · rfl
      · exact hchildren

end Frames

/-! ### Accepted formulas -/

/-- A formula that is accepted has at most 2000 literals, references, calls and negations, its
chains are of operators of one level, and no way from its top down has more than 1000 nodes.  So
1000 frames are enough to look through it for unknown functions, and to evaluate it in any scope. -/
theorem parse_bounded {source : String} {e : Expr} (parsed : parse source = .ok e) :
    e.parts.countP Expr.isOperand ≤ 2000 ∧
    (∀ first rest, .chain first rest ∈ e.parts →
      rest ≠ [] ∧ ∃ level, ∀ op ∈ rest.map Prod.fst, op.level = level) ∧
    (∀ es, Descends (e :: es) → (e :: es).length ≤ 1000) ∧
    e.checkOnStack 1000 = .done (refuse e.unknownCall?) ∧
    ∀ scope, e.evalOnStack scope 1000 = .done (e.eval scope) := by
  obtain ⟨ts, n, d, -, hc, hn, hd⟩ := exists_chain_of_parse parsed
  have hcounted := hc.counted
  have hheight : e.height ≤ 1000 := by
    have := hc.height_le
    have := Level.length_all
    unfold maxDepth at hd
    omega
  exact ⟨Nat.le_trans hcounted.count_le hn, fun _ _ hmem => hcounted.oneLevel _ hmem,
    fun _ h => Nat.le_trans h.length_le hheight, Expr.checkOnStack_eq hheight,
    fun _ => Expr.evalOnStack_eq hheight⟩

/-! ### A margin -/

/-- Chains of every level inside a call. -/
def margin : String := "IF(-\x7bPrice\x7d * 2 + 1 < 7 & \"%\", ABS(3 / 4), 0)"

def prices : Scope := ⟨fun _ => .ok (.number 5), ⟨0, 0⟩⟩

theorem parse_bounded_margin : ∃ e, parse margin = .ok e ∧
    e.parts.countP Expr.isOperand = 11 ∧ e.height = 6 ∧
    (∀ es, Descends (e :: es) → (e :: es).length ≤ 1000) ∧
    e.evalOnStack prices 5 = .mk none ∧ e.evalOnStack prices 1000 = .done (e.eval prices) := by
  obtain ⟨e, he, hg⟩ : ∃ e, parse margin = .ok e ∧ (e.parts.countP Expr.isOperand, e.height,
      (e.evalOnStack prices 5).run.isNone) = (11, 6, true) :=
    exists_ok (fun e : Expr => (e.parts.countP Expr.isOperand, e.height,
      (e.evalOnStack prices 5).run.isNone)) (by decide +kernel)
  obtain ⟨hcount, hheight, hnone⟩ : e.parts.countP Expr.isOperand = 11 ∧ e.height = 6 ∧
      (e.evalOnStack prices 5).run.isNone = true := by
    simpa only [Prod.mk.injEq] using hg
  obtain ⟨-, -, hdescends, -, heval⟩ := parse_bounded he
  exact ⟨e, he, hcount, hheight, hdescends, Option.isNone_iff_eq_none.1 hnone, heval prices⟩

end Formula

end FieldCalc
