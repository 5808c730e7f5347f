import FieldCalc.Proofs.Formula.BinaryTree
import FieldCalc.Proofs.Formula.Building

/-!
# Parsing by precedence climbing

The usual way to parse binary operators: each has a precedence, and a loop takes one operator after
another, as long as they bind tightly enough, into a binary tree, with a right operand in which only
tighter operators may come (`Climbing.operators_eq`).  Operands are taken as by the parser of chains
(`Climbing.builder`).  It gives the binary trees of what that one gives, and otherwise the same
errors at the same places (`Climbing.parse_eq`), so that formulas have the same values either way
(`parse_bind_eval_eq`).
-/

namespace FieldCalc

namespace Formula

/-- How tightly operators of a level bind. -/
def Level.precedence : Level → Nat
  | .comparison => 1
  | .joining => 2
  | .sum => 3
  | .product => 4

def Operator.precedence (op : Operator) : Nat := op.level.precedence

theorem Operator.precedence_eq_iff {op : Operator} {level : Level} :
    op.precedence = level.precedence ↔ op.level = level := by
  cases op <;> cases level <;> decide

theorem Operator.one_le_precedence (op : Operator) : 1 ≤ op.precedence := by
  cases op <;> decide

theorem Operator.precedence_lt (op : Operator) : op.precedence < 5 := by
  cases op <;> decide

namespace Climbing

/-! ### The climbing parser -/

/-- Takes operators of at least the precedence `least` and their right operands off the input, one
at a time, at most `fuel` of them inside one another. -/
def loop (operand : Parser Tree) : Nat → Nat → Tree → Parser Tree
  | 0, _, left, s => .ok (left, s)
  | fuel + 1, least, left, s =>
    match s.input with
    | .token (.operator op) _ _ =>
      if least ≤ op.precedence then do
        let s ← s.advance
        let (right, s) ← operand s
        let (right, s) ← loop operand fuel (op.precedence + 1) right s
        loop operand fuel least (.binary op left right) s
      else .ok (left, s)
    | _ => .ok (left, s)

/-- Operators of at least the precedence `least` after the operand `left`. -/
def operators (operand : Parser Tree) (least : Nat) (left : Tree) : Parser Tree := fun s =>
  loop operand (s.room + 1) least left s

/-- An operand and operators of at least the precedence `least`. -/
def expression (operand : Parser Tree) (least : Nat) : Parser Tree := fun s => do
  let (left, s) ← operand s
  operators operand least left s

/-- Trees, with operators taken by climbing. -/
def builder : Builder Tree where
  literal := .literal
  field := .field
  negate := .negate
  call := .call
  expression p := expression p 0

/-- The tree that a source spells. -/
def parse (source : String) : Except Error Tree := builder.ofScan (Scan.ofSource source)

/-! ### Taking one operator at a time -/

/-- What comes next is no operator of at least the precedence `least`. -/
def Below (least : Nat) : Scan → Prop
  | .token (.operator op) _ _ => op.precedence < least
  | _ => True

variable {p : Parser Tree} {least : Nat} {left t : Tree} {s s' : Cursor}

theorem room_of_advance (h : s.advance = .ok s') : s'.room = s.room := by
  unfold Cursor.advance at h
  split at h <;> cases h <;> rfl

theorem room_loop (hp : Consumes p) {fuel : Nat} (h : loop p fuel least left s = .ok (t, s')) :
    s'.room ≤ s.room := by
  induction fuel generalizing least left s t s' with
  | zero =>
    cases h
    exact Nat.le_refl _
  | succ fuel ih =>
    unfold loop at h
    split at h
    · split at h
      · obtain ⟨s₁, h₁, h⟩ := bind_eq_ok_iff.1 h
        obtain ⟨⟨right, s₂⟩, h₂, h⟩ := bind_eq_ok_iff.1 h
        obtain ⟨⟨right', s₃⟩, h₃, h⟩ := bind_eq_ok_iff.1 h
        have := room_of_advance h₁
        have := hp h₂
        have := ih h₃
        have := ih h
        omega
      · cases h
        exact Nat.le_refl _
    · cases h
      exact Nat.le_refl _

/-- Every operand leaves less room for others, so any fuel beyond the room is as good. -/
theorem loop_fuel (hp : Consumes p) {fuel fuel' : Nat} (h : s.room < fuel) (h' : s.room < fuel') :
    loop p fuel least left s = loop p fuel' least left s := by
  induction fuel generalizing fuel' least left s with
  | zero => omega
  | succ fuel ih =>
    obtain ⟨fuel', rfl⟩ : ∃ n, fuel' = n + 1 := ⟨fuel' - 1, by omega⟩
    unfold loop
    split
    · rename_i op o rest _
      split
      · refine bind_congr_ok fun s₁ h₁ => bind_congr_ok ?_
        rintro ⟨right, s₂⟩ h₂
        have r₁ := room_of_advance h₁
        have r₂ := hp h₂
        have e : loop p fuel (op.precedence + 1) right s₂ =
            loop p fuel' (op.precedence + 1) right s₂ := ih (by omega) (by omega)
        dsimp only
        rw [e]
        refine bind_congr_ok ?_
        rintro ⟨right', s₃⟩ h₃
        have r₃ := room_loop hp h₃
        dsimp only
        exact ih (by omega) (by omega)
      · rfl
    · rfl

/-- The loop of precedence climbing. -/
theorem operators_eq (hp : Consumes p) : operators p least left s =
    match s.input with
    | .token (.operator op) _ _ =>
      if least ≤ op.precedence then do
        let s ← s.advance
        let (right, s) ← expression p (op.precedence + 1) s
        operators p least (.binary op left right) s
      else .ok (left, s)
    | _ => .ok (left, s) := by
  unfold operators
  rw [loop]
  split
  · rename_i op o rest _
    split
    · refine bind_congr_ok fun s₁ h₁ => ?_
      rw [expression, bind_assoc]
      refine bind_congr_ok ?_
      rintro ⟨right, s₂⟩ h₂
      have r₁ := room_of_advance h₁
      have r₂ := hp h₂
      have e : loop p s.room (op.precedence + 1) right s₂ =
          operators p (op.precedence + 1) right s₂ := loop_fuel hp (by omega) (Nat.lt_succ_self _)
      dsimp only
      rw [e]
      refine bind_congr_ok ?_
      rintro ⟨right', s₃⟩ h₃
      have r₃ := room_loop hp h₃
      dsimp only
      exact loop_fuel hp (by omega) (Nat.lt_succ_self _)
    · rfl
  · rfl

theorem below_five (input : Scan) : Below 5 input := by
  unfold Below
  split
  · exact Operator.precedence_lt _
  · trivial

/-- What comes next is no operator at all. -/
theorem below_zero {input : Scan} (h : Below 1 input) : Below 0 input := by
  unfold Below at h ⊢
  split at h
  · rename_i op o rest
    exact absurd h (Nat.not_lt.2 op.one_le_precedence)
  · trivial

theorem operators_of_below (hp : Consumes p) (h : Below least s.input) :
    operators p least left s = .ok (left, s) := by
  rw [operators_eq hp]
  split
  · rename_i hs
    rw [hs] at h
    exact if_neg (Nat.not_le.2 h)
  · rfl

theorem operators_of_le (hp : Consumes p) {op : Operator} {o : Nat} {rest : Scan}
    (hs : s.input = .token (.operator op) o rest) (h : least ≤ op.precedence) :
    operators p least left s = (do
      let s ← s.advance
      let (right, s) ← expression p (op.precedence + 1) s
      operators p least (.binary op left right) s) := by
  rw [operators_eq hp]
  simp only [hs, if_pos h]

theorem exists_operator_of_not_below {input : Scan} (h : ¬ Below least input) :
    ∃ op o rest, input = .token (.operator op) o rest ∧ least ≤ op.precedence := by
  unfold Below at h
  split at h
  · rename_i op o rest
    exact ⟨op, o, rest, rfl, Nat.not_lt.1 h⟩
  · exact absurd trivial h

theorem room_expression (hp : Consumes p) : Consumes (expression p least) := by
  intro s s' t h
  obtain ⟨⟨left, s₁⟩, h₁, h⟩ := bind_eq_ok_iff.1 h
  have := hp h₁
  have := room_loop hp h
  omega

/-- The loop goes on until no operator binds tightly enough. -/
theorem below_of_operators (hp : Consumes p) (h : operators p least left s = .ok (t, s')) :
    Below least s'.input := by
  induction hn : s.room using Nat.strongRecOn generalizing left s with
  | ind n ih =>
    by_cases hb : Below least s.input
    · rw [operators_of_below hp hb] at h
      cases h
      exact hb
    · obtain ⟨op, o, rest, hs, hle⟩ := exists_operator_of_not_below hb
      rw [operators_of_le hp hs hle] at h
      obtain ⟨s₁, h₁, h⟩ := bind_eq_ok_iff.1 h
      obtain ⟨⟨right, s₂⟩, h₂, h⟩ := bind_eq_ok_iff.1 h
      have r₁ := room_of_advance h₁
      have r₂ := room_expression hp h₂
      exact ih s₂.room (by omega) h rfl

theorem below_of_expression (hp : Consumes p) (h : expression p least s = .ok (t, s')) :
    Below least s'.input := by
  obtain ⟨⟨left, s₁⟩, -, h⟩ := bind_eq_ok_iff.1 h
  exact below_of_operators hp h

/-- The tightest operators can be taken first. -/
theorem operators_succ (hp : Consumes p) : operators p least left s =
    operators p (least + 1) left s >>= fun (t, s) => operators p least t s := by
  induction hn : s.room using Nat.strongRecOn generalizing left s with
  | ind n ih =>
    by_cases hb : Below (least + 1) s.input
    · have e : operators p (least + 1) left s = .ok (left, s) := operators_of_below hp hb
      rw [e]
      rfl
    · obtain ⟨op, o, rest, hs, hle⟩ := exists_operator_of_not_below hb
      rw [operators_of_le hp hs hle, operators_of_le hp hs (Nat.le_of_succ_le hle), bind_assoc]
      refine bind_congr_ok fun s₁ h₁ => ?_
      rw [bind_assoc]
      refine bind_congr_ok ?_
      rintro ⟨right, s₂⟩ h₂
      have r₁ := room_of_advance h₁
      have r₂ := room_expression hp h₂
      exact ih s₂.room (by omega) rfl

theorem expression_succ (hp : Consumes p) : expression p least s =
    expression p (least + 1) s >>= fun (t, s) => operators p least t s := by
  unfold expression
  rw [bind_assoc]
  refine bind_congr_ok ?_
  rintro ⟨left, s₁⟩ -
  exact operators_succ hp

/-! ### Chains as trees -/

variable {q : Parser Expr}

/-- Of operators of one level the loop makes what a chain of them is as a tree. -/
theorem operators_eq_chainTail (level : Level) (hp : Consumes p)
    (hq : expression p (level.precedence + 1) = q.map Expr.toTree) {fuel : Nat} (hf : s.room < fuel)
    (hb : Below (level.precedence + 1) s.input) :
    operators p level.precedence left s = (chainTail level q fuel).map (chainTree left) s := by
  induction fuel generalizing left s with
  | zero => omega
  | succ fuel ih =>
    by_cases hb' : Below level.precedence s.input
    · rw [operators_of_below hp hb', Parser.map, chainTail]
      split
      · rename_i op o rest hs
        rw [hs] at hb'
        have hne : op.level ≠ level := fun h =>
          Nat.lt_irrefl _ (Operator.precedence_eq_iff.2 h ▸ hb')
        rw [if_neg hne]
        rfl
      · rfl
    · obtain ⟨op, o, rest, hs, hle⟩ := exists_operator_of_not_below hb'
      rw [hs] at hb
      have hop : op.precedence = level.precedence := Nat.le_antisymm (Nat.le_of_lt_succ hb) hle
      rw [operators_of_le hp hs hle, Parser.map, chainTail]
      simp only [hs, if_pos (Operator.precedence_eq_iff.1 hop), bind_assoc]
      refine bind_congr_ok fun s₁ h₁ => ?_
      rw [hop, hq, Parser.map, bind_assoc]
      refine bind_congr_ok ?_
      rintro ⟨e, s₂⟩ h₂
      have he : expression p (level.precedence + 1) s₁ = .ok (e.toTree, s₂) := by
        rw [hq, Parser.map, h₂]
        rfl
      have r₁ := room_of_advance h₁
      have r₂ := room_expression hp he
      refine (ih (by omega) (below_of_expression hp he)).trans ?_
      rw [Parser.map]
      exact bind_congr_ok fun _ _ => rfl

/-- A level of chains around parsers that climb from the next precedence. -/
theorem expression_precedence (level : Level) (hp : Consumes p)
    (hq : expression p (level.precedence + 1) = q.map Expr.toTree) :
    expression p level.precedence = (chain level q).map Expr.toTree := by
  funext s
  rw [expression_succ hp, hq, Parser.map, Parser.map, chain, bind_assoc, bind_assoc]
  refine bind_congr_ok ?_
  rintro ⟨first, s₁⟩ h
  have he : expression p (level.precedence + 1) s = .ok (first.toTree, s₁) := by
    rw [hq, Parser.map, h]
    rfl
  refine (operators_eq_chainTail level hp hq (Nat.lt_succ_self _)
    (below_of_expression hp he)).trans ?_
  rw [Parser.map, bind_assoc]
  refine bind_congr_ok ?_
  rintro ⟨rest, s₂⟩ -
  cases rest <;> rfl

/-- Climbing from the lowest precedence gives the trees of chains of every level. -/
theorem expression_zero (hp : Consumes p) (hq : p = q.map Expr.toTree) :
    expression p 0 = (Formula.expression q).map Expr.toTree := by
  have h₀ : expression p 0 = expression p 1 := by
    funext s
    rw [expression_succ hp]
    cases h : expression p 1 s with
    | error e => rfl
    | ok x =>
      exact operators_of_below hp (below_zero (below_of_expression hp h))
  have h₅ : expression p 5 = q.map Expr.toTree := by
    funext s
    rw [← hq, expression]
    cases h : p s with
    | error e => rfl
    | ok x => exact operators_of_below hp (below_five x.2.input)
  rw [h₀]
  exact expression_precedence .comparison hp <| expression_precedence .joining hp <|
    expression_precedence .sum hp <| expression_precedence .product hp h₅

/-! ### Formulas as trees -/

/-- The binary trees of expressions are built as the expressions are. -/
theorem hom_toTree : Expr.builder.Hom builder Expr.toTree where
  literal _ := rfl
  field _ := rfl
  negate _ := rfl
  call name es := congrArg (Tree.call name) (toTrees_eq_map es)
  expression hp := expression_zero (hp.map _) rfl

/-- The climbing parser gives the binary trees of what the parser of chains gives. -/
theorem parse_eq (source : String) : parse source = Expr.toTree <$> Formula.parse source :=
  hom_toTree.ofScan_eq consumes_operand _

end Climbing

/-- Parsing into chains and evaluating them from left to right comes to the same as climbing and
evaluating the binary tree by plain recursion: in the values, in the errors of sources that cannot
be parsed, and in the error that an evaluation meets first. -/
theorem parse_bind_eval_eq (source : String) (scope : Scope) :
    (∀ error, parse source = .error error ↔ Climbing.parse source = .error error) ∧
      (parse source >>= fun e => e.eval scope) =
        (Climbing.parse source >>= fun t => t.eval scope) := by
  rw [Climbing.parse_eq]
  cases parse source with
  | error e => exact ⟨fun error => ⟨fun h => by cases h; rfl, fun h => by cases h; rfl⟩, rfl⟩
  | ok e => exact ⟨fun error => ⟨nofun, nofun⟩, (e.eval_toTree scope).symm⟩

end Formula

end FieldCalc
