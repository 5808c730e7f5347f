import FieldCalc.Proofs.Formula.Parsing

/-!
# Building something else of a formula

A map that keeps what two builders make of the parts of a formula, and their operators over
operands, keeps what they make of whole formulas (`Builder.Hom.ofScan_eq`): the one parser accepts
what the other does, gives the image of what the other gives, and has the same errors otherwise.
-/

namespace FieldCalc

namespace Formula

theorem bind_congr_ok {ε α β : Type} {x : Except ε α} {f g : α → Except ε β}
    (h : ∀ a, x = .ok a → f a = g a) : x >>= f = x >>= g := by
  cases x with
  | error e => rfl
  | ok a => exact h a rfl

variable {α β : Type}

/-- Whatever the parser accepts has an operand. -/
def Consumes (p : Parser α) : Prop :=
  ∀ ⦃s s' : Cursor⦄ ⦃x : α⦄, p s = .ok (x, s') → s'.room < s.room

/-- The parser that makes something else of what it takes. -/
def Parser.map (f : α → β) (p : Parser α) : Parser β := fun s => do
  let (x, s) ← p s
  return (f x, s)

theorem Consumes.map {p : Parser α} (h : Consumes p) (f : α → β) : Consumes (p.map f) := by
  intro s s' y hy
  obtain ⟨⟨x, s₁⟩, hx, hy⟩ := bind_eq_ok_iff.1 hy
  cases hy
  exact h hx

/-! ### Arguments -/

theorem argumentsTail_map (f : α → β) (p : Parser α) (fuel : Nat) :
    argumentsTail (p.map f) fuel = (argumentsTail p fuel).map (List.map f) := by
  induction fuel with
  | zero => rfl
  | succ fuel ih =>
    funext s
    rw [argumentsTail, Parser.map, Parser.map, argumentsTail, bind_assoc, bind_assoc]
    refine bind_congr_ok ?_
    rintro ⟨e, s₁⟩ -
    simp only [pure_bind]
    cases s₁.input with
    | token t o rest =>
      cases t with
      | comma =>
        dsimp only
        rw [bind_assoc]
        refine bind_congr_ok fun s₂ _ => ?_
        rw [ih, Parser.map, bind_assoc, bind_assoc]
        exact bind_congr_ok fun _ _ => rfl
      | rightParen =>
        dsimp only
        rw [bind_assoc]
        exact bind_congr_ok fun _ _ => rfl
      | _ => rfl
    | _ => rfl

theorem arguments_map (f : α → β) (p : Parser α) :
    arguments (p.map f) = (arguments p).map (List.map f) := by
  funext s
  rw [Parser.map]
  unfold arguments
  dsimp only
  cases s.input with
  | token t o rest =>
    cases t with
    | rightParen =>
      dsimp only
      rw [bind_assoc]
      exact bind_congr_ok fun _ _ => rfl
    | _ => exact congrFun (argumentsTail_map f p _) s
  | _ => exact congrFun (argumentsTail_map f p _) s

/-! ### Operands -/

/-- The image under `f` of what `b` builds is what `c` builds. -/
structure Builder.Hom (b : Builder α) (c : Builder β) (f : α → β) : Prop where
  literal (v : Value) : f (b.literal v) = c.literal v
  field (r : String) : f (b.field r) = c.field r
  negate (x : α) : f (b.negate x) = c.negate (f x)
  call (name : String) (xs : List α) : f (b.call name xs) = c.call name (xs.map f)
  expression {p : Parser α} (hp : Consumes p) :
    c.expression (p.map f) = (b.expression p).map f

namespace Builder.Hom

variable {b : Builder α} {c : Builder β} {f : α → β}

theorem primary_eq (h : Hom b c f) (p : Parser α) (t : Token) (offset : Nat) :
    c.primary (p.map f) t offset = (b.primary p t offset).map f := by
  funext s
  rw [Parser.map]
  unfold primary
  rw [arguments_map]
  simp only [← h.literal, ← h.field]
  cases t with
  | leftParen =>
    simp only [Parser.map, bind_assoc]
    exact bind_congr_ok fun _ _ => rfl
  | name name =>
    dsimp only
    cases s.input with
    | token u o rest =>
      cases u with
      | leftParen =>
        simp only [Parser.map, bind_assoc]
        refine bind_congr_ok fun s₁ _ => bind_congr_ok fun _ _ => ?_
        simp only [pure_bind, h.call]
      | _ => cases truthValue? name <;> rfl
    | _ => cases truthValue? name <;> rfl
  | _ => rfl

/-- Operands are the same down to what is nested in them. -/
theorem operand_eq (h : Hom b c f) (hb : ∀ depth, Consumes (b.operand depth)) (depth : Nat) :
    c.operand depth = (b.operand depth).map f := by
  induction depth with
  | zero => rfl
  | succ depth ih =>
    funext s
    -- an operand without a sign, behind its first token
    have hprimary (t : Token) (o : Nat) (s : Cursor) :
        (s.advance >>= c.primary (c.expression (c.operand depth)) t o) = Parser.map f
          (fun s => s.advance >>= b.primary (b.expression (b.operand depth)) t o) s := by
      rw [ih, h.expression (hb depth), h.primary_eq]
      exact (bind_assoc _ _ _).symm
    rw [Parser.map]
    unfold operand
    split
    · rfl
    · dsimp only
      cases s.input with
      | token t o rest =>
        cases t with
        | operator op =>
          cases op with
          | subtract =>
            dsimp only
            rw [ih, bind_assoc]
            refine bind_congr_ok fun s₁ _ => ?_
            simp only [Parser.map, bind_assoc]
            refine bind_congr_ok fun _ _ => ?_
            simp only [pure_bind, h.negate]
          | add =>
            dsimp only
            rw [ih, bind_assoc]
            rfl
          | _ => exact hprimary _ o _
        | _ => exact hprimary _ o _
      | _ => rfl

theorem ofScan_eq (h : Hom b c f) (hb : ∀ depth, Consumes (b.operand depth)) (input : Scan) :
    c.ofScan input = f <$> b.ofScan input := by
  unfold ofScan
  rw [h.operand_eq hb, h.expression (hb maxDepth)]
  cases input with
  | broken offset fault => rfl
  | _ =>
    dsimp only
    rw [Parser.map, bind_assoc, map_bind]
    refine bind_congr_ok ?_
    rintro ⟨e, s'⟩ -
    rw [pure_bind]
    cases s'.input <;> rfl

end Builder.Hom

/-! ### Operands of expressions -/

theorem consumes_operand (depth : Nat) : Consumes (Expr.builder.operand depth) := by
  intro s s' e h
  obtain ⟨ts, n, d, hu, -, hts⟩ := (parses_operand depth).sound h
  have := hu.pos
  have := hts.room
  omega

end Formula

end FieldCalc
