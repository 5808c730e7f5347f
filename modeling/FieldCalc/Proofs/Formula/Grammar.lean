import FieldCalc.Formula.Parser

/-!
# The grammar of formulas

Which lists of tokens are expressions, and of which trees.  A derivation also counts the operands
that are in it, signs included, and how many of them lie inside one another at most, since a
formula may only have so many.  Nothing that may follow a truth value is an opening parenthesis, so
a name before one is always that of a call.  Any other name is a truth value, in letters of either
case (`Primary.name_iff`).
-/

namespace FieldCalc

namespace Formula

/-- The levels of operators, the loosest first. -/
def Level.all : List Level := [.comparison, .joining, .sum, .product]

def Level.operators : Level → List Operator
  | .comparison => [.equal, .notEqual, .less, .lessEqual, .greater, .greaterEqual]
  | .joining => [.concat]
  | .sum => [.add, .subtract]
  | .product => [.multiply, .divide]

theorem Level.mem_operators {level : Level} {op : Operator} :
    op ∈ level.operators ↔ op.level = level := by
  cases level <;> cases op <;> decide

namespace Grammar

mutual

/-- An operand behind its signs.  A plus sign leaves nothing in the tree. -/
inductive Unary : List Token → Expr → Nat → Nat → Prop
  | negative {ts : List Token} {e : Expr} {n d : Nat} : Unary ts e n d →
      Unary (.operator .subtract :: ts) (.negate e) (n + 1) (d + 1)
  | positive {ts : List Token} {e : Expr} {n d : Nat} : Unary ts e n d →
      Unary (.operator .add :: ts) e (n + 1) (d + 1)
  | bare {ts : List Token} {e : Expr} {n d : Nat} : Primary ts e n d → Unary ts e (n + 1) (d + 1)

/-- An operand without a sign.  Parentheses leave nothing in the tree. -/
inductive Primary : List Token → Expr → Nat → Nat → Prop
  | number (x : Float) : Primary [.number x] (.literal (.number x)) 0 0
  | text (s : String) : Primary [.text s] (.literal (.text s)) 0 0
  | reference (s : String) : Primary [.reference s] (.field s) 0 0
  | truth {s : String} (b : Bool) : Text.lowerAscii s = (if b then "true" else "false") →
      Primary [.name s] (.literal (.bool b)) 0 0
  | call {ts : List Token} {es : List Expr} {n d : Nat} (s : String) : CallArguments ts es n d →
      Primary (.name s :: .leftParen :: (ts ++ [.rightParen])) (.call s es) n d
  | group {ts : List Token} {e : Expr} {n d : Nat} : Chain Level.all ts e n d →
      Primary (.leftParen :: (ts ++ [.rightParen])) e n d

/-- Operators of some levels over operands.  A level without an operator leaves nothing in the
tree. -/
inductive Chain : List Level → List Token → Expr → Nat → Nat → Prop
  | operand {ts : List Token} {e : Expr} {n d : Nat} : Unary ts e n d → Chain [] ts e n d
  | single {level : Level} {levels : List Level} {ts : List Token} {e : Expr} {n d : Nat} :
      Chain levels ts e n d → Chain (level :: levels) ts e n d
  | chain {level : Level} {levels : List Level} {ts us : List Token} {e : Expr}
      {rest : List (Operator × Expr)} {n d m k : Nat} : Chain levels ts e n d →
      Tail level levels us rest m k → rest ≠ [] →
      Chain (level :: levels) (ts ++ us) (.chain e rest) (n + m) (max d k)

/-- The operators of one level with their right operands. -/
inductive Tail : Level → List Level → List Token → List (Operator × Expr) → Nat → Nat → Prop
  | nil {level : Level} {levels : List Level} : Tail level levels [] [] 0 0
  | cons {level : Level} {levels : List Level} {op : Operator} {ts us : List Token} {e : Expr}
      {rest : List (Operator × Expr)} {n d m k : Nat} : op ∈ level.operators →
      Chain levels ts e n d → Tail level levels us rest m k →
      Tail level levels (.operator op :: (ts ++ us)) ((op, e) :: rest) (n + m) (max d k)

/-- What stands between the parentheses of a call. -/
inductive CallArguments : List Token → List Expr → Nat → Nat → Prop
  | none : CallArguments [] [] 0 0
  | some {ts : List Token} {es : List Expr} {n d : Nat} : Separated ts es n d →
      CallArguments ts es n d

/-- Expressions separated by commas, at least one. -/
inductive Separated : List Token → List Expr → Nat → Nat → Prop
  | one {ts : List Token} {e : Expr} {n d : Nat} : Chain Level.all ts e n d → Separated ts [e] n d
  | more {ts us : List Token} {e : Expr} {es : List Expr} {n d m k : Nat} :
      Chain Level.all ts e n d → Separated us es m k →
      Separated (ts ++ .comma :: us) (e :: es) (n + m) (max d k)

end

/-! ### Truth values -/

/-- A name is an operand by itself if it has the letters of `true` or of `false`, each of them small
or capital. -/
theorem Primary.name_iff {s : String} {e : Expr} {n d : Nat} :
    Primary [.name s] e n d ↔ n = 0 ∧ d = 0 ∧ ∃ b : Bool, e = .literal (.bool b) ∧
      let word := if b then "true" else "false"
      s.length = word.length ∧
        ∀ p ∈ s.toList.zip word.toList, p.1 = p.2 ∨ p.1.toNat + 32 = p.2.toNat := by
  have hsmall (b : Bool) : ∀ c ∈ (if b then "true" else "false").toList, 'a' ≤ c ∧ c ≤ 'z' := by
    cases b <;> simp
  constructor
  · rintro ⟨⟩
    rename_i b hb
    exact ⟨rfl, rfl, b, rfl, (Text.lowerAscii_eq_iff (hsmall b)).1 hb⟩
  · rintro ⟨rfl, rfl, b, rfl, hb⟩
    exact .truth b ((Text.lowerAscii_eq_iff (hsmall b)).2 hb)

/-! ### How derivations begin -/

theorem Unary.pos {ts : List Token} {e : Expr} {n d : Nat} (h : Unary ts e n d) : 0 < n := by
  cases h <;> exact Nat.succ_pos _

/-- Every chain has an operand. -/
theorem Chain.pos {levels : List Level} {ts : List Token} {e : Expr} {n d : Nat}
    (h : Chain levels ts e n d) : 0 < n := by
  induction levels generalizing ts e n d with
  | nil =>
    cases h with
    | operand h => exact h.pos
  | cons level levels ih =>
    cases h with
    | single h => exact ih h
    | chain h _ _ => exact Nat.add_pos_left (ih h) _

theorem Separated.pos {ts : List Token} {es : List Expr} {n d : Nat} (h : Separated ts es n d) :
    0 < n := by
  cases h with
  | one h => exact h.pos
  | more h _ => exact Nat.add_pos_left h.pos _

theorem Unary.head_ne {ts : List Token} {e : Expr} {n d : Nat} (h : Unary ts e n d) :
    ∃ t us, ts = t :: us ∧ t ≠ .rightParen := by
  cases h with
  | negative => exact ⟨_, _, rfl, nofun⟩
  | positive => exact ⟨_, _, rfl, nofun⟩
  | bare h => cases h <;> exact ⟨_, _, rfl, nofun⟩

/-- No expression begins with a closing parenthesis. -/
theorem Chain.head_ne {levels : List Level} {ts : List Token} {e : Expr} {n d : Nat}
    (h : Chain levels ts e n d) : ∃ t us, ts = t :: us ∧ t ≠ .rightParen := by
  induction levels generalizing ts e n d with
  | nil =>
    cases h with
    | operand h => exact h.head_ne
  | cons level levels ih =>
    cases h with
    | single h => exact ih h
    | chain h _ _ =>
      obtain ⟨t, us, rfl, ht⟩ := ih h
      exact ⟨t, _, rfl, ht⟩

theorem Separated.head_ne {ts : List Token} {es : List Expr} {n d : Nat}
    (h : Separated ts es n d) : ∃ t us, ts = t :: us ∧ t ≠ .rightParen := by
  cases h with
  | one h => exact h.head_ne
  | more h _ =>
    obtain ⟨t, us, rfl, ht⟩ := h.head_ne
    exact ⟨t, _, rfl, ht⟩

end Grammar

end Formula

end FieldCalc
