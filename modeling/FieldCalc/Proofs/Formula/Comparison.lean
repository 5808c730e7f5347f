import FieldCalc.Formula.Eval
import FieldCalc.Proofs.Number.Order

/-!
# Comparisons

The six comparison operators read one order of the two values (`Operator.holds_iff`): that of their
numbers, or else that of their texts.  Which of the two it is does not depend on the side, so
turning the values round turns the order round (`Value.order?_swap`), and there is no order only
where a number that is compared is NaN (`Value.order?_eq_none_iff`).  So the operators fit together
on every two values (`Operator.comparisons_cohere`).
-/

namespace FieldCalc

/-! ### The order of two values -/

namespace Number

theorem order?_swap (x y : Float) : order? y x = (order? x y).map Ordering.swap := by
  unfold order?
  rw [Bool.or_comm]
  split
  · rfl
  · rw [Option.map_some, Int.compare_swap]

theorem order?_eq_none_iff {x y : Float} : order? x y = none ↔ isNaN x ∨ isNaN y := by
  unfold order?
  rw [← Bool.or_eq_true]
  split <;> simp_all

end Number

namespace Value

/-- Both values are compared as numbers, and one of the numbers is NaN. -/
def Unordered (v w : Value) : Prop :=
  ∃ x y, v.comparable? = some x ∧ w.comparable? = some y ∧ (Number.isNaN x ∨ Number.isNaN y)

/-- Numbers or texts are compared in both directions alike. -/
theorem order?_swap (v w : Value) : w.order? v = (v.order? w).map Ordering.swap := by
  have htext : compare w.toText v.toText = (compare v.toText w.toText).swap :=
    Std.OrientedCmp.eq_swap
  unfold order?
  cases v.comparable? with
  | none => cases w.comparable? <;> exact congrArg some htext
  | some x =>
    cases w.comparable? with
    | none => exact congrArg some htext
    | some y => exact Number.order?_swap x y

theorem order?_eq_none_iff {v w : Value} : v.order? w = none ↔ v.Unordered w := by
  unfold order? Unordered
  cases v.comparable? with
  | none => simp
  | some x =>
    cases w.comparable? with
    | none => simp
    | some y => simp [Number.order?_eq_none_iff]

/-- Values that are compared as numbers stand in the order of the numbers. -/
theorem order?_of_numbers {v w : Value} {x y : Float} {p q : ℚ} (hv : v.comparable? = some x)
    (hw : w.comparable? = some y) (hx : Number.value? x = some p) (hy : Number.value? y = some q) :
    v.order? w = some (compare p q) := by
  rw [order?, hv, hw]
  exact Number.order?_eq_compare hx hy

/-- Any other values stand in the order of their texts. -/
theorem order?_of_texts {v w : Value} (h : v.comparable? = none ∨ w.comparable? = none) :
    v.order? w = some (compare v.toText w.toText) := by
  unfold order?
  rcases h with h | h
  · rw [h]
  · rw [h]
    cases v.comparable? <;> rfl

end Value

/-! ### The operators -/

namespace Formula

namespace Operator

/-- A comparison comes out true. -/
def Holds (op : Operator) (v w : Value) : Prop := op.apply v w = .ok (.bool true)

/-- What a comparison wants the order of two values to be. -/
def Wants : Operator → Option Ordering → Prop
  | .equal, o => o = some .eq
  | .notEqual, o => o ≠ some .eq
  | .less, o => o = some .lt
  | .lessEqual, o => o = some .lt ∨ o = some .eq
  | .greater, o => o = some .gt
  | .greaterEqual, o => o = some .gt ∨ o = some .eq
  | _, _ => False

/-- The comparison that says the same from the other side. -/
def mirrored : Operator → Operator
  | .less => .greater
  | .lessEqual => .greaterEqual
  | .greater => .less
  | .greaterEqual => .lessEqual
  | op => op

variable {op : Operator} {v w : Value}

theorem exists_apply_eq_bool (h : op.level = .comparison) (v w : Value) :
    ∃ b, op.apply v w = .ok (.bool b) := by
  cases op <;> first | exact ⟨_, rfl⟩ | cases h

theorem holds_iff : op.Holds v w ↔ op.Wants (v.order? w) := by
  cases op with
  | divide =>
    unfold Holds apply
    dsimp only
    split <;> simp [Wants]
  | _ => simp [Holds, Wants, apply]

theorem wants_mirrored (o : Option Ordering) : op.mirrored.Wants (o.map .swap) ↔ op.Wants o := by
  cases op <;> rcases o with _ | _ | _ | _ <;> simp [mirrored, Wants]

theorem holds_mirrored (op : Operator) (v w : Value) : op.mirrored.Holds w v ↔ op.Holds v w := by
  rw [holds_iff, holds_iff, Value.order?_swap, wants_mirrored]

theorem exactly_one (h : ¬ v.Unordered w) :
    less.Holds v w ∧ ¬ equal.Holds v w ∧ ¬ greater.Holds v w ∨
    ¬ less.Holds v w ∧ equal.Holds v w ∧ ¬ greater.Holds v w ∨
    ¬ less.Holds v w ∧ ¬ equal.Holds v w ∧ greater.Holds v w := by
  obtain ⟨o, ho⟩ := Option.ne_none_iff_exists'.1 (mt Value.order?_eq_none_iff.1 h)
  simp only [holds_iff, ho]
  cases o <;> simp [Wants]

/-- On every two values each comparison has a truth value.  `=` does not depend on the side, `<` and
`>` are each other from the other side, and so are `<=` and `>=`; `!=` is the opposite of `=`, and
`<=` and `>=` are `<` and `>` with `=`.  Exactly one of `<`, `=` and `>` holds, but none where both
values are compared as numbers and one of these is NaN.  Numbers are compared by what they are, and
values of which one has no number by their texts. -/
theorem comparisons_cohere (v w : Value) :
    (∀ op : Operator, op.level = .comparison → ∃ b, op.apply v w = .ok (.bool b)) ∧
    (equal.Holds v w ↔ equal.Holds w v) ∧
    (less.Holds v w ↔ greater.Holds w v) ∧
    (lessEqual.Holds v w ↔ greaterEqual.Holds w v) ∧
    (notEqual.Holds v w ↔ ¬ equal.Holds v w) ∧
    (lessEqual.Holds v w ↔ less.Holds v w ∨ equal.Holds v w) ∧
    (greaterEqual.Holds v w ↔ greater.Holds v w ∨ equal.Holds v w) ∧
    (¬ v.Unordered w →
      less.Holds v w ∧ ¬ equal.Holds v w ∧ ¬ greater.Holds v w ∨
      ¬ less.Holds v w ∧ equal.Holds v w ∧ ¬ greater.Holds v w ∨
      ¬ less.Holds v w ∧ ¬ equal.Holds v w ∧ greater.Holds v w) ∧
    (v.Unordered w →
      ¬ less.Holds v w ∧ ¬ equal.Holds v w ∧ ¬ greater.Holds v w ∧ notEqual.Holds v w) ∧
    (∀ x y p q, v.comparable? = some x → w.comparable? = some y → Number.value? x = some p →
      Number.value? y = some q → (less.Holds v w ↔ p < q) ∧ (equal.Holds v w ↔ p = q)) ∧
    (v.comparable? = none ∨ w.comparable? = none →
      (less.Holds v w ↔ v.toText < w.toText) ∧ (equal.Holds v w ↔ v.toText = w.toText)) := by
  refine ⟨fun op h => exists_apply_eq_bool h v w, holds_mirrored equal w v,
    holds_mirrored greater w v, holds_mirrored greaterEqual w v, ?_, ?_, ?_, exactly_one,
    fun h => ?_, fun x y p q hv hw hx hy => ?_, fun h => ?_⟩
  · simp only [holds_iff, Wants, ne_eq]
  · simp only [holds_iff, Wants]
  · simp only [holds_iff, Wants]
  · simp [holds_iff, Wants, Value.order?_eq_none_iff.2 h]
  · simp only [holds_iff, Wants, Value.order?_of_numbers hv hw hx hy, Option.some_inj]
    exact ⟨compare_lt_iff_lt, compare_eq_iff_eq⟩
  · simp only [holds_iff, Wants, Value.order?_of_texts h, Option.some_inj]
    exact ⟨compare_lt_iff_lt, compare_eq_iff_eq⟩

/-! ### Weights -/

/-- Two numerals are compared as numbers, a numeral and another text as texts, and NaN is different
from every number. -/
theorem comparisons_cohere_weights :
    (greater.Holds (.text " 10") (.text "9.5") ∧ less.Holds (.text "9.5") (.text " 10")) ∧
    (Value.comparable? (.text "9.5 kg") = none ∧
      (less.Holds (.text " 10") (.text "9.5 kg") ↔ " 10" < "9.5 kg")) ∧
    Value.Unordered (.number Number.nan) (.bool true) ∧
      notEqual.Holds (.number Number.nan) (.bool true) := by
  have hgreater : greater.Holds (.text " 10") (.text "9.5") :=
    holds_iff.2 (by decide +kernel : Value.order? (.text " 10") (.text "9.5") = some .gt)
  have hless := (comparisons_cohere (.text "9.5") (.text " 10")).2.2.1.2 hgreater
  have hkg : Value.comparable? (.text "9.5 kg") = none := by decide +kernel
  obtain ⟨-, -, -, -, -, -, -, -, -, -, htexts⟩ :=
    comparisons_cohere (.text " 10") (.text "9.5 kg")
  have hnan : Value.Unordered (.number Number.nan) (.bool true) :=
    ⟨_, _, rfl, rfl, .inl (by decide +kernel)⟩
  obtain ⟨-, -, -, -, -, -, -, -, hunordered, -⟩ :=
    comparisons_cohere (.number Number.nan) (.bool true)
  exact ⟨⟨hgreater, hless⟩, ⟨hkg, (htexts (.inr hkg)).1⟩, hnan, (hunordered hnan).2.2.2⟩

end Operator

end Formula

end FieldCalc
