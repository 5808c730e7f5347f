import FieldCalc.Proofs.Number.Closest
import FieldCalc.Proofs.Number.Digits
import FieldCalc.Value.Display
import Mathlib.Data.List.DropRight

/-!
# Figures

The figures of a written number: its sign, the digits before the point and those behind it.  They
are canonical if no digit can be left out.  A number rounded to some places is written in figures of
the rounded quotient (`fixed_eq_chars`), and taking the zeros off their end (`stripTrailing_chars`)
makes them canonical without a change of their value (`canonical_stripped_ofUnits`,
`magnitude_stripped`).
-/

namespace FieldCalc

open Text.Reader Value

namespace Number

/-! ### Rounding -/

theorem roundDiv_mul_right (n : Nat) {den : Nat} (h : 0 < den) : roundDiv (n * den) den = n := by
  unfold roundDiv
  dsimp only
  rw [Nat.mul_div_cancel n h, Nat.mul_mod_left, if_pos (by omega)]

/-- A quotient is rounded to zero up to a half. -/
theorem roundDiv_eq_zero_iff {num den : Nat} (h : 0 < den) :
    roundDiv num den = 0 ↔ 2 * num ≤ den := by
  constructor
  · intro h0
    have := (roundDiv_near num den h).1
    rw [h0] at this
    omega
  · intro hle
    have hlt : num < den := by omega
    unfold roundDiv
    dsimp only
    rw [Nat.div_eq_of_lt hlt, Nat.mod_eq_of_lt hlt, if_neg (Nat.not_lt.2 hle)]
    split <;> rfl

/-- The numerator of a magnitude in units of the last place, over `2 ^ (-e).toNat`. -/
theorem scaled_div (m : Nat) (e : ℤ) (places : Nat) :
    ((m * 2 ^ e.toNat * 10 ^ places : ℕ) / (2 ^ (-e).toNat : ℕ) : ℚ) = m * 2 ^ e * 10 ^ places := by
  rw [two_zpow_eq]
  push_cast
  field_simp

/-- A magnitude in units of the last of some places, rounded. -/
def units (places m : Nat) (e : ℤ) : Nat :=
  roundDiv (m * 2 ^ e.toNat * 10 ^ places) (2 ^ (-e).toNat)

theorem abs_sub_units_div_le (places m : Nat) (e : ℤ) :
    |(m * 2 ^ e - units places m e / 10 ^ places : ℚ)| ≤ 1 / (2 * 10 ^ places) := by
  have h10 : (0 : ℚ) < 10 ^ places := by positivity
  have h := abs_div_sub_roundDiv_le (m * 2 ^ e.toNat * 10 ^ places) (2 ^ (-e).toNat) (by positivity)
  rw [scaled_div] at h
  have hs : (m * 2 ^ e - units places m e / 10 ^ places : ℚ) =
      (m * 2 ^ e * 10 ^ places - units places m e) / 10 ^ places := by
    field_simp
  rw [hs, abs_div, abs_of_pos h10, div_le_div_iff₀ h10 (by positivity), one_mul]
  calc _ ≤ 1 / 2 * (2 * 10 ^ places : ℚ) := mul_le_mul_of_nonneg_right h (by positivity)
    _ = 10 ^ places := by ring

theorem units_eq_zero_iff (places m : Nat) (e : ℤ) :
    units places m e = 0 ↔ (m * 2 ^ e : ℚ) ≤ 1 / (2 * 10 ^ places) := by
  have hd : (0 : ℚ) < (2 ^ (-e).toNat : ℕ) := by positivity
  have hs := scaled_div m e places
  rw [div_eq_iff hd.ne'] at hs
  rw [units, roundDiv_eq_zero_iff (Nat.two_pow_pos _), le_div_iff₀ (by positivity)]
  constructor
  · intro h
    have h' : (2 * (m * 2 ^ e.toNat * 10 ^ places : ℕ) : ℚ) ≤ (2 ^ (-e).toNat : ℕ) := by
      exact_mod_cast h
    rw [hs] at h'
    refine le_of_mul_le_mul_right ?_ hd
    linarith
  · intro h
    have h' := mul_le_mul_of_nonneg_right h hd.le
    have h'' : (2 * (m * 2 ^ e.toNat * 10 ^ places : ℕ) : ℚ) ≤ (2 ^ (-e).toNat : ℕ) := by
      rw [hs]
      linarith
    exact_mod_cast h''

/-- An integral magnitude is not rounded. -/
theorem units_of_integral (places : Nat) {m : Nat} {e : ℤ} (h : m % 2 ^ (-e).toNat = 0) :
    (units places m e / 10 ^ places : ℚ) = m * 2 ^ e := by
  obtain ⟨k, hk⟩ := Nat.dvd_of_mod_eq_zero h
  have hu : units places m e = k * 2 ^ e.toNat * 10 ^ places := by
    have hn : m * 2 ^ e.toNat * 10 ^ places =
        k * 2 ^ e.toNat * 10 ^ places * 2 ^ (-e).toNat := by
      rw [hk]
      ring
    rw [units, hn, roundDiv_mul_right _ (Nat.two_pow_pos _)]
  rw [hu, hk, two_zpow_eq]
  push_cast
  field_simp

/-! ### Figures of a number -/

structure Figures where
  negative : Bool
  whole : List Char
  fraction : List Char

namespace Figures

def digits (f : Figures) : List Char := f.whole ++ f.fraction

/-- The sign before the digits. -/
def sign (f : Figures) : List Char := if f.negative then ['-'] else []

/-- The text of figures, with a point only where digits stand behind it. -/
def chars (f : Figures) : List Char :=
  f.sign ++ f.whole ++ (if f.fraction = [] then [] else '.' :: f.fraction)

def text (f : Figures) : String := String.ofList f.chars

def magnitude (f : Figures) : ℚ := digitsValue f.digits / 10 ^ f.fraction.length

def value (f : Figures) : ℚ := withSign f.negative f.magnitude

/-- Digits with none to spare. -/
structure Canonical (f : Figures) : Prop where
  isDigit : ∀ c ∈ f.digits, c.isDigit
  whole_ne_nil : f.whole ≠ []
  whole_eq_zero : f.whole.head? = some '0' → f.whole = ['0']
  fraction_getLast? : f.fraction.getLast? ≠ some '0'

theorem Canonical.magnitude_eq_zero_iff {f : Figures} (h : f.Canonical) :
    f.magnitude = 0 ↔ ∀ c ∈ f.digits, c = '0' := by
  have h10 : (10 ^ f.fraction.length : ℚ) ≠ 0 := by positivity
  rw [magnitude, div_eq_zero_iff, or_iff_left h10, Nat.cast_eq_zero]
  refine ⟨forall_eq_zero_of_digitsValue h.isDigit, fun hz => ?_⟩
  rw [List.eq_replicate_of_mem hz, digitsValue_replicate_zero]

/-- Canonical figures of value zero are one zero. -/
theorem Canonical.eq_zero {f : Figures} (h : f.Canonical) (hv : f.magnitude = 0) :
    f.whole = ['0'] ∧ f.fraction = [] := by
  have hz := h.magnitude_eq_zero_iff.1 hv
  constructor
  · obtain ⟨c, cs, hw⟩ := List.exists_cons_of_ne_nil h.whole_ne_nil
    refine h.whole_eq_zero ?_
    rw [hw, List.head?_cons, hz c (List.mem_append_left _ (hw ▸ List.mem_cons_self))]
  · by_contra hne
    refine h.fraction_getLast? ?_
    rw [List.getLast?_eq_some_getLast hne,
      hz _ (List.mem_append_right _ (List.getLast_mem hne))]

theorem Canonical.text_eq_negative_zero_iff {f : Figures} (h : f.Canonical) :
    f.text = "-0" ↔ f.negative ∧ f.magnitude = 0 := by
  have htext : f.text = "-0" ↔ f.chars = ['-', '0'] := by
    rw [text, ← String.toList_inj, String.toList_ofList]
    rfl
  rw [htext, chars, sign]
  cases hn : f.negative with
  | false =>
    -- without a sign the text starts with a digit
    obtain ⟨c, cs, hw⟩ := List.exists_cons_of_ne_nil h.whole_ne_nil
    have hc : c.isDigit := h.isDigit c (List.mem_append_left _ (hw ▸ List.mem_cons_self))
    have hne : c ≠ '-' := by
      rintro rfl
      cases hc
    simp [hw, hne]
  | true =>
    constructor
    · intro he
      refine ⟨rfl, ?_⟩
      have he' : f.whole ++ (if f.fraction = [] then [] else '.' :: f.fraction) = ['0'] := by
        simpa using he
      obtain ⟨c, cs, hw⟩ := List.exists_cons_of_ne_nil h.whole_ne_nil
      rw [hw, List.cons_append, List.cons.injEq, List.append_eq_nil_iff] at he'
      obtain ⟨rfl, rfl, hf⟩ := he'
      have hf' : f.fraction = [] := by
        by_contra hne
        rw [if_neg hne] at hf
        cases hf
      rw [magnitude, digits, hw, hf']
      simp [digitsValue]
    · rintro ⟨-, hv⟩
      obtain ⟨hw, hf⟩ := h.eq_zero hv
      rw [hw, hf]
      rfl

/-! ### Figures of a fixed number of places -/

/-- A number of units of the last place in figures. -/
def ofUnits (places : Nat) (negative : Bool) (n : Nat) : Figures :=
  let ds := padded (places + 1) n
  ⟨negative, ds.take (ds.length - places), ds.drop (ds.length - places)⟩

variable (places : Nat) (negative : Bool) (n : Nat)

theorem digits_ofUnits : (ofUnits places negative n).digits = padded (places + 1) n :=
  List.take_append_drop _ _

theorem length_padded_pos : places < (padded (places + 1) n).length := by
  rw [length_padded_eq_max]
  omega

theorem length_fraction_ofUnits : (ofUnits places negative n).fraction.length = places := by
  have := length_padded_pos places n
  rw [ofUnits, List.length_drop]
  omega

theorem magnitude_ofUnits : (ofUnits places negative n).magnitude = n / 10 ^ places := by
  rw [magnitude, digits_ofUnits, length_fraction_ofUnits, digitsValue_padded]

theorem isDigit_ofUnits : ∀ c ∈ (ofUnits places negative n).digits, c.isDigit := fun c hc => by
  rw [digits_ofUnits] at hc
  exact isDigit_of_mem_padded hc

theorem whole_ofUnits_ne_nil : (ofUnits places negative n).whole ≠ [] := by
  have := length_padded_pos places n
  refine List.ne_nil_of_length_pos ?_
  rw [ofUnits, List.length_take]
  omega

theorem whole_ofUnits_eq_zero (h : (ofUnits places negative n).whole.head? = some '0') :
    (ofUnits places negative n).whole = ['0'] := by
  rcases Nat.lt_or_ge (places + 1) (digitsOf n).length with hl | hl
  · -- a number with more digits is not zero, and so none of them is in vain
    exfalso
    have hp := length_padded_pos places n
    rw [ofUnits, List.head?_take, if_neg (by omega), padded_eq_digitsOf hl.le] at h
    rw [eq_zero_of_head?_digitsOf h] at hl
    exact absurd hl (by simp [digitsOf])
  · have hlength : (ofUnits places negative n).whole.length = 1 := by
      rw [ofUnits, List.length_take, length_padded_eq_max]
      omega
    obtain ⟨c, hc⟩ := List.length_eq_one_iff.1 hlength
    rw [hc] at h ⊢
    rw [Option.some.inj h]

/-- A magnitude rounded to some places is written in figures of its units. -/
theorem fixed_eq_chars (m : Nat) (e : ℤ) :
    fixed places negative m e = (ofUnits places negative (units places m e)).chars := by
  have hl := length_fraction_ofUnits places negative (units places m e)
  unfold fixed chars sign
  change _ = (if negative then ['-'] else []) ++ _ ++ _
  by_cases hp : places = 0
  · have hf : (ofUnits places negative (units places m e)).fraction = [] :=
      List.eq_nil_of_length_eq_zero (hl.trans hp)
    rw [if_pos hf, List.append_nil]
    dsimp only
    rw [if_pos hp]
    cases negative <;> rfl
  · have hf : (ofUnits places negative (units places m e)).fraction ≠ [] := by
      intro h0
      rw [h0] at hl
      exact hp hl.symm
    rw [if_neg hf]
    dsimp only
    rw [if_neg hp]
    cases negative <;> rfl

/-! ### Zeros at the end -/

theorem stripTrailing_append_cons {c d : Char} (h : d ≠ c) (as bs : List Char) :
    stripTrailing c (as ++ d :: bs) = as ++ d :: stripTrailing c bs := by
  have hd : (d == c) = false := beq_eq_false_iff_ne.2 h
  change List.rdropWhile (· == c) _ = as ++ d :: List.rdropWhile (· == c) bs
  induction bs using List.reverseRecOn with
  | nil => rw [List.rdropWhile_concat_neg _ _ _ (by rw [hd]; exact Bool.false_ne_true)]; rfl
  | append_singleton bs b ih =>
    rw [← List.cons_append, ← List.append_assoc, List.rdropWhile_concat, List.rdropWhile_concat]
    split
    · exact ih
    · rw [List.append_assoc, List.cons_append]

theorem stripTrailing_eq_self {c : Char} {cs : List Char} (h : c ∉ cs) :
    stripTrailing c cs = cs := by
  refine List.rdropWhile_eq_self_iff.2 fun hne hc => h ?_
  rw [← beq_iff_eq.1 hc]
  exact List.getLast_mem hne

theorem exists_stripTrailing (c : Char) (cs : List Char) :
    ∃ k, cs = stripTrailing c cs ++ List.replicate k c := by
  refine ⟨(cs.rtakeWhile (· == c)).length, ?_⟩
  have hr : cs.rtakeWhile (· == c) = List.replicate (cs.rtakeWhile (· == c)).length c :=
    List.eq_replicate_length.2 fun d hd => beq_iff_eq.1 (List.mem_rtakeWhile_imp (p := (· == c)) hd)
  rw [← hr]
  exact List.rdropWhile_append_rtakeWhile.symm

theorem getLast?_stripTrailing (c : Char) (cs : List Char) :
    (stripTrailing c cs).getLast? ≠ some c := by
  intro h
  obtain ⟨hne, hlast⟩ := List.mem_getLast?_eq_getLast h
  exact List.rdropWhile_last_not (· == c) cs hne (beq_iff_eq.2 hlast.symm)

/-- Figures without zeros at the end. -/
def stripped (f : Figures) : Figures := { f with fraction := stripTrailing '0' f.fraction }

theorem magnitude_stripped (f : Figures) : f.stripped.magnitude = f.magnitude := by
  obtain ⟨k, hk⟩ := exists_stripTrailing '0' f.fraction
  have hd : f.digits = f.stripped.digits ++ List.replicate k '0' := by
    rw [digits, digits, List.append_assoc]
    exact congrArg (f.whole ++ ·) hk
  have hl : f.fraction.length = f.stripped.fraction.length + k := by
    have := congrArg List.length hk
    rwa [List.length_append, List.length_replicate] at this
  rw [magnitude, magnitude, hd, hl, digitsValue_append_zeros, Nat.cast_mul, Nat.cast_pow, pow_add]
  push_cast
  field_simp

theorem isDigit_stripped {f : Figures} (h : ∀ c ∈ f.digits, c.isDigit) :
    ∀ c ∈ f.stripped.digits, c.isDigit := by
  obtain ⟨k, hk⟩ := exists_stripTrailing '0' f.fraction
  refine fun c hc => h c ?_
  rw [digits, hk, ← List.append_assoc]
  exact List.mem_append_left _ hc

/-- The point goes where no digit is left behind it. -/
theorem stripTrailing_chars {f : Figures} (h : ∀ c ∈ f.digits, c.isDigit) (hf : f.fraction ≠ []) :
    stripTrailing '.' (stripTrailing '0' f.chars) = f.stripped.chars := by
  have hpoint : '.' ∉ f.sign ++ f.whole := by
    intro hm
    rcases List.mem_append.1 hm with hm | hm
    · unfold sign at hm
      split at hm <;> simp at hm
    · exact absurd (h _ (List.mem_append_left _ hm)) (by decide)
  have hpoint' : '.' ∉ f.stripped.fraction := fun hm =>
    absurd (isDigit_stripped h _ (List.mem_append_right _ hm)) (by decide)
  have hs : stripTrailing '0' f.chars = f.sign ++ f.whole ++ '.' :: f.stripped.fraction := by
    rw [chars, if_neg hf, stripTrailing_append_cons (by decide)]
    rfl
  rw [hs, chars]
  split
  · rename_i h0
    rw [h0, List.append_nil]
    exact (List.rdropWhile_concat_pos _ _ _ rfl).trans (stripTrailing_eq_self hpoint)
  · rename_i h0
    refine List.rdropWhile_eq_self_iff.2 fun hne hlast => hpoint' ?_
    rw [List.getLast_append_of_ne_nil _ (List.cons_ne_nil _ _), List.getLast_cons h0] at hlast
    rw [← beq_iff_eq.1 hlast]
    exact List.getLast_mem h0

/-- Whole numbers have nothing behind the point. -/
theorem stripped_ofUnits_zero (negative : Bool) (n : Nat) :
    (ofUnits 0 negative n).stripped = ofUnits 0 negative n := by
  have hf : (ofUnits 0 negative n).fraction = [] :=
    List.eq_nil_of_length_eq_zero (length_fraction_ofUnits 0 negative n)
  rw [stripped, hf]
  exact congrArg (Figures.mk _ _) hf.symm

/-- Rounded figures are canonical once the zeros at their end are gone. -/
theorem canonical_stripped_ofUnits (places : Nat) (negative : Bool) (n : Nat) :
    (ofUnits places negative n).stripped.Canonical where
  isDigit := isDigit_stripped (isDigit_ofUnits places negative n)
  whole_ne_nil := whole_ofUnits_ne_nil places negative n
  whole_eq_zero := whole_ofUnits_eq_zero places negative n
  fraction_getLast? := getLast?_stripTrailing '0' _

end Figures

end Number

end FieldCalc
