import FieldCalc.Number.Layout
import FieldCalc.Text.Reader
import Mathlib.Data.List.Basic

/-!
# Decimal digits

The digits of a number have its value, with zeros in front of them (`digitsValue_padded`) and as
many as these (`length_padded`).  They start with a zero only where the number is zero
(`eq_zero_of_head?_digitsOf`).
-/

namespace FieldCalc

open Text.Reader

namespace Text.Reader

theorem digitsValue_eq_ofDigitChars (ds : List Char) :
    digitsValue ds = Nat.ofDigitChars 10 ds 0 := by
  have hf : (fun (n : Nat) (c : Char) => n * 10 + (c.toNat - '0'.toNat)) =
      fun n c => 10 * n + (c.toNat - '0'.toNat) :=
    funext₂ fun n c => by rw [Nat.mul_comm]
  rw [digitsValue, Nat.ofDigitChars_eq_foldl, hf]

theorem digitsValue_replicate_zero (k : Nat) : digitsValue (List.replicate k '0') = 0 := by
  rw [digitsValue_eq_ofDigitChars, Nat.ofDigitChars_replicate_zero, Nat.mul_zero]

theorem digitsValue_append_zeros (ds : List Char) (k : Nat) :
    digitsValue (ds ++ List.replicate k '0') = digitsValue ds * 10 ^ k := by
  rw [digitsValue_append, List.length_replicate, digitsValue_replicate_zero, Nat.add_zero]

theorem digitsValue_singleton {c : Char} (h : c.isDigit) : digitsValue [c] = 0 ↔ c = '0' := by
  have hc := Char.isDigit_iff_toNat.1 h
  have hz : '0'.toNat = 48 := rfl
  have hv : digitsValue [c] = c.toNat - 48 := by simp [digitsValue]
  rw [hv, ← Char.toNat_inj]
  omega

/-- Digits of value zero are zeros. -/
theorem forall_eq_zero_of_digitsValue {ds : List Char} (h : ∀ c ∈ ds, c.isDigit)
    (hv : digitsValue ds = 0) : ∀ c ∈ ds, c = '0' := by
  induction ds with
  | nil => simp
  | cons c ds ih =>
    obtain ⟨hc, hds⟩ := List.forall_mem_cons.1 h
    rw [← List.singleton_append, digitsValue_append] at hv
    have h1 : digitsValue [c] = 0 := by
      by_contra hne
      have hten : 0 < 10 ^ ds.length := Nat.pow_pos (by decide)
      have := Nat.mul_pos (Nat.pos_of_ne_zero hne) hten
      omega
    exact List.forall_mem_cons.2 ⟨(digitsValue_singleton hc).1 h1, ih hds (by omega)⟩

end Text.Reader

namespace Number

theorem digitsOf_ne_nil (n : Nat) : digitsOf n ≠ [] := Nat.toDigits_ne_nil

theorem isDigit_of_mem_digitsOf {n : Nat} {c : Char} (h : c ∈ digitsOf n) : c.isDigit :=
  Nat.isDigit_of_mem_toDigits (by decide) (by decide) h

theorem digitsValue_digitsOf (n : Nat) : digitsValue (digitsOf n) = n := by
  rw [digitsValue_eq_ofDigitChars]
  exact Nat.ofDigitChars_ten_toDigits

/-- Only zero starts with a zero. -/
theorem eq_zero_of_head?_digitsOf {n : Nat} (h : (digitsOf n).head? = some '0') : n = 0 := by
  induction n using Nat.strongRecOn with
  | ind n ih =>
    rcases Nat.lt_or_ge n 10 with hn | hn
    · rw [digitsOf, Nat.toDigits_of_lt_base hn] at h
      exact Nat.digitChar_eq_zero.1 (Option.some.inj h)
    · rw [digitsOf, Nat.toDigits_of_base_le (by decide) hn,
        List.head?_append_of_ne_nil _ Nat.toDigits_ne_nil] at h
      have := ih (n / 10) (by omega) h
      omega

/-! ### Zeros in front -/

/-- A number in at least `width` digits. -/
def padded (width n : Nat) : List Char :=
  List.replicate (width - (digitsOf n).length) '0' ++ digitsOf n

variable {width n : Nat}

theorem isDigit_of_mem_padded {c : Char} (h : c ∈ padded width n) : c.isDigit := by
  rcases List.mem_append.1 h with h | h
  · rw [List.eq_of_mem_replicate h]
    rfl
  · exact isDigit_of_mem_digitsOf h

theorem digitsValue_padded (width n : Nat) : digitsValue (padded width n) = n := by
  rw [padded, digitsValue_append, digitsValue_replicate_zero, Nat.zero_mul, Nat.zero_add,
    digitsValue_digitsOf]

theorem length_padded_eq_max (width n : Nat) :
    (padded width n).length = max width (digitsOf n).length := by
  rw [padded, List.length_append, List.length_replicate]
  omega

/-- A number that has no more than `width` digits is written with as many. -/
theorem length_padded (hw : 0 < width) (h : n < 10 ^ width) : (padded width n).length = width := by
  have := (Nat.length_toDigits_le_iff (b := 10) (by decide) hw).2 h
  rw [length_padded_eq_max, digitsOf]
  omega

theorem padded_eq_digitsOf (h : width ≤ (digitsOf n).length) : padded width n = digitsOf n := by
  rw [padded, Nat.sub_eq_zero_of_le h, List.replicate_zero, List.nil_append]

end Number

end FieldCalc
