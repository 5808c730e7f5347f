import Mathlib
import FieldCalc.Number.Binary

/-!
# The closest float

A float that is made from magnitude bits has the shape that these spell (`shape_ofMagnitude`), and
so the rational number that they stand for (`value?`).  All of them have at most fifty-three bits
(`exists_of_value?`), so to round a quotient in units that leave it as many is to find a closest
one: no other float is closer to the quotient than its nearest one (`closest_nearest`).  An integer
becomes a closest float (`closest_ofInt`), which is itself up to `2^53` (`isValue_intCast`).
-/

namespace FieldCalc

namespace Number

/-- The number with the given magnitude and sign. -/
def withSign (negative : Bool) (q : ℚ) : ℚ := if negative then -q else q

/-- The number that a shape stands for. -/
def Shape.value? : Shape → Option ℚ
  | .finite negative m e => some (withSign negative (m * 2 ^ e))
  | _ => none

/-- The number that a float is. -/
def value? (x : Float) : Option ℚ := (shape x).value?

/-- A number that a float is. -/
def IsValue (q : ℚ) : Prop := ∃ x, value? x = some q

/-- `q` is the number of a float, and none of a float is closer to `p`. -/
def Closest (p q : ℚ) : Prop := IsValue q ∧ ∀ w, IsValue w → |p - q| ≤ |p - w|

theorem IsValue.closest {q : ℚ} (h : IsValue q) : Closest q q := by
  refine ⟨h, fun w _ => ?_⟩
  rw [sub_self, abs_zero]
  exact abs_nonneg _

theorem Closest.eq {p q : ℚ} (h : Closest p q) (hp : IsValue p) : q = p := by
  have := h.2 p hp
  rw [sub_self, abs_zero] at this
  exact (sub_eq_zero.1 (abs_nonpos_iff.1 this)).symm

theorem abs_withSign_sub_withSign (negative : Bool) (p q : ℚ) :
    |withSign negative p - withSign negative q| = |p - q| := by
  unfold withSign
  split
  · rw [neg_sub_neg, abs_sub_comm]
  · rfl

/-! ### Bits -/

section Words

open Float.Model Float.Model.UnpackedFloat

theorem toNat_unpackMantissa (b : BitVec Format.binary64.numBits) :
    (unpackMantissa b).toNat = b.toNat % 2 ^ 52 := by
  rw [unpackMantissa_def, BitVec.extractLsb'_toNat, Nat.shiftRight_zero]

theorem toNat_unpackExponent (b : BitVec Format.binary64.numBits) :
    (unpackExponent b).toNat = b.toNat / 2 ^ 52 % 2 ^ 11 := by
  rw [unpackExponent_def, BitVec.extractLsb'_toNat, Nat.shiftRight_eq_div_pow]

/-- The words of all floats but NaNs are kept. -/
theorem toBits_ofBits {w : UInt64} (h : w.toNat / 2 ^ 52 % 2 ^ 11 = 2047 → w.toNat % 2 ^ 52 = 0) :
    (Float.ofBits w).toBits = w := by
  have hv : Format.binary64.Valid w.toBitVec := by
    refine ⟨fun he hm => absurd (BitVec.eq_of_toNat_eq ?_) hm⟩
    rw [toNat_unpackMantissa]
    refine h ?_
    have hx := toNat_unpackExponent w.toBitVec
    rw [he] at hx
    exact hx.symm
  exact congrArg UInt64.ofBitVec (pack_unpack_of_valid hv)

end Words

theorem shape_ofMagnitude (negative : Bool) {bits : Nat} (h : bits ≤ 2047 * 2 ^ 52) :
    shape (ofMagnitude negative bits) =
      Shape.ofBits (if negative then 2 ^ 63 + bits else bits) := by
  have hlt : (if negative then 2 ^ 63 + bits else bits) < 2 ^ 64 := by split <;> omega
  have hw : (UInt64.ofNat (if negative then 2 ^ 63 + bits else bits)).toNat =
      if negative then 2 ^ 63 + bits else bits := UInt64.toNat_ofNat_of_lt' hlt
  rw [shape, ofMagnitude, toBits_ofBits, hw]
  rw [hw]
  split <;> omega

theorem Shape.ofBits_eq (negative : Bool) {e m : Nat} (he : e < 2047) (hm : m < 2 ^ 52) :
    Shape.ofBits (if negative then 2 ^ 63 + (e * 2 ^ 52 + m) else e * 2 ^ 52 + m) =
      if e = 0 then .finite negative m (-1074) else .finite negative (2 ^ 52 + m) (e - 1075) := by
  have hn : decide (2 ^ 63 ≤ if negative then 2 ^ 63 + (e * 2 ^ 52 + m) else e * 2 ^ 52 + m) =
      negative := by
    cases negative
    · exact decide_eq_false (by rw [if_neg (by decide)]; omega)
    · exact decide_eq_true (by rw [if_pos rfl]; omega)
  have hf : (if negative then 2 ^ 63 + (e * 2 ^ 52 + m) else e * 2 ^ 52 + m) % 2 ^ 52 = m := by
    split <;> omega
  have hx : (if negative then 2 ^ 63 + (e * 2 ^ 52 + m) else e * 2 ^ 52 + m) / 2 ^ 52 % 2 ^ 11 =
      e := by
    split <;> omega
  unfold Shape.ofBits
  simp only [hn, hf, hx]
  rw [if_neg he.ne]

theorem two_zpow_add_one (e : ℤ) : (2 : ℚ) ^ (e + 1) = 2 * 2 ^ e := by
  rw [zpow_add_one₀ two_ne_zero, mul_comm]

/-- The bits of `k` units are found by adding it to those of the unit, also where it is too long
for a fraction or carries into the exponent. -/
theorem Shape.value?_ofBits (negative : Bool) {e k : Nat} (he : e < 2045) (hk : k ≤ 2 ^ 53)
    (hmin : e = 0 ∨ 2 ^ 52 ≤ k) :
    (Shape.ofBits (if negative then 2 ^ 63 + (e * 2 ^ 52 + k) else e * 2 ^ 52 + k)).value? =
      some (withSign negative (k * 2 ^ ((e : ℤ) - 1074))) := by
  rcases Nat.lt_or_ge k (2 ^ 52) with hlt | hge
  · obtain rfl : e = 0 := hmin.resolve_right (Nat.not_le.2 hlt)
    rw [Shape.ofBits_eq negative (by omega) hlt]
    rfl
  · rcases Nat.lt_or_ge k (2 ^ 53) with hlt' | hge'
    · obtain ⟨m, rfl⟩ := Nat.exists_eq_add_of_le hge
      have hb : e * 2 ^ 52 + (2 ^ 52 + m) = (e + 1) * 2 ^ 52 + m := by ring
      have hx : ((e + 1 : ℕ) : ℤ) - 1075 = e - 1074 := by omega
      rw [hb, Shape.ofBits_eq negative (by omega) (by omega), if_neg (by omega), hx]
      rfl
    · obtain rfl : k = 2 ^ 53 := Nat.le_antisymm hk hge'
      have hb : e * 2 ^ 52 + 2 ^ 53 = (e + 2) * 2 ^ 52 + 0 := by ring
      have hx : ((e + 2 : ℕ) : ℤ) - 1075 = (e - 1074) + 1 := by omega
      rw [hb, Shape.ofBits_eq negative (by omega) (by omega), if_neg (by omega), hx, value?,
        two_zpow_add_one]
      push_cast
      ring_nf

/-- The number of a float has at most fifty-three bits. -/
theorem exists_of_value? {x : Float} {q : ℚ} (h : value? x = some q) :
    ∃ j e : ℤ, |j| < 2 ^ 53 ∧ -1074 ≤ e ∧ q = j * 2 ^ e := by
  obtain ⟨negative, m, e, hs, hm, he⟩ : ∃ negative m e,
      shape x = .finite negative m e ∧ m < 2 ^ 53 ∧ -1074 ≤ e := by
    unfold value? shape at *
    unfold Shape.ofBits at *
    dsimp only at *
    split at h
    · split at h <;> cases h
    · split at h
      · rename_i h1 h2
        rw [if_neg h1, if_pos h2]
        exact ⟨_, _, _, rfl, by omega, le_rfl⟩
      · rename_i h1 h2
        rw [if_neg h1, if_neg h2]
        exact ⟨_, _, _, rfl, by omega, by omega⟩
  rw [value?, hs] at h
  obtain rfl : withSign negative (m * 2 ^ e) = q := Option.some.inj h
  cases negative with
  | false =>
    refine ⟨m, e, ?_, he, by simp [withSign]⟩
    rw [Nat.abs_cast]
    exact_mod_cast hm
  | true =>
    refine ⟨-m, e, ?_, he, by simp [withSign]⟩
    rw [abs_neg, Nat.abs_cast]
    exact_mod_cast hm

/-! ### Units -/

theorem two_zpow_eq (e : ℤ) : (2 : ℚ) ^ e = 2 ^ e.toNat / 2 ^ (-e).toNat := by
  rcases le_total 0 e with h | h
  · have h0 : (-e).toNat = 0 := by omega
    rw [h0, pow_zero, div_one, ← zpow_natCast, Int.toNat_of_nonneg h]
  · have h0 : e.toNat = 0 := by omega
    rw [h0, pow_zero, one_div, ← zpow_natCast, Int.toNat_of_nonneg (by omega), zpow_neg, inv_inv]

/-- A quotient in units of `2 ^ e`. -/
theorem scaled_eq (num den : Nat) (e : ℤ) :
    ((num * 2 ^ (-e).toNat : ℕ) : ℚ) / (den * 2 ^ e.toNat : ℕ) = num / den / 2 ^ e := by
  rw [two_zpow_eq]
  push_cast
  field_simp

theorem scaled_lt_iff {num den : Nat} (hden : den ≠ 0) (n : Nat) (e : ℤ) :
    num * 2 ^ (-e).toNat < 2 ^ n * (den * 2 ^ e.toNat) ↔ (num / den : ℚ) < 2 ^ n * 2 ^ e := by
  have hpos : (0 : ℚ) < (den * 2 ^ e.toNat : ℕ) := by positivity
  rw [← div_lt_iff₀ (by positivity), ← scaled_eq, div_lt_iff₀ hpos]
  exact_mod_cast Iff.rfl

theorem two_pow_log2_le {n : Nat} (h : n ≠ 0) : (2 : ℚ) ^ (n.log2 : ℤ) ≤ n := by
  rw [zpow_natCast]
  exact_mod_cast Nat.log2_self_le h

theorem lt_two_pow_log2_succ (n : Nat) : (n : ℚ) < 2 ^ ((n.log2 : ℤ) + 1) := by
  have h : n < 2 ^ (n.log2 + 1) := Nat.lt_log2_self
  rw [← Nat.cast_succ, zpow_natCast]
  exact_mod_cast h

/-- The quotient of two numbers by the difference of their lengths. -/
theorem div_bounds_log2 {num den : Nat} (hnum : num ≠ 0) (hden : den ≠ 0) :
    (2 : ℚ) ^ ((num.log2 : ℤ) - den.log2 - 1) < num / den ∧
      (num / den : ℚ) < 2 ^ ((num.log2 : ℤ) - den.log2 + 1) := by
  have hd : (0 : ℚ) < den := by positivity
  constructor
  · rw [lt_div_iff₀ hd]
    calc (2 : ℚ) ^ ((num.log2 : ℤ) - den.log2 - 1) * den
        < 2 ^ ((num.log2 : ℤ) - den.log2 - 1) * 2 ^ ((den.log2 : ℤ) + 1) :=
          mul_lt_mul_of_pos_left (lt_two_pow_log2_succ den) (by positivity)
      _ = 2 ^ (num.log2 : ℤ) := by rw [← zpow_add₀ two_ne_zero]; congr 1; ring
      _ ≤ num := two_pow_log2_le hnum
  · rw [div_lt_iff₀ hd]
    calc (num : ℚ) < 2 ^ ((num.log2 : ℤ) + 1) := lt_two_pow_log2_succ num
      _ = 2 ^ ((num.log2 : ℤ) - den.log2 + 1) * 2 ^ (den.log2 : ℤ) := by
          rw [← zpow_add₀ two_ne_zero]; congr 1; ring
      _ ≤ 2 ^ ((num.log2 : ℤ) - den.log2 + 1) * den :=
          mul_le_mul_of_nonneg_left (two_pow_log2_le hden) (by positivity)

theorem two_pow_mul_zpow (n : Nat) (e : ℤ) : (2 : ℚ) ^ n * 2 ^ e = 2 ^ (n + e) := by
  rw [zpow_add₀ two_ne_zero, zpow_natCast]

/-- In the chosen units a quotient has at most fifty-three bits, and not fewer unless the units are
the least ones. -/
theorem unitExponent_spec {num den : Nat} (hnum : num ≠ 0) (hden : den ≠ 0) :
    -1074 ≤ unitExponent num den ∧
      (num / den : ℚ) < 2 ^ 53 * 2 ^ unitExponent num den ∧
      (-1074 < unitExponent num den → (2 ^ 52 * 2 ^ unitExponent num den : ℚ) ≤ num / den) := by
  obtain ⟨hlo, hhi⟩ := div_bounds_log2 hnum hden
  -- before it is bounded below, the exponent is right
  obtain ⟨e, he, hlt, hle⟩ : ∃ e : ℤ, unitExponent num den = max e (-1074) ∧
      (num / den : ℚ) < 2 ^ 53 * 2 ^ e ∧ (2 ^ 52 * 2 ^ e : ℚ) ≤ num / den := by
    unfold unitExponent
    dsimp only
    split
    · rename_i h
      refine ⟨_, rfl, ?_, ?_⟩
      · have h' := (scaled_lt_iff hden _ _).1 h
        rw [two_pow_mul_zpow] at h' ⊢
        refine h'.trans_eq (congrArg _ ?_)
        push_cast
        ring
      · rw [two_pow_mul_zpow]
        refine le_of_eq_of_le (congrArg _ ?_) hlo.le
        push_cast
        ring
    · rename_i h
      refine ⟨_, rfl, ?_, ?_⟩
      · rw [two_pow_mul_zpow]
        refine hhi.trans_eq (congrArg _ ?_)
        push_cast
        ring
      · exact not_lt.1 (mt (scaled_lt_iff hden _ _).2 h)
  rw [he]
  refine ⟨le_max_right _ _, hlt.trans_le ?_, fun hmax => ?_⟩
  · gcongr
    · exact one_le_two
    · exact le_max_left _ _
  · rwa [max_eq_left (by omega)]

/-! ### Closeness -/

theorem abs_div_sub_roundDiv_le (num den : Nat) (hden : den ≠ 0) :
    |(num / den : ℚ) - roundDiv num den| ≤ 1 / 2 := by
  obtain ⟨h1, h2⟩ := roundDiv_near num den (Nat.pos_of_ne_zero hden)
  have hd : (0 : ℚ) < den := by positivity
  have h1' : (2 * num : ℚ) ≤ 2 * (den * roundDiv num den) + den := by exact_mod_cast h1
  have h2' : (2 * (den * roundDiv num den) : ℚ) ≤ 2 * num + den := by exact_mod_cast h2
  rw [abs_le]
  constructor
  · rw [le_sub_iff_add_le, le_div_iff₀ hd]
    linarith
  · rw [sub_le_iff_le_add, div_le_iff₀ hd]
    linarith

/-- A rounded number of units is as close as any other number of them. -/
theorem abs_sub_units_le {q : ℚ} {k j e : ℤ} (h : |q / 2 ^ e - k| ≤ 1 / 2) :
    |q - k * 2 ^ e| ≤ |q - j * 2 ^ e| := by
  have hu : (0 : ℚ) < 2 ^ e := by positivity
  have hscale : ∀ i : ℤ, |q - i * 2 ^ e| = |q / 2 ^ e - i| * 2 ^ e := by
    intro i
    rw [← abs_of_pos hu, ← abs_mul, sub_mul, abs_of_pos hu, div_mul_cancel₀ _ hu.ne']
  rw [hscale, hscale]
  refine mul_le_mul_of_nonneg_right ?_ hu.le
  by_cases hkj : k = j
  · rw [hkj]
  · have h1 : (1 : ℚ) ≤ |(k : ℚ) - j| := by
      exact_mod_cast Int.one_le_abs (sub_ne_zero.2 hkj)
    have h2 : |(k : ℚ) - j| ≤ |k - q / 2 ^ e| + |q / 2 ^ e - j| := abs_sub_le _ _ _
    rw [abs_sub_comm (k : ℚ) (q / 2 ^ e)] at h2
    linarith

/-- A quotient rounded in the units that leave it fifty-three bits is as close as any number of
fifty-three bits, for those in smaller units are below what has as many. -/
theorem abs_sub_le_of_unit {q : ℚ} {k e : ℤ} (h : |q / 2 ^ e - k| ≤ 1 / 2)
    (hlo : -1074 < e → (2 ^ 52 * 2 ^ e : ℚ) ≤ q) {j e' : ℤ} (hj : |j| < 2 ^ 53)
    (he' : -1074 ≤ e') : |q - k * 2 ^ e| ≤ |q - j * 2 ^ e'| := by
  rcases le_or_gt e e' with he | he
  · obtain ⟨n, rfl⟩ := Int.le.dest he
    have hj' : (j : ℚ) * 2 ^ (e + n) = (j * 2 ^ n : ℤ) * 2 ^ e := by
      rw [zpow_add₀ two_ne_zero, zpow_natCast]
      push_cast
      ring
    rw [hj']
    exact abs_sub_units_le h
  · have hq := hlo (by omega)
    have hw : (j : ℚ) * 2 ^ e' ≤ 2 ^ 52 * 2 ^ e := by
      calc (j : ℚ) * 2 ^ e' ≤ 2 ^ 53 * 2 ^ (e - 1) := by
            have hj' : (j : ℚ) ≤ 2 ^ 53 := by exact_mod_cast (le_abs_self j).trans hj.le
            have he'' : (2 : ℚ) ^ e' ≤ 2 ^ (e - 1) :=
              zpow_le_zpow_right₀ one_le_two (by omega)
            exact mul_le_mul hj' he'' (by positivity) (by positivity)
        _ = 2 ^ 52 * 2 ^ e := by
            rw [two_pow_mul_zpow, two_pow_mul_zpow]
            congr 1
            push_cast
            ring
    calc |q - k * 2 ^ e| ≤ |q - 2 ^ 52 * 2 ^ e| := by
          have hc : ((2 ^ 52 : ℤ) : ℚ) = 2 ^ 52 := by norm_num
          rw [← hc]
          exact abs_sub_units_le h
      _ ≤ |q - j * 2 ^ e'| := by
          rw [abs_of_nonneg (sub_nonneg.2 hq), abs_of_nonneg (sub_nonneg.2 (hw.trans hq))]
          exact sub_le_sub_left hw q

theorem value?_ofMagnitude (negative : Bool) {e k : Nat} (he : e < 2045) (hk : k ≤ 2 ^ 53)
    (hmin : e = 0 ∨ 2 ^ 52 ≤ k) : value? (ofMagnitude negative (e * 2 ^ 52 + k)) =
      some (withSign negative (k * 2 ^ ((e : ℤ) - 1074))) := by
  rw [value?, shape_ofMagnitude negative (by omega), Shape.value?_ofBits negative he hk hmin]

/-- The nearest float to a quotient is the quotient rounded in units that leave it fifty-three
bits. -/
theorem value?_nearest (negative : Bool) {num den : Nat} (hden : den ≠ 0)
    (h : (num / den : ℚ) < 2 ^ 1023) : ∃ (k : Nat) (e : ℤ),
      value? (nearest negative num den) = some (withSign negative (k * 2 ^ e)) ∧
        |(num / den : ℚ) / 2 ^ e - (k : ℤ)| ≤ 1 / 2 ∧
        (-1074 < e → (2 ^ 52 * 2 ^ e : ℚ) ≤ num / den) := by
  by_cases hnum : num = 0
  · subst hnum
    have hb : nearestBits 0 den = 0 * 2 ^ 52 + 0 := by simp [nearestBits]
    refine ⟨0, -1074, ?_, by norm_num, fun h => absurd h (lt_irrefl _)⟩
    rw [nearest, hb, value?_ofMagnitude negative (by omega) (by omega) (.inl rfl)]
    norm_num
  · obtain ⟨hmin, hhi, hlo⟩ := unitExponent_spec hnum hden
    generalize hx : unitExponent num den = e at hmin hhi hlo
    -- the bound keeps the units, and a carry into the next exponent, below those of infinity
    have hmax : e ≤ 970 := by
      by_contra hc
      have hlt := (hlo (by omega)).trans_lt h
      rw [two_pow_mul_zpow, ← zpow_natCast, zpow_lt_zpow_iff_right₀ one_lt_two] at hlt
      omega
    set k := roundDiv (num * 2 ^ (-e).toNat) (den * 2 ^ e.toNat) with hk
    have hnear : |(num / den : ℚ) / 2 ^ e - (k : ℤ)| ≤ 1 / 2 := by
      have := abs_div_sub_roundDiv_le (num * 2 ^ (-e).toNat) (den * 2 ^ e.toNat) (by positivity)
      rwa [scaled_eq, ← hk] at this
    have hk53 : k ≤ 2 ^ 53 := by
      have hq : (num / den : ℚ) / 2 ^ e < 2 ^ 53 := (div_lt_iff₀ (by positivity)).2 hhi
      have : ((k : ℤ) : ℚ) < 2 ^ 53 + 1 := by linarith [(abs_le.1 hnear).1]
      have : (k : ℤ) < 2 ^ 53 + 1 := by exact_mod_cast this
      omega
    have hk52 : (e + 1074).toNat = 0 ∨ 2 ^ 52 ≤ k := by
      rcases hmin.eq_or_lt with he | he
      · exact .inl (by omega)
      · have hq : (2 ^ 52 : ℚ) ≤ num / den / 2 ^ e := (le_div_iff₀ (by positivity)).2 (hlo he)
        have : (2 ^ 52 - 1 : ℚ) < ((k : ℤ) : ℚ) := by linarith [(abs_le.1 hnear).2]
        have : (2 ^ 52 - 1 : ℤ) < (k : ℤ) := by exact_mod_cast this
        exact .inr (by omega)
    have hb : nearestBits num den = (e + 1074).toNat * 2 ^ 52 + k := by
      unfold nearestBits
      rw [if_neg hnum]
      dsimp only
      rw [hx, ← hk]
      omega
    refine ⟨k, e, ?_, hnear, hlo⟩
    have he : (((e + 1074).toNat : ℕ) : ℤ) - 1074 = e := by omega
    rw [nearest, hb, value?_ofMagnitude negative (by omega) hk53 hk52, he]

/-- No float is closer to a quotient than the nearest one. -/
theorem closest_nearest (negative : Bool) {num den : Nat} (hden : den ≠ 0)
    (h : (num / den : ℚ) < 2 ^ 1023) : ∃ q, value? (nearest negative num den) = some q ∧
      Closest (withSign negative (num / den)) q := by
  obtain ⟨k, e, hv, hk, hlo⟩ := value?_nearest negative hden h
  refine ⟨_, hv, ⟨_, hv⟩, fun w ⟨y, hy⟩ => ?_⟩
  obtain ⟨j, e', hj, he', rfl⟩ := exists_of_value? hy
  -- the other number is turned to the positive side as well
  obtain ⟨i, hi, hs⟩ : ∃ i : ℤ, |i| < 2 ^ 53 ∧
      (j * 2 ^ e' : ℚ) = withSign negative (i * 2 ^ e') := by
    cases negative with
    | false => exact ⟨j, hj, rfl⟩
    | true => exact ⟨-j, by rwa [abs_neg], by simp [withSign]⟩
  rw [hs, abs_withSign_sub_withSign, abs_withSign_sub_withSign]
  exact_mod_cast abs_sub_le_of_unit hk hlo hi he'

/-! ### Integers -/

theorem withSign_natAbs (n : ℤ) : withSign (decide (n < 0)) (n.natAbs / (1 : ℕ)) = n := by
  rw [Nat.cast_one, div_one, Nat.cast_natAbs]
  unfold withSign
  split
  · rename_i h
    rw [abs_of_neg (of_decide_eq_true h), Int.cast_neg, neg_neg]
  · rename_i h
    rw [abs_of_nonneg (not_lt.1 fun hlt => h (decide_eq_true hlt))]

/-- No float is closer to an integer than the one that it becomes. -/
theorem closest_ofInt {n : ℤ} (h : n.natAbs < 2 ^ 64) :
    ∃ q, value? (ofInt n) = some q ∧ Closest n q := by
  have hq : (n.natAbs / (1 : ℕ) : ℚ) < 2 ^ 1023 := by
    rw [Nat.cast_one, div_one]
    have : (n.natAbs : ℚ) < 2 ^ 64 := by exact_mod_cast h
    exact this.trans (pow_lt_pow_right₀ one_lt_two (by decide))
  have := closest_nearest (decide (n < 0)) one_ne_zero hq
  rwa [withSign_natAbs] at this

theorem exists_shift {m : Nat} (h0 : m ≠ 0) (h : m ≤ 2 ^ 53) :
    ∃ s ≤ 52, 2 ^ 52 ≤ m * 2 ^ s ∧ m * 2 ^ s ≤ 2 ^ 53 := by
  have hlo := Nat.log2_self_le h0
  have hhi : m < 2 ^ (m.log2 + 1) := Nat.lt_log2_self
  rcases le_or_gt m.log2 52 with hl | hl
  · have h52 : 2 ^ 52 = 2 ^ m.log2 * 2 ^ (52 - m.log2) := by
      rw [← Nat.pow_add, Nat.add_sub_cancel' hl]
    have h53 : 2 ^ 53 = 2 ^ (m.log2 + 1) * 2 ^ (52 - m.log2) := by
      rw [← Nat.pow_add, Nat.add_right_comm, Nat.add_sub_cancel' hl]
    refine ⟨52 - m.log2, Nat.sub_le _ _, ?_, ?_⟩
    · rw [h52]
      exact Nat.mul_le_mul_right _ hlo
    · rw [h53]
      exact Nat.mul_le_mul_right _ hhi.le
  · have h52 : 2 ^ 52 ≤ m := (Nat.pow_le_pow_right two_pos hl.le).trans hlo
    refine ⟨0, Nat.zero_le _, ?_, ?_⟩ <;> rwa [Nat.pow_zero, Nat.mul_one]

/-- The integers that floats reach without a gap. -/
theorem isValue_intCast {n : ℤ} (h : n.natAbs ≤ 2 ^ 53) : IsValue n := by
  suffices hv : ∃ x, value? x = some (withSign (decide (n < 0)) n.natAbs) by
    have hn := withSign_natAbs n
    rw [Nat.cast_one, div_one] at hn
    rwa [hn] at hv
  rcases eq_or_ne n.natAbs 0 with h0 | h0
  · refine ⟨ofMagnitude (decide (n < 0)) (0 * 2 ^ 52 + 0), ?_⟩
    rw [value?_ofMagnitude _ (by omega) (by omega) (.inl rfl), h0]
    norm_num
  · obtain ⟨s, hs, hlo, hhi⟩ := exists_shift h0 h
    refine ⟨ofMagnitude (decide (n < 0)) ((1074 - s) * 2 ^ 52 + n.natAbs * 2 ^ s), ?_⟩
    have he : ((1074 - s : ℕ) : ℤ) - 1074 = -s := by omega
    rw [value?_ofMagnitude _ (by omega) hhi (.inr hlo), he, zpow_neg, zpow_natCast]
    congr 2
    push_cast
    field_simp

/-- They become themselves. -/
theorem value?_ofInt {n : ℤ} (h : n.natAbs ≤ 2 ^ 53) : value? (ofInt n) = some (n : ℚ) := by
  obtain ⟨q, hq, hc⟩ := closest_ofInt (n := n) (by omega)
  rw [hq, hc.eq (isValue_intCast h)]

/-- Beyond them every other integer is missed. -/
theorem not_isValue_intCast {n : ℤ} (hodd : n % 2 = 1) (h : 2 ^ 53 < |n|) : ¬ IsValue n := by
  rintro ⟨x, hx⟩
  obtain ⟨j, e, hj, -, hn⟩ := exists_of_value? hx
  rcases le_or_gt e 0 with he | he
  · have hle : |(n : ℚ)| ≤ |(j : ℚ)| := by
      rw [hn, abs_mul, abs_of_pos (a := (2 : ℚ) ^ e) (by positivity)]
      exact mul_le_of_le_one_right (abs_nonneg _) (zpow_le_one_of_nonpos₀ one_le_two he)
    have hle' : |n| ≤ |j| := by exact_mod_cast hle
    omega
  · obtain ⟨m, rfl⟩ := Int.lt.dest he
    have hn' : n = 2 * (j * 2 ^ m) := by
      have : (n : ℚ) = (2 * (j * 2 ^ m) : ℤ) := by
        rw [hn, zero_add, zpow_natCast, pow_succ]
        push_cast
        ring
      exact_mod_cast this
    omega

/-! ### Floats that are integers -/

theorem cast_wholePart {negative : Bool} {m : Nat} {e : ℤ} (h : m % 2 ^ (-e).toNat = 0) :
    (wholePart negative m e : ℚ) = withSign negative (m * 2 ^ e) := by
  have hd : 2 ^ (-e).toNat ∣ m * 2 ^ e.toNat := (Nat.dvd_of_mod_eq_zero h).mul_right _
  have hq : ((m * 2 ^ e.toNat / 2 ^ (-e).toNat : ℕ) : ℚ) = m * 2 ^ e := by
    rw [Nat.cast_div hd (by positivity), two_zpow_eq, mul_div_assoc']
    push_cast
    rfl
  unfold wholePart withSign
  split
  · rw [← hq]
    push_cast
    rfl
  · rw [← hq]
    push_cast
    rfl

theorem value?_of_integer? {x : Float} {n : ℤ} (h : integer? x = some n) :
    value? x = some (n : ℚ) := by
  unfold integer? at h
  split at h
  · rename_i negative m e hs
    split at h
    · rename_i hd
      obtain rfl := Option.some.inj h
      rw [value?, hs, cast_wholePart hd]
      rfl
    · cases h
  · cases h

theorem integer?_of_value? {x : Float} {n : ℤ} (h : value? x = some (n : ℚ)) :
    integer? x = some n := by
  unfold value? at h
  cases hs : shape x with
  | nan => rw [hs] at h; cases h
  | infinite _ => rw [hs] at h; cases h
  | finite negative m e =>
    rw [hs] at h
    have hn : withSign negative (m * 2 ^ e) = n := Option.some.inj h
    -- what has no fraction is a multiple of the unit it is counted in
    have hd : m % 2 ^ (-e).toNat = 0 := by
      have hm : (m * 2 ^ e : ℚ) = n.natAbs := by
        have habs := congrArg abs hn
        rw [Nat.cast_natAbs, Int.cast_abs, ← habs]
        unfold withSign
        split
        · rw [abs_neg, abs_of_nonneg (by positivity)]
        · rw [abs_of_nonneg (by positivity)]
      rw [two_zpow_eq, mul_div_assoc', div_eq_iff (by positivity)] at hm
      have hm' : m * 2 ^ e.toNat = n.natAbs * 2 ^ (-e).toNat := by exact_mod_cast hm
      rcases le_total 0 e with he | he
      · rw [Int.toNat_of_nonpos (by omega), pow_zero, Nat.mod_one]
      · rw [Int.toNat_of_nonpos he, pow_zero, mul_one] at hm'
        exact hm' ▸ Nat.mul_mod_left _ _
    have hw : (wholePart negative m e : ℚ) = n := (cast_wholePart hd).trans hn
    unfold integer?
    rw [hs]
    dsimp only
    rw [if_pos hd, Int.cast_injective hw]

theorem isFinite_iff {x : Float} : isFinite x ↔ ∃ q, value? x = some q := by
  unfold isFinite value?
  cases shape x with
  | finite negative m e => exact iff_of_true rfl ⟨_, rfl⟩
  | nan => exact iff_of_false Bool.false_ne_true (by rintro ⟨q, ⟨⟩⟩)
  | infinite _ => exact iff_of_false Bool.false_ne_true (by rintro ⟨q, ⟨⟩⟩)

end Number

end FieldCalc
