import FieldCalc.Proofs.Number.Closest

/-!
# The order of floats

Floats are compared by their bits.  The magnitude of a float grows with its magnitude bits, from one
exponent to the next as within one (`strictMono_magnitude`), so their order is that of the numbers
that they are (`order?_eq_compare`).
-/

namespace FieldCalc

namespace Number

/-- The magnitude that bits spell, in units of the least float. -/
def magnitude (bits : Nat) : Nat :=
  if bits / 2 ^ 52 = 0 then bits % 2 ^ 52 else (2 ^ 52 + bits % 2 ^ 52) * 2 ^ (bits / 2 ^ 52 - 1)

theorem strictMono_magnitude : StrictMono magnitude := by
  refine strictMono_nat_of_lt_succ fun n => ?_
  unfold magnitude
  rcases Nat.lt_or_ge (n % 2 ^ 52 + 1) (2 ^ 52) with h | h
  · -- the next float has the same exponent
    have hd : (n + 1) / 2 ^ 52 = n / 2 ^ 52 := by omega
    have hm : (n + 1) % 2 ^ 52 = n % 2 ^ 52 + 1 := by omega
    rw [hd, hm]
    split
    · exact Nat.lt_succ_self _
    · exact Nat.mul_lt_mul_of_pos_right (by omega) (Nat.two_pow_pos _)
  · have hd : (n + 1) / 2 ^ 52 = n / 2 ^ 52 + 1 := by omega
    have hm : (n + 1) % 2 ^ 52 = 0 := by omega
    have hlt : n % 2 ^ 52 < 2 ^ 52 := Nat.mod_lt _ (by decide)
    rw [hd, hm, if_neg (Nat.succ_ne_zero _), Nat.add_sub_cancel, Nat.add_zero]
    split
    · rename_i h0
      rwa [h0, Nat.pow_zero, Nat.mul_one]
    · rename_i h0
      calc (2 ^ 52 + n % 2 ^ 52) * 2 ^ (n / 2 ^ 52 - 1)
          < (2 ^ 52 * 2) * 2 ^ (n / 2 ^ 52 - 1) :=
            Nat.mul_lt_mul_of_pos_right (by omega) (Nat.two_pow_pos _)
        _ = 2 ^ 52 * 2 ^ (n / 2 ^ 52) := by
            rw [Nat.mul_assoc, ← Nat.pow_succ', Nat.succ_eq_add_one,
              Nat.sub_add_cancel (Nat.pos_of_ne_zero h0)]

/-- The magnitude of a place on the number line, negative below zero. -/
def placed (rank : ℤ) : ℤ := rank.sign * magnitude rank.natAbs

theorem placed_natCast (n : Nat) : placed n = magnitude n := by
  rcases Nat.eq_zero_or_pos n with rfl | h
  · rfl
  · rw [placed, Int.sign_eq_one_of_pos (by omega), one_mul, Int.natAbs_natCast]

theorem placed_neg (r : ℤ) : placed (-r) = -placed r := by
  rw [placed, placed, Int.sign_neg, Int.natAbs_neg, neg_mul]

theorem strictMono_placed : StrictMono placed := by
  refine strictMono_of_odd_strictMonoOn_nonneg placed_neg fun r hr s hs h => ?_
  obtain ⟨m, rfl⟩ := Int.eq_ofNat_of_zero_le hr
  obtain ⟨n, rfl⟩ := Int.eq_ofNat_of_zero_le hs
  rw [placed_natCast, placed_natCast]
  exact_mod_cast strictMono_magnitude (by exact_mod_cast h)

/-- The number that bits spell is their magnitude, with a sign. -/
theorem Shape.eq_withSign_magnitude {bits : Nat} {q : ℚ} (h : (Shape.ofBits bits).value? = some q) :
    q = withSign (decide (2 ^ 63 ≤ bits)) (magnitude (bits % 2 ^ 63) * 2 ^ (-1074 : ℤ)) := by
  have he : bits / 2 ^ 52 % 2 ^ 11 = bits % 2 ^ 63 / 2 ^ 52 := by omega
  have hm : bits % 2 ^ 52 = bits % 2 ^ 63 % 2 ^ 52 := by omega
  unfold ofBits at h
  dsimp only at h
  rw [he, hm] at h
  generalize bits % 2 ^ 63 = n at h
  unfold magnitude
  split at h
  · split at h <;> cases h
  · split at h
    · rename_i h0
      rw [if_pos h0]
      exact (Option.some.inj h).symm
    · rename_i h0
      have hexp : ((n / 2 ^ 52 : ℕ) : ℤ) - 1075 = ((n / 2 ^ 52 - 1 : ℕ) : ℤ) + (-1074) := by omega
      rw [if_neg h0, ← Option.some.inj h, hexp, zpow_add₀ two_ne_zero, zpow_natCast, ← mul_assoc,
        Nat.cast_mul, Nat.cast_pow, Nat.cast_two]

/-- A finite float is the magnitude of its place. -/
theorem value?_eq_placed {x : Float} {q : ℚ} (h : value? x = some q) :
    q = placed (rank x) * 2 ^ (-1074 : ℤ) := by
  have hb : x.toBits.toNat < 2 ^ 64 := x.toBits.toNat_lt
  rw [Shape.eq_withSign_magnitude h, withSign, rank]
  rcases Nat.lt_or_ge x.toBits.toNat (2 ^ 63) with hs | hs
  · rw [decide_eq_false (Nat.not_le.2 hs), if_pos hs, placed_natCast, Nat.mod_eq_of_lt hs]
    rfl
  · have hr : ((x.toBits.toNat : ℤ) - 2 ^ 63) = (x.toBits.toNat % 2 ^ 63 : ℕ) := by omega
    rw [decide_eq_true hs, if_neg (Nat.not_lt.2 hs), if_pos rfl, hr, placed_neg, placed_natCast,
      Int.cast_neg, neg_mul]
    rfl

theorem isNaN_eq_false {x : Float} {q : ℚ} (h : value? x = some q) : isNaN x = false := by
  unfold value? at h
  unfold isNaN
  cases hs : shape x with
  | nan => rw [hs] at h; cases h
  | infinite _ => rfl
  | finite _ _ _ => rfl

/-- The order of two finite floats is that of their numbers. -/
theorem order?_eq_compare {x y : Float} {p q : ℚ} (hx : value? x = some p)
    (hy : value? y = some q) : order? x y = some (compare p q) := by
  have hu : (0 : ℚ) < 2 ^ (-1074 : ℤ) := by positivity
  rw [order?, isNaN_eq_false hx, isNaN_eq_false hy, value?_eq_placed hx, value?_eq_placed hy]
  refine congrArg some ?_
  rcases lt_trichotomy (rank x) (rank y) with h | h | h
  · have := strictMono_placed h
    rw [compare_lt_iff_lt.2 h, compare_lt_iff_lt.2]
    exact mul_lt_mul_of_pos_right (by exact_mod_cast this) hu
  · rw [h, compare_eq_iff_eq.2 rfl, compare_eq_iff_eq.2 rfl]
  · have := strictMono_placed h
    rw [compare_gt_iff_gt.2 h, compare_gt_iff_gt.2]
    exact mul_lt_mul_of_pos_right (by exact_mod_cast this) hu

/-- Floats of one number compare as equal. -/
theorem order?_eq_eq {x y : Float} {q : ℚ} (hx : value? x = some q) (hy : value? y = some q) :
    order? x y = some .eq := by
  rw [order?_eq_compare hx hy, compare_eq_iff_eq.2 rfl]

end Number

end FieldCalc
