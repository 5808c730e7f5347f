import FieldCalc.Proofs.Number.Figures
import FieldCalc.Number.Fold
import FieldCalc.Value.Coercion

/-!
# Displayed numbers

A finite number is displayed in canonical figures: all of them where it is integral, else those of
the number rounded to ten places (`displayNumber_canonical`).  The sign of the float is kept
whatever the figures are, so a number that rounds to zero from below, and the negative zero that a
sum of nothing is, are displayed as `-0` (`displayNumber_total_nil`).  Its text, on the other hand,
never is (`numberText_ne_negative_zero`).
-/

namespace FieldCalc

namespace Number

/-! ### Signs -/

/-- Whether the sign of a float is set. -/
def isSigned (x : Float) : Bool := decide (2 ^ 63 ≤ x.toBits.toNat)

variable {x : Float} {negative : Bool} {m : Nat} {e : ℤ}

theorem isSigned_of_shape (h : shape x = .finite negative m e) : isSigned x = negative := by
  unfold shape Shape.ofBits at h
  dsimp only at h
  split at h
  · split at h <;> cases h
  · split at h <;> exact (Shape.finite.inj h).1

/-- A float without a significand is a zero. -/
theorem isZero_of_shape (h : shape x = .finite negative 0 e) : isZero x := by
  unfold shape Shape.ofBits at h
  dsimp only at h
  split at h
  · split at h <;> cases h
  · split at h
    · rename_i h2
      have hf : x.toBits.toNat % 2 ^ 52 = 0 := (Shape.finite.inj h).2.1
      exact beq_iff_eq.2 (by omega)
    · have := (Shape.finite.inj h).2.1
      omega

theorem integral_of_integer? {n : ℤ} (h : shape x = .finite negative m e)
    (hn : integer? x = some n) : m % 2 ^ (-e).toNat = 0 := by
  unfold integer? at hn
  rw [h] at hn
  dsimp only at hn
  split at hn
  · assumption
  · cases hn

/-! ### Shortest digits -/

theorem compareScaled_zero {n : Nat} (h : 0 < n) (i j : ℤ) : compareScaled 0 i n j = .lt := by
  rw [compareScaled, compare_lt_iff_lt, Nat.zero_mul, Nat.zero_mul]
  positivity

theorem Decimal.digits_pos_of_readsBack {d : Decimal} (hm : 0 < m) (h : d.readsBack m e) :
    0 < d.digits := by
  by_contra h0
  -- zero is below all that rounds to a positive magnitude
  have hlow : 0 < if m == 2 ^ 52 && decide (-1074 < e) then 4 * m - 1 else 4 * m - 2 := by
    split <;> omega
  unfold readsBack at h
  dsimp only at h
  rw [Nat.eq_zero_of_not_pos h0, compareScaled_zero hlow] at h
  simp at h

theorem digits_pos_of_candidate? {tie : Tie} {k : ℤ} {n : Nat} {d : Decimal} (hm : 0 < m)
    (h : candidate? tie m e k n = some d) : 0 < d.digits := by
  refine Decimal.digits_pos_of_readsBack (e := e) hm ?_
  unfold candidate? at h
  dsimp only at h
  split at h
  · rename_i hb ha
    split at h
    · exact Option.some.inj h ▸ hb
    · exact Option.some.inj h ▸ ha
    · split at h
      · exact Option.some.inj h ▸ hb
      · exact Option.some.inj h ▸ ha
  · rename_i hb _
    exact Option.some.inj h ▸ hb
  · rename_i _ ha
    exact Option.some.inj h ▸ ha
  · cases h

theorem Decimal.digits_strip_pos (fuel : Nat) {d : Decimal} (h : 0 < d.digits) :
    0 < (d.strip fuel).digits := by
  induction fuel generalizing d with
  | zero => exact h
  | succ fuel ih =>
    rw [strip]
    split
    · exact ih (show 0 < d.digits / 10 by omega)
    · exact h

/-- The shortest digits of a positive magnitude are not those of zero. -/
theorem digits_shortest_pos (tie : Tie) (hm : 0 < m) (e : ℤ) : 0 < (shortest tie m e).digits := by
  unfold shortest
  dsimp only
  split
  · rename_i d hd
    obtain ⟨n, -, hn⟩ := List.exists_of_findSome?_eq_some hd
    exact d.digits_strip_pos 17 (digits_pos_of_candidate? hm hn)
  · unfold Decimal.exact
    split <;> exact Nat.mul_pos hm (by positivity)

theorem mem_positional {l : Layout} {ds : List Char} {exponent : ℤ} {c : Char}
    (h : c ∈ l.positional ds exponent) : c ∈ ds ∨ c = '0' ∨ c = '.' := by
  unfold Layout.positional at h
  split at h
  · rw [List.mem_append, List.mem_append] at h
    rcases h with (h | h) | h
    · exact .inl h
    · exact .inr (.inl (List.eq_of_mem_replicate h))
    · split at h
      · simp only [List.mem_cons, List.not_mem_nil, or_false] at h
        exact .inr h.symm
      · cases h
  · dsimp only at h
    split at h
    · rcases List.mem_append.1 h with h | h
      · exact .inl (List.mem_of_mem_take h)
      · exact (List.mem_cons.1 h).elim (fun h => .inr (.inr h)) fun h =>
          .inl (List.mem_of_mem_drop h)
    · simp only [List.mem_cons, List.mem_append] at h
      rcases h with h | h | h | h
      · exact .inr (.inl h)
      · exact .inr (.inr h)
      · exact .inr (.inl (List.eq_of_mem_replicate h))
      · exact .inl h

/-- Written positionally, digits that are not those of zero are not a single zero. -/
theorem positional_ne_zero (l : Layout) {n : Nat} (hn : 0 < n) (exponent : ℤ) :
    l.positional (digitsOf n) exponent ≠ ['0'] := by
  intro h
  unfold Layout.positional at h
  split at h
  · refine hn.ne' (eq_zero_of_head?_digitsOf ?_)
    have := congrArg List.head? h
    rwa [List.append_assoc, List.head?_append_of_ne_nil _ (digitsOf_ne_nil n)] at this
  · dsimp only at h
    split at h
    · have hmem : '.' ∈ ['0'] := h ▸ List.mem_append_right _ List.mem_cons_self
      exact absurd hmem (by decide)
    · cases h

end Number

namespace Value

open Number

variable {x : Float}

/-- The text of a number is never that of the negative zero. -/
theorem numberText_ne_negative_zero (x : Float) : numberText x ≠ "-0" := by
  unfold numberText
  split
  · decide
  · rename_i hz
    unfold Layout.render
    cases hs : shape x with
    | nan => dsimp only; decide
    | infinite negative => dsimp only; split <;> decide
    | finite negative m e =>
      have hm : 0 < m := by
        refine Nat.pos_of_ne_zero fun h0 => hz ?_
        subst h0
        exact isZero_of_shape hs
      -- no exponent is too large or too small for a cell text
      have hbody : Layout.text.magnitude m e = Layout.text.positional
          (digitsOf (shortest .away m e).digits) (shortest .away m e).exponent := rfl
      dsimp only
      rw [if_neg hm.ne', hbody, ← String.toList_inj.ne, String.toList_ofList]
      cases negative with
      | false =>
        intro h
        have htext : Layout.text.positional (digitsOf (shortest .away m e).digits)
            (shortest .away m e).exponent = ['-', '0'] := h
        rcases mem_positional (htext ▸ List.mem_cons_self) with h | h | h
        · exact absurd (isDigit_of_mem_digitsOf h) (by decide)
        · cases h
        · cases h
      | true =>
        intro h
        exact positional_ne_zero _ (digits_shortest_pos .away hm e) _ (List.cons.inj h).2

/-- A finite number is displayed in its units of the tenth place, and in no digit more than these
need. -/
theorem exists_figures {negative : Bool} {m : Nat} {e : ℤ} (h : shape x = .finite negative m e) :
    ∃ f : Figures, displayNumber x = f.text ∧ f.Canonical ∧ f.negative = negative ∧
      f.magnitude = units 10 m e / 10 ^ 10 := by
  by_cases hi : ∃ n, integer? x = some n ∧ n.natAbs < 10 ^ 15
  · obtain ⟨n, hn, hlt⟩ := hi
    have hm := integral_of_integer? h hn
    refine ⟨_, ?_, Figures.canonical_stripped_ofUnits 0 negative (units 0 m e), rfl, ?_⟩
    · have hf : (Figures.ofUnits 0 negative (units 0 m e)).stripped =
          Figures.ofUnits 0 negative (units 0 m e) := Figures.stripped_ofUnits_zero _ _
      unfold displayNumber
      rw [h, hf]
      dsimp only
      rw [hn]
      dsimp only
      rw [if_pos hlt, Figures.fixed_eq_chars]
      rfl
    · rw [Figures.magnitude_stripped, Figures.magnitude_ofUnits, units_of_integral 0 hm,
        units_of_integral 10 hm]
  · refine ⟨_, ?_, Figures.canonical_stripped_ofUnits 10 negative (units 10 m e), rfl, ?_⟩
    · have hf : (Figures.ofUnits 10 negative (units 10 m e)).fraction ≠ [] := by
        refine List.ne_nil_of_length_pos ?_
        rw [Figures.length_fraction_ofUnits]
        decide
      rw [Figures.text, ← Figures.stripTrailing_chars (Figures.isDigit_ofUnits _ _ _) hf,
        ← Figures.fixed_eq_chars]
      unfold displayNumber
      rw [h]
      dsimp only
      split
      · rename_i n hn
        rw [if_neg fun hlt => hi ⟨n, hn, hlt⟩]
      · rfl
    · rw [Figures.magnitude_stripped, Figures.magnitude_ofUnits]

/-- A finite number is displayed in canonical figures.  They have its value where it is integral,
and otherwise are at most half a unit of the tenth place away from it.  The sign stands before them
exactly where that of the float is set; so it stands before a single zero where this number, or one
that is rounded to zero, is below zero or the negative zero, and before no other zero.  The text of
a number never has it there. -/
theorem displayNumber_canonical (finite : isFinite x) :
    ∃ (q : ℚ) (f : Figures), value? x = some q ∧ displayNumber x = f.text ∧ f.Canonical ∧
      (f.negative ↔ isSigned x) ∧ (q ≠ 0 → (f.negative ↔ q < 0)) ∧
      |q - f.value| ≤ 1 / (2 * 10 ^ 10) ∧
      (∀ n, integer? x = some n → f.value = n) ∧
      (f.negative → displayNumber x ≠ "-0" → ∃ c ∈ f.digits, c ≠ '0') ∧
      (displayNumber x = "-0" ↔ isSigned x ∧ |q| ≤ 1 / (2 * 10 ^ 10)) ∧
      (Value.number x).toText ≠ "-0" := by
  obtain ⟨negative, m, e, hs⟩ : ∃ negative m e, shape x = .finite negative m e := by
    unfold isFinite at finite
    split at finite
    · exact ⟨_, _, _, ‹_›⟩
    · cases finite
  have hq : value? x = some (withSign negative (m * 2 ^ e)) := by
    rw [value?, hs]
    rfl
  have hpos : (0 : ℚ) ≤ m * 2 ^ e := by positivity
  have habs : |withSign negative (m * 2 ^ e : ℚ)| = m * 2 ^ e := by
    unfold withSign
    split
    · rw [abs_neg, abs_of_nonneg hpos]
    · exact abs_of_nonneg hpos
  obtain ⟨f, htext, hf, rfl, hv⟩ := exists_figures hs
  have hzero : displayNumber x = "-0" ↔ f.negative ∧ f.magnitude = 0 := by
    rw [htext, hf.text_eq_negative_zero_iff]
  have hv0 : f.magnitude = 0 ↔ (m * 2 ^ e : ℚ) ≤ 1 / (2 * 10 ^ 10) := by
    rw [hv, ← units_eq_zero_iff]
    simp
  refine ⟨_, f, hq, htext, hf, by rw [isSigned_of_shape hs], fun hne => ?_, ?_, fun n hn => ?_,
    fun hsign hne => ?_, ?_, numberText_ne_negative_zero x⟩
  · have hlt : (0 : ℚ) < m * 2 ^ e := habs ▸ abs_pos.2 hne
    unfold withSign
    cases f.negative with
    | false => simpa using hpos
    | true => simpa using hlt
  · rw [Figures.value, abs_withSign_sub_withSign, hv]
    exact abs_sub_units_div_le 10 m e
  · have hn' := value?_of_integer? hn
    rw [hq] at hn'
    rw [Figures.value, hv, units_of_integral 10 (integral_of_integer? hs hn), Option.some.inj hn']
  · by_contra hall
    refine hne (hzero.2 ⟨hsign, (hf.magnitude_eq_zero_iff).2 fun c hc => ?_⟩)
    by_contra hc0
    exact hall ⟨c, hc, hc0⟩
  · rw [hzero, hv0, habs, isSigned_of_shape hs]

/-! ### Numbers below zero -/

/-- A third below zero is rounded in its tenth digit, and keeps its sign. -/
theorem displayNumber_canonical_third : isFinite (nearest true 1 3) ∧
    displayNumber (nearest true 1 3) = "-0.3333333333" ∧
    ∃ (q : ℚ) (f : Figures), value? (nearest true 1 3) = some q ∧ f.text = "-0.3333333333" ∧
      f.Canonical ∧ q < 0 ∧ |q - f.value| ≤ 1 / (2 * 10 ^ 10) ∧ ∃ c ∈ f.digits, c ≠ '0' := by
  have finite : isFinite (nearest true 1 3) := by decide +kernel
  have htext : displayNumber (nearest true 1 3) = "-0.3333333333" := by decide +kernel
  have hsigned : isSigned (nearest true 1 3) := by decide +kernel
  obtain ⟨q, f, hq, hf, hc, hs, hsign, hnear, -, hdigit, hzero, -⟩ := displayNumber_canonical finite
  have hne : displayNumber (nearest true 1 3) ≠ "-0" := by
    rw [htext]
    decide
  have hq0 : q ≠ 0 := by
    rintro rfl
    refine hne (hzero.2 ⟨hsigned, ?_⟩)
    rw [abs_zero]
    positivity
  exact ⟨finite, htext, q, f, hq, hf ▸ htext, hc, (hsign hq0).1 (hs.2 hsigned), hnear,
    hdigit (hs.2 hsigned) hne⟩

/-- The sum of nothing is the negative zero, and it is displayed with its sign, though none of its
digits is other than zero. -/
theorem displayNumber_total_nil : isFinite (total []) ∧ displayNumber (total []) = "-0" ∧
    ¬ ∃ f : Figures, displayNumber (total []) = f.text ∧ f.Canonical ∧
      (f.negative → ∃ c ∈ f.digits, c ≠ '0') := by
  have htext : displayNumber (total []) = "-0" := by decide +kernel
  refine ⟨by decide +kernel, htext, ?_⟩
  rintro ⟨f, hf, hc, hdigit⟩
  obtain ⟨hsign, hzero⟩ := hc.text_eq_negative_zero_iff.1 (hf ▸ htext)
  obtain ⟨c, hmem, hne⟩ := hdigit hsign
  exact hne (hc.magnitude_eq_zero_iff.1 hzero c hmem)

end Value

end FieldCalc
