import FieldCalc.Text.Blank
import Mathlib.Data.List.Basic
import Mathlib.Data.List.TakeWhile

/-!
# Trimming

A text that neither starts nor ends with white space is what is left when all the white space around
it is taken off (`Trimmed.trimChars_surrounded`).
-/

namespace FieldCalc

namespace Text

/-- No white space at either end. -/
structure Trimmed (cs : List Char) : Prop where
  ne_nil : cs ≠ []
  head? : ∀ c ∈ cs.head?, isBlank c = false
  getLast? : ∀ c ∈ cs.getLast?, isBlank c = false

variable {before cs after : List Char}

theorem trimmed_of_forall (hcs : cs ≠ []) (h : ∀ c ∈ cs, isBlank c = false) : Trimmed cs where
  ne_nil := hcs
  head? c hc := h c (List.mem_of_mem_head? hc)
  getLast? c hc := h c (List.mem_of_mem_getLast? hc)

/-- What stands between two texts does not matter. -/
theorem Trimmed.append {ds : List Char} (hc : Trimmed cs) (hd : Trimmed ds) (between : List Char) :
    Trimmed (cs ++ (between ++ ds)) where
  ne_nil h := hc.ne_nil (List.append_eq_nil_iff.1 h).1
  head? := by
    rw [List.head?_append_of_ne_nil _ hc.ne_nil]
    exact hc.head?
  getLast? := by
    rw [← List.append_assoc, List.getLast?_append_of_ne_nil _ hd.ne_nil]
    exact hd.getLast?

theorem Trimmed.dropWhile_isBlank (h : Trimmed cs) (hbefore : ∀ c ∈ before, isBlank c) :
    (before ++ (cs ++ after)).dropWhile isBlank = cs ++ after := by
  rw [List.dropWhile_append_of_pos hbefore]
  obtain ⟨c, cs, rfl⟩ := List.exists_cons_of_ne_nil h.ne_nil
  exact List.dropWhile_cons_of_neg (by simp [h.head? c rfl])

theorem Trimmed.reverse (h : Trimmed cs) : Trimmed cs.reverse where
  ne_nil := by simpa using h.ne_nil
  head? := by
    rw [List.head?_reverse]
    exact h.getLast?
  getLast? := by
    rw [List.getLast?_reverse]
    exact h.head?

theorem Trimmed.trimChars_surrounded (h : Trimmed cs) (hbefore : ∀ c ∈ before, isBlank c)
    (hafter : ∀ c ∈ after, isBlank c) : trimChars (before ++ (cs ++ after)) = cs := by
  have hback : (after.reverse ++ (cs.reverse ++ [])).dropWhile isBlank = cs.reverse ++ [] :=
    h.reverse.dropWhile_isBlank fun c hc => hafter c (List.mem_reverse.1 hc)
  rw [List.append_nil] at hback
  rw [trimChars, h.dropWhile_isBlank hbefore, List.reverse_append, hback, List.reverse_reverse]

theorem exists_leading_blanks (cs : List Char) :
    ∃ before ds, (∀ c ∈ before, isBlank c) ∧ (∀ c ∈ ds.head?, isBlank c = false) ∧
      cs = before ++ ds := by
  refine ⟨cs.takeWhile isBlank, cs.dropWhile isBlank, fun c hc => List.mem_takeWhile_imp hc,
    fun c hc => ?_, List.takeWhile_append_dropWhile.symm⟩
  have hhead := List.head?_dropWhile_not isBlank cs
  rw [Option.mem_def.1 hc] at hhead
  exact hhead

/-- A text is white space, or there is something left of it, with white space around. -/
theorem isBlank_or_exists_trimmed (cs : List Char) :
    (∀ c ∈ cs, isBlank c) ∨ ∃ before ds after, (∀ c ∈ before, isBlank c) ∧
      (∀ c ∈ after, isBlank c) ∧ Trimmed ds ∧ cs = before ++ (ds ++ after) := by
  obtain ⟨before, ds, hbefore, hhead, rfl⟩ := exists_leading_blanks cs
  rcases ds with _ | ⟨d, ds⟩
  · exact .inl (by simpa using hbefore)
  obtain ⟨after, es, hafter, hlast, hds⟩ := exists_leading_blanks (d :: ds).reverse
  have hds : d :: ds = es.reverse ++ after.reverse := by
    rw [← List.reverse_append, ← hds, List.reverse_reverse]
  have hafter : ∀ c ∈ after.reverse, isBlank c := fun c hc => hafter c (List.mem_reverse.1 hc)
  -- The first character is no white space, so it is not of those at the end.
  have hes : es.reverse ≠ [] := by
    intro h
    rw [h, List.nil_append] at hds
    exact absurd (hafter d (hds ▸ List.mem_cons_self)) (by simp [hhead d rfl])
  refine .inr ⟨before, es.reverse, after.reverse, hbefore, hafter, ⟨hes, ?_, ?_⟩, by rw [hds]⟩
  · rwa [hds, List.head?_append_of_ne_nil _ hes] at hhead
  · rwa [List.getLast?_reverse]

theorem trimChars_eq_nil (h : ∀ c ∈ cs, isBlank c) : trimChars cs = [] := by
  rw [trimChars, List.dropWhile_eq_nil_iff.2 h]
  rfl

theorem trimChars_eq_self (h : ∀ c ∈ cs, isBlank c = false) : trimChars cs = cs := by
  rcases eq_or_ne cs [] with rfl | hcs
  · rfl
  · have hnil : trimChars ([] ++ (cs ++ [])) = cs :=
      (trimmed_of_forall hcs h).trimChars_surrounded (by simp) (by simp)
    rwa [List.append_nil] at hnil

end Text

end FieldCalc
