import Mathlib.Data.List.Nodup
import Mathlib.Data.List.Perm.Subperm

/-!
# Lists

The element with a given key in a list whose keys are distinct (`find?_key_eq_some_iff`), the
order of what is left of a list without its repeats (`eraseDups_pairwise_idxOf`), and when nothing
is gone from it (`length_eraseDups_eq_iff`).
-/

namespace FieldCalc

/-! ### Distinct keys -/

theorem find?_key_eq_some_iff {α β : Type} [BEq β] [LawfulBEq β] {key : α → β} {l : List α}
    (h : (l.map key).Nodup) {b : β} {a : α} :
    l.find? (fun x => key x == b) = some a ↔ a ∈ l ∧ key a = b := by
  constructor
  · intro ha
    exact ⟨List.mem_of_find?_eq_some ha, by simpa using List.find?_some ha⟩
  · rintro ⟨ha, rfl⟩
    cases hf : l.find? fun x => key x == key a with
    | none => simpa using List.find?_eq_none.1 hf a ha
    | some x =>
      have hkey : key x = key a := by simpa using List.find?_some hf
      rw [List.inj_on_of_nodup_map h (List.mem_of_find?_eq_some hf) ha hkey]

/-! ### Order of first appearance -/

variable {α : Type} [BEq α] [LawfulBEq α]

theorem idxOf_lt_of_filter {p : α → Bool} {l : List α} {a b : α} (ha : p a) (hb : p b)
    (h : (l.filter p).idxOf a < (l.filter p).idxOf b) : l.idxOf a < l.idxOf b := by
  induction l with
  | nil => simp at h
  | cons c l ih =>
    by_cases hc : p c
    · rw [List.filter_cons_of_pos hc] at h
      by_cases hcb : c = b
      · simp [hcb] at h
      · rw [List.idxOf_cons_ne _ hcb] at h ⊢
        by_cases hca : c = a
        · rw [hca, List.idxOf_cons_self]
          exact Nat.succ_pos _
        · rw [List.idxOf_cons_ne _ hca] at h ⊢
          exact Nat.succ_lt_succ (ih (Nat.lt_of_succ_lt_succ h))
    · rw [List.filter_cons_of_neg hc] at h
      have hca : c ≠ a := fun e => hc (e ▸ ha)
      have hcb : c ≠ b := fun e => hc (e ▸ hb)
      rw [List.idxOf_cons_ne _ hca, List.idxOf_cons_ne _ hcb]
      exact Nat.succ_lt_succ (ih h)

/-- Dropping repeats leaves the others in the order in which they first appear. -/
theorem eraseDups_pairwise_idxOf (l : List α) :
    l.eraseDups.Pairwise fun a b => l.idxOf a < l.idxOf b := by
  -- the tail keeps only what differs from the head, so the induction is on the length
  induction h : l.length using Nat.strongRecOn generalizing l with
  | ind n ih =>
    cases l with
    | nil => simp
    | cons c l =>
      have hlen : (l.filter fun b => !b == c).length < n := by
        rw [← h]
        exact Nat.lt_succ_of_le (List.length_filter_le _ _)
      have hne : ∀ b ∈ (l.filter fun b => !b == c).eraseDups, b ≠ c := fun b hb => by
        simpa using (List.mem_filter.1 (List.mem_eraseDups.1 hb)).2
      rw [List.eraseDups_cons, List.pairwise_cons]
      constructor
      · intro b hb
        rw [List.idxOf_cons_self, List.idxOf_cons_ne _ (hne b hb).symm]
        exact Nat.succ_pos _
      · refine (ih _ hlen _ rfl).imp_of_mem fun {a b} ha hb hab => ?_
        rw [List.idxOf_cons_ne _ (hne a ha).symm, List.idxOf_cons_ne _ (hne b hb).symm]
        refine Nat.succ_lt_succ (idxOf_lt_of_filter ?_ ?_ hab)
        · simpa using hne a ha
        · simpa using hne b hb

theorem nodup_eraseDups (l : List α) : l.eraseDups.Nodup :=
  (eraseDups_pairwise_idxOf l).imp fun hlt he => absurd (congrArg l.idxOf he) (Nat.ne_of_lt hlt)

theorem eraseDups_subperm (l : List α) : l.eraseDups.Subperm l :=
  (nodup_eraseDups l).subperm fun _ h => List.mem_eraseDups.1 h

theorem length_eraseDups_eq_iff {l : List α} : l.eraseDups.length = l.length ↔ l.Nodup := by
  constructor
  · intro h
    have hp := (eraseDups_subperm l).perm_of_length_le (Nat.le_of_eq h.symm)
    exact hp.nodup_iff.1 (nodup_eraseDups l)
  · intro h
    have hs : l.Subperm l.eraseDups := h.subperm fun _ ha => List.mem_eraseDups.2 ha
    exact ((eraseDups_subperm l).antisymm hs).length_eq

end FieldCalc
