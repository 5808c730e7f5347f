import FieldCalc.Dictionary
import Mathlib.Data.String.Basic

/-!
# The order of insertions

What a run of insertions makes of a dictionary does not depend on their order as long as no key is
set twice (`insertAll_eq_of_perm`), and making the run a second time changes nothing
(`insertAll_insertAll`).  Neither needs the keys of the dictionary to ascend.
-/

namespace FieldCalc

namespace Dictionary

variable {α : Type}

/-- No key is set twice. -/
def DistinctKeys (es : List (String × α)) : Prop := es.Pairwise fun e f => e.1 ≠ f.1

/-! ### Two insertions -/

theorem insert_insert_self (k : String) (a b : α) (d : Dictionary α) :
    insert k a (insert k b d) = insert k a d := by
  induction d with
  | nil => simp [insert]
  | cons e d ih =>
    obtain ⟨l, c⟩ := e
    rcases lt_trichotomy k l with h | h | h
    · simp [insert, h]
    · simp [insert, h]
    · simp [insert, h.not_gt, h.ne', ih]

theorem insert_comm_of_lt {k l : String} (h : k < l) (a b : α) (d : Dictionary α) :
    insert k a (insert l b d) = insert l b (insert k a d) := by
  induction d with
  | nil => simp [insert, h, h.not_gt, h.ne']
  | cons e d ih =>
    obtain ⟨m, c⟩ := e
    rcases lt_trichotomy k m with hk | rfl | hk
    · -- `k` comes before `m`, so it comes before `l` wherever that goes
      rcases lt_trichotomy l m with hl | rfl | hl
      · simp [insert, h, h.not_gt, h.ne', hk, hl]
      · simp [insert, h, h.not_gt, h.ne']
      · simp [insert, h.not_gt, h.ne', hk, hl.not_gt, hl.ne']
    · simp [insert, h.not_gt, h.ne']
    · have hl : m < l := hk.trans h
      simp [insert, hk.not_gt, hk.ne', hl.not_gt, hl.ne', ih]

theorem insert_comm {k l : String} (h : k ≠ l) (a b : α) (d : Dictionary α) :
    insert k a (insert l b d) = insert l b (insert k a d) := by
  rcases lt_or_gt_of_ne h with hlt | hlt
  · exact insert_comm_of_lt hlt a b d
  · exact (insert_comm_of_lt hlt b a d).symm

/-! ### Runs of insertions -/

theorem insertAll_insert {k : String} {es : List (String × α)} (h : ∀ e ∈ es, e.1 ≠ k) (a : α)
    (d : Dictionary α) : insertAll (insert k a d) es = insert k a (insertAll d es) := by
  induction es generalizing d with
  | nil => rfl
  | cons e es ih =>
    rw [insertAll_cons, insertAll_cons, insert_comm (h e List.mem_cons_self),
      ih fun f hf => h f (List.mem_cons_of_mem e hf)]

/-- Runs of insertions in another order come to the same. -/
theorem insertAll_eq_of_perm {es fs : List (String × α)} (h : DistinctKeys es) (p : es.Perm fs)
    (d : Dictionary α) : insertAll d es = insertAll d fs := by
  induction p generalizing d with
  | nil => rfl
  | cons e _ ih => exact ih (List.pairwise_cons.1 h).2 _
  | swap e f es =>
    have hne : f.1 ≠ e.1 := (List.pairwise_cons.1 h).1 e List.mem_cons_self
    rw [insertAll_cons, insertAll_cons, insertAll_cons, insertAll_cons, insert_comm hne]
  | trans p _ ih₁ ih₂ =>
    exact (ih₁ h d).trans (ih₂ (p.pairwise h fun hne => hne.symm) d)

/-- A run of insertions made twice is the same as made once. -/
theorem insertAll_insertAll {es : List (String × α)} (h : DistinctKeys es) (d : Dictionary α) :
    insertAll (insertAll d es) es = insertAll d es := by
  induction es generalizing d with
  | nil => rfl
  | cons e es ih =>
    have ⟨hne, hes⟩ := List.pairwise_cons.1 h
    have hne' : ∀ f ∈ es, f.1 ≠ e.1 := fun f hf => (hne f hf).symm
    rw [insertAll_cons, insertAll_cons, insertAll_insert hne', insertAll_insert hne',
      insertAll_insert hne', ih hes, insert_insert_self]

/-- What a run of insertions sets is what is found. -/
theorem get?_insertAll_of_mem {es : List (String × α)} (h : DistinctKeys es) {k : String} {a : α}
    (hm : (k, a) ∈ es) (d : Dictionary α) : get? (insertAll d es) k = some a := by
  induction es generalizing d with
  | nil => cases hm
  | cons e es ih =>
    have ⟨hne, hes⟩ := List.pairwise_cons.1 h
    rw [insertAll_cons]
    rcases List.mem_cons.1 hm with rfl | hm
    · rw [get?_insertAll_of_forall_ne _ _ _ fun f hf => (hne f hf).symm, get?_insert, if_pos rfl]
    · exact ih hes hm _

theorem mem_of_get? {d : Dictionary α} {k : String} {a : α} (h : get? d k = some a) :
    (k, a) ∈ d := by
  obtain ⟨l₁, l₂, rfl, -⟩ := List.lookup_eq_some_iff.1 h
  exact List.mem_append_right l₁ List.mem_cons_self

theorem Ascending.distinctKeys {d : Dictionary α} (h : d.Ascending) : DistinctKeys d :=
  h.imp fun hlt => hlt.ne

theorem insert_perm {k : String} {d : Dictionary α} (h : ∀ e ∈ d, e.1 ≠ k) (a : α) :
    (insert k a d).Perm ((k, a) :: d) := by
  induction d with
  | nil => exact List.Perm.refl _
  | cons e d ih =>
    obtain ⟨l, b⟩ := e
    have hk : k ≠ l := (h _ List.mem_cons_self).symm
    have hd : ∀ e ∈ d, e.1 ≠ k := fun e he => h e (List.mem_cons_of_mem _ he)
    rw [insert, if_neg hk]
    split
    · exact List.Perm.refl _
    · exact ((ih hd).cons (l, b)).trans (List.Perm.swap (k, a) (l, b) d)

theorem insertAll_perm {es : List (String × α)} {d : Dictionary α} (h : DistinctKeys (d ++ es)) :
    (insertAll d es).Perm (d ++ es) := by
  induction es generalizing d with
  | nil => simp
  | cons e es ih =>
    have hd : ∀ f ∈ d, f.1 ≠ e.1 := fun f hf =>
      (List.pairwise_append.1 h).2.2 f hf e List.mem_cons_self
    have hp : (d ++ e :: es).Perm (insert e.1 e.2 d ++ es) :=
      List.perm_middle.trans ((insert_perm hd e.2).symm.append_right es)
    exact (ih (hp.pairwise h fun hne => hne.symm)).trans hp.symm

theorem get?_map {β : Type} (f : α → β) (d : Dictionary α) (k : String) :
    get? (d.map fun e => (e.1, f e.2)) k = (get? d k).map f := by
  induction d with
  | nil => rfl
  | cons e d ih =>
    obtain ⟨l, a⟩ := e
    rw [List.map_cons, get?_cons, get?_cons, ih]
    split <;> rfl

/-! ### Keys -/

def keys (d : Dictionary α) : List String := d.map Prod.fst

theorem mem_keys_insert {k l : String} {a : α} {d : Dictionary α} :
    l ∈ keys (insert k a d) ↔ l ∈ keys d ∨ l = k := by
  induction d with
  | nil => simp [insert, keys]
  | cons e d ih =>
    obtain ⟨m, b⟩ := e
    have hcons : ∀ (n : String) (x : α) (d : Dictionary α),
        l ∈ keys ((n, x) :: d) ↔ l = n ∨ l ∈ keys d := fun _ _ _ => List.mem_cons
    rw [insert]
    split
    · rw [hcons, or_comm]
    · split
      · rename_i hk
        rw [hcons, hcons, hk, or_right_comm, or_self, or_comm]
      · rw [hcons, hcons, ih, or_assoc]

/-- A run of insertions adds the keys that it sets, and takes none away. -/
theorem mem_keys_insertAll {es : List (String × α)} {d : Dictionary α} {l : String} :
    l ∈ keys (insertAll d es) ↔ l ∈ keys d ∨ l ∈ keys es := by
  induction es generalizing d with
  | nil => simp [keys]
  | cons e es ih =>
    rw [insertAll_cons, ih, mem_keys_insert, or_assoc]
    exact or_congr_right List.mem_cons.symm

theorem keys_map {β : Type} (f : α → β) (d : Dictionary α) :
    keys (d.map fun e => (e.1, f e.2)) = keys d := by
  unfold keys
  rw [List.map_map]
  rfl

/-! ### Entries in order -/

theorem insert_of_forall_lt {k : String} {d : Dictionary α} (h : ∀ e ∈ d, k < e.1) (a : α) :
    insert k a d = (k, a) :: d := by
  cases d with
  | nil => rfl
  | cons e d => rw [insert, if_pos (h e List.mem_cons_self)]

/-- Entries whose keys ascend are a dictionary as they stand. -/
theorem ofList_of_ascending {es : List (String × α)} (h : Ascending es) : ofList es = es := by
  induction es with
  | nil => rfl
  | cons e es ih =>
    have ⟨hlt, hes⟩ := List.pairwise_cons.1 h
    have hne : ∀ f ∈ es, f.1 ≠ e.1 := fun f hf => (hlt f hf).ne'
    calc
      ofList (e :: es) = insert e.1 e.2 (ofList es) := insertAll_insert hne e.2 []
      _ = insert e.1 e.2 es := by rw [ih hes]
      _ = e :: es := insert_of_forall_lt hlt e.2

theorem ascending_of_keys {d : Dictionary α} (h : (keys d).Pairwise (· < ·)) : Ascending d :=
  List.pairwise_map.1 h

theorem mem_insertAll {es : List (String × α)} {d : Dictionary α} {e : String × α}
    (h : e ∈ insertAll d es) : e ∈ d ∨ e ∈ es := by
  induction es generalizing d with
  | nil => exact .inl h
  | cons f es ih =>
    rcases ih h with h | h
    · rcases mem_insert h with rfl | h
      · exact .inr List.mem_cons_self
      · exact .inl h
    · exact .inr (List.mem_cons_of_mem f h)

theorem get?_ofList {es : List (String × α)} (h : DistinctKeys es) (k : String) :
    get? (ofList es) k = get? es k := by
  cases hk : get? es k with
  | some a => exact get?_insertAll_of_mem h (mem_of_get? hk) []
  | none =>
    refine get?_insertAll_of_forall_ne [] k es fun e he hek => ?_
    have := List.lookup_eq_none_iff.1 hk e he
    simp [hek] at this

end Dictionary

end FieldCalc
