/-!
# Dictionaries

Entries kept in the order of their keys, code point by code point, at most one for a key.
-/

namespace FieldCalc

/-- Entries with ascending keys. -/
abbrev Dictionary (α : Type) := List (String × α)

namespace Dictionary

variable {α : Type}

/-- Sets the entry of a key. -/
def insert (k : String) (a : α) : Dictionary α → Dictionary α
  | [] => [(k, a)]
  | (l, b) :: d =>
    if k < l then (k, a) :: (l, b) :: d
    else if k = l then (k, a) :: d
    else (l, b) :: insert k a d

/-- Entries set one after another, so that the last one for a key counts. -/
def insertAll (d : Dictionary α) (entries : List (String × α)) : Dictionary α :=
  entries.foldl (fun d e => insert e.1 e.2 d) d

def ofList (entries : List (String × α)) : Dictionary α := insertAll [] entries

def get? (d : Dictionary α) (k : String) : Option α := List.lookup k d

/-! ### Looking up -/

@[simp] theorem get?_nil (k : String) : get? ([] : Dictionary α) k = none := rfl

theorem get?_cons (k l : String) (a : α) (d : Dictionary α) :
    get? ((k, a) :: d) l = if l = k then some a else get? d l := by
  by_cases h : l = k
  · subst h; simp [get?]
  · simp [get?, List.lookup_cons, h, beq_false_of_ne h]

theorem get?_insert (d : Dictionary α) (k l : String) (a : α) :
    get? (insert k a d) l = if l = k then some a else get? d l := by
  induction d with
  | nil => rw [insert, get?_cons]
  | cons e d ih =>
    obtain ⟨m, b⟩ := e
    rw [insert]
    split
    · rw [get?_cons]
    · split
      · subst_vars; rw [get?_cons, get?_cons]; split <;> rfl
      · rw [get?_cons, get?_cons, ih]
        split <;> split <;> simp_all

@[simp] theorem insertAll_nil (d : Dictionary α) : insertAll d [] = d := rfl

@[simp] theorem insertAll_cons (d : Dictionary α) (e : String × α) (es : List (String × α)) :
    insertAll d (e :: es) = insertAll (insert e.1 e.2 d) es := rfl

/-- A key that is not set keeps its entry. -/
theorem get?_insertAll_of_forall_ne (d : Dictionary α) (k : String) (es : List (String × α))
    (h : ∀ e ∈ es, e.1 ≠ k) : get? (insertAll d es) k = get? d k := by
  induction es generalizing d with
  | nil => rfl
  | cons e es ih =>
    rw [insertAll_cons, ih _ fun f hf => h f (List.mem_cons_of_mem _ hf), get?_insert,
      if_neg (Ne.symm (h e List.mem_cons_self))]

/-! ### Order -/

/-- The keys ascend. -/
def Ascending (d : Dictionary α) : Prop := List.Pairwise (fun e f => e.1 < f.1) d

theorem mem_insert {k : String} {a : α} {d : Dictionary α} {e : String × α}
    (h : e ∈ insert k a d) : e = (k, a) ∨ e ∈ d := by
  induction d with
  | nil => simpa [insert] using h
  | cons f d ih =>
    obtain ⟨l, b⟩ := f
    rw [insert] at h
    split at h
    · simpa using h
    · split at h
      · rcases List.mem_cons.1 h with h | h
        · exact .inl h
        · exact .inr (List.mem_cons_of_mem _ h)
      · rcases List.mem_cons.1 h with h | h
        · exact .inr (h ▸ List.mem_cons_self)
        · exact (ih h).imp_right (List.mem_cons_of_mem _)

theorem ascending_nil : Ascending ([] : Dictionary α) := List.Pairwise.nil

theorem Ascending.insert {d : Dictionary α} (h : d.Ascending) (k : String) (a : α) :
    (Dictionary.insert k a d).Ascending := by
  induction d with
  | nil => simp [Dictionary.insert, Ascending]
  | cons f d ih =>
    obtain ⟨l, b⟩ := f
    have ⟨hl, hd⟩ := List.pairwise_cons.1 h
    rw [Dictionary.insert]
    split
    · rename_i hk
      refine List.pairwise_cons.2 ⟨fun e he => ?_, h⟩
      rcases List.mem_cons.1 he with rfl | he
      · exact hk
      · exact String.lt_trans hk (hl e he)
    · split
      · rename_i hk
        subst hk
        exact List.pairwise_cons.2 ⟨hl, hd⟩
      · rename_i h₁ h₂
        refine List.pairwise_cons.2 ⟨fun e he => ?_, ih hd⟩
        rcases mem_insert he with rfl | he
        · exact Std.lt_of_le_of_ne (String.not_lt.1 h₁) (Ne.symm h₂)
        · exact hl e he

theorem Ascending.insertAll {d : Dictionary α} (h : d.Ascending) (es : List (String × α)) :
    (Dictionary.insertAll d es).Ascending := by
  induction es generalizing d with
  | nil => exact h
  | cons e es ih => exact ih (h.insert e.1 e.2)

theorem ascending_ofList (es : List (String × α)) : (ofList es).Ascending :=
  ascending_nil.insertAll es

end Dictionary

end FieldCalc
