import FieldCalc.Formula.Builtin.Text
import Mathlib.Data.List.Infix

/-!
# Substituting in a text

`SUBSTITUTE` replaces every occurrence of a text, the leftmost first, and goes on behind it.  A text
falls into the pieces between these occurrences in one way (`exists_pieces`, `Pieces.unique`): it is
the pieces with the old text between them, and what the substitution gives is the pieces with the
new text between them (`substitute_pieces`).
-/

namespace FieldCalc

namespace Formula

namespace Builtin

variable {old : List Char}

/-! ### The first occurrence -/

/-- Behind `piece` comes the first occurrence of `old`, and then `rest`. -/
def FirstOccurrence (old piece rest : List Char) : Prop :=
  ∀ before after, piece ++ old ++ rest = before ++ old ++ after → piece.length ≤ before.length

theorem FirstOccurrence.tail {c : Char} {piece rest : List Char}
    (h : FirstOccurrence old (c :: piece) rest) : FirstOccurrence old piece rest :=
  fun before after he => Nat.le_of_succ_le_succ (h (c :: before) after (congrArg (c :: ·) he))

theorem exists_firstOccurrence {cs : List Char} (h : old <:+: cs) :
    ∃ piece rest, cs = piece ++ old ++ rest ∧ FirstOccurrence old piece rest := by
  induction cs with
  | nil =>
    obtain rfl := List.eq_nil_of_infix_nil h
    exact ⟨[], [], rfl, fun _ _ _ => Nat.zero_le _⟩
  | cons c cs ih =>
    by_cases hp : old <+: c :: cs
    · obtain ⟨rest, he⟩ := hp
      exact ⟨[], rest, he.symm, fun _ _ _ => Nat.zero_le _⟩
    · obtain ⟨piece, rest, rfl, hf⟩ := ih ((List.infix_cons_iff.1 h).resolve_left hp)
      refine ⟨c :: piece, rest, rfl, fun before after he => ?_⟩
      cases before with
      | nil => exact absurd ⟨after, he.symm⟩ hp
      | cons d before => exact Nat.succ_le_succ (hf before after (List.cons.inj he).2)

/-- The first occurrence ends at its end and not before. -/
theorem FirstOccurrence.eq_nil {piece rest before after : List Char}
    (h : FirstOccurrence old piece rest) (he : piece ++ old = before ++ old ++ after) :
    after = [] := by
  have hle := h before (after ++ rest) (by rw [he, List.append_assoc])
  have hlength := congrArg List.length he
  simp only [List.length_append] at hlength
  exact List.eq_nil_of_length_eq_zero (by omega)

theorem FirstOccurrence.unique {piece rest piece' rest' : List Char}
    (h : FirstOccurrence old piece rest) (h' : FirstOccurrence old piece' rest')
    (he : piece ++ old ++ rest = piece' ++ old ++ rest') : piece = piece' ∧ rest = rest' := by
  have hlength : (piece ++ old).length = (piece' ++ old).length := by
    have := h piece' rest' he
    have := h' piece rest he.symm
    rw [List.length_append, List.length_append]
    omega
  obtain ⟨hp, hr⟩ := List.append_inj he hlength
  exact ⟨List.append_cancel_right hp, hr⟩

/-! ### Pieces -/

/-- The pieces of a text between the occurrences of `old`, taken from the left: what stands before
the first occurrence, and then the pieces of what comes behind it.  In the last piece there is
none. -/
inductive Pieces (old : List Char) : List Char → List (List Char) → Prop
  | last {cs : List Char} (h : ¬ old <:+: cs) : Pieces old cs [cs]
  | occurrence {piece rest : List Char} {pieces : List (List Char)}
      (h : FirstOccurrence old piece rest) (hs : Pieces old rest pieces) :
      Pieces old (piece ++ old ++ rest) (piece :: pieces)

theorem exists_pieces (hold : old ≠ []) (cs : List Char) : ∃ pieces, Pieces old cs pieces := by
  -- an occurrence is not empty, so what comes behind it is shorter
  induction h : cs.length using Nat.strongRecOn generalizing cs with
  | ind n ih =>
    by_cases hi : old <:+: cs
    · obtain ⟨piece, rest, rfl, hf⟩ := exists_firstOccurrence hi
      have hlt : rest.length < n := by
        have := List.length_pos_iff.2 hold
        simp only [List.length_append] at h
        omega
      obtain ⟨pieces, hs⟩ := ih _ hlt rest rfl
      exact ⟨_, .occurrence hf hs⟩
    · exact ⟨_, .last hi⟩

namespace Pieces

variable {cs : List Char} {pieces : List (List Char)}

theorem ne_nil (h : Pieces old cs pieces) : pieces ≠ [] := by
  cases h <;> exact List.cons_ne_nil _ _

theorem intercalate_eq (h : Pieces old cs pieces) : old.intercalate pieces = cs := by
  induction h with
  | last _ => exact List.intercalate_singleton
  | occurrence _ hs ih => rw [List.intercalate_cons_of_ne_nil hs.ne_nil, ih]

theorem unique {pieces' : List (List Char)} (h : Pieces old cs pieces)
    (h' : Pieces old cs pieces') : pieces = pieces' := by
  induction h generalizing pieces' with
  | last hi =>
    cases h' with
    | last _ => rfl
    | occurrence _ _ => exact absurd (List.infix_append _ _ _) hi
  | @occurrence piece rest pieces hf hs ih =>
    generalize hcs : piece ++ old ++ rest = cs at h'
    cases h' with
    | last hi => exact absurd (hcs ▸ List.infix_append _ _ _) hi
    | occurrence hf' hs' =>
      obtain ⟨rfl, rfl⟩ := hf.unique hf' hcs
      rw [ih hs']

theorem not_infix_of_last (h : Pieces old cs pieces) :
    ∀ piece ∈ pieces.getLast?, ¬ old <:+: piece := by
  induction h with
  | last hi => simpa using hi
  | occurrence _ hs ih =>
    obtain ⟨p, ps, rfl⟩ := List.exists_cons_of_ne_nil hs.ne_nil
    rwa [List.getLast?_cons_cons]

theorem eq_nil_of_mem_dropLast (h : Pieces old cs pieces) : ∀ piece ∈ pieces.dropLast,
    ∀ before after, piece ++ old = before ++ old ++ after → after = [] := by
  induction h with
  | last _ => simp
  | occurrence hf hs ih =>
    rw [List.dropLast_cons_of_ne_nil hs.ne_nil]
    exact List.forall_mem_cons.2 ⟨fun _ _ he => hf.eq_nil he, ih⟩

end Pieces

/-! ### Replacing -/

section Replacing

variable (new : List Char)

/-- What belongs to an occurrence is passed over. -/
theorem replaceFrom_length (ds cs : List Char) :
    replaceFrom old new ds.length (ds ++ cs) = replaceFrom old new 0 cs := by
  induction ds with
  | nil => rfl
  | cons d ds ih => rw [List.length_cons, List.cons_append, replaceFrom, ih]

theorem replaceFrom_eq_self {cs : List Char} (h : ¬ old <:+: cs) :
    replaceFrom old new 0 cs = cs := by
  induction cs with
  | nil => rfl
  | cons c cs ih =>
    rw [List.infix_cons_iff, not_or, ← List.isPrefixOf_iff_prefix] at h
    rw [replaceFrom, if_neg h.1, ih h.2]

theorem replaceFrom_of_firstOccurrence (hold : old ≠ []) {piece rest : List Char}
    (h : FirstOccurrence old piece rest) : replaceFrom old new 0 (piece ++ old ++ rest) =
      piece ++ new ++ replaceFrom old new 0 rest := by
  induction piece with
  | nil =>
    obtain ⟨c, ds, rfl⟩ := List.exists_cons_of_ne_nil hold
    have hp : (c :: ds).isPrefixOf (c :: (ds ++ rest)) :=
      List.isPrefixOf_iff_prefix.2 (List.prefix_append _ _)
    rw [List.nil_append, List.cons_append, replaceFrom, if_pos hp, List.length_cons,
      Nat.add_sub_cancel, replaceFrom_length, List.nil_append]
  | cons c piece ih =>
    have hp : ¬ old.isPrefixOf (c :: (piece ++ old ++ rest)) := fun hp => by
      obtain ⟨after, he⟩ := List.isPrefixOf_iff_prefix.1 hp
      exact absurd (h [] after he.symm) (Nat.not_succ_le_zero _)
    rw [List.cons_append, List.cons_append, replaceFrom, if_neg hp, ih h.tail]
    rfl

theorem Pieces.replaceFrom_eq (hold : old ≠ []) {cs : List Char} {pieces : List (List Char)}
    (h : Pieces old cs pieces) : replaceFrom old new 0 cs = new.intercalate pieces := by
  induction h with
  | last hi => rw [replaceFrom_eq_self new hi, List.intercalate_singleton]
  | occurrence hf hs ih =>
    rw [replaceFrom_of_firstOccurrence new hold hf, List.intercalate_cons_of_ne_nil hs.ne_nil, ih]

end Replacing

theorem substitute_of_pieces (v new : Value) {old : Value} (hold : old.toText.toList ≠ [])
    {pieces : List (List Char)} (h : Pieces old.toText.toList v.toText.toList pieces) :
    substitute v old new = .text (String.ofList (new.toText.toList.intercalate pieces)) := by
  unfold substitute
  rw [if_neg hold, h.replaceFrom_eq _ hold]

/-- The empty text does not occur in a text.  Any other text divides it into pieces, in one way
only: each occurrence between two pieces is the first one in what remains, so that the text does not
occur in the last piece, and behind each other piece it does not occur before its end.  What
substitution gives is the same pieces with the new text between them.  So a text in place of itself
changes nothing. -/
theorem substitute_pieces (v old new : Value) :
    (old.toText = "" → substitute v old new = .text v.toText) ∧
    (old.toText ≠ "" → ∃ pieces : List (List Char),
      Pieces old.toText.toList v.toText.toList pieces ∧
      (∀ pieces', Pieces old.toText.toList v.toText.toList pieces' → pieces' = pieces) ∧
      v.toText.toList = old.toText.toList.intercalate pieces ∧
      (∀ piece ∈ pieces.getLast?, ¬ old.toText.toList <:+: piece) ∧
      (∀ piece ∈ pieces.dropLast, ∀ before after,
        piece ++ old.toText.toList = before ++ old.toText.toList ++ after → after = []) ∧
      substitute v old new = .text (String.ofList (new.toText.toList.intercalate pieces))) ∧
    substitute v old old = .text v.toText := by
  have hempty : ∀ new, old.toText = "" → substitute v old new = .text v.toText := fun new h => by
    unfold substitute
    rw [h]
    rfl
  have htext : old.toText ≠ "" → old.toText.toList ≠ [] := mt String.toList_eq_nil_iff.1
  refine ⟨hempty new, fun h => ?_, ?_⟩
  · obtain ⟨pieces, hp⟩ := exists_pieces (htext h) v.toText.toList
    exact ⟨pieces, hp, fun _ hp' => hp'.unique hp, hp.intercalate_eq.symm, hp.not_infix_of_last,
      hp.eq_nil_of_mem_dropLast, substitute_of_pieces v new (htext h) hp⟩
  · by_cases h : old.toText = ""
    · exact hempty old h
    · obtain ⟨pieces, hp⟩ := exists_pieces (htext h) v.toText.toList
      rw [substitute_of_pieces v old (htext h) hp, hp.intercalate_eq, String.ofList_toList]

/-! ### Overlapping occurrences -/

/-- Of two occurrences that overlap the first one is replaced, and what replaces it is not looked at
again. -/
theorem substitute_pieces_overlapping : (Value.text "ana").toText ≠ "" ∧
    substitute (.text "banana") (.text "ana") (.text "an") = .text "banna" ∧
    ∃ pieces, Pieces "ana".toList "banana".toList pieces ∧
      "banana".toList = "ana".toList.intercalate pieces ∧
      "banna" = String.ofList ("an".toList.intercalate pieces) := by
  have hold : (Value.text "ana").toText ≠ "" := by decide
  have hvalue : substitute (.text "banana") (.text "ana") (.text "an") = .text "banna" := rfl
  obtain ⟨pieces, hp, -, htext, -, -, hs⟩ :=
    (substitute_pieces (.text "banana") (.text "ana") (.text "an")).2.1 hold
  exact ⟨hold, hvalue, pieces, hp, htext, Value.text.inj (hvalue.symm.trans hs)⟩

end Builtin

end Formula

end FieldCalc
