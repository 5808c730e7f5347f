import FieldCalc.Proofs.Formula.Lexemes
import Mathlib.Data.List.Forall2

/-!
# Texts as literals

A text is written as a literal character by character, a quote and a backslash behind a backslash,
between quotes.  The scanner goes through such a literal to its closing quote and not further
(`readText_spelled`), whatever the text holds and whatever stands behind it.  So what comes then is
read as if it stood alone, at the places behind the literal (`Scan.ofSource_literal_append`).
-/

namespace FieldCalc

namespace Formula

/-! ### Writing a literal -/

/-- The ways to write a character inside a literal.  Quotes and backslashes need a backslash before
them; a line feed and a tab may stand for themselves or be written with their letters. -/
def spellings (c : Char) : List (List Char) :=
  if c = '"' ∨ c = '\\' then [['\\', c]]
  else if c = '\n' then [[c], ['\\', 'n']]
  else if c = '\t' then [[c], ['\\', 't']]
  else [[c]]

/-- The characters of a text are written one after the other, each in one of its ways. -/
def Spelled (s : List Char) (pieces : List (List Char)) : Prop :=
  List.Forall₂ (fun c piece => piece ∈ spellings c) s pieces

instance (s : List Char) (pieces : List (List Char)) : Decidable (Spelled s pieces) :=
  inferInstanceAs (Decidable (List.Forall₂ _ s pieces))

/-- The literals of a text. -/
def IsLiteral (s literal : String) : Prop :=
  ∃ pieces, Spelled s.toList pieces ∧ literal.toList = '"' :: (pieces.flatten ++ ['"'])

theorem exists_spelling (c : Char) : ∃ piece, piece ∈ spellings c := by
  unfold spellings
  split_ifs <;> exact ⟨_, List.mem_cons_self⟩

theorem exists_spelled (s : List Char) : ∃ pieces, Spelled s pieces := by
  induction s with
  | nil => exact ⟨[], .nil⟩
  | cons c s ih =>
    obtain ⟨piece, hc⟩ := exists_spelling c
    obtain ⟨pieces, hs⟩ := ih
    exact ⟨piece :: pieces, .cons hc hs⟩

theorem exists_isLiteral (s : String) : ∃ literal, IsLiteral s literal := by
  obtain ⟨pieces, hs⟩ := exists_spelled s.toList
  exact ⟨String.ofList ('"' :: (pieces.flatten ++ ['"'])), pieces, hs, String.toList_ofList⟩

/-! ### Reading a literal -/

theorem readText_cons_of_ne {c : Char} (hquote : c ≠ '"') (hslash : c ≠ '\\') (r : List Char) :
    readText (c :: r) = (readText r).map fun (s, n) => (c :: s, n + 1) := by
  rw [readText]
  · exact hquote
  · intro d ds hc
    exact absurd hc hslash

/-- However a character is written, the reader gets it back and goes on behind it. -/
theorem readText_spelling {c : Char} {piece : List Char} (h : piece ∈ spellings c)
    (r : List Char) : readText (piece ++ r) =
      (readText r).map fun (s, n) => (c :: s, n + piece.length) := by
  unfold spellings at h
  split_ifs at h with hmark hfeed htab
  · obtain rfl := List.mem_singleton.1 h
    -- neither of these two is a letter that stands for another character
    rcases hmark with rfl | rfl <;> rfl
  · subst hfeed
    rcases List.mem_pair.1 h with rfl | rfl
    · exact readText_cons_of_ne (by decide) (by decide) r
    · rfl
  · subst htab
    rcases List.mem_pair.1 h with rfl | rfl
    · exact readText_cons_of_ne (by decide) (by decide) r
    · rfl
  · obtain rfl := List.mem_singleton.1 h
    obtain ⟨hquote, hslash⟩ := not_or.1 hmark
    exact readText_cons_of_ne hquote hslash r

/-- The first quote that ends the literal is the one behind all pieces. -/
theorem readText_spelled {s : List Char} {pieces : List (List Char)} (h : Spelled s pieces)
    (r : List Char) : readText (pieces.flatten ++ ['"'] ++ r) =
      some (s, (pieces.flatten ++ ['"']).length) := by
  induction h with
  | nil => rfl
  | @cons c piece s pieces hc _ ih =>
    have hsplit : (piece :: pieces).flatten ++ ['"'] ++ r =
        piece ++ (pieces.flatten ++ ['"'] ++ r) := by simp
    rw [hsplit, readText_spelling hc, ih, Option.map_some]
    simp only [List.flatten_cons, List.length_append, Option.some.injEq, Prod.mk.injEq, true_and]
    omega

/-! ### Going on behind a literal -/

namespace Scan

/-- A scan with all its places moved on. -/
def shifted (n : Nat) : Scan → Scan
  | .token t offset rest => .token t (offset + n) (rest.shifted n)
  | .ended offset => .ended (offset + n)
  | .broken offset fault => .broken (offset + n) fault

/-- What is read does not depend on the place where a text begins. -/
theorem ofChars_add (o n : Nat) (cs : List Char) :
    ofChars (o + n) cs = (ofChars o cs).shifted n := by
  fun_induction ofChars o cs with
  | case1 o cs start =>
    rename_i hd
    rw [ofChars_of_dropWhile_eq_nil hd, shifted, Nat.add_right_comm]
  | case2 o cs start c r hd fault ht =>
    rw [ofChars_of_dropWhile_eq_cons hd, ht, shifted, Nat.add_right_comm]
  | case3 o cs start c r hd t k ht ih =>
    rw [ofChars_of_dropWhile_eq_cons hd, ht, shifted, ← ih]
    simp only [start, Nat.add_right_comm _ n]

/-- A literal is one token, and the scan goes on behind it. -/
theorem ofChars_literal {s literal : String} (h : IsLiteral s literal) (o : Nat) (t : List Char) :
    ofChars o (literal.toList ++ t) =
      .token (.text s) o (ofChars (o + literal.utf8ByteSize) t) := by
  obtain ⟨pieces, hs, hl⟩ := h
  have hsize : byteLength ('"' :: (pieces.flatten ++ ['"'])) = literal.utf8ByteSize := by
    rw [byteLength_eq_utf8ByteSize, ← hl, String.ofList_toList]
  have hread : readToken '"' (pieces.flatten ++ ['"'] ++ t) =
      .ok (.text s, (pieces.flatten ++ ['"']).length) := by
    rw [readToken_eq_ok_iff, ← String.ofList_toList (s := s)]
    exact .text rfl (readText_spelled hs t)
  rw [hl, List.cons_append, ofChars_cons o (by decide) hread, List.take_left, List.drop_left, hsize]

/-- Every text has literals.  Each of them, with any text behind it, is read as the text that it was
made of, and then comes what that other text is read as when it stands alone, its end or the place
where it cannot be read included, with all places moved on by the length of the literal in bytes. -/
theorem ofSource_literal_append (s : String) :
    (∃ literal, IsLiteral s literal) ∧ ∀ literal, IsLiteral s literal → ∀ t : String,
      ofSource (literal ++ t) =
        .token (.text s) 0 ((ofSource t).shifted literal.utf8ByteSize) := by
  refine ⟨exists_isLiteral s, fun literal h t => ?_⟩
  rw [ofSource, String.toList_append, ofChars_literal h, ofChars_add]
  rfl

end Scan

/-! ### A path -/

/-- Backslashes at both ends, a quote, the letter behind a backslash, and a brace. -/
def path : String := "\\\\n\"\n\t\x7bö\\"

/-- The line feed stands for itself, and the tab is written with its letter. -/
def pathLiteral : String := "\"\\\\\\\\n\\\"\n\\t\x7bö\\\\\""

theorem isLiteral_path : IsLiteral path pathLiteral :=
  ⟨[['\\', '\\'], ['\\', '\\'], ['n'], ['\\', '"'], ['\n'], ['\\', 't'], ['\x7b'], ['ö'],
    ['\\', '\\']], by decide, by decide⟩

theorem ofSource_literal_append_path : IsLiteral path pathLiteral ∧
    Scan.ofSource (pathLiteral ++ " & #") = .token (.text path) 0
      (.token (.operator .concat) 18 (.broken 20 (.unexpectedCharacter '#'))) := by
  have hend : Scan.ofChars 2 [' ', '#'] = .broken 3 (.unexpectedCharacter '#') :=
    Scan.ofChars_of_dropWhile_eq_cons (c := '#') (r := []) rfl
  have hrest : Scan.ofSource " & #" =
      .token (.operator .concat) 1 (.broken 3 (.unexpectedCharacter '#')) :=
    (Scan.ofChars_of_dropWhile_eq_cons (c := '&') (r := [' ', '#']) rfl).trans
      (congrArg (Scan.token (.operator .concat) 1) hend)
  have hscan := (Scan.ofSource_literal_append path).2 pathLiteral isLiteral_path " & #"
  rw [hrest] at hscan
  exact ⟨isLiteral_path, hscan⟩

end Formula

end FieldCalc
