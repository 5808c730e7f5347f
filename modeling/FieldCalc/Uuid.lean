import FieldCalc.Text.Reader

/-!
# Identifiers

Tables, fields and records are identified by 128-bit numbers, written as thirty-two hexadecimal
digits.  The canonical spelling is in lower case with hyphens after the digits 8, 12, 16 and 20.
Read are also the spelling without hyphens, and the hyphenated one in braces or behind `urn:uuid:`,
in either case.  What is written is read back (`ofText?_toText`), so no two identifiers are spelled
alike.
-/

namespace FieldCalc

/-- An identifier, as its thirty-two hexadecimal digits. -/
structure Uuid where
  digits : List (Fin 16)
  length_digits : digits.length = 32
deriving DecidableEq

namespace Uuid

def hexDigit? (c : Char) : Option (Fin 16) :=
  (Text.Reader.hexDigit? c).map (Fin.ofNat 16)

def hexChar (d : Fin 16) : Char := Nat.digitChar d

/-- The canonical spelling as characters. -/
def chars (u : Uuid) : List Char :=
  let cs := u.digits.map hexChar
  cs.take 8 ++ '-' :: ((cs.drop 8).take 4 ++ '-' :: ((cs.drop 12).take 4 ++
    '-' :: ((cs.drop 16).take 4 ++ '-' :: cs.drop 20)))

/-- The canonical spelling. -/
def toText (u : Uuid) : String := String.ofList u.chars

/-- The identifier with these digits. -/
def ofHex? (cs : List Char) : Option Uuid := do
  let ds ← cs.mapM hexDigit?
  if h : ds.length = 32 then some ⟨ds, h⟩ else none

/-- The identifier whose groups of digits stand between hyphens. -/
def ofHyphenated? (cs : List Char) : Option Uuid :=
  if cs.length = 36 ∧ cs[8]? = some '-' ∧ cs[13]? = some '-' ∧ cs[18]? = some '-' ∧
      cs[23]? = some '-' then
    ofHex? (cs.take 8 ++ ((cs.drop 9).take 4 ++ ((cs.drop 14).take 4 ++
      ((cs.drop 19).take 4 ++ cs.drop 24))))
  else none

/-- The identifier that a text spells. -/
def ofChars? (cs : List Char) : Option Uuid :=
  match cs with
  | '\x7b' :: r =>
    if r.getLast? = some '\x7d' then ofHyphenated? r.dropLast else none
  | _ =>
    if cs.length = 32 then ofHex? cs
    else if cs.length = 45 ∧ (cs.take 9).map Char.toLower = "urn:uuid:".toList then
      ofHyphenated? (cs.drop 9)
    else ofHyphenated? cs

def ofText? (s : String) : Option Uuid := ofChars? s.toList

/-! ### Reading the canonical spelling -/

theorem hexDigit?_hexChar (d : Fin 16) : hexDigit? (hexChar d) = some d := by
  revert d; decide

theorem hexChar_ne_brace (d : Fin 16) : hexChar d ≠ '\x7b' := by
  revert d; decide

theorem mapM_hexDigit? (ds : List (Fin 16)) : (ds.map hexChar).mapM hexDigit? = some ds := by
  induction ds with
  | nil => rfl
  | cons d ds ih => rw [List.map_cons, List.mapM_cons, hexDigit?_hexChar, ih]; rfl

theorem ofHex?_map (u : Uuid) : ofHex? (u.digits.map hexChar) = some u := by
  rw [ofHex?, mapM_hexDigit?]
  exact dif_pos u.length_digits

theorem ofHyphenated?_groups {a b c d e : List Char} (ha : a.length = 8) (hb : b.length = 4)
    (hc : c.length = 4) (hd : d.length = 4) (he : e.length = 12) :
    ofHyphenated? (a ++ '-' :: (b ++ '-' :: (c ++ '-' :: (d ++ '-' :: e)))) =
      ofHex? (a ++ (b ++ (c ++ (d ++ e)))) := by
  rw [ofHyphenated?, if_pos]
  · simp [List.drop_append, List.drop_of_length_le, ha, hb, hc, hd]
  · simp [ha, hb, hc, hd, he]

theorem ofHyphenated?_chars (u : Uuid) : ofHyphenated? u.chars = some u := by
  have h := u.length_digits
  rw [chars, ofHyphenated?_groups (by simp [h]) (by simp [h]) (by simp [h]) (by simp [h])
    (by simp [h]), ← ofHex?_map u]
  congr 1
  conv => rhs; rw [← List.take_append_drop 8 (u.digits.map hexChar)]
  congr 1
  conv => rhs; rw [← List.take_append_drop 4 (List.drop 8 _), List.drop_drop]
  congr 1
  conv => rhs; rw [← List.take_append_drop 4 (List.drop _ _), List.drop_drop]
  congr 1
  conv => rhs; rw [← List.take_append_drop 4 (List.drop _ _), List.drop_drop]

theorem chars_ne_brace (u : Uuid) (r : List Char) : u.chars ≠ '\x7b' :: r := by
  have h := u.length_digits
  unfold chars
  cases hd : u.digits with
  | nil => simp [hd] at h
  | cons d ds =>
    simp [hexChar_ne_brace d]

theorem length_chars (u : Uuid) : u.chars.length = 36 := by
  simp [chars, u.length_digits]

/-- The canonical spelling is read back. -/
theorem ofChars?_chars (u : Uuid) : ofChars? u.chars = some u := by
  unfold ofChars?
  split
  · rename_i r h
    exact absurd h (chars_ne_brace u r)
  · simp [length_chars, ofHyphenated?_chars]

theorem ofText?_toText (u : Uuid) : ofText? u.toText = some u := by
  rw [ofText?, toText, String.toList_ofList, ofChars?_chars]

theorem toText_injective {u v : Uuid} (h : u.toText = v.toText) : u = v := by
  have := ofText?_toText u
  rw [h, ofText?_toText] at this
  exact (Option.some.inj this).symm

end Uuid

end FieldCalc
