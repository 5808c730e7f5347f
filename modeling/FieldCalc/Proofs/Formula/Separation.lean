import FieldCalc.Proofs.Formula.SourceReferences

/-!
# White space between tokens

No token goes on with white space, so what comes behind it does not change how the tokens before it
are read (`readToken_append`).  The tokens of two texts with white space between them are those of
the first one and then those of the second (`tokens?_append`).
-/

namespace FieldCalc

/-- A class of characters is gone through range by range. -/
theorem Text.Ranges.forall_of_holds {rs : Ranges} {P : Char → Prop}
    (h : ∀ r ∈ rs, ∀ n ∈ List.range' r.1 (r.2 + 1 - r.1), P (Char.ofNat n)) {c : Char}
    (hc : rs.holds c) : P c := by
  obtain ⟨r, hr, hb⟩ := List.any_eq_true.1 hc
  obtain ⟨hlo, hhi⟩ : r.1 ≤ c.toNat ∧ c.toNat ≤ r.2 := by simpa using hb
  have hn : c.toNat ∈ List.range' r.1 (r.2 + 1 - r.1) :=
    List.mem_range'_1.2 ⟨hlo, by omega⟩
  simpa using h r hr c.toNat hn

namespace Formula

/-- A character that no token but a text or a reference can have after its first character. -/
def EndsTokens (w : Char) : Prop :=
  isNumberPart w = false ∧ isNamePart w = false ∧ w ∉ ['=', '>', 'e', 'E', '+', '-']

instance (w : Char) : Decidable (EndsTokens w) := inferInstanceAs (Decidable (_ ∧ _))

theorem EndsTokens.notMem_seconds {w : Char} (h : EndsTokens w) : w ∉ seconds :=
  fun hw => h.2.2 (List.mem_append_left ['e', 'E', '+', '-'] hw)

theorem endsTokens_of_isBlank {w : Char} (h : Text.isBlank w) : EndsTokens w :=
  Text.Ranges.forall_of_holds (P := EndsTokens) (by decide +kernel) h

/-! ### Single tokens -/

section Tokens

variable {w : Char} (cs ds : List Char)

theorem takeWhile_append_cons {p : Char → Bool} (h : p w = false) :
    (cs ++ w :: ds).takeWhile p = cs.takeWhile p := by
  induction cs with
  | nil => simp [h]
  | cons c cs ih => rw [List.cons_append, List.takeWhile_cons, List.takeWhile_cons, ih]

theorem exponentMark_append_cons (h : w ∉ ['=', '>', 'e', 'E', '+', '-']) :
    exponentMark (cs ++ w :: ds) = exponentMark cs := by
  obtain ⟨-, -, he, hE, hplus, hminus⟩ : w ≠ '=' ∧ w ≠ '>' ∧ w ≠ 'e' ∧ w ≠ 'E' ∧ w ≠ '+' ∧
      w ≠ '-' := by simpa using h
  match cs with
  | [] => cases ds <;> simp [exponentMark, he, hE]
  | [e] => simp [exponentMark, hplus, hminus]
  | _ :: _ :: _ => rfl

theorem readNumber_append_cons (h : EndsTokens w) : readNumber (cs ++ w :: ds) = readNumber cs := by
  obtain ⟨hnumber, -, hmark⟩ := h
  have hdigit : w.isDigit = false := (Bool.or_eq_false_iff.1 hnumber).1
  have hbody := List.takeWhile_prefix isNumberPart (l := cs)
  have hpower := isPrefix_append hbody (exponentMark_isPrefix _)
  have hlength := hpower.length_le
  rw [List.length_append] at hlength
  unfold readNumber
  simp only [takeWhile_append_cons cs ds hnumber,
    List.drop_append_of_le_length hbody.length_le, exponentMark_append_cons _ _ hmark,
    List.drop_append_of_le_length hlength, takeWhile_append_cons _ _ hdigit]

/-- A text literal ends with its closing quote, whatever comes then. -/
theorem readText_take_append {s : List Char} {n : Nat} (h : readText cs = some (s, n)) :
    readText (cs.take n ++ ds) = some (s, n) ∧ n ≤ cs.length := by
  fun_induction readText cs generalizing s n with
  | case1 => cases h
  | case2 cs =>
    cases h
    exact ⟨rfl, Nat.succ_le_succ (Nat.zero_le _)⟩
  | case3 c cs ih =>
    obtain ⟨⟨s', m⟩, hm, he⟩ := Option.map_eq_some_iff.1 h
    cases he
    obtain ⟨ih, hle⟩ := ih hm
    refine ⟨?_, Nat.succ_le_succ (Nat.succ_le_succ hle)⟩
    rw [List.take_succ_cons, List.take_succ_cons, List.cons_append, List.cons_append, readText, ih]
    rfl
  | case4 c cs hq hb ih =>
    obtain ⟨⟨s', m⟩, hm, he⟩ := Option.map_eq_some_iff.1 h
    cases he
    obtain ⟨ih, hle⟩ := ih hm
    refine ⟨?_, Nat.succ_le_succ hle⟩
    have hb' : ∀ d es, c = '\\' → cs.take m ++ ds ≠ d :: es := by
      rintro d es rfl -
      cases cs with
      | nil => cases hm
      | cons d cs => exact hb d cs rfl rfl
    rw [List.take_succ_cons, List.cons_append, readText, ih]
    · rfl
    · exact hq
    · exact fun d es hc => hb' d es hc

theorem readText_append {s : List Char} {n : Nat} (h : readText cs = some (s, n)) :
    readText (cs ++ ds) = some (s, n) ∧ n ≤ cs.length := by
  have hread := readText_take_append cs (cs.drop n ++ ds) h
  rwa [← List.append_assoc, List.take_append_drop] at hread

theorem readReference_append {t : Token} {n : Nat} (h : readReference cs = .ok (t, n)) :
    readReference (cs ++ ds) = .ok (t, n) ∧ n ≤ cs.length := by
  obtain ⟨inner, es, rfl, hi, hne, rfl, rfl⟩ := exists_of_readReference h
  rw [List.append_assoc, List.cons_append, readReference_closed hi hne]
  exact ⟨rfl, by simp⟩

/-- A token is read the same with white space behind it, whatever comes then. -/
theorem readToken_append {c : Char} {t : Token} {n : Nat} (hw : EndsTokens w)
    (h : readToken c cs = .ok (t, n)) :
    readToken c (cs ++ w :: ds) = .ok (t, n) ∧ n ≤ cs.length := by
  cases readToken_eq_ok_iff.1 h with
  | single _ hmark =>
    refine ⟨hmark _ ?_, Nat.zero_le _⟩
    cases cs with
    | nil => exact .inr fun _ he => Option.some.inj he ▸ hw.notMem_seconds
    | cons _ _ => exact .inl rfl
  | double _ _ hcs hoperator =>
    obtain ⟨r, rfl⟩ := List.head?_eq_some_iff.1 hcs
    exact ⟨hoperator _, Nat.succ_le_succ (Nat.zero_le _)⟩
  | text hc hs =>
    obtain ⟨hs, hle⟩ := readText_append cs (w :: ds) hs
    exact ⟨readToken_eq_ok_iff.2 (.text hc hs), hle⟩
  | reference hc hr =>
    obtain ⟨hr, hle⟩ := readReference_append cs (w :: ds) hr
    exact ⟨readToken_eq_ok_iff.2 (.reference hc hr), hle⟩
  | number hc hu =>
    refine ⟨readToken_eq_ok_iff.2 (.number hc ?_), Nat.le_of_succ_le_succ (readNumber_le hu)⟩
    rwa [← List.cons_append, readNumber_append_cons _ _ hw]
  | name hn hc =>
    refine ⟨readToken_eq_ok_iff.2 ?_, (List.takeWhile_prefix _).length_le⟩
    rw [← takeWhile_append_cons cs ds hw.2.1]
    exact .name hn hc

end Tokens

/-! ### Whole texts -/

namespace Scan

variable {cs ds : List Char} {o : Nat}

theorem ofChars_of_dropWhile_eq_nil (h : cs.dropWhile Text.isBlank = []) :
    ofChars o cs = .ended (o + byteLength (cs.takeWhile Text.isBlank)) := by
  rw [ofChars]
  split
  · rfl
  · rename_i hd
    cases h.symm.trans hd

/-- The white space in front of a token is passed over. -/
theorem ofChars_of_dropWhile_eq_cons {c : Char} {r : List Char}
    (h : cs.dropWhile Text.isBlank = c :: r) :
    ofChars o cs =
      let start := o + byteLength (cs.takeWhile Text.isBlank)
      match readToken c r with
      | .error fault => .broken start fault
      | .ok (t, n) => .token t start (ofChars (start + byteLength (c :: r.take n)) (r.drop n)) := by
  rw [ofChars]
  split
  · rename_i hd
    cases h.symm.trans hd
  · rename_i hd
    cases h.symm.trans hd
    rfl

theorem ofChars_nil (offset : Nat) : ofChars offset [] = .ended offset :=
  ofChars_of_dropWhile_eq_nil rfl

theorem ofChars_cons {c : Char} {r : List Char} {t : Token} {n : Nat} (offset : Nat)
    (hc : Text.isBlank c = false) (ht : readToken c r = .ok (t, n)) : ofChars offset (c :: r) =
      .token t offset (ofChars (offset + byteLength (c :: r.take n)) (r.drop n)) := by
  have hd : (c :: r).dropWhile Text.isBlank = c :: r := List.dropWhile_cons_of_neg (by simp [hc])
  have htake : (c :: r).takeWhile Text.isBlank = [] := List.takeWhile_cons_of_neg (by simp [hc])
  rw [ofChars_of_dropWhile_eq_cons hd, ht, htake]
  rfl

theorem tokens?_of_readToken {c : Char} {r : List Char} {t : Token} {n : Nat}
    (h : cs.dropWhile Text.isBlank = c :: r) (ht : readToken c r = .ok (t, n)) :
    ∃ o', (ofChars o cs).tokens? = (ofChars o' (r.drop n)).tokens?.map (t :: ·) := by
  rw [ofChars_of_dropWhile_eq_cons h, ht]
  exact ⟨_, rfl⟩

/-- The tokens of a text depend neither on its place nor on the white space in front of it. -/
theorem tokens?_eq_of_dropWhile_eq {o' : Nat}
    (h : cs.dropWhile Text.isBlank = ds.dropWhile Text.isBlank) :
    (ofChars o cs).tokens? = (ofChars o' ds).tokens? := by
  fun_induction ofChars o cs generalizing o' ds with
  | case1 o cs start =>
    rename_i hd
    rw [ofChars_of_dropWhile_eq_nil (o := o') (h ▸ hd)]
    rfl
  | case2 o cs start c r hd fault =>
    rename_i ht
    rw [ofChars_of_dropWhile_eq_cons (o := o') (h ▸ hd), ht]
    rfl
  | case3 o cs start c r hd t n ht =>
    rename_i ih
    obtain ⟨o₁, h₁⟩ := tokens?_of_readToken (o := o') (h ▸ hd) ht
    rw [h₁, ← ih rfl]
    rfl

/-- The tokens of two texts with white space between them. -/
theorem tokens?_append {w : Char} (hw : Text.isBlank w) {ts : List Token} {p q : Nat}
    (h : (ofChars o cs).tokens? = some ts) :
    (ofChars p (cs ++ w :: ds)).tokens? = (ofChars q ds).tokens?.map (ts ++ ·) := by
  fun_induction ofChars o cs generalizing p ts with
  | case1 o cs start =>
    rename_i hd
    cases h
    have hrest : (cs ++ w :: ds).dropWhile Text.isBlank = ds.dropWhile Text.isBlank := by
      rw [List.dropWhile_append, hd, List.isEmpty_nil, if_pos rfl, List.dropWhile_cons_of_pos hw]
    rw [tokens?_eq_of_dropWhile_eq hrest]
    exact (congrFun Option.map_id _).symm
  | case2 => cases h
  | case3 o cs start c r hd t n ht =>
    rename_i ih
    obtain ⟨us, hu, rfl⟩ := Option.map_eq_some_iff.1 h
    obtain ⟨ht', hle⟩ := readToken_append r ds (endsTokens_of_isBlank hw) ht
    have hrest : (cs ++ w :: ds).dropWhile Text.isBlank = c :: (r ++ w :: ds) := by
      rw [List.dropWhile_append, hd]
      rfl
    obtain ⟨o₁, h₁⟩ := tokens?_of_readToken (o := p) hrest ht'
    rw [h₁, List.drop_append_of_le_length hle, ih hu, Option.map_map]
    rfl

end Scan

end Formula

end FieldCalc
