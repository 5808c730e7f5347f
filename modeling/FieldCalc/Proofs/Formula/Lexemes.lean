import FieldCalc.Proofs.Formula.Separation

/-!
# Lexemes of a source

A source that can be read is made up of lexemes, each of them the characters of one token, with
white space before, between and behind them.  A token is read off its lexeme alone as it is read in
the source (`readToken_take`), and white space behind it changes nothing, so that the same lexemes
with other white space between them have the same tokens (`Scan.ofChars_joined`).  The place of a
token is what comes before its lexeme, in bytes (`Cursor.moved_spelled`).
-/

namespace FieldCalc

namespace Formula

/-! ### Lengths in bytes -/

theorem byteLength_append (cs ds : List Char) :
    byteLength (cs ++ ds) = byteLength cs + byteLength ds := by
  induction cs with
  | nil => exact (Nat.zero_add _).symm
  | cons c cs ih =>
    rw [List.cons_append]
    exact (congrArg (c.utf8Size + ·) ih).trans (Nat.add_assoc _ _ _).symm

theorem byteLength_eq_utf8ByteSize (cs : List Char) :
    byteLength cs = (String.ofList cs).utf8ByteSize := by
  induction cs with
  | nil => rfl
  | cons c cs ih =>
    rw [String.ofList_cons, String.utf8ByteSize_append, String.utf8ByteSize_singleton, ← ih]
    rfl

theorem byteLength_pos {cs : List Char} (h : cs ≠ []) : 0 < byteLength cs := by
  obtain ⟨c, r, rfl⟩ := List.exists_cons_of_ne_nil h
  exact Nat.lt_of_lt_of_le c.utf8Size_pos (Nat.le_add_right _ _)

/-! ### Cutting a token off -/

section Tokens

variable {cs : List Char} {t : Token} {n : Nat}

theorem readText_take {s : List Char} (h : readText cs = some (s, n)) :
    readText (cs.take n) = some (s, n) := by
  have hread := (readText_take_append cs [] h).1
  rwa [List.append_nil] at hread

theorem readReference_take (h : readReference cs = .ok (t, n)) :
    readReference (cs.take n) = .ok (t, n) := by
  obtain ⟨inner, es, rfl, hi, hne, rfl, rfl⟩ := exists_of_readReference h
  have htake : (inner ++ '\x7d' :: es).take (inner.length + 1) = inner ++ '\x7d' :: [] := by
    rw [List.take_length_add_append, List.take_succ_cons, List.take_zero]
  rw [htake]
  exact readReference_closed hi hne []

/-- What is an exponent is decided by two characters. -/
theorem exponentMark_take (h : 2 ≤ n) : exponentMark (cs.take n) = exponentMark cs := by
  obtain ⟨m, rfl⟩ := Nat.exists_eq_add_of_le' h
  match cs with
  | [] => rfl
  | [_] => rfl
  | _ :: _ :: _ => rfl

theorem takeWhile_take_of_le {p : Char → Bool} (h : (cs.takeWhile p).length ≤ n) :
    (cs.take n).takeWhile p = cs.takeWhile p := by
  rw [← List.take_takeWhile, List.take_of_length_le h]

theorem IsNumeral.take {body mark power : List Char} (h : IsNumeral cs body mark power) :
    IsNumeral (cs.take (body ++ mark ++ power).length) body mark power := by
  obtain ⟨hbody, hmark, hpower⟩ := h
  rw [List.length_append, List.length_append]
  refine ⟨?_, ?_, hpower.imp_right fun ⟨hm, hp, he⟩ => ⟨hm, hp, ?_⟩⟩
  · rw [takeWhile_take_of_le (by rw [hbody]; omega), hbody]
  · rw [List.drop_take]
    rcases hpower with ⟨rfl, rfl⟩ | ⟨hm, hp, -⟩
    · simp [exponentMark]
    · have := List.length_pos_iff.2 hm
      have := List.length_pos_iff.2 hp
      rw [exponentMark_take (by omega), hmark]
  · rw [List.drop_take, takeWhile_take_of_le (by rw [he]; omega), he]

theorem readNumber_take (h : readNumber cs = .ok (t, n)) :
    readNumber (cs.take n) = .ok (t, n) := by
  obtain ⟨body, mark, power, hn, ht, rfl⟩ := readNumber_eq_ok_iff.1 h
  exact readNumber_eq_ok_iff.2 ⟨body, mark, power, hn.take, ht, rfl⟩

/-- A token is read the same where the text ends with it. -/
theorem readToken_take {c : Char} (h : readToken c cs = .ok (t, n)) :
    readToken c (cs.take n) = .ok (t, n) := by
  cases readToken_eq_ok_iff.1 h with
  | single _ hmark => exact hmark [] (.inr nofun)
  | double _ _ hcs hoperator =>
    obtain ⟨r, rfl⟩ := List.head?_eq_some_iff.1 hcs
    exact hoperator []
  | text hc hs => exact readToken_eq_ok_iff.2 (.text hc (readText_take hs))
  | reference hc hr => exact readToken_eq_ok_iff.2 (.reference hc (readReference_take hr))
  | number hc hu => exact readToken_eq_ok_iff.2 (.number hc (readNumber_take hu))
  | name hn hc =>
    have hname : TokenForm c (cs.take (cs.takeWhile isNamePart).length) _ _ := .name hn hc
    rw [takeWhile_take_of_le (Nat.le_refl _)] at hname
    exact readToken_eq_ok_iff.2 hname

end Tokens

/-! ### Lexemes and what is between them -/

/-- The characters of a token. -/
structure Lexeme where
  chars : List Char
  token : Token

/-- The text of some lexemes with a gap before each of them and one behind them. -/
def joined (gap : Nat → List Char) : List Lexeme → List Char
  | [] => gap 0
  | l :: ls => gap 0 ++ l.chars ++ joined (fun k => gap (k + 1)) ls

/-- A lexeme is read as its token, all of it. -/
def Lexeme.Reads (l : Lexeme) : Prop :=
  ∃ c r, l.chars = c :: r ∧ Text.isBlank c = false ∧ readToken c r = .ok (l.token, r.length)

theorem Lexeme.Reads.ne_nil {l : Lexeme} (h : l.Reads) : l.chars ≠ [] := by
  obtain ⟨c, r, hl, -⟩ := h
  exact hl ▸ List.cons_ne_nil c r

/-- A gap before all others. -/
def gapsFrom (first : List Char) (gap : Nat → List Char) : Nat → List Char
  | 0 => first
  | k + 1 => gap k

/-- White space, in every gap. -/
def Blank (gap : Nat → List Char) : Prop := ∀ k, ∀ c ∈ gap k, Text.isBlank c

theorem joined_gapsFrom (first : List Char) (gap : Nat → List Char) (l : Lexeme)
    (ls : List Lexeme) : joined (gapsFrom first gap) (l :: ls) =
      first ++ l.chars ++ joined gap ls := rfl

theorem Blank.gapsFrom {first : List Char} {gap : Nat → List Char} (hgap : Blank gap)
    (h : ∀ c ∈ first, Text.isBlank c) : Blank (gapsFrom first gap)
  | 0 => h
  | k + 1 => hgap k

/-! ### Places -/

section Places

variable {ls : List Lexeme}

theorem joined_take_isPrefix (gap : Nat → List Char) (ls : List Lexeme) (k : Nat) :
    joined gap (ls.take k) <+: joined gap ls := by
  induction ls generalizing gap k with
  | nil => simp only [List.take_nil, List.prefix_rfl]
  | cons l ls ih =>
    cases k with
    | zero => exact (List.prefix_append _ _).trans (List.prefix_append _ _)
    | succ k => exact (List.prefix_append_right_inj _).2 (ih (fun i => gap (i + 1)) k)

/-- A text becomes longer with each lexeme. -/
theorem byteLength_joined_take_lt (gap : Nat → List Char) (h : ∀ l ∈ ls, l.chars ≠ []) {j k : Nat}
    (hjk : j < k) (hk : k ≤ ls.length) :
    byteLength (joined gap (ls.take j)) < byteLength (joined gap (ls.take k)) := by
  induction ls generalizing gap j k with
  | nil => exact absurd (Nat.lt_of_lt_of_le hjk hk) (Nat.not_lt_zero _)
  | cons l ls ih =>
    obtain ⟨hl, hls⟩ := List.forall_mem_cons.1 h
    cases k with
    | zero => exact absurd hjk (Nat.not_lt_zero _)
    | succ k =>
      rw [List.take_succ_cons, joined, byteLength_append, byteLength_append]
      cases j with
      | zero =>
        have := byteLength_pos hl
        rw [List.take_zero, joined]
        omega
      | succ j =>
        have := ih (fun i => gap (i + 1)) hls (Nat.lt_of_succ_lt_succ hjk)
          (Nat.le_of_succ_le_succ hk)
        rw [List.take_succ_cons, joined, byteLength_append, byteLength_append]
        omega

/-- The scan of lexemes with gaps between them, from an offset on. -/
def Scan.spelled (gap : Nat → List Char) (offset : Nat) : List Lexeme → Scan
  | [] => .ended (offset + byteLength (gap 0))
  | l :: ls =>
    let start := offset + byteLength (gap 0)
    .token l.token start (spelled (fun k => gap (k + 1)) (start + byteLength l.chars) ls)

theorem Scan.tokens?_spelled (gap : Nat → List Char) (o : Nat) (ls : List Lexeme) :
    (spelled gap o ls).tokens? = some (ls.map Lexeme.token) := by
  induction ls generalizing gap o with
  | nil => rfl
  | cons l ls ih => rw [spelled, tokens?, ih, Option.map_some, List.map_cons]

namespace Cursor

/-- The next token, unless the source ends. -/
def token? (s : Cursor) : Option Token :=
  match s.input with
  | .token t _ _ => some t
  | _ => none

/-- The cursor after `k` moves. -/
def moved (s : Cursor) : Nat → Except Error Cursor
  | 0 => .ok s
  | k + 1 => s.advance >>= fun s => s.moved k

theorem advance_spelled (gap : Nat → List Char) (o room : Nat) (l : Lexeme) (ls : List Lexeme) :
    advance ⟨.spelled gap o (l :: ls), room⟩ = .ok ⟨.spelled (fun k => gap (k + 1))
      (o + byteLength (gap 0) + byteLength l.chars) ls, room⟩ := by
  cases ls <;> rfl

/-- After `k` moves comes the token with this number, if there is one.  Its place is the length of
what is before it; at the end it is the length of all, and stays there. -/
theorem moved_spelled (gap : Nat → List Char) (o room : Nat) (ls : List Lexeme) (k : Nat) :
    ∃ s, moved ⟨.spelled gap o ls, room⟩ k = .ok s ∧ s.token? = (ls.map Lexeme.token)[k]? ∧
      s.offset = o + byteLength (joined gap (ls.take k)) := by
  induction k generalizing gap o ls with
  | zero => cases ls <;> exact ⟨_, rfl, rfl, rfl⟩
  | succ k ih =>
    cases ls with
    | nil =>
      obtain ⟨s, hs, ht, ho⟩ := ih gap o []
      exact ⟨s, hs, ht, ho.trans (by rw [List.take_nil, List.take_nil])⟩
    | cons l ls =>
      obtain ⟨s, hs, ht, ho⟩ := ih (fun i => gap (i + 1))
        (o + byteLength (gap 0) + byteLength l.chars) ls
      refine ⟨s, ?_, ht, ?_⟩
      · rw [moved, advance_spelled]
        exact hs
      · rw [ho, List.take_succ_cons, joined, byteLength_append, byteLength_append]
        omega

end Cursor

end Places

/-! ### Scans of lexemes -/

namespace Scan

theorem takeWhile_gap {p : Char → Bool} {cs : List Char} {c : Char} (h : ∀ d ∈ cs, p d)
    (hc : p c = false) (ds : List Char) :
    (cs ++ c :: ds).takeWhile p = cs ∧ (cs ++ c :: ds).dropWhile p = c :: ds := by
  rw [List.takeWhile_append_of_pos h, List.dropWhile_append_of_pos h,
    List.takeWhile_cons_of_neg (by simp [hc]), List.dropWhile_cons_of_neg (by simp [hc]),
    List.append_nil]
  exact ⟨rfl, rfl⟩

/-- What a token is read off does not change with white space behind it. -/
theorem readToken_append_of_blank {c : Char} {r cs : List Char} {t : Token} {n : Nat}
    (h : readToken c r = .ok (t, n)) (hcs : ∀ w ∈ cs.head?, Text.isBlank w) :
    readToken c (r ++ cs) = .ok (t, n) := by
  cases cs with
  | nil => rwa [List.append_nil]
  | cons w ds => exact (readToken_append r ds (endsTokens_of_isBlank (hcs w rfl)) h).1

/-- Behind a lexeme comes white space or nothing, if the gap before the next one is not empty. -/
theorem isBlank_head?_joined {gap : Nat → List Char} {ls : List Lexeme} (hgap : Blank gap)
    (h : ls ≠ [] → gap 0 ≠ []) : ∀ w ∈ (joined gap ls).head?, Text.isBlank w := by
  cases hg : gap 0 with
  | nil =>
    obtain rfl : ls = [] := not_not.1 (mt h (not_not.2 hg))
    rw [joined, hg]
    exact nofun
  | cons w ds =>
    have hhead : (joined gap ls).head? = some w := by cases ls <;> simp [joined, hg]
    rw [hhead]
    rintro _ ⟨⟩
    exact hgap 0 w (hg ▸ List.mem_cons_self)

/-- Lexemes with white space between them are read one by one. -/
theorem ofChars_joined {gap : Nat → List Char} {ls : List Lexeme} (hgap : Blank gap)
    (hne : ∀ k, 0 < k → k < ls.length → gap k ≠ []) (hls : ∀ l ∈ ls, l.Reads) (o : Nat) :
    ofChars o (joined gap ls) = spelled gap o ls := by
  induction ls generalizing gap o with
  | nil =>
    have hall : (gap 0).takeWhile Text.isBlank = gap 0 := List.takeWhile_eq_self_iff.2 (hgap 0)
    rw [joined, ofChars_of_dropWhile_eq_nil (List.dropWhile_eq_nil_iff.2 (hgap 0)), hall]
    rfl
  | cons l ls ih =>
    obtain ⟨⟨c, r, hl, hc, ht⟩, hls⟩ := List.forall_mem_cons.1 hls
    have hgap' : Blank fun k => gap (k + 1) := fun k => hgap (k + 1)
    have hne' : ls ≠ [] → gap 1 ≠ [] := fun h =>
      hne 1 Nat.one_pos (Nat.succ_lt_succ (List.length_pos_iff.2 h))
    have hread := readToken_append_of_blank ht (isBlank_head?_joined hgap' hne')
    have hrest := ih hgap' (fun k _ hk => hne (k + 1) (Nat.succ_pos k) (Nat.succ_lt_succ hk)) hls
    rw [joined, hl, List.append_assoc, List.cons_append]
    obtain ⟨htake, hdrop⟩ := takeWhile_gap (hgap 0) hc (r ++ joined _ ls)
    rw [ofChars_of_dropWhile_eq_cons hdrop, hread, htake, spelled, hl]
    dsimp only
    rw [List.take_left, List.drop_left, hrest]

/-- The lexemes of a text that can be read. -/
theorem exists_lexemes {cs : List Char} {ts : List Token} {o : Nat}
    (h : (ofChars o cs).tokens? = some ts) : ∃ ls gap, Blank gap ∧ (∀ l ∈ ls, l.Reads) ∧
      joined gap ls = cs ∧ ofChars o cs = spelled gap o ls := by
  fun_induction ofChars o cs generalizing ts with
  | case1 o cs start =>
    rename_i hd
    have hall := List.dropWhile_eq_nil_iff.1 hd
    have htake : cs.takeWhile Text.isBlank = cs := List.takeWhile_eq_self_iff.2 hall
    refine ⟨[], fun _ => cs, fun _ => hall, List.forall_mem_nil _, rfl, ?_⟩
    exact congrArg (fun ds => Scan.ended (o + byteLength ds)) htake
  | case2 => cases h
  | case3 o cs start c r hd t n ht =>
    rename_i ih
    obtain ⟨us, hu, rfl⟩ := Option.map_eq_some_iff.1 h
    obtain ⟨ls, gap, hgap, hls, hj, hs⟩ := ih hu
    have hc : Text.isBlank c = false := by
      have := List.head?_dropWhile_not Text.isBlank cs
      rw [hd] at this
      simpa using this
    have hn : (r.take n).length = n :=
      List.length_take_of_le (readToken_append (w := ' ') r [] (by decide) ht).2
    refine ⟨⟨c :: r.take n, t⟩ :: ls, gapsFrom (cs.takeWhile Text.isBlank) gap,
      hgap.gapsFrom fun _ hm => List.mem_takeWhile_imp hm, ?_, ?_, ?_⟩
    · refine List.forall_mem_cons.2 ⟨⟨c, r.take n, rfl, hc, ?_⟩, hls⟩
      rw [hn]
      exact readToken_take ht
    · rw [joined_gapsFrom, hj, List.append_assoc, List.cons_append, List.take_append_drop, ← hd,
        List.takeWhile_append_dropWhile]
    · rw [hs]
      rfl

end Scan

/-! ### Sources -/

/-- What stands before the lexeme with the number `k`; behind the last one it is the whole text. -/
def textBefore (gap : Nat → List Char) (ls : List Lexeme) (k : Nat) : String :=
  String.ofList (joined gap (ls.take k))

theorem Lexeme.Reads.tokens? {l : Lexeme} (h : l.Reads) :
    (Scan.ofSource (String.ofList l.chars)).tokens? = some [l.token] := by
  have hj : joined (fun _ => []) [l] = l.chars := List.append_nil _
  have hgap : Blank fun _ => [] := fun _ => nofun
  have hne : ∀ k, 0 < k → k < [l].length → (fun _ => [] : Nat → List Char) k ≠ [] :=
    fun k h₀ h₁ => absurd h₀ (Nat.not_lt.2 (Nat.le_of_lt_succ h₁))
  have hs := Scan.ofChars_joined hgap hne (List.forall_mem_singleton.2 h) 0
  rw [Scan.ofSource, String.toList_ofList, ← hj, hs, Scan.tokens?_spelled]
  rfl

/-- A source that can be read is made up of lexemes with white space before, between and behind
them, and each lexeme alone is one token.  The tokens come in order, each at the length in bytes of
what stands before its lexeme, which is a beginning of the source and is longer for each further
token.  Whoever moves on at the end stays there, at the length of the source.  The same lexemes with
any other white space between them have the same tokens. -/
theorem lexemes_partition {source : String} {ts : List Token}
    (h : (Scan.ofSource source).tokens? = some ts) :
    ∃ (ls : List Lexeme) (gap : Nat → List Char), Blank gap ∧ joined gap ls = source.toList ∧
      ls.map Lexeme.token = ts ∧
      (∀ l ∈ ls, (Scan.ofSource (String.ofList l.chars)).tokens? = some [l.token]) ∧
      (∀ room k, ∃ s, (Cursor.mk (.ofSource source) room).moved k = .ok s ∧
        s.token? = ts[k]? ∧ s.offset = (textBefore gap ls k).utf8ByteSize) ∧
      (∀ room k, ts.length ≤ k → ∃ s, (Cursor.mk (.ofSource source) room).moved k = .ok s ∧
        s.token? = none ∧ s.offset = source.utf8ByteSize) ∧
      (∀ k, ∃ rest, source = textBefore gap ls k ++ rest) ∧
      (∀ j k, j < k → k ≤ ts.length →
        (textBefore gap ls j).utf8ByteSize < (textBefore gap ls k).utf8ByteSize) ∧
      ∀ gap', Blank gap' → (∀ k, 0 < k → k < ts.length → gap' k ≠ []) →
        (Scan.ofSource (String.ofList (joined gap' ls))).tokens? = some ts := by
  obtain ⟨ls, gap, hgap, hls, hj, hs⟩ := Scan.exists_lexemes h
  have hts : ls.map Lexeme.token = ts := by
    rw [← Scan.ofSource] at hs
    exact Option.some.inj ((Scan.tokens?_spelled gap 0 ls).symm.trans (hs ▸ h))
  have hlength : ts.length = ls.length := hts ▸ List.length_map _
  have hmoved : ∀ room k, ∃ s, (Cursor.mk (.ofSource source) room).moved k = .ok s ∧
      s.token? = ts[k]? ∧ s.offset = (textBefore gap ls k).utf8ByteSize := fun room k => by
    obtain ⟨s, hm, ht, ho⟩ := Cursor.moved_spelled gap 0 room ls k
    refine ⟨s, ?_, hts ▸ ht, ?_⟩
    · rw [Scan.ofSource, hs, hm]
    · rw [ho, Nat.zero_add, byteLength_eq_utf8ByteSize, textBefore]
  refine ⟨ls, gap, hgap, hj, hts, fun l hl => (hls l hl).tokens?, hmoved, fun room k hk => ?_,
    fun k => ?_, fun j k hjk hk => ?_, fun gap' hgap' hne => ?_⟩
  · obtain ⟨s, hm, ht, ho⟩ := hmoved room k
    refine ⟨s, hm, ht.trans (List.getElem?_eq_none hk), ?_⟩
    rw [ho, textBefore, List.take_of_length_le (hlength ▸ hk), hj, String.ofList_toList]
  · obtain ⟨rest, hr⟩ := joined_take_isPrefix gap ls k
    refine ⟨String.ofList rest, ?_⟩
    rw [textBefore, ← String.ofList_append, hr, hj, String.ofList_toList]
  · rw [textBefore, textBefore, ← byteLength_eq_utf8ByteSize, ← byteLength_eq_utf8ByteSize]
    exact byteLength_joined_take_lt gap (fun l hl => (hls l hl).ne_nil) hjk (hlength ▸ hk)
  · rw [Scan.ofSource, String.toList_ofList,
      Scan.ofChars_joined hgap' (hlength ▸ hne) hls, Scan.tokens?_spelled, hts]

/-! ### A label -/

/-- Braces and quotes around letters of more than one byte. -/
def label : String := "Left(\x7b Größe \x7d<>\"é\\\"\", 1.5e1 )"

theorem lexemes_partition_label : ∃ ts, (Scan.ofSource label).tokens? = some ts ∧
    ts.length = 8 ∧ ∃ ls : List Lexeme, ls.map Lexeme.token = ts ∧
      (Scan.ofSource (String.ofList (joined (fun _ => ['\n', ' ']) ls))).tokens? = some ts ∧
      ∃ s, (Cursor.mk (.ofSource label) maxOperands).moved 9 = .ok s ∧ s.token? = none ∧
        s.offset = 33 := by
  obtain ⟨ts, hts, hlength⟩ : ∃ ts, (Scan.ofSource label).tokens? = some ts ∧ ts.length = 8 :=
    Option.map_eq_some_iff.1 (by decide +kernel)
  obtain ⟨ls, gap, -, -, htokens, -, -, hend, -, -, hspaced⟩ := lexemes_partition hts
  obtain ⟨s, hs, ht, ho⟩ := hend maxOperands 9 (by omega)
  have hspace : ∀ c ∈ ['\n', ' '], Text.isBlank c :=
    List.forall_mem_cons.2 ⟨by decide, List.forall_mem_singleton.2 (by decide)⟩
  exact ⟨ts, hts, hlength, ls, htokens,
    hspaced _ (fun _ => hspace) fun _ _ _ => List.cons_ne_nil _ _, s, hs, ht, ho.trans (by decide)⟩

end Formula

end FieldCalc
