import FieldCalc.Formula.Scan
import Mathlib.Data.List.TakeWhile
import Mathlib.Tactic.FinCases

/-!
# Forms of tokens

The character that a token begins with decides what form it has, and each form is read in a way of
its own: marks and operators of one or two characters, text literals, references, numbers and
names.  What `readToken` gives is one of these (`readToken_eq_ok_iff`).  Behind a mark only the next
character matters, and only if the two are an operator (`readToken_of_mem`).  A number is read off
the numeral at the front of a text (`readNumber_eq_ok_iff`).
-/

namespace FieldCalc

namespace Formula

theorem map_eq_ok {ε α β : Type} {x : Except ε α} {f : α → β} {b : β} (h : x.map f = .ok b) :
    ∃ a, x = .ok a ∧ f a = b := by
  cases x with
  | error e => cases h
  | ok a => exact ⟨a, rfl, Except.ok.inj h⟩

theorem isPrefix_append {α : Type} {l l₁ l₂ : List α} (h₁ : l₁ <+: l)
    (h₂ : l₂ <+: l.drop l₁.length) : l₁ ++ l₂ <+: l := by
  obtain ⟨m, rfl⟩ := h₁
  rw [List.drop_left] at h₂
  exact (List.prefix_append_right_inj l₁).2 h₂

/-! ### Numerals -/

section Numerals

variable {cs : List Char} {t : Token} {n : Nat}

theorem exponentMark_isPrefix (cs : List Char) : exponentMark cs <+: cs := by
  unfold exponentMark
  split
  · split
    · split
      · exact List.prefix_append _ _
      · exact List.prefix_append [_] _
    · exact List.nil_prefix
  · split
    · exact List.prefix_refl _
    · exact List.nil_prefix
  · exact List.prefix_refl _

/-- The numeral at the front of a text: a body, and the mark of an exponent with digits behind it
or nothing. -/
structure IsNumeral (cs body mark power : List Char) : Prop where
  body_eq : cs.takeWhile isNumberPart = body
  mark_eq : exponentMark (cs.drop body.length) = mark
  power_eq : mark = [] ∧ power = [] ∨ mark ≠ [] ∧ power ≠ [] ∧
    (cs.drop (body.length + mark.length)).takeWhile Char.isDigit = power

theorem IsNumeral.isPrefix {body mark power : List Char} (h : IsNumeral cs body mark power) :
    body ++ mark ++ power <+: cs := by
  obtain ⟨rfl, rfl, hpower⟩ := h
  have hbody := List.takeWhile_prefix isNumberPart (l := cs)
  have hmark := isPrefix_append hbody (exponentMark_isPrefix _)
  rcases hpower with ⟨-, rfl⟩ | ⟨-, -, rfl⟩
  · rwa [List.append_nil]
  · rw [← List.length_append]
    exact isPrefix_append hmark (List.takeWhile_prefix Char.isDigit)

theorem readNumber_eq_ok_iff :
    readNumber cs = .ok (t, n) ↔ ∃ body mark power, IsNumeral cs body mark power ∧
      numberToken (body ++ mark ++ power) = .ok t ∧ (body ++ mark ++ power).length = n := by
  unfold readNumber
  dsimp only
  constructor
  · intro h
    split at h
    · rename_i hmark
      obtain ⟨u, hu, he⟩ := map_eq_ok h
      cases he
      exact ⟨_, [], [], ⟨rfl, hmark, .inl ⟨rfl, rfl⟩⟩, by simpa using hu, by simp⟩
    · rename_i hmark
      split at h
      · cases h
      · rename_i hpower
        obtain ⟨u, hu, he⟩ := map_eq_ok h
        cases he
        exact ⟨_, _, _, ⟨rfl, rfl, .inr ⟨hmark, hpower, rfl⟩⟩, hu, rfl⟩
  · rintro ⟨_, _, power, ⟨rfl, rfl, hpower⟩, ht, rfl⟩
    rcases hpower with ⟨hmark, rfl⟩ | ⟨hmark, hpower, rfl⟩
    · rw [hmark, List.append_nil, List.append_nil] at ht ⊢
      rw [ht]
      rfl
    · split
      · exact absurd ‹_› hmark
      · rw [if_neg hpower, ht]
        rfl

theorem readNumber_le (h : readNumber cs = .ok (t, n)) : n ≤ cs.length := by
  obtain ⟨body, mark, power, hn, -, rfl⟩ := readNumber_eq_ok_iff.1 h
  exact hn.isPrefix.length_le

/-- The empty text spells no number. -/
theorem readNumber_pos (h : readNumber cs = .ok (t, n)) : 0 < n := by
  obtain ⟨body, mark, power, -, ht, rfl⟩ := readNumber_eq_ok_iff.1 h
  refine List.length_pos_iff.2 fun hnil => ?_
  rw [hnil] at ht
  cases ht

end Numerals

/-! ### References -/

theorem exists_of_readReference {cs : List Char} {t : Token} {n : Nat}
    (h : readReference cs = .ok (t, n)) :
    ∃ inner ds, cs = inner ++ '\x7d' :: ds ∧ (∀ c ∈ inner, isBrace c = false) ∧
      Text.trimChars inner ≠ [] ∧ t = .reference (String.ofList (Text.trimChars inner)) ∧
      n = inner.length + 1 := by
  unfold readReference at h
  generalize hi : cs.takeWhile (fun c => !isBrace c) = inner at h
  have hinner : ∀ c ∈ inner, isBrace c = false := fun c hc => by
    rw [← hi] at hc
    simpa using List.mem_takeWhile_imp hc
  obtain ⟨rest, rfl⟩ : inner <+: cs := hi ▸ List.takeWhile_prefix _
  dsimp only at h
  split at h
  · rename_i hclose
    split at h
    · cases h
    · rename_i hname
      cases h
      rw [List.getElem?_append_right (Nat.le_refl _), Nat.sub_self] at hclose
      cases rest with
      | nil => cases hclose
      | cons d ds =>
        obtain rfl : d = '\x7d' := Option.some.inj hclose
        exact ⟨inner, ds, rfl, hinner, hname, rfl, rfl⟩
  · cases h

theorem readReference_closed {cs : List Char} (hb : ∀ c ∈ cs, isBrace c = false)
    (hn : Text.trimChars cs ≠ []) (ds : List Char) : readReference (cs ++ '\x7d' :: ds) =
      .ok (.reference (String.ofList (Text.trimChars cs)), cs.length + 1) := by
  have hinner : (cs ++ '\x7d' :: ds).takeWhile (fun c => !isBrace c) = cs := by
    have hp : ∀ c ∈ cs, (!isBrace c) = true := fun c hc => by rw [hb c hc]; rfl
    rw [List.takeWhile_append_of_pos hp, List.takeWhile_cons_of_neg (by decide), List.append_nil]
  have hclose : (cs ++ '\x7d' :: ds)[cs.length]? = some '\x7d' := by simp
  unfold readReference
  simp only [hinner, hclose, if_true]

/-! ### Forms -/

/-- The characters that are tokens by themselves. -/
def marks : List Char := ['(', ')', ',', '+', '-', '*', '/', '&']

/-- The characters that begin operators of one or two characters. -/
def comparisons : List Char := ['=', '!', '<', '>']

/-- The second characters of these operators. -/
def seconds : List Char := ['=', '>']

/-- The operators of two characters. -/
def doubles : List ((Char × Char) × Token) :=
  [(('=', '='), .operator .equal), (('!', '='), .operator .notEqual),
   (('<', '='), .operator .lessEqual), (('<', '>'), .operator .notEqual),
   (('>', '='), .operator .greaterEqual)]

/-- The forms of tokens that begin with `c`, and what they take of the characters `cs` behind it. -/
inductive TokenForm (c : Char) (cs : List Char) : Token → Nat → Prop
  | single {t : Token} (hc : c ∈ marks ++ comparisons)
      (h : ∀ ds, ds.head? = cs.head? ∨ (∀ e ∈ ds.head?, e ∉ seconds) →
        readToken c ds = .ok (t, 0)) : TokenForm c cs t 0
  | double {t : Token} {e : Char} (hc : c ∈ comparisons) (he : e ∈ seconds)
      (hcs : cs.head? = some e) (h : ∀ ds, readToken c (e :: ds) = .ok (t, 1)) :
      TokenForm c cs t 1
  | text {s : List Char} {n : Nat} (hc : c = '"') (h : readText cs = some (s, n)) :
      TokenForm c cs (.text (String.ofList s)) n
  | reference {t : Token} {n : Nat} (hc : c = '\x7b') (h : readReference cs = .ok (t, n)) :
      TokenForm c cs t n
  | number {t : Token} {n : Nat} (hc : isNumberPart c) (h : readNumber (c :: cs) = .ok (t, n + 1)) :
      TokenForm c cs t n
  | name (hn : ¬ isNumberPart c) (hc : isNameStart c) :
      TokenForm c cs (.name (String.ofList (c :: cs.takeWhile isNamePart)))
        (cs.takeWhile isNamePart).length

section Forms

variable {c : Char} {cs : List Char} {t : Token} {n : Nat}

theorem mem_doubles_of_lookup {e : Char} (h : doubles.lookup (c, e) = some t) :
    ((c, e), t) ∈ doubles := by
  obtain ⟨l₁, l₂, hl, -⟩ := List.lookup_eq_some_iff.1 h
  exact hl ▸ List.mem_append_right l₁ List.mem_cons_self

theorem mem_of_lookup_doubles {e : Char} (h : doubles.lookup (c, e) = some t) :
    c ∈ comparisons ∧ e ∈ seconds := by
  have hd : ∀ p ∈ doubles, p.1.1 ∈ comparisons ∧ p.1.2 ∈ seconds := by
    simp [doubles, comparisons, seconds]
  exact hd _ (mem_doubles_of_lookup h)

theorem lookup_doubles_of_notMem {e : Char} (h : e ∉ seconds) : doubles.lookup (c, e) = none :=
  Option.eq_none_iff_forall_ne_some.2 fun _ hd => h (mem_of_lookup_doubles hd).2

/-- A mark and the character behind it are an operator together, or else the mark is read as it is
at the end of a text. -/
theorem readToken_of_mem (hc : c ∈ marks ++ comparisons) (ds : List Char) :
    readToken c ds = match ds.head?.bind fun e => doubles.lookup (c, e) with
      | some t => .ok (t, 1)
      | none => (readToken c []).map fun (t, _) => (t, 0) := by
  cases ds with
  | nil => fin_cases hc <;> rfl
  | cons e ds =>
    by_cases he : e ∈ seconds
    · fin_cases hc <;> fin_cases he <;> rfl
    · simp only [List.head?_cons, Option.bind_some, lookup_doubles_of_notMem he]
      obtain ⟨h₁, h₂⟩ : e ≠ '=' ∧ e ≠ '>' := by simpa [seconds] using he
      fin_cases hc <;> simp [readToken, h₁, h₂, Except.map]

theorem tokenForm_of_mem (hc : c ∈ marks ++ comparisons) (h : readToken c cs = .ok (t, n)) :
    TokenForm c cs t n := by
  have hread := readToken_of_mem hc
  rw [hread] at h
  split at h
  · rename_i u hu
    cases h
    obtain ⟨e, he, hu⟩ := Option.bind_eq_some_iff.1 hu
    obtain ⟨hc, hs⟩ := mem_of_lookup_doubles hu
    refine .double hc hs he fun ds => ?_
    rw [hread, List.head?_cons, Option.bind_some, hu]
  · rename_i hnone
    obtain ⟨⟨u, m⟩, hu, he⟩ := map_eq_ok h
    cases he
    refine .single hc fun ds hds => ?_
    have hds : (ds.head?.bind fun e => doubles.lookup (c, e)) = none := by
      rcases hds with hds | hds
      · rwa [hds]
      · exact Option.bind_eq_none_iff.2 fun e he => lookup_doubles_of_notMem (hds e he)
    rw [hread, hds, hu]
    rfl

/-- Characters that are no marks and open neither a text literal nor a reference. -/
theorem readToken_of_notMem (hm : c ∉ marks ++ comparisons) (hq : c ≠ '"') (hb : c ≠ '\x7b') :
    readToken c cs =
      if isNumberPart c then (readNumber (c :: cs)).map fun (t, n) => (t, n - 1)
      else if isNameStart c then
        .ok (.name (String.ofList (c :: cs.takeWhile isNamePart)), (cs.takeWhile isNamePart).length)
      else .error (.unexpectedCharacter c) := by
  unfold readToken
  split <;> first | rfl | contradiction

theorem tokenForm_of_notMem (hm : c ∉ marks ++ comparisons) (hq : c ≠ '"') (hb : c ≠ '\x7b')
    (h : readToken c cs = .ok (t, n)) : TokenForm c cs t n := by
  rw [readToken_of_notMem hm hq hb] at h
  split at h
  · rename_i hc
    obtain ⟨⟨u, m⟩, hu, he⟩ := map_eq_ok h
    obtain ⟨m, rfl⟩ := Nat.exists_eq_add_of_le' (readNumber_pos hu)
    cases he
    exact .number hc hu
  · rename_i hn
    split at h
    · rename_i hc
      cases h
      exact .name hn hc
    · cases h

theorem tokenForm_of_readToken (h : readToken c cs = .ok (t, n)) : TokenForm c cs t n := by
  by_cases hm : c ∈ marks ++ comparisons
  · exact tokenForm_of_mem hm h
  by_cases hq : c = '"'
  · subst hq
    simp only [readToken] at h
    split at h
    · rename_i s m hs
      cases h
      exact .text rfl hs
    · cases h
  by_cases hb : c = '\x7b'
  · subst hb
    exact .reference rfl h
  · exact tokenForm_of_notMem hm hq hb h

/-- A number or a name is read where no other form begins. -/
theorem readToken_of_isNumberPart_or (h : isNumberPart c ∨ isNameStart c) : readToken c cs =
    if isNumberPart c then (readNumber (c :: cs)).map fun (t, n) => (t, n - 1)
    else .ok (.name (String.ofList (c :: cs.takeWhile isNamePart)),
      (cs.takeWhile isNamePart).length) := by
  have hm : c ∉ marks ++ comparisons := fun hm => by
    fin_cases hm <;> exact absurd h (by decide)
  have hq : c ≠ '"' := fun hc => absurd (hc ▸ h) (by decide)
  have hb : c ≠ '\x7b' := fun hc => absurd (hc ▸ h) (by decide)
  rw [readToken_of_notMem hm hq hb]
  split
  · rfl
  · rename_i hn
    rw [if_pos (h.resolve_left hn)]

theorem TokenForm.readToken_eq (h : TokenForm c cs t n) : readToken c cs = .ok (t, n) := by
  cases h with
  | single hc h => exact h cs (.inl rfl)
  | double hc he hcs h =>
    obtain ⟨ds, rfl⟩ := List.head?_eq_some_iff.1 hcs
    exact h ds
  | text hc h =>
    subst hc
    simp only [readToken, h]
  | reference hc h =>
    subst hc
    exact h
  | number hc h =>
    rw [readToken_of_isNumberPart_or (.inl hc), if_pos hc, h]
    rfl
  | name hn hc => rw [readToken_of_isNumberPart_or (.inr hc), if_neg hn]

theorem readToken_eq_ok_iff : readToken c cs = .ok (t, n) ↔ TokenForm c cs t n :=
  ⟨tokenForm_of_readToken, TokenForm.readToken_eq⟩

end Forms

end Formula

end FieldCalc
