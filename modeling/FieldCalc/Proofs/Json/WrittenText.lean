import FieldCalc.Json.Parts
import FieldCalc.Json.Writer
import FieldCalc.Proofs.Json.Canonical

/-!
# Documents read back from their text

A string is read back from its text, whatever characters have to be escaped in it
(`exists_readString`), and so is a document of strings, truth values and nulls, as long as it is not
nested too deep (`Wordy.reads`).  Lists of documents with named parts are read back by these names
(`readListed?_compact`).  What holds the proofs together is `Reads`: a text that a reader takes off
the front of anything.
-/

namespace FieldCalc

namespace Json

open Text (Reader)

/-! ### Strings -/

theorem hexDigit?_digitChar : ∀ n < 16, Reader.hexDigit? (Nat.digitChar n) = some n := by
  decide

/-- A control character is read back from its code point. -/
theorem readCodePoint_control {c : Char} (hc : c.toNat < 0x20) (cs : List Char) :
    readCodePoint ('0' :: '0' :: Nat.digitChar (c.toNat / 16) :: Nat.digitChar (c.toNat % 16) ::
      cs) = some (c, cs) := by
  have hhigh := hexDigit?_digitChar (c.toNat / 16) (by omega)
  have hlow := hexDigit?_digitChar (c.toNat % 16) (by omega)
  have hzero := hexDigit?_digitChar 0 (by omega)
  have hunit : readUnit ('0' :: '0' :: Nat.digitChar (c.toNat / 16) ::
      Nat.digitChar (c.toNat % 16) :: cs) = some (c.toNat, cs) := by
    have hsum : ((0 * 16 + 0) * 16 + c.toNat / 16) * 16 + c.toNat % 16 = c.toNat := by omega
    rw [readUnit, show '0' = Nat.digitChar 0 from rfl, hzero, hhigh, hlow]
    simp only [Option.bind_eq_bind, Option.bind_some, hsum]
    rfl
  unfold readCodePoint
  rw [hunit]
  simp only [Option.bind_eq_bind, Option.bind_some]
  rw [if_neg (by omega), if_neg (by omega), Char.ofNat_toNat]
  rfl

/-- A character is written as it is, or as an escape that is read back. -/
theorem escapeChar_cases (c : Char) :
    (escapeChar c = [c] ∧ c ≠ '"' ∧ c ≠ '\\' ∧ ¬ c.toNat < 0x20) ∨
      ∃ e, escapeChar c = '\\' :: e ∧ ∀ cs, readEscape (e ++ cs) = some (c, cs) := by
  unfold escapeChar
  split
  · rename_i h
    refine .inr ⟨[c], rfl, fun cs => ?_⟩
    rcases h with rfl | rfl <;> rfl
  split
  · rename_i h
    exact .inr ⟨['n'], rfl, fun cs => h ▸ rfl⟩
  split
  · rename_i h
    exact .inr ⟨['r'], rfl, fun cs => h ▸ rfl⟩
  split
  · rename_i h
    exact .inr ⟨['t'], rfl, fun cs => h ▸ rfl⟩
  split
  · rename_i h
    exact .inr ⟨['b'], rfl, fun cs => h ▸ rfl⟩
  split
  · rename_i h
    exact .inr ⟨['f'], rfl, fun cs => h ▸ rfl⟩
  split
  · rename_i h
    exact .inr ⟨_, rfl, fun cs => readCodePoint_control h cs⟩
  · rename_i hquote _ _ _ _ _ hcontrol
    exact .inl ⟨rfl, fun h => hquote (.inl h), fun h => hquote (.inr h), hcontrol⟩

theorem readChars_escapeChar (fuel : Nat) (c : Char) (cs : List Char) :
    readChars (fuel + 1) (escapeChar c ++ cs) =
      (readChars fuel cs).map fun r => (c :: r.1, r.2) := by
  rcases escapeChar_cases c with ⟨he, hquote, hslash, hcontrol⟩ | ⟨e, he, hread⟩
  · rw [he, List.singleton_append, readChars, if_neg hquote, if_neg hslash, if_neg hcontrol]
    cases readChars fuel cs <;> rfl
  · rw [he, List.cons_append, readChars, if_neg (by decide), if_pos rfl, hread]
    simp only [Option.bind_eq_bind, Option.bind_some]
    cases readChars fuel cs <;> rfl

theorem readChars_flatMap_escapeChar (s cs : List Char) {fuel : Nat} (h : s.length < fuel) :
    readChars fuel (s.flatMap escapeChar ++ '"' :: cs) = some (s, cs) := by
  induction s generalizing fuel with
  | nil =>
    obtain ⟨fuel, rfl⟩ := Nat.exists_eq_succ_of_ne_zero (Nat.ne_of_gt h)
    rfl
  | cons c s ih =>
    obtain ⟨fuel, rfl⟩ := Nat.exists_eq_succ_of_ne_zero (Nat.ne_of_gt (Nat.zero_lt_of_lt h))
    rw [List.flatMap_cons, List.append_assoc, readChars_escapeChar,
      ih (Nat.lt_of_succ_lt_succ h)]
    rfl

theorem escapeChar_ne_nil (c : Char) : escapeChar c ≠ [] := by
  rcases escapeChar_cases c with ⟨he, -⟩ | ⟨e, he, -⟩
  · simp [he]
  · simp [he]

theorem length_le_flatMap_escapeChar (s : List Char) :
    s.length ≤ (s.flatMap escapeChar).length := by
  induction s with
  | nil => exact Nat.le_refl _
  | cons c s ih =>
    rw [List.flatMap_cons, List.length_append, List.length_cons]
    have := List.length_pos_iff.2 (escapeChar_ne_nil c)
    omega

/-- A string is read back from its text. -/
theorem exists_readString (s : String) (cs : List Char) :
    ∃ ds, (stringText s).toList ++ cs = '"' :: ds ∧ readString ds = some (s, cs) := by
  refine ⟨s.toList.flatMap escapeChar ++ '"' :: cs, by simp [stringText], ?_⟩
  have hlen := length_le_flatMap_escapeChar s.toList
  rw [readString, readChars_flatMap_escapeChar]
  · simp
  · rw [List.length_append, List.length_cons]
    omega

/-! ### Containers -/

/-- A reader takes `a` off the front of every text that begins with `t`.  What `t` begins with is
neither blank nor the end of a container. -/
structure Reads {α : Type} (read : Reader α) (a : α) (t : List Char) : Prop where
  exists_head : ∃ c ds, t = c :: ds ∧ isSpace c = false ∧ c ≠ ']' ∧ c ≠ '\x7d'
  read_append : ∀ cs, read (t ++ cs) = some (a, cs)

theorem skipSpace_cons {c : Char} (h : isSpace c = false) (cs : List Char) :
    skipSpace (c :: cs) = c :: cs := List.dropWhile_cons_of_neg (by simp [h])

section Containers

variable {α : Type} {part : Reader α} {close : Char}

/-- The parts of a container are read back from their texts between commas. -/
theorem readParts_intercalate (hclose : close = ']' ∨ close = '\x7d') {a : α} {t : List Char}
    (h : Reads part a t) {as : List α} {ts : List (List Char)}
    (hs : List.Forall₂ (Reads part) as ts) (cs : List Char) {fuel : Nat}
    (hfuel : as.length < fuel) :
    readParts close part fuel ([','].intercalate (t :: ts) ++ close :: cs) =
      some (a :: as, cs) := by
  have hspace : isSpace close = false := by rcases hclose with rfl | rfl <;> rfl
  have hcomma : ',' ≠ close := by rcases hclose with rfl | rfl <;> decide
  induction hs generalizing a t fuel with
  | nil =>
    obtain ⟨fuel, rfl⟩ := Nat.exists_eq_succ_of_ne_zero (Nat.ne_of_gt hfuel)
    rw [List.intercalate_singleton, readParts, h.read_append]
    simp only [Option.bind_eq_bind, Option.bind_some, skipSpace_cons hspace, if_true]
    rfl
  | @cons b u as ts hb hs ih =>
    obtain ⟨fuel, rfl⟩ := Nat.exists_eq_succ_of_ne_zero (Nat.ne_of_gt (Nat.zero_lt_of_lt hfuel))
    have htail := ih hb (Nat.lt_of_succ_lt_succ hfuel)
    rw [List.intercalate_cons_cons, List.append_assoc, List.append_assoc, readParts, h.read_append]
    simp only [Option.bind_eq_bind, Option.bind_some, List.singleton_append,
      skipSpace_cons (c := ',') rfl, if_neg hcomma, if_true, htail]
    rfl

theorem length_le_intercalate {as : List α} {ts : List (List Char)}
    (hs : List.Forall₂ (Reads part) as ts) :
    as.length ≤ ([','].intercalate ts).length := by
  induction hs with
  | nil => exact Nat.zero_le _
  | @cons a t as ts h hs ih =>
    obtain ⟨c, ds, rfl, -⟩ := h.exists_head
    cases ts with
    | nil =>
      cases hs
      simp
    | cons u ts =>
      rw [List.intercalate_cons_cons]
      simp only [List.length_append, List.length_cons] at ih ⊢
      omega

/-- A container is read back from its parts. -/
theorem readContainer_intercalate (hclose : close = ']' ∨ close = '\x7d') {as : List α}
    {ts : List (List Char)} (hs : List.Forall₂ (Reads part) as ts) (cs : List Char) :
    readContainer close part ([','].intercalate ts ++ close :: cs) = some (as, cs) := by
  have hspace : isSpace close = false := by rcases hclose with rfl | rfl <;> rfl
  cases hs with
  | nil =>
    rw [List.intercalate_nil, List.nil_append, readContainer, skipSpace_cons hspace]
    exact if_pos rfl
  | @cons a t as ts h hs =>
    have hlen := length_le_intercalate (.cons h hs)
    obtain ⟨c, ds, ht, hc, hbracket, hbrace⟩ := h.exists_head
    obtain ⟨es, hes⟩ : ∃ es, [','].intercalate (t :: ts) ++ close :: cs = c :: es := by
      cases ts with
      | nil => exact ⟨_, by rw [List.intercalate_singleton, ht]; rfl⟩
      | cons u ts => exact ⟨_, by rw [List.intercalate_cons_cons, ht]; rfl⟩
    have hne : c ≠ close := by
      rcases hclose with rfl | rfl
      · exact hbracket
      · exact hbrace
    rw [readContainer, hes, skipSpace_cons hc]
    simp only [if_neg hne]
    rw [← hes]
    refine readParts_intercalate hclose h hs cs ?_
    rw [List.length_append, List.length_cons]
    rw [List.length_cons] at hlen
    omega

end Containers

/-! ### Documents -/

/-- A document without numbers, with containers nested at most `depth` deep. -/
inductive Wordy : Nat → Json → Prop
  | null (depth : Nat) : Wordy depth .null
  | bool (depth : Nat) (b : Bool) : Wordy depth (.bool b)
  | str (depth : Nat) (s : String) : Wordy depth (.str s)
  | arr {depth : Nat} {items : List Json} : (∀ j ∈ items, Wordy depth j) →
      Wordy (depth + 1) (.arr items)
  | obj {depth : Nat} {members : List (String × Json)} : (∀ m ∈ members, Wordy depth m.2) →
      Wordy (depth + 1) (.obj members)

theorem readValue_of_scalar {c : Char} {cs : List Char} (hc : isSpace c = false)
    (hbracket : c ≠ '[') (hbrace : c ≠ '\x7b') (depth : Nat) :
    readValue depth (c :: cs) = readScalar (c :: cs) := by
  cases depth
  all_goals
    rw [readValue, skipSpace_cons hc]
    split
    · exact absurd (List.cons.inj ‹_›).1 hbracket
    · exact absurd (List.cons.inj ‹_›).1 hbrace
    · rfl

theorem reads_string (s : String) (depth : Nat) :
    Reads (readValue depth) (.str s) (stringText s).toList where
  exists_head := ⟨'"', s.toList.flatMap escapeChar ++ ['"'], by simp [stringText], by decide⟩
  read_append cs := by
    obtain ⟨ds, hds, hread⟩ := exists_readString s cs
    rw [hds, readValue_of_scalar (by decide) (by decide) (by decide), readScalar, hread]
    rfl

/-- A member is read back from its key and the text of its value. -/
theorem Reads.member {value : String → Reader Json} {k : String} {j : Json} {t : List Char}
    (h : Reads (value k) j t) :
    Reads (readMember value) (k, j) ((stringText k).toList ++ ':' :: t) where
  exists_head := ⟨'"', k.toList.flatMap escapeChar ++ '"' :: ':' :: t, by simp [stringText],
    by decide⟩
  read_append cs := by
    obtain ⟨ds, hds, hread⟩ := exists_readString k (':' :: t ++ cs)
    rw [List.append_assoc, hds, readMember, skipSpace_cons (by decide)]
    simp only [hread, Option.bind_eq_bind, Option.bind_some, List.cons_append,
      skipSpace_cons (c := ':') rfl, h.read_append]
    rfl

theorem toList_compact_arr (items : List Json) : (arr items).compact.toList =
    '[' :: ([','].intercalate (items.map fun j => j.compact.toList) ++ [']']) := by
  rw [compact, compactItems_eq_map, String.toList_append, String.toList_append,
    String.toList_intercalate, List.map_map]
  rfl

theorem toList_compact_obj (members : List (String × Json)) : (obj members).compact.toList =
    '\x7b' :: ([','].intercalate
      (members.map fun m => (stringText m.1).toList ++ ':' :: m.2.compact.toList) ++
        ['\x7d']) := by
  have hm : (String.toList ∘ fun m : String × Json => stringText m.1 ++ ":" ++ m.2.compact) =
      fun m => (stringText m.1).toList ++ ':' :: m.2.compact.toList := by
    funext m
    simp
  rw [compact, compactMembers_eq_map, String.toList_append, String.toList_append,
    String.toList_intercalate, List.map_map, hm]
  rfl

theorem readContainer_items {read : Reader Json} {items : List Json}
    (h : ∀ j ∈ items, Reads read j j.compact.toList) (cs : List Char) :
    readContainer ']' read
      ([','].intercalate (items.map fun j => j.compact.toList) ++ ']' :: cs) = some (items, cs) :=
  readContainer_intercalate (.inl rfl) (List.forall₂_map_right_iff.2 (List.forall₂_same.2 h)) cs

theorem readContainer_members (value : String → Reader Json) {members : List (String × Json)}
    (h : ∀ m ∈ members, Reads (value m.1) m.2 m.2.compact.toList) (cs : List Char) :
    readContainer '\x7d' (readMember value) ([','].intercalate
      (members.map fun m => (stringText m.1).toList ++ ':' :: m.2.compact.toList) ++
        '\x7d' :: cs) = some (members, cs) :=
  readContainer_intercalate (.inr rfl) (List.forall₂_map_right_iff.2
    (List.forall₂_same.2 fun m hm => (h m hm).member)) cs

/-- A document without numbers is read back from its text. -/
theorem Wordy.reads {depth : Nat} {j : Json} (h : Wordy depth j) :
    Reads (readValue depth) j j.compact.toList := by
  induction h with
  | null depth =>
    refine ⟨⟨'n', _, rfl, by decide⟩, fun cs => ?_⟩
    exact readValue_of_scalar (by decide) (by decide) (by decide) depth
  | bool depth b =>
    cases b with
    | true =>
      refine ⟨⟨'t', _, rfl, by decide⟩, fun cs => ?_⟩
      exact readValue_of_scalar (by decide) (by decide) (by decide) depth
    | false =>
      refine ⟨⟨'f', _, rfl, by decide⟩, fun cs => ?_⟩
      exact readValue_of_scalar (by decide) (by decide) (by decide) depth
  | str depth s => exact reads_string s depth
  | @arr depth items _ ih =>
    rw [toList_compact_arr]
    refine ⟨⟨'[', _, rfl, by decide⟩, fun cs => ?_⟩
    rw [List.cons_append, List.append_assoc, readValue, skipSpace_cons rfl]
    simp only [List.singleton_append, readContainer_items ih, Option.bind_eq_bind,
      Option.bind_some]
    rfl
  | @obj depth members _ ih =>
    rw [toList_compact_obj]
    refine ⟨⟨'\x7b', _, rfl, by decide⟩, fun cs => ?_⟩
    rw [List.cons_append, List.append_assoc, readValue, skipSpace_cons rfl]
    simp only [List.singleton_append,
      readContainer_members (fun _ => readValue depth) ih, Option.bind_eq_bind,
      Option.bind_some]
    rfl

/-- The text of a document without numbers stands for its canonical form. -/
theorem Wordy.read?_compact {j : Json} (h : Wordy maxDepth j) :
    read? j.compact = some j.canonical := by
  have hread := h.reads.read_append []
  rw [List.append_nil] at hread
  rw [read?, hread]
  rfl

/-! ### Lists of documents with named parts -/

/-- A document in which every member has one of the names is read back by them. -/
theorem reads_named {names : List String} {depth : Nat} {members : List (String × Json)}
    (hnames : ∀ m ∈ members, m.1 ∈ names) (h : ∀ m ∈ members, Wordy depth m.2) :
    Reads (readNamed names (depth + 1)) (.obj members) (obj members).compact.toList := by
  rw [toList_compact_obj]
  refine ⟨⟨'\x7b', _, rfl, by decide⟩, fun cs => ?_⟩
  have hread := readContainer_members
    (fun name => if names.contains name then readValue depth else passOver)
    (fun m hm => by
      rw [if_pos (List.contains_iff_mem.2 (hnames m hm))]
      exact (h m hm).reads) cs
  rw [List.cons_append, List.append_assoc]
  unfold readNamed
  rw [skipSpace_cons rfl]
  simp only [List.singleton_append, hread, Option.bind_eq_bind, Option.bind_some]
  rfl

/-- A list of such documents is read back from its text. -/
theorem readListed?_compact {names : List String} {items : List Json}
    (h : ∀ j ∈ items, Reads (readNamed names (maxDepth - 1)) j j.compact.toList) :
    readListed? names (arr items).compact = some items := by
  rw [readListed?, toList_compact_arr, skipSpace_cons rfl]
  simp only [readContainer_items h, Option.bind_eq_bind, Option.bind_some]
  rfl

end Json

end FieldCalc
