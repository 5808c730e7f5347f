import FieldCalc.Text.CaseTable

/-!
# Upper and lower case

Full case mapping of texts.  A character may become several (`ß` is written `SS` in capitals), and
the lowercase of a capital sigma depends on what stands around it: at the end of a word it takes
its final form.  `upperAscii` and `lowerAscii` change the letters of ASCII only: what is brought to
a word of small letters has its letters, each small or capital (`lowerAscii_eq_iff`).
-/

namespace FieldCalc

namespace Text

/-- The image of a code point under a run, if the run covers it. -/
def CaseRun.image? (r : CaseRun) (n : Nat) : Option Nat :=
  if r.first ≤ n ∧ n ≤ r.last ∧ (n - r.first) % r.step = 0 then some (r.target + (n - r.first))
  else none

/-- A character's image: its sequence if it has one, else its place in a run, else itself. -/
def mapCase (runs : List CaseRun) (sequences : List (Nat × List Nat)) (c : Char) : List Char :=
  match sequences.lookup c.toNat with
  | some ns => ns.map Char.ofNat
  | none => [((runs.findSome? (·.image? c.toNat)).map Char.ofNat).getD c]

def upperChar (c : Char) : List Char :=
  if c.toNat < 0x80 then [c.toUpper] else mapCase upperRuns upperSequences c

def lowerChar (c : Char) : List Char :=
  if c.toNat < 0x80 then [c.toLower] else mapCase lowerRuns lowerSequences c

/-- Whether the nearest character that is not ignored for case has a case. -/
def meetsCased (cs : List Char) : Bool :=
  match cs.dropWhile caseIgnorableRanges.holds with
  | c :: _ => casedRanges.holds c
  | [] => false

/-- The lowercase of a text, given the characters before it, the nearest first. -/
def lowerChars (before : List Char) : List Char → List Char
  | [] => []
  | c :: cs =>
    let image :=
      if c = 'Σ' then [if meetsCased before && !meetsCased cs then 'ς' else 'σ'] else lowerChar c
    image ++ lowerChars (c :: before) cs

def upper (s : String) : String := String.ofList (s.toList.flatMap upperChar)

def lower (s : String) : String := String.ofList (lowerChars [] s.toList)

/-! ## ASCII letters -/

def upperAscii (s : String) : String := String.ofList (s.toList.map Char.toUpper)

def lowerAscii (s : String) : String := String.ofList (s.toList.map Char.toLower)

theorem toNat_toLower (c : Char) :
    c.toLower.toNat = if 'A' ≤ c ∧ c ≤ 'Z' then c.toNat + 32 else c.toNat := by
  unfold Char.toLower
  split
  · rename_i h
    have hc : 'A' ≤ c ∧ c ≤ 'Z' := h
    rw [if_pos hc]
    have hz : c.val.toNat ≤ 90 := UInt32.le_iff_toNat_le.1 h.2
    show (c.val + 32).toNat = c.val.toNat + 32
    rw [UInt32.toNat_add]
    exact Nat.mod_eq_of_lt (show c.val.toNat + 32 < 2 ^ 32 by omega)
  · rename_i h
    have hc : ¬ ('A' ≤ c ∧ c ≤ 'Z') := h
    rw [if_neg hc]

/-- A small letter comes of itself and of its capital, which stands 32 places before it. -/
theorem toLower_eq_iff {c d : Char} (hd : 'a' ≤ d ∧ d ≤ 'z') :
    c.toLower = d ↔ c = d ∨ c.toNat + 32 = d.toNat := by
  have ha : 97 ≤ d.toNat := hd.1
  have hz : d.toNat ≤ 122 := hd.2
  rw [← Char.toNat_inj, ← Char.toNat_inj, toNat_toLower]
  have hcap : 'A' ≤ c ∧ c ≤ 'Z' ↔ 65 ≤ c.toNat ∧ c.toNat ≤ 90 := Iff.rfl
  simp only [hcap]
  split <;> omega

theorem map_eq_iff_zip {α β : Type} {f : α → β} {l : List α} {m : List β} :
    l.map f = m ↔ l.length = m.length ∧ ∀ p ∈ l.zip m, f p.1 = p.2 := by
  induction l generalizing m with
  | nil => cases m <;> simp
  | cons a l ih =>
    cases m with
    | nil => simp
    | cons b m => simp [ih, and_left_comm]

/-- The texts that are brought to a word of small letters: they have its letters, each of them small
or capital. -/
theorem lowerAscii_eq_iff {s w : String} (hw : ∀ d ∈ w.toList, 'a' ≤ d ∧ d ≤ 'z') :
    lowerAscii s = w ↔ s.length = w.length ∧
      ∀ p ∈ s.toList.zip w.toList, p.1 = p.2 ∨ p.1.toNat + 32 = p.2.toNat := by
  have hlower : lowerAscii s = w ↔ s.toList.map Char.toLower = w.toList := by
    rw [lowerAscii, ← String.toList_inj, String.toList_ofList]
  rw [hlower, map_eq_iff_zip, String.length_toList, String.length_toList]
  refine and_congr_right fun _ => forall₂_congr fun p hp => ?_
  exact toLower_eq_iff (hw p.2 (List.of_mem_zip hp).2)

end Text

end FieldCalc
