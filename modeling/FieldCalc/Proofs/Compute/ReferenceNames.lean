import FieldCalc.Proofs.Compute.CatalogOrder
import FieldCalc.Proofs.Formula.SingleReference
import FieldCalc.Proofs.Text.Trimming

/-!
# References by name and by identifier

Where the names of the fields are distinct and none of them spells an identifier, a field may stand
between the braces of a formula by its name or by its identifier, and has its stored value either
way (`evaluate_reference`).  White space around a name is not part of a reference, so a name that
has some at its ends refers to nothing, or to another field (`name_with_space_not_found`).
-/

namespace FieldCalc

/-! ### Spellings of identifiers -/

namespace Uuid

variable {u : Uuid}

/-- What hyphens and hexadecimal digits have in common, the canonical spelling has. -/
theorem forall_mem_chars {P : Char → Prop} (hyphen : P '-') (hex : ∀ d, P (hexChar d)) :
    ∀ c ∈ u.chars, P c := by
  have h : ∀ c ∈ u.digits.map hexChar, P c := List.forall_mem_map.2 fun d _ => hex d
  simp only [chars, List.forall_mem_append, List.forall_mem_cons]
  exact ⟨fun c hc => h c (List.mem_of_mem_take hc), hyphen,
    fun c hc => h c (List.mem_of_mem_drop (List.mem_of_mem_take hc)), hyphen,
    fun c hc => h c (List.mem_of_mem_drop (List.mem_of_mem_take hc)), hyphen,
    fun c hc => h c (List.mem_of_mem_drop (List.mem_of_mem_take hc)), hyphen,
    fun c hc => h c (List.mem_of_mem_drop hc)⟩

theorem mapM_hexDigit?_map {f : Char → Char} {cs : List Char}
    (h : ∀ c ∈ cs, hexDigit? (f c) = hexDigit? c) :
    (cs.map f).mapM hexDigit? = cs.mapM hexDigit? := by
  induction cs with
  | nil => rfl
  | cons c cs ih =>
    rw [List.map_cons, List.mapM_cons, List.mapM_cons, h c List.mem_cons_self,
      ih fun d hd => h d (List.mem_cons_of_mem _ hd)]

/-- An identifier is read the same from other characters that stand for the same digits. -/
theorem ofHyphenated?_map {f : Char → Char} {cs : List Char}
    (hyphen : ∀ c ∈ cs, f c = '-' ↔ c = '-') (hex : ∀ c ∈ cs, hexDigit? (f c) = hexDigit? c) :
    ofHyphenated? (cs.map f) = ofHyphenated? cs := by
  have hat (i : Nat) : (cs.map f)[i]? = some '-' ↔ cs[i]? = some '-' := by
    rw [List.getElem?_map, Option.map_eq_some_iff]
    constructor
    · rintro ⟨c, hc, hf⟩
      rwa [← (hyphen c (List.mem_of_getElem? hc)).1 hf]
    · intro hc
      exact ⟨'-', hc, (hyphen '-' (List.mem_of_getElem? hc)).2 rfl⟩
  unfold ofHyphenated?
  simp only [List.length_map, hat]
  split
  · unfold ofHex?
    simp only [← List.map_take, ← List.map_drop, ← List.map_append]
    rw [mapM_hexDigit?_map]
    intro c hc
    refine hex c ?_
    simp only [List.mem_append] at hc
    rcases hc with hc | hc | hc | hc | hc
    · exact List.mem_of_mem_take hc
    · exact List.mem_of_mem_drop (List.mem_of_mem_take hc)
    · exact List.mem_of_mem_drop (List.mem_of_mem_take hc)
    · exact List.mem_of_mem_drop (List.mem_of_mem_take hc)
    · exact List.mem_of_mem_drop hc
  · rfl

theorem ofHyphenated?_upper : ofHyphenated? (u.chars.map Char.toUpper) = some u := by
  rw [ofHyphenated?_map, ofHyphenated?_chars]
  · exact forall_mem_chars (by decide) (by decide)
  · exact forall_mem_chars (by decide) (by decide)

/-- The canonical spelling is read back in capitals too. -/
theorem ofText?_upperAscii : ofText? (Text.upperAscii u.toText) = some u := by
  have hbrace : ∀ c ∈ u.chars, c.toUpper ≠ '\x7b' := forall_mem_chars (by decide) (by decide)
  rw [ofText?, Text.upperAscii, toText, String.toList_ofList, String.toList_ofList]
  unfold ofChars?
  split
  · rename_i r h
    have hmem : '\x7b' ∈ u.chars.map Char.toUpper := h ▸ List.mem_cons_self
    obtain ⟨c, hc, he⟩ := List.mem_map.1 hmem
    exact absurd he (hbrace c hc)
  · simp [length_chars, ofHyphenated?_upper]

end Uuid

/-! ### References that stand for themselves -/

namespace Formula

/-- A spelling of an identifier refers as it is, if neither white space nor a brace is in it. -/
theorem refers_of_ofText? {text : String} {u : Uuid} (spells : Uuid.ofText? text = some u)
    (h : ∀ c ∈ text.toList, Text.isBlank c = false ∧ isBrace c = false) :
    Refers text ∧ Text.trim text = text := by
  have ht : Text.trim text = text := by
    rw [Text.trim, Text.trimChars_eq_self fun c hc => (h c hc).1, String.ofList_toList]
  refine ⟨⟨fun he => ?_, fun c hc => (h c hc).2⟩, ht⟩
  have hnone : Uuid.ofText? "" = none := by decide
  rw [← ht, he, hnone] at spells
  cases spells

theorem refers_toText (u : Uuid) : Refers u.toText ∧ Text.trim u.toText = u.toText := by
  refine refers_of_ofText? (Uuid.ofText?_toText u) ?_
  rw [Uuid.toText, String.toList_ofList]
  exact Uuid.forall_mem_chars (by decide) (by decide)

theorem refers_upperAscii (u : Uuid) : Refers (Text.upperAscii u.toText) ∧
    Text.trim (Text.upperAscii u.toText) = Text.upperAscii u.toText := by
  refine refers_of_ofText? (Uuid.ofText?_upperAscii (u := u)) ?_
  rw [Uuid.toText, Text.upperAscii, String.toList_ofList, String.toList_ofList]
  exact List.forall_mem_map.2 (Uuid.forall_mem_chars (by decide) (by decide))

end Formula

/-! ### Finding fields -/

namespace Catalog

section References

variable {c : Catalog} {r : Record} {f : Field}

/-- No field of a catalog has a name that spells an identifier. -/
def NoSpelledNames (c : Catalog) : Prop := ∀ g ∈ c, Uuid.ofText? g.name = none

instance : Decidable c.NoSpelledNames := inferInstanceAs (Decidable (∀ g ∈ c, _))

/-- The document of a record is an object that holds fields of a catalog and nothing else. -/
def Keyed (c : Catalog) (r : Record) : Prop :=
  ∃ ms, r.data = .obj ms ∧ ∀ m ∈ ms, ∃ g ∈ c, m.1 = g.key

theorem DistinctNames.named?_eq (h : c.DistinctNames) (hf : f ∈ c) : c.named? f.name = some f :=
  (find?_key_eq_some_iff h).2 ⟨hf, rfl⟩

theorem exists_field?_id (hf : f ∈ c) : ∃ g, c.field? f.id = some g ∧ g.id = f.id := by
  cases hg : c.field? f.id with
  | none => simpa using List.find?_eq_none.1 hg f hf
  | some g => exact ⟨g, rfl, by simpa using List.find?_some hg⟩

theorem getD_valueMap (r : Record) (id : Uuid) :
    (Dictionary.get? r.valueMap id.toText).getD .null = r.get id := by
  rw [get?_valueMap]
  rfl

/-- Only a reference that is a field's canonical spelling is a key of a record. -/
theorem Keyed.exists_key (keyed : c.Keyed r) {ref : String} {v : Value}
    (hv : Dictionary.get? r.valueMap ref = some v) : ∃ g : Field, ref = g.key ∧ v = r.get g.id := by
  obtain ⟨ms, hms, hkeys⟩ := keyed
  have hmem := hv
  rw [get?_valueMap, Record.members, hms] at hmem
  obtain ⟨j, hj, -⟩ := Option.map_eq_some_iff.1 hmem
  obtain ⟨g, -, rfl⟩ := hkeys _ (Dictionary.mem_of_get? hj)
  refine ⟨g, rfl, ?_⟩
  rw [← getD_valueMap, ← Field.key, hv, Option.getD_some]

/-- A reference that spells a field's identifier has the field's stored value. -/
theorem Keyed.resolve_spelled (keyed : c.Keyed r) (plain : c.NoSpelledNames) (hf : f ∈ c)
    {ref : String} (spells : Uuid.ofText? ref = some f.id) :
    c.resolve r.valueMap ref = .ok (r.get f.id) := by
  unfold resolve
  cases hv : Dictionary.get? r.valueMap ref with
  | some v =>
    obtain ⟨g, rfl, rfl⟩ := keyed.exists_key hv
    have hid : g.id = f.id := Option.some.inj ((Uuid.ofText?_toText g.id).symm.trans spells)
    rw [hid]
  | none =>
    have hname : c.named? ref = none := by
      refine List.find?_eq_none.2 fun g hg he => ?_
      rw [← beq_iff_eq.1 he, plain g hg] at spells
      cases spells
    obtain ⟨g, hg, hid⟩ := exists_field?_id hf
    simp only [hname, spells, Option.bind_some, hg, hid, getD_valueMap]

/-- A reference that is a field's name has the field's stored value. -/
theorem Keyed.resolve_name (keyed : c.Keyed r) (plain : c.NoSpelledNames) (names : c.DistinctNames)
    (hf : f ∈ c) : c.resolve r.valueMap f.name = .ok (r.get f.id) := by
  have hv : Dictionary.get? r.valueMap f.name = none := by
    cases hv : Dictionary.get? r.valueMap f.name with
    | none => rfl
    | some v =>
      obtain ⟨g, hg, -⟩ := keyed.exists_key hv
      have hspells := plain f hf
      rw [hg, Field.key, Uuid.ofText?_toText] at hspells
      cases hspells
  unfold resolve
  simp only [hv, names.named?_eq hf, getD_valueMap]

theorem evaluate_inBraces {text : String} (h : Formula.Refers text) (source : LinkedSource)
    (now : Moment) (v : ValueMap) :
    Formula.evaluate (Formula.inBraces text) ((c.setting source now).scope v) =
      c.resolve v (Text.trim text) := h.evaluate_eq _

open Formula in
/-- A field between braces has its stored value, or null if it has none.  It stands there by its
identifier, in small letters or in capitals, or by its name, with or without white space around
it. -/
theorem evaluate_reference (names : c.DistinctNames) (plain : c.NoSpelledNames) (keyed : c.Keyed r)
    (hf : f ∈ c) (source : LinkedSource) (now : Moment) :
    let scope := (c.setting source now).scope r.valueMap
    evaluate (inBraces f.id.toText) scope = .ok (r.get f.id) ∧
    evaluate (inBraces (Text.upperAscii f.id.toText)) scope = .ok (r.get f.id) ∧
    ∀ text, Refers text → Text.trim text = f.name →
      evaluate (inBraces text) scope = .ok (r.get f.id) := by
  obtain ⟨hlower, htl⟩ := refers_toText f.id
  obtain ⟨hupper, htu⟩ := refers_upperAscii f.id
  refine ⟨?_, ?_, fun text htext htn => ?_⟩
  · rw [evaluate_inBraces hlower, htl, keyed.resolve_spelled plain hf (Uuid.ofText?_toText f.id)]
  · rw [evaluate_inBraces hupper, htu, keyed.resolve_spelled plain hf Uuid.ofText?_upperAscii]
  · rw [evaluate_inBraces htext, htn, keyed.resolve_name plain names hf]

end References

/-! ### A city and its region -/

namespace Atlas

def city : Field := ⟨.repeating 10, .repeating 0, "City", .plain .text⟩

/-- A field whose name begins with a space. -/
def region : Field := ⟨.repeating 11, .repeating 0, " Region", .plain .text⟩

def catalog : Catalog := [city, region]

def rome : Record :=
  ⟨.repeating 5, .repeating 0, .obj [(city.key, .str "Rome"), (region.key, .str "Lazio")]⟩

def scope : Formula.Scope := (catalog.setting Store.empty.source ⟨0, 0⟩).scope rome.valueMap

theorem keyed_rome : catalog.Keyed rome := ⟨_, rfl, by simp [catalog]⟩

theorem refers_city : Formula.Refers " City " := ⟨by decide, by simp [Formula.isBrace]⟩

theorem refers_region : Formula.Refers region.name :=
  ⟨by decide, by simp [region, Formula.isBrace]⟩

end Atlas

open Atlas Formula in
theorem evaluate_reference_city :
    evaluate "\x7baaaaaaaa-aaaa-aaaa-aaaa-aaaaaaaaaaaa\x7d" scope = .ok (.text "Rome") ∧
    evaluate "\x7bAAAAAAAA-AAAA-AAAA-AAAA-AAAAAAAAAAAA\x7d" scope = .ok (.text "Rome") ∧
    evaluate "\x7b City \x7d" scope = .ok (.text "Rome") := by
  obtain ⟨hlower, hupper, hname⟩ := evaluate_reference (c := catalog) (f := city) (by decide)
    (by decide) keyed_rome (by decide) Store.empty.source ⟨0, 0⟩
  exact ⟨hlower, hupper, hname " City " refers_city rfl⟩

open Atlas Formula in
/-- A name that begins with a space refers to no field, since the reference is read without it. -/
theorem name_with_space_not_found :
    (catalog.DistinctIds ∧ catalog.DistinctNames ∧ catalog.NoSpelledNames ∧ catalog.Keyed rome ∧
      region ∈ catalog ∧ Refers region.name) ∧
    evaluate (inBraces region.id.toText) scope = .ok (rome.get region.id) ∧
    evaluate (inBraces region.name) scope = .error (.fieldNotFound "Region") := by
  refine ⟨⟨by decide, by decide, by decide, keyed_rome, by decide, refers_region⟩, ?_, ?_⟩
  · rw [scope, evaluate_inBraces (refers_toText region.id).1]
    rfl
  · rw [scope, evaluate_inBraces refers_region]
    rfl

end Catalog

end FieldCalc
