import FieldCalc.Proofs.Json.WrittenText
import FieldCalc.Table.FieldDocument

/-!
# Fields that are stored and read back

The document that a field is stored as is read as the same field, and without a notice
(`ofJson?_toJson`).  Kinds are found by the names that they are stored under, and options are
read back from documents of their own, which are canonical already.  There are no numbers in such a
document, so it is read back from its text as well, alone or in the list of a catalog
(`readListed?_compact_toJson`).  It does not count what the field was read from before: a list of
its parts, identifiers in other spellings, options that are malformed or left out, a kind that is
not known (`stored_read_back`).
-/

namespace FieldCalc

theorem canonical_idOrNull (u : Option Uuid) : (idOrNull u).canonical = idOrNull u := by
  cases u <;> rfl

/-! ### Parts of options -/

theorem Uuid.ofJson?_toJson (u : Uuid) : Uuid.ofJson? u.toJson = some u := ofText?_toText u

theorem idOption?_toJson (u : Uuid) : idOption? (some u.toJson) = some (some u) :=
  congrArg (Option.map some) u.ofJson?_toJson

theorem idOption?_idOrNull (u : Option Uuid) : idOption? (some (idOrNull u)) = some u := by
  cases u with
  | none => rfl
  | some u => exact idOption?_toJson u

theorem Value.ResultType.ofName?_name (t : ResultType) : ofName? t.name = some t := by
  cases t <;> decide

/-! ### Options -/

/-- Options whose document is canonical and is read back are read without a notice. -/
theorem readOptions_canonical {α : Type} [Inhabited α] {read : Json → Option α} {j : Json}
    {ms : List (String × Json)} {o : α} (hj : j = .obj ms) (hc : j.canonical = j)
    (hr : read j = some o) : readOptions read j.canonical = (o, false) := by
  rw [hc]
  subst hj
  rw [readOptions, hr]
  nofun

theorem LinkedRecordOptions.readOptions_toJson (o : LinkedRecordOptions) :
    readOptions ofJson? o.toJson.canonical = (o, false) := by
  obtain ⟨_ | u⟩ := o
  · rfl
  · have hp : (toJson ⟨some u⟩).parts? ["linkedTableId"] = some [some u.toJson] := rfl
    refine readOptions_canonical rfl rfl ?_
    simp [ofJson?, hp, idOption?_toJson]

theorem FormulaOptions.readOptions_toJson (o : FormulaOptions) :
    readOptions ofJson? o.toJson.canonical = (o, false) := by
  obtain ⟨expression, _ | t⟩ := o
  · rfl
  · have hp : (toJson ⟨expression, some t⟩).parts? ["expression", "resultType"] =
        some [some (.str expression), some (.str t.name)] := rfl
    have hk : ["expression", "resultType"].Pairwise (· < ·) := by decide
    refine readOptions_canonical rfl (Json.canonical_obj (Dictionary.ascending_of_keys hk) ?_) ?_
    · simp [Json.canonical]
    · simp [ofJson?, hp, textOption?, resultTypeOption?, Json.str?, Value.ResultType.ofName?_name]

theorem LookupOptions.readOptions_toJson (o : LookupOptions) :
    readOptions ofJson? o.toJson.canonical = (o, false) := by
  have hp : o.toJson.parts? ["lookupLinkedFieldId", "lookupFieldId"] =
      some [some (idOrNull o.linked), some (idOrNull o.target)] := rfl
  have hk : ["lookupFieldId", "lookupLinkedFieldId"].Pairwise (· < ·) := by decide
  refine readOptions_canonical rfl (Json.canonical_obj (Dictionary.ascending_of_keys hk) ?_) ?_
  · simp [canonical_idOrNull]
  · simp [ofJson?, hp, idOption?_idOrNull]

theorem RollupOptions.readOptions_toJson (o : RollupOptions) :
    readOptions ofJson? o.toJson.canonical = (o, false) := by
  have hp : o.toJson.parts? ["rollupLinkedFieldId", "rollupFieldId", "aggregationFunction"] =
      some [some (idOrNull o.linked), some (idOrNull o.target), some (.str o.function)] := rfl
  have hk : ["aggregationFunction", "rollupFieldId", "rollupLinkedFieldId"].Pairwise (· < ·) := by
    decide
  refine readOptions_canonical rfl (Json.canonical_obj (Dictionary.ascending_of_keys hk) ?_) ?_
  · simp [canonical_idOrNull, Json.canonical]
  · simp [ofJson?, hp, idOption?_idOrNull, textOption?, Json.str?]

/-! ### Kinds -/

/-- A kind is read back from its name and its options, without a notice. -/
theorem FieldKind.read_name (k : FieldKind) :
    read k.name (k.options?.getD .null).canonical = (k, false) := by
  cases k with
  | plain k => cases k <;> rfl
  | linkedRecord o =>
    rw [name, options?, Option.getD_some, read, o.readOptions_toJson]
  | formula o =>
    rw [name, options?, Option.getD_some, read, o.readOptions_toJson]
  | lookup o =>
    rw [name, options?, Option.getD_some, read, o.readOptions_toJson]
  | rollup o =>
    rw [name, options?, Option.getD_some, read, o.readOptions_toJson]

/-! ### Fields -/

namespace Field

/-- A document with the parts of a stored field is read as that field. -/
theorem ofJson?_of_parts {f : Field} {j : Json} (options : Option Json)
    (hp : j.parts? partNames = some [some f.id.toJson, some f.table.toJson, some (.str f.name),
      some (.str f.kind.name), options])
    (ho : (options.getD .null).canonical = (f.kind.options?.getD .null).canonical) :
    ofJson? j = some (f, []) := by
  simp [ofJson?, hp, ho, Uuid.ofJson?_toJson, Json.str?, kindName?, f.kind.read_name]

/-- A field is read back from the document that it is stored as, without a notice. -/
theorem ofJson?_toJson (f : Field) : ofJson? f.toJson = some (f, []) := by
  refine ofJson?_of_parts f.kind.options? ?_ rfl
  unfold toJson
  cases f.kind.options? <;> rfl

/-- A field is read back when the members of its document come in the order of their keys. -/
theorem ofJson?_canonical_toJson (f : Field) : ofJson? f.toJson.canonical = some (f, []) := by
  refine ofJson?_of_parts (f.kind.options?.map Json.canonical) ?_ ?_
  · have hk : ["id", "tableId", "name", "type", "options"].Pairwise (· ≠ ·) := by decide
    unfold toJson
    cases f.kind.options? with
    | none =>
      have hk' : ["id", "tableId", "name", "type"].Pairwise (· ≠ ·) := by decide
      rw [Json.parts?_canonical_obj]
      · rfl
      · exact List.pairwise_map.1 hk'
    | some o =>
      rw [Json.parts?_canonical_obj]
      · rfl
      · exact List.pairwise_map.1 hk
  · cases f.kind.options? with
    | none => rfl
    | some o => exact o.canonical_canonical

/-! ### Texts -/

theorem wordy_idOrNull (u : Option Uuid) (depth : Nat) : Json.Wordy depth (idOrNull u) := by
  cases u with
  | none => exact .null depth
  | some u => exact .str depth _

theorem wordy_of_mem_options? {k : FieldKind} {o : Json} (h : o ∈ k.options?) (depth : Nat) :
    Json.Wordy (depth + 1) o := by
  cases k with
  | plain k => cases h
  | linkedRecord o =>
    obtain rfl := Option.some.inj h
    refine .obj fun m hm => ?_
    obtain ⟨u, -, rfl⟩ := List.mem_map.1 hm
    exact .str depth _
  | formula o =>
    obtain rfl := Option.some.inj h
    refine .obj (List.forall_mem_cons.2 ⟨.str depth _, fun m hm => ?_⟩)
    obtain ⟨t, -, rfl⟩ := List.mem_map.1 hm
    exact .str depth _
  | lookup o =>
    obtain rfl := Option.some.inj h
    exact .obj (by simp [wordy_idOrNull])
  | rollup o =>
    obtain rfl := Option.some.inj h
    exact .obj (by simp [wordy_idOrNull, Json.Wordy.str])

/-- A stored field is an object of texts, and of options that hold texts and nulls. -/
theorem exists_members (f : Field) (depth : Nat) : ∃ ms, f.toJson = .obj ms ∧
    (∀ m ∈ ms, m.1 ∈ partNames) ∧ ∀ m ∈ ms, Json.Wordy (depth + 1) m.2 := by
  refine ⟨_, rfl, ?_, ?_⟩
  · cases f.kind.options? with
    | none => simp [partNames]
    | some o => simp [partNames]
  · refine List.forall_mem_append.2 ⟨by simp [Json.Wordy.str, Uuid.toJson], fun m hm => ?_⟩
    obtain ⟨o, ho, rfl⟩ := List.mem_map.1 hm
    exact wordy_of_mem_options? (Option.mem_toList.1 ho) depth

/-- A field is read back from the text of its document. -/
theorem read?_compact_toJson (f : Field) :
    (Json.read? f.toJson.compact).bind ofJson? = some (f, []) := by
  obtain ⟨ms, hms, -, hwordy⟩ := f.exists_members 125
  have h : Json.Wordy Json.maxDepth f.toJson := hms ▸ .obj hwordy
  rw [h.read?_compact]
  exact f.ofJson?_canonical_toJson

theorem mapM_ofJson?_toJson (fs : List Field) :
    (fs.map toJson).mapM ofJson? = some (fs.map fun f => (f, [])) := by
  induction fs with
  | nil => rfl
  | cons f fs ih =>
    rw [List.map_cons, List.mapM_cons, f.ofJson?_toJson, ih]
    rfl

/-- The fields of a catalog are read back from the text of the list of their documents. -/
theorem readListed?_compact_toJson (fs : List Field) :
    (Json.readListed? partNames (Json.arr (fs.map toJson)).compact).bind (List.mapM ofJson?) =
      some (fs.map fun f => (f, [])) := by
  have hread : ∀ j ∈ fs.map toJson,
      Json.Reads (Json.readNamed partNames (Json.maxDepth - 1)) j j.compact.toList := by
    refine List.forall_mem_map.2 fun f _ => ?_
    obtain ⟨ms, hms, hnames, hwordy⟩ := f.exists_members 124
    rw [hms]
    exact Json.reads_named hnames hwordy
  rw [Json.readListed?_compact hread, Option.bind_some, mapM_ofJson?_toJson]

/-- Every field is read back from what it is stored as, without a notice: from its document, from
the text of that, and from the text of a catalog that it is in.  So is one that was read from any
document before, with whatever notices, and storing it again changes nothing. -/
theorem stored_read_back :
    (∀ f : Field, ofJson? f.toJson = some (f, []) ∧ ofJson? f.toJson.canonical = some (f, []) ∧
      (Json.read? f.toJson.compact).bind ofJson? = some (f, [])) ∧
    (∀ fs : List Field,
      (Json.readListed? partNames (Json.arr (fs.map toJson)).compact).bind (List.mapM ofJson?) =
        some (fs.map fun f => (f, []))) ∧
    ∀ (j : Json) (f : Field) (notices : List Notice), ofJson? j = some (f, notices) →
      ofJson? f.toJson = some (f, []) ∧
        ∀ g notices', ofJson? f.toJson = some (g, notices') → g.toJson = f.toJson := by
  refine ⟨fun f => ⟨f.ofJson?_toJson, f.ofJson?_canonical_toJson, f.read?_compact_toJson⟩,
    readListed?_compact_toJson, fun j f notices _ => ?_⟩
  refine ⟨f.ofJson?_toJson, fun g notices' hg => ?_⟩
  rw [f.ofJson?_toJson] at hg
  cases hg
  rfl

/-- A rollup as the list of its parts, its identifiers in other spellings and its options
malformed. -/
def oldRollup : Json :=
  .arr [.str "urn:uuid:3F2504E0-4F89-11D3-9A0C-0305E82C3301",
    .str "\x7ba8098c1a-f86e-11da-bd1a-00112444be1e\x7d", .str "Total \"net\"",
    .obj [("rollup", .null)],
    .obj [("aggregationFunction", .str "SUM"), ("rollupFieldId", .str "Price")]]

theorem stored_read_back_oldRollup : ∃ f, ofJson? oldRollup = some (f, [.malformedOptions f.id]) ∧
    f.kind = .rollup {} ∧ ofJson? f.toJson = some (f, []) := by
  have h : ∃ f, ofJson? oldRollup = some (f, [.malformedOptions f.id]) ∧ f.kind = .rollup {} :=
    ⟨_, rfl, rfl⟩
  obtain ⟨f, hf, hk⟩ := h
  exact ⟨f, hf, hk, (stored_read_back.2.2 _ f _ hf).1⟩

end Field

end FieldCalc
