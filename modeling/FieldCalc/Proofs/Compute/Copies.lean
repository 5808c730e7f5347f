import FieldCalc.Proofs.Compute.LookupLinks
import FieldCalc.Proofs.Value.Stored

/-!
# Copies of stored values

A lookup over a store writes what is stored under its target in the records that it fetches: of a
single record bare, and of several in a list.  On the way a document becomes a value and a document
again, so its structure and its texts are kept, and its numbers as far as floats reach
(`computed_copies`).
-/

namespace FieldCalc

/-- What is stored for a field in a record, null where nothing is. -/
def Record.stored (r : Record) (field : Uuid) : Json :=
  (Dictionary.get? r.members field.toText).getD .null

theorem Record.get_eq (r : Record) (field : Uuid) :
    r.get field = Value.ofJson (r.stored field) := by
  unfold Record.get Record.stored
  cases Dictionary.get? r.members field.toText <;> rfl

/-- A single document stands for itself, and any other number of them for a list. -/
def Json.bare : List Json → Json
  | [j] => j
  | js => .arr js

theorem Value.toJson_bare (vs : List Value) :
    (Setting.bare vs).toJson = Json.bare (vs.map toJson) := by
  unfold Setting.bare
  split
  · rfl
  · rename_i h
    unfold Json.bare
    split
    · rename_i j hj
      obtain ⟨v, rfl, -⟩ := List.map_eq_singleton_iff.1 hj
      exact absurd rfl (h v)
    · rw [← toItems_eq_map]
      rfl

namespace Catalog

section Written

variable {c : Catalog} {store : Store} {now : Moment} {r : Record}

/-- The records that a lookup finds in a store, given the working values of its turn. -/
structure Finds (c : Catalog) (store : Store) (now : Moment) (working : ValueMap) (f : Field)
    (o : LookupOptions) (target : Uuid) (ls : List Record) : Prop where
  target_eq : o.target = some target
  exists_ids : ∃ linked ids, o.linked = some linked ∧
    (c.setting store.source now).linkedIds working f.id linked = .ok ids ∧
      ids.eraseDups.filterMap store.get? = ls

theorem Finds.lookupValue_eq {working : ValueMap} {f : Field} {o : LookupOptions} {target : Uuid}
    {ls : List Record} (h : c.Finds store now working f o target ls) (hne : ls ≠ []) :
    (c.setting store.source now).lookupValue working f.id o =
      .ok (Setting.bare (ls.map fun l => Value.ofJson (l.stored target))) := by
  obtain ⟨ht, linked, ids, hl, hids, rfl⟩ := h
  refine Setting.lookupValue_eq_ok hl ht hids ?_ ?_
  · rintro rfl
    exact hne rfl
  · exact congrArg Except.ok (List.map_congr_left fun l _ => l.get_eq target)

/-- What a lookup that finds records writes. -/
theorem Finds.exists_written {f : Field} {o : LookupOptions} {before after : List Step}
    (turn : c.steps = before ++ ⟨f, .lookup o⟩ :: after) (last : ∀ t ∈ after, t.field.id ≠ f.id)
    {target : Uuid} {ls : List Record}
    (finds : c.Finds store now
      (before.foldl ((c.setting store.source now).step r) (Setting.start r)).working f o target ls)
    (hne : ls ≠ []) {rs : List Record} {i : Nat} (hr : rs[i]? = some r) :
    ∃ out, (c.computed store.source now rs)[i]? = some out ∧
      Dictionary.get? out.members f.key =
        some (Json.bare (ls.map fun l => (Value.ofJson (l.stored target)).toJson)) := by
  obtain ⟨out, hout, hw⟩ := exists_written_of_last turn last (finds.lookupValue_eq hne) hr
  rw [Value.toJson_bare, List.map_map] at hw
  exact ⟨out, hout, hw⟩

/-- A lookup that finds records in a store writes what is stored in them under its target, in
order: of one record bare, of several in a list.  Structure and texts are the same, and numbers are
those of closest floats; if all of them are numbers of floats, they are the same, too. -/
theorem computed_copies {f : Field} {o : LookupOptions} {before after : List Step}
    (turn : c.steps = before ++ ⟨f, .lookup o⟩ :: after) (last : ∀ t ∈ after, t.field.id ≠ f.id)
    {target : Uuid} {ls : List Record}
    (finds : c.Finds store now
      (before.foldl ((c.setting store.source now).step r) (Setting.start r)).working f o target ls)
    (some_found : ls ≠ []) (stored : ∀ l ∈ ls, ∀ n ∈ (l.stored target).numbers, n.IsStored)
    {rs : List Record} {i : Nat} (hr : rs[i]? = some r) :
    ∃ out js, (c.computed store.source now rs)[i]? = some out ∧
      Dictionary.get? out.members f.key = some (Json.bare js) ∧
      List.Forall₂ (fun l j => Json.Alike Number.Closest (l.stored target) j ∧
          ((∀ n ∈ (l.stored target).numbers, ∀ p, n.number? = some p → Number.IsValue p) →
            Json.Alike (· = ·) (l.stored target) j)) ls js := by
  obtain ⟨out, hout, hj⟩ := finds.exists_written turn last some_found hr
  refine ⟨out, _, hout, hj, List.forall₂_map_right_iff.2 (List.forall₂_same.2 fun l hl => ?_)⟩
  exact ⟨Value.alike_closest (stored l hl), Value.alike_eq (stored l hl)⟩

end Written

/-! ### Serial numbers of delivered parts -/

namespace Parts

def parts : Field := ⟨.repeating 1, .repeating 0, "Parts", .linkedRecord {}⟩

def serialOptions : LookupOptions := { linked := some parts.id, target := some (.repeating 4) }

def serials : Field := ⟨.repeating 2, .repeating 0, "Serials", .lookup serialOptions⟩

def catalog : Catalog := [parts, serials]

def part (id : Uuid) (serial : Json) : Record :=
  ⟨id, .repeating 0, .obj [((Uuid.repeating 4).toText, serial)]⟩

/-- A serial number that is no float. -/
def big : Record := part (.repeating 6) (.int 9007199254740993)

def mixed : Record :=
  part (.repeating 7) (.arr [.int 9007199254740992, .float 0.5, .obj [("note", .str "used")]])

def store : Store := .ofList [big, mixed]

def delivery (ids : List Uuid) : Record :=
  ⟨.repeating 5, .repeating 0, .obj [(parts.key, .arr (ids.map fun id => .str id.toText))]⟩

theorem steps_catalog : catalog.steps = [] ++ ⟨serials, .lookup serialOptions⟩ :: [] := rfl

theorem finds_big : catalog.Finds store ⟨0, 0⟩ (delivery [.repeating 6]).valueMap serials
    serialOptions (.repeating 4) [big] where
  target_eq := rfl
  exists_ids := ⟨parts.id, [.repeating 6], rfl, rfl, rfl⟩

theorem finds_mixed : catalog.Finds store ⟨0, 0⟩ (delivery [.repeating 7]).valueMap serials
    serialOptions (.repeating 4) [mixed] where
  target_eq := rfl
  exists_ids := ⟨parts.id, [.repeating 7], rfl, rfl, rfl⟩

theorem finds_both : catalog.Finds store ⟨0, 0⟩ (delivery [.repeating 7, .repeating 6]).valueMap
    serials serialOptions (.repeating 4) [mixed, big] where
  target_eq := rfl
  exists_ids := ⟨parts.id, [.repeating 7, .repeating 6], rfl, rfl, rfl⟩

theorem isStored_big : ∀ n ∈ (big.stored (.repeating 4)).numbers, n.IsStored := by
  have hn : (big.stored (.repeating 4)).numbers = [.int 9007199254740993] := rfl
  simp [hn, Json.IsStored]

theorem numbers_mixed :
    (mixed.stored (.repeating 4)).numbers = [.int 9007199254740992, .float 0.5] := rfl

theorem isStored_mixed : ∀ n ∈ (mixed.stored (.repeating 4)).numbers, n.IsStored := by
  have hf : Number.isFinite 0.5 := by decide +kernel
  simp [numbers_mixed, Json.IsStored, hf]

theorem isValue_mixed : ∀ n ∈ (mixed.stored (.repeating 4)).numbers, ∀ p, n.number? = some p →
    Number.IsValue p := by
  simp only [numbers_mixed, List.forall_mem_cons, List.not_mem_nil, false_implies, implies_true,
    and_true]
  constructor
  · intro p hp
    exact Option.some.inj hp ▸ Number.isValue_intCast (by decide)
  · intro p hp
    exact ⟨0.5, hp⟩

end Parts

open Parts in
theorem computed_copies_parts :
    (∃ out j, (catalog.computed store.source ⟨0, 0⟩ [delivery [.repeating 7]])[0]? = some out ∧
      Dictionary.get? out.members serials.key = some j ∧
      Json.Alike (· = ·) (mixed.stored (.repeating 4)) j) ∧
    ∃ out j j', (catalog.computed store.source ⟨0, 0⟩
        [delivery [.repeating 7, .repeating 6]])[0]? = some out ∧
      Dictionary.get? out.members serials.key = some (.arr [j, j']) ∧
      Json.Alike (· = ·) (mixed.stored (.repeating 4)) j ∧
      Json.Alike Number.Closest (big.stored (.repeating 4)) j' := by
  have last : ∀ t ∈ ([] : List Step), t.field.id ≠ serials.id := by simp
  constructor
  · have hr : [delivery [.repeating 7]][0]? = some (delivery [.repeating 7]) := rfl
    obtain ⟨out, js, hout, hj, ha⟩ := computed_copies steps_catalog last finds_mixed (by simp)
      (by simpa using isStored_mixed) hr
    cases ha with
    | cons h ha =>
      cases ha
      exact ⟨out, _, hout, hj, h.2 isValue_mixed⟩
  · have hr : [delivery [.repeating 7, .repeating 6]][0]? =
        some (delivery [.repeating 7, .repeating 6]) := rfl
    obtain ⟨out, js, hout, hj, ha⟩ := computed_copies steps_catalog last finds_both (by simp)
      (by simpa using ⟨isStored_mixed, isStored_big⟩) hr
    cases ha with
    | cons h ha =>
      cases ha with
      | cons h' ha =>
        cases ha
        exact ⟨out, _, _, hout, hj, h.2 isValue_mixed, h'.1⟩

open Parts in
/-- A serial number that is no float is looked up as another one. -/
theorem serial_not_kept :
    (∀ n ∈ (big.stored (.repeating 4)).numbers, n.IsStored) ∧
    ∃ out j, (catalog.computed store.source ⟨0, 0⟩ [delivery [.repeating 6]])[0]? = some out ∧
      Dictionary.get? out.members serials.key = some j ∧
      ¬ Json.Alike (· = ·) (big.stored (.repeating 4)) j := by
  have hr : [delivery [.repeating 6]][0]? = some (delivery [.repeating 6]) := rfl
  obtain ⟨out, hout, hj⟩ := finds_big.exists_written steps_catalog (by simp) (by simp) hr
  refine ⟨isStored_big, out, _, hout, hj, fun ha => ?_⟩
  have hv := (Value.alike_eq_int_iff (by simp [Json.IsStored])).1 ha
  exact Number.not_isValue_intCast (by decide) (by decide) hv

end Catalog

end FieldCalc
