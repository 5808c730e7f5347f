import FieldCalc.Proofs.Compute.LookupLinks

/-!
# Counting linked records

A rollup counts the records that a field links to without fetching them, and so counts a record as
often as it is linked.  A store answers each record once, and that is what every other aggregation
goes by.  The two agree where no record is linked twice (`computed_count_of_store`).
-/

namespace FieldCalc

/-- A store answers once for each record, if it has them all. -/
theorem Store.length_fetch {store : Store} {ids : List Uuid} (field : Uuid)
    (h : ∀ id ∈ ids, (store.get? id).isSome) :
    (store.fetch ids field).length = ids.eraseDups.length := by
  rw [fetch, List.length_map, List.filterMap_length_eq_length]
  exact fun id hid => h id (List.mem_eraseDups.1 hid)

namespace Catalog

/-- The records that a rollup collects where the working values are as given.  The store has them
all. -/
structure Collects (c : Catalog) (store : Store) (now : Moment) (working : ValueMap) (f : Field)
    (o : RollupOptions) (target : Uuid) (ids : List Uuid) : Prop where
  target_eq : o.target = some target
  exists_linked : ∃ linked, o.linked = some linked ∧
    (c.setting store.source now).linkedIds working f.id linked = .ok ids
  present : ∀ id ∈ ids, (store.get? id).isSome

section Rollups

variable {c : Catalog} {store : Store} {now : Moment} {working : ValueMap} {f : Field}
  {o : RollupOptions} {target : Uuid} {ids : List Uuid}

theorem Collects.count_eq (h : c.Collects store now working f o target ids) :
    (c.setting store.source now).rollupValue working f.id o (.ok .count) =
      .ok (.number (Number.ofNat ids.length)) := by
  obtain ⟨linked, hl, hids⟩ := h.exists_linked
  exact Setting.rollupValue_count hl hids

theorem Collects.rollupValue_eq (h : c.Collects store now working f o target ids) (hne : ids ≠ [])
    {a : Aggregation} (ha : a ≠ .count) :
    (c.setting store.source now).rollupValue working f.id o (.ok a) =
      .ok (a.apply (store.fetch ids target)) := by
  obtain ⟨linked, hl, hids⟩ := h.exists_linked
  exact Setting.rollupValue_of_ne_count ha hl h.target_eq hids hne rfl

theorem Collects.aggregate_count (h : c.Collects store now working f o target ids) :
    aggregate "COUNT" (store.fetch ids target) =
      .ok (.number (Number.ofNat ids.eraseDups.length)) := by
  rw [← Store.length_fetch target h.present]
  rfl

/-- A count of linked records that are all in the store is the number of links, and that is what it
writes in its turn.  What is fetched from them is one value a record, and what every other
aggregation over the same link brings together.  These are as many as the links exactly where no
record is linked twice, and there counting them comes to the same. -/
theorem computed_count_of_store (collects : c.Collects store now working f o target ids) :
    let g := c.setting store.source now
    ∃ vs, store.source.fetch ids target = .ok vs ∧
      g.rollupValue working f.id o (.ok .count) = .ok (.number (Number.ofNat ids.length)) ∧
      aggregate "COUNT" vs = .ok (.number (Number.ofNat ids.eraseDups.length)) ∧
      (vs.length = ids.length ↔ ids.Nodup) ∧
      (ids.Nodup → g.rollupValue working f.id o (.ok .count) = aggregate "COUNT" vs) ∧
      (∀ a, a ≠ .count → ids ≠ [] → g.rollupValue working f.id o (.ok a) = .ok (a.apply vs)) ∧
      ∀ {before after r rs} {i : Nat}, c.steps = before ++ ⟨f, .rollup o (.ok .count)⟩ :: after →
        (∀ t ∈ after, t.field.id ≠ f.id) →
        (before.foldl (g.step r) (Setting.start r)).working = working → rs[i]? = some r →
        ∃ out, (c.computed store.source now rs)[i]? = some out ∧ Dictionary.get? out.members f.key =
          some (Value.number (Number.ofNat ids.length)).toJson := by
  refine ⟨store.fetch ids target, rfl, collects.count_eq, collects.aggregate_count, ?_,
    fun hn => ?_, fun a ha hne => collects.rollupValue_eq hne ha, ?_⟩
  · rw [Store.length_fetch target collects.present, length_eraseDups_eq_iff]
  · rw [collects.count_eq, collects.aggregate_count, length_eraseDups_eq_iff.2 hn]
  · rintro before after r rs i turn last rfl hr
    exact exists_written_of_last turn last collects.count_eq hr

end Rollups

/-! ### Members of a team -/

namespace Team

def members : Field := ⟨.repeating 1, .repeating 0, "Members", .linkedRecord {}⟩

def countOptions : RollupOptions :=
  { linked := some members.id, target := some (.repeating 4), function := "count" }

def count : Field := ⟨.repeating 3, .repeating 0, "Count", .rollup countOptions⟩

def catalog : Catalog := [members, count]

def member (id : Uuid) (hours : Nat) : Record :=
  ⟨id, .repeating 0, .obj [((Uuid.repeating 4).toText, .int hours)]⟩

def store : Store := .ofList [member (.repeating 6) 3, member (.repeating 7) 5]

def team (ids : List Uuid) : Record :=
  ⟨.repeating 5, .repeating 0, .obj [(members.key, .arr (ids.map fun id => .str id.toText))]⟩

theorem steps_catalog : catalog.steps = [] ++ ⟨count, .rollup countOptions (.ok .count)⟩ :: [] :=
  rfl

theorem collects_both : catalog.Collects store ⟨0, 0⟩ (team [.repeating 6, .repeating 7]).valueMap
    count countOptions (.repeating 4) [.repeating 6, .repeating 7] where
  target_eq := rfl
  exists_linked := ⟨members.id, rfl, rfl⟩
  present := by decide

theorem collects_twice : catalog.Collects store ⟨0, 0⟩ (team [.repeating 6, .repeating 6]).valueMap
    count countOptions (.repeating 4) [.repeating 6, .repeating 6] where
  target_eq := rfl
  exists_linked := ⟨members.id, rfl, rfl⟩
  present := by decide

end Team

open Team in
theorem computed_count_of_store_team :
    let g := catalog.setting store.source ⟨0, 0⟩
    let r := team [.repeating 6, .repeating 7]
    ∃ vs, store.source.fetch [.repeating 6, .repeating 7] (.repeating 4) = .ok vs ∧
      g.rollupValue r.valueMap count.id countOptions (.ok .count) = aggregate "COUNT" vs ∧
      aggregate "COUNT" vs = .ok (.number (Number.ofNat 2)) ∧
      g.rollupValue r.valueMap count.id countOptions (.ok .sum) = .ok (Aggregation.sum.apply vs) ∧
      ∃ out, (catalog.computed store.source ⟨0, 0⟩ [r])[0]? = some out ∧
        Dictionary.get? out.members count.key = some (Value.number (Number.ofNat 2)).toJson := by
  obtain ⟨vs, hvs, -, hcount, -, heq, hother, hwritten⟩ := computed_count_of_store collects_both
  exact ⟨vs, hvs, heq (by decide), hcount, hother .sum (by decide) (by decide),
    hwritten steps_catalog (by simp) rfl rfl⟩

open Team in
/-- A member who is linked twice is counted twice and answered once. -/
theorem count_of_repeated :
    catalog.Collects store ⟨0, 0⟩ (team [.repeating 6, .repeating 6]).valueMap count countOptions
      (.repeating 4) [.repeating 6, .repeating 6] ∧
    ∃ vs, store.source.fetch [.repeating 6, .repeating 6] (.repeating 4) = .ok vs ∧
      (catalog.setting store.source ⟨0, 0⟩).rollupValue
        (team [.repeating 6, .repeating 6]).valueMap count.id countOptions (.ok .count) =
          .ok (.number (Number.ofNat 2)) ∧
      aggregate "COUNT" vs = .ok (.number (Number.ofNat 1)) ∧
      Number.ofNat 2 ≠ Number.ofNat 1 := by
  refine ⟨collects_twice, _, rfl, collects_twice.count_eq, collects_twice.aggregate_count,
    fun h => ?_⟩
  have hne : Number.integer? (Number.ofNat 2) ≠ Number.integer? (Number.ofNat 1) := by
    decide +kernel
  exact hne (congrArg Number.integer? h)

end Catalog

end FieldCalc
