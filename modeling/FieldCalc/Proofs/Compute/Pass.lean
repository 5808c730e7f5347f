import FieldCalc.Compute.Run
import FieldCalc.Proofs.Compute.Links
import FieldCalc.Proofs.Dictionary
import Mathlib.Data.List.Induction

/-!
# One pass over a record

What computing a record comes to, field by field.  `Setting.outcome` is what the step of a field
gives when its turn comes, and `Setting.result` the value that the field gets from it, null where
it fails.  The document afterwards is the one before with each result written under the key of its
field (`computeRecord_fst`), and on the way each step finds the results of the steps before it and
stored values otherwise (`get?_before_of_sublist`, `get?_before_of_forall`).
-/

namespace FieldCalc

/-- Computing records by the fields of a catalog. -/
def Catalog.setting (c : Catalog) (source : LinkedSource) (now : Moment) : Setting :=
  ⟨Plan.ofCatalog c, source, now⟩

namespace Setting

/-- A field that cannot be computed gets null. -/
def orNull : Except FieldError Value → Value
  | .ok v => v
  | .error _ => .null

/-- Where the computation of a record begins. -/
def start (r : Record) : Progress := ⟨r.valueMap, [], r.notices⟩

/-- How far a record has come when it is the turn of a step. -/
def before (g : Setting) (r : Record) (s : Step) : Progress :=
  (g.plan.steps.takeWhile fun t => t.field.id ≠ s.field.id).foldl (g.step r) (start r)

/-- What a step comes to in its turn. -/
def outcome (g : Setting) (r : Record) (s : Step) : Except FieldError Value :=
  g.value r.valueMap (g.before r s).working s

/-- The value that the field of a step gets. -/
def result (g : Setting) (r : Record) (s : Step) : Value := orNull (g.outcome r s)

/-- What a step sets. -/
def entry (g : Setting) (r : Record) (s : Step) : String × Value := (s.field.key, g.result r s)

/-! ### Steps -/

theorem step_working (g : Setting) (r : Record) (p : Progress) (s : Step) :
    (g.step r p s).working =
      Dictionary.insert s.field.key (orNull (g.value r.valueMap p.working s)) p.working := by
  unfold step
  split <;> simp [*, orNull, Progress.set, Field.key]

theorem step_updates (g : Setting) (r : Record) (p : Progress) (s : Step) :
    (g.step r p s).updates =
      Dictionary.insert s.field.key (orNull (g.value r.valueMap p.working s)) p.updates := by
  unfold step
  split <;> simp [*, orNull, Progress.set, Field.key]

theorem ascending_updates (g : Setting) (r : Record) {p : Progress} (h : p.updates.Ascending)
    (ss : List Step) : (ss.foldl (g.step r) p).updates.Ascending := by
  induction ss generalizing p with
  | nil => exact h
  | cons s ss ih =>
    refine ih ?_
    rw [step_updates]
    exact h.insert _ _

/-- Steps keep what is set under other keys. -/
theorem get?_updates_of_forall_ne (g : Setting) (r : Record) (p : Progress) {ss : List Step}
    {k : String} (h : ∀ s ∈ ss, s.field.key ≠ k) :
    Dictionary.get? (ss.foldl (g.step r) p).updates k = Dictionary.get? p.updates k := by
  induction ss generalizing p with
  | nil => rfl
  | cons s ss ih =>
    rw [List.foldl_cons, ih _ fun t ht => h t (List.mem_cons_of_mem s ht), step_updates,
      Dictionary.get?_insert, if_neg (h s List.mem_cons_self).symm]

end Setting

namespace Catalog

variable {c : Catalog} {source : LinkedSource} {now : Moment} {r : Record}

theorem DistinctIds.distinctKeys (h : c.DistinctIds) (g : Setting) (r : Record) {ss : List Step}
    (hs : ss.Sublist c.steps) : Dictionary.DistinctKeys (ss.map (g.entry r)) := by
  refine List.pairwise_map.2 (List.Pairwise.imp_of_mem ?_ (h.nodup_steps.sublist hs))
  intro s t hs' ht' hne he
  exact hne (h.step_eq (hs.subset hs') (hs.subset ht') (Field.key_injective he))

theorem DistinctIds.before_eq (h : c.DistinctIds) {s : Step} {l₁ l₂ : List Step}
    (hs : c.steps = l₁ ++ s :: l₂) : (c.setting source now).before r s =
      l₁.foldl ((c.setting source now).step r) (Setting.start r) := by
  have hn : (l₁ ++ s :: l₂).Nodup := hs ▸ h.nodup_steps
  have hm : ∀ t ∈ l₁, decide (t.field.id ≠ s.field.id) = true := by
    intro t ht
    rw [decide_eq_true_iff]
    intro he
    obtain rfl : t = s := h.step_eq (hs ▸ List.mem_append_left _ ht) (hs ▸ by simp) he
    exact List.disjoint_of_nodup_append hn ht List.mem_cons_self
  have hp : (c.setting source now).plan.steps = l₁ ++ s :: l₂ := hs
  unfold Setting.before
  rw [hp, List.takeWhile_append_of_pos hm, List.takeWhile_cons_of_neg (by simp), List.append_nil]

/-- The first steps set what they come to, one after another. -/
theorem DistinctIds.foldl_step (h : c.DistinctIds) {l₁ l₂ : List Step} (hs : c.steps = l₁ ++ l₂) :
    let g := c.setting source now
    (l₁.foldl (g.step r) (Setting.start r)).working =
        Dictionary.insertAll r.valueMap (l₁.map (g.entry r)) ∧
      (l₁.foldl (g.step r) (Setting.start r)).updates =
        Dictionary.insertAll [] (l₁.map (g.entry r)) := by
  intro g
  induction l₁ using List.reverseRecOn generalizing l₂ with
  | nil => exact ⟨rfl, rfl⟩
  | append_singleton l₁ s ih =>
    have hs' : c.steps = l₁ ++ s :: l₂ := by rw [hs]; simp
    have ⟨hw, hu⟩ := ih hs'
    have he : Setting.orNull
        (g.value r.valueMap (l₁.foldl (g.step r) (Setting.start r)).working s) = g.result r s := by
      rw [Setting.result, Setting.outcome, h.before_eq hs']
    rw [List.foldl_append, List.foldl_cons, List.foldl_nil, Setting.step_working,
      Setting.step_updates, he, hw, hu]
    simp [Dictionary.insertAll, Setting.entry]

/-- A step finds the results of the steps before it. -/
theorem DistinctIds.get?_before_of_sublist (h : c.DistinctIds) {s t : Step}
    (hts : [t, s].Sublist c.steps) :
    Dictionary.get? ((c.setting source now).before r s).working t.field.key =
      some ((c.setting source now).result r t) := by
  obtain ⟨l₁, l₂, hs, ht⟩ := (pair_sublist_iff_exists h.nodup_steps).1 hts
  have hl : l₁.Sublist c.steps := hs ▸ List.sublist_append_left _ _
  rw [h.before_eq hs, (h.foldl_step hs).1]
  exact Dictionary.get?_insertAll_of_mem (h.distinctKeys _ r hl) (List.mem_map_of_mem ht) _

/-- What no earlier step sets is found as it is stored. -/
theorem DistinctIds.get?_before_of_forall (h : c.DistinctIds) {s : Step} (hs : s ∈ c.steps)
    {k : String} (hk : ∀ t ∈ c.steps, t.field.key = k → ¬ [t, s].Sublist c.steps) :
    Dictionary.get? ((c.setting source now).before r s).working k =
      Dictionary.get? r.valueMap k := by
  obtain ⟨l₁, l₂, hs⟩ := List.append_of_mem hs
  have hn : (l₁ ++ s :: l₂).Nodup := hs ▸ h.nodup_steps
  rw [h.before_eq hs, (h.foldl_step hs).1]
  refine Dictionary.get?_insertAll_of_forall_ne _ _ _ fun e he hke => ?_
  obtain ⟨t, ht, rfl⟩ := List.mem_map.1 he
  refine hk t (hs ▸ List.mem_append_left _ ht) hke ?_
  rw [hs]
  exact (pair_sublist_iff_mem hn).2 ht

/-! ### Documents -/

/-- What the steps write into a record's document. -/
def written (c : Catalog) (g : Setting) (r : Record) : List (String × Json) :=
  c.steps.map fun s => (s.field.key, (g.result r s).toJson)

theorem DistinctIds.distinctKeys_written (h : c.DistinctIds) (g : Setting) (r : Record) :
    Dictionary.DistinctKeys (c.written g r) := by
  have hk := h.distinctKeys g r (List.Sublist.refl _)
  unfold Dictionary.DistinctKeys written at *
  rw [List.pairwise_map] at hk ⊢
  exact hk

/-- The document of a record afterwards is the one before with every result written into it. -/
theorem DistinctIds.computeRecord_fst (h : c.DistinctIds) :
    let g := c.setting source now
    (g.computeRecord r).1 =
      { r with data := .obj (Dictionary.insertAll r.members (c.written g r)) } := by
  intro g
  have hk := h.distinctKeys g r (List.Sublist.refl _)
  have hp : (Dictionary.insertAll [] (c.steps.map (g.entry r))).Perm (c.steps.map (g.entry r)) :=
    Dictionary.insertAll_perm hk
  have hu : (g.progress r).updates = Dictionary.insertAll [] (c.steps.map (g.entry r)) :=
    (h.foldl_step (List.append_nil _).symm).2
  have hm : Dictionary.insertAll r.members
        ((Dictionary.insertAll [] (c.steps.map (g.entry r))).map fun e => (e.1, e.2.toJson)) =
      Dictionary.insertAll r.members (c.written g r) := by
    refine (Dictionary.insertAll_eq_of_perm (h.distinctKeys_written g r) ?_ r.members).symm
    simpa [written, Setting.entry, Function.comp_def] using (hp.map fun e => (e.1, e.2.toJson)).symm
  rw [Setting.computeRecord, Record.withUpdates, hu, Value.toMembers_eq_map, hm]

theorem DistinctIds.get?_members_of_mem (h : c.DistinctIds) {s : Step} (hs : s ∈ c.steps) :
    Dictionary.get? ((c.setting source now).computeRecord r).1.members s.field.key =
      some ((c.setting source now).result r s).toJson := by
  rw [h.computeRecord_fst]
  exact Dictionary.get?_insertAll_of_mem (h.distinctKeys_written _ r)
    (List.mem_map_of_mem (f := fun s => (s.field.key, _)) hs) _

theorem DistinctIds.get?_members_of_forall (h : c.DistinctIds) {k : String}
    (hk : ∀ s ∈ c.steps, s.field.key ≠ k) :
    Dictionary.get? ((c.setting source now).computeRecord r).1.members k =
      Dictionary.get? r.members k := by
  rw [h.computeRecord_fst]
  refine Dictionary.get?_insertAll_of_forall_ne _ _ _ fun e he => ?_
  obtain ⟨s, hs, rfl⟩ := List.mem_map.1 he
  exact hk s hs

/-- Whatever the identifiers are, a step that no later one sets the field of again writes what it
comes to in its turn. -/
theorem get?_members_of_last {g : Setting} {s : Step} {before after : List Step}
    (hs : g.plan.steps = before ++ s :: after) (last : ∀ t ∈ after, t.field.id ≠ s.field.id) :
    Dictionary.get? (g.computeRecord r).1.members s.field.key = some (Setting.orNull
      (g.value r.valueMap (before.foldl (g.step r) (Setting.start r)).working s)).toJson := by
  have hkey : ∀ t ∈ after, t.field.key ≠ s.field.key := fun t ht he =>
    last t ht (Field.key_injective he)
  have hu : Dictionary.get? (g.progress r).updates s.field.key = some (Setting.orNull
      (g.value r.valueMap (before.foldl (g.step r) (Setting.start r)).working s)) := by
    unfold Setting.progress
    rw [hs, List.foldl_append, List.foldl_cons, Setting.get?_updates_of_forall_ne _ _ _ hkey,
      Setting.step_updates, Dictionary.get?_insert, if_pos rfl]
    rfl
  have ha : Dictionary.Ascending (g.progress r).updates :=
    g.ascending_updates r Dictionary.ascending_nil g.plan.steps
  refine Dictionary.get?_insertAll_of_mem ?_ ?_ _
  · rw [Value.toMembers_eq_map]
    exact List.pairwise_map.2 ha.distinctKeys
  · rw [Value.toMembers_eq_map]
    exact List.mem_map_of_mem (f := fun m => (m.1, m.2.toJson)) (Dictionary.mem_of_get? hu)

theorem get?_valueMap (r : Record) (k : String) :
    Dictionary.get? r.valueMap k = (Dictionary.get? r.members k).map Value.ofJson := by
  rw [Record.valueMap, Value.ofMembers_eq_map, Dictionary.get?_map]

/-! ### Batches -/

/-- The records of a batch with the computed fields of a catalog filled in. -/
def computed (c : Catalog) (source : LinkedSource) (now : Moment) (rs : List Record) :
    List Record :=
  ((c.setting source now).compute rs).1

theorem computed_eq_map {s : Step} (hs : s ∈ c.steps) (rs : List Record) :
    c.computed source now rs = rs.map fun r => ((c.setting source now).computeRecord r).1 := by
  have he : (c.setting source now).plan.steps.isEmpty = false :=
    List.isEmpty_eq_false_iff_exists_mem.2 ⟨s, hs⟩
  rw [computed, Setting.compute, if_neg (by simp [he])]
  exact List.map_map

theorem getElem?_computed {s : Step} (hs : s ∈ c.steps) {rs : List Record} {i : Nat}
    (hr : rs[i]? = some r) :
    (c.computed source now rs)[i]? = some ((c.setting source now).computeRecord r).1 := by
  rw [computed_eq_map hs, List.getElem?_map, hr]
  rfl

/-- What the last step of a field comes to in its turn is found in each record of a batch. -/
theorem exists_written_of_last {s : Step} {before after : List Step}
    (turn : c.steps = before ++ s :: after) (last : ∀ t ∈ after, t.field.id ≠ s.field.id)
    {v : Value} (hv : (c.setting source now).value r.valueMap
      (before.foldl ((c.setting source now).step r) (Setting.start r)).working s = .ok v)
    {rs : List Record} {i : Nat} (hr : rs[i]? = some r) :
    ∃ out, (c.computed source now rs)[i]? = some out ∧
      Dictionary.get? out.members s.field.key = some v.toJson := by
  have hs : s ∈ c.steps := turn ▸ List.mem_append_right _ List.mem_cons_self
  have hw := get?_members_of_last (r := r) (g := c.setting source now) turn last
  rw [hv] at hw
  exact ⟨_, getElem?_computed hs hr, hw⟩

theorem computed_of_steps_eq_nil (hs : c.steps = []) (rs : List Record) :
    c.computed source now rs = rs := by
  have he : (c.setting source now).plan.steps.isEmpty = true := List.isEmpty_iff.2 hs
  rw [computed, Setting.compute, if_pos he]

end Catalog

end FieldCalc
