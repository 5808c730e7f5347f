import FieldCalc.Compute.Plan
import FieldCalc.Proofs.Lists
import Mathlib.Order.WellFounded

/-!
# Links between fields

Which field a lookup or a rollup links through, and which values it finds there.  The steps of a
plan are taken in an order in which a linked lookup comes first where a rollup follows it, or where
it stands earlier in the catalog; then the value that it gets in the same pass is read
(`Catalog.FreshRead`).  Everywhere else a stored value is.  Reading fresh values goes back along the
order of the steps, so it ends (`wellFounded_freshRead`).
-/

namespace FieldCalc

/-! ### Positions in a list -/

section Positions

variable {α : Type} {l l₁ l₂ : List α} {a b c : α}

/-- In a list without repetitions, what stands before `b` is what is in front of it. -/
theorem pair_sublist_iff_mem (h : (l₁ ++ b :: l₂).Nodup) :
    [a, b].Sublist (l₁ ++ b :: l₂) ↔ a ∈ l₁ := by
  have hb : b ∉ l₁ := fun hm => (List.disjoint_of_nodup_append h) hm List.mem_cons_self
  have hb' : b ∉ l₂ := (List.nodup_cons.1 (List.nodup_append.1 h).2.1).1
  constructor
  · intro hs
    obtain ⟨m₁, m₂, he, h₁, h₂⟩ := List.sublist_append_iff.1 hs
    rcases m₁ with _ | ⟨x, m₁⟩
    · have he : m₂ = [a, b] := he.symm
      rw [he] at h₂
      cases h₂ with
      | cons _ h₂ => exact absurd (h₂.subset (by simp)) hb'
      | cons_cons _ h₂ => exact absurd (h₂.subset (by simp)) hb'
    · obtain rfl : a = x := (List.cons.inj he).1
      exact h₁.subset List.mem_cons_self
  · intro ha
    exact (List.singleton_sublist.2 ha).append (List.singleton_sublist.2 List.mem_cons_self)

theorem pair_sublist_iff_exists (h : l.Nodup) :
    [a, b].Sublist l ↔ ∃ l₁ l₂, l = l₁ ++ b :: l₂ ∧ a ∈ l₁ := by
  constructor
  · intro hs
    obtain ⟨l₁, l₂, rfl⟩ := List.append_of_mem (hs.subset (by simp : b ∈ [a, b]))
    exact ⟨l₁, l₂, rfl, (pair_sublist_iff_mem h).1 hs⟩
  · rintro ⟨l₁, l₂, rfl, ha⟩
    exact (pair_sublist_iff_mem h).2 ha

/-- Of two members of a list that differ, one stands before the other. -/
theorem pair_sublist_total (ha : a ∈ l) (hb : b ∈ l) (hne : a ≠ b) :
    [a, b].Sublist l ∨ [b, a].Sublist l := by
  obtain ⟨l₁, l₂, rfl⟩ := List.append_of_mem hb
  rcases List.mem_append.1 ha with ha | ha
  · exact .inl ((List.singleton_sublist.2 ha).append (List.singleton_sublist.2 List.mem_cons_self))
  · refine .inr (List.Sublist.trans ?_ (List.sublist_append_right l₁ _))
    exact (List.singleton_sublist.2 ((List.mem_cons.1 ha).resolve_left hne)).cons_cons b

theorem pair_sublist_asymm (h : l.Nodup) (hs : [a, b].Sublist l) : ¬ [b, a].Sublist l := by
  intro hs'
  obtain ⟨l₁, l₂, rfl, ha⟩ := (pair_sublist_iff_exists h).1 hs
  obtain ⟨m₁, m₂, rfl⟩ := List.append_of_mem ha
  rw [List.append_assoc, List.cons_append] at h hs'
  have hb : b ∈ m₁ := (pair_sublist_iff_mem h).1 hs'
  exact List.disjoint_of_nodup_append h hb (by simp)

variable [DecidableEq α]

theorem idxOf_lt_of_pair_sublist (h : l.Nodup) (hs : [a, b].Sublist l) :
    l.idxOf a < l.idxOf b := by
  obtain ⟨l₁, l₂, rfl, ha⟩ := (pair_sublist_iff_exists h).1 hs
  have hb : b ∉ l₁ := fun hm => List.disjoint_of_nodup_append h hm List.mem_cons_self
  rw [List.idxOf_append_of_mem ha, List.idxOf_append_of_notMem hb]
  exact Nat.lt_of_lt_of_le (List.idxOf_lt_length_of_mem ha) (Nat.le_add_right _ _)

end Positions

/-! ### Computed fields and their steps -/

/-- The identifier with the same digit everywhere. -/
def Uuid.repeating (n : Nat) : Uuid :=
  ⟨List.replicate 32 ⟨n % 16, Nat.mod_lt n (by decide)⟩, List.length_replicate⟩

namespace Field

def isLookup (f : Field) : Bool :=
  match f.kind with
  | .lookup _ => true
  | _ => false

def isRollup (f : Field) : Bool :=
  match f.kind with
  | .rollup _ => true
  | _ => false

/-- The field that a lookup or a rollup links through. -/
def link? (f : Field) : Option Uuid :=
  match f.kind with
  | .lookup o => o.linked
  | .rollup o => o.linked
  | _ => none

theorem isLookup_or_isRollup {f : Field} {id : Uuid} (h : f.link? = some id) :
    f.isLookup ∨ f.isRollup := by
  unfold link? at h
  unfold isLookup isRollup
  split at h <;> simp_all

theorem isComputed_of_link? {f : Field} {id : Uuid} (h : f.link? = some id) : f.isComputed := by
  unfold link? at h
  unfold isComputed
  split at h <;> simp_all

theorem isComputed_of_isLookup {f : Field} (h : f.isLookup) : f.isComputed := by
  unfold isLookup at h
  unfold isComputed
  split at h <;> simp_all

theorem isLookup_of_holdsRecordIds {f : Field} (h : f.holdsRecordIds) (hc : f.isComputed) :
    f.isLookup := by
  unfold holdsRecordIds at h
  unfold isComputed at hc
  unfold isLookup
  split at h <;> simp_all

/-- The key that a field has in a record's document. -/
def key (f : Field) : String := f.id.toText

theorem key_injective {f g : Field} (h : f.key = g.key) : f.id = g.id := Uuid.toText_injective h

end Field

/-- The turn in which tasks of a kind are carried out. -/
def Task.turn : Task → Nat
  | .formula _ _ => 0
  | .lookup _ => 1
  | .rollup _ _ => 2

namespace Step

/-- How a computed field gets its value. -/
def of? (f : Field) : Option Step := ((formula? f).or (lookup? f)).or (rollup? f)

theorem isSome_of? (f : Field) : (of? f).isSome = f.isComputed := by
  unfold of? formula? lookup? rollup? Field.isComputed
  cases f.kind <;> rfl

theorem of_formula? {f : Field} {s : Step} (h : formula? f = some s) :
    s.field = f ∧ s.task.turn = 0 := by
  unfold formula? at h
  split at h <;> cases h
  exact ⟨rfl, rfl⟩

theorem of_lookup? {f : Field} {s : Step} (h : lookup? f = some s) :
    s.field = f ∧ s.task.turn = 1 := by
  unfold lookup? at h
  split at h <;> cases h
  exact ⟨rfl, rfl⟩

theorem of_rollup? {f : Field} {s : Step} (h : rollup? f = some s) :
    s.field = f ∧ s.task.turn = 2 := by
  unfold rollup? at h
  split at h <;> cases h
  exact ⟨rfl, rfl⟩

theorem of?_eq_some_iff {f : Field} {s : Step} :
    of? f = some s ↔ formula? f = some s ∨ lookup? f = some s ∨ rollup? f = some s := by
  unfold of? formula? lookup? rollup?
  cases f.kind <;> simp

theorem field_of_of? {f : Field} {s : Step} (h : of? f = some s) : s.field = f := by
  rcases of?_eq_some_iff.1 h with h | h | h
  · exact (of_formula? h).1
  · exact (of_lookup? h).1
  · exact (of_rollup? h).1

/-- A step by the kind of its field. -/
theorem of?_cases {f : Field} {s : Step} (h : of? f = some s) :
    (∃ o, f.kind = .formula o ∧
        s = ⟨f, .formula (Formula.compile o.expression) o.resultType⟩) ∨
      (∃ o, f.kind = .lookup o ∧ s = ⟨f, .lookup o⟩) ∨
      ∃ o, f.kind = .rollup o ∧ s = ⟨f, .rollup o (Aggregation.ofName o.function)⟩ := by
  unfold of? formula? lookup? rollup? at h
  cases hk : f.kind <;> simp_all

theorem lookup?_eq_some {f : Field} {s : Step} (h : of? f = some s) (hl : f.isLookup) :
    lookup? f = some s := by
  unfold of? formula? lookup? rollup? at h
  unfold Field.isLookup at hl
  unfold lookup?
  split at hl <;> simp_all

theorem rollup?_eq_some {f : Field} {s : Step} (h : of? f = some s) (hr : f.isRollup) :
    rollup? f = some s := by
  unfold of? formula? lookup? rollup? at h
  unfold Field.isRollup at hr
  unfold rollup?
  split at hr <;> simp_all

end Step

namespace Catalog

variable {c : Catalog}

/-- The steps of computing a record. -/
def steps (c : Catalog) : List Step := (Plan.ofCatalog c).steps

theorem steps_eq (c : Catalog) : c.steps =
    List.filterMap Step.formula? c ++ List.filterMap Step.lookup? c ++
      List.filterMap Step.rollup? c := rfl

theorem mem_steps {s : Step} : s ∈ c.steps ↔ s.field ∈ c ∧ Step.of? s.field = some s := by
  simp only [steps_eq, List.mem_append, List.mem_filterMap, Step.of?_eq_some_iff]
  constructor
  · rintro ((⟨f, hf, h⟩ | ⟨f, hf, h⟩) | ⟨f, hf, h⟩)
    · obtain ⟨rfl, -⟩ := Step.of_formula? h
      exact ⟨hf, .inl h⟩
    · obtain ⟨rfl, -⟩ := Step.of_lookup? h
      exact ⟨hf, .inr (.inl h)⟩
    · obtain ⟨rfl, -⟩ := Step.of_rollup? h
      exact ⟨hf, .inr (.inr h)⟩
  · rintro ⟨hf, h | h | h⟩
    · exact .inl (.inl ⟨_, hf, h⟩)
    · exact .inl (.inr ⟨_, hf, h⟩)
    · exact .inr ⟨_, hf, h⟩

theorem mem_steps_of_formula {f : Field} {o : FormulaOptions} (hf : f ∈ c)
    (hk : f.kind = .formula o) :
    ⟨f, .formula (Formula.compile o.expression) o.resultType⟩ ∈ c.steps := by
  refine mem_steps.2 ⟨hf, ?_⟩
  simp [Step.of?, Step.formula?, hk]

theorem mem_steps_of_lookup {f : Field} {o : LookupOptions} (hf : f ∈ c) (hk : f.kind = .lookup o) :
    ⟨f, .lookup o⟩ ∈ c.steps := by
  refine mem_steps.2 ⟨hf, ?_⟩
  simp [Step.of?, Step.formula?, Step.lookup?, hk]

theorem mem_steps_of_rollup {f : Field} {o : RollupOptions} (hf : f ∈ c) (hk : f.kind = .rollup o) :
    ⟨f, .rollup o (Aggregation.ofName o.function)⟩ ∈ c.steps := by
  refine mem_steps.2 ⟨hf, ?_⟩
  simp [Step.of?, Step.formula?, Step.lookup?, Step.rollup?, hk]

/-- No two fields have the same identifier. -/
def DistinctIds (c : Catalog) : Prop := (List.map Field.id c).Nodup

instance : Decidable c.DistinctIds := inferInstanceAs (Decidable (List.Nodup _))

theorem DistinctIds.nodup (h : c.DistinctIds) : c.Nodup := List.Nodup.of_map _ h

theorem DistinctIds.eq_of_id (h : c.DistinctIds) {f g : Field} (hf : f ∈ c) (hg : g ∈ c)
    (he : f.id = g.id) : f = g := List.inj_on_of_nodup_map h hf hg he

theorem DistinctIds.field?_eq_some_iff (h : c.DistinctIds) {id : Uuid} {f : Field} :
    c.field? id = some f ↔ f ∈ c ∧ f.id = id := find?_key_eq_some_iff h

theorem step_eq_of_field {s t : Step} (hs : s ∈ c.steps) (ht : t ∈ c.steps)
    (h : s.field = t.field) : s = t := by
  have hs' := (mem_steps.1 hs).2
  rw [h, (mem_steps.1 ht).2] at hs'
  exact (Option.some.inj hs').symm

theorem DistinctIds.step_eq (h : c.DistinctIds) {s t : Step} (hs : s ∈ c.steps) (ht : t ∈ c.steps)
    (he : s.field.id = t.field.id) : s = t :=
  step_eq_of_field hs ht (h.eq_of_id (mem_steps.1 hs).1 (mem_steps.1 ht).1 he)

/-- The steps of one turn. -/
theorem filterMap_step {step? : Field → Option Step} {n : Nat}
    (hstep : ∀ {f s}, step? f = some s → s.field = f ∧ s.task.turn = n) (h : c.Nodup) :
    (List.filterMap step? c).Nodup ∧ ∀ s ∈ List.filterMap step? c, s.task.turn = n := by
  constructor
  · exact h.filterMap fun _ _ _ hf hg => (hstep hf).1.symm.trans (hstep hg).1
  · intro s hs
    obtain ⟨f, -, hf⟩ := List.mem_filterMap.1 hs
    exact (hstep hf).2

theorem DistinctIds.nodup_steps (h : c.DistinctIds) : c.steps.Nodup := by
  obtain ⟨hf, tf⟩ := filterMap_step Step.of_formula? h.nodup
  obtain ⟨hl, tl⟩ := filterMap_step Step.of_lookup? h.nodup
  obtain ⟨hr, tr⟩ := filterMap_step Step.of_rollup? h.nodup
  rw [steps_eq]
  refine (hf.append hl fun s hs ht => ?_).append hr fun s hs ht => ?_
  · have := (tf s hs).symm.trans (tl s ht)
    omega
  · have := tr s ht
    rcases List.mem_append.1 hs with hs | hs
    · have := tf s hs
      omega
    · have := tl s hs
      omega

/-- `f` links through the field `h` of the catalog. -/
def Links (c : Catalog) (f h : Field) : Prop := f ∈ c ∧ h ∈ c ∧ f.link? = some h.id

/-- `f` stands before `g`. -/
def Before (c : Catalog) (f g : Field) : Prop := [f, g].Sublist c

/-- `f` links through the lookup `h` and finds the value that `h` gets in the same pass. -/
structure FreshRead (c : Catalog) (f h : Field) : Prop where
  links : c.Links f h
  isLookup : h.isLookup
  order : f.isRollup ∨ f.isLookup ∧ c.Before h f

theorem exists_step {f : Field} (hf : f ∈ c) (h : f.isComputed) : ∃ s ∈ c.steps, s.field = f := by
  rw [← Step.isSome_of?, Option.isSome_iff_exists] at h
  obtain ⟨s, hs⟩ := h
  obtain rfl := Step.field_of_of? hs
  exact ⟨s, mem_steps.2 ⟨hf, hs⟩, rfl⟩

theorem Before.sublist_steps {s t : Step} (h : c.Before t.field s.field)
    (hs : Step.lookup? s.field = some s) (ht : Step.lookup? t.field = some t) :
    [t, s].Sublist c.steps := by
  have hl : [t, s].Sublist (List.filterMap Step.lookup? c) := by
    simpa [hs, ht] using List.Sublist.filterMap Step.lookup? h
  rw [steps_eq]
  exact (hl.trans (List.sublist_append_right _ _)).trans (List.sublist_append_left _ _)

theorem FreshRead.sublist_steps {s t : Step} (hs : s ∈ c.steps) (ht : t ∈ c.steps)
    (h : c.FreshRead s.field t.field) : [t, s].Sublist c.steps := by
  have htl := Step.lookup?_eq_some (mem_steps.1 ht).2 h.isLookup
  rcases h.order with hr | ⟨hl, hb⟩
  · have hsr := Step.rollup?_eq_some (mem_steps.1 hs).2 hr
    rw [steps_eq]
    have ht' : [t].Sublist (List.filterMap Step.formula? c ++ List.filterMap Step.lookup? c) :=
      List.singleton_sublist.2
        (List.mem_append_right _ (List.mem_filterMap.2 ⟨_, h.links.2.1, htl⟩))
    exact ht'.append (List.singleton_sublist.2 (List.mem_filterMap.2 ⟨_, h.links.1, hsr⟩))
  · exact hb.sublist_steps (Step.lookup?_eq_some (mem_steps.1 hs).2 hl) htl

/-- A linked lookup is computed first exactly if its fresh value is read. -/
theorem DistinctIds.pair_sublist_steps_iff (h : c.DistinctIds) {s t : Step} (hs : s ∈ c.steps)
    (ht : t ∈ c.steps) (hlink : s.field.link? = some t.field.id) (hl : t.field.isLookup) :
    [t, s].Sublist c.steps ↔ c.FreshRead s.field t.field := by
  refine ⟨fun hts => ?_, FreshRead.sublist_steps hs ht⟩
  refine ⟨⟨(mem_steps.1 hs).1, (mem_steps.1 ht).1, hlink⟩, hl, ?_⟩
  rcases Field.isLookup_or_isRollup hlink with hsl | hsr
  · refine .inr ⟨hsl, ?_⟩
    have hsl' := Step.lookup?_eq_some (mem_steps.1 hs).2 hsl
    have htl' := Step.lookup?_eq_some (mem_steps.1 ht).2 hl
    by_cases he : t.field = s.field
    · obtain rfl := step_eq_of_field ht hs he
      exact absurd hts (pair_sublist_asymm h.nodup_steps hts)
    · refine (pair_sublist_total (mem_steps.1 ht).1 (mem_steps.1 hs).1 he).resolve_right ?_
      intro (hst : c.Before s.field t.field)
      exact pair_sublist_asymm h.nodup_steps hts (hst.sublist_steps htl' hsl')
  · exact .inl hsr

theorem isComputed_of_mem_steps {s : Step} (hs : s ∈ c.steps) : s.field.isComputed := by
  rw [← Step.isSome_of?, (mem_steps.1 hs).2]
  rfl

/-- Every fresh value that is read was computed by an earlier step. -/
theorem DistinctIds.wellFounded_freshRead (h : c.DistinctIds) :
    WellFounded fun g f => c.FreshRead f g := by
  refine Subrelation.wf (r := InvImage (· < ·) fun f => (c.steps.map Step.field).idxOf f) ?_
    (InvImage.wf _ Nat.lt_wfRel.wf)
  intro g f hfg
  obtain ⟨s, hs, rfl⟩ := exists_step hfg.links.1 (Field.isComputed_of_link? hfg.links.2.2)
  obtain ⟨t, ht, rfl⟩ := exists_step hfg.links.2.1 (Field.isComputed_of_isLookup hfg.isLookup)
  refine idxOf_lt_of_pair_sublist ?_ ((hfg.sublist_steps hs ht).map Step.field)
  exact h.nodup_steps.map_on fun s hs t ht => step_eq_of_field hs ht

end Catalog

end FieldCalc
