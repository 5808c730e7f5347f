import FieldCalc.Proofs.Compute.Reads

/-!
# Failing fields

A field that fails harms no other.  It gets null, and every record comes back with a value for it
all the same; and whatever becomes of the options of a field, only the lookups and rollups that
link through it, at once or over other lookups, notice (`computed_isolates`).
-/

namespace FieldCalc

/-- The field with its kind and options replaced, if it is the one with the identifier `i`. -/
def Field.withKind (i : Uuid) (k : FieldKind) (f : Field) : Field :=
  if f.id = i then { f with kind := k } else f

/-- The catalog with the kind and the options of a field replaced. -/
def Catalog.withKind (c : Catalog) (i : Uuid) (k : FieldKind) : Catalog :=
  List.map (Field.withKind i k) c

namespace Field

variable {i : Uuid} {k : FieldKind} {f : Field}

@[simp] theorem id_withKind : (f.withKind i k).id = f.id := by
  unfold withKind
  split <;> rfl

@[simp] theorem name_withKind : (f.withKind i k).name = f.name := by
  unfold withKind
  split <;> rfl

theorem withKind_of_ne (h : f.id ≠ i) : f.withKind i k = f := if_neg h

end Field

namespace Catalog

variable {c : Catalog} {i : Uuid} {k : FieldKind}

/-! ### Replacing a kind -/

theorem DistinctIds.withKind (h : c.DistinctIds) : (c.withKind i k).DistinctIds := by
  unfold DistinctIds Catalog.withKind at *
  simpa [Function.comp_def] using h

theorem map_id_named?_withKind (name : String) :
    (c.named? name).map Field.id = ((c.withKind i k).named? name).map Field.id := by
  unfold named? Catalog.withKind
  simp [List.find?_map, Function.comp_def]

theorem map_id_field?_withKind (j : Uuid) :
    (c.field? j).map Field.id = ((c.withKind i k).field? j).map Field.id := by
  unfold field? Catalog.withKind
  simp [List.find?_map, Function.comp_def]

theorem field?_withKind_of_ne {j : Uuid} (h : j ≠ i) : (c.withKind i k).field? j = c.field? j := by
  unfold field? Catalog.withKind
  rw [List.find?_map]
  simp only [Function.comp_def, Field.id_withKind]
  cases hf : List.find? (fun f => f.id == j) c with
  | none => rfl
  | some f =>
    have hj : f.id = j := by simpa using List.find?_some hf
    rw [Option.map_some, Field.withKind_of_ne (hj ▸ h)]

theorem resolve_withKind (v : ValueMap) : (c.withKind i k).resolve v = c.resolve v := by
  funext ref
  refine (resolve_eq (map_id_named?_withKind ref) ?_ rfl (fun _ _ => rfl) fun _ _ => rfl).symm
  cases Uuid.ofText? ref with
  | none => rfl
  | some j => exact map_id_field?_withKind j

/-- Fields with other identifiers are in the catalog as they were, in the same order. -/
theorem sublist_withKind {fs : List Field} (hfs : ∀ g ∈ fs, g.id ≠ i) :
    fs.Sublist (c.withKind i k) ↔ fs.Sublist c := by
  constructor
  · intro hs
    obtain ⟨gs, hgs, rfl⟩ := List.sublist_map_iff.1 hs
    have he : gs.map (Field.withKind i k) = gs.map id :=
      List.map_congr_left fun g hg => Field.withKind_of_ne fun hid =>
        hfs _ (List.mem_map_of_mem hg) (Field.id_withKind.trans hid)
    rwa [he, List.map_id]
  · intro hs
    have he : fs.map (Field.withKind i k) = fs.map id :=
      List.map_congr_left fun g hg => Field.withKind_of_ne (hfs g hg)
    rw [← List.map_id fs, ← he]
    exact hs.map _

theorem mem_withKind {g : Field} (hg : g.id ≠ i) : g ∈ c.withKind i k ↔ g ∈ c := by
  rw [← List.singleton_sublist, ← List.singleton_sublist]
  exact sublist_withKind fun g' hg' => List.mem_singleton.1 hg' ▸ hg

theorem mem_steps_withKind {s : Step} (hs : s.field.id ≠ i) :
    s ∈ (c.withKind i k).steps ↔ s ∈ c.steps := by
  rw [mem_steps, mem_steps, mem_withKind hs]

theorem freshRead_withKind {g h : Field} (hg : g.id ≠ i) (hh : h.id ≠ i) :
    (c.withKind i k).FreshRead g h ↔ c.FreshRead g h := by
  have hb : (c.withKind i k).Before h g ↔ c.Before h g := sublist_withKind (by simp [hg, hh])
  constructor
  · rintro ⟨⟨hgc, hhc, hl⟩, hlk, ho⟩
    exact ⟨⟨(mem_withKind hg).1 hgc, (mem_withKind hh).1 hhc, hl⟩, hlk,
      ho.imp_right (And.imp_right hb.1)⟩
  · rintro ⟨⟨hgc, hhc, hl⟩, hlk, ho⟩
    exact ⟨⟨(mem_withKind hg).2 hgc, (mem_withKind hh).2 hhc, hl⟩, hlk,
      ho.imp_right (And.imp_right hb.2)⟩

/-! ### What leads to a field -/

/-- A field links through `f`, at once or by way of lookups. -/
inductive LeadsTo (c : Catalog) (f : Field) : Field → Prop
  | direct {g : Field} : g.link? = some f.id → LeadsTo c f g
  | chain {g h : Field} : c.Links g h → h.isLookup → LeadsTo c f h → LeadsTo c f g

variable {source : LinkedSource} {now : Moment} {r : Record} {f : Field}

/-- Steps of fields that do not lead to a field come to the same whatever its kind is. -/
theorem DistinctIds.outcome_withKind (h : c.DistinctIds) {s : Step} (hs : s ∈ c.steps)
    (hne : s.field.id ≠ f.id) (hl : ¬ c.LeadsTo f s.field) :
    (c.setting source now).outcome r s =
      ((c.withKind f.id k).setting source now).outcome r s := by
  generalize hg : s.field = g at hne hl
  induction g using h.wellFounded_freshRead.induction generalizing s with
  | _ g ih =>
  subst hg
  have hlink : ∀ j, s.field.link? = some j → j ≠ f.id := fun j hj he => hl (.direct (he ▸ hj))
  refine Agree.outcome_eq ?_ h h.withKind hs ((mem_steps_withKind hne).2 hs)
  constructor
  case references =>
    intro φ resultType _
    exact ⟨rfl, fun ref _ => congrFun (resolve_withKind r.valueMap).symm ref⟩
  case field =>
    intro j hj
    exact (field?_withKind_of_ne (hlink j hj)).symm
  case fresh =>
    intro t ht hr
    have htne : t.field.id ≠ f.id := hlink _ hr.links.2.2
    have htl : ¬ c.LeadsTo f t.field := fun hc => hl (.chain hr.links hr.isLookup hc)
    refine ⟨(mem_steps_withKind htne).2 ht, (freshRead_withKind hne htne).2 hr, ?_⟩
    exact congrArg Setting.orNull (ih t.field hr ht rfl htne htl)
  case stored =>
    intro g _ hg _ hr
    exact ⟨fun hr' => hr ((freshRead_withKind hne (hlink g.id hg)).1 hr'), rfl⟩

/-- Every record comes back with what computing a field comes to, null where it fails.  Another
kind for the field changes the values of no other computed field, but of those that lead to it. -/
theorem computed_isolates (distinct : c.DistinctIds) (source : LinkedSource) (now : Moment)
    (rs : List Record) (hf : f ∈ c) (computed : f.isComputed) (k : FieldKind) :
    List.Forall₂ (fun r out => out.id = r.id ∧ out.table = r.table ∧
        ∃ s ∈ c.steps, s.field = f ∧ Dictionary.get? out.members f.key =
          some (match (c.setting source now).outcome r s with
            | .ok v => v.toJson
            | .error _ => .null))
      rs (c.computed source now rs) ∧
    List.Forall₂ (fun out out' => ∀ g ∈ c, g.isComputed → g ≠ f → ¬ c.LeadsTo f g →
        Dictionary.get? out.members g.key = Dictionary.get? out'.members g.key)
      (c.computed source now rs) ((c.withKind f.id k).computed source now rs) := by
  obtain ⟨s, hs, rfl⟩ := exists_step hf computed
  rw [computed_eq_map hs]
  constructor
  · refine List.forall₂_map_right_iff.2 (List.forall₂_same.2 fun r _ => ?_)
    refine ⟨rfl, rfl, s, hs, rfl, ?_⟩
    rw [distinct.get?_members_of_mem hs, Setting.result]
    cases (c.setting source now).outcome r s <;> rfl
  · rw [List.forall₂_map_left_iff]
    cases hc' : (c.withKind s.field.id k).steps with
    | nil =>
      -- nothing is computed any more, so the field was the only one
      rw [computed_of_steps_eq_nil hc']
      refine List.forall₂_same.2 fun r _ g hg hgc hne _ => ?_
      obtain ⟨t, ht, rfl⟩ := exists_step hg hgc
      have hid : t.field.id ≠ s.field.id := fun he => hne (distinct.eq_of_id hg hf he)
      have ht' := (mem_steps_withKind (k := k) hid).2 ht
      rw [hc'] at ht'
      cases ht'
    | cons s' _ =>
      have hs' : s' ∈ (c.withKind s.field.id k).steps := hc' ▸ List.mem_cons_self
      rw [computed_eq_map hs', List.forall₂_map_right_iff]
      refine List.forall₂_same.2 fun r _ g hg hgc hne hl => ?_
      obtain ⟨t, ht, rfl⟩ := exists_step hg hgc
      have hid : t.field.id ≠ s.field.id := fun he => hne (distinct.eq_of_id hg hf he)
      rw [distinct.get?_members_of_mem ht,
        distinct.withKind.get?_members_of_mem ((mem_steps_withKind hid).2 ht), Setting.result,
        Setting.result, distinct.outcome_withKind ht hid hl]

/-! ### An order whose prices cannot be looked up -/

namespace Purchase

def items : Field := ⟨.repeating 1, .repeating 0, "Items", .linkedRecord {}⟩

/-- A lookup that does not say what to show. -/
def prices : Field := ⟨.repeating 2, .repeating 0, "Prices", .lookup { linked := some items.id }⟩

def count : Field :=
  ⟨.repeating 3, .repeating 0, "Count", .rollup { linked := some items.id, function := "count" }⟩

def total : Field :=
  ⟨.repeating 4, .repeating 0, "Total", .rollup { linked := some prices.id, function := "sum" }⟩

def catalog : Catalog := [total, count, prices, items]

def record : Record :=
  ⟨.repeating 5, .repeating 0, .obj [(items.key, .str (Uuid.repeating 6).toText)]⟩

theorem not_leadsTo_count : ¬ catalog.LeadsTo prices count := by
  intro h
  cases h with
  | direct h => exact absurd h (by decide)
  | @chain _ h hl hk _ =>
    have hid : h.id = items.id := (Option.some.inj hl.2.2).symm
    have hm : h = total ∨ h = count ∨ h = prices ∨ h = items := by simpa [catalog] using hl.2.1
    rcases hm with rfl | rfl | rfl | rfl
    all_goals first | exact absurd hid (by decide) | exact absurd hk (by decide)

end Purchase

open Purchase in
theorem computed_isolates_prices :
    catalog.DistinctIds ∧ prices ∈ catalog ∧ prices.isComputed ∧
    List.Forall₂ (fun _ out => Dictionary.get? out.members prices.key = some .null)
      [record] (catalog.computed ⟨fun _ _ => .error (.fetch "offline")⟩ ⟨0, 0⟩ [record]) ∧
    List.Forall₂ (fun out out' =>
        Dictionary.get? out.members count.key = Dictionary.get? out'.members count.key)
      (catalog.computed ⟨fun _ _ => .error (.fetch "offline")⟩ ⟨0, 0⟩ [record])
      ((catalog.withKind prices.id (.plain .text)).computed
        ⟨fun _ _ => .error (.fetch "offline")⟩ ⟨0, 0⟩ [record]) := by
  have hd : catalog.DistinctIds := by decide
  have hp : prices ∈ catalog := by decide
  obtain ⟨h₁, h₂⟩ := computed_isolates hd ⟨fun _ _ => .error (.fetch "offline")⟩ ⟨0, 0⟩ [record] hp
    rfl (.plain .text)
  refine ⟨hd, hp, rfl, h₁.imp ?_, h₂.imp ?_⟩
  · rintro r out ⟨-, -, s, hs, hf, h⟩
    have hs' := (mem_steps.1 hs).2
    rw [hf] at hs'
    obtain rfl : ⟨prices, .lookup { linked := some items.id }⟩ = s := Option.some.inj hs'
    exact h
  · exact fun out out' h => h count (by decide) rfl (by decide) not_leadsTo_count

end Catalog

end FieldCalc
