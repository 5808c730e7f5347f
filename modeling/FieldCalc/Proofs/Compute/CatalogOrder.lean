import FieldCalc.Proofs.Compute.Reads
import Mathlib.Data.List.Find

/-!
# The order of a catalog

What is computed does not depend on where the fields stand in their catalog, except that a lookup
that links through another finds its fresh value only behind it.  Each step reads the same in both
orders, so the steps write the same under the same keys, and it does not matter in which order they
do (`computed_eq_of_perm`).
-/

namespace FieldCalc

namespace Catalog

variable {c c' : Catalog}

/-- No two fields have the same name. -/
def DistinctNames (c : Catalog) : Prop := (List.map Field.name c).Nodup

instance : Decidable c.DistinctNames := inferInstanceAs (Decidable (List.Nodup _))

instance {f h : Field} : Decidable (c.Before f h) := inferInstanceAs (Decidable (List.Sublist _ _))

/-! ### The same fields -/

theorem DistinctIds.perm (h : c.DistinctIds) (p : c.Perm c') : c'.DistinctIds :=
  (List.Perm.map Field.id p).nodup_iff.1 h

theorem DistinctIds.field?_eq_of_perm (h : c.DistinctIds) (p : c.Perm c') (i : Uuid) :
    c.field? i = c'.field? i := by
  refine List.find?_eq_find?_of_perm p ?_
  rintro f ⟨hf, hfi⟩ g ⟨hg, hgi⟩
  exact h.eq_of_id hf hg ((beq_iff_eq.1 hfi).trans (beq_iff_eq.1 hgi).symm)

theorem DistinctNames.named?_eq_of_perm (h : c.DistinctNames) (p : c.Perm c') (name : String) :
    c.named? name = c'.named? name := by
  refine List.find?_eq_find?_of_perm p ?_
  rintro f ⟨hf, hfn⟩ g ⟨hg, hgn⟩
  exact List.inj_on_of_nodup_map h hf hg ((beq_iff_eq.1 hfn).trans (beq_iff_eq.1 hgn).symm)

theorem resolve_eq_of_perm (ids : c.DistinctIds) (names : c.DistinctNames) (p : c.Perm c')
    (v : ValueMap) : c.resolve v = c'.resolve v := by
  funext ref
  refine resolve_eq ?_ ?_ rfl (fun _ _ => rfl) fun _ _ => rfl
  · rw [names.named?_eq_of_perm p]
  · rw [funext (ids.field?_eq_of_perm p)]

theorem perm_steps (p : c.Perm c') : c.steps.Perm c'.steps := by
  rw [steps_eq, steps_eq]
  exact ((p.filterMap _).append (p.filterMap _)).append (p.filterMap _)

theorem Links.perm {f h : Field} (hl : c.Links f h) (p : c.Perm c') : c'.Links f h :=
  ⟨p.subset hl.1, p.subset hl.2.1, hl.2.2⟩

/-! ### The same order of lookups -/

/-- Lookups that link through each other stand in the same order in both catalogs. -/
def SameLookupOrder (c c' : Catalog) : Prop :=
  ∀ f h, c.Links f h → f.isLookup → h.isLookup → (c.Before h f ↔ c'.Before h f)

theorem SameLookupOrder.freshRead_iff (o : c.SameLookupOrder c') (p : c.Perm c') {f h : Field} :
    c.FreshRead f h ↔ c'.FreshRead f h := by
  constructor
  · rintro ⟨hl, hh, ho⟩
    exact ⟨hl.perm p, hh, ho.imp_right fun ⟨hf, hb⟩ => ⟨hf, (o f h hl hf hh).1 hb⟩⟩
  · rintro ⟨hl, hh, ho⟩
    have hl' := hl.perm p.symm
    exact ⟨hl', hh, ho.imp_right fun ⟨hf, hb⟩ => ⟨hf, (o f h hl' hf hh).2 hb⟩⟩

variable {source : LinkedSource} {now : Moment} {r : Record}

/-- In both orders a step comes to the same. -/
theorem SameLookupOrder.outcome_eq (o : c.SameLookupOrder c') (ids : c.DistinctIds)
    (names : c.DistinctNames) (p : c.Perm c') {s : Step} (hs : s ∈ c.steps) :
    (c.setting source now).outcome r s = (c'.setting source now).outcome r s := by
  generalize hg : s.field = g
  induction g using ids.wellFounded_freshRead.induction generalizing s with
  | _ g ih =>
  subst hg
  have hmem : ∀ {t : Step}, t ∈ c.steps → t ∈ c'.steps := fun ht => (perm_steps p).subset ht
  refine Agree.outcome_eq ?_ ids (ids.perm p) hs (hmem hs)
  constructor
  case references =>
    intro φ resultType _
    exact ⟨rfl, fun ref _ => congrFun (resolve_eq_of_perm ids names p r.valueMap) ref⟩
  case field =>
    exact fun i _ => ids.field?_eq_of_perm p i
  case fresh =>
    intro t ht hr
    exact ⟨hmem ht, (o.freshRead_iff p).1 hr, congrArg Setting.orNull (ih t.field hr ht rfl)⟩
  case stored =>
    intro f _ _ _ hr
    exact ⟨fun hr' => hr ((o.freshRead_iff p).2 hr'), rfl⟩

theorem SameLookupOrder.perm_written (o : c.SameLookupOrder c') (ids : c.DistinctIds)
    (names : c.DistinctNames) (p : c.Perm c') :
    (c.written (c.setting source now) r).Perm (c'.written (c'.setting source now) r) := by
  have he : c.written (c.setting source now) r =
      c.steps.map fun s => (s.field.key, ((c'.setting source now).result r s).toJson) := by
    refine List.map_congr_left fun s hs => ?_
    rw [Setting.result, Setting.result, o.outcome_eq ids names p hs]
  rw [he]
  exact (perm_steps p).map _

/-- Two catalogs of the same fields compute the same records if lookups that link through each
other stand in the same order in both.  Wherever the two stand, a rollup finds the value that a
lookup which it links through gets in the same pass. -/
theorem computed_eq_of_perm (ids : c.DistinctIds) (names : c.DistinctNames) (perm : c.Perm c')
    (order : c.SameLookupOrder c') (source : LinkedSource) (now : Moment) (rs : List Record) :
    c.computed source now rs = c'.computed source now rs ∧
      ∀ r ∈ rs, ∀ s ∈ c.steps, ∀ t ∈ c.steps, s.field.isRollup → t.field.isLookup →
        c.Links s.field t.field →
          Dictionary.get? ((c.setting source now).before r s).working t.field.key =
            some ((c.setting source now).result r t) := by
  have hp := perm_steps perm
  constructor
  · cases hs : c.steps with
    | nil =>
      have hs' : c'.steps = [] := List.nil_perm.1 (hs ▸ hp)
      rw [computed_of_steps_eq_nil hs, computed_of_steps_eq_nil hs']
    | cons s _ =>
      have hm : s ∈ c.steps := hs ▸ List.mem_cons_self
      rw [computed_eq_map hm, computed_eq_map (hp.subset hm)]
      refine List.map_congr_left fun r _ => ?_
      rw [ids.computeRecord_fst, (ids.perm perm).computeRecord_fst,
        Dictionary.insertAll_eq_of_perm (ids.distinctKeys_written _ r)
          (order.perm_written ids names perm)]
  · intro r _ s hs t ht hr hl hlink
    exact ids.get?_before_of_freshRead hs ht ⟨hlink, hl, .inl hr⟩

/-! ### A loan with its author counted -/

namespace Loan

def book : Field := ⟨.repeating 1, .repeating 0, "Book", .linkedRecord {}⟩

def author : Field :=
  ⟨.repeating 2, .repeating 0, "Author",
    .lookup { linked := some book.id, target := some (.repeating 8) }⟩

def country : Field :=
  ⟨.repeating 3, .repeating 0, "Country",
    .lookup { linked := some author.id, target := some (.repeating 9) }⟩

def authors : Field :=
  ⟨.repeating 4, .repeating 0, "Authors",
    .rollup { linked := some author.id, function := "count" }⟩

def title : Field :=
  ⟨.repeating 5, .repeating 0, "Title", .formula { expression := "\x7bBook\x7d" }⟩

end Loan

open Loan in
theorem computed_eq_of_perm_loan :
    let c : Catalog := [authors, title, author, country, book]
    let c' : Catalog := [book, author, title, country, authors]
    c.DistinctIds ∧ c.DistinctNames ∧ c.Perm c' ∧ c.SameLookupOrder c' ∧
      ∀ source now rs, c.computed source now rs = c'.computed source now rs := by
  intro c c'
  have ids : c.DistinctIds := by decide
  have names : c.DistinctNames := by decide
  have perm : c.Perm c' := by decide
  have order : c.SameLookupOrder c' := by
    have ho : ∀ f ∈ c, ∀ h ∈ c, f.link? = some h.id → f.isLookup → h.isLookup →
        (c.Before h f ↔ c'.Before h f) := by decide
    exact fun f h hl => ho f hl.1 h hl.2.1 hl.2.2
  exact ⟨ids, names, perm, order, fun source now rs =>
    (computed_eq_of_perm ids names perm order source now rs).1⟩

end Catalog

end FieldCalc
