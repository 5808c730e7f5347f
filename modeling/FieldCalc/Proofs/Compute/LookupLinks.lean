import FieldCalc.Proofs.Compute.Reads
import Mathlib.Algebra.Ring.Nat
import Mathlib.Data.List.Basic

/-!
# Links through lookups

Which records a rollup follows that links through a lookup.  The lookup holds a single fetched value
bare and several in a list, and a list links by its items only: an item is a text or an object, not
a list again.  So each fetched value adds what it links to, by itself if it is the only one and as
an item otherwise (`recordIds_bare`), and a count is the sum of these
(`computed_count_through_lookup`).  For values that are neither lists of links nor objects with one
it does not matter how many were fetched (`recordIds_list_singleton_eq_iff`).
-/

namespace FieldCalc

/-! ### Single values and items -/

theorem recordIds_list_singleton (v : Value) : recordIds (.list [v]) = (linkItem? v).toList := by
  cases h : linkItem? v <;> simp [recordIds, h]

/-- The records that a lookup links to by way of one of the `n` values that it fetched. -/
def fetchedIds (n : Nat) (v : Value) : List Uuid :=
  if n = 1 then recordIds v else recordIds (.list [v])

theorem recordIds_bare (vs : List Value) :
    recordIds (Setting.bare vs) = vs.flatMap (fetchedIds vs.length) := by
  by_cases h : vs.length = 1
  · obtain ⟨v, rfl⟩ := List.length_eq_one_iff.1 h
    simp [Setting.bare, fetchedIds]
  · have hb : Setting.bare vs = .list vs := by
      unfold Setting.bare
      split
      · exact absurd rfl h
      · rfl
    have hi : fetchedIds vs.length = fun v => (linkItem? v).toList := by
      funext v
      rw [fetchedIds, if_neg h, recordIds_list_singleton]
    rw [hb, hi]
    exact List.filterMap_eq_flatMap_toList _ _

/-- A value that is neither a list of links nor an object with one. -/
def Value.LinksAlike : Value → Prop
  | .list items => items.filterMap linkItem? = []
  | .object members => linkItem? (.object members) = none
  | _ => True

/-- These are the values that link to the same by themselves and as items. -/
theorem recordIds_list_singleton_eq_iff {v : Value} :
    recordIds (.list [v]) = recordIds v ↔ v.LinksAlike := by
  rw [recordIds_list_singleton]
  cases v with
  | null => exact iff_of_true rfl trivial
  | bool _ => exact iff_of_true rfl trivial
  | number _ => exact iff_of_true rfl trivial
  | text _ => exact iff_of_true rfl trivial
  | list items => exact eq_comm
  | object members => exact Option.toList_eq_nil_iff

theorem fetchedIds_of_linksAlike {v : Value} (h : v.LinksAlike) (n : Nat) :
    fetchedIds n v = recordIds v := by
  unfold fetchedIds
  split
  · rfl
  · exact recordIds_list_singleton_eq_iff.2 h

theorem fetchedIds_eq_recordIds {vs : List Value} (h : vs.length = 1 ∨ ∀ v ∈ vs, v.LinksAlike) :
    ∀ v ∈ vs, fetchedIds vs.length v = recordIds v := by
  intro v hv
  rcases h with h | h
  · exact if_pos h
  · exact fetchedIds_of_linksAlike (h v hv) _

/-! ### Lookups in their turn -/

namespace Setting

/-- The records that a step follows through a field in its turn. -/
def followed (g : Setting) (r : Record) (s : Step) (linked : Uuid) :
    Except FieldError (List Uuid) :=
  g.linkedIds (g.before r s).working s.field.id linked

/-- The lookup `f` fetches the values `vs` in its turn. -/
def Fetches (g : Setting) (r : Record) (f : Field) (o : LookupOptions) (vs : List Value) : Prop :=
  ∃ linked target ids, o.linked = some linked ∧ o.target = some target ∧
    g.followed r ⟨f, .lookup o⟩ linked = .ok ids ∧ ids ≠ [] ∧ g.source.fetch ids target = .ok vs

variable {g : Setting} {r : Record} {f : Field}

theorem linkedIds_eq_ok {working : ValueMap} {field linked : Uuid} {v : Value}
    (hf : g.plan.catalog.field? linked = some f) (hh : f.holdsRecordIds)
    (hv : Dictionary.get? working linked.toText = some v) :
    g.linkedIds working field linked = .ok (recordIds v) := by
  simp [linkedIds, hf, hh, hv]

theorem lookupValue_eq_ok {working : ValueMap} {field linked target : Uuid} {o : LookupOptions}
    {ids : List Uuid} {vs : List Value} (hl : o.linked = some linked) (ht : o.target = some target)
    (hids : g.linkedIds working field linked = .ok ids) (hne : ids ≠ [])
    (hvs : g.source.fetch ids target = .ok vs) : g.lookupValue working field o = .ok (bare vs) := by
  cases ids with
  | nil => exact absurd rfl hne
  | cons id ids =>
    simp only [lookupValue, hl, ht, required, bind, Except.bind, hids, hvs]
    rfl

/-- Linked records are counted without being fetched. -/
theorem rollupValue_count {working : ValueMap} {field linked : Uuid} {o : RollupOptions}
    {ids : List Uuid} (hl : o.linked = some linked)
    (hids : g.linkedIds working field linked = .ok ids) :
    g.rollupValue working field o (.ok .count) = .ok (.number (Number.ofNat ids.length)) := by
  simp only [rollupValue, hl, required, bind, Except.bind, hids]
  rfl

/-- Any other aggregation brings together what is fetched from them. -/
theorem rollupValue_of_ne_count {working : ValueMap} {field linked target : Uuid}
    {o : RollupOptions} {a : Aggregation} {ids : List Uuid} {vs : List Value} (ha : a ≠ .count)
    (hl : o.linked = some linked) (ht : o.target = some target)
    (hids : g.linkedIds working field linked = .ok ids) (hne : ids ≠ [])
    (hvs : g.source.fetch ids target = .ok vs) :
    g.rollupValue working field o (.ok a) = .ok (a.apply vs) := by
  cases ids with
  | nil => exact absurd rfl hne
  | cons id ids =>
    simp only [rollupValue, hl, ht, required, bind, Except.bind, hids, if_neg ha, hvs]
    rfl

theorem Fetches.outcome_eq {o : LookupOptions} {vs : List Value} (h : g.Fetches r f o vs) :
    g.outcome r ⟨f, .lookup o⟩ = .ok (bare vs) := by
  obtain ⟨linked, target, ids, hl, ht, hids, hne, hvs⟩ := h
  exact lookupValue_eq_ok hl ht hids hne hvs

theorem outcome_count {o : RollupOptions} {linked : Uuid} {ids : List Uuid}
    (hl : o.linked = some linked)
    (hids : g.followed r ⟨f, .rollup o (.ok .count)⟩ linked = .ok ids) :
    g.outcome r ⟨f, .rollup o (.ok .count)⟩ = .ok (.number (Number.ofNat ids.length)) :=
  rollupValue_count hl hids

end Setting

/-! ### Rollups of lookups -/

namespace Catalog

variable {c : Catalog} {source : LinkedSource} {now : Moment} {r : Record}

/-- A rollup follows the values that the lookup it links through has fetched. -/
theorem DistinctIds.followed_lookup (h : c.DistinctIds) {f g : Field} {o : LookupOptions}
    {ro : RollupOptions} (hf : f ∈ c) (hfk : f.kind = .lookup o) (hg : g ∈ c)
    (hgk : g.kind = .rollup ro) (hl : ro.linked = some f.id) {vs : List Value}
    (fetched : (c.setting source now).Fetches r f o vs) :
    (c.setting source now).followed r ⟨g, .rollup ro (Aggregation.ofName ro.function)⟩ f.id =
      .ok (vs.flatMap (fetchedIds vs.length)) := by
  have hread : c.FreshRead g f := by
    refine ⟨⟨hg, hf, ?_⟩, ?_, .inl ?_⟩
    · rw [Field.link?, hgk]
      exact hl
    · rw [Field.isLookup, hfk]
    · rw [Field.isRollup, hgk]
  have hw : Dictionary.get? ((c.setting source now).before r
      ⟨g, .rollup ro (Aggregation.ofName ro.function)⟩).working f.key = some (Setting.bare vs) := by
    refine (h.get?_before_of_freshRead (mem_steps_of_rollup hg hgk) (mem_steps_of_lookup hf hfk)
      hread).trans ?_
    rw [Setting.result, fetched.outcome_eq]
    rfl
  have hfield : c.field? f.id = some f := h.field?_eq_some_iff.2 ⟨hf, rfl⟩
  have hholds : f.holdsRecordIds := by rw [Field.holdsRecordIds, hfk]
  rw [← recordIds_bare]
  exact Setting.linkedIds_eq_ok hfield hholds hw

/-- A rollup that links through a lookup follows what each fetched value links to, by itself if it
is the only one and as an item of a list otherwise, and counts as many records.  How many were
fetched makes no difference to values that are neither lists of links nor objects with one. -/
theorem computed_count_through_lookup (distinct : c.DistinctIds) {f g : Field} {o : LookupOptions}
    {ro : RollupOptions} (hf : f ∈ c) (lookup : f.kind = .lookup o) (hg : g ∈ c)
    (rollup : g.kind = .rollup ro) (link : ro.linked = some f.id)
    (count : Aggregation.ofName ro.function = .ok .count) {vs : List Value}
    (fetched : (c.setting source now).Fetches r f o vs) {rs : List Record} {i : Nat}
    (hr : rs[i]? = some r) :
    (c.setting source now).followed r ⟨g, .rollup ro (.ok .count)⟩ f.id =
        .ok (vs.flatMap (fetchedIds vs.length)) ∧
      (∃ out, (c.computed source now rs)[i]? = some out ∧
        Dictionary.get? out.members g.key = some (Value.number
          (Number.ofNat (vs.map fun v => (fetchedIds vs.length v).length).sum)).toJson) ∧
      ((vs.length = 1 ∨ ∀ v ∈ vs, v.LinksAlike) →
        vs.flatMap (fetchedIds vs.length) = vs.flatMap recordIds ∧
          (vs.map fun v => (fetchedIds vs.length v).length) =
            vs.map fun v => (recordIds v).length) := by
  have hs : ⟨g, .rollup ro (.ok .count)⟩ ∈ c.steps := count ▸ mem_steps_of_rollup hg rollup
  have hids : (c.setting source now).followed r ⟨g, .rollup ro (.ok .count)⟩ f.id =
      .ok (vs.flatMap (fetchedIds vs.length)) :=
    count ▸ distinct.followed_lookup hf lookup hg rollup link fetched
  refine ⟨hids, ⟨((c.setting source now).computeRecord r).1, ?_, ?_⟩, fun hv => ?_⟩
  · rw [computed_eq_map hs, List.getElem?_map, hr]
    rfl
  · refine (distinct.get?_members_of_mem hs).trans ?_
    rw [Setting.result, Setting.outcome_count link hids, List.length_flatMap]
    rfl
  · have he := fetchedIds_eq_recordIds hv
    exact ⟨List.flatMap_congr he, List.map_congr_left fun v hv => congrArg List.length (he v hv)⟩

/-! ### Products of delivered crates -/

namespace Delivery

def crates : Field := ⟨.repeating 1, .repeating 0, "Crates", .linkedRecord {}⟩

def productOptions : LookupOptions := { linked := some crates.id, target := some (.repeating 4) }

def products : Field := ⟨.repeating 2, .repeating 0, "Products", .lookup productOptions⟩

def countOptions : RollupOptions := { linked := some products.id, function := "count" }

def count : Field := ⟨.repeating 3, .repeating 0, "Count", .rollup countOptions⟩

def catalog : Catalog := [crates, products, count]

/-- A crate with its products. -/
def crate (id : Uuid) (products : List Uuid) : Record :=
  ⟨id, .repeating 0, .obj [((Uuid.repeating 4).toText, .arr (products.map fun p => .str p.toText))]⟩

def store : Store := .ofList
  [crate (.repeating 6) [.repeating 8, .repeating 9], crate (.repeating 7) [.repeating 9]]

def delivery (ids : List Uuid) : Record :=
  ⟨.repeating 5, .repeating 0, .obj [(crates.key, .arr (ids.map fun id => .str id.toText))]⟩

/-- What a lookup of products fetches from a crate. -/
def productIds (ids : List Uuid) : Value := .list (ids.map fun id => .text id.toText)

end Delivery

open Delivery in
theorem computed_count_through_lookup_crate :
    let g := catalog.setting store.source ⟨0, 0⟩
    let r := delivery [.repeating 6]
    let vs := [productIds [.repeating 8, .repeating 9]]
    catalog.DistinctIds ∧ g.Fetches r products productOptions vs ∧
      g.followed r ⟨count, .rollup countOptions (.ok .count)⟩ products.id =
        .ok [.repeating 8, .repeating 9] ∧
      ∃ out, (catalog.computed store.source ⟨0, 0⟩ [r])[0]? = some out ∧
        Dictionary.get? out.members count.key = some (Value.number (Number.ofNat 2)).toJson := by
  intro g r vs
  have hd : catalog.DistinctIds := by decide
  have hv : g.Fetches r products productOptions vs :=
    ⟨crates.id, .repeating 4, [.repeating 6], rfl, rfl, rfl, by decide, rfl⟩
  have hr : [r][0]? = some r := rfl
  obtain ⟨hids, hout, -⟩ := computed_count_through_lookup hd (f := products) (g := count)
    (by decide) rfl (by decide) rfl rfl rfl hv hr
  exact ⟨hd, hv, hids, hout⟩

open Delivery in
/-- Lists of products from several crates are lists in a list, and link to nothing. -/
theorem followed_of_lists :
    let g := catalog.setting store.source ⟨0, 0⟩
    let r := delivery [.repeating 6, .repeating 7]
    let vs := [productIds [.repeating 8, .repeating 9], productIds [.repeating 9]]
    catalog.DistinctIds ∧ g.Fetches r products productOptions vs ∧
      vs.flatMap recordIds = [.repeating 8, .repeating 9, .repeating 9] ∧
      g.followed r ⟨count, .rollup countOptions (.ok .count)⟩ products.id = .ok [] := by
  intro g r vs
  have hd : catalog.DistinctIds := by decide
  have hv : g.Fetches r products productOptions vs :=
    ⟨crates.id, .repeating 4, [.repeating 6, .repeating 7], rfl, rfl, rfl, by decide, rfl⟩
  exact ⟨hd, hv, by decide, rfl⟩

end Catalog

end FieldCalc
