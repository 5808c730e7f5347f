import FieldCalc.Proofs.Compute.Reads
import Mathlib.Logic.Relation
import Mathlib.Order.WellFoundedSet

/-!
# Computing again

A computed field that reads what is stored of another computed field lags one pass behind it
(`Catalog.StaleRead`).  If no field depends on itself, a field along whose dependencies at most `m`
such reads follow each other has settled after `m` passes (`settles_of_path`), and the passes after
that write over the document what it already holds (`iterate_computed_eq`).
-/

namespace FieldCalc

namespace Catalog

variable {c : Catalog}

/-! ### Dependencies -/

/-- A reference in a formula may be read from the field `g`. -/
def MayName (c : Catalog) (ref : String) (g : Field) : Prop :=
  ref = g.key ∨ c.named? ref = some g ∨ Uuid.ofText? ref = some g.id

instance {ref : String} {g : Field} : Decidable (c.MayName ref g) :=
  inferInstanceAs (Decidable (_ ∨ _ ∨ _))

/-- `f` reads the stored value of the computed field `g`: a formula that refers to it, or a lookup
through a lookup that is not computed earlier. -/
inductive StaleRead (c : Catalog) (f g : Field) : Prop
  | reference {o : FormulaOptions} {φ : Formula} {ref : String} : f ∈ c → g ∈ c → g.isComputed →
      f.kind = .formula o → Formula.compile o.expression = .ok φ → ref ∈ φ.expr.references →
      c.MayName ref g → StaleRead c f g
  | link : c.Links f g → f.isLookup → g.isLookup → f = g ∨ c.Before f g → StaleRead c f g

/-- The value of `f` depends on that of the computed field `g`. -/
def Depends (c : Catalog) (f g : Field) : Prop := c.StaleRead f g ∨ c.FreshRead f g

/-- A path of dependencies that begins at a field, with its number of stale reads. -/
inductive Path (c : Catalog) : Field → Nat → Prop
  | nil (f : Field) : Path c f 0
  | stale {f g : Field} {n : Nat} : c.StaleRead f g → Path c g n → Path c f (n + 1)
  | fresh {f g : Field} {n : Nat} : c.FreshRead f g → Path c g n → Path c f n

theorem Depends.mem {f g : Field} (h : c.Depends f g) : f ∈ c ∧ g ∈ c := by
  rcases h with (⟨hf, hg, -⟩ | ⟨hl, -⟩) | hr
  · exact ⟨hf, hg⟩
  · exact ⟨hl.1, hl.2.1⟩
  · exact ⟨hr.links.1, hr.links.2.1⟩

/-- Dependencies that never come back to where they began end, for the catalog is finite. -/
theorem wellFounded_depends (acyclic : ∀ f, ¬ Relation.TransGen c.Depends f f) :
    WellFounded fun g f => c.Depends f g := by
  let later : Field → Field → Prop := fun g f => Relation.TransGen c.Depends f g
  have : IsStrictOrder Field later :=
    { irrefl := acyclic
      trans := fun _ _ _ h₁ h₂ => h₂.trans h₁ }
  have hw := Set.wellFoundedOn_iff.1 ((List.finite_toSet c).wellFoundedOn (r := later))
  exact Subrelation.wf (fun h => ⟨.single h, h.mem.2, h.mem.1⟩) hw

/-- Behind a stale read at least one stale read fewer is left. -/
theorem StaleRead.path_le {f g : Field} {m : Nat} (h : c.StaleRead f g)
    (hm : ∀ n, c.Path f n → n ≤ m) : ∃ m', m = m' + 1 ∧ ∀ n, c.Path g n → n ≤ m' := by
  have h1 : 1 ≤ m := hm 1 (.stale h (.nil g))
  refine ⟨m - 1, by omega, fun n hn => ?_⟩
  have := hm (n + 1) (.stale h hn)
  omega

/-! ### Stale reads of steps -/

theorem staleRead_of_reference {s t : Step} {φ : Formula} {resultType : Option Value.ResultType}
    {ref : String} (hs : s ∈ c.steps) (ht : t ∈ c.steps)
    (hφ : s.task = .formula (.ok φ) resultType) (href : ref ∈ φ.expr.references)
    (hn : c.MayName ref t.field) : c.StaleRead s.field t.field := by
  have hsf := mem_steps.1 hs
  rcases Step.of?_cases hsf.2 with ⟨o, hk, he⟩ | ⟨o, -, he⟩ | ⟨o, -, he⟩
  · rw [he] at hφ
    obtain ⟨hc, -⟩ := Task.formula.inj hφ
    exact .reference hsf.1 (mem_steps.1 ht).1 (isComputed_of_mem_steps ht) hk hc href hn
  · rw [he] at hφ
    cases hφ
  · rw [he] at hφ
    cases hφ

/-- Of a computed field that is linked through, what is not read fresh is read stale. -/
theorem staleRead_of_not_freshRead {s t : Step} (hs : s ∈ c.steps) (ht : t ∈ c.steps)
    (hl : s.field.link? = some t.field.id) (hh : t.field.holdsRecordIds)
    (hr : ¬ c.FreshRead s.field t.field) : c.StaleRead s.field t.field := by
  have hlink : c.Links s.field t.field := ⟨(mem_steps.1 hs).1, (mem_steps.1 ht).1, hl⟩
  have htl := Field.isLookup_of_holdsRecordIds hh (isComputed_of_mem_steps ht)
  have hsl : s.field.isLookup :=
    (Field.isLookup_or_isRollup hl).resolve_right fun hsr => hr ⟨hlink, htl, .inl hsr⟩
  refine .link hlink hsl htl ?_
  by_cases he : s.field = t.field
  · exact .inl he
  · refine .inr ((pair_sublist_total hlink.1 hlink.2.1 he).resolve_right fun hb => hr ?_)
    exact ⟨hlink, htl, .inr ⟨hsl, hb⟩⟩

/-! ### Passes -/

variable {source : LinkedSource} {now : Moment} {r : Record}

/-- A record after some passes. -/
def after (c : Catalog) (source : LinkedSource) (now : Moment) (r : Record) (n : Nat) : Record :=
  (fun r => ((c.setting source now).computeRecord r).1)^[n] r

theorem after_succ (n : Nat) : c.after source now r (n + 1) =
    ((c.setting source now).computeRecord (c.after source now r n)).1 :=
  Function.iterate_succ_apply' _ n r

/-- From the pass `m` on a step comes to the same in every pass. -/
def Settles (c : Catalog) (source : LinkedSource) (now : Moment) (r : Record) (s : Step)
    (m : Nat) : Prop :=
  ∀ n, m ≤ n → (c.setting source now).outcome (c.after source now r (n + 1)) s =
    (c.setting source now).outcome (c.after source now r n) s

/-- What is stored under a key stays if the field with that key, if there is one, has settled a
pass before. -/
theorem DistinctIds.get?_after_succ (ids : c.DistinctIds) {n : Nat} {k : String}
    (hk : ∀ t ∈ c.steps, t.field.key = k → ∃ m, m < n ∧ c.Settles source now r t m) :
    Dictionary.get? (c.after source now r (n + 1)).valueMap k =
      Dictionary.get? (c.after source now r n).valueMap k := by
  rw [get?_valueMap, get?_valueMap]
  congr 1
  by_cases ht : ∃ t ∈ c.steps, t.field.key = k
  · obtain ⟨t, ht, rfl⟩ := ht
    obtain ⟨m, hmn, hset⟩ := hk t ht rfl
    obtain ⟨n, rfl⟩ : ∃ n', n = n' + 1 := ⟨n - 1, by omega⟩
    rw [after_succ (n + 1), ids.get?_members_of_mem ht, Setting.result, hset n (by omega),
      after_succ n, ids.get?_members_of_mem ht, Setting.result]
  · rw [after_succ n]
    exact ids.get?_members_of_forall fun t hts htk => ht ⟨t, hts, htk⟩

/-- A field behind which at most `m` stale reads follow each other settles after `m` passes. -/
theorem DistinctIds.settles_of_path (ids : c.DistinctIds)
    (acyclic : ∀ f, ¬ Relation.TransGen c.Depends f f) {s : Step} (hs : s ∈ c.steps) {m : Nat}
    (hm : ∀ n, c.Path s.field n → n ≤ m) : c.Settles source now r s m := by
  generalize hf : s.field = f at hm
  induction f using (wellFounded_depends acyclic).induction generalizing s m with
  | _ f ih =>
  subst hf
  intro n hn
  have hstale : ∀ t ∈ c.steps, c.StaleRead s.field t.field →
      ∃ m', m' < n ∧ c.Settles source now r t m' := by
    intro t ht hr
    obtain ⟨m', rfl, hm'⟩ := hr.path_le hm
    exact ⟨m', by omega, ih t.field (.inl hr) ht rfl hm'⟩
  refine Agree.outcome_eq ?_ ids ids hs hs
  constructor
  case references =>
    intro φ resultType hφ
    refine ⟨rfl, fun ref href => ?_⟩
    have hname : ∀ t ∈ c.steps, c.MayName ref t.field →
        ∃ m', m' < n ∧ c.Settles source now r t m' :=
      fun t ht hn => hstale t ht (staleRead_of_reference hs ht hφ href hn)
    refine resolve_eq rfl rfl ?_ (fun g hg => ?_) fun g hg => ?_
    · exact ids.get?_after_succ fun t ht hk => hname t ht (.inl hk.symm)
    · refine ids.get?_after_succ fun t ht hk => hname t ht (.inr (.inl ?_))
      rw [ids.eq_field_of_key ht (List.mem_of_find?_eq_some hg) hk]
      exact hg
    · obtain ⟨i, hi, hg⟩ := Option.bind_eq_some_iff.1 hg
      obtain ⟨hgc, rfl⟩ := ids.field?_eq_some_iff.1 hg
      refine ids.get?_after_succ fun t ht hk => hname t ht (.inr (.inr ?_))
      rw [hi, ids.eq_field_of_key ht hgc hk]
  case field =>
    exact fun _ _ => rfl
  case fresh =>
    intro t ht hr
    have hset : c.Settles source now r t m :=
      ih t.field (.inr hr) ht rfl fun n hn => hm n (.fresh hr hn)
    exact ⟨ht, hr, congrArg Setting.orNull (hset n hn)⟩
  case stored =>
    intro g hg hl hh hr
    refine ⟨hr, ids.get?_after_succ fun t ht hk => hstale t ht ?_⟩
    obtain rfl := ids.eq_field_of_key ht hg hk
    exact staleRead_of_not_freshRead hs ht hl hh hr

/-- Once every step has settled, passes change a record no more. -/
theorem DistinctIds.after_succ_succ (ids : c.DistinctIds) {k : Nat}
    (hk : ∀ s ∈ c.steps, c.Settles source now r s k) :
    c.after source now r (k + 2) = c.after source now r (k + 1) := by
  have hw : c.written (c.setting source now) (c.after source now r (k + 1)) =
      c.written (c.setting source now) (c.after source now r k) := by
    refine List.map_congr_left fun s hs => ?_
    rw [Setting.result, Setting.result, hk s hs k le_rfl]
  have h1 : c.after source now r (k + 1) = _ := after_succ k
  rw [ids.computeRecord_fst] at h1
  have hmem : (c.after source now r (k + 1)).members =
      Dictionary.insertAll (c.after source now r k).members
        (c.written (c.setting source now) (c.after source now r k)) := by
    rw [h1]
    rfl
  rw [after_succ (k + 1), ids.computeRecord_fst, hw, hmem,
    Dictionary.insertAll_insertAll (ids.distinctKeys_written _ _), h1]

theorem iterate_computed {s : Step} (hs : s ∈ c.steps) (rs : List Record) (n : Nat) :
    (c.computed source now)^[n] rs = rs.map fun r => c.after source now r n := by
  induction n with
  | zero => exact (List.map_id rs).symm
  | succ n ih =>
    rw [Function.iterate_succ_apply', ih, computed_eq_map hs, List.map_map]
    exact List.map_congr_left fun r _ => (after_succ n).symm

theorem DistinctIds.iterate_computed_of_path (ids : c.DistinctIds)
    (acyclic : ∀ f, ¬ Relation.TransGen c.Depends f f) {k : Nat}
    (hk : ∀ f n, c.Path f n → n ≤ k) (rs : List Record) :
    (c.computed source now)^[k + 2] rs = (c.computed source now)^[k + 1] rs := by
  cases hs : c.steps with
  | nil =>
    have hid : ∀ rs, c.computed source now rs = rs := computed_of_steps_eq_nil hs
    rw [Function.iterate_succ_apply', hid]
  | cons s _ =>
    have hm : s ∈ c.steps := hs ▸ List.mem_cons_self
    rw [iterate_computed hm, iterate_computed hm]
    refine List.map_congr_left fun r _ => ids.after_succ_succ fun t ht => ?_
    exact ids.settles_of_path acyclic ht fun n hn => hk t.field n hn

theorem DistinctIds.not_transGen_depends (ids : c.DistinctIds)
    (fresh : ∀ f g, ¬ c.StaleRead f g) (f : Field) : ¬ Relation.TransGen c.Depends f f := by
  have hwf : WellFounded fun g f => c.Depends f g :=
    Subrelation.wf (fun h => h.resolve_left (fresh _ _)) ids.wellFounded_freshRead
  intro h
  exact hwf.transGen.irrefl.irrefl f (Relation.transGen_swap.1 h)

theorem Path.eq_zero {f : Field} {n : Nat} (h : c.Path f n) (fresh : ∀ f g, ¬ c.StaleRead f g) :
    n = 0 := by
  induction h with
  | nil => rfl
  | stale h => exact absurd h (fresh _ _)
  | fresh _ _ ih => exact ih

/-- If no field depends on itself and no path of dependencies has more than `k` stale reads,
`k + 1` passes over a batch make all of what any more would.  Without stale reads one does. -/
theorem iterate_computed_eq (ids : c.DistinctIds) (source : LinkedSource) (now : Moment)
    (rs : List Record) :
    (∀ k, (∀ f, ¬ Relation.TransGen c.Depends f f) → (∀ f n, c.Path f n → n ≤ k) →
      (c.computed source now)^[k + 2] rs = (c.computed source now)^[k + 1] rs) ∧
    ((∀ f g, ¬ c.StaleRead f g) →
      c.computed source now (c.computed source now rs) = c.computed source now rs) := by
  constructor
  · exact fun k acyclic hk => ids.iterate_computed_of_path acyclic hk rs
  · intro fresh
    exact ids.iterate_computed_of_path (k := 0) (ids.not_transGen_depends fresh)
      (fun f n h => (h.eq_zero fresh).le) rs

/-! ### A greeting that lags behind the name -/

namespace Badge

def first : Field := ⟨.repeating 1, .repeating 0, "First", .plain .text⟩

def name : Field :=
  ⟨.repeating 2, .repeating 0, "Name", .formula { expression := "\x7bFirst\x7d&\x7bFirst\x7d" }⟩

def greeting : Field :=
  ⟨.repeating 3, .repeating 0, "Greeting", .formula { expression := "\"Dear \"&\x7bName\x7d" }⟩

def catalog : Catalog := [greeting, name, first]

theorem mem_references {source ref : String} {refs : List String} {φ : Formula}
    (he : (Formula.compile source).toOption.map (fun φ => φ.expr.references) = some refs)
    (hφ : Formula.compile source = .ok φ) (hr : ref ∈ φ.expr.references) : ref ∈ refs := by
  rw [hφ] at he
  exact Option.some.inj he ▸ hr

theorem eq_first {φ : Formula} {ref : String}
    (hφ : Formula.compile "\x7bFirst\x7d&\x7bFirst\x7d" = .ok φ) (hr : ref ∈ φ.expr.references) :
    ref = "First" := by
  have hm : ref ∈ ["First", "First"] := mem_references (by decide +kernel) hφ hr
  simpa using hm

theorem eq_name {φ : Formula} {ref : String}
    (hφ : Formula.compile "\"Dear \"&\x7bName\x7d" = .ok φ) (hr : ref ∈ φ.expr.references) :
    ref = "Name" := by
  have hm : ref ∈ ["Name"] := mem_references (by decide +kernel) hφ hr
  simpa using hm

/-- The greeting refers to the name, and nothing else depends on a computed field. -/
theorem eq_of_depends {c : Catalog} (hc : c = catalog ∨ c = [name, first]) {f g : Field}
    (h : c.Depends f g) : f = greeting ∧ g = name := by
  have hsub : c ⊆ catalog := by rcases hc with rfl | rfl <;> decide
  have hf : f = greeting ∨ f = name ∨ f = first := by simpa [catalog] using hsub h.mem.1
  have hg : g = greeting ∨ g = name ∨ g = first := by simpa [catalog] using hsub h.mem.2
  rcases h with (⟨-, -, hgc, hk, hφ, href, hn⟩ | ⟨-, hl, -⟩) | hr
  · rcases hf with rfl | rfl | rfl
    · obtain rfl := FieldKind.formula.inj hk
      obtain rfl := eq_name hφ href
      rcases hg with rfl | rfl | rfl
      · rcases hc with rfl | rfl <;> exact absurd hn (by decide +kernel)
      · exact ⟨rfl, rfl⟩
      · cases hgc
    · obtain rfl := FieldKind.formula.inj hk
      obtain rfl := eq_first hφ href
      rcases hg with rfl | rfl | rfl
      · rcases hc with rfl | rfl <;> exact absurd hn (by decide +kernel)
      · rcases hc with rfl | rfl <;> exact absurd hn (by decide +kernel)
      · cases hgc
    · cases hk
  · rcases hf with rfl | rfl | rfl <;> cases hl
  · rcases hg with rfl | rfl | rfl <;> cases hr.isLookup

theorem name_ne_greeting : name ≠ greeting := by decide

theorem not_transGen_depends (f : Field) : ¬ Relation.TransGen catalog.Depends f f := by
  intro h
  obtain ⟨g, hg, -⟩ := Relation.TransGen.head'_iff.1 h
  obtain ⟨g', -, hg'⟩ := Relation.TransGen.tail'_iff.1 h
  obtain ⟨rfl, -⟩ := eq_of_depends (.inl rfl) hg
  exact name_ne_greeting (eq_of_depends (.inl rfl) hg').2.symm

theorem not_depends_name (g : Field) : ¬ catalog.Depends name g := fun h =>
  name_ne_greeting (eq_of_depends (.inl rfl) h).1

theorem path_le {f : Field} {n : Nat} (h : catalog.Path f n) : n ≤ 1 := by
  cases h with
  | nil => exact Nat.zero_le 1
  | stale h p =>
    obtain ⟨-, rfl⟩ := eq_of_depends (.inl rfl) (.inl h)
    cases p with
    | nil => exact le_rfl
    | stale h' => exact absurd (.inl h') (not_depends_name _)
    | fresh h' => exact absurd (.inr h') (not_depends_name _)
  | fresh h =>
    obtain ⟨-, rfl⟩ := eq_of_depends (.inl rfl) (.inr h)
    cases h.isLookup

theorem not_staleRead (f g : Field) : ¬ Catalog.StaleRead [name, first] f g := by
  intro h
  obtain ⟨rfl, -⟩ := eq_of_depends (.inr rfl) (.inl h)
  exact absurd (Depends.mem (.inl h)).1 (by decide)

end Badge

open Badge in
theorem iterate_computed_eq_badge :
    catalog.DistinctIds ∧ (∀ f, ¬ Relation.TransGen catalog.Depends f f) ∧
      (∀ f n, catalog.Path f n → n ≤ 1) ∧ (∀ f g, ¬ Catalog.StaleRead [name, first] f g) ∧
      ∀ source now rs,
        (catalog.computed source now)^[3] rs = (catalog.computed source now)^[2] rs ∧
        Catalog.computed [name, first] source now (Catalog.computed [name, first] source now rs) =
          Catalog.computed [name, first] source now rs := by
  have hd : catalog.DistinctIds := by decide
  have hd' : Catalog.DistinctIds [name, first] := by decide
  refine ⟨hd, not_transGen_depends, fun f n => path_le, not_staleRead, fun source now rs => ?_⟩
  constructor
  · exact (iterate_computed_eq hd source now rs).1 1 not_transGen_depends fun f n => path_le
  · exact (iterate_computed_eq hd' source now rs).2 not_staleRead

end Catalog

end FieldCalc
