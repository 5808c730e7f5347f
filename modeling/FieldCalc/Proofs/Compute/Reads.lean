import FieldCalc.Proofs.Compute.Pass
import FieldCalc.Proofs.Formula.References

/-!
# What a step reads

A formula reads stored values through its references.  A lookup or a rollup reads one value, that
of the field it links through: the fresh one of a lookup that was computed before
(`get?_before_of_freshRead`), and a stored one otherwise (`get?_before_of_not_freshRead`).  Nothing
else counts: a step whose reads agree in two computations comes to the same in both
(`Agree.outcome_eq`).
-/

namespace FieldCalc

/-! ### References -/

/-- A reference means the same where the fields that it may name have the same identifiers, and its
own key and those of these fields the same values. -/
theorem Catalog.resolve_eq {c c' : Catalog} {v v' : ValueMap} {ref : String}
    (hname : (c.named? ref).map Field.id = (c'.named? ref).map Field.id)
    (hid : ((Uuid.ofText? ref).bind c.field?).map Field.id =
      ((Uuid.ofText? ref).bind c'.field?).map Field.id)
    (hown : Dictionary.get? v ref = Dictionary.get? v' ref)
    (hnamed : ∀ f, c.named? ref = some f → Dictionary.get? v f.key = Dictionary.get? v' f.key)
    (hspelled : ∀ f, (Uuid.ofText? ref).bind c.field? = some f →
      Dictionary.get? v f.key = Dictionary.get? v' f.key) :
    c.resolve v ref = c'.resolve v' ref := by
  unfold resolve
  rw [← hown]
  cases Dictionary.get? v ref with
  | some a => rfl
  | none =>
    cases hn : c.named? ref with
    | some f =>
      obtain ⟨f', hn', he⟩ : ∃ f', c'.named? ref = some f' ∧ f'.id = f.id := by
        simpa [hn] using hname.symm
      have hv := hnamed f hn
      unfold Field.key at hv
      simp only [hn', he, hv]
    | none =>
      have hn' : c'.named? ref = none := by simpa [hn] using hname.symm
      rw [hn']
      cases hi : (Uuid.ofText? ref).bind c.field? with
      | some f =>
        obtain ⟨f', hi', he⟩ :
            ∃ f', (Uuid.ofText? ref).bind c'.field? = some f' ∧ f'.id = f.id := by
          simpa only [hi, Option.map_some, Option.map_eq_some_iff] using hid.symm
        have hv := hspelled f hi
        unfold Field.key at hv
        simp only [hi', he, hv]
      | none =>
        have hi' : (Uuid.ofText? ref).bind c'.field? = none := by
          simpa only [hi, Option.map_none, Option.map_eq_none_iff] using hid.symm
        rw [hi']

/-! ### The values of single steps -/

namespace Setting

variable {g g' : Setting} {w w' : ValueMap} {field : Uuid}

theorem linkedIds_eq {linked : Uuid}
    (hf : g.plan.catalog.field? linked = g'.plan.catalog.field? linked)
    (hw : ∀ h, g.plan.catalog.field? linked = some h → h.holdsRecordIds →
      Dictionary.get? w linked.toText = Dictionary.get? w' linked.toText) :
    g.linkedIds w field linked = g'.linkedIds w' field linked := by
  unfold linkedIds
  rw [← hf]
  cases hl : g.plan.catalog.field? linked with
  | none => rfl
  | some h =>
    dsimp only
    split
    · rename_i hh
      rw [hw h hl hh]
    · rfl

theorem lookupValue_eq {o : LookupOptions} (hsource : g.source = g'.source)
    (hids : ∀ id, o.linked = some id → g.linkedIds w field id = g'.linkedIds w' field id) :
    g.lookupValue w field o = g'.lookupValue w' field o := by
  unfold lookupValue
  rw [hsource]
  cases hl : o.linked with
  | none => rfl
  | some id =>
    simp only [required, bind, Except.bind, hids id hl]

theorem rollupValue_eq {o : RollupOptions} {a : Except FieldError Aggregation}
    (hsource : g.source = g'.source)
    (hids : ∀ id, o.linked = some id → g.linkedIds w field id = g'.linkedIds w' field id) :
    g.rollupValue w field o a = g'.rollupValue w' field o a := by
  unfold rollupValue
  rw [hsource]
  cases hl : o.linked with
  | none => rfl
  | some id =>
    simp only [required, bind, Except.bind, hids id hl]

theorem formulaValue_eq {stored stored' : ValueMap} {compiled : Except Formula.Error Formula}
    {resultType : Option Value.ResultType}
    (hrefs : ∀ f, compiled = .ok f →
      (g.scope stored).AgreeOn (g'.scope stored') f.expr.references) :
    g.formulaValue stored compiled resultType = g'.formulaValue stored' compiled resultType := by
  unfold formulaValue
  cases compiled with
  | error e => rfl
  | ok f =>
    have he : f.eval (g.scope stored) = f.eval (g'.scope stored') :=
      Formula.Expr.eval_congr (hrefs f rfl)
    simp only [Except.bind, he]

/-- A step comes to the same where its references have the same values and it follows the same
records. -/
theorem value_eq {stored stored' : ValueMap} {s : Step} (hs : Step.of? s.field = some s)
    (hsource : g.source = g'.source)
    (hrefs : ∀ f resultType, s.task = .formula (.ok f) resultType →
      (g.scope stored).AgreeOn (g'.scope stored') f.expr.references)
    (hids : ∀ id, s.field.link? = some id →
      g.linkedIds w s.field.id id = g'.linkedIds w' s.field.id id) :
    g.value stored w s = g'.value stored' w' s := by
  unfold value
  rcases Step.of?_cases hs with ⟨o, hk, he⟩ | ⟨o, hk, he⟩ | ⟨o, hk, he⟩
  · have ht : s.task = .formula (Formula.compile o.expression) o.resultType := congrArg Step.task he
    rw [ht]
    exact formulaValue_eq fun f hf => hrefs f o.resultType (hf ▸ ht)
  · have ht : s.task = .lookup o := congrArg Step.task he
    rw [ht]
    exact lookupValue_eq hsource fun id hl => hids id (by rw [Field.link?, hk]; exact hl)
  · have ht : s.task = .rollup o (Aggregation.ofName o.function) := congrArg Step.task he
    rw [ht]
    exact rollupValue_eq hsource fun id hl => hids id (by rw [Field.link?, hk]; exact hl)

end Setting

/-! ### What is found in turn -/

namespace Catalog

variable {c c' : Catalog} {source : LinkedSource} {now : Moment} {r r' : Record}

theorem DistinctIds.eq_field_of_key (h : c.DistinctIds) {t : Step} {f : Field} (ht : t ∈ c.steps)
    (hf : f ∈ c) (hk : t.field.key = f.key) : t.field = f :=
  h.eq_of_id (mem_steps.1 ht).1 hf (Field.key_injective hk)

theorem DistinctIds.get?_before_of_freshRead (h : c.DistinctIds) {s t : Step} (hs : s ∈ c.steps)
    (ht : t ∈ c.steps) (hr : c.FreshRead s.field t.field) :
    Dictionary.get? ((c.setting source now).before r s).working t.field.key =
      some ((c.setting source now).result r t) :=
  h.get?_before_of_sublist (hr.sublist_steps hs ht)

theorem DistinctIds.get?_before_of_not_freshRead (h : c.DistinctIds) {s : Step} {f : Field}
    (hs : s ∈ c.steps) (hf : f ∈ c) (hl : s.field.link? = some f.id) (hh : f.holdsRecordIds)
    (hr : ¬ c.FreshRead s.field f) :
    Dictionary.get? ((c.setting source now).before r s).working f.key =
      Dictionary.get? r.valueMap f.key := by
  refine h.get?_before_of_forall hs fun t ht hk hts => hr ?_
  obtain rfl := h.eq_field_of_key ht hf hk
  have htl := Field.isLookup_of_holdsRecordIds hh (isComputed_of_mem_steps ht)
  exact (h.pair_sublist_steps_iff hs ht hl htl).1 hts

/-- A step follows the same records in two computations if what it finds fresh in one it finds
fresh in the other, with the same results, and if what it finds stored is the same. -/
theorem linkedIds_before_eq {source' : LinkedSource} {s : Step} (h : c.DistinctIds)
    (h' : c'.DistinctIds) (hs : s ∈ c.steps) (hs' : s ∈ c'.steps) {id : Uuid}
    (hl : s.field.link? = some id) (field : c.field? id = c'.field? id)
    (fresh : ∀ t ∈ c.steps, c.FreshRead s.field t.field →
      t ∈ c'.steps ∧ c'.FreshRead s.field t.field ∧
        (c.setting source now).result r t = (c'.setting source' now).result r' t)
    (stored : ∀ f ∈ c, s.field.link? = some f.id → f.holdsRecordIds → ¬ c.FreshRead s.field f →
      ¬ c'.FreshRead s.field f ∧
        Dictionary.get? r.valueMap f.key = Dictionary.get? r'.valueMap f.key) :
    let g := c.setting source now
    let g' := c'.setting source' now
    g.linkedIds (g.before r s).working s.field.id id =
      g'.linkedIds (g'.before r' s).working s.field.id id := by
  intro g g'
  refine Setting.linkedIds_eq field fun f hf hh => ?_
  have hf : c.field? id = some f := hf
  have hf' : c'.field? id = some f := field ▸ hf
  obtain ⟨hfc, rfl⟩ := h.field?_eq_some_iff.1 hf
  have hfc' := (h'.field?_eq_some_iff.1 hf').1
  by_cases hr : c.FreshRead s.field f
  · obtain ⟨t, ht, rfl⟩ := exists_step hfc (Field.isComputed_of_isLookup hr.isLookup)
    obtain ⟨ht', hr', he⟩ := fresh t ht hr
    refine (h.get?_before_of_freshRead hs ht hr).trans ((congrArg some he).trans ?_)
    exact (h'.get?_before_of_freshRead hs' ht' hr').symm
  · obtain ⟨hr', he⟩ := stored f hfc hl hh hr
    refine (h.get?_before_of_not_freshRead hs hfc hl hh hr).trans (he.trans ?_)
    exact (h'.get?_before_of_not_freshRead hs' hfc' hl hh hr').symm

/-- What the step `s` reads is the same for two catalogs and records. -/
structure Agree (c c' : Catalog) (source : LinkedSource) (now : Moment) (r r' : Record)
    (s : Step) : Prop where
  references : ∀ f resultType, s.task = .formula (.ok f) resultType →
    ((c.setting source now).scope r.valueMap).AgreeOn ((c'.setting source now).scope r'.valueMap)
      f.expr.references
  field : ∀ id, s.field.link? = some id → c.field? id = c'.field? id
  fresh : ∀ t ∈ c.steps, c.FreshRead s.field t.field →
    t ∈ c'.steps ∧ c'.FreshRead s.field t.field ∧
      (c.setting source now).result r t = (c'.setting source now).result r' t
  stored : ∀ f ∈ c, s.field.link? = some f.id → f.holdsRecordIds → ¬ c.FreshRead s.field f →
    ¬ c'.FreshRead s.field f ∧
      Dictionary.get? r.valueMap f.key = Dictionary.get? r'.valueMap f.key

/-- A step whose reads agree comes to the same. -/
theorem Agree.outcome_eq {s : Step} (a : Agree c c' source now r r' s) (h : c.DistinctIds)
    (h' : c'.DistinctIds) (hs : s ∈ c.steps) (hs' : s ∈ c'.steps) :
    (c.setting source now).outcome r s = (c'.setting source now).outcome r' s := by
  exact Setting.value_eq (mem_steps.1 hs).2 rfl a.references fun id hl =>
    linkedIds_before_eq h h' hs hs' hl (a.field id hl) a.fresh a.stored

end Catalog

end FieldCalc
