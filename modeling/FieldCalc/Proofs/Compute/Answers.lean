import FieldCalc.Proofs.Compute.LookupLinks
import Mathlib.Logic.Relation

/-!
# Answers of a source

In its turn a step asks the source at most one question (`Setting.question?`), and of the source
only the answer counts for what it comes to (`Setting.value_withSource`).  The working values that
a question is made of depend on earlier answers, but only on those to lookups that the field links
through.  So two sources that answer these questions and that of the field alike give it the same
value, however they answer all others (`computed_local`).
-/

namespace FieldCalc

namespace Setting

variable {g : Setting} {w : ValueMap} {stored : ValueMap}

/-- The records that a field follows, if there are any, and what it is to be told of them. -/
def follows? (g : Setting) (w : ValueMap) (field : Uuid) :
    Option Uuid → Option Uuid → Option (List Uuid × Uuid)
  | some linked, some target =>
    match g.linkedIds w field linked with
    | .ok (id :: ids) => some (id :: ids, target)
    | _ => none
  | _, _ => none

/-- What a step asks the source. -/
def question? (g : Setting) (w : ValueMap) (s : Step) : Option (List Uuid × Uuid) :=
  match s.task with
  | .formula _ _ => none
  | .lookup o => g.follows? w s.field.id o.linked o.target
  | .rollup _ (.error _) => none
  | .rollup o (.ok a) => if a = .count then none else g.follows? w s.field.id o.linked o.target

/-- What a step makes of an answer. -/
def digest (s : Step) (vs : List Value) : Value :=
  match s.task with
  | .rollup _ (.ok a) => a.apply vs
  | _ => bare vs

theorem lookupValue_withSource (source : LinkedSource) (field : Uuid) (o : LookupOptions) :
    { g with source := source }.lookupValue w field o =
      match g.follows? w field o.linked o.target with
      | some q => (source.fetch q.1 q.2).map bare
      | none => g.lookupValue w field o := by
  unfold lookupValue
  have hids : ∀ linked, { g with source := source }.linkedIds w field linked =
      g.linkedIds w field linked := fun _ => rfl
  cases o.linked with
  | none => rfl
  | some linked =>
    cases o.target with
    | none => rfl
    | some target =>
      simp only [required, bind, Except.bind, hids, follows?]
      cases g.linkedIds w field linked with
      | error e => rfl
      | ok ids => cases ids <;> rfl

theorem rollupValue_withSource (source : LinkedSource) (field : Uuid) (o : RollupOptions)
    {a : Aggregation} (ha : a ≠ .count) :
    { g with source := source }.rollupValue w field o (.ok a) =
      match g.follows? w field o.linked o.target with
      | some q => (source.fetch q.1 q.2).map a.apply
      | none => g.rollupValue w field o (.ok a) := by
  unfold rollupValue
  have hids : ∀ linked, { g with source := source }.linkedIds w field linked =
      g.linkedIds w field linked := fun _ => rfl
  cases o.linked with
  | none => rfl
  | some linked =>
    simp only [required, bind, Except.bind, hids, if_neg ha]
    cases hl : g.linkedIds w field linked with
    | error e => cases o.target <;> simp [follows?, hl]
    | ok ids =>
      cases o.target with
      | none => rfl
      | some target =>
        simp only [follows?, hl]
        cases ids <;> rfl

/-- Counting asks nothing. -/
theorem rollupValue_count_withSource (source : LinkedSource) (field : Uuid) (o : RollupOptions) :
    { g with source := source }.rollupValue w field o (.ok .count) =
      g.rollupValue w field o (.ok .count) := by
  unfold rollupValue
  simp only [bind, Except.bind, if_pos]
  rfl

/-- Under another source a step makes of its answer what it makes of any, and comes to the same if
it asks nothing. -/
theorem value_withSource (source : LinkedSource) (s : Step) :
    { g with source := source }.value stored w s =
      match g.question? w s with
      | some q => (source.fetch q.1 q.2).map (digest s)
      | none => g.value stored w s := by
  obtain ⟨f, task⟩ := s
  cases task with
  | formula compiled resultType => rfl
  | lookup o => exact lookupValue_withSource source f.id o
  | rollup o aggregation =>
    cases aggregation with
    | error e => rfl
    | ok a =>
      by_cases ha : a = .count
      · subst ha
        exact rollupValue_count_withSource source f.id o
      · simp only [question?, if_neg ha]
        exact rollupValue_withSource source f.id o ha

theorem value_eq_of_answer {source source' : LinkedSource} {s : Step}
    (h : ∀ ids target, g.question? w s = some (ids, target) →
      source.fetch ids target = source'.fetch ids target) :
    { g with source := source }.value stored w s =
      { g with source := source' }.value stored w s := by
  rw [value_withSource, value_withSource source']
  cases hq : g.question? w s with
  | none => rfl
  | some q =>
    dsimp only
    rw [h q.1 q.2 hq]

/-- What a step asks the source in its turn. -/
def asked? (g : Setting) (r : Record) (s : Step) : Option (List Uuid × Uuid) :=
  g.question? (g.before r s).working s

end Setting

namespace Catalog

section Sources

variable {c : Catalog} {source source' : LinkedSource} {now : Moment} {r : Record}

/-- Two sources answer alike what the field `f` asks the first one, and what the lookups ask that
it links through and finds computed before it. -/
def AnswerAlike (c : Catalog) (source source' : LinkedSource) (now : Moment) (r : Record)
    (f : Field) : Prop :=
  ∀ s ∈ c.steps, Relation.ReflTransGen c.FreshRead f s.field →
    ∀ ids target, (c.setting source now).asked? r s = some (ids, target) →
      source.fetch ids target = source'.fetch ids target

theorem AnswerAlike.of_freshRead {f h : Field} (ha : c.AnswerAlike source source' now r f)
    (hr : c.FreshRead f h) : c.AnswerAlike source source' now r h :=
  fun s hs hp => ha s hs (.head hr hp)

/-- Sources that answer alike what a field depends on bring it to the same. -/
theorem DistinctIds.outcome_eq_of_answerAlike (h : c.DistinctIds) {s : Step} (hs : s ∈ c.steps)
    (ha : c.AnswerAlike source source' now r s.field) :
    (c.setting source now).outcome r s = (c.setting source' now).outcome r s := by
  generalize hf : s.field = f at ha
  induction f using h.wellFounded_freshRead.induction generalizing s with
  | _ f ih =>
  subst hf
  let g := c.setting source now
  let g' := c.setting source' now
  have hids : ∀ id, s.field.link? = some id →
      g.linkedIds (g.before r s).working s.field.id id =
        g'.linkedIds (g'.before r s).working s.field.id id := by
    intro id hl
    refine linkedIds_before_eq h h hs hs hl rfl (fun t ht hr => ⟨ht, hr, ?_⟩)
      fun f _ _ _ hr => ⟨hr, rfl⟩
    exact congrArg Setting.orNull (ih t.field hr ht rfl (ha.of_freshRead hr))
  calc g.value r.valueMap (g.before r s).working s
      = g'.value r.valueMap (g.before r s).working s :=
        Setting.value_eq_of_answer (g := g) (ha s hs .refl)
    _ = g'.value r.valueMap (g'.before r s).working s :=
        Setting.value_eq (mem_steps.1 hs).2 rfl (fun _ _ _ => ⟨rfl, fun _ _ => rfl⟩) hids

/-- A field comes to the same under two sources, and the same is written for it. -/
structure SameUnder (c : Catalog) (source source' : LinkedSource) (now : Moment) (r : Record)
    (f : Field) : Prop where
  outcome_eq : ∀ s ∈ c.steps, s.field = f →
    (c.setting source now).outcome r s = (c.setting source' now).outcome r s
  written_eq : ∀ (rs : List Record) (i : Nat), rs[i]? = some r → ∃ out out',
    (c.computed source now rs)[i]? = some out ∧ (c.computed source' now rs)[i]? = some out' ∧
      Dictionary.get? out.members f.key = Dictionary.get? out'.members f.key

theorem DistinctIds.sameUnder (h : c.DistinctIds) {f : Field} (hf : f ∈ c) (hc : f.isComputed)
    (ha : c.AnswerAlike source source' now r f) : c.SameUnder source source' now r f where
  outcome_eq s hs hsf := h.outcome_eq_of_answerAlike hs (hsf ▸ ha)
  written_eq rs i hr := by
    obtain ⟨s, hs, rfl⟩ := exists_step hf hc
    refine ⟨_, _, getElem?_computed hs hr, getElem?_computed hs hr, ?_⟩
    rw [h.get?_members_of_mem hs, h.get?_members_of_mem hs, Setting.result, Setting.result,
      h.outcome_eq_of_answerAlike hs ha]

/-- A formula, or a count of what a linked-record field holds. -/
inductive AsksNothing (c : Catalog) (f : Field) : Prop
  | formula {o : FormulaOptions} : f.kind = .formula o → AsksNothing c f
  | count {o : RollupOptions} {h : Field} {lo : LinkedRecordOptions} : f.kind = .rollup o →
      Aggregation.ofName o.function = .ok .count → h ∈ c → o.linked = some h.id →
        h.kind = .linkedRecord lo → AsksNothing c f

theorem AsksNothing.question?_eq_none {f : Field} (ha : c.AsksNothing f) {s : Step}
    (hs : s ∈ c.steps) (hf : s.field = f) (g : Setting) (w : ValueMap) :
    g.question? w s = none := by
  subst hf
  cases ha with
  | formula hk =>
    rw [step_eq_of_field hs (mem_steps_of_formula (mem_steps.1 hs).1 hk) rfl]
    rfl
  | count hk hcount =>
    rw [step_eq_of_field hs (mem_steps_of_rollup (mem_steps.1 hs).1 hk) rfl, hcount]
    rfl

theorem AsksNothing.not_freshRead (ids : c.DistinctIds) {f h : Field} (ha : c.AsksNothing f) :
    ¬ c.FreshRead f h := by
  rintro ⟨⟨-, hc, hl⟩, hlookup, -⟩
  cases ha with
  | formula hk =>
    rw [Field.link?, hk] at hl
    cases hl
  | count hk _ hc' hl' hk' =>
    rw [Field.link?, hk] at hl
    obtain rfl := ids.eq_of_id hc' hc (Option.some.inj (hl'.symm.trans hl))
    rw [Field.isLookup, hk'] at hlookup
    cases hlookup

theorem AsksNothing.answerAlike (ids : c.DistinctIds) {f : Field} (ha : c.AsksNothing f) :
    c.AnswerAlike source source' now r f := by
  intro s hs hp i t hq
  rcases hp.cases_head with hf | ⟨h, hr, -⟩
  · rw [Setting.asked?, ha.question?_eq_none hs hf.symm] at hq
    cases hq
  · exact absurd hr (ha.not_freshRead ids)

/-- Two sources that answer alike what a field asks the first one, and what the lookups ask that it
links through, give it the same value, however they answer all else.  Formulas, and counts of what
linked-record fields hold, are the same under any two. -/
theorem computed_local (distinct : c.DistinctIds) {f : Field} (hf : f ∈ c)
    (computed : f.isComputed) (source source' : LinkedSource) (now : Moment) (r : Record) :
    (c.AnswerAlike source source' now r f → c.SameUnder source source' now r f) ∧
      (c.AsksNothing f → c.SameUnder source source' now r f) :=
  ⟨distinct.sameUnder hf computed, fun ha =>
    distinct.sameUnder hf computed (ha.answerAlike distinct)⟩

end Sources

/-! ### A delivery while most crates are out of reach -/

/-- The source with every question but one left without an answer. -/
def only (source : LinkedSource) (ids : List Uuid) (target : Uuid) : LinkedSource :=
  ⟨fun ids' target' =>
    if ids' = ids ∧ target' = target then source.fetch ids target else .error (.fetch "offline")⟩

theorem fetch_only (source : LinkedSource) (ids : List Uuid) (target : Uuid) :
    (only source ids target).fetch ids target = source.fetch ids target :=
  if_pos ⟨rfl, rfl⟩

open Delivery in
theorem computed_local_delivery :
    let source := only store.source [.repeating 6] (.repeating 4)
    catalog.DistinctIds ∧
      catalog.AnswerAlike store.source source ⟨0, 0⟩ (delivery [.repeating 6]) count ∧
      catalog.SameUnder store.source source ⟨0, 0⟩ (delivery [.repeating 6]) count := by
  intro source
  have hd : catalog.DistinctIds := by decide
  have ha : catalog.AnswerAlike store.source source ⟨0, 0⟩ (delivery [.repeating 6]) count := by
    intro s hs _ ids target hq
    have hs' : s ∈ [⟨products, .lookup productOptions⟩,
      ⟨count, .rollup countOptions (.ok .count)⟩] := hs
    rcases List.mem_pair.1 hs' with rfl | rfl
    · have hq' : some ([Uuid.repeating 6], Uuid.repeating 4) = some (ids, target) := hq
      cases hq'
      exact (fetch_only _ _ _).symm
    · cases hq
  exact ⟨hd, ha, (computed_local hd (by decide) rfl _ _ _ _).1 ha⟩

end Catalog

end FieldCalc
