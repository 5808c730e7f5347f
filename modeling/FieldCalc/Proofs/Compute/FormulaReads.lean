import FieldCalc.Proofs.Compute.Reads

/-!
# What a formula reads

A formula field comes to the same on two records if the keys under which its references may be read
hold the same in both, or nothing in both (`formula_reads_references`).  Nothing else that is stored
counts, nor what was computed before in the same pass, nor any linked record.
-/

namespace FieldCalc

namespace Catalog

section References

variable {c : Catalog} {r r' : Record}

/-- The keys that the value of a reference may be read under: itself, that of the field with the
name, and that of the field with the identifier it spells. -/
def reachedKeys (c : Catalog) (ref : String) : List String :=
  ref :: ((c.named? ref).toList ++ ((Uuid.ofText? ref).bind c.field?).toList).map Field.key

/-- Two records hold the same under every key that a reference of a formula may be read under. -/
def AgreeOnReferences (c : Catalog) (φ : Formula) (r r' : Record) : Prop :=
  ∀ ref ∈ φ.expr.references, ∀ k ∈ c.reachedKeys ref,
    Dictionary.get? r.valueMap k = Dictionary.get? r'.valueMap k

theorem resolve_eq_of_reachedKeys {v v' : ValueMap} {ref : String}
    (h : ∀ k ∈ c.reachedKeys ref, Dictionary.get? v k = Dictionary.get? v' k) :
    c.resolve v ref = c.resolve v' ref := by
  refine resolve_eq rfl rfl (h ref (by simp [reachedKeys])) (fun g hg => ?_) fun g hg => ?_
  · exact h g.key (by simp [reachedKeys, hg])
  · exact h g.key (by simp [reachedKeys, hg])

/-- A formula comes to the same, value or error, on records that agree on its references, whatever
else they hold, whatever was computed before, and whatever the linked records are; and that is what
is written for it where no later step sets the same field. -/
theorem formula_reads_references {f : Field} {o : FormulaOptions} {φ : Formula} (hf : f ∈ c)
    (formula : f.kind = .formula o) (compiled : Formula.compile o.expression = .ok φ)
    (agree : c.AgreeOnReferences φ r r') :
    let s : Step := ⟨f, .formula (.ok φ) o.resultType⟩
    s ∈ c.steps ∧ ∀ (source source' : LinkedSource) (now : Moment),
      (∀ working working', (c.setting source now).value r.valueMap working s =
        (c.setting source' now).value r'.valueMap working' s) ∧
      ∀ before after, c.steps = before ++ s :: after → (∀ t ∈ after, t.field.id ≠ f.id) →
        Dictionary.get? ((c.setting source now).computeRecord r).1.members f.key =
          Dictionary.get? ((c.setting source' now).computeRecord r').1.members f.key := by
  intro s
  have hs := mem_steps_of_formula hf formula
  rw [compiled] at hs
  refine ⟨hs, fun source source' now => ?_⟩
  have hv : ∀ working working', (c.setting source now).value r.valueMap working s =
      (c.setting source' now).value r'.valueMap working' s := by
    intro working working'
    refine Setting.formulaValue_eq fun ψ hψ => ⟨rfl, fun ref href => ?_⟩
    obtain rfl : φ = ψ := Except.ok.inj hψ
    exact resolve_eq_of_reachedKeys (agree ref href)
  refine ⟨hv, fun before after turn last => ?_⟩
  have hw := get?_members_of_last (g := c.setting source now) (r := r) turn last
  have hw' := get?_members_of_last (g := c.setting source' now) (r := r') turn last
  refine hw.trans (Eq.trans ?_ hw'.symm)
  rw [hv]

end References

/-! ### The total of an invoice -/

namespace Invoice

def price : Field := ⟨.repeating 1, .repeating 0, "Price", .plain .number⟩

def quantity : Field := ⟨.repeating 2, .repeating 0, "Quantity", .plain .number⟩

def totalOptions : FormulaOptions :=
  { expression := "\x7bPrice\x7d * \x7b22222222-2222-2222-2222-222222222222\x7d" }

def total : Field := ⟨.repeating 3, .repeating 0, "Total", .formula totalOptions⟩

def catalog : Catalog := [total, price, quantity]

def invoice (rest : List (String × Json)) : Record :=
  ⟨.repeating 5, .repeating 0, .obj ([(price.key, .int 3), (quantity.key, .int 2)] ++ rest)⟩

/-- An invoice with another total than it should have. -/
def stale : Record := invoice [(total.key, .int 7), ("note", .str "hurry")]

theorem agreeOnReferences {φ : Formula} (h : φ.expr.references =
    ["Price", "22222222-2222-2222-2222-222222222222"]) :
    catalog.AgreeOnReferences φ (invoice []) stale := by
  have hp : catalog.reachedKeys "Price" = ["Price", price.key] := by decide
  have hq : catalog.reachedKeys "22222222-2222-2222-2222-222222222222" =
      ["22222222-2222-2222-2222-222222222222", quantity.key] := by decide
  unfold AgreeOnReferences
  simp only [h, List.forall_mem_cons, hp, hq, List.not_mem_nil, false_implies, implies_true,
    and_true]
  exact ⟨⟨rfl, rfl⟩, rfl, rfl⟩

end Invoice

open Invoice in
theorem formula_reads_references_invoice :
    let g := catalog.setting Store.empty.source ⟨0, 0⟩
    let g' := catalog.setting ⟨fun _ _ => .error (.fetch "offline")⟩ ⟨0, 0⟩
    Dictionary.get? (g.computeRecord (invoice [])).1.members total.key =
      Dictionary.get? (g'.computeRecord stale).1.members total.key := by
  obtain ⟨φ, hφ, hrefs⟩ : ∃ φ, Formula.compile totalOptions.expression = .ok φ ∧
      φ.expr.references = ["Price", "22222222-2222-2222-2222-222222222222"] :=
    Formula.exists_compile (by decide +kernel)
  obtain ⟨hs, h⟩ := formula_reads_references (c := catalog) (f := total) (by decide) rfl hφ
    (agreeOnReferences hrefs)
  have hc : catalog.steps = [] ++ ⟨total, .formula (.ok φ) none⟩ :: [] := hφ ▸ rfl
  exact (h _ _ _).2 [] [] hc (by simp)

end Catalog

end FieldCalc
