import FieldCalc.Proofs.Compute.Pass

/-!
# What computing leaves alone

Records of a batch are computed each by itself, and nothing but the members of computed fields is
written into their documents (`computed_frames`).  All that a pass writes are its updates, and these
are keyed by the fields of its steps (`mem_keys_updates`); the working values, in which stored
numbers have become floats, never reach a document.
-/

namespace FieldCalc

/-! ### Keys of updates -/

theorem Setting.mem_keys_foldl_step (g : Setting) (r : Record) (p : Progress) (ss : List Step)
    (k : String) : k ∈ Dictionary.keys (ss.foldl (g.step r) p).updates ↔
      k ∈ Dictionary.keys p.updates ∨ k ∈ ss.map fun s => s.field.key := by
  induction ss generalizing p with
  | nil => simp
  | cons s ss ih =>
    rw [List.foldl_cons, ih, step_updates, Dictionary.mem_keys_insert, or_assoc, List.map_cons,
      List.mem_cons]

namespace Catalog

variable {c : Catalog} {source : LinkedSource} {now : Moment} {r : Record}

theorem mem_map_key_steps {k : String} :
    k ∈ c.steps.map (fun s => s.field.key) ↔ ∃ f ∈ c, f.isComputed ∧ f.key = k := by
  rw [List.mem_map]
  constructor
  · rintro ⟨s, hs, rfl⟩
    exact ⟨s.field, (mem_steps.1 hs).1, isComputed_of_mem_steps hs, rfl⟩
  · rintro ⟨f, hf, hc, rfl⟩
    obtain ⟨s, hs, rfl⟩ := exists_step hf hc
    exact ⟨s, hs, rfl⟩

theorem steps_eq_nil_iff : c.steps = [] ↔ ∀ f ∈ c, ¬ f.isComputed := by
  rw [List.eq_nil_iff_forall_not_mem]
  constructor
  · intro h f hf hc
    obtain ⟨s, hs, -⟩ := exists_step hf hc
    exact h s hs
  · intro h s hs
    exact h s.field (mem_steps.1 hs).1 (isComputed_of_mem_steps hs)

/-- The updates of a record are for the computed fields, all of them and no others. -/
theorem mem_keys_updates {k : String} :
    k ∈ Dictionary.keys ((c.setting source now).progress r).updates ↔
      ∃ f ∈ c, f.isComputed ∧ f.key = k := by
  rw [← mem_map_key_steps]
  refine (Setting.mem_keys_foldl_step _ r _ c.steps k).trans ?_
  exact or_iff_right List.not_mem_nil

/-! ### Documents -/

/-- The record `out` is the record `r` but for the members of computed fields. -/
structure Frames (c : Catalog) (r out : Record) : Prop where
  id_eq : out.id = r.id
  table_eq : out.table = r.table
  /-- Where nothing is computed the document may be anything. -/
  unchanged : (∀ f ∈ c, ¬ f.isComputed) → out = r
  data_eq : (∃ f ∈ c, f.isComputed) → out.data = .obj out.members
  mem_keys : ∀ k, k ∈ Dictionary.keys out.members ↔
    k ∈ Dictionary.keys r.members ∨ ∃ f ∈ c, f.isComputed ∧ f.key = k
  get?_eq : ∀ k, (∀ f ∈ c, f.isComputed → f.key ≠ k) →
    Dictionary.get? out.members k = Dictionary.get? r.members k
  ascending : Dictionary.Ascending r.members → Dictionary.Ascending out.members

theorem frames_refl (h : ∀ f ∈ c, ¬ f.isComputed) (r : Record) : Frames c r r where
  id_eq := rfl
  table_eq := rfl
  unchanged _ := rfl
  data_eq := by
    rintro ⟨f, hf, hc⟩
    exact absurd hc (h f hf)
  mem_keys _ := by
    refine (or_iff_left ?_).symm
    rintro ⟨f, hf, hc, -⟩
    exact h f hf hc
  get?_eq _ _ := rfl
  ascending := id

theorem frames_computeRecord (hc : ∃ f ∈ c, f.isComputed) (r : Record) :
    Frames c r ((c.setting source now).computeRecord r).1 := by
  have hkeys : ∀ k,
      k ∈ Dictionary.keys (Value.toMembers ((c.setting source now).progress r).updates) ↔
        ∃ f ∈ c, f.isComputed ∧ f.key = k := by
    intro k
    rw [Value.toMembers_eq_map, Dictionary.keys_map]
    exact mem_keys_updates
  constructor
  case id_eq => rfl
  case table_eq => rfl
  case unchanged =>
    intro h
    obtain ⟨f, hf, hc⟩ := hc
    exact absurd hc (h f hf)
  case data_eq => exact fun _ => rfl
  case mem_keys =>
    intro k
    rw [← hkeys]
    exact Dictionary.mem_keys_insertAll
  case get?_eq =>
    intro k hk
    refine Dictionary.get?_insertAll_of_forall_ne _ _ _ fun e he hek => ?_
    obtain ⟨f, hf, hc, hfk⟩ := (hkeys k).1 (hek ▸ List.mem_map_of_mem he)
    exact hk f hf hc hfk
  case ascending => exact fun h => h.insertAll _

/-- Whatever the catalog, the source and the batch are, every record is computed by itself, and only
the members of computed fields are written. -/
theorem computed_frames (c : Catalog) (source : LinkedSource) (now : Moment) :
    ∃ out : Record → Record,
      (∀ rs, c.computed source now rs = rs.map out) ∧ ∀ r, c.Frames r (out r) := by
  by_cases h : ∀ f ∈ c, ¬ f.isComputed
  · refine ⟨id, fun rs => ?_, frames_refl h⟩
    rw [computed_of_steps_eq_nil (steps_eq_nil_iff.2 h), List.map_id]
  · push Not at h
    obtain ⟨f, hf, hc⟩ := h
    obtain ⟨s, hs, -⟩ := exists_step hf hc
    exact ⟨_, computed_eq_map hs, frames_computeRecord ⟨f, hf, hc⟩⟩

/-! ### A row with numbers of both kinds -/

namespace Ledger

def amount : Field := ⟨.repeating 1, .repeating 0, "Amount", .plain .number⟩

def twice : Field :=
  ⟨.repeating 2, .repeating 0, "Twice", .formula { expression := "\x7bAmount\x7d * 2" }⟩

def catalog : Catalog := [amount, twice]

/-- A float without a fraction, and an integer that is no float. -/
def row : Record :=
  ⟨.repeating 5, .repeating 0, .obj [(amount.key, .float 1.0), ("serial", .int (9007199254740993))]⟩

end Ledger

open Ledger in
theorem computed_frames_ledger (source : LinkedSource) (now : Moment) :
    ∃ out, catalog.computed source now [row, row] = [out, out] ∧
      Dictionary.get? out.members amount.key = some (.float 1.0) ∧
      Dictionary.get? out.members "serial" = some (.int (9007199254740993)) ∧
      twice.key ∈ Dictionary.keys out.members := by
  obtain ⟨out, hout, hf⟩ := computed_frames catalog source now
  have hne : ∀ f ∈ catalog, f.isComputed → f = twice := by
    intro f hf hc
    have hm : f = amount ∨ f = twice := by simpa [catalog] using hf
    rcases hm with rfl | rfl
    · cases hc
    · rfl
  refine ⟨out row, hout [row, row], ?_, ?_, ?_⟩
  · rw [(hf row).get?_eq _ fun f hf hc => hne f hf hc ▸ by decide]
    rfl
  · rw [(hf row).get?_eq _ fun f hf hc => hne f hf hc ▸ by decide]
    rfl
  · exact ((hf row).mem_keys _).2 (.inr ⟨twice, by decide, rfl, rfl⟩)

end Catalog

end FieldCalc
