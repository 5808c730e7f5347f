import FieldCalc.Proofs.Lists
import FieldCalc.Table.Store
import Mathlib.Data.Finset.Card

/-!
# Stores after a run of operations

A store that records were put into and taken out of, from the empty one, is read off the history
of its changes: what is found under an identifier is the record that the last change under it put in
(`follows_run`).  `run_reads` says so of everything a store answers.  The values it fetches for
linked records come from the records held, in the order in which their identifiers first appear
(`fetch_shows`).
-/

namespace FieldCalc

/-! ### What a record shows -/

/-- A value that a record shows for a field. -/
inductive Record.Shows (r : Record) (field : Uuid) : Value → Prop where
  | stored {ms : Dictionary Json} {j : Json} :
    r.data = .obj ms → Dictionary.get? ms field.toText = some j → r.Shows field (.ofJson j)
  | missing {ms : Dictionary Json} :
    r.data = .obj ms → Dictionary.get? ms field.toText = none → r.Shows field .null
  | notAnObject : (∀ ms, r.data ≠ .obj ms) → r.Shows field .null

theorem Record.shows_get (r : Record) (field : Uuid) : r.Shows field (r.get field) := by
  by_cases h : ∃ ms, r.data = .obj ms
  · obtain ⟨ms, hms⟩ := h
    have hm : r.members = ms := by simp only [members, hms]
    cases hj : Dictionary.get? ms field.toText with
    | none => simpa [Record.get, hm, hj] using Shows.missing hms hj
    | some j => simpa [Record.get, hm, hj] using Shows.stored hms hj
  · have hd : ∀ ms, r.data ≠ .obj ms := fun ms hms => h ⟨ms, hms⟩
    have hm : r.members = [] := by
      unfold members
      split
      · exact absurd ‹_› (hd _)
      · rfl
    simpa [Record.get, hm] using Shows.notAnObject hd

namespace Store

/-! ### Fetching -/

theorem fetched_shows (s : Store) (field : Uuid) (ids : List Uuid) :
    List.Forall₂ (fun id v => ∃ r, s.get? id = some r ∧ r.Shows field v)
      (ids.filter fun id => (s.get? id).isSome)
      ((ids.filterMap s.get?).map fun r => r.get field) := by
  induction ids with
  | nil => exact .nil
  | cons id ids ih =>
    cases h : s.get? id with
    | none => simpa [h] using ih
    | some r => simpa [h] using And.intro (r.shows_get field) ih

/-- A store answers what the records held under the identifiers show, each once, in the order in
which the identifiers first appear. -/
theorem fetch_shows (s : Store) (ids : List Uuid) (field : Uuid) :
    ∃ present vs, s.source.fetch ids field = .ok vs ∧
      (∀ id, id ∈ present ↔ id ∈ ids ∧ ∃ r, s.get? id = some r) ∧
      present.Pairwise (fun a b => ids.idxOf a < ids.idxOf b) ∧
      List.Forall₂ (fun id v => ∃ r, s.get? id = some r ∧ r.Shows field v) present vs := by
  refine ⟨ids.eraseDups.filter fun id => (s.get? id).isSome, _, rfl, fun id => ?_,
    (eraseDups_pairwise_idxOf ids).filter _, s.fetched_shows field _⟩
  rw [List.mem_filter, List.mem_eraseDups, Option.isSome_iff_exists]

/-! ### The records held -/

theorem nodup_ids (s : Store) : (s.records.map Record.id).Nodup := List.pairwise_map.2 s.distinct

theorem get?_eq_some_iff {s : Store} {id : Uuid} {r : Record} :
    s.get? id = some r ↔ r ∈ s.records ∧ r.id = id := find?_key_eq_some_iff s.nodup_ids

/-- The identifiers that records are held under. -/
def held (s : Store) : Finset Uuid := (s.records.map Record.id).toFinset

theorem mem_held {s : Store} {id : Uuid} : id ∈ s.held ↔ ∃ r, s.get? id = some r := by
  simp [held, get?_eq_some_iff]

theorem card_held (s : Store) : s.held.card = s.size := by
  rw [held, List.toFinset_card_of_nodup s.nodup_ids, List.length_map, size]

theorem isEmpty_iff (s : Store) : s.isEmpty ↔ s.size = 0 := by
  rw [isEmpty, size, List.isEmpty_iff, List.length_eq_zero_iff]

/-! ### Changes -/

/-- What a store is asked to do. -/
inductive Operation where
  | insert (r : Record)
  | extend (rs : List Record)
  | remove (id : Uuid)

/-- What happens under one identifier. -/
inductive Change where
  | put (r : Record)
  | drop (id : Uuid)

namespace Change

def id : Change → Uuid
  | put r => r.id
  | drop id => id

/-- What there is under its identifier after a change. -/
def left? : Change → Option Record
  | put r => some r
  | drop _ => none

def apply (s : Store) : Change → Store
  | put r => s.insert r
  | drop id => s.erase id

theorem get?_apply (s : Store) (c : Change) (key : Uuid) :
    (c.apply s).get? key = if c.id = key then c.left? else s.get? key := by
  cases c with
  | put r => exact (get?_insert s r key).trans (by simp [Change.id, left?, eq_comm])
  | drop id => exact (get?_erase s id key).trans (by simp [Change.id, left?, eq_comm])

theorem left?_eq_some_iff {c : Change} {r : Record} : c.left? = some r ↔ c = .put r := by
  cases c with
  | put s => simp [left?]
  | drop id => simp [left?]

end Change

namespace Operation

/-- The store after an operation. -/
def apply (s : Store) : Operation → Store
  | insert r => (s.put r).2
  | extend rs => s.insertAll rs
  | remove id => (s.take id).2

/-- The changes that an operation makes, one after another. -/
def changes : Operation → List Change
  | insert r => [.put r]
  | extend rs => rs.map .put
  | remove id => [.drop id]

theorem apply_eq_foldl (s : Store) (op : Operation) :
    op.apply s = op.changes.foldl Change.apply s := by
  cases op with
  | insert r => rfl
  | extend rs => simp only [apply, changes, List.foldl_map]; rfl
  | remove id => rfl

end Operation

/-- The last change under an identifier put a record in. -/
def LastPut (cs : List Change) (id : Uuid) (r : Record) : Prop :=
  ∃ before after, cs = before ++ .put r :: after ∧ r.id = id ∧ ∀ c ∈ after, c.id ≠ id

theorem lastPut_concat {cs : List Change} {c : Change} {id : Uuid} {r : Record} :
    LastPut (cs ++ [c]) id r ↔ if c.id = id then c = .put r else LastPut cs id r := by
  constructor
  · rintro ⟨before, after, hcs, hr, hafter⟩
    -- the change is the last of those after the record, unless it is the one that put it in
    obtain rfl | ⟨after, x, rfl⟩ := List.eq_nil_or_concat after
    · obtain ⟨rfl, hc⟩ := List.append_inj' hcs rfl
      obtain rfl : c = .put r := by simpa using hc
      rw [if_pos (show (Change.put r).id = id from hr)]
    · rw [List.concat_eq_append] at hcs hafter
      rw [← List.cons_append, ← List.append_assoc] at hcs
      obtain ⟨rfl, hc⟩ := List.append_inj' hcs rfl
      obtain rfl : c = x := by simpa using hc
      rw [if_neg (hafter c (by simp))]
      exact ⟨before, after, rfl, hr, fun d hd => hafter d (List.mem_append_left _ hd)⟩
  · split
    · rintro rfl
      exact ⟨cs, [], rfl, ‹_›, by simp⟩
    · rintro ⟨before, after, rfl, hr, hafter⟩
      refine ⟨before, after ++ [c], by simp, hr, fun d hd => ?_⟩
      rcases List.mem_append.1 hd with hd | hd
      · exact hafter d hd
      · rw [List.mem_singleton.1 hd]
        assumption

/-! ### Runs -/

/-- What is found in a store is what the last change under an identifier left there. -/
def Follows (s : Store) (cs : List Change) : Prop := ∀ id r, s.get? id = some r ↔ LastPut cs id r

theorem follows_empty : empty.Follows [] := fun id r => by simp [LastPut]

theorem Follows.change {s : Store} {cs : List Change} (h : s.Follows cs) (c : Change) :
    (c.apply s).Follows (cs ++ [c]) := fun id r => by
  rw [Change.get?_apply, lastPut_concat]
  split
  · exact Change.left?_eq_some_iff
  · exact h id r

theorem Follows.changes {s : Store} {cs : List Change} (h : s.Follows cs) (more : List Change) :
    (more.foldl Change.apply s).Follows (cs ++ more) := by
  induction more generalizing s cs with
  | nil => simpa using h
  | cons c more ih => simpa using ih (h.change c)

/-- The store after a run of operations from the empty one. -/
def run (ops : List Operation) : Store := ops.foldl Operation.apply empty

def history (ops : List Operation) : List Change := ops.flatMap Operation.changes

theorem Follows.operations {s : Store} {cs : List Change} (h : s.Follows cs)
    (ops : List Operation) : (ops.foldl Operation.apply s).Follows (cs ++ history ops) := by
  induction ops generalizing s cs with
  | nil => simpa [history] using h
  | cons op ops ih =>
    have hop : (op.apply s).Follows (cs ++ op.changes) := by
      rw [Operation.apply_eq_foldl]
      exact h.changes op.changes
    simpa [history] using ih hop

theorem follows_run (ops : List Operation) : (run ops).Follows (history ops) :=
  follows_empty.operations ops

/-- Everything that a store answers after a run of operations, by the history of its changes. -/
theorem run_reads (ops : List Operation) :
    (∀ id r, (run ops).get? id = some r ↔ LastPut (history ops) id r) ∧
    (∀ r old, ((run ops).put r).1 = some old ↔ LastPut (history ops) r.id old) ∧
    (∀ id old, ((run ops).take id).1 = some old ↔ LastPut (history ops) id old) ∧
    (∃ held : Finset Uuid, (∀ id, id ∈ held ↔ ∃ r, LastPut (history ops) id r) ∧
      (run ops).size = held.card) ∧
    ((run ops).isEmpty ↔ (run ops).size = 0) ∧
    ∀ ids field, ∃ present vs, (run ops).source.fetch ids field = .ok vs ∧
      (∀ id, id ∈ present ↔ id ∈ ids ∧ ∃ r, LastPut (history ops) id r) ∧
      present.Pairwise (fun a b => ids.idxOf a < ids.idxOf b) ∧
      List.Forall₂ (fun id v => ∃ r, LastPut (history ops) id r ∧ r.Shows field v) present vs := by
  have h := follows_run ops
  refine ⟨h, fun r => h r.id, h, ⟨(run ops).held, fun id => ?_, (card_held _).symm⟩,
    isEmpty_iff _, fun ids field => ?_⟩
  · simp only [mem_held, h id _]
  · simpa only [h _ _] using (run ops).fetch_shows ids field

end Store

end FieldCalc
