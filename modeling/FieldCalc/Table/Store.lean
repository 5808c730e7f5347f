import FieldCalc.Table.Record

/-!
# Record stores

Records kept by their identifiers, and sources of the values in linked records.  A store is seen
through `get?`: putting a record in changes what is found under its identifier, taking one out
leaves nothing there, and either leaves everything else alone.
-/

namespace FieldCalc

/-- Answers what the value of a field is in each of the given records that there is. -/
structure LinkedSource where
  fetch : List Uuid → Uuid → Except FieldError (List Value)

/-- Records, at most one with an identifier. -/
structure Store where
  records : List Record
  distinct : records.Pairwise fun r s => r.id ≠ s.id

namespace Store

def empty : Store := ⟨[], .nil⟩

def get? (s : Store) (id : Uuid) : Option Record := s.records.find? fun r => r.id == id

/-- The store without the record of an identifier. -/
def erase (s : Store) (id : Uuid) : Store :=
  ⟨s.records.filter fun r => r.id != id, s.distinct.filter _⟩

theorem id_ne_of_mem_erase {s : Store} {id : Uuid} {r : Record} (h : r ∈ (s.erase id).records) :
    r.id ≠ id := by
  simpa [erase] using (List.mem_filter.1 h).2

/-- The store with a record put in the place of the one that had its identifier. -/
def insert (s : Store) (r : Record) : Store :=
  ⟨r :: (s.erase r.id).records,
    List.pairwise_cons.2 ⟨fun _ h => (id_ne_of_mem_erase h).symm, (s.erase r.id).distinct⟩⟩

def insertAll (s : Store) (rs : List Record) : Store := rs.foldl insert s

def ofList (rs : List Record) : Store := empty.insertAll rs

/-- Puts a record in, and answers the one that had its identifier. -/
def put (s : Store) (r : Record) : Option Record × Store := (s.get? r.id, s.insert r)

/-- Takes out the record of an identifier, and answers it. -/
def take (s : Store) (id : Uuid) : Option Record × Store := (s.get? id, s.erase id)

def size (s : Store) : Nat := s.records.length

def isEmpty (s : Store) : Bool := s.records.isEmpty

/-- The values of a field in the records there are, each record once, in the order in which their
identifiers first appear. -/
def fetch (s : Store) (ids : List Uuid) (field : Uuid) : List Value :=
  (ids.eraseDups.filterMap s.get?).map fun r => r.get field

/-- A store as a source of linked values. -/
def source (s : Store) : LinkedSource := ⟨fun ids field => .ok (s.fetch ids field)⟩

/-! ### Finding records -/

@[simp] theorem get?_empty (id : Uuid) : empty.get? id = none := rfl

theorem id_of_get? {s : Store} {id : Uuid} {r : Record} (h : s.get? id = some r) : r.id = id := by
  simpa using List.find?_some h

theorem get?_erase (s : Store) (id key : Uuid) :
    (s.erase id).get? key = if key = id then none else s.get? key := by
  unfold get? erase
  rw [List.find?_filter]
  split
  · rename_i h
    subst h
    exact List.find?_eq_none.2 fun r _ => by simp
  · rename_i h
    congr 1
    funext r
    by_cases hr : r.id = key
    · simp [hr, h]
    · simp [hr]

theorem get?_insert (s : Store) (r : Record) (key : Uuid) :
    (s.insert r).get? key = if key = r.id then some r else s.get? key := by
  have : (s.insert r).get? key = if r.id = key then some r else (s.erase r.id).get? key := by
    unfold get? insert
    by_cases h : r.id = key
    · simp [h]
    · simp [h]
  rw [this, get?_erase]
  by_cases h : r.id = key
  · simp [h]
  · simp [h, Ne.symm h]

end Store

end FieldCalc
