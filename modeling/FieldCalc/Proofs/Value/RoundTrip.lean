import FieldCalc.Proofs.Number.Order
import FieldCalc.Proofs.Value.Stored

/-!
# Values through documents

A value that is written to a document and read back is the same value with null in the place of the
numbers that are not finite (`read_back`): documents have no such numbers, and the integers that
others are written as are those of floats.  What was read back is written as it was before.
-/

namespace FieldCalc

namespace Value

mutual

/-- Whether two values are the same.  Numbers are compared as floats, so that the two zeros are the
same and a NaN is not even the same as itself. -/
def same : Value → Value → Bool
  | .null, .null => true
  | .bool a, .bool b => a == b
  | .number x, .number y => Number.order? x y == some .eq
  | .text s, .text t => s == t
  | .list vs, .list ws => sameItems vs ws
  | .object ms, .object ns => sameMembers ms ns
  | _, _ => false

def sameItems : List Value → List Value → Bool
  | [], [] => true
  | v :: vs, w :: ws => v.same w && sameItems vs ws
  | _, _ => false

def sameMembers : List (String × Value) → List (String × Value) → Bool
  | [], [] => true
  | (k, v) :: ms, (l, w) :: ns => k == l && v.same w && sameMembers ms ns
  | _, _ => false

end

mutual

/-- The value with null in the place of every number that is not finite. -/
def storable : Value → Value
  | .number x => if Number.isFinite x then .number x else .null
  | .list items => .list (storableItems items)
  | .object members => .object (storableMembers members)
  | v => v

def storableItems : List Value → List Value
  | [] => []
  | v :: vs => v.storable :: storableItems vs

def storableMembers : List (String × Value) → List (String × Value)
  | [] => []
  | (k, v) :: ms => (k, v.storable) :: storableMembers ms

end

mutual

/-- The numbers in a value. -/
def numbers : Value → List Float
  | .number x => [x]
  | .list items => itemNumbers items
  | .object members => memberNumbers members
  | _ => []

def itemNumbers : List Value → List Float
  | [] => []
  | v :: vs => v.numbers ++ itemNumbers vs

def memberNumbers : List (String × Value) → List Float
  | [] => []
  | (_, v) :: ms => v.numbers ++ memberNumbers ms

end

/-! ### Numbers -/

theorem same_number_storable (x : Float) :
    (ofJson (numberJson x)).same (storable (.number x)) := by
  rw [storable]
  rcases numberJson_cases x with ⟨n, hi, hn, h⟩ | ⟨hx, h⟩ | ⟨hx, h⟩
  · have hv := Number.value?_of_integer? hi
    rw [h, if_pos (Number.isFinite_iff.2 ⟨n, hv⟩)]
    exact beq_iff_eq.2 (Number.order?_eq_eq (Number.value?_ofInt hn.le) hv)
  · obtain ⟨q, hq⟩ := Number.isFinite_iff.1 hx
    rw [h, if_pos hx]
    exact beq_iff_eq.2 (Number.order?_eq_eq hq hq)
  · rw [h, hx]
    rfl

theorem toJson_ofJson_numberJson (x : Float) : (ofJson (numberJson x)).toJson = numberJson x := by
  rcases numberJson_cases x with ⟨n, hi, hn, h⟩ | ⟨hx, h⟩ | ⟨hx, h⟩
  · have hi' := Number.integer?_of_value? (Number.value?_ofInt hn.le)
    rw [h, ofJson, toJson, numberJson, hi']
    exact if_pos hn
  · rw [h, ofJson, toJson, h]
  · rw [h, ofJson, toJson]

/-! ### Values of any nesting -/

mutual

theorem same_storable : ∀ v : Value, (ofJson v.toJson).same v.storable
  | .null => rfl
  | .bool b => beq_self_eq_true b
  | .number x => same_number_storable x
  | .text s => beq_self_eq_true s
  | .list items => sameItems_storable items
  | .object members => sameMembers_storable members

theorem sameItems_storable : ∀ vs : List Value,
    sameItems (ofItems (toItems vs)) (storableItems vs)
  | [] => rfl
  | v :: vs => Bool.and_eq_true_iff.2 ⟨same_storable v, sameItems_storable vs⟩

theorem sameMembers_storable : ∀ ms : List (String × Value),
    sameMembers (ofMembers (toMembers ms)) (storableMembers ms)
  | [] => rfl
  | (k, v) :: ms => Bool.and_eq_true_iff.2
      ⟨Bool.and_eq_true_iff.2 ⟨beq_self_eq_true k, same_storable v⟩, sameMembers_storable ms⟩

end

mutual

theorem storable_eq : ∀ {v : Value}, (∀ x ∈ v.numbers, Number.isFinite x) → v.storable = v
  | .null, _ => rfl
  | .bool _, _ => rfl
  | .number x, h => if_pos (h x List.mem_cons_self)
  | .text _, _ => rfl
  | .list _, h => congrArg list (storableItems_eq h)
  | .object _, h => congrArg object (storableMembers_eq h)

theorem storableItems_eq : ∀ {vs : List Value}, (∀ x ∈ itemNumbers vs, Number.isFinite x) →
    storableItems vs = vs
  | [], _ => rfl
  | v :: vs, h => by
    rw [itemNumbers, List.forall_mem_append] at h
    rw [storableItems, storable_eq h.1, storableItems_eq h.2]

theorem storableMembers_eq : ∀ {ms : List (String × Value)},
    (∀ x ∈ memberNumbers ms, Number.isFinite x) → storableMembers ms = ms
  | [], _ => rfl
  | (k, v) :: ms, h => by
    rw [memberNumbers, List.forall_mem_append] at h
    rw [storableMembers, storable_eq h.1, storableMembers_eq h.2]

end

mutual

theorem isFinite_of_same : ∀ {v : Value}, (ofJson v.toJson).same v →
    ∀ x ∈ v.numbers, Number.isFinite x
  | .null, _ => nofun
  | .bool _, _ => nofun
  | .number x, h => by
    refine List.forall_mem_singleton.2 ?_
    rcases numberJson_cases x with ⟨n, hi, -, -⟩ | ⟨hx, -⟩ | ⟨-, hj⟩
    · exact Number.isFinite_iff.2 ⟨n, Number.value?_of_integer? hi⟩
    · exact hx
    · -- null is not the same as a number
      rw [toJson, hj] at h
      cases h
  | .text _, _ => nofun
  | .list _, h => isFinite_of_sameItems h
  | .object _, h => isFinite_of_sameMembers h

theorem isFinite_of_sameItems : ∀ {vs : List Value}, sameItems (ofItems (toItems vs)) vs →
    ∀ x ∈ itemNumbers vs, Number.isFinite x
  | [], _ => nofun
  | v :: vs, h => by
    obtain ⟨hv, hvs⟩ := Bool.and_eq_true_iff.1 h
    exact List.forall_mem_append.2 ⟨isFinite_of_same hv, isFinite_of_sameItems hvs⟩

theorem isFinite_of_sameMembers : ∀ {ms : List (String × Value)},
    sameMembers (ofMembers (toMembers ms)) ms → ∀ x ∈ memberNumbers ms, Number.isFinite x
  | [], _ => nofun
  | (k, v) :: ms, h => by
    obtain ⟨hv, hms⟩ := Bool.and_eq_true_iff.1 h
    exact List.forall_mem_append.2
      ⟨isFinite_of_same (Bool.and_eq_true_iff.1 hv).2, isFinite_of_sameMembers hms⟩

end

mutual

/-- What was read back is written as it was before. -/
theorem toJson_ofJson_toJson : ∀ v : Value, (ofJson v.toJson).toJson = v.toJson
  | .null => rfl
  | .bool _ => rfl
  | .number x => toJson_ofJson_numberJson x
  | .text _ => rfl
  | .list items => congrArg Json.arr (toItems_ofItems_toItems items)
  | .object members => congrArg Json.obj (toMembers_ofMembers_toMembers members)

theorem toItems_ofItems_toItems : ∀ vs : List Value, toItems (ofItems (toItems vs)) = toItems vs
  | [] => rfl
  | v :: vs => by
    rw [toItems, ofItems, toItems, toJson_ofJson_toJson v, toItems_ofItems_toItems vs]

theorem toMembers_ofMembers_toMembers : ∀ ms : List (String × Value),
    toMembers (ofMembers (toMembers ms)) = toMembers ms
  | [] => rfl
  | (k, v) :: ms => by
    rw [toMembers, ofMembers, toMembers, toJson_ofJson_toJson v, toMembers_ofMembers_toMembers ms]

end

/-- A value that is written and read back has null in the place of the numbers that are not finite
and is the same otherwise, so it is the same altogether exactly if all its numbers are finite.
Written once more it gives the same document. -/
theorem read_back (v : Value) :
    (ofJson v.toJson).same v.storable ∧
      ((ofJson v.toJson).same v ↔ ∀ x ∈ v.numbers, Number.isFinite x) ∧
      (ofJson v.toJson).toJson = v.toJson := by
  refine ⟨same_storable v, ⟨isFinite_of_same, fun h => ?_⟩, toJson_ofJson_toJson v⟩
  have hs := same_storable v
  rwa [storable_eq h] at hs

end Value

end FieldCalc
