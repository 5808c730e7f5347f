import Mathlib.Data.List.Forall2
import FieldCalc.Proofs.Number.Closest
import FieldCalc.Value.Basic

/-!
# Documents through values

A stored document that is read as a value and written back keeps its structure and its texts.  Each
of its numbers comes back as that of a closest float (`alike_closest`), so what holds no other
numbers than those of floats is kept to the last digit (`alike_eq`).
-/

namespace FieldCalc

namespace Json

/-- The number that a document is. -/
def number? : Json → Option ℚ
  | .int n => some n
  | .float x => Number.value? x
  | _ => none

/-- Two documents of the same structure with the same texts, and with numbers related by `R`. -/
inductive Alike (R : ℚ → ℚ → Prop) : Json → Json → Prop
  | null : Alike R .null .null
  | bool (b : Bool) : Alike R (.bool b) (.bool b)
  | number {i j : Json} {p q : ℚ} : i.number? = some p → j.number? = some q → R p q → Alike R i j
  | str (s : String) : Alike R (.str s) (.str s)
  | arr {is js : List Json} : List.Forall₂ (Alike R) is js → Alike R (.arr is) (.arr js)
  | obj {ms ns : List (String × Json)} : ms.map Prod.fst = ns.map Prod.fst →
      List.Forall₂ (Alike R) (ms.map Prod.snd) (ns.map Prod.snd) → Alike R (.obj ms) (.obj ns)

mutual

/-- The numbers in a document. -/
def numbers : Json → List Json
  | .int n => [.int n]
  | .float x => [.float x]
  | .arr items => itemNumbers items
  | .obj members => memberNumbers members
  | _ => []

def itemNumbers : List Json → List Json
  | [] => []
  | j :: js => j.numbers ++ itemNumbers js

def memberNumbers : List (String × Json) → List Json
  | [] => []
  | (_, j) :: ms => j.numbers ++ memberNumbers ms

end

/-- A number as it is read from a text. -/
def IsStored : Json → Prop
  | .int n => -2 ^ 63 ≤ n ∧ n < 2 ^ 64
  | .float x => Number.isFinite x
  | _ => False

end Json

namespace Value

variable {R : ℚ → ℚ → Prop}

theorem keys_toMembers_ofMembers (ms : List (String × Json)) :
    (toMembers (ofMembers ms)).map Prod.fst = ms.map Prod.fst := by
  rw [toMembers_eq_map, ofMembers_eq_map]
  simp

mutual

/-- A document comes back alike if its numbers do. -/
theorem alike_toJson_ofJson : ∀ {j : Json},
    (∀ n ∈ j.numbers, Json.Alike R n (ofJson n).toJson) → Json.Alike R j (ofJson j).toJson
  | .null, _ => .null
  | .bool b, _ => .bool b
  | .int n, h => h (.int n) (by simp [Json.numbers])
  | .float x, h => h (.float x) (by simp [Json.numbers])
  | .str s, _ => .str s
  | .arr items, h => by
    rw [Json.numbers] at h
    exact .arr (forall₂_items h)
  | .obj members, h => by
    rw [Json.numbers] at h
    exact .obj (keys_toMembers_ofMembers members).symm (forall₂_members h)

theorem forall₂_items : ∀ {js : List Json},
    (∀ n ∈ Json.itemNumbers js, Json.Alike R n (ofJson n).toJson) →
      List.Forall₂ (Json.Alike R) js (toItems (ofItems js))
  | [], _ => .nil
  | j :: js, h => by
    rw [Json.itemNumbers, List.forall_mem_append] at h
    exact .cons (alike_toJson_ofJson h.1) (forall₂_items h.2)

theorem forall₂_members : ∀ {ms : List (String × Json)},
    (∀ n ∈ Json.memberNumbers ms, Json.Alike R n (ofJson n).toJson) →
      List.Forall₂ (Json.Alike R) (ms.map Prod.snd) ((toMembers (ofMembers ms)).map Prod.snd)
  | [], _ => .nil
  | (k, j) :: ms, h => by
    rw [Json.memberNumbers, List.forall_mem_append] at h
    exact .cons (alike_toJson_ofJson h.1) (forall₂_members h.2)

end

/-- A number is written as an integer, as itself or, if it is not finite, as null. -/
theorem numberJson_cases (x : Float) :
    (∃ n, Number.integer? x = some n ∧ n.natAbs < 2 ^ 53 ∧ numberJson x = .int n) ∨
      (Number.isFinite x ∧ numberJson x = .float x) ∨
      (Number.isFinite x = false ∧ numberJson x = .null) := by
  unfold numberJson
  cases hi : Number.integer? x with
  | some n =>
    have hx : Number.isFinite x := Number.isFinite_iff.2 ⟨n, Number.value?_of_integer? hi⟩
    dsimp only
    split
    · rename_i hn
      exact .inl ⟨n, rfl, hn, rfl⟩
    · exact .inr (.inl ⟨hx, rfl⟩)
  | none =>
    cases hx : Number.isFinite x with
    | true => exact .inr (.inl ⟨rfl, rfl⟩)
    | false => exact .inr (.inr ⟨rfl, rfl⟩)

/-- A finite number is written as itself. -/
theorem number?_numberJson {x : Float} {q : ℚ} (h : Number.value? x = some q) :
    (numberJson x).number? = some q := by
  rcases numberJson_cases x with ⟨n, hi, -, hj⟩ | ⟨-, hj⟩ | ⟨hx, -⟩
  · rw [hj]
    exact (Number.value?_of_integer? hi).symm.trans h
  · rw [hj]
    exact h
  · rw [Number.isFinite_iff.2 ⟨q, h⟩] at hx
    cases hx

/-- A stored number comes back as that of a closest float. -/
theorem exists_closest {j : Json} (h : j.IsStored) :
    ∃ p q, j.number? = some p ∧ (ofJson j).toJson.number? = some q ∧ Number.Closest p q := by
  cases j with
  | int n =>
    obtain ⟨q, hq, hc⟩ := Number.closest_ofInt (n := n) (by have := h.1; have := h.2; omega)
    exact ⟨n, q, rfl, number?_numberJson hq, hc⟩
  | float x =>
    obtain ⟨q, hq⟩ := Number.isFinite_iff.1 h
    exact ⟨q, q, hq, number?_numberJson hq, Number.IsValue.closest ⟨x, hq⟩⟩
  | _ => exact h.elim

theorem alike_closest {j : Json} (h : ∀ n ∈ j.numbers, n.IsStored) :
    Json.Alike Number.Closest j (ofJson j).toJson := by
  refine alike_toJson_ofJson fun n hn => ?_
  obtain ⟨p, q, hp, hq, hc⟩ := exists_closest (h n hn)
  exact .number hp hq hc

/-- A document whose numbers are those of floats comes back with the same numbers. -/
theorem alike_eq {j : Json} (h : ∀ n ∈ j.numbers, n.IsStored)
    (hv : ∀ n ∈ j.numbers, ∀ p, n.number? = some p → Number.IsValue p) :
    Json.Alike (· = ·) j (ofJson j).toJson := by
  refine alike_toJson_ofJson fun n hn => ?_
  obtain ⟨p, q, hp, hq, hc⟩ := exists_closest (h n hn)
  exact .number hp hq (hc.eq (hv n hn p hp)).symm

/-- An integer comes back as another number exactly if it is no float. -/
theorem alike_eq_int_iff {n : ℤ} (h : (Json.int n).IsStored) :
    Json.Alike (· = ·) (.int n) (ofJson (.int n)).toJson ↔ Number.IsValue n := by
  obtain ⟨p, q, hp, hq, hc⟩ := exists_closest h
  obtain rfl : (n : ℚ) = p := Option.some.inj hp
  constructor
  · intro ha
    cases ha with
    | number hp' hq' he =>
      obtain rfl : (n : ℚ) = _ := Option.some.inj hp'
      rw [hq'] at hq
      rw [he, Option.some.inj hq]
      exact hc.1
  · intro hv
    exact .number hp hq (hc.eq hv).symm

end Value

end FieldCalc
