import FieldCalc.Formula.Builtin

/-!
# Leaves of arguments

`SUM`, `AVERAGE`, `MIN` and `MAX` open the lists among their arguments at every depth and compute
with the numbers of what they find there, the leaves (`leafNumbersOf_eq_map`).  So it does not
matter how the leaves are grouped into lists and where empty lists stand between them
(`call_eq_of_leavesOf_eq`).
-/

namespace FieldCalc

namespace Value

/-! ### Leaves -/

def IsLeaf (v : Value) : Prop := ∀ items, v ≠ .list items

/-- Lists in lists, and nothing in any of them. -/
inductive Hollow : Value → Prop
  | list {items : List Value} (h : ∀ v ∈ items, Hollow v) : Hollow (.list items)

mutual

/-- What a value holds that is no list, from left to right. -/
def leaves : Value → List Value
  | .list items => leavesOf items
  | v => [v]

def leavesOf : List Value → List Value
  | [] => []
  | v :: vs => v.leaves ++ leavesOf vs

end

variable {v : Value} {items vs : List Value}

theorem hollow_list_iff : Hollow (.list items) ↔ ∀ v ∈ items, Hollow v := by
  constructor
  · rintro ⟨h⟩
    exact h
  · exact .list

theorem IsLeaf.not_hollow (h : v.IsLeaf) : ¬ v.Hollow := by
  rintro ⟨-⟩
  exact h _ rfl

theorem leavesOf_cons_of_isLeaf (h : v.IsLeaf) : leavesOf (v :: vs) = v :: leavesOf vs := by
  rw [leavesOf, leaves, List.singleton_append]
  exact h

theorem leavesOf_cons_list : leavesOf (.list items :: vs) = leavesOf items ++ leavesOf vs := by
  rw [leavesOf, leaves]

/-- Induction over a list of values and the lists inside it. -/
@[elab_as_elim]
theorem nested_induction {P : List Value → Prop} (nil : P [])
    (leaf : ∀ v vs, v.IsLeaf → P vs → P (v :: vs))
    (list : ∀ items vs, P items → P vs → P (.list items :: vs)) (vs : List Value) : P vs :=
  leavesOf.induct (fun v => ∀ vs, P vs → P (v :: vs)) P (fun items h vs => list items vs h)
    (fun v h vs => leaf v vs h) nil (fun _ vs h => h vs) vs

theorem isLeaf_of_mem_leavesOf : ∀ v ∈ leavesOf vs, v.IsLeaf := by
  induction vs using nested_induction with
  | nil => exact List.forall_mem_nil _
  | leaf v vs hv ih =>
    rw [leavesOf_cons_of_isLeaf hv]
    exact List.forall_mem_cons.2 ⟨hv, ih⟩
  | list items vs hitems hvs =>
    rw [leavesOf_cons_list]
    exact List.forall_mem_append.2 ⟨hitems, hvs⟩

theorem leavesOf_eq_self (h : ∀ v ∈ vs, v.IsLeaf) : leavesOf vs = vs := by
  induction vs with
  | nil => rfl
  | cons v vs ih =>
    obtain ⟨hv, hvs⟩ := List.forall_mem_cons.1 h
    rw [leavesOf_cons_of_isLeaf hv, ih hvs]

theorem leavesOf_leavesOf (vs : List Value) : leavesOf (leavesOf vs) = leavesOf vs :=
  leavesOf_eq_self isLeaf_of_mem_leavesOf

theorem leavesOf_eq_nil_iff : leavesOf vs = [] ↔ ∀ v ∈ vs, v.Hollow := by
  induction vs using nested_induction with
  | nil => exact iff_of_true rfl (List.forall_mem_nil _)
  | leaf v vs hv ih =>
    rw [leavesOf_cons_of_isLeaf hv, List.forall_mem_cons]
    exact iff_of_false (List.cons_ne_nil _ _) fun h => hv.not_hollow h.1
  | list items vs hitems hvs =>
    rw [leavesOf_cons_list, List.append_eq_nil_iff, List.forall_mem_cons, hollow_list_iff, hitems,
      hvs]

end Value

namespace Formula

namespace Builtin

open Value

/-! ### Numbers of leaves -/

theorem leafNumbersOf_eq_map (vs : List Value) :
    leafNumbersOf vs = (leavesOf vs).map Value.toNumber := by
  induction vs using nested_induction with
  | nil => rfl
  | leaf v vs hv ih =>
    rw [leavesOf_cons_of_isLeaf hv, leafNumbersOf, leafNumbers, ih]
    · rfl
    · exact hv
  | list items vs hitems hvs =>
    rw [leavesOf_cons_list, leafNumbersOf, leafNumbers, hitems, hvs, List.map_append]

/-- What is made of some numbers, zero if there are none to make it of. -/
def orZero (f : List Float → Option Float) (xs : List Float) : Float :=
  (f xs).getD (Number.ofNat 0)

/-- The functions that compute with the numbers of their leaves, and what they make of them. -/
def aggregates : List (String × (List Float → Float)) :=
  [("SUM", Number.total),
   ("AVERAGE", orZero Number.mean?),
   ("AVG", orZero Number.mean?),
   ("MIN", orZero Number.least?),
   ("MAX", orZero Number.greatest?)]

section Aggregates

variable {name : String} {f : List Float → Float}

theorem exists_body_of_aggregate (h : (Text.upperAscii name, f) ∈ aggregates) :
    ∃ b, find? name = some b ∧ b.body = .many fun vs => .number (f (leafNumbersOf vs)) := by
  unfold find?
  simp only [aggregates, List.mem_cons, List.not_mem_nil, or_false, Prod.mk.injEq] at h
  rcases h with ⟨hname, rfl⟩ | ⟨hname, rfl⟩ | ⟨hname, rfl⟩ | ⟨hname, rfl⟩ | ⟨hname, rfl⟩
  all_goals
    rw [hname]
    exact ⟨_, rfl, rfl⟩

/-- A function that computes with the numbers of its leaves, by any spelling of its name, gives a
number that depends on the leaves alone.  Two lists of arguments with the same leaves have the same
result, which is that of the leaves as arguments; where there are only empty lists it is the result
without arguments. -/
theorem call_eq_of_leavesOf_eq (h : (Text.upperAscii name, f) ∈ aggregates) :
    ∃ b, find? name = some b ∧ ∀ now,
      (∀ vs, b.call now vs = .ok (.number (f ((leavesOf vs).map Value.toNumber)))) ∧
      (∀ vs ws, leavesOf vs = leavesOf ws → b.call now vs = b.call now ws) ∧
      (∀ vs, b.call now vs = b.call now (leavesOf vs)) ∧
      ∀ vs, (∀ v ∈ vs, v.Hollow) → b.call now vs = b.call now [] := by
  obtain ⟨b, hb, hbody⟩ := exists_body_of_aggregate h
  refine ⟨b, hb, fun now => ?_⟩
  have hcall : ∀ vs, b.call now vs = .ok (.number (f ((leavesOf vs).map Value.toNumber))) := by
    intro vs
    rw [call, hbody, ← leafNumbersOf_eq_map]
    rfl
  have hsame : ∀ vs ws, leavesOf vs = leavesOf ws → b.call now vs = b.call now ws := by
    intro vs ws he
    rw [hcall, hcall, he]
  refine ⟨hcall, hsame, fun vs => hsame _ _ (leavesOf_leavesOf vs).symm, fun vs hvs => ?_⟩
  exact hsame _ _ (leavesOf_eq_nil_iff.2 hvs)

end Aggregates

/-! ### Quantities -/

/-- A number, a text and an object, with empty lists between them. -/
def quantities : List Value :=
  [.list [.number (Number.ofNat 4), .list [.list []]], .text " 2 ", .object [("Note", .null)]]

def regroupedQuantities : List Value :=
  [.list [], .number (Number.ofNat 4), .list [.list [.text " 2 "], .object [("Note", .null)]]]

theorem call_eq_of_leavesOf_eq_quantities :
    (Text.upperAscii "Avg", orZero Number.mean?) ∈ aggregates ∧
    leavesOf quantities = leavesOf regroupedQuantities ∧
    (∀ v ∈ [.list [], .list [.list []]], Hollow v) ∧
    ∃ b, find? "Avg" = some b ∧ ∀ now,
      b.call now quantities = b.call now regroupedQuantities ∧
      b.call now quantities = .ok (.number (Number.ofNat 2)) ∧
      b.call now [.list [], .list [.list []]] = .ok (.number (Number.ofNat 0)) := by
  have hname : (Text.upperAscii "Avg", orZero Number.mean?) ∈ aggregates :=
    List.mem_of_getElem? (i := 2) rfl
  have hleaves : leavesOf quantities = leavesOf regroupedQuantities := rfl
  have hhollow : ∀ v ∈ [.list [], .list [.list []]], Hollow v := leavesOf_eq_nil_iff.1 rfl
  obtain ⟨b, hb, h⟩ := call_eq_of_leavesOf_eq hname
  refine ⟨hname, hleaves, hhollow, b, hb, fun now => ?_⟩
  obtain ⟨hcall, hsame, -, hempty⟩ := h now
  exact ⟨hsame _ _ hleaves, (hcall _).trans rfl, (hempty _ hhollow).trans ((hcall []).trans rfl)⟩

end Builtin

end Formula

end FieldCalc
