import FieldCalc.Json.Parts
import FieldCalc.Proofs.Dictionary
import Mathlib.Data.List.Nodup

/-!
# Canonical documents

A canonical document is its own canonical form (`canonical_canonical`).  As long as no key stands
twice in an object, its parts are those of its canonical form, with canonical parts
(`parts?_canonical_obj`).
-/

namespace FieldCalc

namespace Json

/-- An object of canonical documents under ascending keys is canonical. -/
theorem canonical_obj {ms : List (String × Json)} (hk : Dictionary.Ascending ms)
    (hm : ∀ m ∈ ms, m.2.canonical = m.2) : (obj ms).canonical = obj ms := by
  have hms : ms.map (fun m => (m.1, m.2.canonical)) = ms.map id :=
    List.map_congr_left fun m hmem => Prod.ext rfl (hm m hmem)
  rw [canonical, canonicalMembers_eq_map, hms, List.map_id, Dictionary.ofList_of_ascending hk]

mutual

theorem canonical_canonical : ∀ j : Json, j.canonical.canonical = j.canonical
  | .null => rfl
  | .bool _ => rfl
  | .int _ => rfl
  | .float _ => rfl
  | .str _ => rfl
  | .arr items => by rw [canonical, canonical, canonicalItems_canonicalItems items]
  | .obj members => by
    rw [canonical]
    refine canonical_obj (Dictionary.ascending_ofList _) fun m hm => ?_
    exact canonical_of_mem_canonicalMembers members m
      ((Dictionary.mem_insertAll hm).resolve_left List.not_mem_nil)

theorem canonicalItems_canonicalItems : ∀ js : List Json,
    canonicalItems (canonicalItems js) = canonicalItems js
  | [] => rfl
  | j :: js => by
    rw [canonicalItems, canonicalItems, canonical_canonical j, canonicalItems_canonicalItems js]

theorem canonical_of_mem_canonicalMembers : ∀ (ms : List (String × Json)),
    ∀ m ∈ canonicalMembers ms, m.2.canonical = m.2
  | [], _, hm => nomatch hm
  | (_, j) :: ms, m, hm => by
    rw [canonicalMembers] at hm
    rcases List.mem_cons.1 hm with rfl | hm
    · exact canonical_canonical j
    · exact canonical_of_mem_canonicalMembers ms m hm

end

/-- The parts of an object in which no key stands twice are its members of their names. -/
theorem parts?_obj {ms : List (String × Json)} (h : Dictionary.DistinctKeys ms)
    (names : List String) : (obj ms).parts? names = some (names.map (Dictionary.get? ms)) := by
  have hk : (Dictionary.keys ms).Nodup := List.pairwise_map.2 h
  refine if_pos (List.all_eq_true.2 fun n _ => ?_)
  rw [decide_eq_true_iff, ← List.countP_eq_length_filter]
  have hc := List.nodup_iff_count_le_one.1 hk n
  rwa [Dictionary.keys, List.count, List.countP_map] at hc

theorem parts?_canonical_obj {ms : List (String × Json)} (h : Dictionary.DistinctKeys ms)
    (names : List String) : (obj ms).canonical.parts? names =
      some (names.map fun n => (Dictionary.get? ms n).map canonical) := by
  have hms : Dictionary.DistinctKeys (ms.map fun m => (m.1, m.2.canonical)) :=
    List.pairwise_map.2 h
  rw [canonical, canonicalMembers_eq_map, parts?_obj (Dictionary.ascending_ofList _).distinctKeys]
  refine congrArg some (List.map_congr_left fun n _ => ?_)
  rw [Dictionary.get?_ofList hms, Dictionary.get?_map]

end Json

end FieldCalc
