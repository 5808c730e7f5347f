import FieldCalc.Proofs.Table.StoredFields

/-!
# Documents of formula fields

A formula field is read whatever its options are.  A result type that is a text, whether it names
one or not, null or left out leaves the expression as it is stored.  Any other document in its place
makes the options malformed, and the field is one without an expression (`ofJson?_formulaDocument`).
-/

namespace FieldCalc

/-- A result type is the one whose name a text is, blanks and case aside. -/
theorem Value.ResultType.ofName?_eq_some_iff {s : String} {t : ResultType} :
    ofName? s = some t ↔ Text.lowerAscii (Text.trim s) = t.name := by
  unfold ofName?
  constructor
  · intro h
    split at h
    · rename_i hs; rw [hs, ← Option.some.inj h]; rfl
    · rename_i hs; rw [hs, ← Option.some.inj h]; rfl
    · rename_i hs; rw [hs, ← Option.some.inj h]; rfl
    · cases h
  · intro h
    rw [h]
    cases t <;> rfl

/-! ### Options -/

/-- What can stand in the place of a result type: a text, null or nothing. -/
def IsTypeName : Option Json → Prop
  | none => True
  | some .null => True
  | some (.str _) => True
  | _ => False

/-- The result type that stands there in its name. -/
def NamesType (type : Option Json) (t : Value.ResultType) : Prop :=
  ∃ s, type = some (.str s) ∧ Text.lowerAscii (Text.trim s) = t.name

theorem exists_resultTypeOption? {type : Option Json} (h : IsTypeName type) :
    ∃ r, resultTypeOption? type = some r ∧ ∀ t, r = some t ↔ NamesType type t := by
  match type, h with
  | none, _ => exact ⟨none, rfl, fun t => by simp [NamesType]⟩
  | some .null, _ => exact ⟨none, rfl, fun t => by simp [NamesType]⟩
  | some (.str s), _ =>
    exact ⟨Value.ResultType.ofName? s, rfl, fun t => by
      simp [NamesType, Value.ResultType.ofName?_eq_some_iff]⟩

theorem resultTypeOption?_eq_none {type : Option Json} (h : ¬ IsTypeName type) :
    resultTypeOption? type = none := by
  match type, h with
  | none, h => exact absurd trivial h
  | some .null, h => exact absurd trivial h
  | some (.str _), h => exact absurd trivial h
  | some (.bool _), _ => rfl
  | some (.int _), _ => rfl
  | some (.float _), _ => rfl
  | some (.arr _), _ => rfl
  | some (.obj _), _ => rfl

theorem readOptions_obj {α : Type} [Inhabited α] (read : Json → Option α)
    (members : List (String × Json)) : readOptions read (.obj members) =
      ((read (.obj members)).map fun o => (o, false)).getD (default, true) := by
  unfold readOptions
  dsimp only
  cases read (.obj members) <;> rfl

namespace FormulaOptions

variable {members : List (String × Json)} {expression : String}

/-- Options in an object are read from its members, of several with one key from the last one. -/
theorem ofJson?_canonical_obj (members : List (String × Json)) :
    ofJson? (Json.obj members).canonical = (do
      let expression ← textOption? ((Json.obj members).canonical.member? "expression")
      let type ← resultTypeOption? ((Json.obj members).canonical.member? "resultType")
      return { expression := expression, resultType := type }) := by
  rw [Json.canonical, ofJson?, Json.parts?_obj (Dictionary.ascending_ofList _).distinctKeys]
  rfl

theorem readOptions_of_isTypeName {r : Option Value.ResultType}
    (he : (Json.obj members).canonical.member? "expression" = some (.str expression))
    (hr : resultTypeOption? ((Json.obj members).canonical.member? "resultType") = some r) :
    readOptions ofJson? (Json.obj members).canonical =
      ({ expression := expression, resultType := r }, false) := by
  have h := ofJson?_canonical_obj members
  rw [he, hr] at h
  rw [Json.canonical] at h ⊢
  rw [readOptions_obj, h]
  rfl

theorem readOptions_of_not_isTypeName
    (hr : resultTypeOption? ((Json.obj members).canonical.member? "resultType") = none) :
    readOptions ofJson? (Json.obj members).canonical = ({}, true) := by
  have h : ofJson? (Json.obj members).canonical = none := by
    rw [ofJson?_canonical_obj, hr]
    cases textOption? ((Json.obj members).canonical.member? "expression") <;> rfl
  rw [Json.canonical] at h ⊢
  rw [readOptions_obj, h]
  rfl

end FormulaOptions

/-! ### Fields -/

namespace Field

/-- A document of a formula field: two identifiers, a name, the kind, and options in an object. -/
def IsFormulaDocument (j : Json) (id table : Uuid) (name : String)
    (options : List (String × Json)) : Prop :=
  ∃ i t k : Json, Uuid.ofJson? i = some id ∧ Uuid.ofJson? t = some table ∧
    kindName? k = some "formula" ∧
    j.parts? partNames = some [some i, some t, some (.str name), some k, some (.obj options)]

section Documents

variable {j : Json} {id table : Uuid} {name expression : String} {options : List (String × Json)}

theorem IsFormulaDocument.ofJson?_eq (h : IsFormulaDocument j id table name options)
    {o : FormulaOptions} {malformed : Bool}
    (ho : readOptions FormulaOptions.ofJson? (Json.obj options).canonical = (o, malformed)) :
    ofJson? j = some (⟨id, table, name, .formula o⟩,
      if malformed then [.malformedOptions id] else []) := by
  obtain ⟨i, t, k, hi, ht, hk, hp⟩ := h
  have hread : FieldKind.read "formula" (Json.obj options).canonical = (.formula o, malformed) := by
    rw [FieldKind.read, ho]
  simp [ofJson?, hp, hi, ht, hk, Json.str?, hread]

/-- A formula field keeps the expression of its options where a text, null or nothing stands in the
place of the result type, and then its result type is the one whose name the text is, blanks and
case aside.  Where any other document stands there, the field is read as well, without an expression
and a result type, and with a notice. -/
theorem ofJson?_formulaDocument (document : IsFormulaDocument j id table name options)
    (stored : (Json.obj options).canonical.member? "expression" = some (.str expression)) :
    let type := (Json.obj options).canonical.member? "resultType"
    (IsTypeName type → ∃ r, (∀ t, r = some t ↔ NamesType type t) ∧ ofJson? j =
      some (⟨id, table, name, .formula { expression := expression, resultType := r }⟩, [])) ∧
    (¬ IsTypeName type → ofJson? j =
      some (⟨id, table, name, .formula { expression := "", resultType := none }⟩,
        [.malformedOptions id])) := by
  refine ⟨fun h => ?_, fun h => ?_⟩
  · obtain ⟨r, hr, hnames⟩ := exists_resultTypeOption? h
    exact ⟨r, hnames, document.ofJson?_eq (FormulaOptions.readOptions_of_isTypeName stored hr)⟩
  · exact document.ofJson?_eq
      (FormulaOptions.readOptions_of_not_isTypeName (resultTypeOption?_eq_none h))

end Documents

/-! ### Doubled prices -/

namespace Doubled

def field : Uuid := ⟨List.replicate 32 ⟨2, by decide⟩, rfl⟩

def prices : Uuid := ⟨List.replicate 32 ⟨1, by decide⟩, rfl⟩

def options (type : Json) : List (String × Json) :=
  [("resultType", type), ("expression", .str "\x7bPrice\x7d * 2")]

def document (type : Json) : Json :=
  .obj [("name", .str "Doubled"), ("type", .str "formula"), ("options", .obj (options type)),
    ("tableId", prices.toJson), ("id", field.toJson)]

theorem isFormulaDocument (type : Json) :
    IsFormulaDocument (document type) field prices "Doubled" (options type) :=
  ⟨_, _, .str "formula", Uuid.ofJson?_toJson _, Uuid.ofJson?_toJson _, rfl, rfl⟩

end Doubled

open Doubled in
/-- A name between blanks and in capitals is known, and a list of names is malformed. -/
theorem ofJson?_formulaDocument_doubled :
    IsFormulaDocument (document (.str " NUMBER ")) field prices "Doubled"
      (options (.str " NUMBER ")) ∧
    (Json.obj (options (.str " NUMBER "))).canonical.member? "expression" =
      some (.str "\x7bPrice\x7d * 2") ∧
    (∃ f, ofJson? (document (.str " NUMBER ")) = some (f, []) ∧
      f.kind = .formula { expression := "\x7bPrice\x7d * 2", resultType := some .number }) ∧
    ∃ f, ofJson? (document (.arr [.str "number"])) = some (f, [.malformedOptions f.id]) ∧
      f.kind = .formula {} := by
  refine ⟨isFormulaDocument _, rfl, ?_, ?_⟩
  · obtain ⟨r, hr, hf⟩ :=
      (ofJson?_formulaDocument (isFormulaDocument (.str " NUMBER ")) rfl).1 trivial
    obtain rfl : r = some .number := (hr .number).2 ⟨" NUMBER ", rfl, by decide⟩
    exact ⟨_, hf, rfl⟩
  · have hf := (ofJson?_formulaDocument (isFormulaDocument (.arr [.str "number"])) rfl).2 fun h => h
    exact ⟨_, hf, rfl⟩

open Doubled in
/-- Where a number stands in the place of the result type, the expression is lost. -/
theorem expression_not_kept :
    IsFormulaDocument (document (.int 5)) field prices "Doubled" (options (.int 5)) ∧
    (Json.obj (options (.int 5))).canonical.member? "expression" =
      some (.str "\x7bPrice\x7d * 2") ∧
    ¬ ∃ f notices r, ofJson? (document (.int 5)) = some (f, notices) ∧
      f.kind = .formula { expression := "\x7bPrice\x7d * 2", resultType := r } := by
  refine ⟨isFormulaDocument _, rfl, ?_⟩
  rintro ⟨f, notices, r, hf, hk⟩
  have hread : ofJson? (document (.int 5)) =
      some (⟨field, prices, "Doubled", .formula {}⟩, [.malformedOptions field]) :=
    (isFormulaDocument _).ofJson?_eq rfl
  rw [hread] at hf
  obtain ⟨rfl, -⟩ := Prod.mk.inj (Option.some.inj hf)
  have he : "" = "\x7bPrice\x7d * 2" :=
    congrArg FormulaOptions.expression (FieldKind.formula.inj hk)
  exact absurd he (by decide)

end Field

end FieldCalc
