import FieldCalc.Proofs.Formula.Failures
import FieldCalc.Proofs.Formula.Separation

/-!
# Formulas that are one reference

A text between braces is a formula of its own, unless it is blank or has a brace in it.  The white
space at its ends does not count: the formula has the value of the reference that is left without
it (`Refers.evaluate_eq`).
-/

namespace FieldCalc

namespace Formula

/-- A text between braces. -/
def inBraces (text : String) : String := "\x7b" ++ text ++ "\x7d"

/-- A text that refers to something when it stands between braces. -/
structure Refers (text : String) : Prop where
  nonblank : Text.trim text ≠ ""
  noBrace : ∀ c ∈ text.toList, isBrace c = false

variable {text : String}

/-! ### Scanning -/

theorem Refers.tokens? (h : Refers text) :
    (Scan.ofSource (inBraces text)).tokens? = some [.reference (Text.trim text)] := by
  have hn : Text.trimChars text.toList ≠ [] := fun he => h.nonblank (by rw [Text.trim, he])
  have hcs : (inBraces text).toList = '\x7b' :: (text.toList ++ ['\x7d']) := by
    simp [inBraces]
  have hread : readToken '\x7b' (text.toList ++ ['\x7d']) =
      .ok (.reference (Text.trim text), text.toList.length + 1) :=
    readReference_closed h.noBrace hn []
  rw [Scan.ofSource, hcs, Scan.ofChars_cons 0 (by decide) hread,
    List.drop_of_length_le (by simp), Scan.ofChars_nil]
  rfl

/-! ### Evaluating -/

open Grammar in
theorem chain_reference (ref : String) : Chain Level.all [.reference ref] (.field ref) 1 1 :=
  .single (.single (.single (.single (.operand (.bare (.reference ref))))))

theorem Refers.parse_eq (h : Refers text) :
    parse (inBraces text) = .ok (.field (Text.trim text)) :=
  parse_of_chain h.tokens? (chain_reference _) (by decide) (by decide)

/-- A text between braces has the value of the reference that it is without the white space at its
ends. -/
theorem Refers.evaluate_eq (h : Refers text) (scope : Scope) :
    evaluate (inBraces text) scope = scope.resolve (Text.trim text) := by
  rw [evaluate, compile_of_parse h.parse_eq]
  rfl

end Formula

end FieldCalc
