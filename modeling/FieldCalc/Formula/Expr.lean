import FieldCalc.Formula.Token
import FieldCalc.Value.Basic

/-!
# Expressions

Formulas as trees.  Operators of one level that follow each other are kept together in a chain,
which is computed from left to right.
-/

namespace FieldCalc

namespace Formula

inductive Expr where
  | literal (v : Value)
  | field (reference : String)
  | call (name : String) (args : List Expr)
  | negate (e : Expr)
  | chain (first : Expr) (rest : List (Operator × Expr))

instance : Inhabited Expr := ⟨.literal .null⟩

end Formula

end FieldCalc
