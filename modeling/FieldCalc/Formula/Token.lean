import FieldCalc.Number.Layout
import FieldCalc.Text.Quoted

/-!
# Tokens

The words of a formula: operands, names, brackets and binary operators.  An operator belongs to one
of four levels, from comparisons, which bind loosest, to products.
-/

namespace FieldCalc

namespace Formula

/-- How tightly a binary operator binds, the loosest first. -/
inductive Level where
  | comparison
  | joining
  | sum
  | product
deriving DecidableEq, Repr

inductive Operator where
  | add
  | subtract
  | multiply
  | divide
  | concat
  | equal
  | notEqual
  | less
  | lessEqual
  | greater
  | greaterEqual
deriving DecidableEq, Repr

def Operator.level : Operator → Level
  | .add | .subtract => .sum
  | .multiply | .divide => .product
  | .concat => .joining
  | .equal | .notEqual | .less | .lessEqual | .greater | .greaterEqual => .comparison

/-- A word of a formula.  A reference is what stood between braces, blanks around it aside. -/
inductive Token where
  | number (x : Float)
  | text (s : String)
  | name (s : String)
  | reference (s : String)
  | leftParen
  | rightParen
  | comma
  | operator (op : Operator)

/-- The name of an operator's token in messages. -/
def Operator.label : Operator → String
  | .add => "Plus"
  | .subtract => "Minus"
  | .multiply => "Star"
  | .divide => "Slash"
  | .concat => "Ampersand"
  | .equal => "Equals"
  | .notEqual => "NotEquals"
  | .less => "Less"
  | .lessEqual => "LessEquals"
  | .greater => "Greater"
  | .greaterEqual => "GreaterEquals"

/-- A token as messages quote it. -/
def Token.label : Token → String
  | .number x => "Number(" ++ Number.Layout.token.render x ++ ")"
  | .text s => "String(" ++ Text.quoted s ++ ")"
  | .name s => "Ident(" ++ Text.quoted s ++ ")"
  | .reference s => "FieldRef(" ++ Text.quoted s ++ ")"
  | .leftParen => "LParen"
  | .rightParen => "RParen"
  | .comma => "Comma"
  | .operator op => op.label

end Formula

end FieldCalc
