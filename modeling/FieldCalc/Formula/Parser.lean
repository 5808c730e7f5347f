import FieldCalc.Formula.Expr
import FieldCalc.Formula.Scan
import FieldCalc.Text.Case

/-!
# Parsing a formula

Binary operators of four levels over operands; an operand is a literal, a reference, a call or a
group behind any number of signs.  A formula has at most 2000 operands, signs included, and at most
200 of them lie inside one another.  `operand` goes down by the nesting that is left, and whatever
repeats inside one operand (chains, arguments) is bounded by the operands that are left.  What is
made of operands, and how operators over them are taken, is a parameter (`Builder`).

A parser holds the next token ready.  Moving past a token already reads the one after it, so that
a place where no token can be read is reported before any other error at the token before it.
-/

namespace FieldCalc

namespace Formula

/-- How deep operands may lie inside one another. -/
def maxDepth : Nat := 200

/-- How many operands a formula may have. -/
def maxOperands : Nat := 2000

/-- What is left to parse, and how many operands may still come. -/
structure Cursor where
  input : Scan
  room : Nat

/-- Takes an `α` off the input. -/
abbrev Parser (α : Type) := Cursor → Except Error (α × Cursor)

namespace Cursor

/-- The place of the next token. -/
def offset (s : Cursor) : Nat :=
  match s.input with
  | .token _ offset _ => offset
  | .ended offset => offset
  | .broken offset _ => offset

/-- Moves past the next token.  The end of the source stays where it is. -/
def advance (s : Cursor) : Except Error Cursor :=
  match s.input with
  | .token _ _ (.broken offset fault) => .error (.malformed offset fault)
  | .token _ _ rest => .ok { s with input := rest }
  | .ended _ => .ok s
  | .broken offset fault => .error (.malformed offset fault)

/-- The error of a token that something else was wanted in place of. -/
def reject (s : Cursor) (fault : Token → Fault) : Error :=
  match s.input with
  | .token t offset _ => .malformed offset (fault t)
  | .ended _ => .unexpectedEnd
  | .broken offset fault => .malformed offset fault

/-- Moves past a closing parenthesis. -/
def close (s : Cursor) : Except Error Cursor :=
  match s.input with
  | .token .rightParen _ _ => s.advance
  | _ => .error (s.reject .unclosedGroup)

end Cursor

/-! ### Chains -/

/-- The operators of one level and their right operands, at most `fuel` of them. -/
def chainTail (level : Level) (operand : Parser Expr) : Nat → Parser (List (Operator × Expr))
  | 0, s => .ok ([], s)
  | fuel + 1, s =>
    match s.input with
    | .token (.operator op) _ _ =>
      if op.level = level then do
        let s ← s.advance
        let (e, s) ← operand s
        let (rest, s) ← chainTail level operand fuel s
        return ((op, e) :: rest, s)
      else .ok ([], s)
    | _ => .ok ([], s)

/-- A chain of one level; an operand without operators stays as it is. -/
def chain (level : Level) (operand : Parser Expr) : Parser Expr := fun s => do
  let (first, s) ← operand s
  let (rest, s) ← chainTail level operand (s.room + 1) s
  match rest with
  | [] => return (first, s)
  | rest => return (.chain first rest, s)

/-- Chains of the given levels inside one another, the first level outermost. -/
def chains : List Level → Parser Expr → Parser Expr
  | [], operand => operand
  | level :: levels, operand => chain level (chains levels operand)

/-- Operators of every level over operands. -/
def expression (operand : Parser Expr) : Parser Expr :=
  chains [.comparison, .joining, .sum, .product] operand

/-! ### Operands -/

section Operands

variable {α : Type}

/-- Arguments up to the closing parenthesis, at most `fuel` of them. -/
def argumentsTail (argument : Parser α) : Nat → Parser (List α)
  | 0, s => .error (s.reject .unclosedCall)
  | fuel + 1, s => do
    let (e, s) ← argument s
    match s.input with
    | .token .comma _ _ => do
      let s ← s.advance
      let (es, s) ← argumentsTail argument fuel s
      return (e :: es, s)
    | .token .rightParen _ _ => do
      let s ← s.advance
      return ([e], s)
    | _ => .error (s.reject .unclosedCall)

/-- The arguments of a call after its opening parenthesis. -/
def arguments (argument : Parser α) : Parser (List α) := fun s =>
  match s.input with
  | .token .rightParen _ _ => do
    let s ← s.advance
    return ([], s)
  | _ => argumentsTail argument (s.room + 1) s

/-- A name that no parenthesis follows: one of the two truth values. -/
def truthValue? (name : String) : Option Bool :=
  match Text.lowerAscii name with
  | "true" => some true
  | "false" => some false
  | _ => none

/-- What a parser makes of operands, and how it takes operators over them. -/
structure Builder (α : Type) where
  literal : Value → α
  field : String → α
  negate : α → α
  call : String → List α → α
  expression : Parser α → Parser α

namespace Builder

/-- An operand without a sign that begins with the token `t` at `offset`, which is read already. -/
def primary (b : Builder α) (inner : Parser α) (t : Token) (offset : Nat) : Parser α := fun s =>
  match t with
  | .number x => .ok (b.literal (.number x), s)
  | .text v => .ok (b.literal (.text v), s)
  | .reference r => .ok (b.field r, s)
  | .leftParen => do
    let (e, s) ← inner s
    let s ← s.close
    return (e, s)
  | .name name =>
    match s.input with
    | .token .leftParen _ _ => do
      let s ← s.advance
      let (args, s) ← arguments inner s
      return (b.call name args, s)
    | _ =>
      match truthValue? name with
      | some v => .ok (b.literal (.bool v), s)
      | none => .error (.malformed offset (.unknownName name))
  | t => .error (.malformed offset (.unexpectedToken t))

/-- An operand with its signs, inside which `depth - 1` more may be nested. -/
def operand (b : Builder α) : Nat → Parser α
  | 0, s => .error (.malformed s.offset .nestedTooDeeply)
  | depth + 1, s =>
    if s.room = 0 then .error (.malformed s.offset .tooLong)
    else
      let s := { s with room := s.room - 1 }
      match s.input with
      | .token (.operator .subtract) _ _ => do
        let s ← s.advance
        let (e, s) ← b.operand depth s
        return (b.negate e, s)
      | .token (.operator .add) _ _ => do
        let s ← s.advance
        b.operand depth s
      | .token t offset _ => do
        let s ← s.advance
        b.primary (b.expression (b.operand depth)) t offset s
      | _ => .error (s.reject .unexpectedToken)

/-- What is made of a whole scan. -/
def ofScan (b : Builder α) (input : Scan) : Except Error α := do
  let s : Cursor := ⟨input, maxOperands⟩
  match input with
  | .broken offset fault => throw (.malformed offset fault)
  | _ => do
    let (e, s) ← b.expression (b.operand maxDepth) s
    match s.input with
    | .ended _ => return e
    | _ => throw (s.reject .unexpectedToken)

end Builder

end Operands

/-! ### Expressions -/

/-- Expressions, with chains of operators. -/
def Expr.builder : Builder Expr where
  literal := .literal
  field := .field
  negate := .negate
  call := .call
  expression := expression

/-- The expression that a source spells. -/
def parse (source : String) : Except Error Expr := Expr.builder.ofScan (Scan.ofSource source)

end Formula

end FieldCalc
