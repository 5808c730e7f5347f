import FieldCalc.Pattern.Automaton
import FieldCalc.Pattern.Meaning
import FieldCalc.Pattern.Reader

/-!
# Checking patterns

A pattern that can be read may still be refused: for parts nested too deep, for parts that match no
text or do not exist, and for automata that would be too large.
-/

namespace FieldCalc

namespace Pattern

/-! ### Nesting -/

mutual

/-- The first part that lies too deep, if parts may be nested so deep from here on. -/
def Tree.tooDeep? (limit : Nat) : Tree → Option Span
  | .leaf _ _ => none
  | .branch span _ ts =>
    match limit with
    | 0 => some span
    | limit + 1 => anyTooDeep? limit ts

def anyTooDeep? (limit : Nat) : List Tree → Option Span
  | [] => none
  | t :: ts => (t.tooDeep? limit).or (anyTooDeep? limit ts)

end

/-! ### Whole patterns -/

/-- Why a pattern is refused. -/
inductive Refusal where
  | fault (f : Fault)
  | tooLarge
deriving DecidableEq, Repr

/-- Reads a pattern and takes its meaning. -/
def interpret (pattern : String) : Except Fault Shape := do
  let t ← read pattern
  match t.tooDeep? nestLimit with
  | some span => refuse .nestedTooDeep span
  | none =>
    let (s, _) ← t.shape {}
    return s

/-- Reads a pattern and checks it. -/
def verify (pattern : String) : Except Refusal Unit :=
  match interpret pattern with
  | .error f => throw (.fault f)
  | .ok t => if t.isSmall then return () else throw .tooLarge

/-- What there is to say against a pattern. -/
def Refusal.message (pattern : String) : Refusal → String
  | .fault f => f.report pattern
  | .tooLarge =>
    "Compiled regex exceeds size limit of " ++ Number.integerText Extent.limit ++ " bytes."

def complaint? (pattern : String) : Option String :=
  match verify pattern with
  | .ok _ => none
  | .error r => some (r.message pattern)

theorem complaint?_eq_none {pattern : String} :
    complaint? pattern = none ↔ verify pattern = .ok () := by
  unfold complaint?
  split <;> simp_all

end Pattern

end FieldCalc
