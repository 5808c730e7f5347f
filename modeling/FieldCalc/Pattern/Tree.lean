import FieldCalc.Pattern.Fault

/-!
# The parts of a pattern

A pattern as a tree, as it is written.
-/

namespace FieldCalc

namespace Pattern

/-- A single character, and whether it is written as a byte, by two hexadecimal digits. -/
structure Literal where
  char : Char
  isByte : Bool := false
deriving DecidableEq, Repr

/-- A Unicode property as a pattern names it. -/
inductive Property where
  | single (name : String)
  | valued (name value : String)
deriving DecidableEq, Repr

/-! ### Flags -/

inductive Flag where
  | ignoreCase
  /-- Anchors hold at the ends of lines. -/
  | multiLine
  /-- A dot matches the end of a line. -/
  | dotAll
  /-- Repetitions are lazy unless they are marked. -/
  | swapGreed
  | unicode
  /-- Lines end with a carriage return and a line feed. -/
  | crlf
  | verbose
deriving DecidableEq, Repr

/-- Flags that are set or unset. -/
abbrev Settings := List (Flag × Bool)

/-- A flag behind settings. -/
def Settings.apply (settings : Settings) (flag : Flag) (before : Bool) : Bool :=
  (settings.lookup flag).getD before

/-! ### Leaves -/

/-- How words lie at a place between characters. -/
inductive Boundary where
  | word
  | notWord
  | wordStart
  | wordStop
  /-- No word character in front. -/
  | startHalf
  /-- No word character behind. -/
  | stopHalf
deriving DecidableEq, Repr

inductive Assertion where
  | lineStart
  | lineStop
  | textStart
  | textStop
  | boundary (b : Boundary)
deriving DecidableEq, Repr

/-- Classes by a letter. -/
inductive Shorthand where
  | digit
  | space
  | word
deriving DecidableEq, Repr

inductive Leaf where
  | empty
  /-- Flags that hold from here on. -/
  | flags (settings : Settings)
  | literal (l : Literal)
  | dot
  | assertion (a : Assertion)
  | shorthand (s : Shorthand) (negated : Bool)
  | property (p : Property) (negated : Bool)
  /-- A character inside a class. -/
  | member (l : Literal)
  | range (low : Literal) (lowSpan : Span) (high : Literal) (highSpan : Span)
  /-- A class named inside brackets and colons. -/
  | named (name : String) (negated : Bool)
deriving DecidableEq, Repr

/-! ### Trees -/

/-- How often a part is repeated, at least and at most, and whether rather more often. -/
structure Count where
  low : Nat
  high? : Option Nat
  greedy : Bool
deriving DecidableEq, Repr

/-- What stands between two classes. -/
inductive Operation where
  | intersection
  | difference
  | symmetricDifference
deriving DecidableEq, Repr

inductive Branch where
  | concatenation
  | alternation
  | repetition (count : Count)
  /-- A group whose match is kept. -/
  | capture
  /-- A group with flags that hold inside. -/
  | scope (settings : Settings)
  | bracketed (negated : Bool)
  | union
  | operation (o : Operation)
deriving DecidableEq, Repr

inductive Tree where
  | leaf (span : Span) (l : Leaf)
  | branch (span : Span) (b : Branch) (parts : List Tree)

def Tree.span : Tree → Span
  | .leaf s _ => s
  | .branch s _ _ => s

/-- Parts that stand together: nothing, one part as it is, or a branch. -/
def Tree.gather (b : Branch) (span : Span) : List Tree → Tree
  | [] => .leaf span .empty
  | [t] => t
  | ts => .branch span b ts

end Pattern

end FieldCalc
