import FieldCalc.Pattern.Folding
import FieldCalc.Pattern.Property
import FieldCalc.Pattern.Shape

/-!
# What patterns match

The shape of a pattern under the flags that hold where its parts stand.  A pattern that can be read
may be refused here: for properties that do not exist, and, where Unicode is switched off, for parts
that match bytes which are no text or that need Unicode.
-/

namespace FieldCalc

namespace Pattern

open Text (Ranges)

/-! ### Flags that hold -/

structure Mode where
  ignoreCase : Bool := false
  multiLine : Bool := false
  dotAll : Bool := false
  swapGreed : Bool := false
  unicode : Bool := true
  crlf : Bool := false
deriving DecidableEq, Repr

namespace Mode

/-- The mode behind settings. -/
def set (m : Mode) (s : Settings) : Mode where
  ignoreCase := s.apply .ignoreCase m.ignoreCase
  multiLine := s.apply .multiLine m.multiLine
  dotAll := s.apply .dotAll m.dotAll
  swapGreed := s.apply .swapGreed m.swapGreed
  unicode := s.apply .unicode m.unicode
  crlf := s.apply .crlf m.crlf

/-- A set with the characters that differ from its own in case alone, if case does not count. -/
def fold (m : Mode) (set : Ranges) : Ranges :=
  if !m.ignoreCase then set
  else if m.unicode then Characters.folded set
  else Characters.foldedAscii set

/-- The place where an assertion holds. -/
def place (m : Mode) : Assertion → Place
  | .lineStart => if m.multiLine then .lineStart m.crlf else .textStart
  | .lineStop => if m.multiLine then .lineStop m.crlf else .textStop
  | .textStart => .textStart
  | .textStop => .textStop
  | .boundary b => .boundary b m.unicode

/-- What a dot matches. -/
def dot (m : Mode) : Ranges :=
  Characters.complement <|
    if m.dotAll then [] else if m.crlf then [(0x0a, 0x0a), (0x0d, 0x0d)] else [(0x0a, 0x0a)]

/-- How often an operator repeats. -/
def count (m : Mode) (c : Count) : Count := { c with greedy := c.greedy != m.swapGreed }

end Mode

/-! ### Sets -/

def refuse {α : Type} (cause : Cause) (span : Span) : Except Fault α := throw { cause, span }

/-- A set or what it does not hold. -/
def Mode.negate (m : Mode) (span : Span) (negated : Bool) (set : Ranges) : Except Fault Ranges :=
  if !negated then return set
  else if m.unicode then return Characters.complement set
  else refuse .notUtf8 span

/-- A character where Unicode is switched off. -/
def Literal.check (span : Span) (l : Literal) : Except Fault Unit :=
  if l.isByte ∧ 0x80 ≤ l.char.toNat then refuse .notUtf8 span else return ()

/-- The code point of a character inside a class, in ASCII where Unicode is switched off. -/
def Literal.codePoint (m : Mode) (span : Span) (l : Literal) : Except Fault Nat := do
  if !m.unicode then
    l.check span
    if 0x80 ≤ l.char.toNat then refuse .unicodeNotAllowed span
  return l.char.toNat

/-- The characters that a leaf stands for in a class or by itself. -/
def Leaf.characters (m : Mode) (span : Span) : Leaf → Except Fault Ranges
  | .shorthand s negated => m.negate span negated (s.characters m.unicode)
  | .named name negated => m.negate span negated (m.fold (namedClass name))
  | .property p negated => do
    if !m.unicode then refuse .unicodeNotAllowed span
    match p.characters with
    | .ok set => m.negate span negated (m.fold set)
    | .error cause => refuse cause span
  | .member l => do
    let c ← l.codePoint m span
    return [(c, c)]
  | .range low lowSpan high highSpan => do
    let l ← low.codePoint m lowSpan
    let h ← high.codePoint m highSpan
    return [(l, h)]
  | _ => return []

def Operation.apply : Operation → Ranges → Ranges → Ranges
  | .intersection => Characters.intersection
  | .difference => Characters.difference
  | .symmetricDifference => Characters.symmetricDifference

/-- The characters of a class that is made of others. -/
def Branch.characters (m : Mode) (span : Span) (b : Branch) (sets : List Ranges) :
    Except Fault Ranges :=
  match b, sets with
  | .operation o, [left, right] =>
    return o.apply (m.fold (Characters.normal left)) (m.fold (Characters.normal right))
  | .bracketed negated, _ => m.negate span negated (m.fold (Characters.union sets))
  | _, _ => return Characters.union sets

mutual

/-- The characters of a class or a part of it. -/
def Tree.characters (m : Mode) : Tree → Except Fault Ranges
  | .leaf span l => l.characters m span
  | .branch span b ts => do b.characters m span (← charactersOnto m [] ts)

/-- The characters of parts, in front of those done, the last first. -/
def charactersOnto (m : Mode) (done : List Ranges) : List Tree → Except Fault (List Ranges)
  | [] => return done.reverse
  | t :: ts => do charactersOnto m ((← t.characters m) :: done) ts

end

/-! ### Shapes -/

/-- A character by itself. -/
def Literal.shape (m : Mode) (span : Span) (l : Literal) : Except Fault Shape := do
  if !m.unicode then l.check span
  return .ofSet m.unicode (m.fold [(l.char.toNat, l.char.toNat)])

def Leaf.shape (m : Mode) (span : Span) : Leaf → Except Fault Shape
  | .empty => return .empty
  | .flags _ => return .empty
  | .literal l => l.shape m span
  | .dot => if m.unicode then return .ofSet true m.dot else refuse .notUtf8 span
  | .assertion a => return .place (m.place a)
  | l => return .ofSet m.unicode (← l.characters m span)

mutual

/-- The shape of a part, given the flags that hold before it, and the flags that hold after it. -/
def Tree.shape (m : Mode) : Tree → Except Fault (Shape × Mode)
  | .leaf _ (.flags s) => return (.empty, m.set s)
  | .leaf span l => return (← l.shape m span, m)
  | .branch span b ts => do
    match b with
    | .concatenation =>
      let (parts, after) ← shapesOnto m [] ts
      return (.concat parts, after)
    | .alternation =>
      let (parts, after) ← shapesOnto m [] ts
      return (.alternate parts, after)
    | .repetition c =>
      let (parts, after) ← shapesOnto m [] ts
      return (.repeated (after.count c) (.concat parts), after)
    | .capture =>
      let (parts, _) ← shapesOnto m [] ts
      return (.capture (.concat parts), m)
    | .scope s =>
      let (parts, _) ← shapesOnto (m.set s) [] ts
      return (.concat parts, m)
    | _ => return (.ofSet m.unicode (← Tree.characters m (.branch span b ts)), m)

/-- The shapes of parts behind one another, in front of those done, the last first. -/
def shapesOnto (m : Mode) (done : List Shape) : List Tree → Except Fault (List Shape × Mode)
  | [] => return (done.reverse, m)
  | t :: ts => do
    let (s, after) ← t.shape m
    shapesOnto after (s :: done) ts

end

end Pattern

end FieldCalc
