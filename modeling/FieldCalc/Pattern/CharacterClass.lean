import FieldCalc.Pattern.Escape
import FieldCalc.Pattern.NamedClass

/-!
# Classes in brackets

A class is a union of characters, ranges and other classes, or what operators between such unions
make.  A hyphen at the front and a closing bracket that is the first member stand for themselves.
-/

namespace FieldCalc

namespace Pattern

/-! ### Members -/

/-- A character or an escape inside a class, and its place. -/
def readMember : Reading (Span × Leaf) := do
  let c ← get
  match c.rest with
  | [] => return (c.here, .empty)
  | '\\' :: _ => readEscape
  | d :: _ =>
    set c.bump
    return (c.character, .literal { char := d })

/-- A member that stands by itself. -/
def single (span : Span) : Leaf → Reading Tree
  | .literal l => return .leaf span (.member l)
  | .shorthand s negated => return .leaf span (.shorthand s negated)
  | .property p negated => return .leaf span (.property p negated)
  | _ => fail .classEscape span

/-- An end of a range, which is a character. -/
def bound (span : Span) : Leaf → Reading Literal
  | .literal l => return l
  | _ => fail .classRangeBoundary span

/-- A member or a range.  A hyphen makes none before a closing bracket or another hyphen. -/
def readRange (opened : Span) : Reading Tree := do
  let (span, low) ← readMember
  modify Cursor.skip
  let c ← get
  if c.isEnd then fail .classUnclosed opened
  if c.rest.head? ≠ some '-' ∨ c.peek = some ']' ∨ c.peek = some '-' then single span low
  else
    set c.next
    if c.next.isEnd then fail .classUnclosed opened
    let (highSpan, high) ← readMember
    let low ← bound span low
    let high ← bound highSpan high
    let whole := ⟨span.start, highSpan.stop⟩
    if high.char < low.char then fail .classRangeReversed whole
    return .leaf whole (.range low span high highSpan)

/-! ### Named classes -/

/-- The class that is named at the cursor, and the cursor behind it. -/
def namedClass? (c : Cursor) : Option (Tree × Cursor) :=
  if ['[', ':'].isPrefixOf c.rest then
    let negated := c.rest.take 3 = ['[', ':', '^']
    let (name, after) :=
      (c.bumps (if negated then 3 else 2)).takeWhile (· != ':') Cursor.bump c.rest.length
    let closing := after.bumps 2
    let name := String.ofList name
    if after.rest.take 2 = [':', ']'] ∧ (namedClasses.lookup name).isSome then
      some (.leaf ⟨c.position, closing.position⟩ (.named name negated), closing)
    else none
  else none

/-! ### Unions and operators -/

/-- What is read of a class: what stands left of the last operator, with the operator, and the union
right of it with its last member first. -/
structure Members where
  left : Option (Tree × Operation) := none
  /-- Where the union begins, if it has no member. -/
  start : Position
  reversed : List Tree := []

namespace Members

def push (t : Tree) (m : Members) : Members := { m with reversed := t :: m.reversed }

def union (m : Members) : Tree :=
  let span := match m.reversed.getLast?, m.reversed.head? with
    | some first, some last => ⟨first.span.start, last.span.stop⟩
    | _, _ => ⟨m.start, m.start⟩
  .gather .union span m.reversed.reverse

/-- The whole class; operators are read from the left. -/
def tree (m : Members) : Tree :=
  match m.left with
  | none => m.union
  | some (l, o) => .branch ⟨l.span.start, m.union.span.stop⟩ (.operation o) [l, m.union]

end Members

/-- Moves to the next character of a class, which there must be. -/
def advance (start : Position) : Reading Unit := do
  modify Cursor.next
  let c ← get
  if c.isEnd then fail .classUnclosed ⟨start, c.position⟩

/-- The hyphens at the front of a class. -/
def readHyphens (start : Position) : Nat → Members → Reading Members
  | 0, m => return m
  | fuel + 1, m => do
    let c ← get
    if c.rest.head? = some '-' then
      set c.next
      if c.next.isEnd then fail .classUnclosed ⟨start, start⟩
      readHyphens start fuel (m.push (.leaf c.character (.member { char := '-' })))
    else return m

/-- An opening bracket with a caret and what stands for itself: whether the class is negated, and
its first members. -/
def readOpening (fuel : Nat) : Reading (Bool × Members) := do
  let start := (← get).position
  advance start
  let negated := (← get).rest.head? = some '^'
  if negated then advance start
  let c ← get
  let m ← readHyphens start fuel { start := c.position }
  if m.reversed.isEmpty ∧ c.rest.head? = some ']' then
    advance start
    return (negated, m.push (.leaf c.character (.member { char := ']' })))
  else return (negated, m)

/-- The operator at the front. -/
def operation? : List Char → Option Operation
  | '&' :: '&' :: _ => some .intersection
  | '-' :: '-' :: _ => some .difference
  | '~' :: '~' :: _ => some .symmetricDifference
  | _ => none

/-- A class up to its closing bracket.  An end of the pattern is reported where the class was
`opened`. -/
def readMembers (opened : Span) : Nat → Members → Reading Tree
  | 0, m => return m.tree
  | fuel + 1, m => do
    modify Cursor.skip
    let c ← get
    match c.rest with
    | [] => fail .classUnclosed opened
    | ']' :: _ => return m.tree
    | '[' :: _ =>
      match namedClass? c with
      | some (t, after) =>
        set after
        readMembers opened fuel (m.push t)
      | none =>
        let (negated, inner) ← readOpening fuel
        let t ← readMembers (← since c.position) fuel inner
        modify Cursor.bump
        let span ← since c.position
        readMembers opened fuel (m.push (.branch span (.bracketed negated) [t]))
    | cs =>
      match operation? cs with
      | some o =>
        let after := c.bump.bump
        set after
        readMembers opened fuel { left := some (m.tree, o), start := after.position }
      | none => readMembers opened fuel (m.push (← readRange opened))

/-- A class in brackets. -/
def readClass (fuel : Nat) : Reading Tree := do
  let c ← get
  let (negated, m) ← readOpening fuel
  let t ← readMembers (← since c.position) fuel m
  modify Cursor.bump
  return .branch (← since c.position) (.bracketed negated) [t]

end Pattern

end FieldCalc
