import FieldCalc.Pattern.CharacterClass
import FieldCalc.Pattern.Group

/-!
# Reading patterns

A pattern is made of alternatives, an alternative of items behind one another.  An item is a
character, an escape, a class or a group, and it may be repeated.
-/

namespace FieldCalc

namespace Pattern

/-! ### Alternatives -/

/-- What is read of a group or of the whole pattern, the last alternative and the last item
first. -/
structure Draft where
  start : Position
  alternatives : List Tree := []
  /-- Where the open alternative begins. -/
  itemsStart : Position
  items : List Tree := []

namespace Draft

def push (t : Tree) (d : Draft) : Draft := { d with items := t :: d.items }

/-- The open alternative, if it ends at a position. -/
def alternative (stop : Position) (d : Draft) : Tree :=
  .gather .concatenation ⟨d.itemsStart, stop⟩ d.items.reverse

/-- Closes an alternative at the bar between it and the next. -/
def split (bar : Span) (d : Draft) : Draft :=
  { d with
    alternatives := d.alternative bar.start :: d.alternatives
    itemsStart := bar.stop
    items := [] }

def tree (stop : Position) (d : Draft) : Tree :=
  .gather .alternation ⟨d.start, stop⟩ (d.alternative stop :: d.alternatives).reverse

/-- The last item, which an operator at the cursor repeats, and what is left without it. -/
def repeated (d : Draft) : Reading (Tree × Draft) := do
  match d.items with
  | [] => fail .nothingRepeated (← get).here
  | .leaf _ (.flags _) :: _ => fail .nothingRepeated (← get).here
  | t :: ts => return (t, { d with items := ts })

end Draft

/-- Passes over a character if it is at the cursor. -/
def passOver (d : Char) : Reading Unit :=
  modify fun c => if c.rest.head? = some d then c.bump else c

/-! ### Counts -/

/-- A number that counts repetitions, or what is wrong with it, and the cursor behind it. -/
def count (c : Cursor) : Except Fault Nat × Cursor :=
  let fuel := c.rest.length
  let start := (c.takeWhile Text.isBlank Cursor.bump fuel).2
  let (ds, stop) := start.takeWhile Char.isDigit Cursor.next fuel
  let after := (stop.takeWhile Text.isBlank Cursor.next fuel).2
  let span := ⟨start.position, stop.position⟩
  let n := Text.Reader.longValue ds
  let result := if ds = [] then throw { cause := .countMissing, span }
    else if 2 ^ 32 ≤ n then throw { cause := .countTooLarge, span }
    else pure n
  (result, after)

/-- Moves to the next character of a count in braces, which there must be. -/
def advanceCount (start : Position) : Reading Unit := do
  modify Cursor.next
  let c ← get
  if c.isEnd then fail .countUnclosed ⟨start, c.position⟩

/-- A count in braces: the least and the greatest number. -/
def readCount : Reading (Nat × Option Nat) := do
  let start := (← get).position
  advanceCount start
  let (low, c) := count (← get)
  set c
  if c.isEnd then fail .countUnclosed ⟨start, c.position⟩
  let hasComma := c.rest.head? = some ','
  if hasComma then advanceCount start
  let low ← low
  let mut high? := if hasComma then none else some low
  if hasComma ∧ (← get).rest.head? ≠ some '\x7d' then
    let (high, c) := count (← get)
    set c
    high? := some (← high)
  let c ← get
  if c.rest.head? ≠ some '\x7d' then fail .countUnclosed ⟨start, c.position⟩
  set c.next
  return (low, high?)

/-- How often the operator at the cursor repeats. -/
def readOperator : Reading (Nat × Option Nat) := do
  let c ← get
  match c.rest with
  | '\x7b' :: _ => readCount
  | d :: _ =>
    set c.bump
    return (if d = '+' then 1 else 0, if d = '?' then some 1 else none)
  | [] => return (0, none)

/-- The item that the operator at the cursor repeats, repeated. -/
def readRepetition (d : Draft) : Reading Draft := do
  let (t, d) ← d.repeated
  let start := (← get).position
  let (low, high?) ← readOperator
  let greedy := (← get).rest.head? ≠ some '?'
  passOver '?'
  if high?.any (· < low) then fail .countReversed (← since start)
  return d.push (.branch (← since t.span.start) (.repetition ⟨low, high?, greedy⟩) [t])

/-! ### Items -/

/-- An escape, or a character by itself. -/
def readSimple : Reading Tree := do
  let c ← get
  match c.rest with
  | [] => return .leaf c.here .empty
  | '\\' :: _ =>
    let (span, leaf) ← readEscape
    return .leaf span leaf
  | d :: _ =>
    set c.bump
    return .leaf c.character <| match d with
      | '.' => .dot
      | '^' => .assertion .lineStart
      | '$' => .assertion .lineStop
      | _ => .literal { char := d }

/-- Items up to the end of the group whose parenthesis was `opened`, or of the pattern. -/
def readItems (opened : Option Span) : Nat → Draft → Reading Tree
  | 0, d => return d.tree (← get).position
  | fuel + 1, d => do
    modify Cursor.skip
    let c ← get
    match c.rest with
    | [] =>
      match opened with
      | some span => fail .groupUnclosed span
      | none => return d.tree c.position
    | ')' :: _ =>
      if opened.isNone then fail .groupUnopened c.character
      return d.tree c.position
    | '(' :: _ =>
      let opening ← readGroupOpening
      let settings := opening.settings
      modify fun inner => { inner with verbose := settings.apply .verbose c.verbose }
      match opening.branch? with
      | none =>
        let t := .leaf (← since c.position) (.flags settings)
        readItems opened fuel (d.push t)
      | some b =>
        let start := (← get).position
        let t ← readItems (some c.character) fuel { start, itemsStart := start }
        modify fun inner => { inner.bump with verbose := c.verbose }
        let t := .branch (← since c.position) b [t]
        readItems opened fuel (d.push t)
    | '|' :: _ =>
      set c.bump
      readItems opened fuel (d.split c.character)
    | '[' :: _ => readItems opened fuel (d.push (← readClass fuel))
    | e :: _ =>
      if ['?', '*', '+', '\x7b'].contains e then readItems opened fuel (← readRepetition d)
      else readItems opened fuel (d.push (← readSimple))

/-- A whole pattern. -/
def read (pattern : String) : Except Fault Tree :=
  let cs := pattern.toList
  let draft := { start := {}, itemsStart := {} }
  (readItems none (cs.length + 1) draft).run' { rest := cs }

end Pattern

end FieldCalc
