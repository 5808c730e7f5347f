import FieldCalc.Pattern.Cursor
import FieldCalc.Pattern.Tree
import FieldCalc.Text.Reader

/-!
# Escapes

What a backslash and the characters behind it stand for: a character, a class of characters, or a
place between characters.
-/

namespace FieldCalc

namespace Pattern

open Text (Reader)

/-! ### Characters by number -/

/-- The character with these hexadecimal digits. -/
def characterOf? (ds : List Nat) : Option Char :=
  let n := ds.foldl (fun n d => n * 16 + d) 0
  if n.isValidChar then some (Char.ofNat n) else none

/-- The character with these hexadecimal digits, which stand in the given place. -/
def numbered (span : Span) (ds : List Nat) : Reading Char :=
  match characterOf? ds with
  | some c => return c
  | none => fail .hexNoCharacter span

/-- The hexadecimal digits behind the cursor, up to a closing brace. -/
def digitsToBrace : Nat → Reading (List Nat)
  | 0 => return []
  | fuel + 1 => do
    modify Cursor.next
    let c ← get
    match c.rest with
    | [] => return []
    | '\x7d' :: _ => return []
    | d :: _ =>
      match Reader.hexDigit? d with
      | some n => return n :: (← digitsToBrace fuel)
      | none => fail .hexDigit c.character

/-- So many hexadecimal digits from the cursor on. -/
def digitsOfWidth : Nat → Reading (List Nat)
  | 0 => return []
  | width + 1 => do
    let c ← get
    match c.rest with
    | [] => fail .escapeUnfinished c.here
    | d :: _ =>
      match Reader.hexDigit? d with
      | some n =>
        modify Cursor.next
        return n :: (← digitsOfWidth width)
      | none => fail .hexDigit c.character

/-- A character by its number, in braces or in so many digits, from the letter before them on. -/
def readNumbered (width : Nat) : Reading Literal := do
  modify Cursor.next
  let opening ← get
  if opening.rest.head? = some '\x7b' then
    let ds ← digitsToBrace opening.rest.length
    let closing ← get
    if closing.isEnd then fail .escapeUnfinished ⟨opening.position, closing.position⟩
    modify Cursor.next
    if ds = [] then fail .hexEmpty (← since opening.position)
    return { char := ← numbered ⟨opening.character.stop, closing.position⟩ ds }
  else
    let ds ← digitsOfWidth width
    return ⟨← numbered (← since opening.position) ds, width == 2⟩

/-! ### Properties -/

/-- A property by its name, or by a name and a value with a sign between them, and whether the sign
negates it. -/
def Property.ofText (text : String) : Property × Bool :=
  let pair (sign : String) : Option (Property × Bool) :=
    match text.splitOn sign with
    | name :: value :: more =>
      some (.valued name (sign.intercalate (value :: more)), sign == "!=")
    | _ => none
  (((pair "!=").or (pair ":")).or (pair "=")).getD (.single text, false)

/-- A property in braces or of one letter, from the letter before it on, which negates it if it is a
capital. -/
def readProperty : Reading Leaf := do
  let capital := (← get).rest.head? = some 'P'
  modify Cursor.next
  let c ← get
  match c.rest with
  | [] => fail .escapeUnfinished c.here
  | '\x7b' :: cs =>
    let (name, closing) := c.next.takeWhile (· != '\x7d') Cursor.next cs.length
    if closing.isEnd then fail .escapeUnfinished closing.here
    set closing.bump
    let (p, negated) := Property.ofText (String.ofList name)
    return .property p (negated != capital)
  | '\\' :: _ => fail .propertyEscape c.character
  | d :: _ =>
    modify Cursor.next
    return .property (.single (String.ofList [d])) capital

/-! ### Word boundaries -/

/-- Kinds of word boundaries by their names. -/
def boundaryKinds : List (String × Boundary) :=
  [("start", .wordStart), ("end", .wordStop), ("start-half", .startHalf), ("end-half", .stopHalf)]

/-- The kind of a word boundary in braces, at the opening one.  Braces that cannot hold a kind are
left for what follows; `start` is where the escape begins. -/
def readBoundaryKind (start : Position) : Reading Boundary := do
  let brace ← get
  let c := brace.next
  let isPart (d : Char) : Bool := d.isAlpha || d == '-'
  match c.rest with
  | [] => fail .boundaryUnfinished ⟨start, c.position⟩
  | d :: cs =>
    if isPart d then
      let (kind, closing) := c.takeWhile isPart Cursor.next (cs.length + 1)
      if closing.rest.head? ≠ some '\x7d' then
        fail .boundaryUnclosed ⟨brace.position, closing.position⟩
      match boundaryKinds.lookup (String.ofList kind) with
      | some b =>
        set closing.bump
        return b
      | none => fail .boundaryUnknown ⟨c.position, closing.position⟩
    else return .word

/-! ### All escapes -/

/-- Whether a backslash before a character changes nothing. -/
def standsForItself (c : Char) : Bool :=
  c.toNat < 0x80 && !c.isAlphanum && c != '<' && c != '>'

/-- What an escape of one letter stands for. -/
def letterLeaf? (c : Char) : Option Leaf :=
  let character (d : Char) : Option Leaf := some (.literal { char := d })
  match c with
  | 'a' => character '\x07'
  | 'f' => character '\x0c'
  | 't' => character '\t'
  | 'n' => character '\n'
  | 'r' => character '\r'
  | 'v' => character '\x0b'
  | 'd' => some (.shorthand .digit false)
  | 's' => some (.shorthand .space false)
  | 'w' => some (.shorthand .word false)
  | 'D' => some (.shorthand .digit true)
  | 'S' => some (.shorthand .space true)
  | 'W' => some (.shorthand .word true)
  | 'A' => some (.assertion .textStart)
  | 'z' => some (.assertion .textStop)
  | 'b' => some (.assertion (.boundary .word))
  | 'B' => some (.assertion (.boundary .notWord))
  | '<' => some (.assertion (.boundary .wordStart))
  | '>' => some (.assertion (.boundary .wordStop))
  | _ => if standsForItself c then character c else none

/-- An escape from its backslash on, which stands at `start`. -/
def readEscapeFrom (start : Position) : Reading Leaf := do
  modify Cursor.bump
  let c ← get
  match c.rest with
  | [] => fail .escapeUnfinished ⟨start, c.position⟩
  | 'x' :: _ => return .literal (← readNumbered 2)
  | 'u' :: _ => return .literal (← readNumbered 4)
  | 'U' :: _ => return .literal (← readNumbered 8)
  | 'p' :: _ => readProperty
  | 'P' :: _ => readProperty
  | d :: cs =>
    let span := ⟨start, c.character.stop⟩
    if d.isDigit then fail .backreference span
    match letterLeaf? d with
    | some leaf =>
      set c.bump
      if d = 'b' ∧ cs.head? = some '\x7b' then
        return .assertion (.boundary (← readBoundaryKind start))
      return leaf
    | none => fail .escapeUnknown span

/-- An escape and its place. -/
def readEscape : Reading (Span × Leaf) := do
  let start := (← get).position
  let leaf ← readEscapeFrom start
  return (← since start, leaf)

end Pattern

end FieldCalc
