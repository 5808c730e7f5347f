import FieldCalc.Pattern.Cursor
import FieldCalc.Pattern.Tree
import FieldCalc.Text.Letter

/-!
# Openings of groups

What stands behind an opening parenthesis: nothing, a name, or flags.  Flags without a group after
them hold for the rest of the group around them.
-/

namespace FieldCalc

namespace Pattern

/-! ### Flags -/

/-- Flags as they are written, a hyphen before those that are unset, with their places. -/
abbrev Flags := List (Char × Span)

/-- Flags by their letters. -/
def flagLetters : List (Char × Flag) :=
  [('i', .ignoreCase), ('m', .multiLine), ('s', .dotAll), ('U', .swapGreed), ('u', .unicode),
   ('R', .crlf), ('x', .verbose)]

/-- What flags set and unset. -/
def Flags.settings (flags : Flags) : Settings :=
  let signs := flags.map (·.1)
  let set := signs.takeWhile (· != '-')
  signs.filterMap fun c => (flagLetters.lookup c).map (·, set.contains c)

/-- Flags up to a colon or a closing parenthesis. -/
def readFlags : Nat → Flags → Reading Flags
  | 0, flags => return flags
  | fuel + 1, flags => do
    let c ← get
    match c.rest with
    | [] => fail .flagUnfinished c.here
    | d :: _ =>
      if d = ':' ∨ d = ')' then
        match flags.getLast? with
        | some ('-', span) => fail .flagDangling span
        | _ => return flags
      else
        if d ≠ '-' ∧ (flagLetters.lookup d).isNone then fail .flagUnknown c.character
        match flags.lookup d with
        | some earlier =>
          clash (if d = '-' then .flagNegatedTwice else .flagTwice) c.character earlier
        | none =>
          set c.bump
          readFlags fuel (flags ++ [(d, c.character)])

/-! ### Names -/

/-- Whether a character may stand in a name behind its first, and whether it may be the first. -/
def isNamePart (first : Bool) (c : Char) : Bool :=
  if first then c == '_' || Text.isAlphabetic c
  else ['_', '.', '[', ']'].contains c || Text.isAlphabetic c || Text.isNumeric c

/-- The name of a group up to its closing angle. -/
def readName : Reading Unit := do
  let start := (← get).position
  let (name, c) := (← get).takeWhile (isNamePart false) Cursor.bump (← get).rest.length
  if name.head?.any fun d => !isNamePart true d then
    fail .nameCharacter (← get).character
  match c.rest with
  | [] => fail .nameUnfinished c.here
  | d :: _ =>
    if d ≠ '>' then fail .nameCharacter c.character
    if name = [] then fail .nameEmpty ⟨start, start⟩
    let name := String.ofList name
    let span := ⟨start, c.position⟩
    match c.names.lookup name with
    | some earlier => clash .nameTwice span earlier
    | none => set { c.bump with names := c.names ++ [(name, span)] }

/-! ### Openings -/

/-- How a parenthesis begins. -/
inductive Opening where
  /-- Flags alone, closed already. -/
  | flags (settings : Settings)
  /-- A group whose match is kept. -/
  | capture
  /-- A group with flags that hold inside. -/
  | scope (settings : Settings)

namespace Opening

def settings : Opening → Settings
  | .flags s => s
  | .capture => []
  | .scope s => s

/-- The group that is opened, if it is one. -/
def branch? : Opening → Option Branch
  | .flags _ => none
  | .capture => some .capture
  | .scope s => some (.scope s)

end Opening

/-- What begins a look-around. -/
def lookArounds : List (List Char) := [['?', '='], ['?', '!'], ['?', '<', '='], ['?', '<', '!']]

/-- The opening of a group, from its parenthesis on. -/
def readGroupOpening : Reading Opening := do
  let parenthesis ← get
  let c := parenthesis.next
  match lookArounds.find? fun sign => sign.isPrefixOf c.rest with
  | some sign => fail .lookAround ⟨parenthesis.position, (c.bumps sign.length).position⟩
  | none =>
    match c.rest with
    | '?' :: 'P' :: '<' :: _ =>
      set (c.bumps 3)
      readName
      return .capture
    | '?' :: '<' :: _ =>
      set (c.bumps 2)
      readName
      return .capture
    | '?' :: cs =>
      if cs.isEmpty then fail .groupUnclosed parenthesis.character
      set c.bump
      let flags ← readFlags (cs.length + 1) []
      let closing ← get
      set closing.bump
      if closing.rest.head? ≠ some ')' then return .scope flags.settings
      if flags.isEmpty then fail .nothingRepeated c.here
      return .flags flags.settings
    | _ =>
      set c
      return .capture

end Pattern

end FieldCalc
