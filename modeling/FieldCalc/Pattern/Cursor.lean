import FieldCalc.Pattern.Fault
import FieldCalc.Text.Blank

/-!
# Reading a pattern

A cursor is what is left of a pattern, with the position that it begins at.  In verbose mode blanks
and comments, which run from a number sign to the end of their line, are passed over.
-/

namespace FieldCalc

namespace Pattern

structure Cursor where
  rest : List Char
  position : Position := {}
  verbose : Bool := false
  /-- The names of the groups so far. -/
  names : List (String × Span) := []

namespace Cursor

def isEnd (c : Cursor) : Bool := c.rest.isEmpty

/-- The empty stretch at the cursor. -/
def here (c : Cursor) : Span := ⟨c.position, c.position⟩

/-- The stretch of the character at the cursor. -/
def character (c : Cursor) : Span :=
  match c.rest with
  | [] => c.here
  | d :: _ => ⟨c.position, c.position.after d⟩

/-- The cursor behind its character. -/
def bump (c : Cursor) : Cursor :=
  match c.rest with
  | [] => c
  | d :: r => { c with rest := r, position := c.position.after d }

def bumps : Nat → Cursor → Cursor
  | 0, c => c
  | n + 1, c => bumps n c.bump

/-- What is left behind blanks and comments, begun inside a comment or not. -/
def behindBlanks (inComment : Bool) (p : Position) : List Char → List Char × Position
  | [] => ([], p)
  | c :: cs =>
    if inComment then behindBlanks (c != '\n') (p.after c) cs
    else if Text.isBlank c ∨ c = '#' then behindBlanks (c == '#') (p.after c) cs
    else (c :: cs, p)

/-- The cursor behind blanks and comments in verbose mode. -/
def skip (c : Cursor) : Cursor :=
  if c.verbose then
    let (rest, position) := behindBlanks false c.position c.rest
    { c with rest, position }
  else c

/-- The cursor behind its character and the blanks after it. -/
def next (c : Cursor) : Cursor := c.bump.skip

/-- The character after the one at the cursor.  In verbose mode blanks and one number sign among
them are passed over, unless nothing else follows. -/
def peek (c : Cursor) : Option Char :=
  let cs := c.rest.drop 1
  if c.verbose then
    match cs.dropWhile Text.isBlank with
    | '#' :: r => (r.dropWhile Text.isBlank).head?.or cs.head?
    | r => r.head?.or cs.head?
  else cs.head?

/-- The characters of a kind at the cursor, at most `fuel` of them, and the cursor behind them. -/
def takeWhile (p : Char → Bool) (step : Cursor → Cursor) : Nat → Cursor → List Char × Cursor
  | 0, c => ([], c)
  | fuel + 1, c =>
    match c.rest with
    | d :: _ =>
      if p d then
        let (ds, after) := takeWhile p step fuel (step c)
        (d :: ds, after)
      else ([], c)
    | [] => ([], c)

end Cursor

/-- Reads at the cursor and moves it, or finds a fault. -/
abbrev Reading (α : Type) := StateT Cursor (Except Fault) α

def fail {α : Type} (cause : Cause) (span : Span) : Reading α := throw { cause, span }

/-- A fault that clashes with an earlier place. -/
def clash {α : Type} (cause : Cause) (span earlier : Span) : Reading α :=
  throw ⟨cause, span, some earlier⟩

/-- The stretch from a position to the cursor. -/
def since (start : Position) : Reading Span := return ⟨start, (← get).position⟩

end Pattern

end FieldCalc
