import FieldCalc.Toml.Scalar

/-!
# Reading TOML

Lines with a header, a key and a value, or nothing, each with an optional comment.  Strings are
basic or literal, on one line or on several.  Arrays may run over lines and inline tables may not.
Keys have fewer than 80 names, and containers are nested less than 80 deep.
-/

namespace FieldCalc

namespace Toml

open Text (Reader)

/-! ### Blanks and lines -/

def isSpace (c : Char) : Bool := c == ' ' || c == '\t'

def skipSpace (cs : List Char) : List Char := cs.dropWhile isSpace

/-- Whether a character may stand in a comment or a string. -/
def isVisible (c : Char) : Bool := c == '\t' || (decide (0x20 ≤ c.toNat) && c != '\x7f')

/-- The text from the end of the line on. -/
def skipComment (cs : List Char) : List Char :=
  match cs with
  | '#' :: r => r.dropWhile isVisible
  | cs => cs

def lineEnd : Reader Unit
  | '\n' :: cs => some ((), cs)
  | '\r' :: '\n' :: cs => some ((), cs)
  | _ => none

/-- What may follow on a line: blanks and a comment. -/
def skipTail (cs : List Char) : List Char := skipComment (skipSpace cs)

/-- Blanks, comments and line ends, at most `fuel` lines of them. -/
def skipLines : Nat → List Char → List Char
  | 0, cs => cs
  | fuel + 1, cs =>
    match lineEnd (skipTail cs) with
    | some (_, cs) => skipLines fuel cs
    | none => skipTail cs

/-! ### Strings -/

/-- The character with a code point written in `width` hexadecimal digits. -/
def readCodePoint (width : Nat) : Reader Char := fun cs => do
  let ds ← (cs.take width).mapM Reader.hexDigit?
  let n := ds.foldl (fun n d => n * 16 + d) 0
  if ds.length = width ∧ n.isValidChar then return (Char.ofNat n, cs.drop width) else none

/-- The character that an escape stands for, after its backslash. -/
def readEscape : Reader Char
  | 'b' :: cs => some ('\x08', cs)
  | 't' :: cs => some ('\t', cs)
  | 'n' :: cs => some ('\n', cs)
  | 'f' :: cs => some ('\x0c', cs)
  | 'r' :: cs => some ('\r', cs)
  | '"' :: cs => some ('"', cs)
  | '\\' :: cs => some ('\\', cs)
  | 'u' :: cs => readCodePoint 4 cs
  | 'U' :: cs => readCodePoint 8 cs
  | _ => none

/-- The characters of a string on one line, up to its closing quote. -/
def readLine (quote : Char) (escapes : Bool) : Nat → Reader (List Char)
  | 0, _ => none
  | _ + 1, [] => none
  | fuel + 1, c :: cs =>
    if c = quote then some ([], cs)
    else if escapes ∧ c = '\\' then do
      let (c, cs) ← readEscape cs
      let (r, cs) ← readLine quote escapes fuel cs
      return (c :: r, cs)
    else if isVisible c then do
      let (r, cs) ← readLine quote escapes fuel cs
      return (c :: r, cs)
    else none

/-- The text after a run of blanks and line ends. -/
def skipWhite : List Char → List Char
  | '\r' :: '\n' :: cs => skipWhite cs
  | c :: cs => if isSpace c ∨ c = '\n' then skipWhite cs else c :: cs
  | [] => []

/-- A backslash at the end of a line: the text after the blanks and line ends that follow. -/
def continuation? (cs : List Char) : Option (List Char) :=
  (lineEnd (skipSpace cs)).map fun (_, cs) => skipWhite cs

/-- The characters of a string over several lines, up to three closing quotes.  Up to two quotes
may stand right before those.  A line end is a line feed, however it is written. -/
def readLines (quote : Char) (escapes : Bool) : Nat → Reader (List Char)
  | 0, _ => none
  | _ + 1, [] => none
  | fuel + 1, c :: cs =>
    let quotes := (c :: cs).takeWhile (· == quote)
    if 3 ≤ quotes.length then
      if quotes.length ≤ 5 then some (quotes.drop 3, (c :: cs).drop quotes.length) else none
    else if escapes ∧ c = '\\' then
      match continuation? cs with
      | some cs => readLines quote escapes fuel cs
      | none => do
        let (c, cs) ← readEscape cs
        let (r, cs) ← readLines quote escapes fuel cs
        return (c :: r, cs)
    else if isVisible c ∨ c = '\n' then do
      let (r, cs) ← readLines quote escapes fuel cs
      return (c :: r, cs)
    else if c = '\r' ∧ cs.head? = some '\n' then readLines quote escapes fuel cs
    else none

/-- A string that begins with the given quote. -/
def readString (quote : Char) (cs : List Char) : Option (String × List Char) := do
  let escapes := quote == '"'
  let (r, cs) ← match cs with
    | b :: c :: r =>
      if b = quote ∧ c = quote then
        let r := ((lineEnd r).map (·.2)).getD r
        readLines quote escapes (r.length + 1) r
      else readLine quote escapes cs.length cs
    | cs => readLine quote escapes cs.length cs
  return (String.ofList r, cs)

/-! ### Keys -/

def isBare (c : Char) : Bool := c.isAlphanum || c == '_' || c == '-'

/-- One name of a key: bare, or a string on one line. -/
def readName : Reader String
  | [] => none
  | c :: cs =>
    if c = '"' ∨ c = '\'' then do
      let (r, cs) ← readLine c (c == '"') cs.length cs
      return (String.ofList r, cs)
    else
      match (c :: cs).takeWhile isBare with
      | [] => none
      | name => some (String.ofList name, (c :: cs).dropWhile isBare)

/-- Names with points between them, at most `fuel` of them. -/
def readPath : Nat → Reader (List String)
  | 0, _ => none
  | fuel + 1, cs => do
    let (name, cs) ← readName (skipSpace cs)
    match skipSpace cs with
    | '.' :: cs => do
      let (names, cs) ← readPath fuel cs
      return (name :: names, cs)
    | cs => return ([name], cs)

/-- How many names a key may have, and how deep containers may be nested. -/
def limit : Nat := 79

def readKey : Reader (List String) := readPath limit

/-- A key, an equals sign and a value. -/
def readEntry (value : Reader Toml) : Reader Entry := fun cs => do
  let (path, cs) ← readKey cs
  let (_, cs) ← Reader.char '=' cs
  let (v, cs) ← value (skipSpace cs)
  return ((path, v), cs)

/-! ### Values -/

/-- The items of an array up to its closing bracket, at most `fuel` of them. -/
def readItems (value : Reader Toml) : Nat → Reader (List Toml)
  | 0, _ => none
  | fuel + 1, cs =>
    match skipLines cs.length cs with
    | ']' :: cs => some ([], cs)
    | cs => do
      let (v, cs) ← value cs
      match skipLines cs.length cs with
      | ']' :: cs => return ([v], cs)
      | ',' :: cs => do
        let (vs, cs) ← readItems value fuel cs
        return (v :: vs, cs)
      | _ => none

/-- The entries of an inline table up to its closing brace, at most `fuel` of them. -/
def readEntries (value : Reader Toml) : Nat → Reader (List Entry)
  | 0, _ => none
  | fuel + 1, cs => do
    let (e, cs) ← readEntry value cs
    match skipSpace cs with
    | '\x7d' :: cs => return ([e], cs)
    | ',' :: cs => do
      let (es, cs) ← readEntries value fuel cs
      return (e :: es, cs)
    | _ => none

/-- Whether no key of a table leads to or through the value of another one. -/
def areApart : List Entry → Bool
  | [] => true
  | e :: es => es.all (fun f => !e.1.isPrefixOf f.1 && !f.1.isPrefixOf e.1) && areApart es

/-- An inline table after its opening brace. -/
def readTable (value : Reader Toml) : Reader Toml := fun cs =>
  match skipSpace cs with
  | '\x7d' :: cs => some (.table [], cs)
  | cs => do
    let (es, cs) ← readEntries value (cs.length + 1) cs
    if areApart es then return (.table es, cs) else none

/-- A string or a scalar. -/
def readSimple : Reader Toml
  | '"' :: cs => (readString '"' cs).map fun (s, cs) => (.string s, cs)
  | '\'' :: cs => (readString '\'' cs).map fun (s, cs) => (.string s, cs)
  | cs => readScalar cs

/-- A value with arrays and inline tables nested at most `depth` deep. -/
def readValue : Nat → Reader Toml
  | 0, cs => readSimple cs
  | depth + 1, cs =>
    match cs with
    | '[' :: cs =>
      (readItems (readValue depth) (cs.length + 1) cs).map fun (vs, cs) => (.array vs, cs)
    | '\x7b' :: cs => readTable (readValue depth) cs
    | cs => readSimple cs

/-! ### Documents -/

/-- The header of a section. -/
def readHeader : Reader (List String × Bool) := fun cs =>
  match cs with
  | '[' :: '[' :: cs => do
    let (path, cs) ← readKey cs
    let (_, cs) ← Reader.char ']' cs
    let (_, cs) ← Reader.char ']' cs
    return ((path, true), cs)
  | '[' :: cs => do
    let (path, cs) ← readKey cs
    let (_, cs) ← Reader.char ']' cs
    return ((path, false), cs)
  | _ => none

/-- Puts an entry at the front of a document's first entries. -/
def Document.cons (e : Entry) (d : Document) : Document := { d with entries := e :: d.entries }

/-- Puts a header in front of a document's first entries. -/
def Document.under (path : List String) (isItem : Bool) (d : Document) : Document :=
  ⟨[], ⟨path, isItem, d.entries⟩ :: d.sections⟩

/-- The lines of a document, at most `fuel` of them. -/
def readDocument : Nat → List Char → Option Document
  | 0, _ => none
  | fuel + 1, cs =>
    match skipLines cs.length cs with
    | [] => some ⟨[], []⟩
    | '[' :: cs => do
      let ((path, isItem), cs) ← readHeader ('[' :: cs)
      let d ← rest fuel cs
      return d.under path isItem
    | cs => do
      let (e, cs) ← readEntry (readValue limit) cs
      let d ← rest fuel cs
      return d.cons e
where
  /-- What follows on a line, and the lines after it. -/
  rest (fuel : Nat) (cs : List Char) : Option Document :=
    match skipTail cs with
    | [] => some ⟨[], []⟩
    | cs => (lineEnd cs).bind fun (_, cs) => readDocument fuel cs

/-- The document that a text spells.  A byte order mark in front of it is passed over. -/
def read? (s : String) : Option Document :=
  match s.toList with
  | '\ufeff' :: cs => readDocument (cs.length + 1) cs
  | cs => readDocument (cs.length + 1) cs

end Toml

end FieldCalc
