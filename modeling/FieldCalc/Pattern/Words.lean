import FieldCalc.Pattern.Shape
import FieldCalc.Pattern.Utf8

/-!
# Patterns that are words

A pattern that matches a few short words and nothing else is searched by looking for these words, in
their order of preference, and so is a choice among very many words.  No automaton is built then.
-/

namespace FieldCalc

namespace Pattern

/-- The bytes of a word. -/
abbrev Word := List Nat

/-- The word of a shape that is a literal. -/
def Shape.word? : Shape → Option Word
  | .literal cs => some (cs.flatMap fun c => Utf8.bytes c.toNat)
  | _ => none

namespace Words

/-! ### Limits -/

/-- How many words there may be. -/
def mostWords : Nat := 250

/-- How long a word may be. -/
def longest : Nat := 100

/-- How many characters of a set are told apart. -/
def mostCharacters : Nat := 10

/-- How often a repetition is written out. -/
def mostTimes : Nat := 10

/-! ### Lists of words -/

/-- A list without words that follow themselves. -/
def distinct (ws : List Word) : List Word :=
  ws.foldr (fun w us => if us.head? = some w then us else w :: us) []

/-- Words none of which is too long. -/
def short? (ws : List Word) : Option (List Word) :=
  if ws.all fun w => decide (w.length ≤ longest) then some ws else none

/-- The words of two parts behind one another. -/
def cross? (us ws : List Word) : Option (List Word) :=
  if us.length * ws.length ≤ mostWords then
    short? (distinct (us.flatMap fun u => ws.map fun w => u ++ w))
  else none

/-- The words of two alternatives.  Where there are many, they must be no longer than four bytes. -/
def union? (us ws : List Word) : Option (List Word) :=
  if us.length + ws.length ≤ mostWords then some (distinct (us ++ ws))
  else
    let (us, ws) := (distinct us, distinct ws)
    if us.length + ws.length ≤ mostWords ∧ (us ++ ws).all fun w => decide (w.length ≤ 4) then
      some (distinct (us ++ ws))
    else none

/-- The words of a part so many times, behind others.  Where there are none, there will be none. -/
def times? (ws : List Word) : Nat → List Word → Option (List Word)
  | 0, us => some us
  | n + 1, us => if us = [] then some [] else (cross? us ws).bind (times? ws n)

/-- The words of a part with these words that is repeated. -/
def repeated? (count : Count) (ws : List Word) : Option (List Word) :=
  if count.low = 0 then
    if count.high? = some 1 then if count.greedy then union? ws [[]] else union? [[]] ws
    else if ws = [] then some [[]]
    else none
  else do
    let us ← times? ws (min count.low mostTimes) [[]]
    if us = [] ∨ (count.high? = some count.low ∧ count.low ≤ mostTimes) then some us else none

/-- The characters of a set as words. -/
def ofSet? (set : Text.Ranges) : Option (List Word) :=
  let size := set.foldl (fun n (l, h) => n + (h - l + 1)) 0
  if size ≤ mostCharacters then
    some (set.flatMap fun (l, h) => (List.range (h - l + 1)).map fun i => Utf8.bytes (l + i))
  else none

end Words

namespace Shape

open Words

mutual

/-- Whether a shape has neither places nor captures. -/
def isPlain : Shape → Bool
  | .place _ => false
  | .capture _ => false
  | .repetition _ t => t.isPlain
  | .concatenation ts => arePlain ts
  | .alternation ts => arePlain ts
  | _ => true

def arePlain : List Shape → Bool
  | [] => true
  | t :: ts => t.isPlain && arePlain ts

end

theorem arePlain_eq_all (ts : List Shape) : arePlain ts = ts.all isPlain := by
  induction ts with
  | nil => rfl
  | cons t ts ih => simp [arePlain, ih]

mutual

/-- All words that a shape matches, if they are few and short. -/
def words? : Shape → Option (List Word)
  | .empty => some [[]]
  | .literal cs => short? (Shape.word? (.literal cs)).toList
  | .characters _ set => ofSet? set
  | .place _ => some [[]]
  | .repetition count t => t.words?.bind (repeated? count)
  | .capture t => t.words?
  | .concatenation ts => wordsBehind? [[]] ts
  | .alternation ts => wordsAmong? [] ts

/-- The words of parts behind others.  Where there are none, there will be none. -/
def wordsBehind? (us : List Word) : List Shape → Option (List Word)
  | [] => some us
  | t :: ts => if us = [] then some [] else do wordsBehind? (← cross? us (← t.words?)) ts

/-- The words of alternatives after others. -/
def wordsAmong? (us : List Word) : List Shape → Option (List Word)
  | [] => some us
  | t :: ts => do wordsAmong? (← union? us (← t.words?)) ts

end

end Shape

namespace Words

/-! ### Searching -/

/-- Words that are looked for, and whether they are whole: of a cut word only the front is looked
for, so that what is found has to be checked. -/
abbrev Needles := List (Word × Bool)

/-- The words without those that begin with an earlier one, which is found before them. -/
def preferred (ns : Needles) : Needles :=
  ns.foldl (fun us n => if us.any fun u => u.1.isPrefixOf n.1 then us else us ++ [n]) []

/-- The words cut to a length. -/
def cut (length : Nat) (ns : Needles) : Needles :=
  ns.map fun (w, whole) => (w.take length, whole && decide (w.length ≤ length))

/-- What all words begin with. -/
def commonStart : List Word → Word
  | [] => []
  | w :: ws => ws.foldl (fun u v => ((u.zip v).takeWhile fun (b, c) => b == c).map (·.1)) w

/-- Whether a byte that begins a character is so common that looking for it alone is slow. -/
def isCommon (b : Nat) : Bool :=
  0x80 ≤ b || ("\n\r (),-./0129:_abcdefghilmnoprstuvxy|".toList.map Char.toNat).contains b

/-- How words are cut while there are too many: to which length, and down to which number. -/
def cuts : List (Nat × Nat) := [(5, 10), (4, 10), (3, 64), (2, 64), (1, 10)]

/-- Words cut until there are not too many. -/
def cutBy : List (Nat × Nat) → Needles → Needles
  | [], ns => ns
  | (length, limit) :: cs, ns =>
    if ns.length ≤ limit then ns else cutBy cs (preferred (cut length ns))

/-- Whether words are looked for as they are, so that nothing found has to be checked.  If not, it
is quicker to look for something that they have in common or for less of each. -/
def areWhole (ws : List Word) : Bool :=
  let needles := preferred (ws.map (·, true))
  let start := commonStart (needles.map (·.1))
  let hasRareStart := match start with
    | [] => false
    | b :: _ => decide (2 ≤ ws.length) && decide (start.length ≤ 3) && !isCommon b
  if ws = [] ∨ ws.contains [] then false
  else if hasRareStart then needles.all fun n => decide (n.1.length ≤ 1)
  else if 4 < start.length ∨ (1 < start.length ∧ 16 < needles.length) then needles.length == 1
  else
    let fewer := cutBy cuts needles
    fewer.all (·.2) || fewer.any (fun n => decide (n.1.length ≤ 2)) || decide (64 < fewer.length)

end Words

/-- Whether a pattern is a choice among so many words that they are looked up together. -/
def Shape.isDictionary : Shape → Bool
  | .alternation ts => decide (3000 ≤ ts.length) && (ts.mapM Shape.word?).isSome
  | _ => false

/-- Whether a pattern is searched by looking for words. -/
def Shape.isWords (t : Shape) : Bool :=
  t.isDictionary || (t.isPlain && t.words?.any Words.areWhole)

end Pattern

end FieldCalc
