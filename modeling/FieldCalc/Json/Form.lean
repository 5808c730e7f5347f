import FieldCalc.Json.Reader

/-!
# Passing over a value

A value that nobody asks for is passed over without being read.  Only its form counts then: it may
be nested as deep as it likes, its numbers may be too large, and its strings may hold surrogates
that stand alone.  Open containers are kept on a stack, each as the bracket that closes it.
-/

namespace FieldCalc

namespace Json

open Text (Reader)

/-! ### Simple values -/

/-- The text after a string, whose opening quote is read already. -/
def afterString : List Char → Option (List Char)
  | '"' :: cs => some cs
  | '\\' :: 'u' :: a :: b :: c :: d :: cs =>
    if [a, b, c, d].all fun c => (Reader.hexDigit? c).isSome then afterString cs else none
  | '\\' :: c :: cs => if "\"\\/bfnrt".toList.contains c then afterString cs else none
  | c :: cs => if c = '\\' ∨ c.toNat < 0x20 then none else afterString cs
  | [] => none

/-- The text after a number, whose sign is read already. -/
def afterNumber (cs : List Char) : Option (List Char) := do
  let (_, cs) ← readWhole cs
  let (_, cs) ← Number.readFraction Reader.digits cs
  let (_, cs) ← Number.readPower Reader.digits cs
  return cs

/-- The text after a number, a string or a word. -/
def afterScalar : List Char → Option (List Char)
  | '"' :: cs => afterString cs
  | '-' :: cs => afterNumber cs
  | 'n' :: 'u' :: 'l' :: 'l' :: cs => some cs
  | 't' :: 'r' :: 'u' :: 'e' :: cs => some cs
  | 'f' :: 'a' :: 'l' :: 's' :: 'e' :: cs => some cs
  | cs => afterNumber cs

/-! ### Containers -/

/-- The text after what stands before a part of a container: a key and a colon in an object. -/
def afterKey (close : Char) (cs : List Char) : Option (List Char) :=
  if close = ']' then some cs
  else
    match skipSpace cs with
    | '"' :: cs => do
      match skipSpace (← afterString cs) with
      | ':' :: cs => some cs
      | _ => none
    | _ => none

/-- The containers that stay open after a value, and the text from the next value on, or from the
end of the last container on. -/
def settle : List Char → List Char → Option (List Char × List Char)
  | [], cs => some ([], cs)
  | close :: stack, cs =>
    match skipSpace cs with
    | [] => none
    | c :: cs =>
      if c = close then settle stack cs
      else if c = ',' then (afterKey close cs).map fun cs => (close :: stack, cs)
      else none

/-- The same after the opening bracket of a container. -/
def enter (close : Char) (stack cs : List Char) : Option (List Char × List Char) :=
  match skipSpace cs with
  | [] => none
  | c :: r =>
    if c = close then settle stack r
    else (afterKey close (c :: r)).map fun cs => (close :: stack, cs)

/-- The text after the values from here on, up to the end of the open containers.  `fuel` bounds
their number. -/
def afterValues : Nat → List Char → List Char → Option (List Char)
  | 0, _, _ => none
  | fuel + 1, stack, cs => do
    let (stack, cs) ← match skipSpace cs with
      | '[' :: cs => enter ']' stack cs
      | '\x7b' :: cs => enter '\x7d' stack cs
      | cs => (afterScalar cs).bind (settle stack)
    if stack = [] then some cs else afterValues fuel stack cs

/-- The text after a value. -/
def afterValue (cs : List Char) : Option (List Char) := afterValues cs.length [] cs

/-- A value that is passed over; it counts as null. -/
def passOver : Reader Json := fun cs => (afterValue cs).map fun cs => (.null, cs)

end Json

end FieldCalc
