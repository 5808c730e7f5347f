import FieldCalc.Number.Shortest

/-!
# Number texts

How the digits of a number are laid out.  A `Layout` is one output format's decisions: which
exponents are written positionally, whether integral numbers keep `.0`, how an exponent is signed
and where a tie between two shortest decimals goes.  The three layouts of the library are `text`
(cell text), `json` (stored documents) and `token` (numbers quoted in messages).  `fixed` writes
the exact value rounded to a number of places.
-/

namespace FieldCalc

namespace Number

def digitsOf (n : Nat) : List Char := Nat.toDigits 10 n

/-- A whole number in decimal, with a sign below zero. -/
def integerText (n : Int) : String :=
  String.ofList (if n < 0 then '-' :: digitsOf n.natAbs else digitsOf n.natAbs)

/-- The decisions of one number format. -/
structure Layout where
  /-- The least exponent of a leading digit that is written positionally, if there is one. -/
  plainFrom : Option Int
  /-- The exponent from which on numbers are no longer written positionally, if there is one. -/
  plainBelow : Option Int
  /-- Integral numbers are written with `.0`. -/
  pointZero : Bool
  /-- A positive exponent has a plus sign. -/
  exponentPlus : Bool
  tie : Tie

namespace Layout

/-- Cell text: never an exponent, no `.0`. -/
def text : Layout := ⟨none, none, false, false, .away⟩

/-- Stored documents: floats keep a fraction digit, and exponents are signed. -/
def json : Layout := ⟨some (-5), some 16, true, true, .toEven⟩

/-- Numbers quoted in messages. -/
def token : Layout := ⟨some (-4), some 16, true, false, .away⟩

/-- Whether a leading digit at exponent `e` is written positionally. -/
def isPlain (l : Layout) (e : Int) : Bool :=
  l.plainFrom.all (fun low => decide (low ≤ e)) && l.plainBelow.all (fun high => decide (e < high))

/-- The digits with the point set, and zeros filled in on either side. -/
def positional (l : Layout) (ds : List Char) (exponent : Int) : List Char :=
  if 0 ≤ exponent then
    ds ++ List.replicate exponent.toNat '0' ++ (if l.pointZero then ['.', '0'] else [])
  else
    let places := (-exponent).toNat
    if places < ds.length then
      ds.take (ds.length - places) ++ '.' :: ds.drop (ds.length - places)
    else '0' :: '.' :: (List.replicate (places - ds.length) '0' ++ ds)

/-- One digit, the others behind the point, and the exponent of the leading digit. -/
def scientific (l : Layout) (ds : List Char) (lead : Int) : List Char :=
  let fraction := match ds with
    | d :: r@(_ :: _) => d :: '.' :: r
    | ds => ds
  let sign := if lead < 0 then ['-'] else if l.exponentPlus then ['+'] else []
  fraction ++ 'e' :: (sign ++ digitsOf lead.natAbs)

/-- The text of a positive magnitude. -/
def magnitude (l : Layout) (m : Nat) (e : Int) : List Char :=
  let d := shortest l.tie m e
  let ds := digitsOf d.digits
  let lead := d.exponent + ds.length - 1
  if l.isPlain lead then l.positional ds d.exponent else l.scientific ds lead

/-- The text of any number. -/
def render (l : Layout) (x : Float) : String :=
  match shape x with
  | .nan => "NaN"
  | .infinite negative => if negative then "-inf" else "inf"
  | .finite negative m e =>
    let body := if m = 0 then l.positional ['0'] 0 else l.magnitude m e
    String.ofList (if negative then '-' :: body else body)

end Layout

/-- The exact value rounded to a number of places, a half to the even neighbour. -/
def fixed (places : Nat) (negative : Bool) (m : Nat) (e : Int) : List Char :=
  let n := roundDiv (m * 2 ^ e.toNat * 10 ^ places) (2 ^ (-e).toNat)
  let ds := digitsOf n
  let ds := List.replicate (places + 1 - ds.length) '0' ++ ds
  let whole := ds.take (ds.length - places)
  let body := if places = 0 then whole else whole ++ '.' :: ds.drop (ds.length - places)
  if negative then '-' :: body else body

end Number

end FieldCalc
