import FieldCalc.Pattern.Characters
import FieldCalc.Pattern.Fault
import FieldCalc.Pattern.NamedClass
import FieldCalc.Pattern.Property.Age
import FieldCalc.Pattern.Property.Binary
import FieldCalc.Pattern.Property.Break
import FieldCalc.Pattern.Property.Category
import FieldCalc.Pattern.Property.Extension
import FieldCalc.Pattern.Property.Refused
import FieldCalc.Pattern.Property.Script
import FieldCalc.Pattern.Tree

/-!
# Properties

The characters that have a property which a pattern names.  Case, spaces, hyphens and underscores do
not count in names, nor does what is not in ASCII, nor `is` at the front.
-/

namespace FieldCalc

namespace Pattern

open Text (Ranges)

/-! ### Names -/

/-- What counts of the characters of a name. -/
def plainChars (cs : List Char) : List Char :=
  (cs.filter fun c => c.toNat < 0x80 && !([' ', '_', '-'].contains c)).map Char.toLower

/-- What counts of a name.  Only in `isc` the front is part of the name. -/
def plainName (name : String) : String :=
  let cs := name.toList
  if (cs.take 2).map Char.toLower = ['i', 's'] then
    match plainChars (cs.drop 2) with
    | ['c'] => "isc"
    | cs => String.ofList cs
  else String.ofList (plainChars cs)

/-! ### Values -/

/-- The characters of a category by its short name. -/
def categoryOf (short : String) : Ranges :=
  if short = "cs" then [(0xd800, 0xdfff)] else (Named.find? categories short).getD []

/-- The characters of a category or a group of categories. -/
def category? (name : String) : Option Ranges :=
  match name with
  | "any" => some [(0, Characters.last)]
  | "ascii" => some (namedClass "ascii")
  | "assigned" => some (Characters.complement (categoryOf "cn"))
  | _ =>
    let group := (categoryGroups.find? (·.1.contains name)).map fun g =>
      Characters.union (g.2.map categoryOf)
    (Named.find? categories name).or group

/-- The characters that came with a version or before it. -/
def age? (version : String) : Option Ranges :=
  let (earlier, rest) := ages.span fun t => !t.names.contains version
  rest.head?.map fun t => Characters.union ((earlier ++ [t]).map Named.ranges)

/-- The sets by their names of a property that has values. -/
def valuesOf? (property : String) : Option (String → Option Ranges) :=
  match property with
  | "age" => some age?
  | "gc" | "generalcategory" => some category?
  | "gcb" | "graphemeclusterbreak" => some (Named.find? clusterBreaks)
  | "sb" | "sentencebreak" => some (Named.find? sentenceBreaks)
  | "sc" | "script" => some (Named.find? scripts)
  | "scx" | "scriptextensions" => some (Named.find? extensions)
  | "wb" | "wordbreak" => some (Named.find? wordBreaks)
  | _ => none

/-! ### Properties -/

namespace Property

/-- The characters of a name that stands alone. -/
def ofName (name : String) : Except Cause Ranges :=
  match ((Named.find? binaryProperties name).or (category? name)).or (Named.find? scripts name) with
  | some rs => return rs
  | none =>
    if refusedValues.contains name then throw .propertyValueUnknown else throw .propertyUnknown

/-- The characters of a name that has a value. -/
def ofValue (name value : String) : Except Cause Ranges :=
  match valuesOf? name with
  | some values =>
    match values value with
    | some rs => return rs
    | none => throw .propertyValueUnknown
  | none =>
    if (binaryProperties.any (·.names.contains name)) ∨ refusedProperties.contains name then
      throw .propertyValueUnknown
    else throw .propertyUnknown

/-- The characters that have a property, if it exists. -/
def characters : Property → Except Cause Ranges
  | .single name => ofName (plainName name)
  | .valued name value => ofValue (plainName name) (plainName value)

end Property

/-! ### Classes by a letter -/

/-- The characters of a class by a letter, those in ASCII alone if Unicode is switched off. -/
def Shorthand.characters (unicode : Bool) : Shorthand → Ranges
  | .digit => if unicode then categoryOf "nd" else namedClass "digit"
  | .space =>
    if unicode then (Named.find? binaryProperties "whitespace").getD [] else namedClass "space"
  | .word =>
    if unicode then
      let properties := ["alphabetic", "joincontrol"].filterMap (Named.find? binaryProperties)
      Characters.union (properties ++ ["mn", "mc", "me", "nd", "pc"].map categoryOf)
    else namedClass "word"

end Pattern

end FieldCalc
