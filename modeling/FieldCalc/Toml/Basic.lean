/-!
# Configuration documents

The parts of a TOML document.  Keys are paths of names.  Numbers and dates are kept as `scalar`
without their value, since no setting is one.
-/

namespace FieldCalc

inductive Toml where
  | string (s : String)
  | boolean (b : Bool)
  | scalar
  | array (items : List Toml)
  | table (entries : List (List String × Toml))

namespace Toml

/-- A key with its value. -/
abbrev Entry := List String × Toml

/-- A header with the entries under it. -/
structure Section where
  path : List String
  /-- Whether the header has double brackets. -/
  isItem : Bool
  entries : List Entry

/-- The entries before the first header, and the sections. -/
structure Document where
  entries : List Entry
  sections : List Section

end Toml

end FieldCalc
