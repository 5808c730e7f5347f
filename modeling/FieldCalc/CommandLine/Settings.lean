import FieldCalc.Toml.Reader

/-!
# Settings

The settings of the command line: a level for its log, and whether records may be computed side by
side.  They are read from a configuration document, which has no other keys than `log_level` and
`compute.parallel`.
-/

namespace FieldCalc

structure Settings where
  logLevel : Option String := none
  parallel : Bool := true
deriving DecidableEq

namespace Settings

/-- The value of a key, if it has one; it may not have two. -/
def single? (entries : List Toml.Entry) (path : List String) : Option (Option Toml) :=
  match entries.filter fun e => e.1 = path with
  | [] => some none
  | [e] => some (some e.2)
  | _ => none

def string? : Option Toml → Option (Option String)
  | none => some none
  | some (.string s) => some (some s)
  | _ => none

/-- A truth value, true where it is left out. -/
def flag? : Option Toml → Option Bool
  | none => some true
  | some (.boolean b) => some b
  | _ => none

/-- The setting under `compute`, from its entries. -/
def parallelOf? (entries : List Toml.Entry) : Option Bool :=
  if entries.all fun e => e.1 = ["parallel"] then (single? entries ["parallel"]).bind flag?
  else none

/-- The setting under `compute`, from its value: a table, or a list of its parts. -/
def parallelIn? : Toml → Option Bool
  | .table entries => parallelOf? entries
  | .array [] => some true
  | .array (.boolean b :: _) => some b
  | _ => none

/-- The settings in a document; `compute` is given once, in one of the ways there are. -/
def ofDocument? (d : Toml.Document) : Option Settings := do
  let known := [["log_level"], ["compute"], ["compute", "parallel"]]
  if d.entries.all fun e => known.contains e.1 then
    let level ← string? (← single? d.entries ["log_level"])
    let table ← single? d.entries ["compute"]
    let dotted ← single? d.entries ["compute", "parallel"]
    let parallel ← match table, dotted, d.sections with
      | none, none, [] => some true
      | some v, none, [] => parallelIn? v
      | none, some v, [] => flag? (some v)
      | none, none, [⟨["compute"], false, entries⟩] => parallelOf? entries
      | _, _, _ => none
    return ⟨level, parallel⟩
  else none

def read? (s : String) : Option Settings := (Toml.read? s).bind ofDocument?

end Settings

end FieldCalc
