import FieldCalc.CommandLine.Arguments
import FieldCalc.CommandLine.LogFilter
import FieldCalc.CommandLine.Settings
import FieldCalc.Compute.Run
import FieldCalc.Json.Writer
import FieldCalc.Value.Display

/-!
# The command line

One formula is evaluated with `-c` and its value is shown; otherwise the records in a file are
computed with the fields in another one, and printed or written to a file.  Files are reached
through `Files`, so that the program itself runs in any monad.
-/

namespace FieldCalc

namespace CommandLine

/-- The files that the program sees.  What cannot be read or written has a reason. -/
structure Files (m : Type → Type) where
  read : String → m (Except String String)
  write : String → String → m (Except String Unit)
  /-- The configuration that is read where none is named, if it is there. -/
  defaultConfig : m (Option String)

/-- Why the program did not do what was asked. -/
inductive Failure where
  | usage (e : UsageError)
  | unreadable (path reason : String)
  | invalidConfig (path : String)
  | invalidJson (path : String)
  | nothingAsked
  | formula (e : Formula.Error)
  | unwritable (path reason : String)

def Failure.message : Failure → String
  | .usage e => e.message
  | .unreadable path reason => "Failed to read " ++ path ++ ": " ++ reason
  | .invalidConfig path => "Invalid config " ++ path
  | .invalidJson path => "Invalid JSON in " ++ path
  | .nothingAsked => "either -c <EXPR> or both --fields and --records are required"
  | .formula e => e.message
  | .unwritable path reason => "failed to write " ++ path ++ ": " ++ reason

/-- How the program ends. -/
inductive Outcome where
  | help
  | printed (text : String)
  | written (path : String)
  | failed (f : Failure)

def usageLines : List String :=
  ["Usage: gridbase -c <EXPR> [--field <NAME=JSON>]...",
   "       gridbase --fields <FILE> --records <FILE> [--linked <FILE>] [-o <FILE>]",
   "",
   "Options:",
   "  -c, --command <EXPR>      Evaluate one formula and print the result",
   "  --field <NAME=JSON>       Field value for -c (can be repeated)",
   "  --fields <FILE>           Field catalog (JSON array)",
   "  --records <FILE>          Records to compute (JSON array)",
   "  --linked <FILE>           Records that lookups and rollups link to",
   "  -o, --output <FILE>       Write computed records to a file",
   "  --config <FILE>           Load config from this file",
   "  --no-config               Skip the default config.toml",
   "  -h, --help                Print help"]

def usage : String := String.join (usageLines.map (· ++ "\n"))

namespace Outcome

def exitCode : Outcome → UInt32
  | .failed _ => 1
  | _ => 0

/-- What goes to standard output. -/
def output : Outcome → String
  | .printed text => text ++ "\n"
  | _ => ""

/-- What is said of a file that was written. -/
def note : Outcome → String
  | .written path => "Records written to " ++ path ++ "\n"
  | _ => ""

/-- Whether the usage is shown: on request, and after arguments that cannot be read. -/
def showsUsage : Outcome → Bool
  | .help => true
  | .failed (.usage _) => true
  | _ => false

end Outcome

/-- How the program ends, and what it had to ignore in its settings before. -/
structure Report where
  outcome : Outcome
  warnings : List LogFilter.Fault := []

namespace Report

/-- What goes to standard error besides a failure's message and the usage. -/
def note (r : Report) : String :=
  String.join (r.warnings.map fun w => w.message ++ "\n") ++ r.outcome.note

/-- What goes to standard error. -/
def errorOutput (r : Report) : String :=
  r.note ++
    (match r.outcome with
      | .failed f => "Error: " ++ f.message ++ "\n"
      | _ => "") ++
    (if r.outcome.showsUsage then usage else "")

end Report

/-! ### Evaluating one formula -/

/-- The value of a formula over fields given by name, the last of several with one name. -/
def evaluate (now : Moment) (source : String) (fieldValues : List (String × Value)) :
    Except Formula.Error Value :=
  let values := fieldValues.reverse
  Formula.evaluate source
    ⟨fun r => (values.lookup r).elim (.error (.fieldNotFound r)) .ok, now⟩

/-! ### Computing records -/

/-- The records with their computed fields, as text. -/
def computed (now : Moment) (fields : List Field) (records linked : List Record) : String :=
  let g : Setting := ⟨Plan.ofCatalog fields, (Store.ofList linked).source, now⟩
  (Json.arr ((g.compute records).1.map Record.toJson)).pretty

section

variable {m : Type → Type} [Monad m]

def readFile (files : Files m) (path : String) : ExceptT Failure m String := do
  match ← files.read path with
  | .ok text => return text
  | .error reason => throw (.unreadable path reason)

/-- The list in a JSON file, of whose items only the named parts are read. -/
def readList {α : Type} (files : Files m) (names : List String) (item : Json → Option α)
    (path : String) : ExceptT Failure m (List α) := do
  match (Json.readListed? names (← readFile files path)).bind (List.mapM item) with
  | some as => return as
  | none => throw (.invalidJson path)

def readRecords (files : Files m) (path : String) : ExceptT Failure m (List Record) :=
  readList files Record.partNames Record.ofJson? path

/-- The settings in a configuration file. -/
def readSettings (files : Files m) (path : String) : ExceptT Failure m Settings := do
  match Settings.read? (← readFile files path) with
  | some s => return s
  | none => throw (.invalidConfig path)

/-- The settings that the program runs with. -/
def settings (files : Files m) (a : Arguments) : ExceptT Failure m Settings := do
  match a.config with
  | some path => readSettings files path
  | none =>
    if a.noConfig then return {}
    else
      match ← files.defaultConfig with
      | some path => readSettings files path
      | none => return {}

/-- Computes the records of a file. -/
def batch (files : Files m) (now : Moment) (a : Arguments) (fields records : String) :
    ExceptT Failure m Outcome := do
  let fields ← readList files Field.partNames Field.ofJson? fields
  let records ← readRecords files records
  let linked ← match a.linked with
    | some path => readRecords files path
    | none => pure []
  let text := computed now (fields.map (·.1)) records linked
  match a.output with
  | none => return .printed text
  | some path =>
    match ← files.write path (text ++ "\n") with
    | .ok () => return .written path
    | .error reason => throw (.unwritable path reason)

/-- Does what the arguments ask for. -/
def perform (files : Files m) (now : Moment) (a : Arguments) : ExceptT Failure m Outcome := do
  match a.command, a.fields, a.records with
  | some source, _, _ =>
    match evaluate now source a.fieldValues with
    | .ok v => return .printed v.display
    | .error e => throw (.formula e)
  | none, some fields, some records => batch files now a fields records
  | none, _, _ => throw .nothingAsked

/-- Runs the program on the arguments after its name. -/
def run (files : Files m) (now : Moment) (args : List String) : m Report := do
  match Arguments.read args with
  | .error e => return { outcome := .failed (.usage e) }
  | .ok none => return { outcome := .help }
  | .ok (some a) =>
    match ← (settings files a).run with
    | .error f => return { outcome := .failed f }
    | .ok s =>
      let warnings := (s.logLevel.map LogFilter.faults).getD []
      match ← (perform files now a).run with
      | .ok o => return ⟨o, warnings⟩
      | .error f => return ⟨.failed f, warnings⟩

end

end CommandLine

end FieldCalc
