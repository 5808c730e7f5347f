import FieldCalc.CommandLine.Run
import Std.Time

/-!
# Program

The command line over the files of the system and its clock.
-/

open FieldCalc CommandLine

/-- The text of a file, or why it cannot be read. -/
def readText (path : String) : IO (Except String String) := do
  try return .ok (← IO.FS.readFile path)
  catch e => return .error (toString e)

def writeText (path text : String) : IO (Except String Unit) := do
  try
    IO.FS.writeFile path text
    return .ok ()
  catch e => return .error (toString e)

/-- The user's configuration file, if there is one. -/
def userConfig : IO (Option String) := do
  let base ← match ← IO.getEnv "XDG_CONFIG_HOME" with
    | some dir => if dir.startsWith "/" then pure (some dir) else homeConfig
    | none => homeConfig
  match base with
  | some dir =>
    let path := dir ++ "/gridbase/config.toml"
    match ← readText path with
    | .ok _ => return some path
    | .error _ => return none
  | none => return none
where
  homeConfig : IO (Option String) := do
    return (← IO.getEnv "HOME").map (· ++ "/.config")

def systemFiles : Files IO := ⟨readText, writeText, userConfig⟩

/-- The present by the system's clock and its time zone. -/
def present : IO Moment := do
  let now ← Std.Time.DateTime.now
  return ⟨now.timestamp.toSecondsSinceUnixEpoch.val, now.timezone.offset.second.val / 60⟩

def main (args : List String) : IO UInt32 := do
  let report ← run systemFiles (← present) args
  IO.print report.outcome.output
  IO.eprint report.errorOutput
  return report.outcome.exitCode
