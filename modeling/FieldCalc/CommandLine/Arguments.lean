import FieldCalc.Json.Reader
import FieldCalc.Text.Blank
import FieldCalc.Text.Quoted
import FieldCalc.Value.Basic

/-!
# Arguments

What the arguments of the command line ask for.  They are taken from the left in groups: an option
with the value after it, whatever that looks like, or a flag by itself.  A help flag or a group
that is malformed ends the reading.
-/

namespace FieldCalc

structure Arguments where
  command : Option String := none
  fieldValues : List (String × Value) := []
  fields : Option String := none
  records : Option String := none
  linked : Option String := none
  output : Option String := none
  config : Option String := none
  noConfig : Bool := false

/-- What is wrong with the arguments. -/
inductive UsageError where
  | missingValue (flag : String)
  | noEquals (arg : String)
  | emptyName (arg : String)
  | unknownOption (arg : String)
  | unexpectedArgument (arg : String)

def UsageError.message : UsageError → String
  | .missingValue flag => flag ++ " requires a value"
  | .noEquals arg => "--field expects NAME=VALUE, got " ++ Text.quoted arg
  | .emptyName arg => "--field has an empty name: " ++ Text.quoted arg
  | .unknownOption arg => "Unknown option: " ++ arg
  | .unexpectedArgument arg => "Unexpected argument: " ++ arg

namespace Arguments

/-- The options that take a value. -/
inductive Slot where
  | command
  | fieldValue
  | fields
  | records
  | linked
  | output
  | config
deriving DecidableEq

/-- The option that a flag spells. -/
def Slot.ofFlag? : String → Option Slot
  | "-c" => some .command
  | "--command" => some .command
  | "--field" => some .fieldValue
  | "--fields" => some .fields
  | "--records" => some .records
  | "--linked" => some .linked
  | "-o" => some .output
  | "--output" => some .output
  | "--config" => some .config
  | _ => none

/-- A field value, `NAME=VALUE`.  A value that is no JSON is a text. -/
def fieldValue (arg : String) : Except UsageError (String × Value) :=
  let cs := arg.toList
  let name := cs.takeWhile (· != '=')
  if cs.length = name.length then .error (.noEquals arg)
  else
    match Text.trimChars name with
    | [] => .error (.emptyName arg)
    | trimmed =>
      let raw := String.ofList (cs.drop (name.length + 1))
      .ok (String.ofList trimmed, ((Json.read? raw).map Value.ofJson).getD (.text raw))

/-- Sets the value of an option. -/
def set (a : Arguments) (value : String) : Slot → Except UsageError Arguments
  | .command => .ok { a with command := some value }
  | .fieldValue => (fieldValue value).map fun f => { a with fieldValues := a.fieldValues ++ [f] }
  | .fields => .ok { a with fields := some value }
  | .records => .ok { a with records := some value }
  | .linked => .ok { a with linked := some value }
  | .output => .ok { a with output := some value }
  | .config => .ok { a with config := some value }

/-- Reads arguments on top of those already read; `none` asks for help. -/
def readOnto (a : Arguments) : List String → Except UsageError (Option Arguments)
  | [] => .ok (some a)
  | flag :: rest =>
    if flag = "-h" ∨ flag = "--help" then .ok none
    else if flag = "--no-config" then readOnto { a with noConfig := true } rest
    else
      match Slot.ofFlag? flag, rest with
      | some slot, value :: rest =>
        match a.set value slot with
        | .ok a => readOnto a rest
        | .error e => .error e
      | some _, [] => .error (.missingValue flag)
      | none, _ =>
        if flag.startsWith "-" then .error (.unknownOption flag)
        else .error (.unexpectedArgument flag)

/-- What the arguments after the program's name ask for; `none` asks for help. -/
def read (args : List String) : Except UsageError (Option Arguments) := readOnto {} args

end Arguments

end FieldCalc
