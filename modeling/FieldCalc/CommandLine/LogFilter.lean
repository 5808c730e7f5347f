import FieldCalc.Pattern.Check
import FieldCalc.Text.Case

/-!
# Log filters

A log level is written as a filter: directives with commas between them, and perhaps a slash and a
pattern behind them.  A directive is a level, the name of a part of the program, or such a name, an
equals sign and a level.  Malformed directives and malformed patterns are ignored with a warning.
-/

namespace FieldCalc

namespace LogFilter

/-- The levels that a directive can name. -/
def levels : List String := ["off", "error", "warn", "info", "debug", "trace"]

def isLevel (s : String) : Bool := levels.contains (Text.lowerAscii s)

/-- What is ignored of a filter. -/
inductive Fault where
  | tooManySlashes (filter : String)
  | malformed (text : String)
  | badPattern (complaint : String)
deriving DecidableEq, Repr

def Fault.message : Fault → String
  | .tooManySlashes filter =>
    "warning: invalid logging spec '" ++ filter ++ "' (too many '/'s), ignoring it"
  | .malformed text => "warning: invalid logging spec '" ++ text ++ "', ignoring it"
  | .badPattern complaint =>
    "warning: invalid regex filter - " ++ complaint ++ ", ignoring it"

/-- What is wrong with a directive; an empty level stands for every level. -/
def directiveFault? (directive : String) : Option Fault :=
  match directive.splitOn "=" with
  | [_] => none
  | [_, level] =>
    let level := Text.trim level
    if level = "" ∨ isLevel level then none else some (.malformed level)
  | _ => some (.malformed directive)

/-- The faults of a filter in their order. -/
def faults (filter : String) : List Fault :=
  match filter.splitOn "/" with
  | directives :: patterns =>
    if 2 ≤ patterns.length then [.tooManySlashes filter]
    else
      (directives.splitOn ",").filterMap (fun s => directiveFault? (Text.trim s)) ++
        patterns.filterMap fun p => (Pattern.complaint? p).map .badPattern
  | [] => []

end LogFilter

end FieldCalc
