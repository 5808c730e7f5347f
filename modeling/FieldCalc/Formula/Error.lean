import FieldCalc.Formula.Token

/-!
# Formula errors

Why a formula cannot be read or has no value.  A `Fault` is what is wrong at a place in the source;
offsets count the bytes of the source in UTF-8.
-/

namespace FieldCalc

namespace Formula

/-- What is wrong at a place in a formula. -/
inductive Fault where
  | loneExclamation
  | unterminatedText
  | unterminatedReference
  | emptyReference
  | noExponentDigits (numeral : String)
  | invalidNumber (numeral : String)
  | numberOutOfRange
  | unexpectedCharacter (c : Char)
  | nestedTooDeeply
  | tooLong
  | unknownName (name : String)
  | unexpectedToken (found : Token)
  | unclosedGroup (found : Token)
  | unclosedCall (found : Token)

def Fault.message : Fault → String
  | .loneExclamation => "expected '=' after '!'"
  | .unterminatedText => "unterminated string"
  | .unterminatedReference => "unterminated field reference"
  | .emptyReference => "empty field reference"
  | .noExponentDigits numeral =>
    "invalid number " ++ Text.quoted numeral ++ " (expected exponent digits)"
  | .invalidNumber numeral => "invalid number " ++ Text.quoted numeral
  | .numberOutOfRange => "number out of range"
  | .unexpectedCharacter c => "unexpected character " ++ Text.quotedChar c
  | .nestedTooDeeply => "formula is nested too deeply"
  | .tooLong => "formula is too long"
  | .unknownName name => "unknown identifier " ++ Text.quoted name
  | .unexpectedToken found => "unexpected token " ++ found.label
  | .unclosedGroup found => "expected RParen, found " ++ found.label
  | .unclosedCall found => "expected ',' or ')', found " ++ found.label

/-- Why a formula cannot be read or has no value. -/
inductive Error where
  | malformed (offset : Nat) (fault : Fault)
  | unexpectedEnd
  | unknownFunction (name : String)
  | argumentCount (function expected : String) (got : Nat)
  | fieldNotFound (reference : String)
  | divisionByZero
  | invalidArgument (function message : String)

def Error.message : Error → String
  | .malformed offset fault => s!"Parse error at offset {offset}: " ++ fault.message
  | .unexpectedEnd => "Unexpected end of formula"
  | .unknownFunction name => "Unknown function: " ++ name
  | .argumentCount function expected got =>
    function ++ " expects " ++ expected ++ s!" argument(s), got {got}"
  | .fieldNotFound reference => "Field not found: " ++ reference
  | .divisionByZero => "Division by zero"
  | .invalidArgument function message => "Invalid argument to " ++ function ++ ": " ++ message

end Formula

end FieldCalc
