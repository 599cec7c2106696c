import Preflight.Text.Quoted

/-!
# Why a configuration text has no value

A text may break the rules of the format, or follow them and yet hold a scalar that does not
denote a value of its kind. A whole number may be read and yet be too long to be written where its
text is wanted.

## Main definitions

* `Fault`: what is wrong.
* `Fault.message`: its wording, where the text follows the rules of the format.
-/

namespace Preflight.Yaml

/-- What is wrong with a text. -/
inductive Fault where
  /-- The text breaks the rules of the format. -/
  | malformed
  /-- A scalar that should be a whole number in a base is none. -/
  | notInteger (base : Nat) (text : String)
  /-- A scalar that should be a whole number has too many digits. -/
  | tooManyDigits (count : Nat)
  /-- A scalar that should be a number is none. -/
  | notNumber (text : String)
  /-- A scalar that should be a number is empty. -/
  | emptyNumber
  /-- A number in base sixty has more parts than there are powers of sixty. -/
  | tooManyParts
  /-- A scalar that should be a truth value is none. -/
  | notBoolean (text : String)
  /-- A scalar that should be a date is none. -/
  | notTimestamp
  /-- A mapping with a default value stands where a date should. -/
  | notDateText
  /-- A part of a date is out of its range. -/
  | dateOutOfRange (reason : String)
  /-- An escape denotes no character. -/
  | notCharacter
  /-- An escape denotes a number beyond all characters. -/
  | hugeCharacter
  /-- A whole number has too many digits to be written. -/
  | longNumeral
  /-- A loader of another kind refuses a scalar, as a bad value or not. -/
  | other (badValue : Bool) (reason : String)
  deriving DecidableEq, Repr, Inhabited

/-- The wording of a fault. A quoted scalar is cut after two hundred characters. -/
def Fault.message : Fault → String
  | malformed => ""
  | notInteger base text =>
    "invalid literal for int() with base " ++ toString base ++ ": " ++
      String.ofList ((Text.quoted text).toList.take 200)
  | tooManyDigits count =>
    "Exceeds the limit (4300 digits) for integer string conversion: value has " ++
      toString count ++ " digits; use sys.set_int_max_str_digits() to increase the limit"
  | notNumber text => "could not convert string to float: " ++ Text.quoted text
  | emptyNumber => "string index out of range"
  | tooManyParts => "int too large to convert to float"
  | notBoolean text => Text.quoted text
  | notTimestamp => "'NoneType' object has no attribute 'groupdict'"
  | notDateText => "expected string or bytes-like object, got 'list'"
  | dateOutOfRange reason => reason
  | notCharacter => "chr() arg not in range(0x110000)"
  | hugeCharacter => "Python int too large to convert to C int"
  | longNumeral =>
    "Exceeds the limit (4300 digits) for integer string conversion; " ++
      "use sys.set_int_max_str_digits() to increase the limit"
  | other _ reason => reason

/-- A scalar has the form of its kind and denotes a value that the kind does not have. -/
def Fault.isBadValue : Fault → Bool
  | notInteger .. | tooManyDigits _ | notNumber _ | dateOutOfRange _ | notCharacter
  | longNumeral => true
  | other badValue _ => badValue
  | _ => false

end Preflight.Yaml
