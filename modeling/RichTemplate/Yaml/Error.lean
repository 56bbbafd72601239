import RichTemplate.Text.Quoted
import RichTemplate.Value.Calendar

/-!
# Failures of reading a document
-/

namespace RichTemplate.Yaml

/-- Why a document cannot be read. Most failures are alike, and only tell that the text is no YAML
document; the others say what a scalar cannot stand for. -/
inductive Error where
  | notUtf8
  | malformed
  | endsEarly
  | tooDeep
  | codePointOutOfRange (code : Nat)
  | emptyNumber
  | tooManyDigits (digits : Nat)
  | invalidInteger (base : Nat) (text : String)
  | invalidFloat (text : String)
  | unitTooLarge
  | unknownWord (text : String)
  | notATimestamp
  | timestampNotText
  | calendar (e : CalendarError)
deriving Repr

namespace Error

/-- The quoted spelling of a number's text, as much of it as messages give. -/
def quotedStart (text : String) : String :=
  String.ofList ((quoted text).toList.take 200)

def message : Error → String
  | notUtf8 => "the text is not UTF-8"
  | malformed => "the text is no YAML document"
  | endsEarly => "the text ends where more of it is needed"
  | tooDeep => "maximum recursion depth exceeded"
  | codePointOutOfRange _ => "chr() arg not in range(0x110000)"
  | emptyNumber => "string index out of range"
  | tooManyDigits digits =>
    "Exceeds the limit (4300 digits) for integer string conversion: value has " ++
      toString digits ++ " digits; use sys.set_int_max_str_digits() to increase the limit"
  | invalidInteger base text =>
    "invalid literal for int() with base " ++ toString base ++ ": " ++ quotedStart text
  | invalidFloat text => "could not convert string to float: " ++ quoted text
  | unitTooLarge => "int too large to convert to float"
  | unknownWord text => quoted text
  | notATimestamp => "'NoneType' object has no attribute 'groupdict'"
  | timestampNotText => "expected string or bytes-like object, got 'list'"
  | calendar e => e.message

end Error

end RichTemplate.Yaml
