import RichTemplate.Value.Show

/-!
# What can be wrong with a profile

Every problem of a profile is found before any is raised. A problem is a fault and the path of the
part that has it.
-/

namespace RichTemplate

/-- A problem as it is shown: its message, where it is, and the exit code it asks for. -/
structure ValidationError where
  message : String
  path : String
  exitCode : Int
deriving DecidableEq, Repr

namespace ValidationError

def line (e : ValidationError) : String :=
  if e.path = "" then "Validation error: " ++ e.message
  else "Validation error at " ++ e.path ++ ": " ++ e.message

def report (errors : List ValidationError) : String :=
  "\n".intercalate (errors.map line)

end ValidationError

inductive Fault where
  | unreadable
  | notAMap
  | versionMissing
  | versionNotText (given : Value)
  | versionUnsupported (given : String)
  | unknownField (key : Value)
  | namesNotList (field : String)
  | nameNotText (place : String) (given : Value)
  | nameInvalid (place : String) (given : String)
  | bindingsNotMap
  | bindingNameNotText (given : Value)
  | bindingNameInvalid (name : String)
  | bindingNotMap (name : String)
  | bothForms (name : String)
  | neitherForm (name : String)
  | unknownBindingFields (name : String) (keys : List Value)
  | wrapEmpty (name : String)
  | elementNotMap
  | unknownElementFields (keys : List Value)
  | tagEmpty
  | propsNotMap
  | propsKeysNotText (keys : List Value)
  | childrenNotList
  | endless
deriving Repr

namespace Fault

/-- Keys as messages list them: their texts in ascending order. -/
def sortedKeys (keys : List Value) : String :=
  (Value.list (((keys.map Value.plainText).mergeSort (· ≤ ·)).map .str)).spell

def message : Fault → String
  | unreadable => "Failed to load profile: it is no readable YAML document"
  | notAMap => "Profile must be a YAML object/dictionary"
  | versionMissing => "'version' field is required"
  | versionNotText given => "'version' field must be a string, got " ++ given.typeName
  | versionUnsupported given => "Unsupported version '" ++ given ++ "'. Supported: ['1']"
  | unknownField key => "Unknown field '" ++ key.plainText ++ "'"
  | namesNotList field => "'" ++ field ++ "' must be a list of tag names"
  | nameNotText place given => "'" ++ place ++ "' must be a string, got " ++ given.typeName
  | nameInvalid place given => "'" ++ place ++ "' is not a valid tag name: " ++ quoted given
  | bindingsNotMap => "'bindings' must be a dictionary"
  | bindingNameNotText given =>
    "Binding name " ++ given.spell ++ " must be a string (quote it in YAML)"
  | bindingNameInvalid name => "Invalid binding name '" ++ name ++ "'"
  | bindingNotMap name => "Binding '" ++ name ++ "' must be a dictionary"
  | bothForms name => "Binding '" ++ name ++ "': 'wrap' and 'element' are mutually exclusive"
  | neitherForm name => "Binding '" ++ name ++ "' requires 'wrap' or 'element'"
  | unknownBindingFields name keys =>
    "Binding '" ++ name ++ "': unknown fields " ++ sortedKeys keys
  | wrapEmpty name => "Binding '" ++ name ++ "': 'wrap' must be a non-empty tag name"
  | elementNotMap => "Element must be a dictionary"
  | unknownElementFields keys => "Element has unknown fields " ++ sortedKeys keys
  | tagEmpty => "Element requires a non-empty 'tag'"
  | propsNotMap => "'props' must be a dictionary"
  | propsKeysNotText keys => "'props' keys must be strings, got " ++ (Value.list keys).spell
  | childrenNotList => "'children' must be a list"
  | endless => "Element nests without end"

end Fault

/-- A fault and the path of the part that has it; the whole document has the empty path. -/
structure Issue where
  fault : Fault
  path : String
deriving Repr

def invalidProfileCode : Int := 2

def Issue.toError (i : Issue) : ValidationError :=
  ⟨i.fault.message, i.path, invalidProfileCode⟩

end RichTemplate
