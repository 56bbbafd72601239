import RichTemplate.Yaml.Error

/-!
# YAML tokens
-/

namespace RichTemplate.Yaml

/-- A name for a tag: a handle, unless the tag is verbatim, and a suffix. -/
structure TagName where
  handle : Option String
  suffix : String
deriving DecidableEq, Repr

/-- A directive: the version of the language, a prefix for a handle, or something to ignore. -/
inductive Directive where
  | version (major : Nat)
  | tag (handle leading : String)
  | ignored
deriving DecidableEq, Repr

inductive Token where
  | directive (d : Directive)
  | documentStart
  | documentEnd
  | blockSequenceStart
  | blockMappingStart
  | blockEnd
  | flowSequenceStart
  | flowSequenceEnd
  | flowMappingStart
  | flowMappingEnd
  | flowEntry
  | blockEntry
  | key
  | value
  | alias (name : String)
  | anchor (name : String)
  | tag (name : TagName)
  | scalar (text : String) (plain : Bool)
  | invalid (e : Error)
  | streamEnd
deriving Repr

end RichTemplate.Yaml
