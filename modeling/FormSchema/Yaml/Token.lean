import FormSchema.Yaml.Cursor

/-!
# FormSchema — YAML tokens

What a text consists of once indentation has become explicit: the start and the end of each block
collection are tokens of their own, and every key of a mapping is announced by one.
-/

namespace FormSchema.Yaml

inductive Directive
  | version (major minor : Nat)
  | handle (name expansion : String)
  | other
  deriving DecidableEq, Repr

inductive Token
  | streamEnd
  | directive (directive : Directive)
  | documentStart
  | documentEnd
  | blockSequenceStart
  | blockMappingStart
  | blockEnd
  | flowSequenceStart
  | flowSequenceEnd
  | flowMappingStart
  | flowMappingEnd
  | blockEntry
  | flowEntry
  | key
  | value
  | alias (name : String)
  | anchor (name : String)
  | tag (handle : Option String) (suffix : String)
  | scalar (text : String) (plain : Bool)
  deriving DecidableEq, Repr

end FormSchema.Yaml
