import PolicyLookup.Text.Utf8
import PolicyLookup.Yaml.Scalar

set_option autoImplicit false

namespace PolicyLookup.Yaml

inductive Token where
  | version (major minor : Nat)
  | shorthand (handle : Text) (start : Bytes)
  | documentStart
  | documentEnd
  | blockSequence
  | blockMapping
  | blockEnd
  | flowSequence
  | flowSequenceEnd
  | flowMapping
  | flowMappingEnd
  | blockEntry
  | flowEntry
  | key
  | value
  | alias (name : Text)
  | anchor (name : Text)
  | tag (handle : Text) (suffix : Bytes)
  | scalar (style : Style) (text : Text)
deriving DecidableEq

end PolicyLookup.Yaml
