set_option autoImplicit false

namespace PolicyLookup.Yaml

inductive Fault where
  | character
  | simpleKey
  | indentation
  | directive
  | anchor
  | tag
  | escape
  | scalar
  | token
  | node
  | mapping
  | sequence
  | document
  | manyDocuments
  | unknownAnchor
  | type
  | fieldTwice
deriving DecidableEq

-- Only the kind of fault is fixed. How each is worded is this library's own.
def Fault.message : Fault → String
  | .character => "control characters are not allowed"
  | .simpleKey => "could not find expected ':'"
  | .indentation => "entries are not allowed in this context"
  | .directive => "malformed directive"
  | .anchor => "did not find expected alphabetic or numeric character"
  | .tag => "malformed tag"
  | .escape => "found unknown escape character"
  | .scalar => "malformed scalar"
  | .token => "found character that cannot start any token"
  | .node => "did not find expected node content"
  | .mapping => "did not find expected key"
  | .sequence => "did not find expected entry"
  | .document => "did not find expected <document start>"
  | .manyDocuments => "deserializing from YAML containing more than one document is not supported"
  | .unknownAnchor => "unknown anchor"
  | .type => "invalid type"
  | .fieldTwice => "duplicate field"

end PolicyLookup.Yaml
