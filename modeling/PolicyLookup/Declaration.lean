import PolicyLookup.Regex.Match
import PolicyLookup.Regex.Meaning
import PolicyLookup.Regex.Reader
import PolicyLookup.Regex.Size

set_option autoImplicit false

namespace PolicyLookup

inductive Keyword where
  | define
  | interface
deriving DecidableEq, Inhabited

namespace Keyword

def name : Keyword → String
  | .define => "define"
  | .interface => "interface"

def text (k : Keyword) : Text := k.name.toList

def header (k : Keyword) : Text := k.text ++ ['(', '\x60']

def nameOr (k : Option Keyword) : String := (k.map name).getD "declaration"

end Keyword

inductive QueryMode where
  | literal
  | regex
deriving DecidableEq, Inhabited

namespace QueryMode

def name : QueryMode → String
  | .literal => "literal"
  | .regex => "regex"

def ofText? (t : Text) : Option QueryMode :=
  if t.map Char.toLower = "literal".toList then some .literal
  else if t.map Char.toLower = "regex".toList then some .regex
  else none

end QueryMode

-- A query made ready: the choices of its pattern, of which the first starts with the keyword.
structure Matcher where
  query : Text
  choices : List Regex

namespace Matcher

def patternOf (name : Text) : Text := "(define|interface)\\(`".toList ++ name ++ ['\'']

def ofQuery (query : Text) (mode : QueryMode) : Except Regex.Fault Matcher := do
  let name := match mode with
    | .literal => Regex.escape query
    | .regex => query
  let expr ← Regex.Expr.ofText (patternOf name)
  let (regex, _) ← expr.meaning Regex.Flags.start
  if regex.isTooLarge then .error .tooLarge
  else .ok ⟨query, regex.alternatives⟩

def isMatch (m : Matcher) (line : Text) : Bool := Regex.isMatchAny m.choices (Text.trim line).toArray

def firstKeyword? (t : Text) : Option Keyword :=
  match Text.indexOf? Keyword.define.header t, Text.indexOf? Keyword.interface.header t with
  | some d, some i => some (if d < i then .define else .interface)
  | some _, none => some .define
  | none, some _ => some .interface
  | none, none => none

def keywordAt? (t : Text) : Option Keyword :=
  if Text.startsWith Keyword.define.text t then some .define
  else if Text.startsWith Keyword.interface.text t then some .interface
  else none

-- The keyword of the declaration on a line: the one that the match starts with, or the first
-- header of the line when the match came from a choice without a keyword.
def keyword? (m : Matcher) (line : Text) : Option Keyword :=
  let t := Text.trim line
  match Regex.findFirst? m.choices t.toArray with
  | some (start, 0) => (keywordAt? (t.drop start)).or (firstKeyword? t)
  | some _ => firstKeyword? t
  | none => none

end Matcher

end PolicyLookup
