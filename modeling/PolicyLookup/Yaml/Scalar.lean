import PolicyLookup.Yaml.Character
import PolicyLookup.Yaml.Fault
import PolicyLookup.Text.Number

set_option autoImplicit false

namespace PolicyLookup.Yaml

inductive Style where
  | plain
  | singleQuoted
  | doubleQuoted
  | literal
  | folded
deriving DecidableEq

-- What stands between two words of a scalar, the latest character first: blanks of one line, or
-- breaks, of which the first may be escaped.
inductive Gap where
  | blanks (reversed : Text)
  | breaks (first : Option Char) (reversed : Text)

namespace Gap

def none : Gap := .blanks []

def isNone : Gap → Bool
  | .blanks reversed => reversed.isEmpty
  | .breaks _ _ => false

def hasBreak : Gap → Bool
  | .blanks _ => false
  | .breaks _ _ => true

def addBlank (c : Char) : Gap → Gap
  | .blanks reversed => .blanks (c :: reversed)
  | .breaks first reversed => .breaks first reversed

def addBreak (c : Char) : Gap → Gap
  | .blanks _ => .breaks (some c) []
  | .breaks first reversed => .breaks first (c :: reversed)

-- Between words blanks at the ends of lines go, one break becomes a space, and of more breaks the
-- first goes.
def folded : Gap → Text
  | .blanks reversed => reversed
  | .breaks .none reversed => reversed
  | .breaks (some first) reversed =>
      if first ≠ '\n' then reversed ++ [first]
      else if reversed.isEmpty then [' ']
      else reversed

end Gap

def isFlowMark (c : Char) : Bool := c == ',' || c == '[' || c == ']' || c == '\x7b' || c == '\x7d'

def endsPlain (inFlow : Bool) (indent column : Nat) (gap : Gap) (t : Text) : Bool :=
  match t with
  | [] => true
  | c :: rest =>
      (!gap.isNone && ((!inFlow && column < indent) || (column == 0 && isBoundary t) || c == '#')) ||
        (c == ':' && endsWord rest) || (inFlow && isFlowMark c)

def isStrayColon (t : Text) : Bool :=
  match t with
  | ':' :: c :: _ => isFlowMark c || c == '?'
  | _ => false

-- Reads on in a plain scalar of which `done` is read, the latest character first. The result is
-- the value, the gap after it and the text from there on.
def readPlain (inFlow : Bool) (indent : Nat) (column : Nat) (gap : Gap) (done : Text) :
    Text → Except Fault (Text × Gap × Text)
  | [] => .ok (done.reverse, gap, [])
  | c :: rest =>
      if isBlank c then
        if c = '\t' ∧ gap.hasBreak = true ∧ column < indent then .error .indentation
        else readPlain inFlow indent (column + 1) (gap.addBlank c) done rest
      else if isBreak c then readPlain inFlow indent 0 (gap.addBreak c) done rest
      else if endsPlain inFlow indent column gap (c :: rest) then .ok (done.reverse, gap, c :: rest)
      else if inFlow && isStrayColon (c :: rest) then .error .scalar
      else readPlain inFlow indent (column + 1) .none (c :: (gap.folded ++ done)) rest

def hexNumber? (count : Nat) (t : Text) : Option Nat :=
  let digits := t.take count
  if digits.length = count ∧ digits.all Text.isHex then some (Text.numberOf 16 digits) else none

def namedEscapes : List (Char × Char) := [
  ('0', '\x00'), ('a', '\x07'), ('b', '\x08'), ('t', '\t'), ('\t', '\t'), ('n', '\n'),
  ('v', '\x0b'), ('f', '\x0c'), ('r', '\r'), ('e', '\x1b'), (' ', ' '), ('"', '"'), ('/', '/'),
  ('\\', '\\'), ('N', '\u0085'), ('_', '\u00a0'), ('L', '\u2028'), ('P', '\u2029')]

def readEscape (t : Text) : Except Fault (Char × Nat) :=
  let numbered (width : Nat) : Except Fault (Char × Nat) :=
    match hexNumber? width (t.drop 1) with
    | some n => if n.isValidChar then .ok (Char.ofNat n, width + 1) else .error .escape
    | none => .error .escape
  match t.head? with
  | some 'x' => numbered 2
  | some 'u' => numbered 4
  | some 'U' => numbered 8
  | some c =>
      match namedEscapes.lookup c with
      | some named => .ok (named, 1)
      | none => .error .escape
  | none => .error .escape

def readQuoted (quote : Char) (atLineStart : Bool) (gap : Gap) (done : Text) :
    Text → Except Fault (Text × Text)
  | [] => .error .scalar
  | c :: rest =>
      if isBlank c then readQuoted quote false (gap.addBlank c) done rest
      else if isBreak c then readQuoted quote true (gap.addBreak c) done rest
      else if atLineStart && isBoundary (c :: rest) then .error .scalar
      else
        let done := gap.folded ++ done
        if c = quote then
          if quote = '\'' ∧ rest.head? = some quote then
            readQuoted quote false .none (quote :: done) (rest.drop 1)
          else .ok (done.reverse, rest)
        else if c = '\\' ∧ quote = '"' then
          if rest.head?.any isBreak then
            readQuoted quote true (.breaks Option.none []) done (rest.drop 1)
          else match readEscape rest with
            | .ok (named, length) => readQuoted quote false .none (named :: done) (rest.drop length)
            | .error fault => .error fault
        else readQuoted quote false .none (c :: done) rest
  termination_by t => t.length
  decreasing_by all_goals simp only [List.length_cons, List.length_drop]; omega

end PolicyLookup.Yaml
