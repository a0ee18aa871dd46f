import PolicyLookup.Text.Blank

set_option autoImplicit false

namespace PolicyLookup.Yaml

def isAllowed (c : Char) : Bool :=
  let n := c.toNat
  n == 0x9 || n == 0xA || n == 0xD || (0x20 ≤ n && n ≤ 0x7E) || n == 0x85 ||
    (0xA0 ≤ n && n ≤ 0xFFFD) || 0x10000 ≤ n

-- The text with one way to write each line break. Of the breaks only the line and the paragraph
-- separator stay what they are.
def unifyBreaks : Text → Text
  | [] => []
  | '\r' :: '\n' :: rest => '\n' :: unifyBreaks rest
  | c :: rest => (if c = '\r' ∨ c = '\u0085' then '\n' else c) :: unifyBreaks rest

def isBlank (c : Char) : Bool := c == ' ' || c == '\t'

def isBreak (c : Char) : Bool := c == '\n' || c == '\u2028' || c == '\u2029'

def endsWord : Text → Bool
  | [] => true
  | c :: _ => isBlank c || isBreak c

def isNameChar (c : Char) : Bool := c.isAlphanum || c == '_' || c == '-'

def isTriple (c : Char) (t : Text) : Bool := Text.startsWith [c, c, c] t && endsWord (t.drop 3)

def isBoundary (t : Text) : Bool := isTriple '-' t || isTriple '.' t

def lineEnd? (t : Text) : Option Text :=
  let rest := t.dropWhile isBlank
  match if rest.head? == some '#' then rest.dropWhile (!isBreak ·) else rest with
  | [] => some []
  | c :: more => if isBreak c then some more else none

end PolicyLookup.Yaml
