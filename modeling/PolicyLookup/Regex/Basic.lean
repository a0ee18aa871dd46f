import PolicyLookup.Unicode.Property

set_option autoImplicit false

namespace PolicyLookup

inductive WordPlace where
  | edge
  | inner
  | start
  | stop
  | startHalf
  | stopHalf
deriving DecidableEq

inductive Look where
  | textStart
  | textEnd
  | lineStart
  | lineEnd
  | lineStartCrlf
  | lineEndCrlf
  | word (unicode : Bool) (place : WordPlace)
deriving DecidableEq

namespace Look

def isWord (unicode : Bool) (c : Char) : Bool :=
  if c.toNat < 0x80 then c.isAlphanum || c == '_' else unicode && Unicode.word.contains c

def holds : Look → Option Char → Option Char → Bool
  | .textStart, before, _ => before.isNone
  | .textEnd, _, after => after.isNone
  | .lineStart, before, _ => before.all (· == '\n')
  | .lineEnd, _, after => after.all (· == '\n')
  | .lineStartCrlf, before, after =>
      before.all fun c => c == '\n' || (c == '\r' && after != some '\n')
  | .lineEndCrlf, before, after =>
      after.all fun c => c == '\r' || (c == '\n' && before != some '\r')
  | .word unicode place, before, after =>
      let left := before.any (isWord unicode)
      let right := after.any (isWord unicode)
      match place with
      | .edge => left != right
      | .inner => left == right
      | .start => !left && right
      | .stop => left && !right
      | .startHalf => !left
      | .stopHalf => !right

end Look

inductive Regex where
  | empty
  | set (s : CharSet)
  | look (l : Look)
  | seq (left right : Regex)
  | alt (left right : Regex)
  | rep (greedy : Bool) (r : Regex) (lo : Nat) (hi : Option Nat)
  | group (captures : Bool) (r : Regex)
deriving DecidableEq

namespace Regex

def row : List Regex → Regex
  | [] => .empty
  | [r] => r
  | r :: rest => .seq r (row rest)

def items : Regex → List Regex
  | .empty => []
  | .seq left right => left :: items right
  | r => [r]

def anyOf : List Regex → Regex
  | [] => .set .empty
  | [r] => r
  | r :: rest => .alt r (anyOf rest)

def alternatives : Regex → List Regex
  | .alt left right => left :: alternatives right
  | r => [r]

end Regex

end PolicyLookup
