import PolicyLookup.Text.Blank

set_option autoImplicit false

namespace PolicyLookup.Glob

inductive Flaw where
  | wildcards
  | recursiveWildcards
  | range
deriving DecidableEq

structure Fault where
  position : Nat
  flaw : Flaw
deriving DecidableEq

def Flaw.message : Flaw → String
  | .wildcards => "wildcards are either regular `*` or recursive `**`"
  | .recursiveWildcards => "recursive wildcards must form a single path component"
  | .range => "invalid range pattern"

def Fault.message (fault : Fault) : String :=
  "Pattern syntax error near position " ++ toString fault.position ++ ": " ++ fault.flaw.message

inductive Token where
  | char (c : Char)
  | one
  | run
  | folders
  | oneOf (negated : Bool) (ranges : List (Char × Char))
deriving DecidableEq

def readRanges : Text → List (Char × Char)
  | lo :: '-' :: hi :: rest => (lo, hi) :: readRanges rest
  | c :: rest => (c, c) :: readRanges rest
  | [] => []

-- A class after its opening bracket: the class, and how many characters it takes up to and with
-- its closing bracket. The first character of the body is never the closing bracket.
def readClass? : Text → Option (Token × Nat)
  | '!' :: first :: rest =>
      match rest.idxOf? ']' with
      | some n => some (.oneOf true (readRanges (first :: rest.take n)), n + 3)
      | none => none
  | '!' :: [] => none
  | first :: rest =>
      match rest.idxOf? ']' with
      | some n => some (.oneOf false (readRanges (first :: rest.take n)), n + 2)
      | none => none
  | [] => none

def foldersFault? (position : Nat) (before after : Option Char) : Option Fault :=
  if before.any (· ≠ '/') then some ⟨position - 1, .recursiveWildcards⟩
  else if after.any (· ≠ '/') then some ⟨position + 2, .recursiveWildcards⟩
  else none

-- Reads a pattern from the character at `position`, after `before`. The next `skip` characters
-- belong to what was read last.
def readFrom (position : Nat) (before : Option Char) (skip : Nat) : Text → Except Fault (List Token)
  | [] => .ok []
  | c :: rest =>
      match skip with
      | n + 1 => readFrom (position + 1) (some c) n rest
      | 0 =>
          let next (token : Token) (taken : Nat) :=
            (readFrom (position + 1) (some c) taken rest).map (token :: ·)
          match c with
          | '?' => next .one 0
          | '[' =>
              match readClass? rest with
              | some (token, taken) => next token taken
              | none => .error ⟨position, .range⟩
          | '*' =>
              match (rest.takeWhile (· = '*')).length with
              | 0 => next .run 0
              | 1 =>
                  match foldersFault? position before rest.tail.head? with
                  | some fault => .error fault
                  | none => next .folders 2
              | _ => .error ⟨position + 2, .wildcards⟩
          | c => next (.char c) 0

def read (pattern : Text) : Except Fault (List Token) := readFrom 0 none 0 pattern

def escape (t : Text) : Text :=
  t.flatMap fun c => if c = '?' ∨ c = '*' ∨ c = '[' ∨ c = ']' then ['[', c, ']'] else [c]

def Token.admits : Token → Char → Bool
  | .char expected, c => c == expected
  | .one, _ => true
  | .oneOf negated ranges, c => (ranges.any fun range => range.1 ≤ c && c ≤ range.2) != negated
  | .run, _ | .folders, _ => false

def anyEnd (property : Text → Bool) : Text → Bool
  | [] => property []
  | c :: rest => property (c :: rest) || anyEnd property rest

def matchesName : List Token → Text → Bool
  | [], name => name.isEmpty
  | .run :: tokens, name => anyEnd (matchesName tokens) name
  | .folders :: tokens, name => anyEnd (matchesName tokens) name
  | _ :: _, [] => false
  | token :: tokens, c :: name => token.admits c && matchesName tokens name

def plain? : List Token → Option Text
  | [] => some []
  | .char c :: rest => (plain? rest).map (c :: ·)
  | _ :: _ => none

end PolicyLookup.Glob
