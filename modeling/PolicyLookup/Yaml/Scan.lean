import PolicyLookup.Yaml.Block
import PolicyLookup.Yaml.Cursor
import PolicyLookup.Yaml.Directive

set_option autoImplicit false

namespace PolicyLookup.Yaml

-- A key without a mark of its own is known only when the colon after it is met. Its token, and that
-- of the mapping it opens, then go to where it started.
structure Candidate where
  index : Nat
  line : Nat
  column : Nat
  isRequired : Bool

def longestKey : Nat := 1024

structure Scan where
  cursor : Cursor
  tokens : List Token
  columns : List Nat
  candidate : Option Candidate
  around : List (Option Candidate)
  mayStartKey : Bool

namespace Scan

def start (t : Text) : Scan where
  cursor := .start t
  tokens := []
  columns := []
  candidate := none
  around := []
  mayStartKey := true

def inFlow (s : Scan) : Bool := !s.around.isEmpty

def emit (s : Scan) (token : Token) : Scan := { s with tokens := token :: s.tokens }

def emitAt (s : Scan) (index : Nat) (token : Token) : Scan :=
  let later := s.tokens.length - index
  { s with tokens := s.tokens.take later ++ token :: s.tokens.drop later }

def moveTo (s : Scan) (rest : Text) : Scan := { s with cursor := s.cursor.moveTo rest }

def advance (s : Scan) : Scan := s.moveTo (s.cursor.rest.drop 1)

def Candidate.isStale (cursor : Cursor) (candidate : Candidate) : Bool :=
  candidate.line < cursor.line || candidate.column + longestKey < cursor.column

def giveUp : Option Candidate → Except Fault (Option Candidate)
  | some candidate => if candidate.isRequired then .error .simpleKey else .ok none
  | none => .ok none

def dropCandidate (s : Scan) : Except Fault Scan := do
  let candidate ← giveUp s.candidate
  .ok { s with candidate }

def refresh (cursor : Cursor) (candidate : Option Candidate) : Except Fault (Option Candidate) :=
  if candidate.any (Candidate.isStale cursor) then giveUp candidate else .ok candidate

def dropStale (s : Scan) : Except Fault Scan := do
  let candidate ← refresh s.cursor s.candidate
  let around ← s.around.mapM (refresh s.cursor)
  .ok { s with candidate, around }

def noteCandidate (s : Scan) : Except Fault Scan := do
  if s.mayStartKey then
    let s ← s.dropCandidate
    .ok { s with candidate := some {
      index := s.tokens.length
      line := s.cursor.line
      column := s.cursor.column
      isRequired := !s.inFlow && s.columns.head? == some s.cursor.column } }
  else .ok s

def closeBlocks (s : Scan) (least : Nat) : Scan :=
  if s.inFlow then s
  else
    let kept := s.columns.dropWhile (least ≤ ·)
    let ended := s.columns.length - kept.length
    { s with columns := kept, tokens := List.replicate ended .blockEnd ++ s.tokens }

def openBlock (s : Scan) (column index : Nat) (token : Token) : Scan :=
  if s.inFlow || s.columns.head?.any (column ≤ ·) then s
  else { s.emitAt index token with columns := column :: s.columns }

def openBlockHere (s : Scan) (token : Token) : Except Fault Scan :=
  if s.inFlow then .ok s
  else if s.mayStartKey then .ok (s.openBlock s.cursor.column s.tokens.length token)
  else .error .indentation

-- Skips blanks, comments and breaks. A break in block context lets a key start; a tab may not
-- stand where one may.
def skipSpace (inFlow inComment mayStartKey : Bool) : Text → Bool × Text
  | [] => (mayStartKey, [])
  | c :: rest =>
      if isBreak c then skipSpace inFlow false (mayStartKey || !inFlow) rest
      else if inComment then skipSpace inFlow true mayStartKey rest
      else if c = ' ' || (c = '\t' && (inFlow || !mayStartKey)) then
        skipSpace inFlow false mayStartKey rest
      else if c = '#' then skipSpace inFlow true mayStartKey rest
      else (mayStartKey, c :: rest)

def toNext (s : Scan) : Except Fault Scan := do
  let (mayStartKey, rest) := skipSpace s.inFlow false s.mayStartKey s.cursor.rest
  let s ← dropStale { s.moveTo rest with mayStartKey }
  .ok (s.closeBlocks (s.cursor.column + 1))

def directive (s : Scan) : Except Fault Scan := do
  let s ← (s.closeBlocks 0).dropCandidate
  let (token, rest) ← directiveToken (s.cursor.rest.drop 1)
  .ok { (s.emit token).moveTo rest with mayStartKey := false }

def boundary (s : Scan) (token : Token) : Except Fault Scan := do
  let s ← (s.closeBlocks 0).dropCandidate
  .ok { (s.emit token).moveTo (s.cursor.rest.drop 3) with mayStartKey := false }

def openFlow (s : Scan) (token : Token) : Except Fault Scan := do
  let s ← s.noteCandidate
  .ok { (s.emit token).advance with
    candidate := none
    around := s.candidate :: s.around
    mayStartKey := true }

def closeFlow (s : Scan) (token : Token) : Except Fault Scan := do
  let s ← s.dropCandidate
  let s := { (s.emit token).advance with mayStartKey := false }
  match s.around with
  | [] => .ok s
  | candidate :: around => .ok { s with candidate, around }

def flowEntry (s : Scan) : Except Fault Scan := do
  let s ← s.dropCandidate
  .ok { (s.emit .flowEntry).advance with mayStartKey := true }

def blockEntry (s : Scan) : Except Fault Scan := do
  let s ← (← s.openBlockHere .blockSequence).dropCandidate
  .ok { (s.emit .blockEntry).advance with mayStartKey := true }

def key (s : Scan) : Except Fault Scan := do
  let s ← (← s.openBlockHere .blockMapping).dropCandidate
  .ok { (s.emit .key).advance with mayStartKey := !s.inFlow }

def value (s : Scan) : Except Fault Scan := do
  match s.candidate with
  | some candidate =>
      let s := (s.emitAt candidate.index .key).openBlock candidate.column candidate.index .blockMapping
      .ok { (s.emit .value).advance with candidate := none, mayStartKey := false }
  | none =>
      let s ← s.openBlockHere .blockMapping
      .ok { (s.emit .value).advance with mayStartKey := !s.inFlow }

def word (s : Scan) (skip : Nat) (read : Text → Except Fault (Token × Text)) : Except Fault Scan := do
  let s ← s.noteCandidate
  let (token, rest) ← read (s.cursor.rest.drop skip)
  .ok { (s.emit token).moveTo rest with mayStartKey := false }

def named (make : Text → Token) (t : Text) : Except Fault (Token × Text) := do
  let (name, rest) ← readAnchor t
  .ok (make name, rest)

def quoted (quote : Char) (style : Style) (t : Text) : Except Fault (Token × Text) := do
  let (text, rest) ← readQuoted quote false .none [] t
  .ok (.scalar style text, rest)

def leastColumn (s : Scan) : Nat := (s.columns.head?.map (· + 1)).getD 0

def plain (s : Scan) : Except Fault Scan := do
  let s ← s.noteCandidate
  let (text, gap, rest) ← readPlain s.inFlow s.leastColumn s.cursor.column .none [] s.cursor.rest
  .ok { (s.emit (.scalar .plain text)).moveTo rest with mayStartKey := gap.hasBreak }

def block (s : Scan) (style : Style) : Except Fault Scan := do
  let s ← s.dropCandidate
  let (text, rest) ←
    Block.read (style = .folded) (s.columns.headD 0) s.leastColumn (s.cursor.rest.drop 1)
  .ok { (s.emit (.scalar style text)).moveTo rest with mayStartKey := true }

def indicators : Text := "-?:,[]\x7b\x7d#&*!|>'\"%@`".toList

def startsPlain (inFlow : Bool) (c : Char) (rest : Text) : Bool :=
  (!isBlank c && !indicators.contains c) || (c == '-' && !rest.head?.any isBlank) ||
    (!inFlow && (c == '?' || c == ':') && !endsWord rest)

def token (s : Scan) (c : Char) (rest : Text) : Except Fault Scan :=
  let atStart := s.cursor.column == 0
  let isMark := s.inFlow || endsWord rest
  if atStart && c == '%' then s.directive
  else if atStart && isTriple '-' (c :: rest) then s.boundary .documentStart
  else if atStart && isTriple '.' (c :: rest) then s.boundary .documentEnd
  else if c = '[' then s.openFlow .flowSequence
  else if c = '\x7b' then s.openFlow .flowMapping
  else if c = ']' then s.closeFlow .flowSequenceEnd
  else if c = '\x7d' then s.closeFlow .flowMappingEnd
  else if c = ',' then s.flowEntry
  else if c == '-' && endsWord rest then s.blockEntry
  else if c == '?' && isMark then s.key
  else if c == ':' && isMark then s.value
  else if c = '*' then s.word 1 (named .alias)
  else if c = '&' then s.word 1 (named .anchor)
  else if c = '!' then s.word 0 (tagToken s.inFlow)
  else if c == '|' && !s.inFlow then s.block .literal
  else if c == '>' && !s.inFlow then s.block .folded
  else if c = '\'' then s.word 1 (quoted '\'' .singleQuoted)
  else if c = '"' then s.word 1 (quoted '"' .doubleQuoted)
  else if startsPlain s.inFlow c rest then s.plain
  else .error .token

def finish (s : Scan) : Except Fault (List Token) := do
  let s ← (s.closeBlocks 0).dropCandidate
  .ok s.tokens.reverse

def run (s : Scan) : Except Fault (List Token) :=
  match s.toNext with
  | .error fault => .error fault
  | .ok next =>
      match next.cursor.rest with
      | [] => next.finish
      | c :: rest =>
          match next.token c rest with
          | .error fault => .error fault
          | .ok after =>
              if after.cursor.rest.length < s.cursor.rest.length then run after else .error .token
  termination_by s.cursor.rest.length

end Scan

def Token.ofText (t : Text) : Except Fault (List Token) :=
  if t.all isAllowed then (Scan.start (unifyBreaks t)).run else .error .character

end PolicyLookup.Yaml
