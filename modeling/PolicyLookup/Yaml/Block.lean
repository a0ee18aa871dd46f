import PolicyLookup.Yaml.Scalar

set_option autoImplicit false

namespace PolicyLookup.Yaml.Block

inductive Chomp where
  | strip
  | clip
  | keep
deriving DecidableEq

structure Header where
  chomp : Chomp
  increment : Option Nat

def readChomp : Text → Chomp × Text
  | '+' :: rest => (.keep, rest)
  | '-' :: rest => (.strip, rest)
  | t => (.clip, t)

def readIncrement : Text → Except Fault (Option Nat × Text)
  | c :: rest =>
      if c = '0' then .error .scalar
      else if c.isDigit then .ok (some (c.toNat - 0x30), rest)
      else .ok (none, c :: rest)
  | [] => .ok (none, [])

def readHeader (t : Text) : Except Fault (Header × Text) := do
  let (first, rest) := readChomp t
  let (increment, rest) ← readIncrement rest
  let (chomp, rest) := if first = .clip ∧ increment.isSome then readChomp rest else (first, rest)
  match lineEnd? rest with
  | some rest => .ok (⟨chomp, increment⟩, rest)
  | none => .error .scalar

abbrev Line := Text × Option Char

def linesOf : Text → List Line
  | [] => [([], none)]
  | c :: rest =>
      if isBreak c then ([], some c) :: linesOf rest
      else match linesOf rest with
        | [] => [([c], none)]
        | (content, ending) :: more => (c :: content, ending) :: more

def textOf (lines : List Line) : Text := lines.flatMap fun line => line.1 ++ line.2.toList

def spaces (content : Text) : Nat := (content.takeWhile (· == ' ')).length

def leadingSpaces : List Line → Except Fault Nat
  | [] => .ok 0
  | (content, ending) :: more =>
      match content.drop (spaces content), ending with
      | [], some _ => (leadingSpaces more).map (max (spaces content))
      | '\t' :: _, _ => .error .indentation
      | _, _ => .ok (spaces content)

-- What is read of a scalar: its value with the latest character first, the break after its last
-- line, and the breaks of blank lines after that.
structure Reading where
  value : Text
  ending : Option Char
  blank : Text
  isIndented : Bool

def Reading.start : Reading := ⟨[], none, [], false⟩

-- One more line that is not blank. Unless one of them is indented, folding makes a space of the
-- break between two lines.
def Reading.add (folding : Bool) (reading : Reading) (content : Text) (ending : Option Char) :
    Reading :=
  let isIndented := content.head?.any isBlank
  let joint :=
    if folding && reading.ending == some '\n' && !reading.isIndented && !isIndented then
      if reading.blank.isEmpty then [' '] else []
    else reading.ending.toList
  { value := content.reverse ++ reading.blank ++ joint ++ reading.value
    ending
    blank := []
    isIndented }

def Reading.text (chomp : Chomp) (reading : Reading) : Text :=
  let ended := if chomp = .strip then reading.value else reading.ending.toList ++ reading.value
  (if chomp = .keep then reading.blank ++ ended else ended).reverse

def readLines (folding : Bool) (indent : Nat) (reading : Reading) :
    List Line → Except Fault (Reading × List Line)
  | [] => .ok (reading, [])
  | (content, ending) :: more =>
      let depth := min indent (spaces content)
      match content.drop depth, ending with
      | [], some c => readLines folding indent { reading with blank := c :: reading.blank } more
      | [], none => .ok (reading, [(content, ending)])
      | c :: own, ending =>
          if depth = indent then
            readLines folding indent (reading.add folding (c :: own) ending) more
          else if c = '\t' then .error .indentation
          else .ok (reading, (content, ending) :: more)

-- Reads a scalar after its mark. `least` is the least indentation that its lines may have, and
-- `outer` the one that an increment adds to.
def read (folding : Bool) (outer least : Nat) (t : Text) : Except Fault (Text × Text) := do
  let (header, rest) ← readHeader t
  let lines := linesOf rest
  let indent ← match header.increment with
    | some n => .ok (outer + n)
    | none => (leadingSpaces lines).map fun n => max n (max least 1)
  let (reading, more) ← readLines folding indent .start lines
  .ok (reading.text header.chomp, textOf more)

end PolicyLookup.Yaml.Block
