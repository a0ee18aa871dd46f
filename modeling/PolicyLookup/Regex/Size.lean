import PolicyLookup.Regex.Normal

set_option autoImplicit false

namespace PolicyLookup.Regex

def stateBytes : Nat := 32
def rangeBytes : Nat := 8
def choiceBytes : Nat := 4

def sizeLimit : Nat := 10485760

inductive Direction where
  | forwards
  | backwards
deriving DecidableEq

abbrev ByteRanges := List (Nat × Nat)

def bytesOf (n : Nat) : List Nat :=
  if n < 0x80 then [n]
  else if n < 0x800 then [0xC0 + n / 64, 0x80 + n % 64]
  else if n < 0x10000 then [0xE0 + n / 4096, 0x80 + n / 64 % 64, 0x80 + n % 64]
  else [0xF0 + n / 262144, 0x80 + n / 4096 % 64, 0x80 + n / 64 % 64, 0x80 + n % 64]

def cutLengths (r : Nat × Nat) : List (Nat × Nat) :=
  [(0, 0x7F), (0x80, 0x7FF), (0x800, 0xD7FF), (0xE000, 0xFFFF), (0x10000, 0x10FFFF)].filterMap
    fun (lo, hi) =>
      let first := max lo r.1
      let last := min hi r.2
      if first ≤ last then some (first, last) else none

-- A range cut so that in each piece the bytes after the first that differs run from the least to
-- the greatest. `block` is the number of characters under one byte at this place.
def cutBlocks : List Nat → Nat × Nat → List (Nat × Nat)
  | [], r => [r]
  | block :: larger, (lo, hi) =>
      if lo / block = hi / block then cutBlocks larger (lo, hi)
      else
        let first := (lo + block - 1) / block * block
        let last := (hi + 1) / block * block
        (if lo < first then cutBlocks larger (lo, first - 1) else []) ++
          (if first < last then cutBlocks larger (first, last - 1) else []) ++
          (if last ≤ hi then cutBlocks larger (last, hi) else [])

def byteRanges (r : Nat × Nat) : List ByteRanges :=
  (cutLengths r).flatMap fun r =>
    if r.2 < 0x80 then [[r]]
    else (cutBlocks [64, 4096, 262144] r).map fun (lo, hi) => (bytesOf lo).zip (bytesOf hi)

def shared : ByteRanges → ByteRanges → Nat
  | a :: left, b :: right => if a = b then shared left right + 1 else 0
  | _, _ => 0

def treeStates (previous : ByteRanges) : List ByteRanges → Nat
  | [] => 0
  | next :: rest => (next.length - shared previous next) + treeStates next rest

def byFirst : List ByteRanges → List ((Nat × Nat) × List ByteRanges)
  | [] => []
  | [] :: rest => byFirst rest
  | (r :: tail) :: rest =>
      match byFirst rest with
      | (s, tails) :: more => if r = s then (r, tail :: tails) :: more else (r, [tail]) :: (s, tails) :: more
      | [] => [(r, [tail])]

def continuations : Nat → List ByteRanges → List (List ByteRanges)
  | 0, _ => []
  | length + 1, sequences =>
      sequences :: (byFirst sequences).flatMap fun (_, tails) =>
        if tails = [[]] then [] else continuations length tails

-- A set that is not of ASCII alone. Forwards, states with the same continuations are one;
-- backwards, those with the same bytes before them.
def wideSetSize (direction : Direction) (sequences : List ByteRanges) : Nat :=
  match direction with
  | .forwards =>
      let states := (continuations 4 sequences).eraseDups
      states.foldl (fun size state => size + stateBytes + rangeBytes * (byFirst state).length) stateBytes
  | .backwards =>
      2 * stateBytes + stateBytes * treeStates [] sequences + choiceBytes * sequences.length

def setSize (direction : Direction) (s : CharSet) : Nat :=
  match s.only? with
  | some n => stateBytes * (bytesOf n).length
  | none =>
      if s.isAscii then 2 * stateBytes + rangeBytes * s.ranges.length
      else wideSetSize direction (s.ranges.flatMap byteRanges)

def wordBytes? (r : Regex) : Option (List Nat) :=
  let parts := r.items
  if parts.isEmpty then none
  else (parts.mapM fun part => (charSet? part).bind CharSet.only?).map (List.flatMap bytesOf)

-- The words at a state of their tree, cut behind each word that ends there: a word that comes later
-- goes on from a state of its own.
def chunks : List (List Nat) → List (List (List Nat))
  | [] :: rest => [] :: (rest.dropWhile List.isEmpty).splitOn []
  | words => words.splitOn []

def tailsAfter (byte : Nat) (words : List (List Nat)) : List (List Nat) :=
  words.filterMap fun word => if word.head? = some byte then some word.tail else none

def wordsSize : Nat → List (List Nat) → Nat
  | 0, _ => 0
  | length + 1, words =>
      if words.all List.isEmpty then 0
      else
        let chunks := (chunks words).map fun chunk => (chunk, (chunk.filterMap List.head?).eraseDups)
        let filled := chunks.filter fun (_, heads) => !heads.isEmpty
        stateBytes + choiceBytes * (filled.length + (chunks.length - 1)) +
          (filled.map fun (chunk, heads) =>
            stateBytes + (if heads.length < 2 then 0 else rangeBytes * heads.length) +
              (heads.map fun byte => wordsSize length (tailsAfter byte chunk)).sum).sum

def treeSize (direction : Direction) (words : List (List Nat)) : Nat :=
  let words := if direction = .forwards then words else words.map List.reverse
  stateBytes + wordsSize ((words.map List.length).foldl max 0) words

def minLength? : Regex → Option Nat
  | .empty | .look _ => some 0
  | .set s => s.ranges.head?.map fun r => (bytesOf r.1).length
  | .seq left right => do some ((← left.minLength?) + (← right.minLength?))
  | .alt left right => do some (min (← left.minLength?) (← right.minLength?))
  | .rep _ r lo _ => r.minLength?.map (lo * ·)
  | .group _ r => r.minLength?

def forkBytes : Nat := stateBytes + 2 * choiceBytes

def repeatSize (one : Nat) (mayBeEmpty : Bool) (lo : Nat) : Option Nat → Nat
  | none =>
      if lo = 0 then one + forkBytes + (if mayBeEmpty then forkBytes + stateBytes else 0)
      else lo * one + forkBytes
  | some hi =>
      if lo = hi then lo * one
      else if lo = 0 ∧ hi = 1 then one + forkBytes + stateBytes
      else (if lo = 0 then stateBytes else lo * one) + stateBytes + (hi - lo) * (one + forkBytes)

-- The size of a normal form in an automaton. Only forwards are the places of groups noted. `inChoice`
-- tells that the states around a choice are counted already.
def size (direction : Direction) (inChoice : Bool) : Regex → Nat
  | .empty | .look _ => stateBytes
  | .set s => setSize direction s
  | .seq left right => left.size direction false + right.size direction false
  | .alt left right =>
      let both := left.size direction false + right.size direction true + choiceBytes
      if inChoice then both
      else match (left :: right.alternatives).mapM wordBytes? with
        | some words => treeSize direction words
        | none => both + 2 * stateBytes + choiceBytes
  | .group captures r =>
      r.size direction false + (if captures ∧ direction = .forwards then 2 * stateBytes else 0)
  | .rep _ r lo hi => repeatSize (r.size direction false) (!r.minLength?.any (0 < ·)) lo hi

def isAnchored (direction : Direction) : Regex → Bool
  | .empty | .set _ => false
  | .look l => l = if direction = .forwards then .textStart else .textEnd
  | .seq left right =>
      match direction with
      | .forwards => left.isAnchored direction || (left.isEmptyOnly && right.isAnchored direction)
      | .backwards => right.isAnchored direction || (right.isEmptyOnly && left.isAnchored direction)
  | .alt left right => left.isAnchored direction && right.isAnchored direction
  | .rep _ r lo _ => 0 < lo && r.isAnchored direction
  | .group _ r => r.isAnchored direction

def automatonSize (direction : Direction) (r : Regex) : Nat :=
  let start := if r.normal.isAnchored direction then stateBytes else 2 * stateBytes + rangeBytes + forkBytes
  start + (group true r.normal).size direction false + stateBytes

def isTooLarge (r : Regex) : Bool :=
  sizeLimit < automatonSize .forwards r || sizeLimit < automatonSize .backwards r

end PolicyLookup.Regex
