import PolicyLookup.Regex.Basic

set_option autoImplicit false

namespace PolicyLookup.Regex

def isEmptyOnly : Regex → Bool
  | .empty | .look _ => true
  | .set _ => false
  | .seq left right | .alt left right => left.isEmptyOnly && right.isEmptyOnly
  | .rep _ r lo hi => r.isEmptyOnly || (lo == 0 && hi == some 0)
  | .group _ r => r.isEmptyOnly

def hasCapture : Regex → Bool
  | .empty | .look _ | .set _ => false
  | .seq left right | .alt left right => left.hasCapture || right.hasCapture
  | .rep _ r _ _ => r.hasCapture
  | .group captures r => captures || r.hasCapture

def charSet? : Regex → Option CharSet
  | .set s => if s.only?.isSome then some s else none
  | _ => none

def classSet? : Regex → Option CharSet
  | .set s => if s.only?.isSome then none else some s
  | _ => none

abbrev Parts := List Regex

abbrev Choices := List Parts

namespace Choices

def toRegex (choices : Choices) : Regex := anyOf (choices.map row)

def ofParts : Parts → Choices
  | [.group false r] => r.alternatives.map items
  | parts => [parts]

def toParts : Choices → Parts
  | [parts] => parts
  | choices => [.group false (toRegex choices)]

def asSet? (choices : Choices) : Option CharSet :=
  let all (set? : Regex → Option CharSet) : Option (List CharSet) := choices.mapM fun
    | [r] => set? r
    | _ => none
  ((all charSet?).or (all classSet?)).map (List.foldl CharSet.union .empty)

def collapse (choices : Choices) : Choices :=
  if choices.length < 2 then choices
  else match asSet? choices with
    | some s => [[.set s]]
    | none => choices

def pieces (parts : Parts) : List Parts :=
  parts.splitBy fun r s => r.charSet?.isSome && s.charSet?.isSome

-- The pieces that both begin with. No two captures are the same one.
def common : List Parts → List Parts → List Parts
  | p :: ps, q :: qs => if p = q ∧ p.any hasCapture = false then p :: common ps qs else []
  | _, _ => []

def commonStart : List (List Parts) → List Parts
  | [] => []
  | first :: rest => rest.foldl common first

def factor (choices : Choices) : Choices :=
  let rows := choices.map pieces
  let start := commonStart rows
  if choices.length < 2 ∨ start = [] ∨ rows.any (·.length < 2) then choices
  else
    let ends := rows.flatMap fun row => ofParts (row.drop start.length).flatten
    [start.flatten ++ toParts (collapse ends)]

def close (choices : Choices) : Choices := factor (collapse choices)

def repeated (greedy : Bool) (choices : Choices) : Nat → Option Nat → Choices
  | 0, some 0 => [[]]
  | 1, some 1 => choices
  | lo, hi => [[.rep greedy (toRegex choices) lo hi]]

end Choices

open Choices in
-- The choices of an expression. What matches the empty text alone is repeated once at most.
def choices : Regex → Choices
  | .empty => [[]]
  | .set s => [[.set s]]
  | .look l => [[.look l]]
  | .seq left right => ofParts (toParts (close left.choices) ++ toParts (close right.choices))
  | .alt left right => left.choices ++ right.choices
  | .rep greedy r lo hi =>
      if r.isEmptyOnly then repeated greedy (close r.choices) (min lo 1) (some (min (hi.getD 1) 1))
      else repeated greedy (close r.choices) lo hi
  | .group true r => [[.group true (toRegex (close r.choices))]]
  | .group false r => close r.choices

-- The expression with rows and choices flat, sets for choices of characters, and common starts of
-- choices in front of them.
def normal (r : Regex) : Regex := r.choices.close.toRegex

end PolicyLookup.Regex
