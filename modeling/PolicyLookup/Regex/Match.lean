import PolicyLookup.Regex.Basic

set_option autoImplicit false

namespace PolicyLookup

-- Places of a text, the last first, each once.
abbrev Places := List Nat

namespace Places

def union : Places → Places → Places
  | [], t => t
  | s, [] => s
  | a :: s, b :: t =>
      if a = b then a :: union s t
      else if b < a then a :: union s (b :: t)
      else b :: union (a :: s) t
termination_by s t => s.length + t.length

def diff : Places → Places → Places
  | [], _ => []
  | s, [] => s
  | a :: s, b :: t =>
      if a = b then diff s (b :: t)
      else if b < a then a :: diff s (b :: t)
      else diff (a :: s) t
termination_by s t => s.length + t.length

theorem mem_union {p : Nat} {s t : Places} : p ∈ union s t ↔ p ∈ s ∨ p ∈ t := by
  fun_induction union s t <;> grind

theorem mem_of_mem_diff {p : Nat} {s t : Places} (h : p ∈ diff s t) : p ∈ s := by
  fun_induction diff s t <;> grind

theorem mem_diff_or_mem {p : Nat} {s t : Places} (h : p ∈ s) : p ∈ diff s t ∨ p ∈ t := by
  fun_induction diff s t <;> grind

def upTo : Nat → Places
  | 0 => [0]
  | n + 1 => (n + 1) :: upTo n

end Places

namespace Regex

def iterate (f : Places → Places) : Nat → Places → Places
  | 0, s => s
  | n + 1, s => if f s = s then s else iterate f n (f s)

-- What `f` reaches in at most `n` times, `reached` included. `fresh` is what the last time added.
def grow (f : Places → Places) : Nat → Places → Places → Places
  | 0, reached, _ => reached
  | _ + 1, reached, [] => reached
  | n + 1, reached, fresh =>
      grow f n (Places.union ((f fresh).diff reached) reached) ((f fresh).diff reached)

def before? (text : Array Char) (place : Nat) : Option Char :=
  if place = 0 then none else text[place - 1]?

-- The places where a match ends that starts at one of `s`. A match moves on at most as many times
-- as the text has characters, so that no greater count of repetitions makes a difference.
def ends (text : Array Char) : Regex → Places → Places
  | .empty, s => s
  | .set chars, s => (s.filter fun p => text[p]?.any chars.contains).map (· + 1)
  | .look l, s => s.filter fun p => l.holds (before? text p) text[p]?
  | .seq left right, s =>
      match ends text left s with
      | [] => []
      | middle => ends text right middle
  | .alt left right, s => (ends text left s).union (ends text right s)
  | .rep _ r lo hi, s =>
      let limit := text.size + 1
      let more := match hi with
        | none => limit
        | some hi => min (hi - lo) limit
      let first := iterate (ends text r) (min lo limit) s
      grow (ends text r) more first first
  | .group _ r, s => ends text r s

def isMatchAny (choices : List Regex) (text : Array Char) : Bool :=
  choices.any fun r => !(r.ends text (Places.upTo text.size)).isEmpty

def findFirst? (choices : List Regex) (text : Array Char) : Option (Nat × Nat) :=
  (List.range (text.size + 1)).findSome? fun start =>
    (choices.findIdx? fun r => !(r.ends text [start]).isEmpty).map (start, ·)

end Regex

end PolicyLookup
