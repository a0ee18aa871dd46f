set_option autoImplicit false

namespace PolicyLookup

-- The ranges are in order and apart from each other.
structure CharSet where
  ranges : List (Nat × Nat)
deriving DecidableEq, Inhabited

namespace CharSet

def top : Nat := 0x10FFFF

def containsNat (s : CharSet) (n : Nat) : Bool := s.ranges.any fun r => r.1 ≤ n && n ≤ r.2

def contains (s : CharSet) (c : Char) : Bool := s.containsNat c.toNat

def joinRanges (current : Nat × Nat) : List (Nat × Nat) → List (Nat × Nat)
  | [] => [current]
  | r :: rest =>
      if r.1 ≤ current.2 + 1 then joinRanges (current.1, max current.2 r.2) rest
      else current :: joinRanges r rest

def ofRanges (ranges : List (Nat × Nat)) : CharSet :=
  match ranges.mergeSort (fun a b => a.1 ≤ b.1) with
  | [] => ⟨[]⟩
  | first :: rest => ⟨joinRanges first rest⟩

def empty : CharSet := ⟨[]⟩

def all : CharSet := ⟨[(0, top)]⟩

def singleton (c : Char) : CharSet := ⟨[(c.toNat, c.toNat)]⟩

def only? (s : CharSet) : Option Nat :=
  match s.ranges with
  | [(lo, hi)] => if lo = hi then some lo else none
  | _ => none

def union (s t : CharSet) : CharSet :=
  if s.ranges.isEmpty then t else if t.ranges.isEmpty then s else ofRanges (s.ranges ++ t.ranges)

def gaps (next : Nat) : List (Nat × Nat) → List (Nat × Nat)
  | [] => if next ≤ top then [(next, top)] else []
  | r :: rest =>
      if next < r.1 then (next, r.1 - 1) :: gaps (max next (r.2 + 1)) rest
      else gaps (max next (r.2 + 1)) rest

def complement (s : CharSet) : CharSet := ⟨gaps 0 s.ranges⟩

def inter (s t : CharSet) : CharSet := (s.complement.union t.complement).complement

def diff (s t : CharSet) : CharSet := s.inter t.complement

def symmDiff (s t : CharSet) : CharSet := (s.diff t).union (t.diff s)

def isAscii (s : CharSet) : Bool := s.ranges.all fun r => r.2 < 0x80

end CharSet

end PolicyLookup
