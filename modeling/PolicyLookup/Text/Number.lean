import PolicyLookup.Text.Blank

set_option autoImplicit false

namespace PolicyLookup.Text

def digitOf? (c : Char) : Option Nat :=
  if c.isDigit then some (c.toNat - 0x30)
  else if 'a' ≤ c ∧ c ≤ 'f' then some (c.toNat - 0x61 + 10)
  else if 'A' ≤ c ∧ c ≤ 'F' then some (c.toNat - 0x41 + 10)
  else none

def isHex (c : Char) : Bool := (digitOf? c).isSome

def numberOf (base : Nat) (digits : Text) : Nat :=
  digits.foldl (fun n c => n * base + (digitOf? c).getD 0) 0

end PolicyLookup.Text
