import PolicyLookup.Text.Blank

set_option autoImplicit false

namespace PolicyLookup

abbrev Bytes := List UInt8

namespace Utf8

def encodeChar (c : Char) : Bytes :=
  let n := c.toNat
  if n < 0x80 then [UInt8.ofNat n]
  else if n < 0x800 then [UInt8.ofNat (0xC0 + n / 64), UInt8.ofNat (0x80 + n % 64)]
  else if n < 0x10000 then
    [UInt8.ofNat (0xE0 + n / 4096), UInt8.ofNat (0x80 + n / 64 % 64), UInt8.ofNat (0x80 + n % 64)]
  else
    [UInt8.ofNat (0xF0 + n / 262144), UInt8.ofNat (0x80 + n / 4096 % 64),
      UInt8.ofNat (0x80 + n / 64 % 64), UInt8.ofNat (0x80 + n % 64)]

def encode (t : Text) : Bytes := t.flatMap encodeChar

def isIn (lo hi : Nat) (b : UInt8) : Bool := lo ≤ b.toNat && b.toNat ≤ hi

def low (b : UInt8) : Nat := b.toNat - 0x80

def secondLow (a : UInt8) : Nat := if a = 0xE0 then 0xA0 else if a = 0xF0 then 0x90 else 0x80

def secondHigh (a : UInt8) : Nat := if a = 0xED then 0x9F else if a = 0xF4 then 0x8F else 0xBF

-- Each ill-formed run, `none` here, is as long as its bytes could still have begun a character.
def chunks : Bytes → List (Option Char)
  | [] => []
  | a :: rest =>
      if isIn 0 0x7F a then some (Char.ofNat a.toNat) :: chunks rest
      else if isIn 0xC2 0xDF a then
        match rest with
        | [] => [none]
        | b :: more =>
            if isIn 0x80 0xBF b then
              some (Char.ofNat ((a.toNat - 0xC0) * 64 + low b)) :: chunks more
            else none :: chunks (b :: more)
      else if isIn 0xE0 0xEF a then
        match rest with
        | [] => [none]
        | b :: more =>
            if isIn (secondLow a) (secondHigh a) b then
              match more with
              | [] => [none]
              | c :: last =>
                  if isIn 0x80 0xBF c then
                    some (Char.ofNat ((a.toNat - 0xE0) * 4096 + low b * 64 + low c)) :: chunks last
                  else none :: chunks (c :: last)
            else none :: chunks (b :: more)
      else if isIn 0xF0 0xF4 a then
        match rest with
        | [] => [none]
        | b :: more =>
            if isIn (secondLow a) (secondHigh a) b then
              match more with
              | [] => [none]
              | c :: next =>
                  if isIn 0x80 0xBF c then
                    match next with
                    | [] => [none]
                    | d :: last =>
                        if isIn 0x80 0xBF d then
                          some (Char.ofNat ((a.toNat - 0xF0) * 262144 + low b * 4096 +
                            low c * 64 + low d)) :: chunks last
                        else none :: chunks (d :: last)
                  else none :: chunks (c :: next)
            else none :: chunks (b :: more)
      else none :: chunks rest

def all? : List (Option Char) → Option Text
  | [] => some []
  | none :: _ => none
  | some c :: rest => (all? rest).map (c :: ·)

def decode? (bytes : Bytes) : Option Text := all? (chunks bytes)

def decodeLossy (bytes : Bytes) : Text := (chunks bytes).map (·.getD '\ufffd')

end Utf8

end PolicyLookup
