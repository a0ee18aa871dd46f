set_option autoImplicit false

namespace PolicyLookup

abbrev Text := List Char

namespace Text

-- The characters with the Unicode property White_Space.
def isBlank (c : Char) : Bool :=
  let n := c.toNat
  (0x9 ≤ n && n ≤ 0xD) || n == 0x20 || n == 0x85 || n == 0xA0 || n == 0x1680 ||
    (0x2000 ≤ n && n ≤ 0x200A) || n == 0x2028 || n == 0x2029 || n == 0x202F ||
    n == 0x205F || n == 0x3000

def trimEnd (t : Text) : Text :=
  (t.reverse.dropWhile isBlank).reverse

def trim (t : Text) : Text :=
  trimEnd (t.dropWhile isBlank)

def lower (t : Text) : Text := t.map Char.toLower

def startsWith (piece t : Text) : Bool := piece.isPrefixOf t

def indexOf? (piece : Text) : Text → Option Nat
  | [] => if piece.isEmpty then some 0 else none
  | c :: rest => if startsWith piece (c :: rest) then some 0 else (indexOf? piece rest).map (· + 1)

end Text

end PolicyLookup
