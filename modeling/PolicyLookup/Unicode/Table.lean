import PolicyLookup.Unicode.CharSet

set_option autoImplicit false

namespace PolicyLookup.Unicode

structure Row where
  names : List String
  table : String

def digit16 (c : Char) : Nat :=
  if c.isDigit then c.toNat - '0'.toNat else c.toNat - 'A'.toNat + 10

def number16 (word : List Char) : Nat := word.foldl (fun n c => n * 16 + digit16 c) 0

def readRange (word : List Char) : Nat × Nat :=
  let lo := number16 (word.takeWhile (· ≠ '-'))
  match word.dropWhile (· ≠ '-') with
  | _ :: rest => (lo, number16 rest)
  | [] => (lo, lo)

def pieces (isSeparator : Char → Bool) : List Char → List (List Char)
  | [] => []
  | c :: rest =>
      if isSeparator c then pieces isSeparator rest
      else match rest, pieces isSeparator rest with
        | next :: _, piece :: more =>
            if isSeparator next then [c] :: piece :: more else (c :: piece) :: more
        | _, more => [c] :: more

def words : List Char → List (List Char) := pieces Char.isWhitespace

def readTable (table : String) : CharSet := ⟨(words table.toList).map readRange⟩

def find? (rows : List Row) (name : String) : Option CharSet :=
  (rows.find? (·.names.contains name)).map fun row => readTable row.table

end PolicyLookup.Unicode
