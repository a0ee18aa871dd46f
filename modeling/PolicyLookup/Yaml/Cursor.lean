import PolicyLookup.Yaml.Character

set_option autoImplicit false

namespace PolicyLookup.Yaml

structure Cursor where
  rest : Text
  line : Nat
  column : Nat

namespace Cursor

-- The start of a text. A byte order mark in front is left out; a second one takes a column.
def start (t : Text) : Cursor :=
  match t with
  | '\ufeff' :: '\ufeff' :: rest => ⟨rest, 0, 1⟩
  | '\ufeff' :: rest => ⟨rest, 0, 0⟩
  | _ => ⟨t, 0, 0⟩

def past (place : Nat × Nat) (c : Char) : Nat × Nat :=
  if isBreak c then (place.1 + 1, 0) else (place.1, place.2 + 1)

def moveTo (cursor : Cursor) (rest : Text) : Cursor :=
  let passed := cursor.rest.take (cursor.rest.length - rest.length)
  let (line, column) := passed.foldl past (cursor.line, cursor.column)
  ⟨rest, line, column⟩

end Cursor

end PolicyLookup.Yaml
