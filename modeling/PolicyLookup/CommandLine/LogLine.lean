import PolicyLookup.Event

set_option autoImplicit false

namespace PolicyLookup.LogLine

def hexDigits (n : Nat) : Text := (Nat.toDigits 16 n)

def twoDigits (n : Nat) : Text := if n < 0x10 then '0' :: hexDigits n else hexDigits n

-- A character as a line of text has it. The controls that would reach a terminal are spelled out.
def printedChar (c : Char) : Text :=
  let n := c.toNat
  if n = 0x07 ∨ n = 0x08 ∨ n = 0x0C ∨ n = 0x1B ∨ n = 0x7F then '\\' :: 'x' :: twoDigits n
  else if 0x80 ≤ n ∧ n ≤ 0x9F then '\\' :: 'u' :: '\x7b' :: hexDigits n ++ ['\x7d']
  else [c]

def message (asRecord : Bool) (event : Event) : String :=
  if asRecord then event.message else String.ofList (event.message.toList.flatMap printedChar)

def quotedChar (c : Char) : Text :=
  if c = '"' ∨ c = '\\' then ['\\', c]
  else if c = '\n' then ['\\', 'n']
  else if c.toNat < 0x20 then "\\u00".toList ++ twoDigits c.toNat
  else [c]

def quoted (s : String) : String := "\"" ++ String.ofList (s.toList.flatMap quotedChar) ++ "\""

def render (asRecord : Bool) (event : Event) : String :=
  if asRecord then
    "\x7b\"level\":" ++ quoted event.level.name ++ ",\"fields\":\x7b\"message\":" ++
      quoted (message true event) ++ "\x7d,\"target\":" ++ quoted event.target ++ "\x7d"
  else event.level.name ++ " " ++ event.target ++ ": " ++ message false event

end PolicyLookup.LogLine
