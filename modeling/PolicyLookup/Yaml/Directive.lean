import PolicyLookup.Yaml.Token

set_option autoImplicit false

namespace PolicyLookup.Yaml

def resourceMarks : Text := ";/?:@&=+$.%!~*'()".toList

def isResourceChar (alone : Bool) (c : Char) : Bool :=
  isNameChar c || resourceMarks.contains c || (alone && (c == ',' || c == '[' || c == ']'))

def following? (lead : Nat) : Option Nat :=
  if lead < 0x80 then some 0
  else if 0xC0 ≤ lead ∧ lead < 0xE0 then some 1
  else if 0xE0 ≤ lead ∧ lead < 0xF0 then some 2
  else if 0xF0 ≤ lead ∧ lead < 0xF8 then some 3
  else none

-- Reads a resource name. `pending` bytes of a character are still to come as escapes.
def readResource (alone : Bool) (pending : Nat) : Text → Except Fault (Bytes × Text)
  | [] => if pending = 0 then .ok ([], []) else .error .tag
  | c :: rest =>
      if c = '%' then
        match rest with
        | high :: low :: more =>
            match hexNumber? 2 [high, low] with
            | none => .error .tag
            | some n =>
                let left : Option Nat :=
                  if pending = 0 then following? n
                  else if 0x80 ≤ n ∧ n < 0xC0 then some (pending - 1)
                  else none
                match left with
                | none => .error .tag
                | some left => do
                    let (bytes, rest) ← readResource alone left more
                    .ok (UInt8.ofNat n :: bytes, rest)
        | _ => .error .tag
      else if pending ≠ 0 then .error .tag
      else if isResourceChar alone c then do
        let (bytes, rest) ← readResource alone 0 rest
        .ok (UInt8.ofNat c.toNat :: bytes, rest)
      else .ok ([], c :: rest)

def upToZero (bytes : Bytes) : Bytes := bytes.takeWhile (· ≠ 0)

def readName (alone : Bool) (t : Text) : Except Fault (Bytes × Text) := do
  let (bytes, rest) ← readResource alone 0 t
  if bytes.isEmpty then .error .tag else .ok (upToZero bytes, rest)

def readHandle : Text → Except Fault (Text × Text)
  | '!' :: rest =>
      let word := rest.takeWhile isNameChar
      match rest.dropWhile isNameChar with
      | '!' :: more => .ok ('!' :: word ++ ['!'], more)
      | more => .ok ('!' :: word, more)
  | _ => .error .tag

def isClosed (handle : Text) : Bool := 1 < handle.length && handle.getLast? == some '!'

def readTag (t : Text) : Except Fault ((Text × Bytes) × Text) :=
  match t with
  | '!' :: '<' :: rest => do
      match ← readName true rest with
      | (name, '>' :: rest) => .ok (([], name), rest)
      | _ => .error .tag
  | _ => do
      let (handle, rest) ← readHandle t
      if isClosed handle then
        let (name, rest) ← readName false rest
        .ok ((handle, name), rest)
      else
        let (bytes, rest) ← readResource false 0 rest
        let name := upToZero (Utf8.encode (handle.drop 1) ++ bytes)
        .ok (if name.isEmpty then ([], Utf8.encode ['!']) else (['!'], name), rest)

def tagToken (inFlow : Bool) (t : Text) : Except Fault (Token × Text) := do
  let ((handle, name), rest) ← readTag t
  if (inFlow && rest.head? == some ',') || endsWord rest then .ok (.tag handle name, rest)
  else .error .tag

def endsAnchor (t : Text) : Bool :=
  endsWord t || "?:,]\x7d%@`".toList.contains (t.headD ' ')

def readAnchor (t : Text) : Except Fault (Text × Text) :=
  let name := t.takeWhile isNameChar
  let rest := t.dropWhile isNameChar
  if name.isEmpty || !endsAnchor rest then .error .anchor else .ok (name, rest)

def readNumber (t : Text) : Except Fault (Nat × Text) :=
  let digits := t.takeWhile Char.isDigit
  if digits.isEmpty || 9 < digits.length then .error .directive
  else .ok (digits.foldl (fun n c => n * 10 + (c.toNat - 0x30)) 0, t.dropWhile Char.isDigit)

def readVersion (t : Text) : Except Fault (Token × Text) := do
  match ← readNumber (t.dropWhile isBlank) with
  | (major, '.' :: rest) =>
      let (minor, rest) ← readNumber rest
      .ok (.version major minor, rest)
  | _ => .error .directive

def readShorthand (t : Text) : Except Fault (Token × Text) := do
  let (handle, rest) ← readHandle (t.dropWhile isBlank)
  if !isClosed handle && handle ≠ ['!'] then .error .directive
  else if !rest.head?.any isBlank then .error .directive
  else
    let (start, rest) ← readName true (rest.dropWhile isBlank)
    if endsWord rest then .ok (.shorthand handle start, rest) else .error .directive

def directiveToken (t : Text) : Except Fault (Token × Text) := do
  let name := t.takeWhile isNameChar
  let rest := t.dropWhile isNameChar
  let (token, rest) ←
    if !endsWord rest then .error .directive
    else if name = "YAML".toList then readVersion rest
    else if name = "TAG".toList then readShorthand rest
    else .error .directive
  match lineEnd? rest with
  | some rest => .ok (token, rest)
  | none => .error .directive

end PolicyLookup.Yaml
