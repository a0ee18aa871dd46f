import PolicyLookup.Path

set_option autoImplicit false

namespace PolicyLookup.CommandLine

structure Arguments where
  folder : Option Path
  query : Option Text
  config : Option Path
  isRegex : Bool
  verbosity : Nat
deriving DecidableEq

def Arguments.none : Arguments := ⟨.none, .none, .none, false, 0⟩

inductive Request where
  | lookup (arguments : Arguments)
  | version
  | help
deriving DecidableEq

inductive UsageFault where
  | unknown (word : Bytes)
  | tooMany (word : Bytes)
  | missingValue
  | emptyValue
  | needlessValue (word : Bytes)
  | notText (word : Bytes)
  | twice (word : Bytes)
deriving DecidableEq

def UsageFault.message : UsageFault → String
  | .unknown word | .tooMany word => "unexpected argument '" ++ shown word ++ "' found"
  | .missingValue => "a value is required for '--config <CONFIG>' but none was supplied"
  | .emptyValue => "a value is required but none was supplied"
  | .needlessValue word => "unexpected value for '" ++ shown word ++ "' found; no more were expected"
  | .notText word => "invalid UTF-8 was detected in '" ++ shown word ++ "'"
  | .twice word => "the argument '" ++ shown word ++ "' cannot be used multiple times"
where
  shown (word : Bytes) : String := Path.display ⟨word⟩

def dash : UInt8 := 0x2D

inductive Word where
  | endOfOptions
  | long (name : Bytes) (value : Option Bytes)
  | short (letters : Bytes)
  | plain
deriving DecidableEq

def Word.ofBytes : Bytes → Word
  | [0x2D, 0x2D] => .endOfOptions
  | 0x2D :: 0x2D :: rest =>
      match rest.dropWhile (· ≠ 0x3D) with
      | [] => .long rest none
      | _ :: value => .long (rest.takeWhile (· ≠ 0x3D)) (some value)
  | 0x2D :: letter :: rest => .short (letter :: rest)
  | _ => .plain

def pathOf (word : Bytes) : Except UsageFault Path :=
  if word.isEmpty then .error .emptyValue else .ok ⟨word⟩

namespace Arguments

def place (a : Arguments) (word : Bytes) : Except UsageFault Arguments := do
  match a.folder, a.query with
  | .none, _ => .ok { a with folder := some (← pathOf word) }
  | some _, .none =>
      match Utf8.decode? word with
      | some query => .ok { a with query := some query }
      | .none => .error (.notText word)
  | some _, some _ => .error (.tooMany word)

def setConfig (a : Arguments) (value : Bytes) : Except UsageFault Arguments := do
  let path ← pathOf value
  if a.config.isSome then .error (.twice (Utf8.encode "--config".toList))
  else .ok { a with config := some path }

def flags (a : Arguments) : Bytes → Except UsageFault Request
  | [] => .ok (.lookup a)
  | letter :: rest =>
      if letter = 0x76 then flags { a with verbosity := a.verbosity + 1 } rest
      else if letter = 0x56 then .ok .version
      else if letter = 0x68 then .ok .help
      else .error (.unknown [dash, letter])

def switch (a : Arguments) (name : Bytes) : Except UsageFault Request :=
  if name = Utf8.encode "regex".toList then
    if a.isRegex then .error (.twice (dash :: dash :: name))
    else .ok (.lookup { a with isRegex := true })
  else if name = Utf8.encode "verbose".toList then
    .ok (.lookup { a with verbosity := a.verbosity + 1 })
  else if name = Utf8.encode "version".toList then .ok .version
  else if name = Utf8.encode "help".toList then .ok .help
  else .error (.unknown (dash :: dash :: name))

def isOption (word : Bytes) : Bool := Word.ofBytes word != .plain

-- Reads the words that are left. After two dashes all of them are placed.
def read (placesOnly : Bool) (a : Arguments) : List Bytes → Except UsageFault Request
  | [] => .ok (.lookup a)
  | word :: rest =>
      if placesOnly then
        match a.place word with
        | .ok a => read true a rest
        | .error fault => .error fault
      else
        let next (settled : Except UsageFault Request) : Except UsageFault Request :=
          match settled with
          | .ok (.lookup a) => read false a rest
          | other => other
        match Word.ofBytes word with
        | .endOfOptions => read true a rest
        | .plain => next ((a.place word).map .lookup)
        | .short letters => next (a.flags letters)
        | .long name value =>
            if name = Utf8.encode "config".toList then
              match value, rest with
              | some value, _ => next ((a.setConfig value).map .lookup)
              | .none, [] => .error .missingValue
              | .none, value :: rest =>
                  if isOption value then .error .missingValue
                  else match a.setConfig value with
                    | .ok a => read false a rest
                    | .error fault => .error fault
            else match value with
              | .none => next (a.switch name)
              | some _ =>
                  match a.switch name with
                  | .error (.unknown word) => .error (.unknown word)
                  | _ => .error (.needlessValue word)

end Arguments

def Request.ofWords (words : List Bytes) : Except UsageFault Request :=
  Arguments.none.read false words

end PolicyLookup.CommandLine
