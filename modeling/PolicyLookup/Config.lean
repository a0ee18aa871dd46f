import PolicyLookup.Failure
import PolicyLookup.Declaration

set_option autoImplicit false

namespace PolicyLookup

structure Logging where
  level : Text
  json : Bool
deriving DecidableEq

structure Config where
  interfaceExtension : Text
  supportExtension : Text
  mode : QueryMode
  logging : Logging
deriving DecidableEq

namespace Config

def default : Config where
  interfaceExtension := "if".toList
  supportExtension := "spt".toList
  mode := .literal
  logging := ⟨"warn".toList, false⟩

def isReserved (c : Char) : Bool :=
  c == '/' || c == '\\' || c == '*' || c == '?' || c == '[' || c == ']' || c == '\x7b' || c == '\x7d'

def bareExtension (t : Text) : Text := (Text.trim t).dropWhile (· == '.')

def checkExtension (t : Text) : Except ConfigFault Text :=
  let bare := bareExtension t
  if bare.isEmpty then .error .emptyExtension
  else if bare.any isReserved then .error (.extensionCharacters bare)
  else .ok bare

def levelNames : List Text := ["trace", "debug", "info", "warn", "error", "off"].map String.toList

def checkLevel (t : Text) : Except ConfigFault Text :=
  let level := Text.lower (Text.trim t)
  if levelNames.contains level then .ok level else .error (.unknownLevel level)

def validated (c : Config) : Except ConfigFault Config := do
  let interface ← checkExtension c.interfaceExtension
  let support ← checkExtension c.supportExtension
  let level ← checkLevel c.logging.level
  .ok { c with
    interfaceExtension := interface
    supportExtension := support
    logging := { c.logging with level } }

inductive Key where
  | interfaceExtension
  | supportExtension
  | mode
  | level
  | json
deriving DecidableEq

def Key.name : Key → String
  | .interfaceExtension => "SEPOLQ_INTERFACE_EXT"
  | .supportExtension => "SEPOLQ_SUPPORT_EXT"
  | .mode => "SEPOLQ_QUERY_MODE"
  | .level => "SEPOLQ_LOG_LEVEL"
  | .json => "SEPOLQ_LOG_JSON"

abbrev Overrides := Key → Option Text

def readMode (t : Text) : Except ConfigFault QueryMode :=
  match QueryMode.ofText? t with
  | some mode => .ok mode
  | none => .error (.unknownMode (Text.lower t))

def isYes (t : Text) : Bool := t == "true".toList || t == "1".toList

def withOverrides (c : Config) (overrides : Overrides) : Except ConfigFault Config := do
  let mode ← match overrides .mode with
    | some name => readMode name
    | none => .ok c.mode
  validated {
    interfaceExtension := (overrides .interfaceExtension).getD c.interfaceExtension
    supportExtension := (overrides .supportExtension).getD c.supportExtension
    mode
    logging := {
      level := (overrides .level).getD c.logging.level
      json := ((overrides .json).map isYes).getD c.logging.json } }

end Config

end PolicyLookup
