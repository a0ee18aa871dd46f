import PolicyLookup.Config
import PolicyLookup.Failure
import PolicyLookup.Yaml.Document

set_option autoImplicit false

namespace PolicyLookup.Config

open Yaml (Fault)

abbrev Field (α : Type) := Yaml.Node → Yaml.Node → Except Fault α

def textField : Field Text := fun root node =>
  match root.target? node with
  | some (.scalar _ _ text) => .ok text
  | _ => .error .type

def booleans : List (Text × Bool) := [
  ("true".toList, true), ("True".toList, true), ("TRUE".toList, true),
  ("false".toList, false), ("False".toList, false), ("FALSE".toList, false)]

def booleanTag : Bytes := Utf8.encode "tag:yaml.org,2002:bool".toList

-- A truth value is written plain, or as a literal block with the tag for it.
def booleanField : Field Bool := fun root node =>
  match root.target? node with
  | some (.scalar properties style text) =>
      if style = .plain ∨ (style = .literal ∧ properties.tag = some booleanTag) then
        match booleans.lookup text with
        | some value => .ok value
        | none => .error .type
      else .error .type
  | _ => .error .type

def nulls : List Text := ["", "null", "Null", "NULL", "~"].map String.toList

def localTag? (tag : Option Bytes) : Option Text :=
  match tag with
  | some (0x21 :: name) => Utf8.decode? name
  | _ => none

def modeNamed (name : Text) : Except Fault QueryMode :=
  if name = "literal".toList then .ok .literal
  else if name = "regex".toList then .ok .regex
  else .error .type

def modeField : Field QueryMode := fun root node =>
  match root.target? node with
  | some (.scalar properties style text) =>
      match localTag? properties.tag with
      | some name => if style = .plain ∧ text ∈ nulls then modeNamed name else .error .type
      | none => modeNamed text
  | _ => .error .type

def entriesField : Field (List (Text × Yaml.Node)) := fun root node =>
  match root.target? node with
  | some (.mapping _ entries) => entries.mapM fun (key, value) => do
      return (← textField root key, value)
  | some (.scalar _ .plain []) => .ok []
  | _ => .error .type

def entry? {α : Type} (read : Field α) (root : Yaml.Node) (entries : List (Text × Yaml.Node)) (key : String) :
    Except Fault (Option α) :=
  match entries.filter (·.1 = key.toList) with
  | [] => .ok none
  | [(_, node)] => (read root node).map some
  | _ => .error .fieldTwice

def loggingField : Field Logging := fun root node => do
  let entries ← entriesField root node
  let level ← entry? textField root entries "level"
  let json ← entry? booleanField root entries "json"
  .ok ⟨level.getD default.logging.level, json.getD default.logging.json⟩

def configField : Field Config := fun root node => do
  let entries ← entriesField root node
  let interface ← entry? textField root entries "interface_extension"
  let support ← entry? textField root entries "support_extension"
  let mode ← entry? modeField root entries "query_mode"
  let logging ← entry? loggingField root entries "logging"
  .ok {
    interfaceExtension := interface.getD default.interfaceExtension
    supportExtension := support.getD default.supportExtension
    mode := mode.getD default.mode
    logging := logging.getD default.logging }

-- The configuration that a text spells. A text without a document spells the default.
def ofText (t : Text) : Except Fault Config := do
  match ← Yaml.Node.ofText? t with
  | some root => configField root root
  | none => .ok default

def ofFile (disk : Disk) (path : Path) : Except Failure Config := do
  if !disk.exists? path then throw (.config (.missing path))
  let text ← (disk.readText path).mapError fun fault => .config (.unreadable fault)
  let config ← (ofText text).mapError .yaml
  config.validated.mapError .config

end PolicyLookup.Config
