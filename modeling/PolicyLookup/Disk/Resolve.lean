import PolicyLookup.Disk.Node

set_option autoImplicit false

namespace PolicyLookup

inductive ReadFault where
  | absent
  | notFound
  | notFolder
  | isFolder
  | nameTooLong
  | tooManyLinks
  | zeroByte
  | notText
deriving DecidableEq, Inhabited

def ReadFault.message : ReadFault → String
  | .absent => "no such file"
  | .notFound => "No such file or directory (os error 2)"
  | .notFolder => "Not a directory (os error 20)"
  | .isFolder => "Is a directory (os error 21)"
  | .nameTooLong => "File name too long (os error 36)"
  | .tooManyLinks => "Too many levels of symbolic links (os error 40)"
  | .zeroByte => "file name contained an unexpected NUL byte"
  | .notText => "stream did not contain valid UTF-8"

namespace Disk

def longestName : Nat := 255

def longestPath : Nat := 4095

def linkAllowance : Nat := 40

-- Goes from a place along the parts of a path. `onLink` takes over at a link, with the parts
-- that its target and the rest of the path give; the last part is not followed as a link when
-- `keepLast` is set.
def descend (root : Entries) (keepLast : Bool)
    (onLink : Place → List Bytes → Except ReadFault Place) :
    Place → List Bytes → Except ReadFault Place
  | place, [] => .ok place
  | place, part :: rest =>
      match root.at? place with
      | some (.folder entries) =>
          if part = [] ∨ part = Name.here then descend root keepLast onLink place rest
          else if part = Name.up then descend root keepLast onLink place.dropLast rest
          else if longestName < part.length then .error .nameTooLong
          else match entries.find? part with
            | none => .error .notFound
            | some (.link target) =>
                if keepLast && rest.isEmpty then .ok (place ++ [part])
                else onLink (if target.isAbsolute then [] else place) (target.parts ++ rest)
            | some _ => descend root keepLast onLink (place ++ [part]) rest
      | _ => .error .notFolder

def follow (root : Entries) (keepLast : Bool) : Nat → Place → List Bytes → Except ReadFault Place
  | 0 => descend root keepLast fun _ _ => .error .tooManyLinks
  | n + 1 => descend root keepLast (follow root keepLast n)

def locate (disk : Disk) (keepLast : Bool) (path : Path) : Except ReadFault Place :=
  if path.bytes.contains 0 then .error .zeroByte
  else if path.bytes.isEmpty then .error .notFound
  else if longestPath < path.bytes.length then .error .nameTooLong
  else follow disk.root keepLast linkAllowance (if path.isAbsolute then [] else disk.home) path.parts

def node? (disk : Disk) (path : Path) : Option Node :=
  match disk.locate false path with
  | .ok place => disk.root.at? place
  | .error _ => none

def exists? (disk : Disk) (path : Path) : Bool := (disk.node? path).isSome

def isPresent (disk : Disk) (path : Path) : Bool :=
  match disk.locate true path with
  | .ok place => (disk.root.at? place).isSome
  | .error _ => false

def entries? (disk : Disk) (path : Path) : Option Entries :=
  match disk.node? path with
  | some (.folder entries) => some entries
  | _ => none

def isFolder (disk : Disk) (path : Path) : Bool := (disk.entries? path).isSome

def isFile (disk : Disk) (path : Path) : Bool :=
  match disk.node? path with
  | some (.file _) => true
  | _ => false

def readText (disk : Disk) (path : Path) : Except ReadFault Text := do
  let place ← disk.locate false path
  match disk.root.at? place with
  | some (.file content) =>
      match Utf8.decode? content with
      | some text => .ok text
      | none => .error .notText
  | some (.folder _) => .error .isFolder
  | _ => .error .notFound

def canonical? (disk : Disk) (path : Path) : Option Path :=
  match disk.locate false path with
  | .ok place => some (Path.ofNames place)
  | .error _ => none

-- The path made absolute by its spelling alone: dots and repeated slashes go, `..` and a slash at
-- the end stay.
def absolute (disk : Disk) (path : Path) : Path :=
  let start : Path :=
    if !path.isAbsolute then Path.ofNames disk.home
    else if [Path.slash, Path.slash].isPrefixOf path.bytes &&
        !([Path.slash, Path.slash, Path.slash].isPrefixOf path.bytes) then
      ⟨[Path.slash, Path.slash]⟩
    else ⟨[Path.slash]⟩
  let whole := path.steps.foldl (fun p step => match step with
    | .root | .here => p
    | .up => p.join Name.up
    | .name n => p.join n) start
  if path.endsInSlash && !whole.endsInSlash then ⟨whole.bytes ++ [Path.slash]⟩ else whole

end Disk

end PolicyLookup
