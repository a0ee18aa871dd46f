import PolicyLookup.Glob.Pattern
import PolicyLookup.Disk.Resolve

set_option autoImplicit false

namespace PolicyLookup.Glob

structure Pattern where
  isAbsolute : Bool
  parts : List (List Token)
  foldersOnly : Bool

structure Unreadable where
  folder : Path
  fault : ReadFault

def Unreadable.message (skipped : Unreadable) : String :=
  "attempting to read `" ++ skipped.folder.display ++ "` resulted in an error: " ++ skipped.fault.message

def partsOf (t : Text) : List Text :=
  match (t.splitOn '/').reverse with
  | [] :: before => before.reverse
  | _ => t.splitOn '/'

namespace Pattern

def ofText (t : Text) : Except Fault Pattern := do
  let _ ← read t
  let isAbsolute := t.head? == some '/'
  let parts ← (partsOf (if isAbsolute then t.drop 1 else t)).mapM read
  .ok {
    isAbsolute
    parts := if t = ['/'] then [[]] else parts
    foldersOnly := t.getLast? == some '/' }

end Pattern

def here : Path := ⟨Name.here⟩

def entryPath (folder : Path) (name : Bytes) : Path :=
  if folder = here then ⟨name⟩ else folder.join name

-- Where a walk has come to. An entry is known as a folder from the folder above it, also when its
-- own path is too long to be read.
structure Stop where
  path : Path
  isFolder : Bool

def stopAt (disk : Disk) (path : Path) : Stop := ⟨path, disk.isFolder path⟩

structure Entry extends Stop where
  name : Name

def entryOf (disk : Disk) (folder : Path) (name : Name) (node : Node) : Entry :=
  let path := entryPath folder name
  let isFolder := match node with
    | .file _ => false
    | .folder _ => true
    | .link _ => disk.isFolder path
  { path, isFolder, name }

def entriesOf (disk : Disk) (folder : Path) : Except ReadFault (List Entry) := do
  let place ← disk.locate false folder
  match disk.root.at? place with
  | some (.folder entries) =>
      .ok (entries.sorted.filterMap fun name => (entries.find? name).map (entryOf disk folder name))
  | _ => .error .notFolder

-- All that is below a folder, links to folders followed. Each level makes the path longer, and no
-- path longer than `Disk.longestPath` can be read, so that many levels are all.
def descendants (disk : Disk) : Nat → Stop → List (Except Unreadable Entry)
  | 0, _ => []
  | depth + 1, stop =>
      if stop.isFolder then
        match entriesOf disk stop.path with
        | .ok entries => entries.flatMap fun entry => .ok entry :: descendants disk depth entry.toStop
        | .error fault => [.error ⟨stop.path, fault⟩]
      else []

def isFolders (part : List Token) : Bool := part == [.folders]

def matchesEntry (part : List Token) (entry : Entry) : Bool :=
  match Utf8.decode? entry.name with
  | some name => matchesName part name
  | none => false

def dotEntries (part : List Token) : List Name :=
  if part.head? == some (.char '.') then
    [(Name.up, ['.', '.']), (Name.here, ['.'])].filterMap fun (name, text) =>
      if matchesName part text then some name else none
  else []

def leadsTo (disk : Disk) (stop : Stop) (next : Path) (part : Text) : Bool :=
  if part = ['.'] ∨ part = ['.', '.'] then stop.isFolder
  else disk.exists? next || disk.isPresent next

def fromEach {α β : Type} (next : α → List (Except Unreadable β)) :
    List (Except Unreadable α) → List (Except Unreadable β) :=
  List.flatMap fun
    | .ok a => next a
    | .error skipped => [.error skipped]

mutual
def walk (disk : Disk) (foldersOnly : Bool) : List (List Token) → Stop → List (Except Unreadable Path)
  | [], _ => []
  | part :: more, stop =>
      match plain? part with
      | some text =>
          let next := entryPath stop.path (Utf8.encode text)
          if leadsTo disk stop next text then arrive disk foldersOnly more (stopAt disk next) else []
      | none =>
          if isFolders part then
            match more with
            | [] =>
                fromEach (fun entry => if entry.isFolder then [.ok entry.path] else [])
                  (descendants disk Disk.longestPath stop)
            | next :: rest =>
                if isFolders next then walk disk foldersOnly (next :: rest) stop
                else
                  fromEach (fun entry =>
                      if matchesEntry next entry then arrive disk foldersOnly rest entry.toStop else [])
                    (descendants disk Disk.longestPath stop)
          else if stop.isFolder then
            match entriesOf disk stop.path with
            | .ok entries =>
                ((dotEntries part).flatMap fun name =>
                    arrive disk foldersOnly more (stopAt disk (stop.path.join name))) ++
                  (entries.filter (matchesEntry part)).flatMap
                    fun entry => arrive disk foldersOnly more entry.toStop
            | .error fault => [.error ⟨stop.path, fault⟩]
          else []

def arrive (disk : Disk) (foldersOnly : Bool) : List (List Token) → Stop → List (Except Unreadable Path)
  | [], stop => if foldersOnly && !stop.isFolder then [] else [.ok stop.path]
  | part :: more, stop => walk disk foldersOnly (part :: more) stop
end

-- The paths that a pattern matches, in the order of the walk: a folder before what is in it, and
-- the entries of a folder in the byte order of their names.
def Pattern.search (disk : Disk) (pattern : Pattern) : List (Except Unreadable Path) :=
  walk disk pattern.foldersOnly pattern.parts
    (stopAt disk (if pattern.isAbsolute then ⟨[Path.slash]⟩ else here))

end PolicyLookup.Glob
