import PolicyLookup.Disk.Resolve

set_option autoImplicit false

namespace PolicyLookup

namespace Entries

def modifyAt (change : Entries → Entries) : Place → Entries → Entries
  | [], entries => change entries
  | name :: rest, entries =>
      match entries.find? name with
      | some (.folder inner) => entries.insert name (.folder (modifyAt change rest inner))
      | some _ => entries
      | none => entries.insert name (.folder (modifyAt change rest .nil))

end Entries

namespace Disk

def makeFolders (disk : Disk) : Place → List Bytes → Disk × Place
  | place, [] => (disk, place)
  | place, part :: rest =>
      if part = [] ∨ part = Name.here then makeFolders disk place rest
      else if part = Name.up then makeFolders disk place.dropLast rest
      else match disk.root.at? (place ++ [part]) with
        | some (.link _) =>
            match follow disk.root false linkAllowance place [part] with
            | .ok target => makeFolders disk target rest
            | .error _ => (disk, place)
        | some _ => makeFolders disk (place ++ [part]) rest
        | none =>
            makeFolders { disk with root := disk.root.modifyAt (·.insert part (.folder .nil)) place }
              (place ++ [part]) rest

private def startOf (disk : Disk) (path : Path) : Place := if path.isAbsolute then [] else disk.home

private def solidParts (path : Path) : List Bytes :=
  (path.parts.reverse.dropWhile fun part => part = [] ∨ part = Name.here).reverse

private def setAt (disk : Disk) (place : Place) (name : Name) (node : Node) : Disk :=
  { disk with root := disk.root.modifyAt (·.insert name node) place }

-- Places a node at a path. A folder that is there already is kept when a folder is placed, and
-- bytes placed over a link go to the file it leads to.
def put (disk : Disk) (path : Path) (node : Node) : Disk :=
  match (solidParts path).reverse with
  | [] => disk
  | last :: before =>
      let (made, place) := disk.makeFolders (startOf disk path) before.reverse
      match node, made.root.at? (place ++ [last]) with
      | .folder _, some (.folder _) => made
      | .file _, some (.link _) =>
          match follow made.root false linkAllowance place [last] with
          | .ok target => made.setAt target.dropLast (target.getLast?.getD last) node
          | .error _ => made
      | _, _ => made.setAt place last node

def remove (disk : Disk) (path : Path) : Disk :=
  match disk.locate true ⟨((solidParts path).intersperse [Path.slash]).flatten⟩ with
  | .ok place =>
      match place.getLast? with
      | some last => { disk with root := disk.root.modifyAt (·.erase last) place.dropLast }
      | none => disk
  | .error _ => disk

end Disk

end PolicyLookup
