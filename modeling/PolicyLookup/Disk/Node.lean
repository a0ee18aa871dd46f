import PolicyLookup.Path

set_option autoImplicit false

namespace PolicyLookup

mutual
inductive Node where
  | file (content : Bytes)
  | link (target : Path)
  | folder (entries : Entries)

inductive Entries where
  | nil
  | cons (name : Name) (node : Node) (rest : Entries)
end

instance : Inhabited Node := ⟨.file []⟩

namespace Entries

def toList : Entries → List (Name × Node)
  | .nil => []
  | .cons name node rest => (name, node) :: toList rest

def find? (target : Name) : Entries → Option Node
  | .nil => none
  | .cons name node rest => if name = target then some node else find? target rest

def insert (target : Name) (fresh : Node) : Entries → Entries
  | .nil => .cons target fresh .nil
  | .cons name node rest =>
      if name = target then .cons name fresh rest else .cons name node (insert target fresh rest)

def sorted (entries : Entries) : List Name := (entries.toList.map Prod.fst).mergeSort fun a b => !(b < a)

def erase (target : Name) : Entries → Entries
  | .nil => .nil
  | .cons name node rest => if name = target then rest else .cons name node (erase target rest)

end Entries

abbrev Place := List Name

-- A file tree seen from a working folder. It has no access rights, so that only the path is at fault
-- where something on it cannot be opened.
structure Disk where
  root : Entries
  home : Place

namespace Entries

def at? (entries : Entries) : Place → Option Node
  | [] => some (.folder entries)
  | name :: rest =>
      match entries.find? name with
      | some (.folder inner) => at? inner rest
      | some node => if rest.isEmpty then some node else none
      | none => none

end Entries

end PolicyLookup
