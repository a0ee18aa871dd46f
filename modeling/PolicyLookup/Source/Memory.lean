import PolicyLookup.Lookup
import PolicyLookup.Text.Lines

set_option autoImplicit false

namespace PolicyLookup

-- Paths with their texts. A path is found by any spelling of it and keeps its first one.
structure Memory where
  files : List (Path × Text)

namespace Memory

def empty : Memory := ⟨[]⟩

def find? (m : Memory) (path : Path) : Option Text :=
  (m.files.find? fun file => file.1.same path).map Prod.snd

def insertInto (path : Path) (text : Text) : List (Path × Text) → List (Path × Text)
  | [] => [(path, text)]
  | (old, content) :: rest =>
      if old.same path then (old, text) :: rest else (old, content) :: insertInto path text rest

def insert (m : Memory) (path : Path) (text : Text) : Memory := ⟨insertInto path text m.files⟩

def remove (m : Memory) (path : Path) : Memory := ⟨m.files.filter fun file => !file.1.same path⟩

def ofList (files : List (Path × Text)) : Memory :=
  files.foldl (fun m file => m.insert file.1 file.2) empty

def paths (m : Memory) : List Path := m.files.map Prod.fst

def root : Path := Path.ofText "<memory>".toList

def candidates (m : Memory) : Except Failure (List Path) :=
  if m.files.isEmpty then .error (.noCandidates root "if".toList "spt".toList) else .ok m.paths

def lines (m : Memory) (path : Path) : Except Failure (List Text) :=
  match m.find? path with
  | some text => .ok (Text.lines text)
  | none => .error (.read path .absent)

def source : Source Memory where
  candidates := do Lookup.ofExcept (candidates (← get).source)
  read path := do Lookup.ofExcept (lines (← get).source path)

end Memory

end PolicyLookup
