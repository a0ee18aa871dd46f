import PolicyLookup.Lookup
import PolicyLookup.Text.Lines

set_option autoImplicit false

namespace PolicyLookup

-- The answers of each file, one for each reading and the last for all after it, and the paths
-- read so far. `none` is a reading that fails.
structure Script where
  files : List (Path × List (Option Text))
  candidates : List Path
  reads : List Path

namespace Script

def answer? (s : Script) (path : Path) : Option Text :=
  match s.files.lookup path with
  | none => none
  | some answers => (answers[min (s.reads.count path) (answers.length - 1)]?).join

def lines (s : Script) (path : Path) : Except Failure (List Text) :=
  match s.answer? path with
  | some text => .ok (Text.lines text)
  | none => .error (.read path .absent)

def record (s : Script) (path : Path) : Script := { s with reads := s.reads ++ [path] }

def source : Source Script where
  candidates := do return (← get).source.candidates
  read path := do
    let session ← get
    set { session with source := session.source.record path }
    Lookup.ofExcept (lines session.source path)

end Script

end PolicyLookup
