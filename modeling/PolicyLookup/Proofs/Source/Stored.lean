import PolicyLookup.Proofs.Lookup.Answers
import PolicyLookup.Proofs.Source.Memory

set_option autoImplicit false

namespace PolicyLookup.Memory

theorem ask_candidates (m : Memory) : source.candidates.start m = (m.candidates, ⟨m, []⟩) := rfl

theorem ask_lines (m : Memory) (path : Path) : (source.read path).start m = (m.lines path, ⟨m, []⟩) := rfl

theorem memory_answers (m : Memory) : source.Answers m.lines (· = m) where
  reads session path same := by
    subst same
    rfl
  stays _ _ same := same

def text (m : Memory) (path : Path) : Except Failure Text :=
  match m.find? path with
  | some content => .ok content
  | none => .error (.read path .absent)

theorem memory_texts (m : Memory) : source.Answers (fun path => (m.text path).map Text.lines) (· = m) := by
  have same : m.lines = fun path => (m.text path).map Text.lines := by
    funext path
    rw [lines, text]
    cases m.find? path <;> rfl
  rw [← same]
  exact memory_answers m

theorem find_in_memory (m : Memory) (mode : QueryMode) (query : Text) (log : List Event) :
    ((Lookup.find source mode query).run ⟨m, log⟩).1 = m.candidates >>= Lookup.findIn m.lines mode query :=
  Lookup.find_run (memory_answers m) rfl rfl

theorem candidates_ok {m : Memory} (something : m.files ≠ []) : m.candidates = .ok m.paths := by
  rw [candidates, if_neg (by simpa using something)]

theorem candidates_of_paths {m : Memory} (something : m.paths ≠ []) : m.candidates = .ok m.paths :=
  candidates_ok fun nothing => something (by rw [paths, nothing, List.map_nil])

theorem lines_of_mem {m : Memory} (distinct : Distinct m.files) {path : Path} {text : Text}
    (member : (path, text) ∈ m.files) : m.lines path = .ok (Text.lines text) := by
  rw [lines, find_of_mem distinct member]

end PolicyLookup.Memory
