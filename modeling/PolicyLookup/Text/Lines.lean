import PolicyLookup.Text.Blank

set_option autoImplicit false

namespace PolicyLookup.Text

def lines : Text → List Text
  | [] => []
  | '\n' :: rest => ['\n'] :: lines rest
  | c :: rest =>
      match lines rest with
      | [] => [[c]]
      | line :: more => (c :: line) :: more

theorem lines_cons (c : Char) (rest : Text) (h : c ≠ '\n') :
    lines (c :: rest) = match lines rest with
      | [] => [[c]]
      | line :: more => (c :: line) :: more := by
  simp [lines]

theorem flatten_lines (t : Text) : (lines t).flatten = t := by
  induction t with
  | nil => rfl
  | cons c rest ih =>
    by_cases h : c = '\n'
    · subst h
      simp [lines, ih]
    · rw [lines_cons c rest h]
      cases split : lines rest with
      | nil => simp_all
      | cons line more => simp_all

end PolicyLookup.Text
