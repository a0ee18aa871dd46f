import PolicyLookup.Proofs.Text.Lines

set_option autoImplicit false

namespace PolicyLookup.Text

inductive Rows : List Text → Prop
  | nil : Rows []
  | last (body : Text) (something : body ≠ []) (single : '\n' ∉ body) : Rows [body]
  | line (body : Text) (below : List Text) (single : '\n' ∉ body) (rest : Rows below) :
      Rows ((body ++ ['\n']) :: below)

theorem rows_lines (t : Text) : Rows (lines t) := by
  induction t with
  | nil => exact .nil
  | cons c t ih =>
      by_cases newline : c = '\n'
      · subst newline
        exact .line [] (lines t) (by simp) ih
      · have longer {body : Text} (single : '\n' ∉ body) : '\n' ∉ c :: body := by
          rw [List.mem_cons, not_or]
          exact ⟨Ne.symm newline, single⟩
        rw [lines_cons c t newline]
        generalize lines t = rows at ih
        cases ih with
        | nil => exact .last [c] (List.cons_ne_nil c []) (longer (by simp))
        | last body _ single => exact .last (c :: body) (List.cons_ne_nil c body) (longer single)
        | line body below single rest => exact .line (c :: body) below (longer single) rest

theorem lines_flatten {rows : List Text} (cut : Rows rows) : lines rows.flatten = rows := by
  induction cut with
  | nil => rfl
  | last body something single => simpa using lines_last body something single
  | line body below single _ ih =>
      rw [List.flatten_cons, List.append_assoc, List.singleton_append, lines_line _ _ single, ih]

theorem rows_cons {row : Text} {below : List Text} (cut : Rows (row :: below)) :
    (below = [] ∧ row ≠ [] ∧ '\n' ∉ row) ∨ ∃ body, row = body ++ ['\n'] ∧ '\n' ∉ body ∧ Rows below := by
  cases cut with
  | last body something single => exact Or.inl ⟨rfl, something, single⟩
  | line body below single rest => exact Or.inr ⟨body, rfl, single, rest⟩

theorem rows_append {above below : List Text} (cut : Rows (above ++ below)) : Rows above ∧ Rows below := by
  induction above with
  | nil => exact ⟨.nil, cut⟩
  | cons row above ih =>
      rcases rows_cons cut with ⟨rest, something, single⟩ | ⟨body, rfl, single, rest⟩
      · obtain ⟨rfl, rfl⟩ := List.append_eq_nil_iff.mp rest
        exact ⟨.last row something single, .nil⟩
      · exact ⟨.line body above single (ih rest).1, (ih rest).2⟩

theorem row_of_mem {rows : List Text} (cut : Rows rows) {row : Text} (member : row ∈ rows) : Rows [row] := by
  obtain ⟨above, below, rfl⟩ := List.append_of_mem member
  have here : Rows ([row] ++ below) := (rows_append cut).2
  exact (rows_append here).1

theorem row_ne_nil {row : Text} (cut : Rows [row]) : row ≠ [] := by
  rcases rows_cons cut with ⟨_, something, _⟩ | ⟨body, rfl, _, _⟩
  · exact something
  · simp

theorem complete_above {above : List Text} {row : Text} {below : List Text}
    (cut : Rows (above ++ row :: below)) : Complete above.flatten := by
  induction above with
  | nil => exact .nil
  | cons first above ih =>
      rcases rows_cons cut with ⟨nothing, _, _⟩ | ⟨body, rfl, single, rest⟩
      · simp at nothing
      · rw [List.flatten_cons, List.append_assoc]
        exact .line body above.flatten single (ih rest)

theorem complete_ends {t : Text} (complete : Complete t) : t = [] ∨ t.getLast? = some '\n' := by
  induction complete with
  | nil => exact Or.inl rfl
  | line body below _ _ ih =>
      refine Or.inr ?_
      rcases ih with rfl | ends
      · exact List.getLast?_concat
      · rw [List.getLast?_append, List.getLast?_cons, ends]
        rfl

theorem complete_of_last {t : Text} (ends : t = [] ∨ t.getLast? = some '\n') : Complete t := by
  rcases ends with rfl | ends
  · exact .nil
  · obtain ⟨above, start, rfl, complete, single⟩ := cut_above t
    cases start with
    | nil => simpa using complete
    | cons c start =>
        have last : (c :: start).getLast? = some '\n' := by simpa [List.getLast?_append] using ends
        exact absurd (List.mem_of_getLast? last) single

def Ending (e : Text) : Prop := e = [] ∨ e = ['\n'] ∨ e = ['\r', '\n']

theorem ending_last {e : Text} (ending : Ending e) (something : e ≠ []) : e.getLast? = some '\n' := by
  rcases ending with rfl | rfl | rfl
  · contradiction
  · rfl
  · rfl

-- One end after another line: only a return may go with the newline after it.
theorem ending_beside {inner e f : Text} (single : '\n' ∉ inner) (ending : Ending e) (endsToo : Ending f)
    (whole : inner ++ e = f) : inner = [] ∨ inner = ['\r'] ∧ e = ['\n'] := by
  rcases ending with rfl | rfl | rfl
  · rw [List.append_nil] at whole
    rcases endsToo with rfl | rfl | rfl
    · exact Or.inl whole
    · simp [whole] at single
    · simp [whole] at single
  · rcases endsToo with rfl | rfl | rfl
    · simp at whole
    · exact Or.inl (List.append_left_eq_self.mp whole)
    · exact Or.inr ⟨(List.append_left_inj ['\n']).mp whole, rfl⟩
  · rcases endsToo with rfl | rfl | rfl
    · simp at whole
    · simpa using congrArg List.length whole
    · exact Or.inl (List.append_left_eq_self.mp whole)

theorem row_of_ending {body e : Text} (single : '\n' ∉ body) (ending : Ending e) (something : body ++ e ≠ []) :
    Rows [body ++ e] := by
  rcases ending with rfl | rfl | rfl
  · rw [List.append_nil] at something ⊢
    exact .last body something single
  · exact .line body [] single .nil
  · have returned : body ++ ['\r', '\n'] = (body ++ ['\r']) ++ ['\n'] := by simp
    rw [returned]
    exact .line _ [] (by simp [single]) .nil

theorem rows_below {row : Text} {below : List Text} (here : Rows [row]) (ends : row.getLast? = some '\n')
    (cut : Rows below) : Rows (row :: below) := by
  rcases rows_cons here with ⟨_, _, single⟩ | ⟨body, rfl, single, _⟩
  · exact absurd (List.mem_of_getLast? ends) single
  · exact .line body below single cut

end PolicyLookup.Text
