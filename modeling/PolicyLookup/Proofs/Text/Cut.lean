import PolicyLookup.Proofs.Text.Rows

set_option autoImplicit false

namespace PolicyLookup.Text

structure WellCut (rows : List Text) : Prop where
  something : ∀ row ∈ rows, row ≠ []
  single : ∀ row ∈ rows, '\n' ∉ row.dropLast
  ended : ∀ row ∈ rows.dropLast, row.getLast? = some '\n'

theorem well_cut_single {row : Text} (something : row ≠ []) (single : '\n' ∉ row.dropLast) : WellCut [row] := by
  refine ⟨?_, ?_, by simp⟩
  · intro other member
    rwa [List.mem_singleton.mp member]
  · intro other member
    rwa [List.mem_singleton.mp member]

theorem well_cut_cons {row next : Text} {below : List Text} :
    WellCut (row :: next :: below) ↔
      row ≠ [] ∧ '\n' ∉ row.dropLast ∧ row.getLast? = some '\n' ∧ WellCut (next :: below) := by
  constructor
  · intro cut
    obtain ⟨something, later⟩ := List.forall_mem_cons.mp cut.something
    obtain ⟨single, laterSingle⟩ := List.forall_mem_cons.mp cut.single
    have ends := cut.ended
    rw [List.dropLast_cons_cons] at ends
    obtain ⟨ended, laterEnded⟩ := List.forall_mem_cons.mp ends
    exact ⟨something, single, ended, ⟨later, laterSingle, laterEnded⟩⟩
  · rintro ⟨something, single, ended, cut⟩
    refine ⟨List.forall_mem_cons.mpr ⟨something, cut.something⟩,
      List.forall_mem_cons.mpr ⟨single, cut.single⟩, ?_⟩
    rw [List.dropLast_cons_cons]
    exact List.forall_mem_cons.mpr ⟨ended, cut.ended⟩

theorem well_cut_of_rows {rows : List Text} (cut : Rows rows) : WellCut rows := by
  induction cut with
  | nil => exact ⟨by simp, by simp, by simp⟩
  | last body something single =>
      exact well_cut_single something fun inside => single (List.dropLast_subset body inside)
  | line body below single _ ih =>
      have something : body ++ ['\n'] ≠ [] := by simp
      have alone : '\n' ∉ (body ++ ['\n']).dropLast := by rwa [List.dropLast_concat]
      cases below with
      | nil => exact well_cut_single something alone
      | cons next below => exact well_cut_cons.mpr ⟨something, alone, List.getLast?_concat, ih⟩

theorem row_of_well_cut {row : Text} (something : row ≠ []) (single : '\n' ∉ row.dropLast) : Rows [row] := by
  have whole := List.dropLast_concat_getLast something
  rw [← whole]
  by_cases newline : row.getLast something = '\n'
  · rw [newline]
    exact .line row.dropLast [] single .nil
  · refine .last _ (by simp) ?_
    rw [List.mem_append, List.mem_singleton, not_or]
    exact ⟨single, Ne.symm newline⟩

theorem rows_of_well_cut {rows : List Text} (cut : WellCut rows) : Rows rows := by
  induction rows with
  | nil => exact .nil
  | cons row below ih =>
      cases below with
      | nil => exact row_of_well_cut (cut.something row List.mem_cons_self) (cut.single row List.mem_cons_self)
      | cons next below =>
          obtain ⟨something, single, ended, rest⟩ := well_cut_cons.mp cut
          exact rows_below (row_of_well_cut something single) ended (ih rest)

theorem line_shape {t line before after : Text} (member : line ∈ lines t)
    (newline : line = before ++ '\n' :: after) : after = [] := by
  have single := (well_cut_of_rows (rows_lines t)).single line member
  cases after with
  | nil => rfl
  | cons c after =>
      rw [newline, List.dropLast_append_cons, List.dropLast_cons_cons] at single
      simp at single

theorem lines_eq_nil {t : Text} (nothing : lines t = []) : t = [] := by
  rw [← flatten_lines t, nothing]
  rfl

-- Where a text is cut before another that is not empty, it is whole lines: its own last line is not
-- the last one any more.
theorem complete_of_lines_append {above below : Text} (something : below ≠ [])
    (apart : lines (above ++ below) = lines above ++ lines below) : Complete above := by
  cases split : lines below with
  | nil => exact absurd (lines_eq_nil split) something
  | cons row rest =>
      have cut : Rows (lines above ++ row :: rest) := by
        rw [← split, ← apart]
        exact rows_lines (above ++ below)
      simpa only [flatten_lines] using complete_above cut

theorem lines_exact :
    (∀ (t : Text) (rows : List Text), lines t = rows ↔ rows.flatten = t ∧ WellCut rows) ∧
      ∀ above below : Text, lines (above ++ below) = lines above ++ lines below ↔
        above = [] ∨ above.getLast? = some '\n' ∨ below = [] := by
  constructor
  · intro t rows
    constructor
    · rintro rfl
      exact ⟨flatten_lines t, well_cut_of_rows (rows_lines t)⟩
    · rintro ⟨rfl, cut⟩
      exact lines_flatten (rows_of_well_cut cut)
  · intro above below
    rw [← or_assoc]
    constructor
    · intro apart
      by_cases nothing : below = []
      · exact Or.inr nothing
      · exact Or.inl (complete_ends (complete_of_lines_append nothing apart))
    · rintro (whole | rfl)
      · exact lines_append above below (complete_of_last whole)
      · simp [lines]

example : lines ['\n', 'a', '\n', '\n', 'b'] = [['\n'], ['a', '\n'], ['\n'], ['b']] := rfl

end PolicyLookup.Text
