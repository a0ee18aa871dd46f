import PolicyLookup.Text.Lines

set_option autoImplicit false

namespace PolicyLookup.Text

inductive Complete : Text → Prop
  | nil : Complete []
  | line (body below : Text) (single : '\n' ∉ body) (complete : Complete below) :
      Complete (body ++ '\n' :: below)

theorem lines_cons_cons {c : Char} {t line : Text} {more : List Text} (other : c ≠ '\n')
    (split : lines t = line :: more) : lines (c :: t) = (c :: line) :: more := by
  rw [lines_cons c t other, split]

theorem lines_line (body below : Text) (single : '\n' ∉ body) :
    lines (body ++ '\n' :: below) = (body ++ ['\n']) :: lines below := by
  induction body with
  | nil => rfl
  | cons c body ih =>
      rw [List.mem_cons, not_or] at single
      rw [List.cons_append, lines_cons_cons (Ne.symm single.1) (ih single.2)]
      rfl

theorem lines_last (body : Text) (something : body ≠ []) (single : '\n' ∉ body) :
    lines body = [body] := by
  induction body with
  | nil => contradiction
  | cons c body ih =>
      rw [List.mem_cons, not_or] at single
      cases body with
      | nil =>
          rw [lines_cons c [] (Ne.symm single.1)]
          rfl
      | cons d body => exact lines_cons_cons (Ne.symm single.1) (ih (List.cons_ne_nil d body) single.2)

theorem lines_append (t u : Text) (complete : Complete t) : lines (t ++ u) = lines t ++ lines u := by
  induction complete with
  | nil => rfl
  | line body below single _ ih =>
      rw [List.append_assoc, List.cons_append, lines_line _ _ single, lines_line _ _ single, ih,
        List.cons_append]

theorem length_lines (t : Text) (complete : Complete t) : (lines t).length = t.count '\n' := by
  induction complete with
  | nil => rfl
  | line body below single _ ih =>
      rw [lines_line _ _ single, List.length_cons, ih, List.count_append, List.count_cons_self,
        List.count_eq_zero_of_not_mem single, Nat.zero_add]

theorem complete_cons (c : Char) {t : Text} (complete : Complete t) (ends : t = [] → c = '\n') :
    Complete (c :: t) := by
  by_cases newline : c = '\n'
  · subst newline
    exact .line [] t (by simp) complete
  · cases complete with
    | nil => exact absurd (ends rfl) newline
    | line body below single complete =>
        refine .line (c :: body) below ?_ complete
        rw [List.mem_cons, not_or]
        exact ⟨Ne.symm newline, single⟩

theorem cut_above (t : Text) : ∃ above start, t = above ++ start ∧ Complete above ∧ '\n' ∉ start := by
  induction t with
  | nil => exact ⟨[], [], rfl, .nil, by simp⟩
  | cons c t ih =>
      obtain ⟨above, start, rfl, complete, single⟩ := ih
      by_cases joins : above = [] ∧ c ≠ '\n'
      · obtain ⟨rfl, other⟩ := joins
        refine ⟨[], c :: start, rfl, .nil, ?_⟩
        rw [List.mem_cons, not_or]
        exact ⟨Ne.symm other, single⟩
      · have ends (none : above = []) : c = '\n' :=
          Decidable.byContradiction fun other => joins ⟨none, other⟩
        exact ⟨c :: above, start, rfl, complete_cons c complete ends, single⟩

theorem cut_below (t : Text) : ∃ body below, '\n' ∉ body ∧ (t = body ∧ below = [] ∨ t = body ++ '\n' :: below) := by
  induction t with
  | nil => exact ⟨[], [], by simp, Or.inl ⟨rfl, rfl⟩⟩
  | cons c t ih =>
      by_cases newline : c = '\n'
      · subst newline
        exact ⟨[], t, by simp, Or.inr rfl⟩
      · obtain ⟨body, below, single, shape⟩ := ih
        have longer : '\n' ∉ c :: body := by
          rw [List.mem_cons, not_or]
          exact ⟨Ne.symm newline, single⟩
        rcases shape with ⟨rfl, rfl⟩ | rfl
        · exact ⟨c :: t, [], longer, Or.inl ⟨rfl, rfl⟩⟩
        · exact ⟨c :: body, below, longer, Or.inr rfl⟩

theorem line_of_piece {t before piece after : Text} (whole : t = before ++ piece ++ after)
    (something : piece ≠ []) (single : '\n' ∉ piece) :
    ∃ above start rest below, Complete above ∧ before = above ++ start ∧ after = rest ++ below ∧
      lines t = lines above ++ (start ++ piece ++ rest) :: lines below ∧
      (lines above).length = before.count '\n' := by
  obtain ⟨above, start, rfl, complete, startSingle⟩ := cut_above before
  obtain ⟨body, below, bodySingle, shape⟩ := cut_below after
  have joined : '\n' ∉ start ++ piece ++ body := by simp [startSingle, single, bodySingle]
  have rows : (lines above).length = (above ++ start).count '\n' := by
    rw [length_lines above complete, List.count_append, List.count_eq_zero_of_not_mem startSingle, Nat.add_zero]
  have split : t = above ++ (start ++ piece ++ after) := by
    rw [whole, List.append_assoc, List.append_assoc, List.append_assoc]
  rcases shape with ⟨rfl, rfl⟩ | rfl
  · refine ⟨above, start, after, [], complete, rfl, by simp, ?_, rows⟩
    rw [split, lines_append _ _ complete, lines_last _ (by simp [something]) joined]
    rfl
  · refine ⟨above, start, body ++ ['\n'], below, complete, rfl, by simp, ?_, rows⟩
    have line : start ++ piece ++ (body ++ '\n' :: below) = (start ++ piece ++ body) ++ '\n' :: below := by
      simp
    rw [split, lines_append _ _ complete, line, lines_line _ below joined]
    simp

theorem line_inside {t line : Text} (member : line ∈ lines t) : line <:+: t := by
  obtain ⟨above, below, split⟩ := List.append_of_mem member
  refine ⟨above.flatten, below.flatten, ?_⟩
  rw [← flatten_lines t, split]
  simp

theorem beside_separator {before piece after x y : Text} {c : Char}
    (whole : before ++ piece ++ after = x ++ c :: y) (free : c ∉ piece) :
    before ++ piece <+: x ∨ ∃ inner, before = x ++ c :: inner ∧ inner ++ piece <+: y := by
  rcases List.append_eq_append_iff.mp whole with ⟨rest, rfl, _⟩ | ⟨spill, start, later⟩
  · exact Or.inl ⟨rest, rfl⟩
  cases spill with
  | nil => exact Or.inl ⟨[], by simpa using start⟩
  | cons d spill =>
      obtain ⟨rfl, rfl⟩ := List.cons.inj later
      rcases List.append_eq_append_iff.mp start with ⟨rest, _, inside⟩ | ⟨rest, rfl, beyond⟩
      · have member : c ∈ piece := by
          rw [inside]
          simp
        exact absurd member free
      · cases rest with
        | nil =>
            have member : c ∈ piece := by
              rw [List.nil_append] at beyond
              rw [← beyond]
              exact List.mem_cons_self
            exact absurd member free
        | cons e rest =>
            obtain ⟨rfl, rfl⟩ := List.cons.inj beyond
            exact Or.inr ⟨rest, rfl, ⟨after, rfl⟩⟩

theorem infix_beside {piece x y : Text} {c : Char} (there : piece <:+: x ++ c :: y) (free : c ∉ piece) :
    piece <:+: x ∨ piece <:+: y := by
  obtain ⟨before, after, whole⟩ := there
  rcases beside_separator whole free with ⟨rest, left⟩ | ⟨inner, _, rest, right⟩
  · exact Or.inl ⟨before, rest, left⟩
  · exact Or.inr ⟨inner, rest, right⟩

theorem before_separator {x y z w : Text} {c : Char} (same : x ++ c :: y = z ++ c :: w) (left : c ∉ x)
    (right : c ∉ z) : x = z := by
  induction x generalizing z with
  | nil =>
      cases z with
      | nil => rfl
      | cons d z =>
          obtain ⟨rfl, _⟩ := List.cons.inj same
          simp at right
  | cons d x ih =>
      cases z with
      | nil =>
          obtain ⟨rfl, _⟩ := List.cons.inj same
          simp at left
      | cons e z =>
          obtain ⟨rfl, rest⟩ := List.cons.inj same
          rw [List.mem_cons, not_or] at left right
          rw [ih rest left.2 right.2]

def layRows (rows : List Text) : Text := rows.flatMap (· ++ ['\n'])

theorem lines_lay_rows {rows : List Text} (single : ∀ row ∈ rows, '\n' ∉ row) :
    lines (layRows rows) = rows.map (· ++ ['\n']) := by
  induction rows with
  | nil => rfl
  | cons row rows ih =>
      have split : layRows (row :: rows) = row ++ '\n' :: layRows rows := by
        simp [layRows]
      rw [split, lines_line _ _ (single row List.mem_cons_self),
        ih fun other member => single other (List.mem_cons_of_mem row member)]
      rfl

end PolicyLookup.Text
