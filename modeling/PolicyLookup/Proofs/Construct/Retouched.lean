import PolicyLookup.Proofs.Construct.Extraction
import PolicyLookup.Proofs.Text.Rows

set_option autoImplicit false

namespace PolicyLookup

structure Retouched (line other : Text) : Prop where
  core : Text.trim other = Text.trim line
  closes : Closes other ↔ Closes line
  row : Text.Rows [other]
  ends : line.getLast? = some '\n' → other.getLast? = some '\n'

def Spacing (t : Text) : Prop := Text.Blank t ∧ '\n' ∉ t

inductive Reended : Text → Text → Prop
  | kept (line : Text) : Reended line line
  | returned (body : Text) (single : '\n' ∉ body) : Reended (body ++ ['\n']) (body ++ ['\r', '\n'])
  | ended (body e : Text) (single : '\n' ∉ body) (something : e = ['\n'] ∨ e = ['\r', '\n']) :
      Reended body (body ++ e)

inductive Spaced : Text → Text → Prop
  | kept (line : Text) : Spaced line line
  | around (left body right e : Text) (spacingLeft : Spacing left) (spacingRight : Spacing right)
      (single : '\n' ∉ body) (ending : Text.Ending e) (unclosed : ¬ Closes (body ++ e)) :
      Spaced (body ++ e) (left ++ body ++ right ++ e)

theorem closes_iff {line : Text} : Closes line ↔ ∃ e, Text.Ending e ∧ line = "')".toList ++ e := by
  constructor
  · rintro (rfl | rfl | rfl)
    · exact ⟨[], Or.inl rfl, rfl⟩
    · exact ⟨['\n'], Or.inr (Or.inl rfl), rfl⟩
    · exact ⟨['\r', '\n'], Or.inr (Or.inr rfl), rfl⟩
  · rintro ⟨e, rfl | rfl | rfl, rfl⟩
    · exact Or.inl rfl
    · exact Or.inr (Or.inl rfl)
    · exact Or.inr (Or.inr rfl)

theorem ending_blank {e : Text} (ending : Text.Ending e) : Text.Blank e := by
  rcases ending with rfl | rfl | rfl
  · exact List.forall_mem_nil _
  · exact List.forall_mem_singleton.mpr rfl
  · exact List.forall_mem_cons.mpr ⟨rfl, List.forall_mem_singleton.mpr rfl⟩

theorem blank_append {left right : Text} (blankLeft : Text.Blank left) (blankRight : Text.Blank right) :
    Text.Blank (left ++ right) :=
  List.forall_mem_append.mpr ⟨blankLeft, blankRight⟩

-- Of a line that closes a block, what stands before the blanks at its end is known but for a return
-- that belongs to the end.
theorem closing_body {body right e : Text} (spacing : Spacing right) (single : '\n' ∉ body)
    (ending : Text.Ending e) (closes : Closes (body ++ right ++ e)) :
    body = "')".toList ∨ body = "')\r".toList ∧ e = ['\n'] := by
  obtain ⟨f, endsToo, whole⟩ := closes_iff.mp closes
  rw [List.append_assoc] at whole
  rcases List.append_eq_append_iff.mp whole with ⟨rest, split, later⟩ | ⟨rest, rfl, later⟩
  · rcases List.eq_nil_or_concat rest with rfl | ⟨init, c, rfl⟩
    · exact Or.inl (by simpa using split.symm)
    · have last : ')' = c := by
        have ends := congrArg List.getLast? split
        simpa [← List.append_assoc] using ends
      have blank := blank_append spacing.1 (ending_blank ending) c (by simp [later])
      rw [← last] at blank
      contradiction
  · rw [List.mem_append, not_or] at single
    have inner : '\n' ∉ rest ++ right := by
      rw [List.mem_append, not_or]
      exact ⟨single.2, spacing.2⟩
    rw [← List.append_assoc] at later
    rcases Text.ending_beside inner ending endsToo later.symm with nothing | ⟨returned, rfl⟩
    · obtain ⟨rfl, _⟩ := List.append_eq_nil_iff.mp nothing
      exact Or.inl (List.append_nil _)
    · rcases List.append_eq_singleton_iff.mp returned with ⟨rfl, _⟩ | ⟨rfl, _⟩
      · exact Or.inl (List.append_nil _)
      · exact Or.inr ⟨rfl, rfl⟩

theorem closes_bare {body e : Text} (ending : Text.Ending e) (single : '\n' ∉ body) (bare : '\r' ∉ body) :
    Closes (body ++ e) ↔ body = "')".toList := by
  constructor
  · intro closes
    have spacing : Spacing [] := ⟨List.forall_mem_nil _, List.not_mem_nil⟩
    rw [← List.append_nil body] at closes
    rcases closing_body spacing single ending closes with same | ⟨rfl, _⟩
    · exact same
    · exact absurd bare (by decide)
  · rintro rfl
    exact closes_iff.mpr ⟨e, ending, rfl⟩

theorem closes_spaced {left body right e : Text} (spacingLeft : Spacing left) (spacingRight : Spacing right)
    (single : '\n' ∉ body) (ending : Text.Ending e) (closes : Closes (left ++ body ++ right ++ e)) :
    Closes (body ++ e) := by
  cases left with
  | nil =>
      rcases closing_body spacingRight single ending closes with rfl | ⟨rfl, rfl⟩
      · exact closes_iff.mpr ⟨e, ending, rfl⟩
      · exact closes_iff.mpr ⟨['\r', '\n'], Or.inr (Or.inr rfl), rfl⟩
  | cons c left =>
      have blank : Text.isBlank c = true := spacingLeft.1 c List.mem_cons_self
      obtain ⟨f, _, whole⟩ := closes_iff.mp closes
      obtain ⟨rfl, _⟩ := List.cons.inj whole
      contradiction

theorem Retouched.refl {line : Text} (row : Text.Rows [line]) : Retouched line line := ⟨rfl, Iff.rfl, row, id⟩

theorem retouched_around {left body right e f : Text} (spacingLeft : Spacing left) (spacingRight : Spacing right)
    (single : '\n' ∉ body) (ending : Text.Ending e) (endsToo : Text.Ending f) (something : body ++ e ≠ [])
    (kept : e ≠ [] → f ≠ []) (closes : Closes (left ++ body ++ right ++ f) ↔ Closes (body ++ e)) :
    Retouched (body ++ e) (left ++ body ++ right ++ f) where
  core := by
    have trimmed := Text.trim_between (List.forall_mem_nil _) (ending_blank ending) body
    rw [List.append_assoc, Text.trim_between spacingLeft.1 (blank_append spacingRight.1 (ending_blank endsToo))]
    exact trimmed.symm
  closes := closes
  row := by
    have inner : '\n' ∉ left ++ body ++ right := by
      simp only [List.mem_append, not_or]
      exact ⟨⟨spacingLeft.2, single⟩, spacingRight.2⟩
    refine Text.row_of_ending inner endsToo ?_
    intro nothing
    simp only [List.append_eq_nil_iff] at nothing
    obtain ⟨⟨⟨_, rfl⟩, _⟩, none⟩ := nothing
    exact kept something none
  ends := by
    intro last
    have ended : e ≠ [] := by
      rintro rfl
      rw [List.append_nil] at last
      exact single (List.mem_of_getLast? last)
    rw [List.getLast?_append, Text.ending_last endsToo (kept ended)]
    rfl

theorem retouched_of_reended {line other : Text} (row : Text.Rows [line]) (bare : '\r' ∉ line)
    (reended : Reended line other) : Retouched line other := by
  have spacing : Spacing [] := ⟨List.forall_mem_nil _, List.not_mem_nil⟩
  have between {body e f : Text} (single : '\n' ∉ body) (free : '\r' ∉ body) (ending : Text.Ending e)
      (endsToo : Text.Ending f) (something : body ++ e ≠ []) (kept : e ≠ [] → f ≠ []) :
      Retouched (body ++ e) (body ++ f) := by
    have closes : Closes ([] ++ body ++ [] ++ f) ↔ Closes (body ++ e) := by
      rw [List.nil_append, List.append_nil, closes_bare endsToo single free, closes_bare ending single free]
    simpa using retouched_around spacing spacing single ending endsToo something kept closes
  cases reended with
  | kept => exact .refl row
  | returned body single =>
      have free : '\r' ∉ body := fun inside => bare (List.mem_append_left _ inside)
      exact between single free (Or.inr (Or.inl rfl)) (Or.inr (Or.inr rfl)) (by simp) (by simp)
  | ended _ e single something =>
      have held : line ++ [] ≠ [] := by simpa using Text.row_ne_nil row
      have ended := between single bare (Or.inl rfl) (Or.inr something) held (fun none => absurd rfl none)
      rwa [List.append_nil] at ended

theorem retouched_of_spaced {line other : Text} (row : Text.Rows [line]) (spaced : Spaced line other) :
    Retouched line other := by
  cases spaced with
  | kept => exact .refl row
  | around left body right e spacingLeft spacingRight single ending unclosed =>
      have closes : Closes (left ++ body ++ right ++ e) ↔ Closes (body ++ e) :=
        iff_of_false (fun here => unclosed (closes_spaced spacingLeft spacingRight single ending here)) unclosed
      exact retouched_around spacingLeft spacingRight single ending ending (Text.row_ne_nil row) id closes

end PolicyLookup
