import Mathlib.Data.List.TakeWhile
import PolicyLookup.Text.Blank

set_option autoImplicit false

namespace PolicyLookup.Text

def Blank (t : Text) : Prop := ∀ c ∈ t, isBlank c = true

def Solid (t : Text) : Prop :=
  (∃ first rest, t = first :: rest ∧ isBlank first = false) ∧
    ∃ before last, t = before ++ [last] ∧ isBlank last = false

theorem blank_take_while (t : Text) : Blank (t.takeWhile isBlank) := by
  intro c member
  exact List.mem_takeWhile_imp member

theorem trim_end_split (t : Text) :
    ∃ right, t = trimEnd t ++ right ∧ Blank right := by
  refine ⟨(t.reverse.takeWhile isBlank).reverse, ?_, ?_⟩
  · rw [trimEnd, ← List.reverse_append, List.takeWhile_append_dropWhile, List.reverse_reverse]
  · intro c member
    exact blank_take_while t.reverse c (List.mem_reverse.mp member)

theorem trim_split (t : Text) :
    ∃ left right, t = left ++ trim t ++ right ∧ Blank left ∧ Blank right := by
  obtain ⟨right, rest, blank⟩ := trim_end_split (t.dropWhile isBlank)
  refine ⟨t.takeWhile isBlank, right, ?_, blank_take_while t, blank⟩
  rw [List.append_assoc, trim, ← rest, List.takeWhile_append_dropWhile]

theorem trim_last (t : Text) : (trim t).getLast? = (t.reverse.dropWhile isBlank).head? := by
  have whole : t.reverse = (t.dropWhile isBlank).reverse ++ (t.takeWhile isBlank).reverse := by
    rw [← List.reverse_append, List.takeWhile_append_dropWhile]
  have gone : (t.takeWhile isBlank).reverse.dropWhile isBlank = [] := by
    rw [List.dropWhile_eq_nil_iff]
    intro c member
    exact blank_take_while t c (List.mem_reverse.mp member)
  rw [trim, trimEnd, List.getLast?_reverse, whole, List.dropWhile_append, gone]
  cases (t.dropWhile isBlank).reverse.dropWhile isBlank <;> rfl

theorem trim_last_solid {t : Text} {c : Char} (last : (trim t).getLast? = some c) : isBlank c = false := by
  rw [trim_last] at last
  have kept := List.head?_dropWhile_not isBlank t.reverse
  rw [last] at kept
  exact kept

theorem trim_kept {t : Text} (first : ∀ c ∈ t.head?, isBlank c = false) (last : ∀ c ∈ t.getLast?, isBlank c = false) :
    trim t = t := by
  have start : t.dropWhile isBlank = t := by
    cases t with
    | nil => rfl
    | cons c t =>
        have solid : isBlank c = false := first c rfl
        simp [solid]
  rw [trim, start, trimEnd]
  cases reversed : t.reverse with
  | nil => simpa using reversed.symm
  | cons c rest =>
      have ends : t.getLast? = some c := by
        rw [← List.head?_reverse, reversed]
        rfl
      have solid : isBlank c = false := last c ends
      rw [List.dropWhile_cons_of_neg (by simp [solid]), ← reversed, List.reverse_reverse]

theorem drop_blank {left : Text} (blank : Blank left) (t : Text) :
    (left ++ t).dropWhile isBlank = t.dropWhile isBlank :=
  List.dropWhile_append_of_pos blank

theorem trim_end_blank {right : Text} (blank : Blank right) (t : Text) : trimEnd (t ++ right) = trimEnd t := by
  have reversed : Blank right.reverse := fun c member => blank c (List.mem_reverse.mp member)
  rw [trimEnd, List.reverse_append, drop_blank reversed, trimEnd]

theorem trim_between {left right : Text} (blankLeft : Blank left) (blankRight : Blank right) (t : Text) :
    trim (left ++ t ++ right) = trim t := by
  rw [List.append_assoc, trim, drop_blank blankLeft, trim, List.dropWhile_append]
  split
  · rename_i nothing
    have gone : right.dropWhile isBlank = [] := List.dropWhile_eq_nil_iff.mpr blankRight
    rw [gone, List.isEmpty_iff.mp nothing]
  · exact trim_end_blank blankRight _

theorem length_trim (t : Text) : (trim t).length ≤ (t.dropWhile isBlank).length := by
  rw [trim, trimEnd, List.length_reverse]
  exact Nat.le_trans (List.dropWhile_sublist _).length_le (Nat.le_of_eq List.length_reverse)

theorem solid_left {left rest before piece after : Text} (blank : Blank left) (solid : Solid piece)
    (whole : left ++ rest = before ++ (piece ++ after)) :
    ∃ inner, before = left ++ inner ∧ rest = inner ++ (piece ++ after) := by
  rcases List.append_eq_append_iff.mp whole with ⟨inner, start, later⟩ | ⟨overlap, start, later⟩
  · exact ⟨inner, start, later⟩
  · obtain ⟨⟨first, more, rfl, solidFirst⟩, _⟩ := solid
    cases overlap with
    | nil => exact ⟨[], by simpa using start.symm, by simpa using later.symm⟩
    | cons c overlap =>
        obtain ⟨rfl, _⟩ := List.cons.inj later
        have blankFirst := blank first (by simp [start])
        simp [solidFirst] at blankFirst

theorem solid_right {core right before piece after : Text} (blank : Blank right) (solid : Solid piece)
    (whole : core ++ right = before ++ piece ++ after) :
    ∃ inner, after = inner ++ right ∧ core = before ++ piece ++ inner := by
  rcases List.append_eq_append_iff.mp whole with ⟨overlap, start, later⟩ | ⟨inner, start, later⟩
  · obtain ⟨_, more, last, rfl, solidLast⟩ := solid
    rcases List.eq_nil_or_concat overlap with rfl | ⟨overlap, c, rfl⟩
    · exact ⟨[], by simpa using later.symm, by simpa using start.symm⟩
    · have same : last = c := by
        have ends := congrArg List.getLast? start
        simpa [← List.append_assoc] using ends
      have blankLast := blank c (by simp [later])
      simp [← same, solidLast] at blankLast
  · exact ⟨inner, later, start⟩

theorem trim_occurrence (t : Text) :
    ∃ left right, t = left ++ trim t ++ right ∧
      ∀ before piece after : Text, Solid piece → t = before ++ piece ++ after →
        ∃ inner outer, before = left ++ inner ∧ after = outer ++ right ∧
          trim t = inner ++ piece ++ outer := by
  obtain ⟨left, right, whole, blankLeft, blankRight⟩ := trim_split t
  refine ⟨left, right, whole, ?_⟩
  intro before piece after solid there
  have joined : left ++ (trim t ++ right) = before ++ (piece ++ after) := by
    rw [← List.append_assoc, ← whole, ← List.append_assoc]
    exact there
  obtain ⟨inner, start, rest⟩ := solid_left blankLeft solid joined
  obtain ⟨outer, later, core⟩ := solid_right blankRight solid (rest.trans (List.append_assoc ..).symm)
  exact ⟨inner, outer, start, later, core⟩

end PolicyLookup.Text
