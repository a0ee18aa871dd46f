import Mathlib.Data.List.Basic

set_option autoImplicit false

namespace PolicyLookup

section

variable {α : Type}

def slashed (separator : α) (pieces : List (List α)) : List α := pieces.flatMap (separator :: ·)

def joined (separator : α) (leading : Bool) (pieces : List (List α)) : List α :=
  if leading then slashed separator pieces else (slashed separator pieces).tail

variable {separator : α}

theorem slashed_cons (piece : List α) (more : List (List α)) :
    slashed separator (piece :: more) = separator :: (piece ++ slashed separator more) := rfl

theorem joined_cons (leading : Bool) (piece : List α) (more : List (List α)) :
    joined separator leading (piece :: more) =
      (if leading then [separator] else []) ++ (piece ++ slashed separator more) := by
  cases leading <;> rfl

theorem joined_lead (leading : Bool) {pieces : List (List α)} (something : pieces ≠ []) :
    joined separator leading pieces = (if leading then [separator] else []) ++ joined separator false pieces := by
  cases pieces with
  | nil => contradiction
  | cons piece pieces => cases leading <;> rfl

theorem slashed_append (pieces more : List (List α)) :
    slashed separator (pieces ++ more) = slashed separator pieces ++ slashed separator more :=
  List.flatMap_append

theorem joined_append {leading : Bool} {pieces : List (List α)} (start : leading = true ∨ pieces ≠ [])
    (more : List (List α)) :
    joined separator leading (pieces ++ more) = joined separator leading pieces ++ slashed separator more := by
  cases pieces with
  | cons piece pieces =>
      rw [List.cons_append, joined_cons, joined_cons, slashed_append]
      simp only [List.append_assoc]
  | nil =>
      rcases start with rfl | something
      · rfl
      · contradiction

theorem slashed_flat_map {β : Type} {other : β} {f : α → List β} (kept : f separator = [other])
    (pieces : List (List α)) :
    (slashed separator pieces).flatMap f = slashed other (pieces.map (List.flatMap f)) := by
  induction pieces with
  | nil => rfl
  | cons piece pieces ih =>
      rw [slashed_cons, List.flatMap_cons, kept, List.flatMap_append, ih, List.map_cons, slashed_cons]
      rfl

theorem joined_flat_map {β : Type} {other : β} {f : α → List β} (kept : f separator = [other])
    (leading : Bool) (pieces : List (List α)) :
    (joined separator leading pieces).flatMap f = joined other leading (pieces.map (List.flatMap f)) := by
  cases pieces with
  | nil => cases leading <;> rfl
  | cons piece pieces =>
      rw [joined_cons, List.map_cons, joined_cons, List.flatMap_append, List.flatMap_append,
        slashed_flat_map kept]
      cases leading with
      | false => rfl
      | true =>
          simp only [if_true, List.flatMap_singleton]
          rw [kept]

theorem joined_ends (leading : Bool) {pieces : List (List α)} (something : pieces ≠ [])
    (solid : ∀ p ∈ pieces.getLast?, p ≠ [] ∧ separator ∉ p) :
    ∃ before last, joined separator leading pieces = before ++ [last] ∧ last ≠ separator := by
  rcases List.eq_nil_or_concat pieces with rfl | ⟨start, piece, rfl⟩
  · contradiction
  · obtain ⟨inside, free⟩ := solid piece (by simp)
    rcases List.eq_nil_or_concat piece with rfl | ⟨front, last, rfl⟩
    · contradiction
    · have whole : slashed separator (start.concat (front.concat last)) =
          slashed separator start ++ separator :: front ++ [last] := by
        simp [slashed]
      have other : last ≠ separator := by
        rintro rfl
        exact free (by simp)
      rw [joined, whole]
      cases leading with
      | true => exact ⟨_, last, rfl, other⟩
      | false => exact ⟨_, last, List.tail_append_of_ne_nil (by simp), other⟩

theorem piece_head {piece : List α} (rest : List α) (something : piece ≠ []) (free : separator ∉ piece) :
    ∃ a more, piece ++ rest = a :: more ∧ a ≠ separator := by
  cases piece with
  | nil => contradiction
  | cons a piece =>
      rw [List.mem_cons, not_or] at free
      exact ⟨a, piece ++ rest, rfl, Ne.symm free.1⟩

theorem joined_head [BEq α] [LawfulBEq α] (leading : Bool) {pieces : List (List α)} (something : pieces ≠ [])
    (solid : leading = true ∨ ∀ p ∈ pieces.head?, p ≠ [] ∧ separator ∉ p) :
    ((joined separator leading pieces).head? == some separator) = leading := by
  cases pieces with
  | nil => contradiction
  | cons piece pieces =>
      rw [joined_cons]
      cases leading with
      | true => simp
      | false =>
          rcases solid with impossible | solid
          · contradiction
          · obtain ⟨inside, free⟩ := solid piece rfl
            obtain ⟨a, more, head, other⟩ := piece_head (slashed separator pieces) inside free
            rw [head]
            simpa using other

theorem joined_drop (leading : Bool) {pieces : List (List α)} (something : pieces ≠ []) :
    (if leading then (joined separator leading pieces).drop 1 else joined separator leading pieces) =
      joined separator false pieces := by
  cases pieces with
  | nil => contradiction
  | cons piece pieces => cases leading <;> rfl

theorem joined_false (pieces : List (List α)) :
    joined separator false pieces = [separator].intercalate pieces := by
  induction pieces with
  | nil => rfl
  | cons piece more ih =>
      cases more with
      | nil => simp [joined, slashed]
      | cons next more =>
          rw [List.intercalate_cons_cons, ← ih, joined_cons, joined_cons, slashed_cons]
          simp

variable [BEq α] [LawfulBEq α]

theorem split_joined (leading : Bool) {pieces : List (List α)} (something : pieces ≠ [])
    (free : ∀ p ∈ pieces, separator ∉ p) :
    (joined separator leading pieces).splitOn separator = (if leading then [[]] else []) ++ pieces := by
  have cut : (joined separator false pieces).splitOn separator = pieces := by
    rw [joined_false, List.splitOn_intercalate separator free something]
  cases leading with
  | false => exact cut
  | true =>
      rw [joined_lead true something]
      change ([] ++ separator :: joined separator false pieces).splitOn separator = _
      rw [List.splitOn_append_cons_self_of_not_mem List.not_mem_nil, cut]
      rfl

variable (separator) in
theorem joined_split (t : List α) : joined separator false (t.splitOn separator) = t := by
  rw [joined_false, List.intercalate_splitOn]

theorem split_free (t : List α) : ∀ p ∈ t.splitOn separator, separator ∉ p := by
  induction t with
  | nil => simp
  | cons a t ih =>
      rw [List.splitOn_cons_eq_if_modifyHead]
      split
      · exact List.forall_mem_cons.mpr ⟨List.not_mem_nil, ih⟩
      · next other =>
          obtain ⟨piece, more, cut⟩ := List.exists_cons_of_ne_nil (List.splitOn_ne_nil separator t)
          rw [cut, List.forall_mem_cons] at ih
          rw [cut, List.modifyHead_cons, List.forall_mem_cons, List.mem_cons, not_or]
          exact ⟨⟨fun same => other (by simp [same]), ih.1⟩, ih.2⟩

theorem split_first {t : List α} (something : t ≠ []) (head : ∀ a ∈ t.head?, a ≠ separator) :
    ∀ p ∈ (t.splitOn separator).head?, p ≠ [] := by
  cases t with
  | nil => contradiction
  | cons a t =>
      obtain ⟨piece, more, cut⟩ := List.exists_cons_of_ne_nil (List.splitOn_ne_nil separator t)
      have other : ¬(a == separator) = true := by simpa using head a rfl
      rw [List.splitOn_cons_eq_if_modifyHead, if_neg other, cut]
      rintro p first
      rw [← Option.some.inj first]
      exact List.cons_ne_nil a piece

theorem split_last {t : List α} (something : t ≠ []) (last : ∀ a ∈ t.getLast?, a ≠ separator) :
    ∀ p ∈ (t.splitOn separator).getLast?, p ≠ [] := by
  rintro p final rfl
  obtain ⟨start, cut⟩ := List.getLast?_eq_some_iff.mp final
  have whole := joined_split separator t
  rw [cut] at whole
  cases start with
  | nil => exact something whole.symm
  | cons piece start =>
      rw [joined_append (Or.inr (List.cons_ne_nil piece start))] at whole
      have ends : t.getLast? = some separator := by
        rw [← whole]
        exact List.getLast?_concat
      exact last separator ends rfl

end

end PolicyLookup
