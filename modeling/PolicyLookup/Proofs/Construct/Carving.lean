import PolicyLookup.Proofs.Construct.Extraction
import PolicyLookup.Proofs.Text.Rows

set_option autoImplicit false

namespace PolicyLookup

-- The lines of a construct: a header that leaves nothing open, or all lines down to the first that
-- closes what the header leaves open.
inductive Carved : Shape → List Text → Prop
  | singleLine (header : Text) (shut : ¬ LeavesOpen header) : Carved .singleLine [header]
  | block (header : Text) (body : List Text) (last : Text) (left : LeavesOpen header)
      (unclosed : ∀ line ∈ header :: body, ¬ Closes line) (closes : Closes last) :
      Carved .block (header :: body ++ [last])

theorem closed_not_open {line : Text} (closes : Closes line) : ¬ LeavesOpen line := by
  rw [← Construct.opens_block_iff]
  rcases closes with rfl | rfl | rfl <;> decide

theorem Carved.header {shape : Shape} {run : List Text} (carved : Carved shape run) :
    ∃ header more, run = header :: more := by
  cases carved with
  | singleLine header _ => exact ⟨header, [], rfl⟩
  | block header body last _ _ _ => exact ⟨header, body ++ [last], rfl⟩

theorem parted {lines : List Text} {j : Nat} {line : Text} (there : lines[j]? = some line) :
    ∃ upper lower, lines = upper ++ line :: lower ∧ upper.length = j := by
  obtain ⟨within, rfl⟩ := List.getElem?_eq_some_iff.mp there
  refine ⟨lines.take j, lines.drop (j + 1), ?_, List.length_take_of_le within.le⟩
  rw [List.getElem_cons_drop, List.take_append_drop]

theorem take_through (above : List Text) (last : Text) (below : List Text) :
    (above ++ last :: below).take (above.length + 1) = above ++ [last] := by
  rw [List.take_length_add_append]
  rfl

theorem block_run (upper : List Text) (header : Text) (body : List Text) (last : Text) (lower : List Text) :
    ((upper ++ header :: body ++ last :: lower).take ((upper ++ header :: body).length + 1)).drop upper.length =
      header :: body ++ [last] := by
  rw [take_through, List.append_assoc, List.drop_left]

theorem first_closing_of_block {upper : List Text} {header : Text} {body : List Text} {last : Text} {lower : List Text}
    (unclosed : ∀ line ∈ header :: body, ¬ Closes line) (closes : Closes last) :
    FirstClosing (upper ++ header :: body ++ last :: lower) upper.length (upper ++ header :: body).length := by
  refine ⟨by simp, ⟨last, by simp, closes⟩, ?_⟩
  intro i line below earlier present
  rw [List.getElem?_append_left earlier, List.getElem?_append_right below] at present
  exact unclosed line (List.mem_of_getElem? present)

theorem carved_of_extracted {place : Location} {lines : List Text} {c : Construct}
    (extracted : Extracted place lines (.ok c)) :
    ∃ upper run lower, lines = upper ++ run ++ lower ∧ upper.length = place.line ∧ Carved c.shape run ∧
      c = ⟨place, c.shape, run.flatten⟩ := by
  cases extracted with
  | singleLine header there shut =>
      obtain ⟨upper, lower, rfl, above⟩ := parted there
      exact ⟨upper, [header], lower, by simp, above, .singleLine header shut, by simp⟩
  | block header last there left closing =>
      obtain ⟨below, ⟨line, closed, closes⟩, before⟩ := closing
      rcases Nat.eq_or_lt_of_le below with same | later
      · rw [same, closed] at there
        obtain rfl := Option.some.inj there
        exact absurd left (closed_not_open closes)
      · obtain ⟨front, lower, rfl, length⟩ := parted closed
        rw [List.getElem?_append_left (length ▸ later)] at there
        obtain ⟨upper, body, rfl, above⟩ := parted there
        have unclosed : ∀ other ∈ header :: body, ¬ Closes other := by
          intro other member
          obtain ⟨i, present⟩ := List.mem_iff_getElem?.mp member
          obtain ⟨short, _⟩ := List.getElem?_eq_some_iff.mp present
          rw [List.length_append] at length
          refine before (upper.length + i) other (by omega) (by omega) ?_
          rw [List.append_assoc, List.getElem?_append_right (Nat.le_add_right _ _), Nat.add_sub_cancel_left,
            List.getElem?_append_left short, present]
        rw [← length, ← above, block_run]
        have carved : Carved .block (header :: body ++ [line]) := .block header body line left unclosed closes
        exact ⟨upper, header :: body ++ [line], lower, by simp, rfl, carved, rfl⟩

theorem extracted_of_carved {place : Location} {shape : Shape} {upper run : List Text} (carved : Carved shape run)
    (here : upper.length = place.line) (lower : List Text) :
    Extracted place (upper ++ run ++ lower) (.ok ⟨place, shape, run.flatten⟩) := by
  cases carved with
  | singleLine header shut =>
      have there : (upper ++ [header] ++ lower)[place.line]? = some header := by simp [← here]
      simpa using Extracted.singleLine header there shut
  | block header body last left unclosed closes =>
      have whole : upper ++ (header :: body ++ [last]) ++ lower = upper ++ header :: body ++ last :: lower := by simp
      have there : (upper ++ header :: body ++ last :: lower)[place.line]? = some header := by simp [← here]
      have closing := @first_closing_of_block upper header body last lower unclosed closes
      rw [here] at closing
      have taken := Extracted.block header _ there left closing
      rw [← here, block_run] at taken
      rw [whole]
      exact taken

namespace Construct

theorem of_lines_carved {place : Location} {shape : Shape} {upper run : List Text} (carved : Carved shape run)
    (here : upper.length = place.line) (lower : List Text) :
    ofLines place (upper ++ run ++ lower) = .ok ⟨place, shape, run.flatten⟩ :=
  extracted_unique (extracted_of_lines place _) (extracted_of_carved carved here lower)

theorem lines_taken {place : Location} {lines : List Text} {c : Construct} (cut : Text.Rows lines)
    (extracted : Extracted place lines (.ok c)) :
    ∃ upper lower, lines = upper ++ Text.lines c.text ++ lower ∧ upper.length = place.line ∧
      Carved c.shape (Text.lines c.text) ∧ c.location = place := by
  obtain ⟨upper, run, lower, rfl, above, carved, same⟩ := carved_of_extracted extracted
  have text : Text.lines c.text = run := by
    rw [same]
    exact Text.lines_flatten (Text.rows_append (Text.rows_append cut).1).2
  rw [text]
  exact ⟨upper, lower, rfl, above, carved, by rw [same]⟩

end Construct

end PolicyLookup
