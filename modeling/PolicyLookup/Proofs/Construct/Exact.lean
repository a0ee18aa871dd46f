import PolicyLookup.Proofs.Construct.Carving
import PolicyLookup.Proofs.Source.Stable

set_option autoImplicit false

namespace PolicyLookup

structure Construct.StandsIn (c : Construct) (place : Location) (text : Text) : Prop where
  location : c.location = place
  whole : ∃ above below, text = above ++ c.text ++ below ∧ above.count '\n' = place.line ∧
    (above = [] ∨ above.getLast? = some '\n')
  header : (Text.lines text)[place.line]? = some c.header
  single : c.shape = .singleLine → c.lineCount = 1
  block : c.shape = .block → ∃ last, FirstClosing (Text.lines text) place.line last ∧
    c.lineCount = last - place.line + 1 ∧ 2 ≤ c.lineCount ∧
    ∀ i line, (Text.lines c.text)[i]? = some line → (Closes line ↔ i + 1 = c.lineCount)

theorem closes_iff_last {header : Text} {body : List Text} {last : Text}
    (unclosed : ∀ line ∈ header :: body, ¬ Closes line) (closes : Closes last) {i : Nat} {line : Text}
    (there : (header :: body ++ [last])[i]? = some line) :
    Closes line ↔ i + 1 = (header :: body ++ [last]).length := by
  rw [List.length_append, List.length_singleton, Nat.add_right_cancel_iff]
  obtain ⟨within, _⟩ := List.getElem?_eq_some_iff.mp there
  rw [List.length_append, List.length_singleton] at within
  by_cases earlier : i < (header :: body).length
  · rw [List.getElem?_append_left earlier] at there
    have stillOpen := unclosed line (List.mem_of_getElem? there)
    exact ⟨fun closed => absurd closed stillOpen, fun same => absurd earlier (by omega)⟩
  · obtain rfl : i = (header :: body).length := by omega
    rw [List.getElem?_concat_length] at there
    obtain rfl := Option.some.inj there
    exact ⟨fun _ => rfl, fun _ => closes⟩

namespace Construct

theorem stands_in {place : Location} {text : Text} {c : Construct}
    (extracted : Extracted place (Text.lines text) (.ok c)) : c.StandsIn place text := by
  have cut := Text.rows_lines text
  obtain ⟨upper, lower, split, above, carved, location⟩ := lines_taken cut extracted
  obtain ⟨header, more, run⟩ := carved.header
  have first : c.header = header := by rw [Construct.header, run, List.headD_cons]
  have rows : Text.Rows (upper ++ header :: (more ++ lower)) := by
    rw [split, run, List.append_assoc] at cut
    exact cut
  have complete := Text.complete_above rows
  refine ⟨location, ⟨upper.flatten, lower.flatten, ?_, ?_, Text.complete_ends complete⟩, ?_, ?_, ?_⟩
  · rw [← Text.flatten_lines c.text, ← List.flatten_append, ← List.flatten_append, ← split, Text.flatten_lines]
  · rw [← Text.length_lines _ complete, Text.lines_flatten (Text.rows_append rows).1, above]
  · rw [split, run, first, ← above]
    simp
  · intro shape
    rw [shape] at carved
    rw [lineCount]
    generalize Text.lines c.text = rows at carved
    cases carved with
    | singleLine _ _ => rfl
  · intro shape
    rw [shape] at carved
    rw [lineCount]
    generalize Text.lines c.text = rows at split carved
    cases carved with
    | block header body last left unclosed closes =>
        have whole : Text.lines text = upper ++ header :: body ++ last :: lower := by rw [split]; simp
        refine ⟨(upper ++ header :: body).length, ?_, ?_, ?_, ?_⟩
        · rw [whole, ← above]
          exact first_closing_of_block unclosed closes
        · simp only [List.length_append, List.length_cons, List.length_nil]
          omega
        · simp
        · intro i line there
          exact closes_iff_last unclosed closes there

-- What is taken out is one of four things, told apart by the lines alone, and a construct that is
-- taken out is whole lines of the text, from its header to the first line that closes it.
theorem extract_exact {σ : Type} {source : Source σ} {place : Location} {text : Text} {session : Session σ}
    (read : ((source.read place.path).run session).1 = .ok (Text.lines text)) :
    let result := ((extract source place).run session).1
    (∀ other, result = other ↔ Extracted place (Text.lines text) other) ∧
      (result = .error (.pastEnd place.path place.line) ↔ (Text.lines text).length ≤ place.line) ∧
      (∀ c, result = .ok c → c.StandsIn place text) ∧
      (Failure.pastEnd place.path place.line).message =
        "Line " ++ toString (place.line + 1) ++ " is past the end of " ++ place.path.display ∧
      (Failure.neverClosed place.path place.line).message =
        "Construct opened at " ++ place.path.display ++ ":" ++ toString (place.line + 1) ++
          " is never closed by a `')` line" := by
  intro result
  have taken : result = ofLines place (Text.lines text) := by
    rcases ran : (source.read place.path).run session with ⟨answer, after⟩
    rw [ran] at read
    obtain rfl : answer = .ok (Text.lines text) := read
    exact extract_read ran
  have exactly (other : Except Failure Construct) :
      result = other ↔ Extracted place (Text.lines text) other := by
    rw [taken]
    constructor
    · rintro rfl
      exact extracted_of_lines place (Text.lines text)
    · intro extracted
      exact extracted_unique (extracted_of_lines place (Text.lines text)) extracted
  refine ⟨exactly, ?_, fun c same => stands_in ((exactly (.ok c)).mp same), rfl, rfl⟩
  rw [exactly]
  constructor
  · intro extracted
    cases extracted with
    | pastEnd short => exact short
  · intro short
    exact .pastEnd short

theorem extract_exact_in_sample :
    let text := "x\ndefine(`a',`\n ')\n')\r\n')\n".toList
    let place : Location := ⟨Path.ofText "a.if".toList, 1, some .define⟩
    let session : Session Memory := ⟨⟨[(place.path, text)]⟩, []⟩
    let block : Construct := ⟨place, .block, "define(`a',`\n ')\n')\r\n".toList⟩
    ((Memory.source.read place.path).run session).1 = .ok (Text.lines text) ∧
      ((extract Memory.source place).run session).1 = .ok block ∧ block.StandsIn place text := by
  intro text place session block
  have read : ((Memory.source.read place.path).run session).1 = .ok (Text.lines text) := by rfl
  have taken : ((extract Memory.source place).run session).1 = .ok block := by rfl
  obtain ⟨_, _, stands, _⟩ := extract_exact read
  exact ⟨read, taken, stands block taken⟩

end Construct

end PolicyLookup
