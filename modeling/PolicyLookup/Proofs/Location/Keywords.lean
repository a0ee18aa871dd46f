import PolicyLookup.Proofs.Declaration.Keywords
import PolicyLookup.Proofs.Lookup.Course
import PolicyLookup.Source.Memory

set_option autoImplicit false

namespace PolicyLookup

namespace Location

theorem find_at_line {σ : Type} (source : Source σ) (matcher : Matcher) (files : List Path) (session : Session σ)
    {place : Location} (found : ((find source matcher files).run session).1 = .ok (some place)) :
    ∃ earlier lines line,
      ((find source.watched matcher files).run session.watched).2.source.readings =
        earlier ++ [(place.path, .ok lines)] ∧
      lines[place.line]? = some line ∧ matcher.isMatch line = true ∧
      place.keyword = matcher.keyword? line := by
  obtain ⟨same, _⟩ := Lookup.mirrors_search source matcher files.length files session.watched
  obtain ⟨readings, searched, record⟩ := Lookup.search_course source matcher files.length files session.watched
  have result : ((searchFiles source.watched matcher files.length files).run session.watched).1 =
      .ok (some place) := same.trans found
  rw [result] at searched
  rw [find, record]
  cases searched with
  | found earlier path later lines j line missed first =>
      exact ⟨earlier, lines, line, rfl, first.there, first.isMatch, rfl⟩

theorem keyword_honest {query : Text} {mode : QueryMode} {matcher : Matcher}
    (made : Matcher.ofQuery query mode = .ok matcher) :
    (∀ line, matcher.Honest mode line) ∧
      ∀ {σ : Type} (source : Source σ) (files : List Path) (session : Session σ) (place : Location),
        ((find source matcher files).run session).1 = .ok (some place) → place.keyword = none →
        mode = .regex ∧ ∃ earlier lines line,
          ((find source.watched matcher files).run session.watched).2.source.readings =
            earlier ++ [(place.path, .ok lines)] ∧
          lines[place.line]? = some line ∧ matcher.isMatch line = true ∧ HeaderFree (Text.trim line) := by
  refine ⟨Matcher.honest made, ?_⟩
  intro σ source files session place found unnamed
  obtain ⟨earlier, lines, line, record, there, matched, keyword⟩ := find_at_line source matcher files session found
  obtain ⟨isRegex, free⟩ := (Matcher.honest made line).untold matched (keyword.symm.trans unnamed)
  exact ⟨isRegex, earlier, lines, line, record, there, matched, free⟩

-- The query ends the first choice, and the second matches a line without a keyword.
theorem keyword_honest_of_choice :
    let query := "a'|b".toList
    let choices := [.seq Matcher.keywordsRegex (Regex.word "(`a'".toList), Regex.word "b'".toList]
    let file := Path.ofText "a.if".toList
    let session : Session Memory := ⟨⟨[(file, "x\n define (`b'\n".toList)]⟩, []⟩
    Matcher.ofQuery query .regex = .ok ⟨query, choices⟩ ∧
      ((find Memory.source ⟨query, choices⟩ [file]).run session).1 = .ok (some ⟨file, 1, none⟩) ∧
      ∃ line, Matcher.isMatch ⟨query, choices⟩ line = true ∧ HeaderFree (Text.trim line) := by
  intro query choices file session
  have made : Matcher.ofQuery query .regex = .ok ⟨query, choices⟩ := by rfl
  have found : ((find Memory.source ⟨query, choices⟩ [file]).run session).1 = .ok (some ⟨file, 1, none⟩) := by
    decide +kernel
  obtain ⟨_, located⟩ := keyword_honest made
  obtain ⟨_, _, _, line, _, _, matched, free⟩ := located Memory.source [file] session _ found rfl
  exact ⟨made, found, line, matched, free⟩

end Location

end PolicyLookup
