import PolicyLookup.Proofs.Location.Keywords

set_option autoImplicit false

namespace PolicyLookup

section

variable {query : Text} {matcher : Matcher}

namespace Matcher

theorem opening_in_call_iff (word : query.IsWord) {callee rest : Text} (calleeWord : callee.IsWord)
    (free : HeaderFree rest) (k : Keyword) (before : Text) :
    before ++ k.opening query <+: call callee query rest ↔ callee = before ++ k.text := by
  have queryOpen : '\x60' ∉ query := Text.word_free word (by decide) (by decide)
  have queryClosed : '\'' ∉ query := Text.word_free word (by decide) (by decide)
  have calleeOpen : '\x60' ∉ callee := Text.word_free calleeWord (by decide) (by decide)
  constructor
  · intro there
    exact (Keyword.opening_in_call calleeOpen queryOpen queryClosed queryClosed free there).1
  · rintro rfl
    exact k.opening_call before query rest

-- The search is not held to the start of a word, so that of the callee only its end counts.
theorem call_exact (made : ofQuery query .literal = .ok matcher) (word : query.IsWord) {callee rest : Text}
    (calleeWord : callee.IsWord) (free : HeaderFree rest) :
    (matcher.isMatch (call callee query rest) = true ↔ ∃ k : Keyword, k.text <:+ callee) ∧
      ∀ k : Keyword, k.text <:+ callee → matcher.keyword? (call callee query rest) = some k := by
  have opens := opening_in_call_iff word calleeWord free
  constructor
  · rw [is_match_literal made]
    simp only [Text.infix_iff_before, opens]
    constructor
    · rintro ⟨k, before, rfl⟩
      exact ⟨k, List.suffix_append before k.text⟩
    · rintro ⟨k, before, whole⟩
      exact ⟨k, before, whole.symm⟩
  · rintro k ⟨before, rfl⟩
    have first : FirstOpening query (call (before ++ k.text) query rest) k before := by
      refine ⟨k.opening_call before query rest, ?_⟩
      intro other earlier sooner
      have same := (opens other earlier).mp sooner
      rw [(Keyword.text_end same).1]
    exact keyword_literal made first

end Matcher

namespace Location

theorem call_passed_over (made : Matcher.ofQuery query .literal = .ok matcher) (word : query.IsWord) :
    (∀ callee rest : Text, callee.IsWord → HeaderFree rest → (∀ k : Keyword, ¬ k.text <:+ callee) →
        matcher.isMatch (call callee query rest) = false ∧ matcher.keyword? (call callee query rest) = none) ∧
      ∀ {σ : Type} (source : Source σ) (files : List Path) (session : Session σ) (place : Location),
        ((find source matcher files).run session).1 = .ok (some place) →
        ∃ earlier lines line,
          ((find source.watched matcher files).run session.watched).2.source.readings =
            earlier ++ [(place.path, .ok lines)] ∧
          lines[place.line]? = some line ∧
          ∀ callee rest : Text, callee.IsWord → HeaderFree rest → line = call callee query rest →
            ∃ k : Keyword, k.text <:+ callee := by
  constructor
  · intro callee rest calleeWord free other
    have unmatched : matcher.isMatch (call callee query rest) = false := by
      rw [← Bool.not_eq_true, (Matcher.call_exact made word calleeWord free).1]
      rintro ⟨k, ends⟩
      exact other k ends
    exact ⟨unmatched, Matcher.keyword_unmatched unmatched⟩
  · intro σ source files session place found
    obtain ⟨earlier, lines, line, record, there, matched, _⟩ := find_at_line source matcher files session found
    refine ⟨earlier, lines, line, record, there, ?_⟩
    rintro callee rest calleeWord free rfl
    exact (Matcher.call_exact made word calleeWord free).1.mp matched

end Location

end

namespace Location

theorem call_passed_over_to_declaration :
    let query := "foo".toList
    let callee := "defined_template".toList
    let rest := ",`\n".toList
    let matcher : Matcher := ⟨query, [Matcher.literalRegex query]⟩
    let file := Path.ofText "a.if".toList
    let session : Session Memory := ⟨⟨[(file, call callee query rest ++ "interface(`foo',`\n')\n".toList)]⟩, []⟩
    (Matcher.ofQuery query .literal = .ok matcher ∧ Text.IsWord query ∧ Text.IsWord callee ∧ HeaderFree rest ∧
        (∀ k : Keyword, ¬ k.text <:+ callee) ∧
        ((find Memory.source matcher [file]).run session).1 = .ok (some ⟨file, 1, some .interface⟩)) ∧
      matcher.isMatch (call callee query rest) = false ∧
      ∃ earlier lines line,
        ((find Memory.source.watched matcher [file]).run session.watched).2.source.readings =
          earlier ++ [(file, .ok lines)] ∧
        lines[1]? = some line ∧
        ∀ callee rest : Text, callee.IsWord → HeaderFree rest → line = call callee query rest →
          ∃ k : Keyword, k.text <:+ callee := by
  intro query callee rest matcher file session
  have made : Matcher.ofQuery query .literal = .ok matcher := by rfl
  have word : Text.IsWord query := by decide
  have calleeWord : Text.IsWord callee := by decide
  have free : HeaderFree rest := fun k => k.not_infix_of_short (by decide)
  have other : ∀ k : Keyword, ¬ k.text <:+ callee := by
    intro k
    cases k <;> decide
  have found : ((find Memory.source matcher [file]).run session).1 = .ok (some ⟨file, 1, some .interface⟩) := by
    decide +kernel
  obtain ⟨passed, located⟩ := call_passed_over made word
  exact ⟨⟨made, word, calleeWord, free, other, found⟩, (passed callee rest calleeWord free other).1,
    located Memory.source [file] session _ found⟩

theorem undefine_taken_for_define :
    let query := "foo".toList
    let callee := "undefine".toList
    let rest := ")".toList
    (query ≠ [] ∧ Text.IsWord query ∧ Text.IsWord callee ∧ (∀ k : Keyword, callee ≠ k.text) ∧ '\n' ∉ rest ∧
        HeaderFree rest) ∧
      ∃ matcher, Matcher.ofQuery query .literal = .ok matcher ∧
        matcher.isMatch (call callee query rest) = true ∧
        matcher.keyword? (call callee query rest) = some .define := by
  intro query callee rest
  have made : Matcher.ofQuery query .literal = .ok ⟨query, [Matcher.literalRegex query]⟩ := by rfl
  have word : Text.IsWord query := by decide
  have calleeWord : Text.IsWord callee := by decide
  have free : HeaderFree rest := fun k => k.not_infix_of_short (by decide)
  have different : ∀ k : Keyword, callee ≠ k.text := by
    intro k
    cases k <;> decide
  have ends : Keyword.define.text <:+ callee := by decide
  obtain ⟨matched, told⟩ := Matcher.call_exact made word calleeWord free
  exact ⟨⟨by decide, word, calleeWord, different, by decide, free⟩, _, made, matched.mpr ⟨.define, ends⟩,
    told .define ends⟩

end Location

end PolicyLookup
