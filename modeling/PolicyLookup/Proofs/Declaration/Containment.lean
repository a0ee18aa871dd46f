import PolicyLookup.Proofs.Declaration.Pattern

set_option autoImplicit false

namespace PolicyLookup

namespace Matcher

open Regex

theorem literal_normal (name : Text) : (literalRegex name).normal = literalRegex name := by
  have asRow : literalRegex name = row (keywordsRegex :: singles (signature name)) := by
    rw [literalRegex, ← row_singles]
    rfl
  rw [asRow]
  exact row_normal (List.forall_mem_cons.mpr ⟨keywords_is_part, singles_are_parts (signature name)⟩)

theorem literal_size (direction : Direction) (name : Text) :
    automatonSize direction (literalRegex name) ≤ 2000 + 128 * name.length := by
  have whole := automaton_size direction (literalRegex name)
  rw [literal_normal] at whole
  have keyworded : (literalRegex name).size direction false ≤ _ := keyworded_size direction (word (signature name))
  have rest := word_size direction false (signature name)
  have length : (signature name).length = name.length + 3 := by simp [signature]
  omega

theorem literal_small {name : Text} (short : name.length ≤ 80000) : (literalRegex name).isTooLarge = false := by
  refine fits_of_small (fun direction => literal_size direction name) ?_
  have limit : sizeLimit = 10485760 := rfl
  omega

structure Contains (matcher : Matcher) (query : Text) : Prop where
  line : ∀ line, matcher.isMatch line = true ↔ ∃ k : Keyword, k.opening query <:+: line
  named : ∀ line, (∃ k, matcher.keyword? line = some k) ↔ matcher.isMatch line = true
  first : ∀ line k, matcher.keyword? line = some k ↔ ∃ before, FirstOpening query line k before

theorem literal_contains {query : Text} {matcher : Matcher} (made : ofQuery query .literal = .ok matcher) :
    matcher.Contains query := by
  have opens (line : Text) : matcher.isMatch line = true ↔ ∃ k before, FirstOpening query line k before := by
    rw [is_match_literal made]
    constructor
    · rintro ⟨k, there⟩
      exact first_opening_exists there
    · rintro ⟨k, before, first⟩
      exact ⟨k, Text.infix_iff_before.mpr ⟨before, first.there⟩⟩
  have only (line : Text) {k : Keyword} (told : matcher.keyword? line = some k) :
      ∃ before, FirstOpening query line k before := by
    cases matched : matcher.isMatch line with
    | false =>
        rw [keyword_unmatched matched] at told
        contradiction
    | true =>
        obtain ⟨other, before, first⟩ := (opens line).mp matched
        rw [keyword_literal made first] at told
        obtain rfl := Option.some.inj told
        exact ⟨before, first⟩
  refine ⟨is_match_literal made, ?_, ?_⟩
  · intro line
    rw [opens]
    constructor
    · rintro ⟨k, told⟩
      exact ⟨k, only line told⟩
    · rintro ⟨k, before, first⟩
      exact ⟨k, keyword_literal made first⟩
  · intro line k
    constructor
    · exact only line
    · rintro ⟨before, first⟩
      exact keyword_literal made first

theorem literal_exact (query : Text) :
    (ofQuery query .literal = .error .tooLarge ∧ (literalRegex query).isTooLarge = true ∧ 80000 < query.length) ∨
      ∃ matcher, ofQuery query .literal = .ok matcher ∧ matcher.Contains query := by
  have made := of_query_literal query
  cases large : (literalRegex query).isTooLarge with
  | true =>
      rw [large, if_pos rfl] at made
      have long : 80000 < query.length := by
        by_contra short
        rw [literal_small (Nat.le_of_not_lt short)] at large
        contradiction
      exact Or.inl ⟨made, rfl, long⟩
  | false =>
      rw [large, if_neg Bool.false_ne_true] at made
      exact Or.inr ⟨_, made, literal_contains made⟩

example : (Matcher.mk "a.b(".toList [literalRegex "a.b(".toList]).keyword?
    " x interface(`a.b(' define(`a.b('\n".toList = some .interface := by decide +kernel

end Matcher

end PolicyLookup
