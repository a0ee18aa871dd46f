import PolicyLookup.Proofs.Declaration.Headline
import PolicyLookup.Proofs.Declaration.Pattern

set_option autoImplicit false

namespace PolicyLookup.Matcher

open Regex

-- The bar parts the whole pattern: the header with the first word is one choice, and the second
-- word with the closing quote is the other.
inductive Either (a b t before : Text) : Prop
  | header (k : Keyword) (there : before ++ (k.header ++ a) <+: t)
  | bare (there : before ++ (b ++ ['\'']) <+: t)

structure FirstEither (a b t before : Text) : Prop where
  there : Either a b t before
  least : ∀ earlier, Either a b t earlier → before.length ≤ earlier.length

-- The keyword to be told of a text. A header that is matched is told itself, and for the bare word
-- the first header of the text is told, whatever name it has.
inductive Told (a b t : Text) : Option Keyword → Prop
  | header {k : Keyword} {before : Text} (first : FirstEither a b t before)
      (there : before ++ (k.header ++ a) <+: t) : Told a b t (some k)
  | bare {k? : Option Keyword} {before : Text} (first : FirstEither a b t before)
      (there : before ++ (b ++ ['\'']) <+: t) (headline : Headline t k?) : Told a b t k?
  | absent (nowhere : ∀ before, ¬ Either a b t before) : Told a b t none

structure FindsEither (matcher : Matcher) (a b : Text) : Prop where
  line : ∀ line, matcher.isMatch line = true ↔
    (∃ k : Keyword, k.header ++ a <:+: Text.trim line) ∨ b ++ ['\''] <:+: Text.trim line
  keyword : ∀ line k?, matcher.keyword? line = k? ↔ Told a b (Text.trim line) k?

section

variable {a b : Text}

def firstChoice (a : Text) : Regex := keyworded (singles a)

def secondChoice (b : Text) : Regex := row (singles (b ++ ['\'']))

def eitherExpr (a b : Text) : Expr :=
  .alt (.ofSeq (keywordedItems (Expr.singles a))) (.ofSeq (Expr.singles (b ++ ['\''])))

theorem run_bar (n : Nat) (choices es : List Expr) (rest : Text) :
    Reading.run (n + 1) (Reading.pushAll ⟨false, ⟨choices, []⟩, [], []⟩ es) ('|' :: rest) =
      Reading.run n ⟨false, ⟨.ofSeq es :: choices, []⟩, [], []⟩ rest := by
  have next : (Reading.pushAll ⟨false, ⟨choices, []⟩, [], []⟩ es).level.nextChoice = ⟨.ofSeq es :: choices, []⟩ := by
    simp [Reading.pushAll, Regex.Level.nextChoice]
  rw [← next]
  rfl

theorem run_either (aWord : a.IsWord) (bWord : b.IsWord) :
    Reading.run ((a ++ '|' :: b).length + 3) beforeName (a ++ '|' :: b ++ ['\'']) = .ok (eitherExpr a b) := by
  have fuel : (a ++ '|' :: b).length + 3 = a.length + (b.length + 3 + 1) := by
    simp only [List.length_append, List.length_cons]
    omega
  rw [fuel, List.append_assoc, List.cons_append, Reading.run_word aWord _ rfl, before_name_push, run_bar,
    Reading.run_word bWord _ rfl, run_close 2, Regex.Level.close, Regex.Level.nextChoice, List.reverse_reverse]
  simp [eitherExpr, Expr.singles, Expr.ofAlt]

theorem either_shallow (a b : Text) : (eitherExpr a b).depth .none ≤ depthLimit := by
  have first := (row_depth (keyworded_shallow (singles_depth 3 a))).2 .alt
  have second := (row_depth (singles_depth 3 (b ++ ['\'']))).2 .alt
  have whole : (eitherExpr a b).depth .none = 1 + max _ _ := rfl
  have limit : depthLimit = 250 := rfl
  omega

theorem either_meaning (a b : Text) :
    (eitherExpr a b).meaning Flags.start = .ok (.alt (firstChoice a) (secondChoice b), Flags.start) := by
  have first := keyworded_mean (singles_mean a)
  have second := row_meaning (singles_mean (b ++ ['\'']))
  rw [Means] at first second
  rw [eitherExpr, Expr.meaning, first]
  simp only [second]
  rfl

theorem either_choices (a b : Text) :
    (Regex.alt (firstChoice a) (secondChoice b)).alternatives = [firstChoice a, secondChoice b] := by
  rw [alternatives, secondChoice, row_singles, alternatives_word]

theorem either_normal (a b : Text) :
    (Regex.alt (firstChoice a) (secondChoice b)).normal = .alt (firstChoice a) (secondChoice b) := by
  have first : (firstChoice a).choices = [_] := row_choices (keyworded_parts (singles_are_parts a))
  have second : (secondChoice b).choices = [_] := row_choices (singles_are_parts (b ++ ['\'']))
  have notSet : ∀ s, keywordsRegex ≠ .set s := fun _ => Regex.noConfusion
  rw [normal, Regex.choices, first, second, List.singleton_append, Choices.close_apart notSet (by simp)]
  rfl

theorem either_size (direction : Direction) (a b : Text) :
    automatonSize direction (.alt (firstChoice a) (secondChoice b)) ≤ 3000 + 128 * (a ++ '|' :: b).length := by
  have first := keyworded_row_size (Nat.le_refl 128) (singles_size direction a)
  have second := row_size (singles_size direction (b ++ ['\''])) true
  have whole := automaton_size direction (.alt (firstChoice a) (secondChoice b))
  rw [either_normal] at whole
  have both : (Regex.alt (firstChoice a) (secondChoice b)).size direction false =
      (keyworded (singles a)).size direction false + (row (singles (b ++ ['\'']))).size direction true + choiceBytes +
        2 * stateBytes + choiceBytes := rfl
  simp only [singles, List.length_map, List.length_append, List.length_cons, List.length_nil] at *
  simp only [stateBytes, choiceBytes] at both
  omega

theorem spans_first_choice (a t : Text) (p q : Nat) :
    Spans t.toArray (firstChoice a) p q ↔
      ∃ k : Keyword, q = p + (k.header ++ a).length ∧ k.header ++ a <+: t.drop p := by
  simp only [firstChoice, spans_keyworded_row, spans_singles, prefix_drop_append, List.length_append, Nat.add_assoc]
  constructor
  · rintro ⟨k, header, stop, inName⟩
    exact ⟨k, stop, header, inName⟩
  · rintro ⟨k, stop, header, inName⟩
    exact ⟨k, header, stop, inName⟩

theorem spans_second_choice (b t : Text) (p q : Nat) :
    Spans t.toArray (secondChoice b) p q ↔ q = p + (b ++ ['\'']).length ∧ b ++ ['\''] <+: t.drop p :=
  spans_singles t (b ++ ['\'']) p q

theorem spans_either (a b t : Text) (p : Nat) :
    (∃ r ∈ [firstChoice a, secondChoice b], ∃ q, Spans t.toArray r p q) ↔ Either a b t (t.take p) := by
  constructor
  · rintro ⟨r, member, q, spans⟩
    rcases List.mem_pair.mp member with rfl | rfl
    · obtain ⟨k, _, starts⟩ := (spans_first_choice a t p q).mp spans
      exact .header k ((prefix_drop_iff _ t p).mp starts)
    · obtain ⟨_, starts⟩ := (spans_second_choice b t p q).mp spans
      exact .bare ((prefix_drop_iff _ t p).mp starts)
  · intro stands
    cases stands with
    | header k there =>
        have starts := (prefix_drop_iff _ t p).mpr there
        exact ⟨_, List.mem_cons_self, _, (spans_first_choice a t p _).mpr ⟨k, rfl, starts⟩⟩
    | bare there =>
        have starts := (prefix_drop_iff _ t p).mpr there
        exact ⟨_, List.mem_cons_of_mem _ List.mem_cons_self, _, (spans_second_choice b t p _).mpr ⟨rfl, starts⟩⟩

theorem Either.before {t before : Text} (stands : Either a b t before) : before <+: t := by
  cases stands with
  | header _ there => exact (List.prefix_append _ _).trans there
  | bare there => exact (List.prefix_append _ _).trans there

theorem either_infix (a b t : Text) :
    (∃ before, Either a b t before) ↔ (∃ k : Keyword, k.header ++ a <:+: t) ∨ b ++ ['\''] <:+: t := by
  simp only [Text.infix_iff_before]
  constructor
  · rintro ⟨before, stands⟩
    cases stands with
    | header k there => exact Or.inl ⟨k, before, there⟩
    | bare there => exact Or.inr ⟨before, there⟩
  · rintro (⟨k, before, there⟩ | ⟨before, there⟩)
    · exact ⟨before, .header k there⟩
    · exact ⟨before, .bare there⟩

-- The two choices never start at one place: the first to end would have a parenthesis or a quote in
-- the other's word.
theorem header_not_bare (aWord : a.IsWord) (bWord : b.IsWord) {t : Text} {k : Keyword} (header : k.header ++ a <+: t) :
    ¬ b ++ ['\''] <+: t := by
  intro bare
  rcases List.prefix_or_prefix_of_prefix header bare with inBare | inHeader
  · have parenthesis : '(' ∈ b ++ ['\''] := inBare.subset (by simp [Keyword.header])
    rcases List.mem_append.mp parenthesis with inWord | inQuote
    · exact Text.word_free bWord (by decide) (by decide) inWord
    · contradiction
  · have quote : '\'' ∈ k.header ++ a := inHeader.subset (by simp)
    rcases List.mem_append.mp quote with inKeyword | inWord
    · exact absurd inKeyword (k.header_free_of (by decide))
    · exact Text.word_free aWord (by decide) (by decide) inWord

variable {matcher : Matcher}

theorem is_match_either (choices : matcher.choices = [firstChoice a, secondChoice b]) (line : Text) :
    matcher.isMatch line = true ↔ ∃ before, Either a b (Text.trim line) before := by
  rw [isMatch, choices, is_match_any_iff]
  constructor
  · rintro ⟨p, _, leads⟩
    exact ⟨_, (spans_either a b _ p).mp leads⟩
  · rintro ⟨before, stands⟩
    have within : before.length ≤ (Text.trim line).toArray.size := stands.before.length_le
    rw [List.prefix_iff_eq_take.mp stands.before] at stands
    exact ⟨before.length, within, (spans_either a b _ _).mpr stands⟩

theorem find_first_either {t before : Text} (first : FirstEither a b t before) {i : Nat} {r : Regex} {q : Nat}
    (choice : [firstChoice a, secondChoice b][i]? = some r) (spans : Spans t.toArray r before.length q)
    (only : ∀ j s stop, j < i → [firstChoice a, secondChoice b][j]? = some s →
      ¬ Spans t.toArray s before.length stop) :
    findFirst? [firstChoice a, secondChoice b] t.toArray = some (before.length, i) := by
  refine find_first_iff.mpr ⟨first.there.before.length_le, ⟨r, q, choice, spans⟩, ?_, only⟩
  intro p stop sooner s member there
  have bound := first.least _ ((spans_either a b t p).mp ⟨s, member, stop, there⟩)
  rw [List.length_take] at bound
  omega

theorem keyword_told (aWord : a.IsWord) (bWord : b.IsWord)
    (choices : matcher.choices = [firstChoice a, secondChoice b]) {line : Text} {k? : Option Keyword}
    (told : Told a b (Text.trim line) k?) : matcher.keyword? line = k? := by
  cases told with
  | header first there =>
      rename_i k before
      have starts := prefix_drop_of there
      have spans := (spans_first_choice a (Text.trim line) before.length _).mpr ⟨k, rfl, starts⟩
      have found := find_first_either (i := 0) first rfl spans (fun j _ _ less => absurd less (Nat.not_lt_zero j))
      have keyword : k.text <+: k.header ++ a := by
        rw [Keyword.header, List.append_assoc]
        exact List.prefix_append _ _
      exact keyword_first (choices ▸ found) (keyword.trans starts)
  | bare first there headline =>
      rename_i before
      have starts := prefix_drop_of there
      have spans := (spans_second_choice b (Text.trim line) before.length _).mpr ⟨rfl, starts⟩
      have only : ∀ j s stop, j < 1 → [firstChoice a, secondChoice b][j]? = some s →
          ¬ Spans (Text.trim line).toArray s before.length stop := by
        intro j s stop less choice inHeader
        obtain rfl := Nat.lt_one_iff.mp less
        obtain rfl := Option.some.inj choice
        obtain ⟨k, _, header⟩ := (spans_first_choice a _ _ _).mp inHeader
        exact header_not_bare aWord bWord header starts
      have found := find_first_either (i := 1) first rfl spans only
      rw [keyword?, choices, found]
      exact (headline_iff _ k?).mp headline
  | absent nowhere =>
      refine keyword_unmatched ?_
      rw [← Bool.not_eq_true, is_match_either choices]
      rintro ⟨before, stands⟩
      exact nowhere before stands

theorem told_total (a b t : Text) : ∃ k?, Told a b t k? := by
  by_cases somewhere : ∃ before, Either a b t before
  · obtain ⟨before, there, least⟩ := Text.shortest_exists somewhere
    cases there with
    | header k opens => exact ⟨some k, .header ⟨.header k opens, least⟩ opens⟩
    | bare closes => exact ⟨_, .bare ⟨.bare closes, least⟩ closes (headline_of_first t)⟩
  · exact ⟨none, .absent (not_exists.mp somewhere)⟩

theorem finds_either (aWord : a.IsWord) (bWord : b.IsWord)
    (choices : matcher.choices = [firstChoice a, secondChoice b]) : matcher.FindsEither a b := by
  refine ⟨?_, ?_⟩
  · intro line
    rw [is_match_either choices, either_infix]
  · intro line k?
    constructor
    · rintro rfl
      obtain ⟨k?, told⟩ := told_total a b (Text.trim line)
      rwa [keyword_told aWord bWord choices told]
    · exact keyword_told aWord bWord choices

theorem alternation_exact (aWord : a.IsWord) (bWord : b.IsWord) :
    (ofQuery (a ++ '|' :: b) .regex = .error .tooLarge ∧ 80000 < (a ++ '|' :: b).length) ∨
      ∃ matcher, ofQuery (a ++ '|' :: b) .regex = .ok matcher ∧ matcher.FindsEither a b := by
  have read := of_text_pattern (run_either aWord bWord) (either_shallow a b)
  rcases of_query_outcome read (either_meaning a b)
    (fun direction => either_size direction a b) with ⟨refused, _, long⟩ | made
  · refine Or.inl ⟨refused, ?_⟩
    have limit : sizeLimit = 10485760 := rfl
    omega
  · exact Or.inr ⟨_, made, finds_either aWord bWord (either_choices a b)⟩

end

-- The second word opens nothing, so that the first header of the line is told, of some other name.
theorem alternation_exact_bare :
    let a := "foo".toList
    let b := "bar".toList
    let line := "\tbar', define(`x')\n".toList
    (Text.IsWord a ∧ Text.IsWord b) ∧
      ∃ matcher, ofQuery (a ++ '|' :: b) .regex = .ok matcher ∧ matcher.isMatch line = true ∧
        matcher.keyword? line = some .define := by
  intro a b line
  have aWord : Text.IsWord a := by decide
  have bWord : Text.IsWord b := by decide
  refine ⟨⟨aWord, bWord⟩, ?_⟩
  rcases alternation_exact aWord bWord with ⟨_, long⟩ | ⟨matcher, made, finds⟩
  · exact absurd long (by decide)
  · have starts : b ++ ['\''] <+: Text.trim line := by decide
    have first : FirstEither a b (Text.trim line) [] := ⟨.bare starts, fun _ _ => Nat.zero_le _⟩
    have headline : Headline (Text.trim line) (some .define) := (headline_iff _ _).mpr (by decide)
    exact ⟨matcher, made, (finds.line line).mpr (Or.inr starts.isInfix),
      (finds.keyword line _).mpr (.bare first starts headline)⟩

end PolicyLookup.Matcher
