import PolicyLookup.Proofs.Declaration.Pattern
import PolicyLookup.Proofs.Regex.Wildcard

set_option autoImplicit false

namespace PolicyLookup.Matcher

open Regex

structure FindsNames (matcher : Matcher) (names : Text → Prop) : Prop where
  line : ∀ line, matcher.isMatch line = true ↔
    ∃ (before : Text) (k : Keyword) (name after : Text),
      names name ∧ Text.trim line = before ++ k.opening name ++ after
  first : ∀ line k, matcher.keyword? line = some k ↔ ∃ before, FirstNamed names (Text.trim line) k before
  unnamed : ∀ line, matcher.keyword? line = none ↔ matcher.isMatch line = false

theorem finds_names {matcher : Matcher} {r : Regex} {names : Text → Prop} (single : matcher.choices = [r])
    (spans : SpansOpenings r names) : matcher.FindsNames names := by
  have isMatch (line : Text) : matcher.isMatch line = true ↔
      ∃ (k : Keyword) (name : Text), names name ∧ k.opening name <:+: Text.trim line := by
    rw [Matcher.isMatch, single]
    exact is_match_any_named spans _
  have told {line : Text} (matched : matcher.isMatch line = true) :
      ∃ k before, FirstNamed names (Text.trim line) k before ∧ matcher.keyword? line = some k := by
    obtain ⟨k, before, first⟩ := first_named_exists ((isMatch line).mp matched)
    exact ⟨k, before, first, keyword_named single spans first⟩
  refine ⟨?_, ?_, ?_⟩
  · intro line
    rw [isMatch]
    constructor
    · rintro ⟨k, name, named, before, after, whole⟩
      exact ⟨before, k, name, after, named, whole.symm⟩
    · rintro ⟨before, k, name, after, named, whole⟩
      exact ⟨k, name, named, before, after, whole.symm⟩
  · intro line k
    constructor
    · intro named
      cases matched : matcher.isMatch line with
      | false =>
          rw [keyword_unmatched matched] at named
          contradiction
      | true =>
          obtain ⟨other, before, first, same⟩ := told matched
          obtain rfl := Option.some.inj (same.symm.trans named)
          exact ⟨before, first⟩
    · rintro ⟨before, first⟩
      exact keyword_named single spans first
  · intro line
    constructor
    · intro unnamed
      rw [← Bool.not_eq_true]
      intro matched
      obtain ⟨k, _, _, named⟩ := told matched
      rw [unnamed] at named
      contradiction
    · exact keyword_unmatched

section

variable {first : Text} {more : List Text}

def gappedItems (first : Text) (more : List Text) : List Expr := Expr.gapped first more ++ Expr.singles ['\'']

def gappedRegex (first : Text) (more : List Text) : Regex := keyworded (gapped first more ++ singles ['\''])

theorem run_gapped_query (words : ∀ w ∈ first :: more, Text.IsWord w) :
    Reading.run ((Text.gappedQuery first more).length + 3) beforeName (Text.gappedQuery first more ++ ['\'']) =
      .ok (.ofSeq (keywordedItems (gappedItems first more))) := by
  rw [Reading.run_gapped words 3 rfl (by decide), before_name_push, run_close 2]
  simp only [Regex.Level.close, Regex.Level.nextChoice, List.reverse_reverse]
  simp [keywordedItems, gappedItems, Expr.ofAlt]

theorem gapped_shallow (first : Text) (more : List Text) :
    (Expr.ofSeq (keywordedItems (gappedItems first more))).depth .none ≤ depthLimit := by
  have items : ∀ e ∈ gappedItems first more, ∀ chain, e.depth chain ≤ 3 := by
    rw [gappedItems, List.forall_mem_append]
    refine ⟨?_, singles_depth 3 _⟩
    intro e inName chain
    exact Nat.le_trans (gapped_depth first more e inName chain) (by decide)
  exact Nat.le_trans ((row_depth (keyworded_shallow items)).2 .none) (by decide)

theorem gapped_meaning (first : Text) (more : List Text) :
    (Expr.ofSeq (keywordedItems (gappedItems first more))).meaning Flags.start =
      .ok (gappedRegex first more, Flags.start) :=
  keyworded_mean (List.rel_append (gapped_mean first more) (singles_mean ['\'']))

theorem spans_gapped_name (first : Text) (more : List Text) :
    SpansOpenings (gappedRegex first more) (Text.Gapped first more) := by
  intro t p q
  simp only [gappedRegex, spans_keyworded_row, spans_row_append, spans_singles, spans_gapped, Keyword.opening,
    prefix_drop_append, List.length_append, ← Nat.add_assoc]
  constructor
  · rintro ⟨k, header, _, ⟨name, fills, rfl, named⟩, rfl, closed⟩
    exact ⟨k, name, fills, rfl, ⟨header, named⟩, closed⟩
  · rintro ⟨k, name, fills, rfl, ⟨header, named⟩, closed⟩
    exact ⟨k, header, _, ⟨name, fills, rfl, named⟩, rfl, closed⟩

theorem gapped_query_size (direction : Direction) (first : Text) (more : List Text) :
    automatonSize direction (gappedRegex first more) ≤ 5000 + 1100 * (Text.gappedQuery first more).length := by
  have items : ∀ r ∈ gapped first more ++ singles ['\''], ∀ inChoice, r.size direction inChoice ≤ 1100 := by
    rw [List.forall_mem_append]
    refine ⟨gapped_size direction first more, ?_⟩
    intro r close inChoice
    exact Nat.le_trans (singles_size direction _ r close inChoice) (by decide)
  have inRow := keyworded_row_size (by decide) items
  have count : (gapped first more ++ singles ['\'']).length = (gapped first more).length + 1 := List.length_append
  have length := length_gapped first more
  have parts := List.forall_mem_append.mpr ⟨gapped_parts first more, singles_are_parts ['\'']⟩
  have whole := automaton_size direction (gappedRegex first more)
  rw [gappedRegex, keyworded_normal parts] at whole
  rw [count] at inRow
  rw [gappedRegex]
  omega

theorem gapped_exact (words : ∀ w ∈ first :: more, Text.IsWord w) :
    (ofQuery (Text.gappedQuery first more) .regex = .error .tooLarge ∧
        9500 < (Text.gappedQuery first more).length) ∨
      ∃ matcher, ofQuery (Text.gappedQuery first more) .regex = .ok matcher ∧
        matcher.FindsNames (Text.Gapped first more) := by
  have read := of_text_pattern (run_gapped_query words) (gapped_shallow first more)
  rcases of_query_outcome read (gapped_meaning first more)
    (fun direction => gapped_query_size direction first more) with ⟨refused, _, long⟩ | made
  · refine Or.inl ⟨refused, ?_⟩
    have limit : sizeLimit = 10485760 := rfl
    omega
  · exact Or.inr ⟨_, made, finds_names rfl (spans_gapped_name first more)⟩

end

-- A gap runs over the quote of one declaration into the next, so that the first header decides.
theorem gapped_exact_over_headers :
    let query := "net_.*.*_unix".toList
    let line := " interface(`net_tcp') define(`net__unix')\n".toList
    (∀ w ∈ ["net_".toList, [], "_unix".toList], Text.IsWord w) ∧
      ∃ matcher, ofQuery query .regex = .ok matcher ∧ matcher.isMatch line = true ∧
        matcher.keyword? line = some .interface := by
  intro query line
  have words : ∀ w ∈ ["net_".toList, [], "_unix".toList], Text.IsWord w := by decide
  refine ⟨words, ?_⟩
  rcases gapped_exact words with ⟨_, long⟩ | ⟨matcher, made, finds⟩
  · exact absurd long (by decide)
  · have fills : Text.Gapped "net_".toList [[], "_unix".toList] "net_tcp') define(`net__unix".toList :=
      .next "net_".toList "tcp') define(`net_".toList (by decide) (.next [] [] (by decide) (.last "_unix".toList))
    have trimmed : Text.trim line = [] ++ Keyword.interface.opening "net_tcp') define(`net__unix".toList ++ [')'] := by
      decide
    have first : FirstNamed (Text.Gapped "net_".toList [[], "_unix".toList]) (Text.trim line) .interface [] :=
      ⟨⟨_, fills, [')'], trimmed.symm⟩, fun _ _ _ _ _ => Nat.zero_le _⟩
    exact ⟨matcher, made, (finds.line line).mpr ⟨_, _, _, _, fills, trimmed⟩, (finds.first line _).mpr ⟨[], first⟩⟩

end PolicyLookup.Matcher
