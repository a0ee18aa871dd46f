import PolicyLookup.Proofs.Declaration.Containment
import PolicyLookup.Proofs.Declaration.Headline
import PolicyLookup.Proofs.Regex.Reading

set_option autoImplicit false

namespace PolicyLookup

open Regex

namespace Matcher

def parenthesis : Expr := .literal ⟨'(', false⟩

-- A level whose first choice starts with the keywords and a parenthesis. Its choices and items are
-- last first.
inductive Headed : Regex.Level → Prop
  | inFirst (tail : List Expr) (more : tail ≠ []) : Headed ⟨[], tail ++ [parenthesis, keywordsExpr]⟩
  | past (choices tail items : List Expr) (more : tail ≠ []) :
      Headed ⟨choices ++ [Expr.ofSeq (tail ++ [parenthesis, keywordsExpr]).reverse], items⟩

theorem headed_goes {level next : Regex.Level} (goes : level.Goes next) (headed : Headed level) : Headed next := by
  cases headed with
  | inFirst tail more =>
      cases goes with
      | stays => exact .inFirst tail more
      | pushed e => exact .inFirst (e :: tail) (List.cons_ne_nil e tail)
      | nextChoice => exact .past [] tail [] more
      | repeated greedy items lo hi =>
          rename_i last before
          cases tail with
          | nil => contradiction
          | cons e tail =>
              obtain ⟨rfl, rfl⟩ := List.cons.inj items
              exact .inFirst (.repeated greedy e lo hi :: tail) (List.cons_ne_nil _ tail)
  | past choices tail items more =>
      cases goes with
      | stays => exact .past choices tail items more
      | pushed e => exact .past choices tail (e :: items) more
      | nextChoice => exact .past (Expr.ofSeq items.reverse :: choices) tail [] more
      | repeated _ _ lo hi => exact .past choices tail _ more

theorem headed_close {level : Regex.Level} (headed : Headed level) :
    ∃ tail others, tail ≠ [] ∧ level.close = Expr.ofAlt (Expr.ofSeq (keywordsExpr :: parenthesis :: tail) :: others) := by
  cases headed with
  | inFirst tail more =>
      refine ⟨tail.reverse, [], ?_, ?_⟩
      · simpa using more
      · simp [Regex.Level.close, Regex.Level.nextChoice]
  | past choices tail items more =>
      refine ⟨tail.reverse, choices.reverse ++ [Expr.ofSeq items.reverse], ?_, ?_⟩
      · simpa using more
      · simp [Regex.Level.close, Regex.Level.nextChoice]

theorem pattern_headed {name : Text} {e : Expr} (read : Expr.ofText (patternOf name) = .ok e) :
    ∃ level, Headed level ∧ e = level.close := by
  obtain ⟨whole, run, shallow⟩ := Lookup.bind_ok_iff.mp read
  have same : whole = e := by
    split at shallow
    · contradiction
    · exact Except.ok.inj shallow
  rw [run_pattern] at run
  have start : Headed beforeName.outermost :=
    .inFirst [.literal ⟨'\x60', false⟩] (List.cons_ne_nil _ [])
  rw [← same]
  exact Reading.run_keeps headed_goes run start

def headedRegex (r : Regex) : Regex := .seq keywordsRegex (.seq (.set (.singleton '(')) r)

theorem both_meaning {make : Regex → Regex → Regex} {f : Flags} {left right : Expr} {regex : Regex} {after : Flags}
    (means : (match left.meaning f with
      | .ok (l, g) => (right.meaning g).map fun (r, (h : Flags)) => (make l r, h)
      | .error fault => .error fault) = .ok (regex, after)) :
    ∃ l g r, left.meaning f = .ok (l, g) ∧ right.meaning g = .ok (r, after) ∧ regex = make l r := by
  split at means
  · rename_i l g first
    obtain ⟨⟨r, last⟩, second, same⟩ := Lookup.map_ok_iff.mp means
    obtain ⟨rfl, rfl⟩ := Prod.mk.inj same
    exact ⟨l, g, r, first, second, rfl⟩
  · contradiction

theorem seq_meaning {f : Flags} {left right : Expr} {regex : Regex} {after : Flags}
    (means : (Expr.seq left right).meaning f = .ok (regex, after)) :
    ∃ l g r, left.meaning f = .ok (l, g) ∧ right.meaning g = .ok (r, after) ∧ regex = .seq l r := by
  rw [Expr.meaning] at means
  exact both_meaning means

theorem alt_meaning {f : Flags} {left right : Expr} {regex : Regex} {after : Flags}
    (means : (Expr.alt left right).meaning f = .ok (regex, after)) :
    ∃ l g r, left.meaning f = .ok (l, g) ∧ right.meaning g = .ok (r, after) ∧ regex = .alt l r := by
  rw [Expr.meaning] at means
  exact both_meaning means

theorem headed_meaning {tail : List Expr} (more : tail ≠ []) {regex : Regex} {after : Flags}
    (means : (Expr.ofSeq (keywordsExpr :: parenthesis :: tail)).meaning Flags.start = .ok (regex, after)) :
    ∃ r, regex = headedRegex r := by
  cases tail with
  | nil => contradiction
  | cons e tail =>
      obtain ⟨l, g, rest, first, later, rfl⟩ := seq_meaning means
      obtain ⟨rfl, rfl⟩ := Prod.mk.inj (Except.ok.inj (keywords_meaning.symm.trans first))
      obtain ⟨opened, g, r, second, _, rfl⟩ := seq_meaning later
      have plain : parenthesis.meaning Flags.start = .ok (.set (.singleton '('), Flags.start) := rfl
      obtain ⟨rfl, rfl⟩ := Prod.mk.inj (Except.ok.inj (plain.symm.trans second))
      exact ⟨r, rfl⟩

theorem choices_headed {query : Text} {mode : QueryMode} {matcher : Matcher}
    (made : ofQuery query mode = .ok matcher) : ∃ r others, matcher.choices = headedRegex r :: others := by
  obtain ⟨e, read, means⟩ := Lookup.bind_ok_iff.mp made
  obtain ⟨⟨regex, after⟩, meaning, fits⟩ := Lookup.bind_ok_iff.mp means
  have choices : matcher.choices = regex.alternatives := by
    dsimp only at fits
    split at fits
    · contradiction
    · exact (congrArg Matcher.choices (Except.ok.inj fits)).symm
  obtain ⟨level, headed, rfl⟩ := pattern_headed read
  obtain ⟨tail, others, more, closed⟩ := headed_close headed
  rw [closed] at meaning
  rw [choices]
  cases others with
  | nil =>
      obtain ⟨r, rfl⟩ := headed_meaning more meaning
      exact ⟨r, [], rfl⟩
  | cons other others =>
      obtain ⟨l, g, r, first, _, rfl⟩ := alt_meaning meaning
      obtain ⟨body, rfl⟩ := headed_meaning more first
      exact ⟨body, r.alternatives, rfl⟩

theorem headed_spans {r : Regex} {t : Text} {p q : Nat} (spans : Spans t.toArray (headedRegex r) p q) :
    ∃ k : Keyword, k.text ++ ['('] <+: t.drop p := by
  obtain ⟨m, first, n, second, _⟩ := spans
  obtain ⟨k, rfl, there⟩ := (spans_keywords t p m).mp first
  obtain ⟨_, opened⟩ := (spans_singleton t '(' _ n).mp second
  have next : ['('] <+: t.drop (p + k.text.length) := by
    rw [prefix_drop_cons]
    exact ⟨opened, List.nil_prefix⟩
  exact ⟨k, (prefix_drop_append _ _ t p).mpr ⟨there, next⟩⟩

theorem first_keyword_some {t : Text} {k : Keyword} (told : firstKeyword? t = some k) : k.header <:+: t := by
  cases (headline_iff t _).mpr told with
  | first there _ => exact Text.infix_iff_before.mpr ⟨_, there⟩

theorem first_keyword_none {t : Text} (untold : firstKeyword? t = none) : HeaderFree t := by
  cases (headline_iff t _).mpr untold with
  | none free => exact free

structure Honest (matcher : Matcher) (mode : QueryMode) (line : Text) : Prop where
  told : ∀ k, matcher.keyword? line = some k →
    matcher.isMatch line = true ∧ k.text ++ ['('] <:+: Text.trim line
  untold : matcher.isMatch line = true → matcher.keyword? line = none →
    mode = .regex ∧ HeaderFree (Text.trim line)

theorem header_opens (k : Keyword) : k.text ++ ['('] <:+: k.header := ⟨[], ['\x60'], by simp [Keyword.header]⟩

theorem honest {query : Text} {mode : QueryMode} {matcher : Matcher}
    (made : ofQuery query mode = .ok matcher) (line : Text) : matcher.Honest mode line := by
  obtain ⟨r, others, choices⟩ := choices_headed made
  cases found : findFirst? matcher.choices (Text.trim line).toArray with
  | none =>
      have unmatched : matcher.isMatch line = false := find_first_none_iff_no_match.mp found
      have untold := keyword_unmatched unmatched
      refine ⟨?_, ?_⟩
      · intro k told
        rw [untold] at told
        contradiction
      · intro matched
        rw [unmatched] at matched
        contradiction
  | some hit =>
      obtain ⟨start, i⟩ := hit
      have matched : matcher.isMatch line = true := by
        by_contra unmatched
        have nothing := find_first_none_iff_no_match.mpr (Bool.not_eq_true _ ▸ unmatched)
        rw [found] at nothing
        contradiction
      cases i with
      | zero =>
          obtain ⟨first, stop, there, spans⟩ := (find_first_some found).spans
          rw [choices] at there
          obtain rfl := Option.some.inj there
          obtain ⟨k, opens⟩ := headed_spans spans
          have inside := opens.isInfix.trans (List.drop_suffix start _).isInfix
          have told := keyword_first found ((List.prefix_append _ _).trans opens)
          refine ⟨?_, ?_⟩
          · intro other toldToo
            obtain rfl := Option.some.inj (told.symm.trans toldToo)
            exact ⟨matched, inside⟩
          · intro _ untold
            rw [told] at untold
            contradiction
      | succ i =>
          have byHeader : matcher.keyword? line = firstKeyword? (Text.trim line) := by
            rw [keyword?, found]
            rfl
          refine ⟨?_, ?_⟩
          · intro k told
            rw [byHeader] at told
            exact ⟨matched, (header_opens k).trans (first_keyword_some told)⟩
          · intro _ untold
            refine ⟨?_, first_keyword_none (byHeader ▸ untold)⟩
            cases mode with
            | regex => rfl
            | literal =>
                obtain ⟨k, told⟩ := ((literal_contains made).named line).mpr matched
                rw [told] at untold
                contradiction

end Matcher

end PolicyLookup
