import PolicyLookup.Proofs.Declaration.Opening
import PolicyLookup.Proofs.Regex.Word

set_option autoImplicit false

namespace PolicyLookup

open Regex

namespace Matcher

def signature (name : Text) : Text := ['(', '\x60'] ++ name ++ ['\'']

def keywordsExpr : Expr := .group .capture (.alt (.word Keyword.define.text) (.word Keyword.interface.text))

def keywordsRegex : Regex := .group true (.alt (word Keyword.define.text) (word Keyword.interface.text))

def literalExpr (name : Text) : Expr := .seq keywordsExpr (.word (signature name))

def literalRegex (name : Text) : Regex := .seq keywordsRegex (word (signature name))

theorem opening_eq (k : Keyword) (name : Text) : k.opening name = k.text ++ signature name := by
  simp [Keyword.opening, Keyword.header, signature]

theorem pattern_of_escape (name : Text) :
    patternOf (escape name) =
      '(' :: (escape Keyword.define.text ++
        '|' :: (escape Keyword.interface.text ++ ')' :: (escape (signature name) ++ []))) := by
  rw [signature, escape_append, escape_append, List.append_nil]
  rfl

def inChoice : Reading := ⟨false, Level.start, [⟨.capture, false, Level.start⟩], []⟩

def afterChoice : Reading := Reading.start.push keywordsExpr

theorem run_choice (n : Nat) (rest : Text) :
    Reading.run (1 + (Keyword.define.text.length + (1 + (Keyword.interface.text.length + (1 + n)))))
        Reading.start ('(' :: (escape Keyword.define.text ++
          '|' :: (escape Keyword.interface.text ++ ')' :: rest))) =
      Reading.run n afterChoice rest := by
  have opened (m : Nat) (more : Text) :
      Reading.run (1 + m) Reading.start ('(' :: (escape Keyword.define.text ++ more)) =
        Reading.run m inChoice (escape Keyword.define.text ++ more) := by
    rw [Nat.add_comm 1 m]
    rfl
  have next (m : Nat) (more : Text) :
      Reading.run (1 + m) (inChoice.pushWord Keyword.define.text) ('|' :: more) =
        Reading.run m ⟨false, ⟨[.word Keyword.define.text], []⟩, inChoice.groups, []⟩ more := by
    rw [Nat.add_comm 1 m]
    rfl
  have closed (m : Nat) (more : Text) :
      Reading.run (1 + m) (Reading.pushWord ⟨false, ⟨[.word Keyword.define.text], []⟩, inChoice.groups, []⟩
          Keyword.interface.text) (')' :: more) =
        Reading.run m afterChoice more := by
    rw [Nat.add_comm 1 m]
    rfl
  rw [opened, Reading.run_escape _ _ _ _ rfl, next, Reading.run_escape _ _ _ _ rfl, closed]

theorem finish_signature (name : Text) :
    (afterChoice.pushWord (signature name)).finish = .ok (literalExpr name) := by
  have items : (afterChoice.pushWord (signature name)).level.items.reverse =
      keywordsExpr :: (signature name).map fun c => Expr.literal ⟨c, false⟩ := by
    simp [Reading.pushWord, afterChoice, Reading.push, Level.push, Reading.start, Level.start]
  change Except.ok (Expr.ofAlt [Expr.ofSeq _]) = _
  rw [items]
  rfl

theorem literal_depth (name : Text) : (literalExpr name).depth .none ≤ depthLimit := by
  have ofSignature := (word_depth (signature name)).1
  have ofDefine := (word_depth Keyword.define.text).2
  have ofInterface := (word_depth Keyword.interface.text).2
  simp only [literalExpr, keywordsExpr, Expr.depth, depthLimit, ofSignature]
  simp
  omega

theorem of_text_escape (name : Text) :
    Expr.ofText (patternOf (escape name)) = .ok (literalExpr name) := by
  have enough := length_escape (signature name)
  have fuel : ∃ n, (patternOf (escape name)).length + 1 =
      1 + (Keyword.define.text.length + (1 + (Keyword.interface.text.length + (1 +
        ((signature name).length + n))))) := by
    refine ⟨(escape (signature name)).length - (signature name).length + 1, ?_⟩
    have ofDefine : (escape Keyword.define.text).length = Keyword.define.text.length := rfl
    have ofInterface : (escape Keyword.interface.text).length = Keyword.interface.text.length := rfl
    rw [pattern_of_escape]
    simp only [List.length_cons, List.length_append, List.length_nil, ofDefine, ofInterface]
    omega
  obtain ⟨n, fuel⟩ := fuel
  rw [Expr.ofText, fuel, pattern_of_escape, run_choice, Reading.run_escape _ _ _ _ rfl, Reading.run_nil,
    finish_signature]
  have shallow : ¬ depthLimit < (literalExpr name).depth .none := Nat.not_lt.mpr (literal_depth name)
  change (if depthLimit < (literalExpr name).depth .none then _ else _) = _
  rw [if_neg shallow]

theorem literal_meaning (name : Text) :
    (literalExpr name).meaning Flags.start = .ok (literalRegex name, Flags.start) := by
  simp only [literalExpr, keywordsExpr, Expr.meaning, word_meaning, Except.map]
  rfl

theorem bind_ok {ε α β : Type} {result : Except ε α} {a : α} (done : result = .ok a) (next : α → Except ε β) :
    (result >>= next) = next a := by
  rw [done]
  rfl

theorem of_query_literal (query : Text) :
    ofQuery query .literal =
      if (literalRegex query).isTooLarge then .error .tooLarge else .ok ⟨query, [literalRegex query]⟩ := by
  rw [ofQuery]
  exact (bind_ok (of_text_escape query) _).trans (bind_ok (literal_meaning query) _)

theorem literal_matcher {query : Text} {matcher : Matcher} (made : ofQuery query .literal = .ok matcher) :
    matcher = ⟨query, [literalRegex query]⟩ := by
  rw [of_query_literal] at made
  split at made
  · contradiction
  · exact (Except.ok.inj made).symm

theorem spans_keywords (text : Text) (p q : Nat) :
    Spans text.toArray keywordsRegex p q ↔ ∃ k : Keyword, q = p + k.text.length ∧ k.text <+: text.drop p := by
  rw [keywordsRegex, Spans, Spans, spans_word, spans_word]
  constructor
  · intro either
    rcases either with ofDefine | ofInterface
    · exact ⟨.define, ofDefine⟩
    · exact ⟨.interface, ofInterface⟩
  · rintro ⟨k, there⟩
    cases k with
    | define => exact Or.inl there
    | interface => exact Or.inr there

theorem spans_keyworded (r : Regex) (text : Text) (p q : Nat) :
    Spans text.toArray (.seq keywordsRegex r) p q ↔
      ∃ k : Keyword, k.text <+: text.drop p ∧ Spans text.toArray r (p + k.text.length) q := by
  rw [Spans]
  constructor
  · rintro ⟨middle, one, rest⟩
    obtain ⟨k, rfl, there⟩ := (spans_keywords text p middle).mp one
    exact ⟨k, there, rest⟩
  · rintro ⟨k, there, rest⟩
    exact ⟨_, (spans_keywords text p _).mpr ⟨k, rfl, there⟩, rest⟩

theorem spans_keyworded_word (w text : Text) (p q : Nat) :
    Spans text.toArray (.seq keywordsRegex (word w)) p q ↔
      ∃ k : Keyword, q = p + (k.text ++ w).length ∧ k.text ++ w <+: text.drop p := by
  simp only [spans_keyworded, spans_word, prefix_drop_append, List.length_append, Nat.add_assoc]
  constructor
  · rintro ⟨k, there, stop, later⟩
    exact ⟨k, stop, there, later⟩
  · rintro ⟨k, stop, there, later⟩
    exact ⟨k, there, stop, later⟩

def SpansOpenings (r : Regex) (names : Text → Prop) : Prop :=
  ∀ (t : Text) (p q : Nat), Spans t.toArray r p q ↔
    ∃ (k : Keyword) (name : Text), names name ∧ q = p + (k.opening name).length ∧ k.opening name <+: t.drop p

theorem spans_literal (name : Text) : SpansOpenings (literalRegex name) (· = name) := by
  intro t p q
  simp only [exists_eq_left, opening_eq]
  exact spans_keyworded_word (signature name) t p q

theorem prefix_drop_iff (piece t : Text) (q : Nat) :
    piece <+: t.drop q ↔ t.take q ++ piece <+: t := by
  have whole := List.take_append_drop q t
  constructor
  · rintro ⟨after, rest⟩
    exact ⟨after, by rw [List.append_assoc, rest, whole]⟩
  · rintro ⟨after, rest⟩
    rw [← List.prefix_append_right_inj (t.take q), whole]
    exact ⟨after, rest⟩

theorem prefix_drop_of {before piece t : Text} (there : before ++ piece <+: t) : piece <+: t.drop before.length := by
  obtain ⟨after, whole⟩ := there
  refine ⟨after, ?_⟩
  rw [← whole, List.append_assoc, List.drop_left]

section

variable {r : Regex} {names : Text → Prop}

theorem is_match_any_named (spans : SpansOpenings r names) (t : Text) :
    isMatchAny [r] t.toArray = true ↔ ∃ (k : Keyword) (name : Text), names name ∧ k.opening name <:+: t := by
  rw [is_match_any_iff]
  constructor
  · rintro ⟨p, _, _, member, q, there⟩
    obtain rfl := List.mem_singleton.mp member
    obtain ⟨k, name, named, _, opens⟩ := (spans t p q).mp there
    exact ⟨k, name, named, opens.isInfix.trans (List.drop_suffix p t).isInfix⟩
  · rintro ⟨k, name, named, before, after, whole⟩
    have within : before.length ≤ t.toArray.size := by simp [← whole]
    have opens := prefix_drop_of ⟨after, whole⟩
    exact ⟨before.length, within, r, List.mem_singleton_self r, _, (spans t _ _).mpr ⟨k, name, named, rfl, opens⟩⟩

theorem find_first_named (spans : SpansOpenings r names) {t before : Text} {k : Keyword}
    (first : FirstNamed names t k before) : findFirst? [r] t.toArray = some (before.length, 0) := by
  obtain ⟨name, named, there⟩ := first.there
  have within := there.length_le
  rw [List.length_append] at within
  refine find_first_iff.mpr ⟨?_, ?_, ?_, ?_⟩
  · rw [List.size_toArray]
    omega
  · exact ⟨r, _, rfl, (spans t _ _).mpr ⟨k, name, named, rfl, prefix_drop_of there⟩⟩
  · intro p q earlier _ member there
    obtain rfl := List.mem_singleton.mp member
    obtain ⟨other, name, named, _, start⟩ := (spans t p q).mp there
    have bound := first.least other _ name named ((prefix_drop_iff _ t p).mp start)
    rw [List.length_take] at bound
    omega
  · intro i _ q less
    contradiction

end

theorem keyword_at_start (k : Keyword) (after : Text) : keywordAt? (k.text ++ after) = some k := by
  cases k <;> rfl

theorem keyword_first {matcher : Matcher} {line : Text} {start : Nat} {k : Keyword}
    (found : findFirst? matcher.choices (Text.trim line).toArray = some (start, 0))
    (there : k.text <+: (Text.trim line).drop start) : matcher.keyword? line = some k := by
  obtain ⟨after, rest⟩ := there
  have told : keywordAt? ((Text.trim line).drop start) = some k := by rw [← rest, keyword_at_start]
  rw [keyword?, found]
  simp only [told, Option.some_or]

theorem keyword_unmatched {matcher : Matcher} {line : Text} (absent : matcher.isMatch line = false) :
    matcher.keyword? line = none := by
  rw [keyword?, find_first_none_iff_no_match.mpr absent]

theorem keyword_named {matcher : Matcher} {r : Regex} {names : Text → Prop} (single : matcher.choices = [r])
    (spans : SpansOpenings r names) {line before : Text} {k : Keyword}
    (first : FirstNamed names (Text.trim line) k before) : matcher.keyword? line = some k := by
  obtain ⟨name, _, there⟩ := first.there
  have opens := prefix_drop_of there
  rw [opening_eq] at opens
  exact keyword_first (single ▸ find_first_named spans first) ((List.prefix_append _ _).trans opens)

theorem is_match_literal {query : Text} {matcher : Matcher} (made : ofQuery query .literal = .ok matcher)
    (line : Text) :
    matcher.isMatch line = true ↔ ∃ k : Keyword, k.opening query <:+: line := by
  rw [literal_matcher made, isMatch, is_match_any_named (spans_literal query)]
  simp only [exists_eq_left]
  constructor
  · rintro ⟨k, there⟩
    exact ⟨k, there.trans (trim_inside line)⟩
  · rintro ⟨k, there⟩
    exact ⟨k, opening_in_trim there⟩

theorem keyword_literal {query line before : Text} {k : Keyword} {matcher : Matcher}
    (made : ofQuery query .literal = .ok matcher) (first : FirstOpening query line k before) :
    matcher.keyword? line = some k := by
  obtain ⟨inner, firstInner⟩ := first_opening_trim first
  obtain rfl := literal_matcher made
  exact keyword_named rfl (spans_literal query) ((first_named_iff query _ k inner).mpr firstInner)

end Matcher

end PolicyLookup
