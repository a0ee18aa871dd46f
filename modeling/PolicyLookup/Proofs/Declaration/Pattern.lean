import PolicyLookup.Proofs.Declaration.Literal
import PolicyLookup.Proofs.Regex.Normal

set_option autoImplicit false

namespace PolicyLookup.Matcher

open Regex

def quote : Text := ['(', '\x60']

theorem pattern_of_eq (name : Text) :
    patternOf name = '(' :: (escape Keyword.define.text ++
      '|' :: (escape Keyword.interface.text ++ ')' :: '\\' :: '(' :: '\x60' :: (name ++ ['\'']))) := rfl

def beforeName : Reading := afterChoice.pushAll (Expr.singles quote)

theorem run_pattern (name : Text) :
    Reading.run ((patternOf name).length + 1) Reading.start (patternOf name) =
      Reading.run (name.length + 3) beforeName (name ++ ['\'']) := by
  have fuel : (patternOf name).length + 1 = 1 + (Keyword.define.text.length + (1 +
      (Keyword.interface.text.length + (1 + (name.length + 3 + 1 + 1))))) := by
    rw [pattern_of_eq]
    simp [Keyword.text, Keyword.name, escape, isMeta]
    omega
  rw [fuel, pattern_of_eq, run_choice, Reading.run_escaped _ _ _ _ rfl rfl, Reading.run_plain _ _ _ _ rfl rfl]
  rfl

theorem of_text_pattern {name : Text} {e : Expr}
    (read : Reading.run (name.length + 3) beforeName (name ++ ['\'']) = .ok e) (shallow : e.depth .none ≤ depthLimit) :
    Expr.ofText (patternOf name) = .ok e := by
  have whole := (run_pattern name).trans read
  refine (bind_ok whole _).trans ?_
  rw [if_neg (Nat.not_lt.mpr shallow)]

theorem finish_level (level : Regex.Level) : Reading.finish ⟨false, level, [], []⟩ = .ok level.close := rfl

theorem run_close (n : Nat) (choices : List Expr) (es : List Expr) :
    Reading.run (n + 1) (Reading.pushAll ⟨false, ⟨choices, []⟩, [], []⟩ es) ['\''] =
      .ok (Regex.Level.mk choices (es ++ Expr.singles ['\'']).reverse).close := by
  rw [Reading.run_plain _ _ _ _ rfl rfl, Reading.run_nil, ← finish_level]
  simp [Reading.pushAll, Reading.push, Regex.Level.push, Expr.singles]

def keywordedItems (es : List Expr) : List Expr := keywordsExpr :: (Expr.singles quote ++ es)

def keyworded (rs : List Regex) : Regex := .seq keywordsRegex (row (singles quote ++ rs))

theorem before_name_push (es : List Expr) :
    beforeName.pushAll es = Reading.pushAll ⟨false, ⟨[], []⟩, [], []⟩ (keywordedItems es) := by
  rw [keywordedItems, ← List.cons_append, Reading.push_all_append]
  rfl

theorem keywords_meaning : keywordsExpr.meaning Flags.start = .ok (keywordsRegex, Flags.start) := by
  simp only [keywordsExpr, Expr.meaning, word_meaning, Except.map]
  rfl

theorem keyworded_mean {es : List Expr} {rs : List Regex} (mean : List.Forall₂ (Means Flags.start) es rs) :
    Means Flags.start (.ofSeq (keywordedItems es)) (keyworded rs) :=
  row_meaning (.cons keywords_meaning (List.rel_append (singles_mean quote) mean))

theorem keyworded_shallow {es : List Expr} (shallow : ∀ e ∈ es, ∀ chain, e.depth chain ≤ 3) :
    ∀ e ∈ keywordedItems es, ∀ chain, e.depth chain ≤ 3 := by
  rw [keywordedItems, List.forall_mem_cons, List.forall_mem_append]
  refine ⟨?_, singles_depth 3 quote, shallow⟩
  intro chain
  cases chain <;> decide

theorem spans_keyworded_row (rs : List Regex) (t : Text) (p q : Nat) :
    Spans t.toArray (keyworded rs) p q ↔
      ∃ k : Keyword, k.header <+: t.drop p ∧ Spans t.toArray (row rs) (p + k.header.length) q := by
  have header (k : Keyword) : k.header = k.text ++ quote := rfl
  simp only [keyworded, spans_keyworded, spans_row_append, spans_singles, header, prefix_drop_append,
    List.length_append, ← Nat.add_assoc]
  constructor
  · rintro ⟨k, keyword, _, ⟨rfl, quoted⟩, rest⟩
    exact ⟨k, ⟨keyword, quoted⟩, rest⟩
  · rintro ⟨k, ⟨keyword, quoted⟩, rest⟩
    exact ⟨k, keyword, _, ⟨rfl, quoted⟩, rest⟩

theorem of_query_regex {query : Text} {e : Expr} {regex : Regex} {after : Flags}
    (read : Expr.ofText (patternOf query) = .ok e) (means : e.meaning Flags.start = .ok (regex, after)) :
    ofQuery query .regex =
      if regex.isTooLarge then .error .tooLarge else .ok ⟨query, regex.alternatives⟩ := by
  rw [ofQuery]
  exact (bind_ok read _).trans (bind_ok means _)

theorem of_query_outcome {query : Text} {e : Expr} {regex : Regex} {after : Flags} {bound : Nat}
    (read : Expr.ofText (patternOf query) = .ok e) (means : e.meaning Flags.start = .ok (regex, after))
    (small : ∀ direction, automatonSize direction regex ≤ bound) :
    (ofQuery query .regex = .error .tooLarge ∧ regex.isTooLarge = true ∧ sizeLimit < bound) ∨
      ofQuery query .regex = .ok ⟨query, regex.alternatives⟩ := by
  have made := of_query_regex read means
  cases large : regex.isTooLarge with
  | false =>
      rw [large, if_neg Bool.false_ne_true] at made
      exact Or.inr made
  | true =>
      rw [large, if_pos rfl] at made
      refine Or.inl ⟨made, rfl, ?_⟩
      by_contra within
      rw [fits_of_small small (Nat.le_of_not_lt within)] at large
      contradiction

theorem keywords_size (direction : Direction) : keywordsRegex.size direction false ≤ 1100 := by
  cases direction <;> decide +kernel

theorem keywords_is_part : IsPart keywordsRegex := by
  rw [IsPart]
  decide +kernel

theorem keyworded_parts {rs : List Regex} (parts : ∀ r ∈ rs, IsPart r) :
    ∀ r ∈ keywordsRegex :: (singles quote ++ rs), IsPart r := by
  rw [List.forall_mem_cons, List.forall_mem_append]
  exact ⟨keywords_is_part, singles_are_parts quote, parts⟩

theorem keyworded_normal {rs : List Regex} (parts : ∀ r ∈ rs, IsPart r) : (keyworded rs).normal = keyworded rs :=
  row_normal (keyworded_parts parts)

theorem keyworded_size (direction : Direction) (r : Regex) :
    (Regex.seq keywordsRegex r).size direction false ≤ 1100 + r.size direction false :=
  Nat.add_le_add_right (keywords_size direction) _

theorem keyworded_row_size {direction : Direction} {rs : List Regex} {n : Nat} (atLeast : 128 ≤ n)
    (small : ∀ r ∈ rs, ∀ inChoice, r.size direction inChoice ≤ n) :
    (keyworded rs).size direction false ≤ 1132 + n * (rs.length + 2) := by
  have items : ∀ r ∈ singles quote ++ rs, ∀ inChoice, r.size direction inChoice ≤ n := by
    rw [List.forall_mem_append]
    refine ⟨?_, small⟩
    intro r inQuote inChoice
    exact Nat.le_trans (singles_size direction quote r inQuote inChoice) atLeast
  have inRow := row_size items false
  have count : (singles quote ++ rs).length = rs.length + 2 := by
    rw [List.length_append, Nat.add_comm]
    rfl
  have whole : (keyworded rs).size direction false ≤ _ := keyworded_size direction _
  rw [count] at inRow
  omega

theorem automaton_size (direction : Direction) (r : Regex) :
    automatonSize direction r ≤ 208 + r.normal.size direction false := by
  rw [automatonSize, Regex.size]
  simp only [stateBytes, rangeBytes, forkBytes, choiceBytes]
  split <;> split <;> omega

end PolicyLookup.Matcher
