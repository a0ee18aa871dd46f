import PolicyLookup.Proofs.Declaration.Literal
import PolicyLookup.Proofs.Source.Stable
import PolicyLookup.Proofs.Text.Cut

set_option autoImplicit false

namespace PolicyLookup

namespace Location

variable {query : Text} {matcher : Matcher}

theorem opening_single (k : Keyword) (single : '\n' ∉ query) : '\n' ∉ k.opening query := by
  cases k <;> simpa [Keyword.opening, Keyword.header, Keyword.text, Keyword.name] using single

theorem unmatched_of_absent (made : Matcher.ofQuery query .literal = .ok matcher) {text : Text}
    (absent : ∀ k : Keyword, ¬ k.opening query <:+: text) :
    ∀ line ∈ Text.lines text, matcher.isMatch line = false := by
  intro line member
  rw [← Bool.not_eq_true, Matcher.is_match_literal made]
  rintro ⟨k, there⟩
  exact absent k (there.trans (Text.line_inside member))

theorem unmatched_of_newline (made : Matcher.ofQuery query .literal = .ok matcher)
    (newline : '\n' ∈ query) (text : Text) :
    ∀ line ∈ Text.lines text, matcher.isMatch line = false := by
  intro line member
  rw [← Bool.not_eq_true, Matcher.is_match_literal made]
  rintro ⟨k, before, after, whole⟩
  obtain ⟨start, rest, rfl⟩ := List.append_of_mem newline
  have goesOn : line = (before ++ k.header ++ start) ++ '\n' :: (rest ++ ['\''] ++ after) := by
    rw [← whole]
    simp [Keyword.opening]
  have nothing := Text.line_shape member goesOn
  simp at nothing

theorem first_line {text before : Text} {k : Keyword} (single : '\n' ∉ query)
    (first : FirstOpening query text k before) :
    ∃ upper line start lower, Text.lines text = upper ++ line :: lower ∧
      upper.length = before.count '\n' ∧ FirstOpening query line k start ∧
      ∀ other ∈ upper, ∀ earlier : Keyword, ¬ earlier.opening query <:+: other := by
  obtain ⟨after, whole⟩ := first.there
  obtain ⟨above, start, rest, below, complete, rfl, _, split, rows⟩ :=
    Text.line_of_piece whole.symm (k.opening_ne_nil query) (opening_single k single)
  have wholeText : text = above ++ (start ++ k.opening query ++ after) := by
    rw [← whole]
    simp
  have lineOf : text = above ++ (start ++ k.opening query ++ rest) ++ below := by
    rw [← Text.flatten_lines text, split, List.flatten_append, List.flatten_cons, Text.flatten_lines,
      Text.flatten_lines, ← List.append_assoc]
  refine ⟨Text.lines above, start ++ k.opening query ++ rest, start, Text.lines below, split, rows,
    ⟨⟨rest, rfl⟩, ?_⟩, ?_⟩
  · intro other earlier sooner
    have shifted : (above ++ earlier) ++ other.opening query <+: text := by
      rw [lineOf, List.append_assoc, List.append_assoc, List.prefix_append_right_inj]
      exact sooner.trans (List.prefix_append _ _)
    have bound := first.least other _ shifted
    simp only [List.length_append] at bound
    omega
  -- An opening in a line above ends before `above` does, and so starts before the first one.
  · intro line member other inside
    obtain ⟨earlier, later, there⟩ := inside.trans (Text.line_inside member)
    have sooner : earlier ++ other.opening query <+: text := by
      rw [wholeText, ← there]
      exact ⟨later ++ (start ++ k.opening query ++ after), by simp only [List.append_assoc]⟩
    have bound := first.least other earlier sooner
    have positive := List.length_pos_iff.mpr (other.opening_ne_nil query)
    simp only [← there, List.length_append] at bound
    omega

theorem first_in_literal (made : Matcher.ofQuery query .literal = .ok matcher) (single : '\n' ∉ query)
    {text before : Text} {k : Keyword} (first : FirstOpening query text k before) (path : Path) :
    firstIn matcher path (Text.lines text) = some ⟨path, before.count '\n', some k⟩ := by
  obtain ⟨upper, line, start, lower, split, rows, firstHere, above⟩ := first_line single first
  obtain ⟨after, whole⟩ := firstHere.there
  have hit : matcher.isMatch line = true :=
    (Matcher.is_match_literal made line).mpr ⟨k, start, after, whole⟩
  have missed : ∀ other ∈ upper, matcher.isMatch other = false := by
    intro other member
    rw [← Bool.not_eq_true, Matcher.is_match_literal made]
    rintro ⟨earlier, inside⟩
    exact above other member earlier inside
  rw [split, first_in_row path missed hit, rows, Matcher.keyword_literal made firstHere]

def Absent (query text : Text) : Prop := ∀ k : Keyword, ¬ k.opening query <:+: text

section

variable {σ : Type} {source : Source σ} {contents : Path → Option Text} {valid : σ → Prop}

theorem find_literal_first (shown : source.Shows contents valid)
    (made : Matcher.ofQuery query .literal = .ok matcher) (single : '\n' ∉ query)
    {session : Session σ} (start : valid session.source) (earlier later : List Path) {path : Path}
    {text before : Text} {k : Keyword}
    (absent : ∀ other ∈ earlier, ∃ t, contents other = some t ∧ Absent query t)
    (there : contents path = some text) (first : FirstOpening query text k before) :
    ((find source matcher (earlier ++ path :: later)).run session).1 =
      .ok (some ⟨path, before.count '\n', some k⟩) := by
  have unmatched : ∀ other ∈ earlier, Unmatched matcher contents other := by
    intro other member
    obtain ⟨t, present, missing⟩ := absent other member
    exact ⟨t, present, unmatched_of_absent made missing⟩
  obtain ⟨after, _, ran⟩ := search_first shown (earlier ++ path :: later).length earlier later path
    text _ unmatched there (first_in_literal made single first path) session start
  rw [find, ran]

theorem find_literal_nowhere (shown : source.Shows contents valid) {session : Session σ}
    (start : valid session.source) {files : List Path}
    (unmatched : ∀ path ∈ files, Unmatched matcher contents path) :
    ((find source matcher files).run session).1 = .ok none := by
  obtain ⟨after, _, ran⟩ := search_nowhere shown files.length files unmatched session start
  rw [find, ran]

theorem find_literal_single (shown : source.Shows contents valid)
    (made : Matcher.ofQuery query .literal = .ok matcher) (single : '\n' ∉ query)
    {session : Session σ} (start : valid session.source) {path : Path} {text : Text}
    (there : contents path = some text) :
    let located := ((find source matcher [path]).run session).1
    (located = .ok none ↔ Absent query text) ∧
      ((∃ place, located = .ok (some place)) ↔ ∃ k : Keyword, k.opening query <:+: text) ∧
      ∀ place, located = .ok (some place) ↔
        ∃ k before, FirstOpening query text k before ∧
          place = ⟨path, before.count '\n', some k⟩ := by
  intro located
  have somewhere {before : Text} {k : Keyword} (first : FirstOpening query text k before) :
      located = .ok (some ⟨path, before.count '\n', some k⟩) :=
    find_literal_first shown made single start [] [] (by simp) there first
  by_cases present : ∃ k : Keyword, k.opening query <:+: text
  · obtain ⟨other, inside⟩ := present
    obtain ⟨k, before, first⟩ := first_opening_exists inside
    have found := somewhere first
    refine ⟨⟨?_, ?_⟩, ⟨fun _ => ⟨other, inside⟩, fun _ => ⟨_, found⟩⟩, ?_⟩
    · intro missing
      rw [found] at missing
      cases missing
    · intro missing
      exact absurd inside (missing other)
    · intro place
      constructor
      · intro same
        rw [found] at same
        exact ⟨k, before, first, (Option.some.inj (Except.ok.inj same)).symm⟩
      · rintro ⟨_, _, alsoFirst, rfl⟩
        exact somewhere alsoFirst
  · have missing : Absent query text := fun k inside => present ⟨k, inside⟩
    have nothing : located = .ok none := by
      apply find_literal_nowhere shown start
      intro other member
      obtain rfl := List.mem_singleton.mp member
      exact ⟨text, there, unmatched_of_absent made missing⟩
    refine ⟨⟨fun _ => missing, fun _ => nothing⟩, ⟨?_, fun inside => absurd inside present⟩, ?_⟩
    · rintro ⟨place, found⟩
      rw [nothing] at found
      cases found
    · intro place
      constructor
      · intro found
        rw [nothing] at found
        cases found
      · rintro ⟨k, before, first, _⟩
        exact absurd ⟨k, Text.infix_iff_before.mpr ⟨before, first.there⟩⟩ present

-- In one file the answer is where a declaration first opens in the whole text, in many it is that
-- of the first file in which one opens. No line holds a query with a newline.
theorem find_literal_iff_opening (shown : source.Shows contents valid)
    (made : Matcher.ofQuery query .literal = .ok matcher) (session : Session σ)
    (start : valid session.source) :
    let located (files : List Path) := ((find source matcher files).run session).1
    ('\n' ∈ query → ∀ files, (∀ path ∈ files, ∃ text, contents path = some text) →
      located files = .ok none) ∧
    ('\n' ∉ query →
      (∀ path text, contents path = some text →
        (located [path] = .ok none ↔ Absent query text) ∧
        ((∃ place, located [path] = .ok (some place)) ↔ ∃ k : Keyword, k.opening query <:+: text) ∧
        ∀ place, located [path] = .ok (some place) ↔
          ∃ k before, FirstOpening query text k before ∧
            place = ⟨path, before.count '\n', some k⟩) ∧
      (∀ files, (∀ path ∈ files, ∃ text, contents path = some text ∧ Absent query text) →
        located files = .ok none) ∧
      ∀ earlier path later text k before,
        (∀ other ∈ earlier, ∃ t, contents other = some t ∧ Absent query t) →
        contents path = some text → FirstOpening query text k before →
        located (earlier ++ path :: later) = .ok (some ⟨path, before.count '\n', some k⟩)) := by
  intro located
  refine ⟨?_, ?_⟩
  · intro newline files readable
    apply find_literal_nowhere shown start
    intro path member
    obtain ⟨text, there⟩ := readable path member
    exact ⟨text, there, unmatched_of_newline made newline text⟩
  intro single
  refine ⟨?_, ?_, ?_⟩
  · intro path text there
    exact find_literal_single shown made single start there
  · intro files absent
    apply find_literal_nowhere shown start
    intro path member
    obtain ⟨text, there, missing⟩ := absent path member
    exact ⟨text, there, unmatched_of_absent made missing⟩
  · intro earlier path later text k before absent there first
    exact find_literal_first shown made single start earlier later absent there first

theorem absent_a_dot_b : Absent "a.b".toList "define(`a-b', 1)\n".toList := by
  intro k
  cases k <;> decide +kernel

theorem find_literal_in_second_file :
    FirstOpening "a.b".toList "define(`a.b', 1)\n".toList .define [] ∧
      ((find Memory.source ⟨"a.b".toList, [Matcher.literalRegex "a.b".toList]⟩
          [Path.ofText "z.if".toList, Path.ofText "a.if".toList]).run
        ⟨⟨[(Path.ofText "z.if".toList, "define(`a-b', 1)\n".toList),
          (Path.ofText "a.if".toList, "define(`a.b', 1)\n".toList)]⟩, []⟩).1 =
        .ok (some ⟨Path.ofText "a.if".toList, 0, some .define⟩) := by
  have small : ¬ (Matcher.literalRegex "a.b".toList).isTooLarge = true := by decide +kernel
  have made := Matcher.of_query_literal "a.b".toList
  rw [if_neg small] at made
  have opens : FirstOpening "a.b".toList "define(`a.b', 1)\n".toList .define [] :=
    ⟨by decide, fun _ _ _ => Nat.zero_le _⟩
  have all := find_literal_iff_opening (memory_shows
    ⟨[(Path.ofText "z.if".toList, "define(`a-b', 1)\n".toList),
      (Path.ofText "a.if".toList, "define(`a.b', 1)\n".toList)]⟩) made ⟨_, []⟩ rfl
  refine ⟨opens, (all.2 (by decide)).2.2 [Path.ofText "z.if".toList] _ [] _ .define [] ?_ (by decide) opens⟩
  intro other member
  obtain rfl := List.mem_singleton.mp member
  exact ⟨_, by decide, absent_a_dot_b⟩

end

end Location

end PolicyLookup
