import PolicyLookup.Proofs.Declaration.Literal
import PolicyLookup.Proofs.Declaration.Written
import PolicyLookup.Proofs.Source.Memory
import PolicyLookup.Proofs.Source.Stable

set_option autoImplicit false

namespace PolicyLookup

abbrev Policy := List (Path × List Written)

namespace Policy

def declarations (policy : Policy) : List Written := policy.flatMap Prod.snd

def contents (policy : Policy) : List (Path × Text) :=
  policy.map fun file => (file.1, file.2.flatMap Written.render)

structure Sound (policy : Policy) : Prop where
  paths : policy.Pairwise fun a b => a.1.same b.1 = false
  each : ∀ d ∈ policy.declarations, d.Sound
  names : (policy.declarations.map Written.name).Nodup

theorem contents_distinct {policy : Policy} (sound : policy.Sound) : Memory.Distinct policy.contents := by
  exact List.pairwise_map.mpr sound.paths

theorem lines_of_file {ds : List Written} (sound : ∀ d ∈ ds, d.Sound) :
    Text.lines (ds.flatMap Written.render) = (ds.flatMap Written.rows).map (· ++ ['\n']) := by
  have laid : ds.flatMap Written.render = Text.layRows (ds.flatMap Written.rows) := by
    simp only [Text.layRows, List.flatMap_assoc]
    rfl
  have single : ∀ row ∈ ds.flatMap Written.rows, '\n' ∉ row := by
    intro row member
    obtain ⟨d, inside, here⟩ := List.mem_flatMap.mp member
    exact Written.rows_single (sound d inside) row here
  rw [laid, Text.lines_lay_rows single]

section

variable {name : Text} {matcher : Matcher}

theorem row_unmatched (made : Matcher.ofQuery name .literal = .ok matcher) (single : '\n' ∉ name)
    (closed : '\'' ∉ name) {d : Written} (sound : d.Sound) (other : d.name ≠ name) {row : Text}
    (member : row ∈ d.rows) : matcher.isMatch (row ++ ['\n']) = false := by
  rw [← Bool.not_eq_true, Matcher.is_match_literal made]
  rintro ⟨k, there⟩
  have free : '\n' ∉ k.opening name := by
    have header := k.header_free_of (c := '\n') (by decide)
    simp [Keyword.opening, header, single]
  rcases Text.infix_beside there free with inside | nothing
  · exact other (Written.opening_in_rows sound closed member inside).symm
  · exact k.opening_ne_nil name (List.infix_nil.mp nothing)

theorem rows_unmatched (made : Matcher.ofQuery name .literal = .ok matcher) (single : '\n' ∉ name)
    (closed : '\'' ∉ name) {ds : List Written} (sound : ∀ d ∈ ds, d.Sound)
    (others : ∀ d ∈ ds, d.name ≠ name) :
    ∀ line ∈ (ds.flatMap Written.rows).map (· ++ ['\n']), matcher.isMatch line = false := by
  intro line member
  obtain ⟨row, inside, rfl⟩ := List.mem_map.mp member
  obtain ⟨d, here, inRows⟩ := List.mem_flatMap.mp inside
  exact row_unmatched made single closed (sound d here) (others d here) inRows

theorem header_matched {d : Written} (made : Matcher.ofQuery d.name .literal = .ok matcher) :
    matcher.isMatch (d.header ++ ['\n']) = true ∧ matcher.keyword? (d.header ++ ['\n']) = some d.keyword := by
  have start : d.keyword.opening d.name <+: d.header ++ ['\n'] :=
    ⟨d.body.afterName ++ ['\n'], by simp [Written.header]⟩
  have first : FirstOpening d.name (d.header ++ ['\n']) d.keyword [] := ⟨start, fun _ _ _ => Nat.zero_le _⟩
  exact ⟨(Matcher.is_match_literal made _).mpr ⟨d.keyword, start.isInfix⟩, Matcher.keyword_literal made first⟩

end

section

variable {policy before after : Policy} {path : Path} {above below : List Written} {d : Written}

theorem declarations_at (place : policy = before ++ (path, above ++ d :: below) :: after) :
    policy.declarations = (before.declarations ++ above) ++ d :: (below ++ after.declarations) := by
  simp [place, declarations]

theorem earlier_others (sound : policy.Sound)
    (place : policy = before ++ (path, above ++ d :: below) :: after) :
    ∀ e ∈ before.declarations ++ above, e.Sound ∧ e.name ≠ d.name := by
  intro e member
  have names := sound.names
  have each := sound.each e
  rw [declarations_at place] at names each
  rw [List.map_append, List.nodup_append] at names
  have apart := names.2.2 e.name (List.mem_map_of_mem member) d.name (by simp)
  exact ⟨each (List.mem_append_left _ member), apart⟩

theorem sound_at (sound : policy.Sound)
    (place : policy = before ++ (path, above ++ d :: below) :: after) :
    d.Sound ∧ ∀ e ∈ above ++ d :: below, e.Sound := by
  have inside : ∀ e ∈ above ++ d :: below, e.Sound := by
    intro e member
    apply sound.each
    rw [place, declarations, List.mem_flatMap]
    exact ⟨_, List.mem_append_right before List.mem_cons_self, member⟩
  exact ⟨inside d (by simp), inside⟩

theorem matcher_of_small (small : Matcher.ofQuery d.name .literal ≠ .error .tooLarge) :
    ∃ matcher, Matcher.ofQuery d.name .literal = .ok matcher := by
  rw [Matcher.of_query_literal] at small ⊢
  split at small
  · exact absurd rfl small
  · rename_i fits
    exact ⟨_, if_neg fits⟩

theorem lines_at (sound : policy.Sound)
    (place : policy = before ++ (path, above ++ d :: below) :: after) :
    Text.lines ((above ++ d :: below).flatMap Written.render) =
      (above.flatMap Written.rows).map (· ++ ['\n']) ++
        (d.rows.map (· ++ ['\n']) ++ (below.flatMap Written.rows).map (· ++ ['\n'])) := by
  rw [lines_of_file (sound_at sound place).2]
  simp only [List.flatMap_append, List.flatMap_cons, List.map_append]

theorem found_at (sound : policy.Sound)
    (place : policy = before ++ (path, above ++ d :: below) :: after) {matcher : Matcher}
    (made : Matcher.ofQuery d.name .literal = .ok matcher) :
    Location.firstIn matcher path (Text.lines ((above ++ d :: below).flatMap Written.render)) =
      some ⟨path, (above.flatMap Written.rows).length, some d.keyword⟩ := by
  have here := (sound_at sound place).1
  have others := earlier_others sound place
  have missed := rows_unmatched made here.nameSingle here.nameClose
    (fun e member => (others e (List.mem_append_right _ member)).1)
    (fun e member => (others e (List.mem_append_right _ member)).2)
  obtain ⟨hit, keyword⟩ := header_matched made
  rw [lines_at sound place, Written.rows, List.map_cons, List.cons_append]
  rw [first_in_row path missed hit, keyword, List.length_map]

theorem stored_at (sound : policy.Sound) {file : Path × List Written} (member : file ∈ policy) :
    (Memory.ofList policy.contents).find? file.1 = some (file.2.flatMap Written.render) := by
  have distinct := contents_distinct sound
  have files := Memory.files_of_list distinct
  apply Memory.find_of_mem
  · rwa [files]
  · rw [files]
    exact List.mem_map.mpr ⟨file, member, rfl⟩

theorem candidates_at (sound : policy.Sound)
    (place : policy = before ++ (path, above ++ d :: below) :: after) (log : List Event) :
    Memory.source.candidates.run ⟨Memory.ofList policy.contents, log⟩ =
      (.ok (before.map Prod.fst ++ path :: after.map Prod.fst), ⟨Memory.ofList policy.contents, log⟩) := by
  have files := Memory.files_of_list (contents_distinct sound)
  have paths : (Memory.ofList policy.contents).paths = before.map Prod.fst ++ path :: after.map Prod.fst := by
    rw [Memory.paths, files, contents, place, List.map_append, List.map_cons, List.map_append,
      List.map_cons, List.map_map, List.map_map]
    rfl
  rw [← paths]
  apply Memory.run_candidates
  rw [files, contents, place]
  simp

-- No other declaration has this name, so no row of an earlier file opens it.
theorem earlier_unmatched (sound : policy.Sound)
    (place : policy = before ++ (path, above ++ d :: below) :: after) {matcher : Matcher}
    (made : Matcher.ofQuery d.name .literal = .ok matcher) :
    ∀ other ∈ before.map Prod.fst, Unmatched matcher (Memory.ofList policy.contents).find? other := by
  have here := (sound_at sound place).1
  intro other member
  obtain ⟨file, earlier, rfl⟩ := List.mem_map.mp member
  have inside (e : Written) (written : e ∈ file.2) : e.Sound ∧ e.name ≠ d.name :=
    earlier_others sound place e (List.mem_append_left _ (List.mem_flatMap.mpr ⟨file, earlier, written⟩))
  refine ⟨_, stored_at sound (place ▸ List.mem_append_left _ earlier), ?_⟩
  rw [lines_of_file fun e written => (inside e written).1]
  exact rows_unmatched made here.nameSingle here.nameClose (fun e written => (inside e written).1)
    fun e written => (inside e written).2

end

theorem find_written {policy before after : Policy} {path : Path} {above below : List Written}
    {d : Written} (sound : policy.Sound)
    (place : policy = before ++ (path, above ++ d :: below) :: after)
    (small : Matcher.ofQuery d.name .literal ≠ .error .tooLarge) (log : List Event) :
    ((Lookup.find Memory.source .literal d.name).run ⟨Memory.ofList policy.contents, log⟩).1 =
      .ok ⟨⟨path, (above.flatMap Written.rows).length, some d.keyword⟩, d.body.shape, d.render⟩ := by
  obtain ⟨matcher, made⟩ := matcher_of_small small
  have here := (sound_at sound place).1
  have unmatched := earlier_unmatched sound place made
  have member : (path, above ++ d :: below) ∈ policy := by simp [place]
  have found := found_at sound place made
  rw [find_stable (memory_shows _) made (candidates_at sound place log) rfl unmatched
    (stored_at sound member) found, lines_at sound place]
  exact Written.of_lines_rows here _ _ _ (by rw [List.length_map])

-- A name that starts another one, and a body that looks like the start of a declaration.
def sample : Policy :=
  [(Path.ofText "b.if".toList, [⟨.interface, "a.b*".toList, .block ["define('a.b')".toList]⟩]),
    (Path.ofText "a.if".toList, [⟨.define, "a.b*c".toList, .inline "1".toList⟩,
      ⟨.define, "a.b".toList, .inline "2".toList⟩])]

theorem sample_sound : sample.Sound := by
  refine ⟨by decide, ?_, by decide⟩
  intro d member
  have which : d = ⟨.interface, "a.b*".toList, .block ["define('a.b')".toList]⟩ ∨
      d = ⟨.define, "a.b*c".toList, .inline "1".toList⟩ ∨ d = ⟨.define, "a.b".toList, .inline "2".toList⟩ := by
    simpa [sample, declarations] using member
  rcases which with rfl | rfl | rfl
  · refine ⟨by decide, by decide, by decide, by decide, ?_⟩
    intro row member
    obtain rfl := List.mem_singleton.mp member
    refine ⟨by decide, by decide, by decide, ?_⟩
    intro k
    cases k <;> decide +kernel
  · exact ⟨by decide, by decide, by decide, by decide, by decide, fun k => k.not_infix_of_short (by decide)⟩
  · exact ⟨by decide, by decide, by decide, by decide, by decide, fun k => k.not_infix_of_short (by decide)⟩

theorem find_written_in_sample :
    ((Lookup.find Memory.source .literal "a.b".toList).run ⟨Memory.ofList sample.contents, []⟩).1 =
      .ok ⟨⟨Path.ofText "a.if".toList, 1, some .define⟩, .singleLine, "define(`a.b', 2)\n".toList⟩ := by
  have small : Matcher.ofQuery "a.b".toList .literal ≠ .error .tooLarge := by
    rw [Matcher.of_query_literal, if_neg (by decide +kernel)]
    intro same
    cases same
  have place : sample = [sample[0]] ++ (Path.ofText "a.if".toList,
      [⟨.define, "a.b*c".toList, .inline "1".toList⟩] ++ ⟨.define, "a.b".toList, .inline "2".toList⟩ :: []) :: [] := rfl
  exact find_written sample_sound place small []

end Policy

end PolicyLookup
