import PolicyLookup.Proofs.Construct.Carving
import PolicyLookup.Proofs.Declaration.Literal
import PolicyLookup.Proofs.Source.Candidates
import PolicyLookup.Proofs.Source.Stored

set_option autoImplicit false

namespace PolicyLookup

structure Construct.Whole (matcher : Matcher) (c : Construct) : Prop where
  isMatch : matcher.isMatch c.header = true
  keyword : matcher.keyword? c.header = c.location.keyword
  carved : Carved c.shape (Text.lines c.text)

structure Memory.Places (m : Memory) (matcher : Matcher) (path : Path) (upper text lower : Text) : Prop where
  filled : m.Filled
  held : ∃ before after, m.files = before ++ (path, upper ++ text ++ lower) :: after ∧
    ∀ file ∈ before, ∀ line ∈ Text.lines file.2, matcher.isMatch line = false
  ends : upper = [] ∨ upper.getLast? = some '\n'
  above : ∀ line ∈ Text.lines upper, matcher.isMatch line = false

namespace Lookup

variable {matcher : Matcher} {mode : QueryMode} {query : Text}

theorem whole_of_extracted {path : Path} {text line : Text} {j : Nat} {c : Construct}
    (first : FirstMatch matcher (Text.lines text) j line)
    (extracted : Extracted ⟨path, j, matcher.keyword? line⟩ (Text.lines text) (.ok c)) :
    c.header = line ∧ c.Whole matcher := by
  obtain ⟨upper, lower, split, rfl, carved, located⟩ := Construct.lines_taken (Text.rows_lines _) extracted
  obtain ⟨header, more, lines⟩ := carved.header
  have here : c.header = line := by
    have there := first.there
    rw [split, lines] at there
    rw [Construct.header, lines]
    simpa using there
  refine ⟨here, ⟨?_, ?_, carved⟩⟩
  · rw [here]
    exact first.isMatch
  · rw [here, located]

-- A construct that is whole is found below lines and behind files that do not match.
theorem find_in_around {c : Construct} (whole : c.Whole matcher) (made : Matcher.ofQuery query mode = .ok matcher)
    {answer : Path → Answer} {before after : List Path} {path : Path} {upper lower : List Text}
    (missed : ∀ other ∈ before, Missed matcher (other, answer other))
    (there : answer path = .ok (upper ++ Text.lines c.text ++ lower))
    (above : ∀ line ∈ upper, matcher.isMatch line = false) :
    findIn answer mode query (before ++ path :: after) =
      .ok ⟨⟨path, upper.length, c.location.keyword⟩, c.shape, c.text⟩ := by
  obtain ⟨header, more, lines⟩ := whole.carved.header
  have here : c.header = header := by rw [Construct.header, lines, List.headD_cons]
  have hit := whole.isMatch
  have keyword := whole.keyword
  rw [here] at hit keyword
  have first : Location.firstIn matcher path (upper ++ Text.lines c.text ++ lower) =
      some ⟨path, upper.length, c.location.keyword⟩ := by
    rw [lines, List.append_assoc, List.cons_append, first_in_row path above hit, keyword]
  have taken : Construct.ofLines ⟨path, upper.length, c.location.keyword⟩ (upper ++ Text.lines c.text ++ lower) =
      .ok ⟨⟨path, upper.length, c.location.keyword⟩, c.shape, c.text⟩ := by
    rw [Construct.of_lines_carved whole.carved rfl lower, Text.flatten_lines]
  rw [findIn, made]
  simp only [Location.search_in_skips missed, Location.searchIn, there, first, taken]

section

variable {σ : Type} {source : Source σ} {texts : Path → Except Failure Text} {valid : σ → Prop}

theorem looked_up_in_texts (answers : source.Answers (fun path => (texts path).map Text.lines) valid)
    {session asked : Session σ} {files : Except Failure (List Path)}
    (candidates : source.candidates.run session = (files, asked)) (start : valid asked.source) :
    LookedUp (fun path => (texts path).map Text.lines) mode query files ((find source mode query).run session).1 := by
  rw [find_run answers candidates start]
  exact looked_up _ mode query files

theorem found_in_texts {files : Except Failure (List Path)} {c : Construct}
    (looked : LookedUp (fun path => (texts path).map Text.lines) mode query files (.ok c)) :
    ∃ matcher text before after, Matcher.ofQuery query mode = .ok matcher ∧ c.Whole matcher ∧
      files = .ok (before ++ c.location.path :: after) ∧
      (∀ other ∈ before, ∃ earlier, texts other = .ok earlier ∧
        ∀ line ∈ Text.lines earlier, matcher.isMatch line = false) ∧
      texts c.location.path = .ok text ∧ FirstMatch matcher (Text.lines text) c.location.line c.header := by
  cases looked with
  | found matcher before after path lines j line _ made missed there first extracted =>
      obtain ⟨text, held, rfl⟩ := map_ok_iff.mp there
      obtain ⟨_, _, _, _, _, located⟩ := Construct.lines_taken (Text.rows_lines _) extracted
      obtain ⟨rfl, whole⟩ := whole_of_extracted first extracted
      rw [located]
      refine ⟨matcher, text, before, after, made, whole, rfl, ?_, held, first⟩
      intro other member
      obtain ⟨lines, read, unmatched⟩ := missed other member
      obtain ⟨earlier, present, rfl⟩ := map_ok_iff.mp read
      exact ⟨earlier, present, unmatched⟩

theorem past_end_in_texts {files : Except Failure (List Path)} {path : Path} {line : Nat}
    (looked : LookedUp (fun path => (texts path).map Text.lines) mode query files (.error (.pastEnd path line))) :
    files = .error (.pastEnd path line) ∨ ∃ other, texts other = .error (.pastEnd path line) := by
  cases looked with
  | noCandidates _ => exact Or.inl rfl
  | unreadable matcher before after other _ made missed broken => exact Or.inr ⟨other, map_error broken⟩
  | found matcher before after other lines j header _ made missed there first extracted =>
      cases extracted with
      | pastEnd short =>
          have past := List.getElem?_eq_none short
          rw [first.there] at past
          contradiction

theorem never_past_end_in_memory (m : Memory) (mode : QueryMode) (query : Text) (log : List Event) (path : Path)
    (line : Nat) : ((find Memory.source mode query).run ⟨m, log⟩).1 ≠ .error (.pastEnd path line) := by
  intro ended
  have looked : LookedUp (fun path => (m.text path).map Text.lines) mode query m.candidates
      (.error (.pastEnd path line)) :=
    ended ▸ looked_up_in_texts (Memory.memory_texts m) rfl rfl
  rcases past_end_in_texts looked with listed | ⟨other, read⟩
  · grind [Memory.candidates]
  · grind [Memory.text]

theorem never_past_end_in_folder (folder : Folder) (disk : Disk) (mode : QueryMode) (query : Text) (log : List Event)
    (path : Path) (line : Nat) :
    ((find folder.source mode query).run ⟨disk, log⟩).1 ≠ .error (.pastEnd path line) := by
  intro ended
  obtain ⟨after, candidates⟩ := Folder.candidates_run disk folder log
  have looked : LookedUp (fun path => (Folder.text disk path).map Text.lines) mode query
      (Folder.candidatesIn disk folder) (.error (.pastEnd path line)) :=
    ended ▸ looked_up_in_texts (Folder.folder_texts folder disk) candidates rfl
  rcases past_end_in_texts looked with listed | ⟨other, read⟩
  · have notListed (extension : Text) : Folder.filesIn disk folder.root extension ≠ .error (.pastEnd path line) := by
      grind [Folder.filesIn]
    have first := notListed folder.interfaceExtension
    have second := notListed folder.supportExtension
    grind [Folder.candidatesIn]
  · grind [Folder.text]

theorem find_alone {matcher : Matcher} {c : Construct} (whole : c.Whole matcher)
    (made : Matcher.ofQuery query mode = .ok matcher) (path : Path) (log : List Event) :
    ((find Memory.source mode query).run ⟨Memory.empty.insert path c.text, log⟩).1 =
      .ok ⟨⟨path, 0, c.location.keyword⟩, c.shape, c.text⟩ := by
  have stored : (Memory.empty.insert path c.text).lines path = .ok ([] ++ Text.lines c.text ++ []) := by
    rw [List.append_nil]
    exact Memory.lines_of_mem (Memory.Filled.empty.insert _ path c.text).distinct List.mem_cons_self
  have listed : (Memory.empty.insert path c.text).candidates = .ok ([] ++ path :: []) := rfl
  rw [Memory.find_in_memory, listed, ok_bind]
  exact find_in_around whole made (by simp) stored (by simp)

-- What is found can be looked up again: its header matches as it did, it is the first line to do so,
-- and the text by itself gives the same construct. No lookup runs past the end of a file: only the
-- source itself could say so, and neither a memory nor a folder does.
theorem find_restored (answers : source.Answers (fun path => (texts path).map Text.lines) valid)
    {session asked : Session σ} {files : Except Failure (List Path)}
    (candidates : source.candidates.run session = (files, asked)) (start : valid asked.source)
    (mode : QueryMode) (query : Text) :
    let result := ((find source mode query).run session).1
    (∀ c, result = .ok c → ∃ matcher text before after,
      Matcher.ofQuery query mode = .ok matcher ∧
      matcher.isMatch c.header = true ∧ matcher.keyword? c.header = c.location.keyword ∧
      files = .ok (before ++ c.location.path :: after) ∧ texts c.location.path = .ok text ∧
      (Text.lines text)[c.location.line]? = some c.header ∧
      (∀ i line, i < c.location.line → (Text.lines text)[i]? = some line → matcher.isMatch line = false) ∧
      (∀ other ∈ before, ∃ earlier, texts other = .ok earlier ∧
        ∀ line ∈ Text.lines earlier, matcher.isMatch line = false) ∧
      ∀ log, ((find Memory.source mode query).run ⟨Memory.empty.insert c.location.path c.text, log⟩).1 =
        .ok ⟨⟨c.location.path, 0, c.location.keyword⟩, c.shape, c.text⟩) ∧
    (∀ path line, result = .error (.pastEnd path line) →
      files = .error (.pastEnd path line) ∨ ∃ other, texts other = .error (.pastEnd path line)) ∧
    (∀ m log path line, ((find Memory.source mode query).run ⟨m, log⟩).1 ≠ .error (.pastEnd path line)) ∧
    ∀ (folder : Folder) disk log path line,
      ((find folder.source mode query).run ⟨disk, log⟩).1 ≠ .error (.pastEnd path line) := by
  intro result
  have looked : LookedUp (fun path => (texts path).map Text.lines) mode query files result :=
    looked_up_in_texts answers candidates start
  refine ⟨?_, ?_, fun m => never_past_end_in_memory m mode query,
    fun folder disk => never_past_end_in_folder folder disk mode query⟩
  · intro c found
    rw [found] at looked
    obtain ⟨matcher, text, before, after, made, whole, listed, missed, held, first⟩ := found_in_texts looked
    exact ⟨matcher, text, before, after, made, whole.isMatch, whole.keyword, listed, held, first.there, first.before,
      missed, fun log => find_alone whole made c.location.path log⟩
  · intro path line ended
    rw [ended] at looked
    exact past_end_in_texts looked

theorem find_in_places {matcher : Matcher} {c : Construct} (whole : c.Whole matcher)
    (made : Matcher.ofQuery query mode = .ok matcher) (complete : Text.Complete c.text) {m : Memory} {path : Path}
    {upper lower : Text} (places : m.Places matcher path upper c.text lower) (log : List Event) :
    ((find Memory.source mode query).run ⟨m, log⟩).1 =
      .ok ⟨⟨path, (Text.lines upper).length, c.location.keyword⟩, c.shape, c.text⟩ := by
  obtain ⟨before, after, files, missed⟩ := places.held
  have stored {file : Path × Text} (member : file ∈ m.files) : m.lines file.1 = .ok (Text.lines file.2) :=
    Memory.lines_of_mem places.filled.distinct member
  have there : m.lines path = .ok (Text.lines upper ++ Text.lines c.text ++ Text.lines lower) := by
    have member : (path, upper ++ c.text ++ lower) ∈ m.files := by simp [files]
    rw [stored member, List.append_assoc, Text.lines_append _ _ (Text.complete_of_last places.ends),
      Text.lines_append _ _ complete, List.append_assoc]
  have earlier : ∀ other ∈ before.map Prod.fst, Missed matcher (other, m.lines other) := by
    intro other member
    obtain ⟨file, inside, rfl⟩ := List.mem_map.mp member
    have inFiles : file ∈ m.files := files ▸ List.mem_append_left _ inside
    exact ⟨Text.lines file.2, stored inFiles, missed file inside⟩
  have something : m.files ≠ [] := by simp [files]
  have paths : m.paths = before.map Prod.fst ++ path :: after.map Prod.fst := by
    rw [Memory.paths, files, List.map_append, List.map_cons]
  rw [Memory.find_in_memory, Memory.candidates_ok something, ok_bind, paths]
  exact find_in_around whole made earlier there places.above

theorem find_moved (answers : source.Answers (fun path => (texts path).map Text.lines) valid)
    {session asked : Session σ} {files : Except Failure (List Path)}
    (candidates : source.candidates.run session = (files, asked)) (start : valid asked.source) {matcher : Matcher}
    (made : Matcher.ofQuery query mode = .ok matcher) {c : Construct}
    (found : ((find source mode query).run session).1 = .ok c) (ends : c.text.getLast? = some '\n') {m : Memory}
    {path : Path} {upper lower : Text} (places : m.Places matcher path upper c.text lower) (log : List Event) :
    ((find Memory.source mode query).run ⟨m, log⟩).1 =
      .ok ⟨⟨path, (Text.lines upper).length, c.location.keyword⟩, c.shape, c.text⟩ := by
  have looked : LookedUp (fun path => (texts path).map Text.lines) mode query files (.ok c) :=
    found ▸ looked_up_in_texts answers candidates start
  obtain ⟨other, _, _, _, alsoMade, whole, _⟩ := found_in_texts looked
  obtain rfl := Except.ok.inj (made.symm.trans alsoMade)
  exact find_in_places whole made (Text.complete_of_last (Or.inr ends)) places log

end

def choiceQuery : Text := "nomatch|bar".toList

def choiceMatcher : Matcher where
  query := choiceQuery
  choices := [.seq Matcher.keywordsRegex (Regex.word "(`nomatch".toList), Regex.word "bar'".toList]

theorem choice_made : Matcher.ofQuery choiceQuery .regex = .ok choiceMatcher := rfl

def choiceMemory : Memory :=
  (Memory.empty.insert (Path.ofText "a.if".toList) "interface(`foo',`\n')\n".toList).insert (Path.ofText "b.if".toList)
    "## bar\n\tinterface(`bar',`\r\n allow $1 bar';\n')\ndefine(`bar', 1)\n".toList

def choiceConstruct : Construct where
  location := ⟨Path.ofText "b.if".toList, 1, some .interface⟩
  shape := .block
  text := "\tinterface(`bar',`\r\n allow $1 bar';\n')\n".toList

theorem choice_found : ((find Memory.source .regex choiceQuery).run ⟨choiceMemory, []⟩).1 = .ok choiceConstruct := by
  decide +kernel

theorem find_restored_of_choice :
    ∃ matcher, Matcher.ofQuery choiceQuery .regex = .ok matcher ∧ matcher.isMatch choiceConstruct.header = true ∧
      matcher.keyword? choiceConstruct.header = some .interface ∧
      ((find Memory.source .regex choiceQuery).run
        ⟨Memory.empty.insert (Path.ofText "b.if".toList) choiceConstruct.text, []⟩).1 =
          .ok ⟨⟨Path.ofText "b.if".toList, 0, some .interface⟩, .block, choiceConstruct.text⟩ := by
  obtain ⟨matcher, _, _, _, made, hit, keyword, _, _, _, _, _, again⟩ :=
    (find_restored (Memory.memory_texts choiceMemory) rfl rfl .regex choiceQuery).1 _ choice_found
  exact ⟨matcher, made, hit, keyword, again []⟩

def otherMemory : Memory :=
  ((Memory.empty.insert (Path.ofText "z.spt".toList) "define(`foo', 1)".toList).insert (Path.ofText "a.if".toList)
    ("## none\n\n".toList ++ choiceConstruct.text ++ "')\ndefine(`bar',`".toList)).insert (Path.ofText "b.if".toList)
      "define(`bar', 2)\n".toList

theorem other_places :
    otherMemory.Places choiceMatcher (Path.ofText "a.if".toList) "## none\n\n".toList choiceConstruct.text
      "')\ndefine(`bar',`".toList where
  filled := .insert _ _ _ (.insert _ _ _ (.insert _ _ _ .empty))
  held := by
    refine ⟨[(Path.ofText "z.spt".toList, "define(`foo', 1)".toList)], _, rfl, ?_⟩
    intro file member
    obtain rfl := List.mem_singleton.mp member
    decide +kernel
  ends := Or.inr (by decide)
  above := by decide +kernel

theorem find_moved_to_other :
    ((find Memory.source .regex choiceQuery).run ⟨otherMemory, []⟩).1 =
      .ok ⟨⟨Path.ofText "a.if".toList, 2, some .interface⟩, .block, choiceConstruct.text⟩ :=
  find_moved (Memory.memory_texts choiceMemory) rfl rfl choice_made choice_found (by decide) other_places []

end Lookup

end PolicyLookup
