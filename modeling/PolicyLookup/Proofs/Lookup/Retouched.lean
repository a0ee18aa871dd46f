import PolicyLookup.Proofs.Construct.Carving
import PolicyLookup.Proofs.Construct.Retouched
import PolicyLookup.Proofs.Source.Stored

set_option autoImplicit false

namespace PolicyLookup

def Text.edited (edit : Nat → Text → Text) (t : Text) : Text := ((Text.lines t).mapIdx edit).flatten

def Memory.edited (edit : Path → Nat → Text → Text) (m : Memory) : Memory :=
  ⟨m.files.map fun file => (file.1, file.2.edited (edit file.1))⟩

def Construct.edited (edit : Path → Nat → Text → Text) (c : Construct) : Construct :=
  { c with text := c.text.edited fun i => edit c.location.path (c.location.line + i) }

def Retouches (edit : Nat → Text → Text) (lines : List Text) : Prop :=
  ∀ i line, lines[i]? = some line → Retouched line (edit i line)

theorem Retouches.below {edit : Nat → Text → Text} {upper lower : List Text}
    (kept : Retouches edit (upper ++ lower)) : Retouches (fun i => edit (upper.length + i)) lower := by
  intro i line there
  refine kept (upper.length + i) line ?_
  rw [List.getElem?_append_right (Nat.le_add_right _ _), Nat.add_sub_cancel_left, there]

theorem Retouches.upper {edit : Nat → Text → Text} {upper lower : List Text}
    (kept : Retouches edit (upper ++ lower)) : Retouches edit upper := by
  intro i line there
  obtain ⟨within, _⟩ := List.getElem?_eq_some_iff.mp there
  exact kept i line (by rw [List.getElem?_append_left within, there])

namespace Text

theorem rows_edited {edit : Nat → Text → Text} {rows : List Text} (cut : Rows rows) (kept : Retouches edit rows) :
    Rows (rows.mapIdx edit) := by
  induction rows generalizing edit with
  | nil => exact .nil
  | cons row below ih =>
      have here := kept 0 row rfl
      have later : Retouches (fun i => edit (i + 1)) below := fun i line there => kept (i + 1) line there
      rw [List.mapIdx_cons]
      rcases rows_cons cut with ⟨rfl, _, _⟩ | ⟨body, rfl, _, rest⟩
      · exact here.row
      · exact rows_below here.row (here.ends List.getLast?_concat) (ih rest later)

theorem lines_edited {edit : Nat → Text → Text} {t : Text} (kept : Retouches edit (lines t)) :
    lines (t.edited edit) = (lines t).mapIdx edit :=
  lines_flatten (rows_edited (rows_lines t) kept)

end Text

theorem Matcher.is_match_core {line other : Text} (matcher : Matcher) (same : Text.trim other = Text.trim line) :
    matcher.isMatch other = matcher.isMatch line := by
  rw [isMatch, isMatch, same]

theorem Matcher.keyword_core {line other : Text} (matcher : Matcher) (same : Text.trim other = Text.trim line) :
    matcher.keyword? other = matcher.keyword? line := by
  rw [keyword?, keyword?, same]

theorem leaves_open_core {line other : Text} (same : Text.trim other = Text.trim line) :
    LeavesOpen other ↔ LeavesOpen line := by
  rw [← Construct.opens_block_iff, ← Construct.opens_block_iff, Construct.opensBlock, Construct.opensBlock, same]

section

variable {edit : Nat → Text → Text} {lines : List Text} {matcher : Matcher}

theorem edited_there {j : Nat} {line : Text} (there : lines[j]? = some line) :
    (lines.mapIdx edit)[j]? = some (edit j line) := by
  rw [List.getElem?_mapIdx, there]
  rfl

theorem edited_of_there {j : Nat} {other : Text} (there : (lines.mapIdx edit)[j]? = some other) :
    ∃ line, lines[j]? = some line ∧ other = edit j line := by
  rw [List.getElem?_mapIdx, Option.map_eq_some_iff] at there
  obtain ⟨line, present, same⟩ := there
  exact ⟨line, present, same.symm⟩

theorem unmatched_edited (kept : Retouches edit lines) (unmatched : ∀ line ∈ lines, matcher.isMatch line = false) :
    ∀ line ∈ lines.mapIdx edit, matcher.isMatch line = false := by
  intro other member
  obtain ⟨j, there⟩ := List.mem_iff_getElem?.mp member
  obtain ⟨line, present, rfl⟩ := edited_of_there there
  rw [matcher.is_match_core (kept j line present).core]
  exact unmatched line (List.mem_of_getElem? present)

theorem FirstMatch.edited (kept : Retouches edit lines) {j : Nat} {line : Text}
    (first : FirstMatch matcher lines j line) : FirstMatch matcher (lines.mapIdx edit) j (edit j line) where
  there := edited_there first.there
  isMatch := by
    rw [matcher.is_match_core (kept j line first.there).core]
    exact first.isMatch
  before := by
    intro i other earlier there
    obtain ⟨old, present, rfl⟩ := edited_of_there there
    rw [matcher.is_match_core (kept i old present).core]
    exact first.before i old earlier present

theorem first_in_edited (kept : Retouches edit lines) (path : Path) :
    Location.firstIn matcher path (lines.mapIdx edit) = Location.firstIn matcher path lines := by
  cases found : Location.firstIn matcher path lines with
  | none => exact first_in_unmatched (unmatched_edited kept (first_in_none found))
  | some place =>
      obtain ⟨j, line, first, rfl⟩ := first_in_some found
      rw [Location.first_in_first (first.edited kept), matcher.keyword_core (kept j line first.there).core]

theorem FirstClosing.edited (kept : Retouches edit lines) {start last : Nat} (closing : FirstClosing lines start last) :
    FirstClosing (lines.mapIdx edit) start last := by
  obtain ⟨inside, ⟨line, there, closes⟩, before⟩ := closing
  refine ⟨inside, ⟨edit last line, edited_there there, (kept last line there).closes.mpr closes⟩, ?_⟩
  intro i other below earlier there closesToo
  obtain ⟨old, present, rfl⟩ := edited_of_there there
  exact before i old below earlier present ((kept i old present).closes.mp closesToo)

theorem run_edited (edit : Nat → Text → Text) (lines : List Text) (start stop : Nat) :
    ((lines.mapIdx edit).take stop).drop start = ((lines.take stop).drop start).mapIdx fun i => edit (start + i) := by
  apply List.ext_getElem?
  intro i
  simp only [List.getElem?_drop, List.getElem?_take, List.getElem?_mapIdx]
  split <;> rfl

end

section

variable {edit : Path → Nat → Text → Text} {place : Location} {lines : List Text}

theorem Extracted.edited {result : Except Failure Construct} (cut : Text.Rows lines)
    (kept : Retouches (edit place.path) lines) (extracted : Extracted place lines result) :
    Extracted place (lines.mapIdx (edit place.path)) (result.map (Construct.edited edit)) := by
  cases extracted with
  | pastEnd short => exact .pastEnd (by rwa [List.length_mapIdx])
  | singleLine header there shut =>
      have row : Text.lines header = [header] := by
        simpa using Text.lines_flatten (Text.row_of_mem cut (List.mem_of_getElem? there))
      have text : header.edited (fun i => edit place.path (place.line + i)) = edit place.path place.line header := by
        rw [Text.edited, row]
        simp
      change Extracted place _ (.ok ⟨place, .singleLine, header.edited _⟩)
      rw [text]
      exact .singleLine _ (edited_there there) (mt (leaves_open_core (kept _ header there).core).mp shut)
  | block header last there left closing =>
      have run : Text.Rows ((lines.take (last + 1)).drop place.line) := by
        have above : Text.Rows (lines.take (last + 1)) := by
          rw [← List.take_append_drop (last + 1) lines] at cut
          exact (Text.rows_append cut).1
        rw [← List.take_append_drop place.line (lines.take (last + 1))] at above
        exact (Text.rows_append above).2
      change Extracted place _ (.ok ⟨place, .block, Text.edited _ _⟩)
      rw [Text.edited, Text.lines_flatten run, ← run_edited]
      have leftToo := (leaves_open_core (kept _ header there).core).mpr left
      exact .block _ last (edited_there there) leftToo (closing.edited kept)
  | neverClosed header there left unclosed =>
      refine .neverClosed _ (edited_there there) ((leaves_open_core (kept _ header there).core).mpr left) ?_
      intro i other below present closes
      obtain ⟨old, presentToo, rfl⟩ := edited_of_there present
      exact unclosed i old below presentToo ((kept i old presentToo).closes.mp closes)

theorem line_count_edited {c : Construct} (cut : Text.Rows lines) (kept : Retouches (edit place.path) lines)
    (extracted : Extracted place lines (.ok c)) : (c.edited edit).lineCount = c.lineCount := by
  obtain ⟨upper, lower, rfl, above, _, located⟩ := Construct.lines_taken cut extracted
  have run := kept.upper.below
  rw [above, ← located] at run
  rw [Construct.lineCount, Construct.edited, Text.lines_edited run, List.length_mapIdx, Construct.lineCount]

end

namespace Lookup

section

variable {answer other : Path → Answer} {edit : Path → Nat → Text → Text} {mode : QueryMode} {query : Text}

def Edits (edit : Path → Nat → Text → Text) (answer other : Path → Answer) (path : Path) : Prop :=
  other path = (answer path).map (·.mapIdx (edit path)) ∧
    ∀ lines, answer path = .ok lines → Text.Rows lines ∧ Retouches (edit path) lines

theorem missed_edited {matcher : Matcher} {path : Path} (edits : Edits edit answer other path)
    (missed : Missed matcher (path, answer path)) : Missed matcher (path, other path) := by
  obtain ⟨lines, there, unmatched⟩ := missed
  have there : answer path = .ok lines := there
  refine ⟨lines.mapIdx (edit path), ?_, unmatched_edited (edits.2 lines there).2 unmatched⟩
  change other path = _
  rw [edits.1, there]
  rfl

theorem looked_up_edited {files : List Path} {result : Except Failure Construct}
    (edits : ∀ path ∈ files, Edits edit answer other path)
    (looked : LookedUp answer mode query (.ok files) result) :
    LookedUp other mode query (.ok files) (result.map (Construct.edited edit)) := by
  have missedToo {matcher : Matcher} {part : List Path} (inside : part ⊆ files)
      (missed : ∀ path ∈ part, Missed matcher (path, answer path)) :
      ∀ path ∈ part, Missed matcher (path, other path) :=
    fun path member => missed_edited (edits path (inside member)) (missed path member)
  cases looked with
  | noMatcher _ fault broken => exact .noMatcher files fault broken
  | unreadable matcher before after path failure made missed broken =>
      have brokenToo : other path = .error failure := by
        rw [(edits path (by simp)).1, broken]
        rfl
      exact .unreadable matcher before after path failure made (missedToo (by simp) missed) brokenToo
  | notDeclared matcher _ made missed => exact .notDeclared matcher files made (missedToo (fun _ => id) missed)
  | found matcher before after path lines j line _ made missed there first extracted =>
      obtain ⟨answers, keeps⟩ := edits path (by simp)
      obtain ⟨cut, kept⟩ := keeps lines there
      have thereToo : other path = .ok (lines.mapIdx (edit path)) := by
        rw [answers, there]
        rfl
      have keyword := matcher.keyword_core (kept j line first.there).core
      have extractedToo := extracted.edited cut kept
      rw [← keyword] at extractedToo
      exact .found matcher before after path _ j _ _ made (missedToo (by simp) missed) thereToo (first.edited kept)
        extractedToo

theorem find_in_edited {files : List Path} (edits : ∀ path ∈ files, Edits edit answer other path) :
    findIn other mode query files = (findIn answer mode query files).map (Construct.edited edit) :=
  (looked_up_unique (looked_up_edited edits (looked_up answer mode query (.ok files)))).symm

end

section

variable {m : Memory} {edit : Path → Nat → Text → Text}

theorem edits_in_memory (filled : m.Filled)
    (kept : ∀ file ∈ m.files, Retouches (edit file.1) (Text.lines file.2)) :
    ∀ path ∈ m.paths, Edits edit m.lines (m.edited edit).lines path := by
  intro path member
  obtain ⟨file, inside, rfl⟩ := List.mem_map.mp member
  have there : m.lines file.1 = .ok (Text.lines file.2) := Memory.lines_of_mem filled.distinct inside
  have distinct : Memory.Distinct (m.edited edit).files := List.pairwise_map.mpr filled.distinct
  have editedThere : (m.edited edit).lines file.1 = .ok ((Text.lines file.2).mapIdx (edit file.1)) := by
    rw [Memory.lines_of_mem distinct (List.mem_map_of_mem inside), Text.lines_edited (kept file inside)]
  refine ⟨by rw [editedThere, there]; rfl, ?_⟩
  intro lines same
  obtain rfl := Except.ok.inj (there.symm.trans same)
  exact ⟨Text.rows_lines file.2, kept file inside⟩

theorem paths_edited (m : Memory) (edit : Path → Nat → Text → Text) : (m.edited edit).paths = m.paths := by
  rw [Memory.paths, Memory.edited, List.map_map]
  rfl

theorem candidates_edited (m : Memory) (edit : Path → Nat → Text → Text) :
    (m.edited edit).candidates = m.candidates := by
  have nothing : (m.edited edit).files.isEmpty = m.files.isEmpty := List.isEmpty_map
  rw [Memory.candidates, Memory.candidates, nothing, paths_edited]

theorem find_edited (filled : m.Filled) (kept : ∀ file ∈ m.files, Retouches (edit file.1) (Text.lines file.2))
    (mode : QueryMode) (query : Text) (log otherLog : List Event) :
    let result := ((find Memory.source mode query).run ⟨m, log⟩).1
    ((find Memory.source mode query).run ⟨m.edited edit, otherLog⟩).1 = result.map (Construct.edited edit) ∧
      ∀ c, result = .ok c → (c.edited edit).lineCount = c.lineCount := by
  intro result
  have found : result = m.candidates >>= findIn m.lines mode query := Memory.find_in_memory m mode query log
  have edits := edits_in_memory filled kept
  rw [Memory.find_in_memory, candidates_edited, found]
  by_cases nothing : m.files = []
  · rw [Memory.candidates, if_pos (List.isEmpty_iff.mpr nothing)]
    refine ⟨rfl, ?_⟩
    intro c impossible
    contradiction
  · rw [Memory.candidates_ok nothing, ok_bind, ok_bind]
    refine ⟨find_in_edited edits, ?_⟩
    intro c same
    have looked : LookedUp m.lines mode query (.ok m.paths) (.ok c) :=
      same ▸ looked_up m.lines mode query (.ok m.paths)
    generalize m.paths = paths at looked edits
    cases looked with
    | found matcher before after path lines j line _ made missed there first extracted =>
        obtain ⟨cut, kept⟩ := (edits path (by simp)).2 lines there
        exact line_count_edited cut kept extracted

theorem find_reended (filled : m.Filled) (bare : ∀ file ∈ m.files, '\r' ∉ file.2)
    (reended : ∀ file ∈ m.files, ∀ i line, (Text.lines file.2)[i]? = some line →
      Reended line (edit file.1 i line))
    (mode : QueryMode) (query : Text) (log otherLog : List Event) :
    let result := ((find Memory.source mode query).run ⟨m, log⟩).1
    ((find Memory.source mode query).run ⟨m.edited edit, otherLog⟩).1 = result.map (Construct.edited edit) ∧
      ∀ c, result = .ok c → (c.edited edit).lineCount = c.lineCount := by
  refine find_edited filled ?_ mode query log otherLog
  intro file member i line there
  have inside := List.mem_of_getElem? there
  have free : '\r' ∉ line := fun here => bare file member ((Text.line_inside inside).subset here)
  exact retouched_of_reended (Text.row_of_mem (Text.rows_lines file.2) inside) free (reended file member i line there)

def openEnded : Memory := Memory.empty.insert (Path.ofText "a.if".toList) "## x\ndefine(`x',`\n y\n')".toList

def returning (_ : Path) : Nat → Text → Text
  | 0, _ => "## x\r\n".toList
  | 1, _ => "define(`x',`\r\n".toList
  | 3, _ => "')\r\n".toList
  | _, line => line

theorem open_ended_reended : ∀ file ∈ openEnded.files, ∀ i line, (Text.lines file.2)[i]? = some line →
    Reended line (returning file.1 i line) := by
  intro file member i line there
  obtain rfl := List.mem_singleton.mp member
  match i with
  | 0 =>
      obtain rfl : "## x\n".toList = line := Option.some.inj there
      exact .returned "## x".toList (by decide)
  | 1 =>
      obtain rfl : "define(`x',`\n".toList = line := Option.some.inj there
      exact .returned "define(`x',`".toList (by decide)
  | 2 => exact .kept line
  | 3 =>
      obtain rfl : "')".toList = line := Option.some.inj there
      exact .ended "')".toList ['\r', '\n'] (by decide) (Or.inr rfl)
  | n + 4 => exact .kept line

theorem find_reended_in_open_ended :
    ((find Memory.source .literal "x".toList).run ⟨openEnded.edited returning, []⟩).1 =
      .ok ⟨⟨Path.ofText "a.if".toList, 1, some .define⟩, .block, "define(`x',`\r\n y\n')\r\n".toList⟩ := by
  have found : ((find Memory.source .literal "x".toList).run ⟨openEnded, []⟩).1 =
      .ok ⟨⟨Path.ofText "a.if".toList, 1, some .define⟩, .block, "define(`x',`\n y\n')".toList⟩ := by
    decide +kernel
  have filled : openEnded.Filled := .insert _ _ _ .empty
  rw [(find_reended filled (by decide) open_ended_reended .literal "x".toList [] []).1, found]
  rfl

theorem find_spaced (filled : m.Filled)
    (spaced : ∀ file ∈ m.files, ∀ i line, (Text.lines file.2)[i]? = some line →
      Spaced line (edit file.1 i line))
    (mode : QueryMode) (query : Text) (log otherLog : List Event) :
    let result := ((find Memory.source mode query).run ⟨m, log⟩).1
    (((find Memory.source mode query).run ⟨m.edited edit, otherLog⟩).1 = result.map (Construct.edited edit) ∧
      ∀ c, result = .ok c → (c.edited edit).lineCount = c.lineCount) ∧
    ∀ file ∈ m.files,
      (∀ i line, (Text.lines file.2)[i]? = some line → (Closes (edit file.1 i line) ↔ Closes line)) ∧
      ∀ matcher, Location.firstIn matcher file.1 (Text.lines (file.2.edited (edit file.1))) =
        Location.firstIn matcher file.1 (Text.lines file.2) := by
  have kept : ∀ file ∈ m.files, Retouches (edit file.1) (Text.lines file.2) := by
    intro file member i line there
    have row := Text.row_of_mem (Text.rows_lines file.2) (List.mem_of_getElem? there)
    exact retouched_of_spaced row (spaced file member i line there)
  refine ⟨find_edited filled kept mode query log otherLog, ?_⟩
  intro file member
  refine ⟨fun i line there => (kept file member i line there).closes, ?_⟩
  intro matcher
  rw [Text.lines_edited (kept file member), first_in_edited (kept file member)]

-- A line that only looks like one that closes, and one that a return makes look so.
def nearClosing : Memory :=
  Memory.empty.insert (Path.ofText "a.if".toList) "define(`x',`\n') \n')\r\r\n')\r\n".toList

def spacing (_ : Path) : Nat → Text → Text
  | 0, _ => "\t\u2003define(`x',` \u0085\n".toList
  | 1, _ => "') \r\n".toList
  | 2, _ => "')\r\x0b\r\n".toList
  | _, line => line

theorem near_closing_spaced : ∀ file ∈ nearClosing.files, ∀ i line, (Text.lines file.2)[i]? = some line →
    Spaced line (spacing file.1 i line) := by
  have blanks {t : Text} (blank : t.all Text.isBlank = true) (single : '\n' ∉ t) : Spacing t :=
    ⟨fun c member => List.all_eq_true.mp blank c member, single⟩
  have unclosed {line : Text} (other : Construct.isTerminator line = false) : ¬ Closes line :=
    fun closes => Bool.false_ne_true (other.symm.trans ((Construct.is_terminator_iff _).mpr closes))
  intro file member i line there
  obtain rfl := List.mem_singleton.mp member
  match i with
  | 0 =>
      obtain rfl : "define(`x',`\n".toList = line := Option.some.inj there
      exact .around "\t\u2003".toList "define(`x',`".toList " \u0085".toList ['\n'] (blanks rfl (by decide))
        (blanks rfl (by decide)) (by decide) (Or.inr (Or.inl rfl)) (unclosed rfl)
  | 1 =>
      obtain rfl : "') \n".toList = line := Option.some.inj there
      exact .around [] "') ".toList ['\r'] ['\n'] (blanks rfl (by decide)) (blanks rfl (by decide)) (by decide)
        (Or.inr (Or.inl rfl)) (unclosed rfl)
  | 2 =>
      obtain rfl : "')\r\r\n".toList = line := Option.some.inj there
      exact .around [] "')\r".toList ['\x0b'] ['\r', '\n'] (blanks rfl (by decide)) (blanks rfl (by decide))
        (by decide) (Or.inr (Or.inr rfl)) (unclosed rfl)
  | n + 3 => exact .kept line

theorem find_spaced_near_closing :
    ((find Memory.source .literal "x".toList).run ⟨nearClosing.edited spacing, []⟩).1 =
      .ok ⟨⟨Path.ofText "a.if".toList, 0, some .define⟩, .block,
        "\t\u2003define(`x',` \u0085\n') \r\n')\r\x0b\r\n')\r\n".toList⟩ := by
  have found : ((find Memory.source .literal "x".toList).run ⟨nearClosing, []⟩).1 =
      .ok ⟨⟨Path.ofText "a.if".toList, 0, some .define⟩, .block, "define(`x',`\n') \n')\r\r\n')\r\n".toList⟩ := by
    decide +kernel
  have filled : nearClosing.Filled := .insert _ _ _ .empty
  rw [(find_spaced filled near_closing_spaced .literal "x".toList [] []).1.1, found]
  rfl

end

end Lookup

end PolicyLookup
