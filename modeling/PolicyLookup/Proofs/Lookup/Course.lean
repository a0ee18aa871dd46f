import PolicyLookup.Proofs.Construct.Extraction
import PolicyLookup.Proofs.Lookup.Readings
import PolicyLookup.Source.Script

set_option autoImplicit false

namespace PolicyLookup

structure FirstMatch (matcher : Matcher) (lines : List Text) (j : Nat) (line : Text) : Prop where
  there : lines[j]? = some line
  isMatch : matcher.isMatch line = true
  before : ∀ i other, i < j → lines[i]? = some other → matcher.isMatch other = false

def Missed (matcher : Matcher) (reading : Reading) : Prop :=
  ∃ lines, reading.2 = .ok lines ∧ ∀ line ∈ lines, matcher.isMatch line = false

inductive Searched (matcher : Matcher) :
    List Path → List Reading → Except Failure (Option Location) → Prop
  | nowhere (readings : List Reading) (missed : ∀ reading ∈ readings, Missed matcher reading) :
      Searched matcher (readings.map Prod.fst) readings (.ok none)
  | unreadable (readings : List Reading) (path : Path) (later : List Path) (failure : Failure)
      (missed : ∀ reading ∈ readings, Missed matcher reading) :
      Searched matcher (readings.map Prod.fst ++ path :: later)
        (readings ++ [(path, .error failure)]) (.error failure)
  | found (readings : List Reading) (path : Path) (later : List Path) (lines : List Text)
      (j : Nat) (line : Text) (missed : ∀ reading ∈ readings, Missed matcher reading)
      (first : FirstMatch matcher lines j line) :
      Searched matcher (readings.map Prod.fst ++ path :: later)
        (readings ++ [(path, .ok lines)]) (.ok (some ⟨path, j, matcher.keyword? line⟩))

def Extracts (place : Location) : Answer → Except Failure Construct → Prop
  | .error failure, result => result = .error failure
  | .ok lines, result => Extracted place lines result

inductive Course (mode : QueryMode) (query : Text) :
    Except Failure (List Path) → List Reading → Except Failure Construct → Prop
  | noCandidates (failure : Failure) : Course mode query (.error failure) [] (.error failure)
  | noMatcher (files : List Path) (fault : Regex.Fault)
      (broken : Matcher.ofQuery query mode = .error fault) :
      Course mode query (.ok files) [] (.error (.regex fault))
  | unreadable (files : List Path) (matcher : Matcher) (readings : List Reading) (failure : Failure)
      (made : Matcher.ofQuery query mode = .ok matcher)
      (searched : Searched matcher files readings (.error failure)) :
      Course mode query (.ok files) readings (.error failure)
  | notDeclared (files : List Path) (matcher : Matcher) (readings : List Reading)
      (made : Matcher.ofQuery query mode = .ok matcher)
      (searched : Searched matcher files readings (.ok none)) :
      Course mode query (.ok files) readings (.error (.notDeclared query))
  | found (files : List Path) (matcher : Matcher) (readings : List Reading) (place : Location)
      (second : Answer) (result : Except Failure Construct)
      (made : Matcher.ofQuery query mode = .ok matcher)
      (searched : Searched matcher files readings (.ok (some place)))
      (extracts : Extracts place second result) :
      Course mode query (.ok files) (readings ++ [(place.path, second)]) result

theorem first_in_none {matcher : Matcher} {path : Path} {lines : List Text}
    (missing : Location.firstIn matcher path lines = none) :
    ∀ line ∈ lines, matcher.isMatch line = false := by
  unfold Location.firstIn at missing
  split at missing
  · contradiction
  · rename_i absent
    simpa using List.findIdx?_eq_none_iff.mp absent

theorem first_in_some {matcher : Matcher} {path : Path} {lines : List Text} {place : Location}
    (found : Location.firstIn matcher path lines = some place) :
    ∃ j line, FirstMatch matcher lines j line ∧ place = ⟨path, j, matcher.keyword? line⟩ := by
  unfold Location.firstIn at found
  split at found
  · rename_i j index
    obtain ⟨within, hit, before⟩ := List.findIdx?_eq_some_iff_getElem.mp index
    refine ⟨j, lines[j], ⟨by simp [within], hit, ?_⟩, ?_⟩
    · intro i other earlier there
      obtain ⟨_, rfl⟩ := List.getElem?_eq_some_iff.mp there
      simpa using before i earlier
    · simpa [within] using found.symm
  · contradiction

theorem Searched.skip {matcher : Matcher} {files : List Path} {readings : List Reading}
    {result : Except Failure (Option Location)} {reading : Reading}
    (missedFirst : Missed matcher reading) (searched : Searched matcher files readings result) :
    Searched matcher (reading.1 :: files) (reading :: readings) result := by
  have both {rest : List Reading} (missed : ∀ other ∈ rest, Missed matcher other) :
      ∀ other ∈ reading :: rest, Missed matcher other := by
    intro other member
    rcases List.mem_cons.mp member with rfl | member
    · exact missedFirst
    · exact missed other member
  cases searched with
  | nowhere _ missed => exact .nowhere (reading :: readings) (both missed)
  | unreadable before path later failure missed =>
      exact .unreadable (reading :: before) path later failure (both missed)
  | found before path later lines j line missed first =>
      exact .found (reading :: before) path later lines j line (both missed) first

namespace Lookup

variable {σ : Type}

-- One file is one step: its answer fails, matches, or leaves the rest of the files to the search.
theorem search_course (source : Source σ) (matcher : Matcher) (total : Nat) (files : List Path)
    (session : Session (Watched σ)) :
    ∃ readings, Searched matcher files readings
        ((Location.searchFiles source.watched matcher total files).run session).1 ∧
      ((Location.searchFiles source.watched matcher total files).run session).2.source.readings =
        session.source.readings ++ readings := by
  induction files generalizing session with
  | nil => exact ⟨[], .nowhere [] (by simp), (List.append_nil _).symm⟩
  | cons path rest ih =>
      rcases asked : (source.read path).run session.plain with ⟨answer, after⟩
      have read : (source.watched.read path).run session =
          (answer, session.resume after [(path, answer)]) := by
        rw [run_watched_read, asked]
      cases answer with
      | error failure =>
          refine ⟨[(path, .error failure)], ?_, ?_⟩
          · rw [Location.searchFiles, run_bind_error read]
            exact .unreadable [] path rest failure (by simp)
          · rw [Location.searchFiles, run_bind_error read]
            rfl
      | ok lines =>
          rw [Location.searchFiles, run_bind_ok read]
          cases found : Location.firstIn matcher path lines with
          | none =>
              simp only [run_bind, run_tell]
              obtain ⟨readings, searched, record⟩ := ih _
              refine ⟨(path, .ok lines) :: readings, ?_, ?_⟩
              · have missedFirst : Missed matcher (path, .ok lines) := ⟨lines, rfl, first_in_none found⟩
                exact searched.skip missedFirst
              · rw [record]
                simp
          | some place =>
              obtain ⟨j, line, first, rfl⟩ := first_in_some found
              refine ⟨[(path, .ok lines)], ?_, ?_⟩
              · exact .found [] path rest lines j line (by simp) first
              · rfl

theorem extract_course (source : Source σ) (place : Location) (session : Session (Watched σ)) :
    ∃ second, Extracts place second ((Construct.extract source.watched place).run session).1 ∧
      ((Construct.extract source.watched place).run session).2.source.readings =
        session.source.readings ++ [(place.path, second)] := by
  rcases asked : (source.read place.path).run session.plain with ⟨answer, after⟩
  have read : (source.watched.read place.path).run session =
      (answer, session.resume after [(place.path, answer)]) := by
    rw [run_watched_read, asked]
  refine ⟨answer, ?_⟩
  cases answer with
  | error failure =>
      rw [Construct.extract, run_bind_error read]
      exact ⟨rfl, rfl⟩
  | ok lines =>
      have extracted := Construct.extracted_of_lines place lines
      rw [Construct.extract, run_bind_ok read]
      cases taken : Construct.ofLines place lines with
      | error failure =>
          rw [taken] at extracted
          exact ⟨extracted, rfl⟩
      | ok construct =>
          rw [taken] at extracted
          by_cases isBlock : construct.shape = .block
          · simp only [run_bind, run_of_except, isBlock, if_true, run_tell, run_pure]
            exact ⟨extracted, rfl⟩
          · simp only [run_bind, run_of_except, isBlock, if_false, run_pure]
            exact ⟨extracted, rfl⟩

theorem resolved_course {mode : QueryMode} {query : Text} {files : List Path} {matcher : Matcher}
    {readings : List Reading} {place : Location} (source : Source σ)
    (made : Matcher.ofQuery query mode = .ok matcher)
    (searched : Searched matcher files readings (.ok (some place)))
    (session : Session (Watched σ)) (record : session.source.readings = readings)
    (resolved : Construct → Event) :
    let rest := do
      let construct ← Construct.extract source.watched place
      tell (resolved construct)
      return construct
    Course mode query (.ok files) (rest.run session).2.source.readings (rest.run session).1 := by
  obtain ⟨second, extracts, after⟩ := extract_course source place session
  simp only [run_bind]
  rcases ran : (Construct.extract source.watched place).run session with ⟨result, last⟩
  have recordLast : last.source.readings = readings ++ [(place.path, second)] := by
    rw [ran, record] at after
    exact after
  have course := Course.found files matcher readings place second _ made searched extracts
  rw [ran, ← recordLast] at course
  cases result with
  | error failure => exact course
  | ok construct => exact course

-- Every lookup takes one of these courses, and what it gives does not hang on being watched.
theorem find_course (source : Source σ) (mode : QueryMode) (query : Text) (session : Session σ) :
    let run := (find source.watched mode query).run session.watched
    run.1 = ((find source mode query).run session).1 ∧
      run.2.plain = ((find source mode query).run session).2 ∧
      Course mode query (source.candidates.run session).1 run.2.source.readings run.1 ∧
      ∀ path line,
        (Failure.pastEnd path line).message =
          "Line " ++ toString (line + 1) ++ " is past the end of " ++ path.display := by
  obtain ⟨sameResult, sameSession⟩ := mirrors_find source mode query session.watched
  refine ⟨sameResult, sameSession, ?_, fun _ _ => rfl⟩
  rcases asked : source.candidates.run session with ⟨files, after⟩
  have candidates : source.watched.candidates.run session.watched =
      (files, session.watched.resume after []) := by
    rw [run_watched_candidates, Session.plain_watched, asked]
  cases files with
  | error failure =>
      rw [find, run_bind_error candidates]
      exact .noCandidates failure
  | ok files =>
      rw [find, run_bind_ok candidates]
      simp only [run_bind, run_tell, matcher, run_of_except]
      cases made : Matcher.ofQuery query mode with
      | error fault => exact .noMatcher files fault made
      | ok matcher =>
          simp only [map_error_ok]
          obtain ⟨readings, searched, record⟩ := search_course source matcher files.length files
            ⟨(session.watched.resume after []).source,
              (session.watched.resume after []).log ++ [.searching files.length query]⟩
          rw [Location.find]
          rcases ran : (Location.searchFiles source.watched matcher files.length files).run _ with ⟨result, last⟩
          rw [ran] at searched record
          have recordLast : last.source.readings = readings := record
          cases result with
          | error failure =>
              rw [← recordLast] at searched
              exact .unreadable files matcher _ failure made searched
          | ok place =>
              cases place with
              | none =>
                  rw [← recordLast] at searched
                  exact .notDeclared files matcher _ made searched
              | some place => exact resolved_course source made searched last recordLast _

def draft : Path := Path.ofText "draft.if".toList

def shrinking : Script where
  files := [(draft, [some "## draft\ninterface(`foo',`\n')\n".toList, some "## draft\n".toList])]
  candidates := [draft]
  reads := []

def shrinkingReadings : List Reading :=
  [(draft, .ok ["## draft\n".toList, "interface(`foo',`\n".toList, "')\n".toList]),
    (draft, .ok ["## draft\n".toList])]

-- The header is gone when its file is read again.
theorem find_course_of_shrinking :
    Course .literal "foo".toList (.ok [draft]) shrinkingReadings (.error (.pastEnd draft 1)) ∧
      (Failure.pastEnd draft 1).message = "Line 2 is past the end of draft.if" := by
  obtain ⟨_, _, course, said⟩ := find_course Script.source .literal "foo".toList ⟨shrinking, []⟩
  have result : ((find Script.source.watched .literal "foo".toList).run (Session.watched ⟨shrinking, []⟩)).1 =
      .error (.pastEnd draft 1) := by
    decide +kernel
  have readings : ((find Script.source.watched .literal "foo".toList).run
      (Session.watched ⟨shrinking, []⟩)).2.source.readings = shrinkingReadings := by
    decide +kernel
  rw [result, readings] at course
  exact ⟨course, (said draft 1).trans (by decide +kernel)⟩

end Lookup

end PolicyLookup
