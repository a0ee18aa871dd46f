import PolicyLookup.Proofs.Lookup.Course
import PolicyLookup.Proofs.Source.Stable

set_option autoImplicit false

namespace PolicyLookup

-- In valid states a file gets one answer whenever it is read, and the state stays valid.
structure Source.Answers {σ : Type} (source : Source σ) (answer : Path → Answer) (valid : σ → Prop) : Prop where
  reads : ∀ (session : Session σ) (path : Path), valid session.source →
    ((source.read path).run session).1 = answer path
  stays : ∀ (session : Session σ) (path : Path), valid session.source →
    valid ((source.read path).run session).2.source

inductive LookedUp (answer : Path → Answer) (mode : QueryMode) (query : Text) :
    Except Failure (List Path) → Except Failure Construct → Prop
  | noCandidates (failure : Failure) : LookedUp answer mode query (.error failure) (.error failure)
  | noMatcher (files : List Path) (fault : Regex.Fault) (broken : Matcher.ofQuery query mode = .error fault) :
      LookedUp answer mode query (.ok files) (.error (.regex fault))
  | unreadable (matcher : Matcher) (before after : List Path) (path : Path) (failure : Failure)
      (made : Matcher.ofQuery query mode = .ok matcher)
      (missed : ∀ other ∈ before, Missed matcher (other, answer other)) (broken : answer path = .error failure) :
      LookedUp answer mode query (.ok (before ++ path :: after)) (.error failure)
  | notDeclared (matcher : Matcher) (files : List Path) (made : Matcher.ofQuery query mode = .ok matcher)
      (missed : ∀ path ∈ files, Missed matcher (path, answer path)) :
      LookedUp answer mode query (.ok files) (.error (.notDeclared query))
  | found (matcher : Matcher) (before after : List Path) (path : Path) (lines : List Text) (j : Nat) (line : Text)
      (result : Except Failure Construct) (made : Matcher.ofQuery query mode = .ok matcher)
      (missed : ∀ other ∈ before, Missed matcher (other, answer other)) (there : answer path = .ok lines)
      (first : FirstMatch matcher lines j line)
      (extracted : Extracted ⟨path, j, matcher.keyword? line⟩ lines result) :
      LookedUp answer mode query (.ok (before ++ path :: after)) result

theorem first_match_unique {matcher : Matcher} {lines : List Text} {i j : Nat} {line other : Text}
    (first : FirstMatch matcher lines i line) (second : FirstMatch matcher lines j other) : i = j ∧ line = other := by
  rcases Nat.lt_trichotomy i j with less | rfl | less
  · have hit := second.before i line less first.there
    rw [first.isMatch] at hit
    contradiction
  · exact ⟨rfl, Option.some.inj (first.there.symm.trans second.there)⟩
  · have hit := first.before j other less second.there
    rw [second.isMatch] at hit
    contradiction

namespace Location

def searchIn (matcher : Matcher) (answer : Path → Answer) : List Path → Except Failure (Option Location)
  | [] => .ok none
  | path :: rest =>
      match answer path with
      | .error failure => .error failure
      | .ok lines =>
          match firstIn matcher path lines with
          | some found => .ok (some found)
          | none => searchIn matcher answer rest

section

variable {matcher : Matcher} {answer : Path → Answer}

theorem first_in_first {path : Path} {lines : List Text} {j : Nat} {line : Text}
    (first : FirstMatch matcher lines j line) :
    firstIn matcher path lines = some ⟨path, j, matcher.keyword? line⟩ := by
  cases found : firstIn matcher path lines with
  | none =>
      have missed := first_in_none found line (List.mem_of_getElem? first.there)
      rw [first.isMatch] at missed
      contradiction
  | some place =>
      obtain ⟨i, other, here, rfl⟩ := first_in_some found
      obtain ⟨rfl, rfl⟩ := first_match_unique first here
      rfl

theorem search_in_skips {before : List Path} (missed : ∀ other ∈ before, Missed matcher (other, answer other))
    (rest : List Path) : searchIn matcher answer (before ++ rest) = searchIn matcher answer rest := by
  induction before with
  | nil => rfl
  | cons path before ih =>
      obtain ⟨lines, there, unmatched⟩ := missed path List.mem_cons_self
      have there : answer path = .ok lines := there
      rw [List.cons_append, searchIn, there]
      simp only [first_in_unmatched unmatched]
      exact ih fun other member => missed other (List.mem_cons_of_mem path member)

theorem search_in_cases (matcher : Matcher) (answer : Path → Answer) (files : List Path) :
    (searchIn matcher answer files = .ok none ∧ ∀ path ∈ files, Missed matcher (path, answer path)) ∨
    ∃ before path after, files = before ++ path :: after ∧
      (∀ other ∈ before, Missed matcher (other, answer other)) ∧
      ((∃ failure, answer path = .error failure ∧ searchIn matcher answer files = .error failure) ∨
        ∃ lines j line, answer path = .ok lines ∧ FirstMatch matcher lines j line ∧
          searchIn matcher answer files = .ok (some ⟨path, j, matcher.keyword? line⟩)) := by
  induction files with
  | nil => exact Or.inl ⟨rfl, by simp⟩
  | cons path rest ih =>
      cases read : answer path with
      | error failure =>
          refine Or.inr ⟨[], path, rest, rfl, by simp, Or.inl ⟨failure, read, ?_⟩⟩
          rw [searchIn, read]
      | ok lines =>
          cases found : firstIn matcher path lines with
          | some place =>
              obtain ⟨j, line, first, rfl⟩ := first_in_some found
              refine Or.inr ⟨[], path, rest, rfl, by simp, Or.inr ⟨lines, j, line, read, first, ?_⟩⟩
              rw [searchIn, read]
              simp only [found]
          | none =>
              have missed : Missed matcher (path, answer path) := ⟨lines, read, first_in_none found⟩
              have skips : searchIn matcher answer (path :: rest) = searchIn matcher answer rest := by
                rw [searchIn, read]
                simp only [found]
              have both {more : List Path} (missedMore : ∀ other ∈ more, Missed matcher (other, answer other)) :
                  ∀ other ∈ path :: more, Missed matcher (other, answer other) :=
                List.forall_mem_cons.mpr ⟨missed, missedMore⟩
              rw [skips]
              rcases ih with ⟨nowhere, missedRest⟩ | ⟨before, next, after, rfl, missedBefore, ends⟩
              · exact Or.inl ⟨nowhere, both missedRest⟩
              · exact Or.inr ⟨path :: before, next, after, rfl, both missedBefore, ends⟩

theorem search_run {σ : Type} {source : Source σ} {valid : σ → Prop} (answers : source.Answers answer valid)
    (matcher : Matcher) (total : Nat) (files : List Path) (session : Session σ) (start : valid session.source) :
    ∃ after, valid after.source ∧
      (searchFiles source matcher total files).run session = (searchIn matcher answer files, after) := by
  induction files generalizing session with
  | nil => exact ⟨{ session with log := session.log ++ [.notLocated matcher.query total] }, start, rfl⟩
  | cons path rest ih =>
      have read := answers.reads session path start
      have stays := answers.stays session path start
      rcases ran : (source.read path).run session with ⟨result, after⟩
      rw [ran] at read stays
      rw [searchFiles, searchIn, ← read]
      cases result with
      | error failure => exact ⟨after, stays, Lookup.run_bind_error ran _⟩
      | ok lines =>
          rw [Lookup.run_bind_ok ran, Lookup.run_bind, Lookup.run_tell]
          dsimp only
          cases found : firstIn matcher path lines with
          | none => exact ih _ stays
          | some place =>
              exact ⟨{ after with log := after.log ++ [.scanning path lines.length] ++
                [.located place.keyword matcher.query path place.line] }, stays, rfl⟩

end

end Location

namespace Lookup

def findIn (answer : Path → Answer) (mode : QueryMode) (query : Text) (files : List Path) :
    Except Failure Construct :=
  match Matcher.ofQuery query mode with
  | .error fault => .error (.regex fault)
  | .ok matcher =>
      match Location.searchIn matcher answer files with
      | .error failure => .error failure
      | .ok none => .error (.notDeclared query)
      | .ok (some place) =>
          match answer place.path with
          | .error failure => .error failure
          | .ok lines => Construct.ofLines place lines

section

variable {answer : Path → Answer} {mode : QueryMode} {query : Text}

theorem looked_up (answer : Path → Answer) (mode : QueryMode) (query : Text) (files : Except Failure (List Path)) :
    LookedUp answer mode query files (files >>= findIn answer mode query) := by
  cases files with
  | error failure => exact .noCandidates failure
  | ok files =>
      rw [ok_bind, findIn]
      cases made : Matcher.ofQuery query mode with
      | error fault => exact .noMatcher files fault made
      | ok matcher =>
          dsimp only
          rcases Location.search_in_cases matcher answer files with
            ⟨nowhere, missed⟩ |
            ⟨before, path, after, rfl, missed, ⟨failure, broken, ends⟩ | ⟨lines, j, line, there, first, ends⟩⟩
          · rw [nowhere]
            exact .notDeclared matcher files made missed
          · rw [ends]
            exact .unreadable matcher before after path failure made missed broken
          · rw [ends]
            simp only [there]
            exact .found matcher before after path lines j line _ made missed there first
              (Construct.extracted_of_lines _ lines)

theorem looked_up_unique {files : Except Failure (List Path)} {result : Except Failure Construct}
    (looked : LookedUp answer mode query files result) : result = files >>= findIn answer mode query := by
  cases looked with
  | noCandidates failure => rfl
  | noMatcher files fault broken =>
      rw [ok_bind, findIn, broken]
  | unreadable matcher before after path failure made missed broken =>
      rw [ok_bind, findIn, made]
      simp only [Location.search_in_skips missed, Location.searchIn, broken]
  | notDeclared matcher files made missed =>
      have nowhere := Location.search_in_skips missed []
      rw [List.append_nil] at nowhere
      rw [ok_bind, findIn, made]
      simp only [nowhere, Location.searchIn]
  | found matcher before after path lines j line result made missed there first extracted =>
      rw [ok_bind, findIn, made]
      simp only [Location.search_in_skips missed, Location.searchIn, there, Location.first_in_first first]
      exact extracted_unique extracted (Construct.extracted_of_lines _ lines)

theorem looked_up_congr {other : Path → Answer} {files : List Path} {result : Except Failure Construct}
    (same : ∀ path ∈ files, answer path = other path) (looked : LookedUp answer mode query (.ok files) result) :
    LookedUp other mode query (.ok files) result := by
  have missedToo {matcher : Matcher} {searched : List Path} (inside : searched ⊆ files)
      (missed : ∀ path ∈ searched, Missed matcher (path, answer path)) :
      ∀ path ∈ searched, Missed matcher (path, other path) := by
    intro path member
    rw [← same path (inside member)]
    exact missed path member
  cases looked with
  | noMatcher _ fault broken => exact .noMatcher files fault broken
  | unreadable matcher before after path failure made missed broken =>
      rw [same path (by simp)] at broken
      exact .unreadable matcher before after path failure made (missedToo (by simp) missed) broken
  | notDeclared matcher _ made missed => exact .notDeclared matcher files made (missedToo (fun _ => id) missed)
  | found matcher before after path lines j line _ made missed there first extracted =>
      rw [same path (by simp)] at there
      exact .found matcher before after path lines j line result made (missedToo (by simp) missed) there first extracted

theorem find_in_congr {other : Path → Answer} {files : List Path} (same : ∀ path ∈ files, answer path = other path) :
    findIn answer mode query files = findIn other mode query files :=
  looked_up_unique (looked_up_congr same (looked_up answer mode query (.ok files)))

theorem extract_run {σ : Type} {source : Source σ} {valid : σ → Prop} (answers : source.Answers answer valid)
    (place : Location) {session : Session σ} (start : valid session.source) :
    ((Construct.extract source place).run session).1 =
      match answer place.path with
      | .error failure => .error failure
      | .ok lines => Construct.ofLines place lines := by
  have read := answers.reads session place.path start
  rcases ran : (source.read place.path).run session with ⟨result, after⟩
  rw [ran] at read
  rw [← read]
  cases result with
  | error failure => rw [Construct.extract, run_bind_error ran]
  | ok lines => exact extract_read ran

theorem find_run {σ : Type} {source : Source σ} {valid : σ → Prop} (answers : source.Answers answer valid)
    {session asked : Session σ} {files : Except Failure (List Path)}
    (candidates : source.candidates.run session = (files, asked)) (start : valid asked.source) :
    ((find source mode query).run session).1 = files >>= findIn answer mode query := by
  cases files with
  | error failure =>
      rw [find, run_bind_error candidates]
      rfl
  | ok files =>
      rw [ok_bind, find, run_bind_ok candidates, findIn]
      simp only [run_bind, run_tell, matcher, run_of_except]
      cases made : Matcher.ofQuery query mode with
      | error fault => rfl
      | ok matcher =>
          obtain ⟨after, stays, ran⟩ := Location.search_run answers matcher files.length files
            { asked with log := asked.log ++ [.searching files.length query] } start
          simp only [map_error_ok, Location.find, ran]
          cases found : Location.searchIn matcher answer files with
          | error failure => rfl
          | ok place =>
              cases place with
              | none => rfl
              | some place =>
                  have extracted := extract_run answers place stays
                  rcases taken : (Construct.extract source place).run after with ⟨result, last⟩
                  rw [taken] at extracted
                  simp only [← extracted]
                  cases result with
                  | error failure => rw [run_bind_error taken]
                  | ok construct =>
                      rw [run_bind_ok taken]
                      rfl

end

end Lookup

end PolicyLookup
