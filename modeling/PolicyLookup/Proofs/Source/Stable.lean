import PolicyLookup.Proofs.Lookup.Run
import PolicyLookup.Search
import PolicyLookup.Source.Folder
import PolicyLookup.Source.Memory

set_option autoImplicit false

namespace PolicyLookup

structure Source.Shows {σ : Type} (source : Source σ) (contents : Path → Option Text)
    (valid : σ → Prop) : Prop where
  reads : ∀ (session : Session σ) (path : Path) (text : Text), valid session.source →
    contents path = some text → ((source.read path).run session).1 = .ok (Text.lines text)
  stays : ∀ (session : Session σ) (path : Path), valid session.source →
    valid ((source.read path).run session).2.source

def Unmatched (matcher : Matcher) (contents : Path → Option Text) (path : Path) : Prop :=
  ∃ text, contents path = some text ∧ ∀ line ∈ Text.lines text, matcher.isMatch line = false

theorem memory_shows (m : Memory) : Memory.source.Shows m.find? (· = m) where
  reads session path text same found := by
    change Memory.lines session.source path = _
    rw [same, Memory.lines, found]
  stays _ _ same := same

theorem folder_shows (folder : Folder) (disk : Disk) :
    folder.source.Shows (fun path => (disk.readText path).toOption) (· = disk) where
  reads session path text same found := by
    subst same
    change ((Folder.read path).run session).1 = _
    rw [Folder.read, Lookup.run_bind, Lookup.run_get]
    cases answer : session.source.readText path with
    | error fault =>
        rw [answer] at found
        contradiction
    | ok content =>
        rw [answer] at found
        obtain rfl := Option.some.inj found
        simp only [answer]
        rfl
  stays session path same := by
    subst same
    change ((Folder.read path).run session).2.source = _
    rw [Folder.read, Lookup.run_bind, Lookup.run_get]
    cases answer : session.source.readText path with
    | error fault | ok content =>
        simp only [answer]
        rfl

theorem first_in_unmatched {matcher : Matcher} {path : Path} {lines : List Text}
    (unmatched : ∀ line ∈ lines, matcher.isMatch line = false) :
    Location.firstIn matcher path lines = none := by
  have missing : lines.findIdx? matcher.isMatch = none := by
    rw [List.findIdx?_eq_none_iff]
    exact unmatched
  rw [Location.firstIn, missing]

section

variable {σ : Type} {source : Source σ} {contents : Path → Option Text} {valid : σ → Prop}
  {matcher : Matcher}

theorem Source.Shows.read (shown : source.Shows contents valid) {session : Session σ} {path : Path}
    {text : Text} (start : valid session.source) (there : contents path = some text) :
    ∃ after, (source.read path).run session = (.ok (Text.lines text), after) ∧ valid after.source := by
  have answer := shown.reads session path text start there
  have stays := shown.stays session path start
  rcases ran : (source.read path).run session with ⟨result, after⟩
  rw [ran] at answer stays
  exact ⟨after, by rw [← answer], stays⟩

-- The files that do not match are read in turn, each from the state that the one before has left.
theorem search_skips (shown : source.Shows contents valid) (total : Nat) (earlier : List Path)
    (unmatched : ∀ path ∈ earlier, Unmatched matcher contents path) (session : Session σ)
    (start : valid session.source) :
    ∃ after, valid after.source ∧ ∀ rest,
      (Location.searchFiles source matcher total (earlier ++ rest)).run session =
        (Location.searchFiles source matcher total rest).run after := by
  induction earlier generalizing session with
  | nil => exact ⟨session, start, fun _ => rfl⟩
  | cons path earlier ih =>
      obtain ⟨text, there, missing⟩ := unmatched path List.mem_cons_self
      obtain ⟨middle, ran, stays⟩ := shown.read start there
      obtain ⟨after, last, skips⟩ := ih (fun other member => unmatched other (List.mem_cons_of_mem _ member))
        { middle with log := middle.log ++ [.scanning path (Text.lines text).length] } stays
      refine ⟨after, last, ?_⟩
      intro rest
      rw [List.cons_append, Location.searchFiles, Lookup.run_bind_ok ran, Lookup.run_bind, Lookup.run_tell]
      simp only [first_in_unmatched missing]
      exact skips rest

theorem search_nowhere (shown : source.Shows contents valid) (total : Nat) (files : List Path)
    (unmatched : ∀ path ∈ files, Unmatched matcher contents path) (session : Session σ)
    (start : valid session.source) :
    ∃ after, valid after.source ∧
      (Location.searchFiles source matcher total files).run session = (.ok none, after) := by
  obtain ⟨after, last, skips⟩ := search_skips shown total files unmatched session start
  rw [← List.append_nil files, skips []]
  exact ⟨{ after with log := after.log ++ [.notLocated matcher.query total] }, last, rfl⟩

theorem search_first (shown : source.Shows contents valid) (total : Nat) (earlier later : List Path)
    (path : Path) (text : Text) (place : Location)
    (unmatched : ∀ other ∈ earlier, Unmatched matcher contents other)
    (there : contents path = some text)
    (found : Location.firstIn matcher path (Text.lines text) = some place) (session : Session σ)
    (start : valid session.source) :
    ∃ after, valid after.source ∧
      (Location.searchFiles source matcher total (earlier ++ path :: later)).run session =
        (.ok (some place), after) := by
  obtain ⟨middle, validAfter, skips⟩ := search_skips shown total earlier unmatched session start
  obtain ⟨after, ran, stays⟩ := shown.read validAfter there
  rw [skips, Location.searchFiles, Lookup.run_bind_ok ran, Lookup.run_bind, Lookup.run_tell]
  simp only [found]
  refine ⟨{ after with log := after.log ++ [.scanning path (Text.lines text).length] ++
    [.located place.keyword matcher.query path place.line] }, stays, ?_⟩
  rfl

theorem first_in_path {path : Path} {lines : List Text} {place : Location}
    (found : Location.firstIn matcher path lines = some place) : place.path = path := by
  unfold Location.firstIn at found
  split at found
  · exact (Option.some.inj found) ▸ rfl
  · contradiction

theorem first_in_row {upper lower : List Text} {line : Text} (path : Path)
    (missed : ∀ other ∈ upper, matcher.isMatch other = false) (hit : matcher.isMatch line = true) :
    Location.firstIn matcher path (upper ++ line :: lower) =
      some ⟨path, upper.length, matcher.keyword? line⟩ := by
  have missing : upper.findIdx? matcher.isMatch = none := by
    rw [List.findIdx?_eq_none_iff]
    exact missed
  have index : (upper ++ line :: lower).findIdx? matcher.isMatch = some upper.length := by
    rw [List.findIdx?_append, missing, List.findIdx?_cons, hit]
    simp
  have there : (upper ++ line :: lower)[upper.length]? = some line := by simp
  simp only [Location.firstIn, index, there, Option.getD_some]

theorem extract_read {place : Location} {lines : List Text} {session after : Session σ}
    (ran : (source.read place.path).run session = (.ok lines, after)) :
    ((Construct.extract source place).run session).1 = Construct.ofLines place lines := by
  rw [Construct.extract, Lookup.run_bind_ok ran]
  cases taken : Construct.ofLines place lines with
  | error failure => rfl
  | ok construct =>
      by_cases isBlock : construct.shape = .block
      · simp only [Lookup.run_bind, Lookup.run_of_except, isBlock, if_true, Lookup.run_tell, Lookup.run_pure]
      · simp only [Lookup.run_bind, Lookup.run_of_except, isBlock, if_false, Lookup.run_pure]

theorem extract_stable (shown : source.Shows contents valid) {place : Location} {text : Text}
    (there : contents place.path = some text) {session : Session σ} (start : valid session.source) :
    ((Construct.extract source place).run session).1 = Construct.ofLines place (Text.lines text) := by
  obtain ⟨after, ran, _⟩ := shown.read start there
  exact extract_read ran

theorem find_stable (shown : source.Shows contents valid) {mode : QueryMode} {query : Text}
    (made : Matcher.ofQuery query mode = .ok matcher) {session asked : Session σ}
    {earlier later : List Path} {path : Path} {text : Text} {place : Location}
    (candidates : source.candidates.run session = (.ok (earlier ++ path :: later), asked))
    (start : valid asked.source) (unmatched : ∀ other ∈ earlier, Unmatched matcher contents other)
    (there : contents path = some text)
    (found : Location.firstIn matcher path (Text.lines text) = some place) :
    ((Lookup.find source mode query).run session).1 = Construct.ofLines place (Text.lines text) := by
  have herePath := first_in_path found
  obtain ⟨after, stays, ran⟩ := search_first shown (earlier ++ path :: later).length earlier later path
    text place unmatched there found
    { asked with log := asked.log ++ [.searching (earlier ++ path :: later).length query] } start
  have extracted := extract_stable shown (herePath ▸ there) stays
  rw [Lookup.find, Lookup.run_bind_ok candidates]
  simp only [Lookup.run_bind, Lookup.run_tell, Lookup.matcher, Lookup.run_of_except, made,
    Lookup.map_error_ok, Location.find, ran]
  rcases taken : (Construct.extract source place).run after with ⟨result, last⟩
  rw [taken] at extracted
  cases result with
  | error failure => exact extracted
  | ok construct => exact extracted

end

end PolicyLookup
