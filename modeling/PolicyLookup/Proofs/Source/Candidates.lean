import PolicyLookup.Proofs.Lookup.Answers

set_option autoImplicit false

namespace PolicyLookup.Folder

def answer (disk : Disk) (path : Path) : Answer :=
  match disk.readText path with
  | .ok text => .ok (Text.lines text)
  | .error fault => .error (.read path fault)

def filesIn (disk : Disk) (root : Path) (extension : Text) : Except Failure (List Path) :=
  match root.text? with
  | none => .error (.folderNotText root)
  | some text =>
      match Glob.Pattern.ofText (patternFor text extension) with
      | .error fault => .error (.pattern fault)
      | .ok pattern => .ok (((pattern.search disk).filterMap Except.toOption).filter disk.isFile)

def candidatesIn (disk : Disk) (folder : Folder) : Except Failure (List Path) :=
  match filesIn disk folder.root folder.interfaceExtension with
  | .error failure => .error failure
  | .ok interfaces =>
      match filesIn disk folder.root folder.supportExtension with
      | .error failure => .error failure
      | .ok supports =>
          if interfaces = [] ∧ supports = [] then
            .error (.noCandidates folder.root folder.interfaceExtension folder.supportExtension)
          else .ok (interfaces ++ supports)

theorem of_config_ok {disk : Disk} {root : Path} {config : Config} {folder : Folder}
    (opened : ofConfig disk root config = .ok folder) :
    (∃ entries, disk.entries? root = some entries) ∧
      folder = ⟨root, config.interfaceExtension, config.supportExtension⟩ := by
  rw [ofConfig] at opened
  split at opened
  · exact ⟨Option.isSome_iff_exists.mp ‹_›, (Except.ok.inj opened).symm⟩
  · contradiction

theorem candidates_in_ok {disk : Disk} {folder : Folder} {interfaces supports : List Path}
    (first : filesIn disk folder.root folder.interfaceExtension = .ok interfaces)
    (second : filesIn disk folder.root folder.supportExtension = .ok supports) :
    candidatesIn disk folder =
      if interfaces = [] ∧ supports = [] then
        .error (.noCandidates folder.root folder.interfaceExtension folder.supportExtension)
      else .ok (interfaces ++ supports) := by
  simp only [candidatesIn, first, second]

theorem folder_answers (folder : Folder) (disk : Disk) : folder.source.Answers (answer disk) (· = disk) where
  reads session path same := by
    subst same
    change ((read path).run session).1 = _
    rw [read, Lookup.run_bind, Lookup.run_get, answer]
    dsimp only
    cases session.source.readText path <;> rfl
  stays session path same := by
    subst same
    change ((read path).run session).2.source = _
    rw [read, Lookup.run_bind, Lookup.run_get]
    dsimp only
    cases session.source.readText path <;> rfl

def text (disk : Disk) (path : Path) : Except Failure Text :=
  match disk.readText path with
  | .ok content => .ok content
  | .error fault => .error (.read path fault)

theorem folder_texts (folder : Folder) (disk : Disk) :
    folder.source.Answers (fun path => (text disk path).map Text.lines) (· = disk) := by
  have same : answer disk = fun path => (text disk path).map Text.lines := by
    funext path
    rw [answer, text]
    cases disk.readText path <;> rfl
  rw [← same]
  exact folder_answers folder disk

theorem keep_files_run (disk : Disk) (hits : List (Except Glob.Unreadable Path)) (session : Session Disk) :
    ∃ log, (keepFiles disk hits).run session =
      (.ok ((hits.filterMap Except.toOption).filter disk.isFile), ⟨session.source, log⟩) := by
  induction hits generalizing session with
  | nil => exact ⟨session.log, rfl⟩
  | cons hit hits ih =>
      cases hit with
      | error skipped =>
          obtain ⟨log, ran⟩ := ih { session with log := session.log ++ [.unreadable skipped] }
          exact ⟨log, ran⟩
      | ok path =>
          have kept : ((Except.ok path :: hits : List (Except Glob.Unreadable Path)).filterMap Except.toOption) =
              path :: hits.filterMap Except.toOption := rfl
          rw [kept]
          cases isFile : disk.isFile path with
          | true =>
              obtain ⟨log, ran⟩ := ih session
              refine ⟨log, ?_⟩
              rw [keepFiles, if_pos isFile, Lookup.run_bind_ok ran, List.filter_cons_of_pos isFile]
              rfl
          | false =>
              obtain ⟨log, ran⟩ := ih { session with log := session.log ++ [.notFile path] }
              refine ⟨log, ?_⟩
              have notFile : ¬ disk.isFile path = true := by rw [isFile]; exact Bool.false_ne_true
              rw [keepFiles, if_neg notFile, List.filter_cons_of_neg notFile, ← ran]
              rfl

theorem files_run (disk : Disk) (folder : Folder) (extension : Text) (log : List Event) :
    ∃ after, (folder.filesWith extension).run ⟨disk, log⟩ =
      (filesIn disk folder.root extension, ⟨disk, after⟩) := by
  rw [filesWith, Lookup.run_bind, Lookup.run_get, filesIn]
  dsimp only
  cases folder.root.text? with
  | none => exact ⟨log, rfl⟩
  | some text =>
      dsimp only
      rw [Lookup.run_bind, Lookup.run_of_except]
      cases Glob.Pattern.ofText (patternFor text extension) with
      | error fault => exact ⟨log, rfl⟩
      | ok pattern =>
          obtain ⟨kept, ran⟩ := keep_files_run disk (pattern.search disk) ⟨disk, log⟩
          refine ⟨kept ++ [.filesFound
            (((pattern.search disk).filterMap Except.toOption).filter disk.isFile).length extension folder.root], ?_⟩
          simp only [Lookup.map_error_ok]
          rw [Lookup.run_bind_ok ran]
          rfl

theorem candidates_run (disk : Disk) (folder : Folder) (log : List Event) :
    ∃ after, folder.source.candidates.run ⟨disk, log⟩ = (candidatesIn disk folder, ⟨disk, after⟩) := by
  obtain ⟨middle, first⟩ := files_run disk folder folder.interfaceExtension log
  change ∃ after, folder.candidates.run ⟨disk, log⟩ = _
  rw [candidates, candidatesIn]
  cases listed : filesIn disk folder.root folder.interfaceExtension with
  | error failure =>
      rw [listed] at first
      exact ⟨middle, Lookup.run_bind_error first _⟩
  | ok interfaces =>
      rw [listed] at first
      obtain ⟨after, second⟩ := files_run disk folder folder.supportExtension middle
      rw [Lookup.run_bind_ok first]
      cases listedToo : filesIn disk folder.root folder.supportExtension with
      | error failure =>
          rw [listedToo] at second
          exact ⟨after, Lookup.run_bind_error second _⟩
      | ok supports =>
          rw [listedToo] at second
          refine ⟨after, ?_⟩
          rw [Lookup.run_bind_ok second]
          by_cases none : interfaces = [] ∧ supports = []
          · have empty : (interfaces ++ supports).isEmpty = true := by simp [none]
            simp only [if_pos empty, if_pos none]
            rfl
          · have something : ¬ (interfaces ++ supports).isEmpty = true := by
              simpa [List.isEmpty_iff] using none
            simp only [if_neg something, if_neg none]
            rfl

theorem find_in_folder (disk : Disk) (folder : Folder) (mode : QueryMode) (query : Text) (log : List Event) :
    ((Lookup.find folder.source mode query).run ⟨disk, log⟩).1 =
      candidatesIn disk folder >>= Lookup.findIn (answer disk) mode query := by
  obtain ⟨after, candidates⟩ := candidates_run disk folder log
  exact Lookup.find_run (folder_answers folder disk) candidates rfl

end PolicyLookup.Folder
