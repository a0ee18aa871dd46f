import PolicyLookup.Proofs.CommandLine.Outcome
import PolicyLookup.Proofs.Source.Real

set_option autoImplicit false

namespace PolicyLookup

namespace Failure

def initial : Failure → Char
  | .pattern _ | .folderNotText _ | .regex _ => 'I'
  | .config _ | .neverClosed _ _ => 'C'
  | .yaml _ => 'Y'
  | .notFolder _ => 'D'
  | .noCandidates _ _ _ => 'N'
  | .notDeclared _ => 'U'
  | .pastEnd _ _ => 'L'
  | .read _ _ => 'F'

theorem begins_append {s : String} {c : Char} (begins : s.toList.head? = some c) (t : String) :
    (s ++ t).toList.head? = some c := by
  rw [String.toList_append, List.head?_append, begins]
  rfl

theorem message_initial (cause : Failure) : cause.message.toList.head? = some cause.initial := by
  cases cause with
  | pattern | folderNotText | regex | config | yaml => exact begins_append rfl _
  | notFolder | notDeclared => exact begins_append (begins_append rfl _) _
  | pastEnd | read => exact begins_append (begins_append (begins_append rfl _) _) _
  | neverClosed => exact begins_append (begins_append (begins_append (begins_append rfl _) _) _) _
  | noCandidates =>
      exact begins_append (begins_append (begins_append (begins_append (begins_append (begins_append rfl _) _) _) _) _) _

theorem no_candidates_of_initial {cause : Failure} (same : cause.initial = 'N') :
    ∃ root interface support, cause = .noCandidates root interface support := by
  cases cause with
  | noCandidates root interface support => exact ⟨root, interface, support, rfl⟩
  | _ => simp [initial] at same

end Failure

namespace CommandLine

def Outcome.LacksCandidates (outcome : Outcome) : Prop :=
  outcome.exitCode = 1 ∧ ∃ root interface support,
    outcome.output = ("ERROR: " ++ (Failure.noCandidates root interface support).message ++ "\n").toList

section

variable {disk : Disk} {environment : Environment} {a : Arguments}

theorem result_of_lacking (lacks : (lookup disk environment a).LacksCandidates) :
    ∃ root interface support, resultOf disk environment a = .error (.failure (.noCandidates root interface support)) := by
  obtain ⟨code, root, interface, support, output⟩ := lacks
  have tells := lookup_tells disk environment a
  cases result : resultOf disk environment a with
  | ok construct =>
      rw [result] at tells
      rw [tells.1] at code
      contradiction
  | error fault =>
      rw [result] at tells
      have printed := tells.2.symm.trans output
      have same : fault.message.toList = (Failure.noCandidates root interface support).message.toList := by
        simpa only [String.toList_append, List.append_assoc, List.append_cancel_left_eq,
          List.append_cancel_right_eq] using printed
      have initial : fault.message.toList.head? = some 'N' := by
        rw [same]
        exact Failure.message_initial _
      cases fault with
      | missingFolder | missingQuery => exact absurd initial (by decide +kernel)
      | failure cause =>
          have begins := (Failure.message_initial cause).symm.trans initial
          obtain ⟨other, i, s, rfl⟩ := Failure.no_candidates_of_initial (Option.some.inj begins)
          exact ⟨other, i, s, rfl⟩

theorem candidates_not_lacking {mode : QueryMode} {query : Text} {files : List Path} {root : Path}
    {interface support : Text} :
    Lookup.findIn (Folder.answer disk) mode query files ≠ .error (.noCandidates root interface support) := by
  intro lacks
  have looked := Lookup.looked_up (Folder.answer disk) mode query (.ok files)
  change LookedUp _ _ _ _ (Lookup.findIn (Folder.answer disk) mode query files) at looked
  rw [lacks] at looked
  generalize listed : (Except.ok files : Except Failure (List Path)) = candidates at looked
  generalize ended : (Except.error (.noCandidates root interface support) : Except Failure Construct) = result at looked
  cases looked with
  | noCandidates failure => contradiction
  | noMatcher files fault broken => cases ended
  | notDeclared matcher files made missed => cases ended
  | unreadable matcher before after path failure made missed broken =>
      obtain rfl := Except.error.inj ended
      rw [Folder.answer] at broken
      split at broken <;> cases broken
  | found matcher before after path lines j line result made missed there first extracted =>
      subst ended
      cases extracted

theorem configured_extensions {config : Config} (loaded : configFor disk environment a = .ok config) :
    (∀ c ∈ config.interfaceExtension, Config.isReserved c = false) ∧
      ∀ c ∈ config.supportExtension, Config.isReserved c = false := by
  cases configured_iff.mpr loaded with
  | literal base config based plain accepted =>
      obtain ⟨raw, valid⟩ := Config.with_overrides_ok accepted
      exact Config.validated_extensions valid
  | regex base config based flagged accepted =>
      obtain ⟨raw, valid⟩ := Config.with_overrides_ok accepted
      have free := Config.validated_extensions valid
      exact free

variable {folder other : Path} {place : Place} {entries : Entries}

theorem resolve_located (located : disk.locate false folder = .ok place) : resolve disk folder = Path.ofNames place := by
  rw [resolve, Disk.canonical?, located]
  rfl

theorem lookup_respelled (same : resolve disk folder = resolve disk other) :
    lookup disk environment { a with folder := some folder } = lookup disk environment { a with folder := some other } := by
  have searched (config : Config) (query : Text) : search disk config folder query = search disk config other query := by
    rw [search, search, same]
  rw [lookup, lookup]
  dsimp only
  cases a.query with
  | none => rfl
  | some query =>
      simp only [searched]
      rfl

theorem search_lacking {config : Config} {query : Text} {root : Path} {interface support : Text}
    (located : disk.locate false folder = .ok place)
    (lacks : (search disk config folder query).1 = .error (.noCandidates root interface support)) :
    Folder.candidatesIn disk ⟨Path.ofNames place, config.interfaceExtension, config.supportExtension⟩ =
      .error (.noCandidates root interface support) := by
  cases isFolder : disk.isFolder (resolve disk folder) with
  | false =>
      rw [search_closed config isFolder] at lacks
      cases lacks
  | true =>
      rw [search_opened config isFolder, Lookup.start, Folder.find_in_folder, opened, resolve_located located] at lacks
      cases listed : Folder.candidatesIn disk
          ⟨Path.ofNames place, config.interfaceExtension, config.supportExtension⟩ with
      | error failure =>
          rw [listed] at lacks
          exact congrArg Except.error (Except.error.inj lacks)
      | ok files =>
          rw [listed] at lacks
          exact absurd lacks candidates_not_lacking

theorem no_real_file (named : disk.root.Named) (there : disk.root.at? place = some (.folder entries))
    {config : Config} (freeInterface : ∀ c ∈ config.interfaceExtension, Config.isReserved c = false)
    (freeSupport : ∀ c ∈ config.supportExtension, Config.isReserved c = false) {root : Path} {interface support : Text}
    (lacks : Folder.candidatesIn disk ⟨Path.ofNames place, config.interfaceExtension, config.supportExtension⟩ =
      .error (.noCandidates root interface support)) (path : Path) :
    ¬ disk.RealFile place config.interfaceExtension path ∧ ¬ disk.RealFile place config.supportExtension path := by
  cases spells : (Path.ofNames place).text? with
  | none =>
      rw [Folder.candidatesIn, Folder.filesIn] at lacks
      simp only [spells] at lacks
      cases lacks
  | some text =>
      obtain ⟨interfaces, first, allFirst⟩ := Folder.files_in_real named there spells freeInterface
      obtain ⟨supports, second, allSecond⟩ := Folder.files_in_real named there spells freeSupport
      rw [Folder.candidates_in_ok first second] at lacks
      by_cases none : interfaces = [] ∧ supports = []
      · rw [none.1] at allFirst
        rw [none.2] at allSecond
        exact ⟨fun real => absurd (allFirst path real) List.not_mem_nil,
          fun real => absurd (allSecond path real) List.not_mem_nil⟩
      · rw [if_neg none] at lacks
        contradiction

end

-- How the folder is spelled has no part in what a run comes to, and the error for a folder without
-- candidates means that there is no file below it over folders alone.
theorem run_respelled {disk : Disk} (named : disk.root.Named) (environment : Environment) {words others : List Bytes}
    {a : Arguments} {folder other : Path} (asked : Request.ofWords words = .ok (.lookup { a with folder := some folder }))
    (askedToo : Request.ofWords others = .ok (.lookup { a with folder := some other })) {place : Place}
    {entries : Entries} (located : disk.locate false folder = .ok place) (locatedToo : disk.locate false other = .ok place)
    (there : disk.root.at? place = some (.folder entries)) :
    run disk environment words = run disk environment others ∧
      ∀ config, configFor disk environment { a with folder := some folder } = .ok config →
        (run disk environment words).LacksCandidates → ∀ path,
          ¬ disk.RealFile place config.interfaceExtension path ∧ ¬ disk.RealFile place config.supportExtension path := by
  have same : resolve disk folder = resolve disk other := by
    rw [resolve_located located, resolve_located locatedToo]
  rw [run, run, asked, askedToo]
  refine ⟨lookup_respelled same, ?_⟩
  intro config loaded lacks
  obtain ⟨root, interface, support, result⟩ := result_of_lacking lacks
  obtain ⟨freeInterface, freeSupport⟩ := configured_extensions loaded
  rw [resultOf] at result
  dsimp only at result
  cases given : a.query with
  | none =>
      rw [given] at result
      cases result
  | some query =>
      rw [given] at result loaded
      simp only [loaded] at result
      cases searched : (search disk config folder query).1 with
      | ok construct =>
          rw [searched] at result
          cases result
      | error failure =>
          rw [searched] at result
          obtain rfl := Fault.failure.inj (Except.error.inj result)
          exact no_real_file named there freeInterface freeSupport (search_lacking located searched)

def linkedDisk : Disk where
  root :=
    .cons (Utf8.encode "pol".toList) (.folder
      (.cons (Utf8.encode "sub".toList) (.folder (.cons (Utf8.encode "a.if".toList) (.file []) .nil))
        (.cons (Utf8.encode "back".toList) (.link (Path.ofText "../ln".toList)) .nil)))
      (.cons (Utf8.encode "ln".toList) (.link (Path.ofText "/pol/sub/..".toList)) .nil)
  home := []

theorem linked_named : linkedDisk.root.Named := by
  refine .cons _ _ _ ⟨⟨by decide, by decide, by decide, by decide⟩, by decide, by decide⟩ (.folder _ ?_) ?_
  · refine .cons _ _ _ ⟨⟨by decide, by decide, by decide, by decide⟩, by decide, by decide⟩ (.folder _ ?_) ?_
    · exact .cons _ _ _ ⟨⟨by decide, by decide, by decide, by decide⟩, by decide, by decide⟩ (.file _) .nil
    · exact .cons _ _ _ ⟨⟨by decide, by decide, by decide, by decide⟩, by decide, by decide⟩ (.link _) .nil
  · exact .cons _ _ _ ⟨⟨by decide, by decide, by decide, by decide⟩, by decide, by decide⟩ (.link _) .nil

theorem run_respelled_over_links :
    let environment : Environment := ⟨none, Config.unset, none⟩
    let words := ["ln//./", "x"].map fun word => Utf8.encode word.toList
    let others := ["/pol/sub/../back/", "x"].map fun word => Utf8.encode word.toList
    run linkedDisk environment words = run linkedDisk environment others ∧
      ¬ (run linkedDisk environment words).LacksCandidates := by
  intro environment words others
  let a : Arguments := ⟨none, some "x".toList, none, false, 0⟩
  let folder := Path.ofText "ln//./".toList
  let other := Path.ofText "/pol/sub/../back/".toList
  have asked : Request.ofWords words = .ok (.lookup { a with folder := some folder }) := by decide +kernel
  have askedToo : Request.ofWords others = .ok (.lookup { a with folder := some other }) := by decide +kernel
  have located : linkedDisk.locate false folder = .ok [Utf8.encode "pol".toList] := by decide +kernel
  have locatedToo : linkedDisk.locate false other = .ok [Utf8.encode "pol".toList] := by decide +kernel
  obtain ⟨same, whole⟩ := run_respelled linked_named environment asked askedToo located locatedToo rfl
  have configured : configFor linkedDisk environment { a with folder := some folder } = .ok Config.default := rfl
  have real : linkedDisk.RealFile [Utf8.encode "pol".toList] Config.default.interfaceExtension
      (Path.ofText "/pol/sub/a.if".toList) := by
    refine ⟨⟨[Utf8.encode "sub".toList], Utf8.encode "a.if".toList, "a.if".toList, [], ?_, rfl, ?_, ?_⟩, ?_⟩
    · decide
    · decide
    · decide
    · exact (by decide : (Path.ofText "/pol/sub/a.if".toList).bytes.length ≤ Disk.longestPath)
  exact ⟨same, fun lacks => (whole _ configured lacks _).1 real⟩

end CommandLine

end PolicyLookup
