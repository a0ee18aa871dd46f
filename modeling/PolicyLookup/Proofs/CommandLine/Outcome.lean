import PolicyLookup.Proofs.Config.Again
import PolicyLookup.Proofs.Source.Candidates
import PolicyLookup.Proofs.Text.Utf8

set_option autoImplicit false

namespace PolicyLookup

structure Disk.HoldsLines (disk : Disk) (path : Path) (text : Text) : Prop where
  whole : ∃ above inner below : List Text, inner ≠ [] ∧ text = inner.flatten ∧
    disk.node? path = some (.file (Utf8.encode above.flatten ++ Utf8.encode text ++ Utf8.encode below.flatten)) ∧
    Text.lines (above.flatten ++ text ++ below.flatten) = above ++ inner ++ below

theorem Disk.read_text_ok {disk : Disk} {path : Path} {text : Text} (read : disk.readText path = .ok text) :
    disk.node? path = some (.file (Utf8.encode text)) := by
  rw [readText] at read
  obtain ⟨place, located, read⟩ := Lookup.bind_ok_iff.mp read
  rw [node?, located]
  dsimp only
  split at read
  · rename_i content there
    split at read
    · rename_i decoded
      obtain rfl := Except.ok.inj read
      rw [there, (Utf8.decode_iff _ _).mp decoded]
    · contradiction
  · contradiction
  · contradiction

theorem extracted_lines {place : Location} {lines : List Text} {construct : Construct}
    (extracted : Extracted place lines (.ok construct)) :
    ∃ above inner below, inner ≠ [] ∧ lines = above ++ inner ++ below ∧ construct.text = inner.flatten := by
  cases extracted with
  | singleLine header there _ =>
      obtain ⟨within, rfl⟩ := List.getElem?_eq_some_iff.mp there
      refine ⟨lines.take place.line, [lines[place.line]], lines.drop (place.line + 1), by simp, ?_, by simp⟩
      simp
  | block header last there _ closing =>
      obtain ⟨below, ⟨line, present, _⟩, _⟩ := closing
      obtain ⟨within, _⟩ := List.getElem?_eq_some_iff.mp present
      refine ⟨lines.take place.line, (lines.take (last + 1)).drop place.line, lines.drop (last + 1), ?_, ?_, rfl⟩
      · intro nothing
        have short := List.drop_eq_nil_iff.mp nothing
        rw [List.length_take] at short
        omega
      · have upper : lines.take place.line = (lines.take (last + 1)).take place.line := by
          rw [List.take_take, Nat.min_eq_left (by omega)]
        rw [upper, List.take_append_drop, List.take_append_drop]

theorem Disk.holds_extracted {disk : Disk} {path : Path} {lines : List Text} {place : Location} {construct : Construct}
    (read : Folder.answer disk path = .ok lines) (extracted : Extracted place lines (.ok construct)) :
    disk.HoldsLines path construct.text := by
  rw [Folder.answer] at read
  cases text : disk.readText path with
  | error fault =>
      rw [text] at read
      contradiction
  | ok content =>
      rw [text] at read
      obtain rfl := Except.ok.inj read
      obtain ⟨above, inner, below, something, split, taken⟩ := extracted_lines extracted
      have whole : content = above.flatten ++ construct.text ++ below.flatten := by
        rw [taken, ← Text.flatten_lines content, split, List.flatten_append, List.flatten_append]
      refine ⟨above, inner, below, something, taken, ?_, by rw [← whole, split]⟩
      rw [read_text_ok text, whole]
      simp only [Utf8.encode, List.flatMap_append]

namespace CommandLine

inductive Based (disk : Disk) (environment : Environment) (a : Arguments) : Config → Prop
  | unnamed (none : a.config.or environment.config = none) : Based disk environment a .default
  | file (path : Path) (base : Config) (named : a.config.or environment.config = some path)
      (read : Config.ofFile disk path = .ok base) : Based disk environment a base

inductive Configured (disk : Disk) (environment : Environment) (a : Arguments) : Config → Prop
  | literal (base config : Config) (based : Based disk environment a base) (plain : a.isRegex = false)
      (accepted : base.withOverrides environment.overrides = .ok config) : Configured disk environment a config
  | regex (base config : Config) (based : Based disk environment a base) (flagged : a.isRegex = true)
      (accepted : base.withOverrides environment.overrides = .ok config) :
      Configured disk environment a { config with mode := .regex }

def opened (disk : Disk) (folder : Path) (config : Config) : Folder :=
  ⟨resolve disk folder, config.interfaceExtension, config.supportExtension⟩

-- What comes of a request. Each stage is reached when all those above it are passed.
inductive Ends (disk : Disk) (environment : Environment) (a : Arguments) : Except Fault Construct → Prop
  | missingFolder (missing : a.folder = none) : Ends disk environment a (.error .missingFolder)
  | missingQuery (folder : Path) (given : a.folder = some folder) (missing : a.query = none) :
      Ends disk environment a (.error .missingQuery)
  | badFile (folder : Path) (query : Text) (path : Path) (failure : Failure) (given : a.folder = some folder)
      (asked : a.query = some query) (named : a.config.or environment.config = some path)
      (broken : Config.ofFile disk path = .error failure) : Ends disk environment a (.error (.failure failure))
  | badOverrides (folder : Path) (query : Text) (base : Config) (fault : ConfigFault)
      (given : a.folder = some folder) (asked : a.query = some query) (based : Based disk environment a base)
      (refused : base.withOverrides environment.overrides = .error fault) :
      Ends disk environment a (.error (.failure (.config fault)))
  | notFolder (folder : Path) (query : Text) (config : Config) (given : a.folder = some folder)
      (asked : a.query = some query) (configured : Configured disk environment a config)
      (closed : disk.isFolder (resolve disk folder) = false) :
      Ends disk environment a (.error (.failure (.notFolder (resolve disk folder))))
  | lookedUp (folder : Path) (query : Text) (config : Config) (result : Except Failure Construct)
      (given : a.folder = some folder) (asked : a.query = some query)
      (configured : Configured disk environment a config) (isFolder : disk.isFolder (resolve disk folder) = true)
      (looked : LookedUp (Folder.answer disk) config.mode query
        ((opened disk folder config).source.candidates.start disk).1 result) :
      Ends disk environment a (result.mapError .failure)

def Outcome.Tells (outcome : Outcome) : Except Fault Construct → Prop
  | .ok construct => outcome.exitCode = 0 ∧ outcome.output = construct.text
  | .error fault =>
      outcome.exitCode = fault.exitCode ∧ outcome.output = ("ERROR: " ++ fault.message ++ "\n").toList

def Outcome.Finds (outcome : Outcome) (disk : Disk) (environment : Environment) (a : Arguments) : Prop :=
  outcome.exitCode = 0 ∧ ∃ folder query config construct files path,
    a.folder = some folder ∧ a.query = some query ∧ Configured disk environment a config ∧
    Folder.ofConfig disk (resolve disk folder) config = .ok (opened disk folder config) ∧
    ((Lookup.find (opened disk folder config).source config.mode query).start disk).1 = .ok construct ∧
    outcome.output = construct.text ∧
    ((opened disk folder config).source.candidates.start disk).1 = .ok files ∧ path ∈ files ∧
    disk.HoldsLines path outcome.output

structure Outcome.Lawful (outcome : Outcome) (disk : Disk) (environment : Environment) (a : Arguments) : Prop where
  told : ∃ result, Ends disk environment a result ∧ outcome.Tells result ∧
    ∀ other, Ends disk environment a other → other = result
  ends : outcome.Finds disk environment a ∨
    (outcome.exitCode = 2 ∧ outcome.output = ("ERROR: " ++ Fault.missingQuery.message ++ "\n").toList) ∨
    (outcome.exitCode = 1 ∧ ∃ fault, Ends disk environment a (.error fault) ∧
      outcome.output = ("ERROR: " ++ fault.message ++ "\n").toList)
  query : outcome.exitCode = 2 ↔ (∃ folder, a.folder = some folder) ∧ a.query = none

section

variable {disk : Disk} {environment : Environment} {a : Arguments}

def resultOf (disk : Disk) (environment : Environment) (a : Arguments) : Except Fault Construct :=
  match a.folder, a.query with
  | none, _ => .error .missingFolder
  | some _, none => .error .missingQuery
  | some folder, some query =>
      match configFor disk environment a with
      | .error failure => .error (.failure failure)
      | .ok config => (search disk config folder query).1.mapError .failure

theorem lookup_tells (disk : Disk) (environment : Environment) (a : Arguments) :
    (lookup disk environment a).Tells (resultOf disk environment a) := by
  rw [lookup, resultOf]
  cases a.folder with
  | none => exact ⟨rfl, rfl⟩
  | some folder =>
      cases a.query with
      | none => exact ⟨rfl, rfl⟩
      | some query =>
          dsimp only
          cases configFor disk environment a with
          | error failure => exact ⟨rfl, rfl⟩
          | ok config =>
              dsimp only
              cases (search disk config folder query).1 with
              | error failure => exact ⟨rfl, rfl⟩
              | ok construct => exact ⟨rfl, rfl⟩

theorem config_for_based {base : Config} (based : Based disk environment a base) :
    configFor disk environment a =
      match base.withOverrides environment.overrides with
      | .error fault => .error (.config fault)
      | .ok config => .ok (if a.isRegex then { config with mode := .regex } else config) := by
  have loaded : Config.load disk (a.config.or environment.config) environment.overrides =
      (base.withOverrides environment.overrides).mapError .config := by
    cases based with
    | unnamed none => rw [none, Config.load_unnamed]
    | file path base named read => rw [named, Config.load_read read]
  rw [configFor, loaded]
  cases base.withOverrides environment.overrides <;> rfl

theorem config_for_broken {path : Path} {failure : Failure} (named : a.config.or environment.config = some path)
    (broken : Config.ofFile disk path = .error failure) : configFor disk environment a = .error failure := by
  rw [configFor, named, Config.load_broken broken]
  rfl

theorem based_or_broken (disk : Disk) (environment : Environment) (a : Arguments) :
    (∃ base, Based disk environment a base) ∨ ∃ path failure, a.config.or environment.config = some path ∧
      Config.ofFile disk path = .error failure := by
  cases named : a.config.or environment.config with
  | none => exact Or.inl ⟨.default, .unnamed named⟩
  | some path =>
      cases read : Config.ofFile disk path with
      | error failure => exact Or.inr ⟨path, failure, rfl, read⟩
      | ok base => exact Or.inl ⟨base, .file path base named read⟩

theorem configured_iff {config : Config} :
    Configured disk environment a config ↔ configFor disk environment a = .ok config := by
  constructor
  · intro configured
    cases configured with
    | literal base config based plain accepted =>
        rw [config_for_based based, accepted, plain]
        rfl
    | regex base config based flagged accepted =>
        rw [config_for_based based, accepted, flagged]
        rfl
  · intro loaded
    rcases based_or_broken disk environment a with ⟨base, based⟩ | ⟨path, failure, named, broken⟩
    · rw [config_for_based based] at loaded
      cases accepted : base.withOverrides environment.overrides with
      | error fault =>
          rw [accepted] at loaded
          contradiction
      | ok effective =>
          rw [accepted] at loaded
          obtain rfl := Except.ok.inj loaded
          cases flag : a.isRegex with
          | false => exact .literal base effective based flag accepted
          | true => exact .regex base effective based flag accepted
    · rw [config_for_broken named broken] at loaded
      contradiction

theorem search_opened (config : Config) {folder : Path} (isFolder : disk.isFolder (resolve disk folder) = true)
    (query : Text) :
    (search disk config folder query).1 =
      ((Lookup.find (opened disk folder config).source config.mode query).start disk).1 := by
  rw [search, Folder.ofConfig, if_pos isFolder]
  rfl

theorem search_closed (config : Config) {folder : Path} (closed : disk.isFolder (resolve disk folder) = false)
    (query : Text) : (search disk config folder query).1 = .error (.notFolder (resolve disk folder)) := by
  have notFolder : ¬ disk.isFolder (resolve disk folder) = true := by simp [closed]
  rw [search, Folder.ofConfig, if_neg notFolder]

theorem looked_up_iff {folder : Folder} {mode : QueryMode} {query : Text} {result : Except Failure Construct} :
    LookedUp (Folder.answer disk) mode query (folder.source.candidates.start disk).1 result ↔
      result = ((Lookup.find folder.source mode query).start disk).1 := by
  obtain ⟨after, candidates⟩ := Folder.candidates_run disk folder []
  have found := Folder.find_in_folder disk folder mode query []
  rw [Lookup.start, Lookup.start, found, candidates]
  constructor
  · exact Lookup.looked_up_unique
  · rintro rfl
    exact Lookup.looked_up _ _ _ _

theorem ends_iff {result : Except Fault Construct} :
    Ends disk environment a result ↔ result = resultOf disk environment a := by
  constructor
  · intro ends
    rw [resultOf]
    cases ends with
    | missingFolder missing => rw [missing]
    | missingQuery folder given missing => rw [given, missing]
    | badFile folder query path failure given asked named broken =>
        rw [given, asked]
        simp only [config_for_broken named broken]
    | badOverrides folder query base fault given asked based refused =>
        rw [given, asked]
        simp only [config_for_based based, refused]
    | notFolder folder query config given asked configured closed =>
        rw [given, asked]
        simp only [configured_iff.mp configured, search_closed config closed query]
        rfl
    | lookedUp folder query config result given asked configured isFolder looked =>
        rw [given, asked]
        simp only [configured_iff.mp configured, search_opened config isFolder query, looked_up_iff.mp looked]
  · rintro rfl
    rw [resultOf]
    cases given : a.folder with
    | none => exact .missingFolder given
    | some folder =>
        cases asked : a.query with
        | none => exact .missingQuery folder given asked
        | some query =>
            dsimp only
            cases loaded : configFor disk environment a with
            | error failure =>
                rcases based_or_broken disk environment a with ⟨base, based⟩ | ⟨path, first, named, broken⟩
                · rw [config_for_based based] at loaded
                  cases accepted : base.withOverrides environment.overrides with
                  | ok config =>
                      rw [accepted] at loaded
                      contradiction
                  | error fault =>
                      rw [accepted] at loaded
                      obtain rfl := Except.error.inj loaded
                      exact .badOverrides folder query base fault given asked based accepted
                · rw [config_for_broken named broken] at loaded
                  obtain rfl := Except.error.inj loaded
                  exact .badFile folder query path _ given asked named broken
            | ok config =>
                have configured := configured_iff.mpr loaded
                cases isFolder : disk.isFolder (resolve disk folder) with
                | false =>
                    dsimp only
                    rw [search_closed config isFolder query]
                    exact .notFolder folder query config given asked configured isFolder
                | true =>
                    dsimp only
                    rw [search_opened config isFolder query]
                    exact .lookedUp folder query config _ given asked configured isFolder (looked_up_iff.mpr rfl)

theorem finds_of_ends {outcome : Outcome} {construct : Construct} (ends : Ends disk environment a (.ok construct))
    (tells : outcome.Tells (.ok construct)) : outcome.Finds disk environment a := by
  obtain ⟨code, output⟩ := tells
  generalize isResult : (Except.ok construct : Except Fault Construct) = told at ends
  cases ends with
  | missingFolder _ | missingQuery _ _ _ | badFile _ _ _ _ _ _ _ _ | badOverrides _ _ _ _ _ _ _ _
  | notFolder _ _ _ _ _ _ _ => contradiction
  | lookedUp folder query config result given asked configured isFolder looked =>
      cases result with
      | error failure => contradiction
      | ok other =>
          obtain rfl : construct = other := Except.ok.inj isResult
          have found := (looked_up_iff.mp looked).symm
          generalize listed : ((opened disk folder config).source.candidates.start disk).1 = candidates at looked
          cases looked with
          | found matcher before after path lines j line _ _ _ there _ extracted =>
              refine ⟨code, folder, query, config, construct, before ++ path :: after, path, given, asked, configured,
                if_pos isFolder, found, output, listed, by simp, ?_⟩
              rw [output]
              exact Disk.holds_extracted there extracted

theorem ends_missing_query :
    Ends disk environment a (.error .missingQuery) ↔ (∃ folder, a.folder = some folder) ∧ a.query = none := by
  constructor
  · intro ends
    generalize isResult : (Except.error Fault.missingQuery : Except Fault Construct) = told at ends
    cases ends with
    | missingQuery folder given missing => exact ⟨⟨folder, given⟩, missing⟩
    | missingFolder _ | badFile _ _ _ _ _ _ _ _ | badOverrides _ _ _ _ _ _ _ _ | notFolder _ _ _ _ _ _ _ =>
        cases isResult
    | lookedUp _ _ _ result _ _ _ _ _ => cases result <;> cases isResult
  · rintro ⟨⟨folder, given⟩, missing⟩
    exact .missingQuery folder given missing

theorem lookup_finds {construct : Construct} (result : resultOf disk environment a = .ok construct) :
    (lookup disk environment a).Finds disk environment a := by
  have ends : Ends disk environment a (.ok construct) := ends_iff.mpr result.symm
  have tells := lookup_tells disk environment a
  rw [result] at tells
  exact finds_of_ends ends tells

theorem lookup_faults {fault : Fault} (result : resultOf disk environment a = .error fault) :
    let outcome := lookup disk environment a
    let message := ("ERROR: " ++ fault.message ++ "\n").toList
    (outcome.exitCode = 2 ∧ fault = .missingQuery ∧ outcome.output = message) ∨
      (outcome.exitCode = 1 ∧ Ends disk environment a (.error fault) ∧ outcome.output = message) := by
  have ends : Ends disk environment a (.error fault) := ends_iff.mpr result.symm
  have tells := lookup_tells disk environment a
  rw [result] at tells
  obtain ⟨code, output⟩ := tells
  cases fault with
  | missingQuery => exact Or.inl ⟨code, rfl, output⟩
  | missingFolder | failure cause => exact Or.inr ⟨code, ends, output⟩

theorem lookup_code_two : (lookup disk environment a).exitCode = 2 ↔ Ends disk environment a (.error .missingQuery) := by
  rw [ends_iff]
  cases result : resultOf disk environment a with
  | ok construct =>
      rw [(lookup_finds result).1]
      constructor <;> intro impossible <;> cases impossible
  | error fault =>
      rcases lookup_faults result with ⟨code, rfl, _⟩ | ⟨code, _, _⟩
      · simp [code]
      · rw [code]
        constructor
        · intro impossible
          cases impossible
        · intro same
          obtain rfl := Except.error.inj same
          have tells := lookup_tells disk environment a
          rw [result] at tells
          exact code.symm.trans tells.1

theorem lawful_lookup (disk : Disk) (environment : Environment) (a : Arguments) :
    (lookup disk environment a).Lawful disk environment a where
  told := ⟨_, ends_iff.mpr rfl, lookup_tells disk environment a, fun _ also => ends_iff.mp also⟩
  ends := by
    cases result : resultOf disk environment a with
    | ok construct => exact Or.inl (lookup_finds result)
    | error fault =>
        rcases lookup_faults result with ⟨code, rfl, output⟩ | ⟨code, ends, output⟩
        · exact Or.inr (Or.inl ⟨code, output⟩)
        · exact Or.inr (Or.inr ⟨code, fault, ends, output⟩)
  query := lookup_code_two.trans ends_missing_query

end

theorem run_lawful {words : List Bytes} {a : Arguments} (read : Request.ofWords words = .ok (.lookup a))
    (disk : Disk) (environment : Environment) :
    (run disk environment words).Lawful disk environment a := by
  rw [run, read]
  exact lawful_lookup disk environment a

-- Of a folder that is not there and a query that is no pattern, the folder is told.
theorem run_lawful_two_faults :
    let disk : Disk := ⟨.nil, []⟩
    let environment : Environment := ⟨none, Config.unset, none⟩
    let words := ["pol".toList, "net(".toList, "--regex".toList].map Utf8.encode
    let a : Arguments := ⟨some (Path.ofText "pol".toList), some "net(".toList, none, true, 0⟩
    Request.ofWords words = .ok (.lookup a) ∧ (run disk environment words).Lawful disk environment a ∧
      (run disk environment words).exitCode = 1 ∧
      (run disk environment words).output = "ERROR: Directory does not exist: '/pol'\n".toList := by
  intro disk environment words a
  have read : Request.ofWords words = .ok (.lookup a) := by decide +kernel
  exact ⟨read, run_lawful read disk environment, by decide +kernel, by decide +kernel⟩

end CommandLine

end PolicyLookup
