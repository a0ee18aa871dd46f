import Mathlib
import PolicyLookup.Proofs.CommandLine.Outcome
import PolicyLookup.Proofs.CommandLine.Verbosity
import PolicyLookup.Proofs.Config.Layers

set_option autoImplicit false

namespace PolicyLookup

namespace Config

def unlogged (c : Config) : Config := { c with logging := default.logging }

structure SameButLog (overrides others : Overrides) : Prop where
  same : ∀ key, key ≠ .level → key ≠ .json → overrides key = others key
  level : ∀ name ∈ overrides .level, ∃ level, checkLevel name = .ok level
  level' : ∀ name ∈ others .level, ∃ level, checkLevel name = .ok level

theorem effective_level_known {c : Config} {overrides : Overrides}
    (below : ∃ level, checkLevel c.logging.level = .ok level)
    (set : ∀ name ∈ overrides .level, ∃ level, checkLevel name = .ok level) :
    ∃ level, checkLevel (effectiveLevel c overrides) = .ok level := by
  rw [effectiveLevel]
  cases given : overrides .level with
  | none => exact below
  | some name => exact set name given

theorem with_overrides_unlogged {c : Config} {overrides others : Overrides}
    (known : ∃ level, checkLevel c.logging.level = .ok level) (alike : SameButLog overrides others) :
    (c.withOverrides overrides).map unlogged = (c.withOverrides others).map unlogged := by
  obtain ⟨level, checked⟩ := effective_level_known known alike.level
  obtain ⟨level', checked'⟩ := effective_level_known known alike.level'
  have mode : effectiveMode c overrides = effectiveMode c others := by
    rw [effectiveMode, effectiveMode, alike.same .mode (by decide) (by decide)]
  have interface : effectiveInterface c overrides = effectiveInterface c others := by
    rw [effectiveInterface, effectiveInterface, alike.same .interfaceExtension (by decide) (by decide)]
  have support : effectiveSupport c overrides = effectiveSupport c others := by
    rw [effectiveSupport, effectiveSupport, alike.same .supportExtension (by decide) (by decide)]
  rw [with_overrides_effective, with_overrides_effective, mode, interface, support, checked, checked']
  cases effectiveMode c others with
  | error fault => rfl
  | ok mode =>
      cases checkExtension (effectiveInterface c others) with
      | error fault => rfl
      | ok interface => cases checkExtension (effectiveSupport c others) <;> rfl

theorem of_file_level {disk : Disk} {path : Path} {config : Config} (read : ofFile disk path = .ok config) :
    ∃ level, checkLevel config.logging.level = .ok level := by
  obtain ⟨raw, valid⟩ := of_file_ok read
  obtain ⟨_, _, level, _, _, checked, rfl⟩ := validated_ok valid
  exact ⟨level, check_level_again checked⟩

end Config

namespace CommandLine

open Config (unlogged)

structure Environment.SameButLog (environment other : Environment) : Prop where
  config : environment.config = other.config
  overrides : Config.SameButLog environment.overrides other.overrides

section

variable {disk : Disk} {environment other : Environment} {a b : Arguments}

theorem based_level {base : Config} (based : Based disk environment a base) :
    ∃ level, Config.checkLevel base.logging.level = .ok level := by
  cases based with
  | unnamed none => exact ⟨_, rfl⟩
  | file path base named read => exact Config.of_file_level read

theorem based_alike {base : Config} (based : Based disk environment a base)
    (named : a.config.or environment.config = b.config.or other.config) : Based disk other b base := by
  cases based with
  | unnamed none => exact .unnamed (named.symm.trans none)
  | file path base given read => exact .file path base (named.symm.trans given) read

theorem config_for_unlogged (disk : Disk) (around : environment.SameButLog other) (alike : a.quiet = b.quiet) :
    (configFor disk environment a).map unlogged = (configFor disk other b).map unlogged := by
  obtain ⟨_, _, config, regex, _⟩ := Arguments.mk.inj alike
  have named : a.config.or environment.config = b.config.or other.config := by rw [config, around.config]
  rcases based_or_broken disk environment a with ⟨base, based⟩ | ⟨path, failure, given, broken⟩
  · rw [config_for_based based, config_for_based (based_alike based named), regex]
    have overridden := Config.with_overrides_unlogged (based_level based) around.overrides
    rcases Lookup.map_eq_cases overridden with ⟨fault, first, second⟩ | ⟨c, d, first, second, same⟩
    · rw [first, second]
    · rw [first, second]
      cases b.isRegex with
      | false => exact congrArg Except.ok same
      | true => exact congrArg (fun config : Config => Except.ok { config with mode := .regex }) same
  · rw [config_for_broken given broken, config_for_broken (named.symm.trans given) broken]

theorem search_unlogged (disk : Disk) (config : Config) (folder : Path) (query : Text) :
    search disk config.unlogged folder query = search disk config folder query := rfl

theorem result_unlogged (disk : Disk) (around : environment.SameButLog other) (alike : a.quiet = b.quiet) :
    resultOf disk environment a = resultOf disk other b := by
  obtain ⟨folder, query, _⟩ := Arguments.mk.inj alike
  rw [resultOf, resultOf, folder, query]
  cases b.folder with
  | none => rfl
  | some folder =>
      cases b.query with
      | none => rfl
      | some query =>
          have configured := config_for_unlogged disk around alike
          rcases Lookup.map_eq_cases configured with ⟨failure, first, second⟩ | ⟨c, d, first, second, same⟩
          · rw [first, second]
          · rw [first, second]
            dsimp only
            rw [← search_unlogged disk c, same, search_unlogged]

theorem tells_same {result : Except Fault Construct} {outcome outcome' : Outcome} (tells : outcome.Tells result)
    (tells' : outcome'.Tells result) : outcome.exitCode = outcome'.exitCode ∧ outcome.output = outcome'.output := by
  cases result with
  | error fault => exact ⟨tells.1.trans tells'.1.symm, tells.2.trans tells'.2.symm⟩
  | ok construct => exact ⟨tells.1.trans tells'.1.symm, tells.2.trans tells'.2.symm⟩

end

theorem requests_alike {words others : List Bytes} (worded : SameButMore words others) :
    (Request.ofWords words).map Request.quiet = (Request.ofWords others).map Request.quiet :=
  Arguments.read_alike worded rfl

-- How much is logged, and in which form, has no part in the answer. Nor has what was told before a lookup.
theorem run_unlogged {words others : List Bytes} {environment other : Environment}
    (worded : SameButMore words others) (around : environment.SameButLog other) (disk : Disk) :
    ((run disk environment words).exitCode = (run disk other others).exitCode ∧
      (run disk environment words).output = (run disk other others).output) ∧
    ∀ (folder : Folder) (mode : QueryMode) (query : Text) (log : List Event),
      ((Lookup.find folder.source mode query).run ⟨disk, log⟩).1 =
        ((Lookup.find folder.source mode query).start disk).1 := by
  refine ⟨?_, ?_⟩
  · rw [run, run]
    rcases Lookup.map_eq_cases (requests_alike worded) with
      ⟨fault, first, second⟩ | ⟨request, request', first, second, same⟩
    · rw [first, second]
      exact ⟨rfl, rfl⟩
    · rw [first, second]
      cases request with
      | lookup a =>
          cases request' with
          | lookup b =>
              have result := result_unlogged disk around (Request.lookup.inj same)
              have tells := lookup_tells disk environment a
              rw [result] at tells
              exact tells_same tells (lookup_tells disk other b)
          | version | help => contradiction
      | version | help =>
          cases request' with
          | lookup b => contradiction
          | version | help => first | contradiction | exact ⟨rfl, rfl⟩
  · intro folder mode query log
    rw [Lookup.start, Folder.find_in_folder, Folder.find_in_folder]

def policyText : Text := "define(`x', 1)\n".toList

def policyDisk : Disk where
  root := .cons (Utf8.encode "pol".toList) (.folder
    (.cons (Utf8.encode "a.te".toList) (.file (Utf8.encode policyText)) .nil)) .nil
  home := []

def silent : Environment where
  config := none
  overrides := fun key => if key = .interfaceExtension then some ".te".toList else none
  logFilter := none

def talkative : Environment where
  config := none
  overrides
    | .interfaceExtension => some ".te".toList
    | .level => some " INFO".toList
    | .json => some "1".toList
    | _ => none
  logFilter := some "trace".toList

def asked : Arguments := ⟨some (Path.ofText "pol".toList), some "x".toList, none, false, 0⟩

theorem asked_silently : resultOf policyDisk silent asked =
    .ok ⟨⟨Path.ofText "/pol/a.te".toList, 0, some .define⟩, .singleLine, policyText⟩ := by
  have configured : configFor policyDisk silent asked =
      .ok ⟨"te".toList, "spt".toList, .literal, Config.default.logging⟩ := rfl
  have resolved : resolve policyDisk (Path.ofText "pol".toList) = Path.ofText "/pol".toList := by decide +kernel
  have isFolder : policyDisk.isFolder (resolve policyDisk (Path.ofText "pol".toList)) = true := by decide +kernel
  have listed : Folder.candidatesIn policyDisk ⟨Path.ofText "/pol".toList, "te".toList, "spt".toList⟩ =
      .ok [Path.ofText "/pol/a.te".toList] := by cbv
  have found : Lookup.findIn (Folder.answer policyDisk) .literal "x".toList [Path.ofText "/pol/a.te".toList] =
      .ok ⟨⟨Path.ofText "/pol/a.te".toList, 0, some .define⟩, .singleLine, policyText⟩ := by
    decide +kernel
  rw [resultOf, configured]
  dsimp only [asked]
  rw [search_opened _ isFolder, Lookup.start, Folder.find_in_folder, opened, resolved, listed, Lookup.ok_bind, found,
    Lookup.map_error_ok]

theorem run_unlogged_in_sample :
    let words := ["pol", "x"].map fun word => Utf8.encode word.toList
    let others := ["-v", "pol", "-vv", "x", "--verbose"].map fun word => Utf8.encode word.toList
    SameButMore words others ∧ silent.SameButLog talkative ∧
      (run policyDisk silent words).exitCode = 0 ∧ (run policyDisk silent words).output = policyText ∧
      (run policyDisk talkative others).exitCode = 0 ∧ (run policyDisk talkative others).output = policyText := by
  intro words others
  have worded : SameButMore words others :=
    .right _ _ _ (.short 0) (.word _ _ _ ⟨by decide, by decide⟩
      (.right _ _ _ (.short 1) (.word _ _ _ ⟨by decide, by decide⟩ (.right _ _ _ .long .nil))))
  have around : silent.SameButLog talkative := by
    refine ⟨rfl, ?_, ?_, ?_⟩
    · intro key notLevel notJson
      cases key with
      | interfaceExtension | supportExtension | mode => rfl
      | level | json => contradiction
    · intro name given
      contradiction
    · intro name given
      obtain rfl := Option.some.inj given
      exact ⟨_, rfl⟩
  obtain ⟨⟨code, output⟩, _⟩ := run_unlogged worded around policyDisk
  have read : Request.ofWords words = .ok (.lookup asked) := by decide +kernel
  have silently : run policyDisk silent words = lookup policyDisk silent asked := by rw [run, read]
  obtain ⟨done, printed⟩ := asked_silently ▸ lookup_tells policyDisk silent asked
  rw [silently] at code output ⊢
  exact ⟨worded, around, done, printed, code.symm.trans done, output.symm.trans printed⟩

end CommandLine

end PolicyLookup
