import PolicyLookup.CommandLine.Run
import PolicyLookup.Proofs.Config.Validated

set_option autoImplicit false

namespace PolicyLookup.Config

open Lookup (bind_ok_iff map_error_ok_iff)

def unset : Overrides := fun _ => none

structure Settled (config : Config) : Prop where
  interface : StartsSolid config.interfaceExtension
  support : StartsSolid config.supportExtension

theorem with_overrides_ok {c config : Config} {overrides : Overrides}
    (accepted : c.withOverrides overrides = .ok config) : ∃ raw : Config, raw.validated = .ok config := by
  rw [withOverrides] at accepted
  cases given : overrides .mode with
  | none =>
      rw [given] at accepted
      exact ⟨_, accepted⟩
  | some name =>
      rw [given] at accepted
      obtain ⟨mode, _, valid⟩ := bind_ok_iff.mp accepted
      exact ⟨_, valid⟩

theorem of_file_ok {disk : Disk} {path : Path} {config : Config} (read : ofFile disk path = .ok config) :
    ∃ raw : Config, raw.validated = .ok config := by
  rw [ofFile] at read
  cases missing : !disk.exists? path with
  | true =>
      rw [missing] at read
      contradiction
  | false =>
      rw [missing] at read
      obtain ⟨text, _, read⟩ := bind_ok_iff.mp read
      obtain ⟨raw, _, valid⟩ := bind_ok_iff.mp read
      exact ⟨raw, map_error_ok_iff.mp valid⟩

section

variable {disk : Disk} {path : Path} {base : Config}

theorem load_unnamed (disk : Disk) (overrides : Overrides) :
    load disk none overrides = (default.withOverrides overrides).mapError .config := rfl

theorem load_read (read : ofFile disk path = .ok base) (overrides : Overrides) :
    load disk (some path) overrides = (base.withOverrides overrides).mapError .config := by
  rw [load]
  simp only [read]
  rfl

theorem load_broken {failure : Failure} (broken : ofFile disk path = .error failure) (overrides : Overrides) :
    load disk (some path) overrides = .error failure := by
  rw [load]
  simp only [broken]
  rfl

end

section

variable {raw config : Config}

theorem validated_again (valid : raw.validated = .ok config) : config.validated = .ok config ↔ config.Settled := by
  obtain ⟨interface, support, level, checkedInterface, checkedSupport, checkedLevel, rfl⟩ := validated_ok valid
  constructor
  · intro again
    obtain ⟨sameInterface, sameSupport, _, againInterface, againSupport, _, same⟩ := validated_ok again
    obtain ⟨rfl, rfl, -⟩ := Config.mk.inj same
    exact ⟨(check_extension_again checkedInterface).mp againInterface,
      (check_extension_again checkedSupport).mp againSupport⟩
  · intro settled
    have first := (check_extension_again checkedInterface).mpr settled.interface
    have second := (check_extension_again checkedSupport).mpr settled.support
    rw [validated, first, second, check_level_again checkedLevel]
    rfl

theorem validated_later {later : Config} (valid : raw.validated = .ok config)
    (again : config.validated = .ok later) :
    later = { config with
      interfaceExtension := bareExtension config.interfaceExtension
      supportExtension := bareExtension config.supportExtension } := by
  obtain ⟨_, _, level, _, _, checkedLevel, rfl⟩ := validated_ok valid
  obtain ⟨_, _, _, againInterface, againSupport, againLevel, rfl⟩ := validated_ok again
  rw [check_level_again checkedLevel] at againLevel
  obtain rfl := Except.ok.inj againLevel
  rw [(check_extension_ok againInterface).1, (check_extension_ok againSupport).1]

theorem validated_refused {fault : ConfigFault} (valid : raw.validated = .ok config)
    (again : config.validated = .error fault) : fault = .emptyExtension := by
  obtain ⟨freeInterface, freeSupport⟩ := validated_extensions valid
  obtain ⟨_, _, level, _, _, checkedLevel, rfl⟩ := validated_ok valid
  rw [validated] at again
  cases interface : checkExtension _ with
  | error first =>
      rw [interface] at again
      obtain rfl := Except.error.inj again
      exact check_extension_refused freeInterface interface
  | ok one =>
      rw [interface] at again
      cases support : checkExtension _ with
      | error second =>
          rw [support] at again
          obtain rfl := Except.error.inj again
          exact check_extension_refused freeSupport support
      | ok other =>
          rw [support, check_level_again checkedLevel] at again
          contradiction

end

-- An accepted configuration is kept exactly if no extension starts with a blank. Else the blank and the
-- dots behind it are taken off in their turn, and an extension of nothing else is refused.
theorem validated_again_iff_settled (config : Config) :
    (∀ (c : Config) (overrides : Overrides), c.withOverrides overrides = .ok config →
      (config.withOverrides unset = .ok config ↔ config.Settled) ∧
      (∀ later, config.withOverrides unset = .ok later → later = { config with
        interfaceExtension := bareExtension config.interfaceExtension
        supportExtension := bareExtension config.supportExtension }) ∧
      ∀ fault, config.withOverrides unset = .error fault → fault = .emptyExtension) ∧
    ∀ (disk : Disk) (path : Path), ofFile disk path = .ok config →
      (load disk (some path) unset = .ok config ↔ config.Settled) := by
  constructor
  · intro c overrides accepted
    obtain ⟨raw, valid⟩ := with_overrides_ok accepted
    exact ⟨validated_again valid, fun later again => validated_later valid again,
      fun fault again => validated_refused valid again⟩
  · intro disk path read
    obtain ⟨raw, valid⟩ := of_file_ok read
    rw [load_read read, map_error_ok_iff]
    exact validated_again valid

def fileWith (extension : String) : Disk where
  root := .cons (Utf8.encode "c".toList)
    (.file (Utf8.encode ("interface_extension: '" ++ extension ++ "'\n").toList)) .nil
  home := []

def onlyInterface (extension : String) : Overrides := fun key =>
  if key = .interfaceExtension then some extension.toList else none

theorem validated_again_in_sample :
    let config : Config := { default with interfaceExtension := "i f".toList }
    default.withOverrides (onlyInterface " ..i f ") = .ok config ∧ config.withOverrides unset = .ok config ∧
      ofFile (fileWith " .i f") (Path.ofText "c".toList) = .ok config ∧
      load (fileWith " .i f") (some (Path.ofText "c".toList)) unset = .ok config := by
  intro config
  have settled : config.Settled := ⟨starts_solid_cons (by decide) _, starts_solid_cons (by decide) _⟩
  have accepted : default.withOverrides (onlyInterface " ..i f ") = .ok config := rfl
  have read : ofFile (fileWith " .i f") (Path.ofText "c".toList) = .ok config := by
    decide +kernel
  obtain ⟨again, loaded⟩ := validated_again_iff_settled config
  exact ⟨accepted, (again default _ accepted).1.mpr settled, read, (loaded _ _ read).mpr settled⟩

-- A blank behind the dots is kept at first. The second validation takes it off, or refuses what is left.
theorem blank_behind_dots :
    default.withOverrides (onlyInterface ". if") = .ok { default with interfaceExtension := " if".toList } ∧
    withOverrides { default with interfaceExtension := " if".toList } unset = .ok default ∧
    (ofFile (fileWith ". .") (Path.ofText "c".toList)).toOption =
      some { default with interfaceExtension := " .".toList } ∧
    (load (fileWith ". .") (some (Path.ofText "c".toList)) unset).toOption = none := by
  refine ⟨rfl, rfl, ?_, ?_⟩
  · decide +kernel
  · decide +kernel

end PolicyLookup.Config
