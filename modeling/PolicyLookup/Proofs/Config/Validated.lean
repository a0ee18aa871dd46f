import PolicyLookup.Config
import PolicyLookup.Proofs.Lookup.Run
import PolicyLookup.Proofs.Text.Trim

set_option autoImplicit false

namespace PolicyLookup.Config

open Lookup (bind_ok_iff)

theorem check_extension_ok {raw extension : Text} (checked : checkExtension raw = .ok extension) :
    extension = bareExtension raw ∧ extension ≠ [] ∧ ∀ c ∈ extension, isReserved c = false := by
  rw [checkExtension] at checked
  split at checked
  · contradiction
  · rename_i something
    split at checked
    · contradiction
    · rename_i free
      obtain rfl := Except.ok.inj checked
      exact ⟨rfl, by simpa using something, by simpa using free⟩

theorem check_extension_bare {raw : Text} (something : bareExtension raw ≠ [])
    (free : ∀ c ∈ bareExtension raw, isReserved c = false) : checkExtension raw = .ok (bareExtension raw) := by
  have remains : ¬ (bareExtension raw).isEmpty = true := by simpa using something
  have none : ¬ (bareExtension raw).any isReserved = true := by simpa using free
  rw [checkExtension, if_neg remains, if_neg none]

theorem bare_suffix (raw : Text) : bareExtension raw <:+ Text.trim raw := List.dropWhile_suffix _

theorem bare_inside {raw : Text} {c : Char} (member : c ∈ bareExtension raw) : c ∈ raw := by
  obtain ⟨left, right, whole, _, _⟩ := Text.trim_split raw
  have inTrim : c ∈ Text.trim raw := (bare_suffix raw).subset member
  rw [whole]
  exact List.mem_append_left _ (List.mem_append_right _ inTrim)

theorem check_extension_refused {raw : Text} {fault : ConfigFault} (free : ∀ c ∈ raw, isReserved c = false)
    (refused : checkExtension raw = .error fault) : fault = .emptyExtension := by
  by_cases nothing : bareExtension raw = []
  · have empty : (bareExtension raw).isEmpty = true := by simpa using nothing
    rw [checkExtension, if_pos empty] at refused
    exact (Except.error.inj refused).symm
  · rw [check_extension_bare nothing fun c member => free c (bare_inside member)] at refused
    contradiction

theorem bare_last {raw : Text} {c : Char} (last : (bareExtension raw).getLast? = some c) : Text.isBlank c = false := by
  obtain ⟨before, whole⟩ := bare_suffix raw
  have ends : (Text.trim raw).getLast? = some c := by
    rw [← whole, List.getLast?_append, last]
    rfl
  exact Text.trim_last_solid ends

theorem bare_head {raw : Text} {c : Char} (first : (bareExtension raw).head? = some c) : c ≠ '.' := by
  have other := List.head?_dropWhile_not (· == '.') (Text.trim raw)
  rw [bareExtension] at first
  rw [first] at other
  simpa using other

-- No blank where the extension starts. Validation takes off the blanks around an extension, then the dots
-- in front of it, and does not look for blanks again behind those dots.
def StartsSolid (extension : Text) : Prop := ∀ c ∈ extension.head?, Text.isBlank c = false

theorem starts_solid_cons {c : Char} (solid : Text.isBlank c = false) (rest : Text) : StartsSolid (c :: rest) := by
  intro d head
  obtain rfl := Option.some.inj head
  exact solid

theorem bare_again (raw : Text) :
    bareExtension (bareExtension raw) = bareExtension raw ↔ StartsSolid (bareExtension raw) := by
  constructor
  · intro same
    cases bare : bareExtension raw with
    | nil => simp [StartsSolid]
    | cons c rest =>
        cases blank : Text.isBlank c with
        | false => simpa [StartsSolid] using blank
        | true =>
            have shorter : (Text.trim (c :: rest)).length ≤ rest.length := by
              refine Nat.le_trans (Text.length_trim _) ?_
              rw [List.dropWhile_cons_of_pos blank]
              exact (List.dropWhile_sublist _).length_le
            have bound := (bare_suffix (c :: rest)).length_le
            rw [bare] at same
            rw [same, List.length_cons] at bound
            omega
  · intro solid
    have kept : Text.trim (bareExtension raw) = bareExtension raw := Text.trim_kept solid fun c => bare_last
    rw [bareExtension, kept]
    cases bare : bareExtension raw with
    | nil => rfl
    | cons c rest =>
        have first : (bareExtension raw).head? = some c := by rw [bare, List.head?_cons]
        simp [bare_head first]

theorem check_extension_again {raw extension : Text} (checked : checkExtension raw = .ok extension) :
    checkExtension extension = .ok extension ↔ StartsSolid extension := by
  obtain ⟨rfl, something, free⟩ := check_extension_ok checked
  rw [← bare_again raw]
  constructor
  · intro again
    exact (check_extension_ok again).1.symm
  · intro same
    rw [← same] at something free
    rw [check_extension_bare something free, same]

theorem check_level_ok {raw level : Text} (checked : checkLevel raw = .ok level) : level ∈ levelNames := by
  rw [checkLevel] at checked
  split at checked
  · rename_i known
    obtain rfl := Except.ok.inj checked
    simpa using known
  · contradiction

theorem check_level_again {raw level : Text} (checked : checkLevel raw = .ok level) :
    checkLevel level = .ok level := by
  have kept : ∀ name ∈ levelNames, checkLevel name = .ok name := by
    intro name member
    have which : name = "trace".toList ∨ name = "debug".toList ∨ name = "info".toList ∨ name = "warn".toList ∨
        name = "error".toList ∨ name = "off".toList := by simpa [levelNames] using member
    rcases which with rfl | rfl | rfl | rfl | rfl | rfl <;> rfl
  exact kept level (check_level_ok checked)

theorem validated_ok {raw config : Config} (valid : raw.validated = .ok config) :
    ∃ interface support level, checkExtension raw.interfaceExtension = .ok interface ∧
      checkExtension raw.supportExtension = .ok support ∧ checkLevel raw.logging.level = .ok level ∧
      config = ⟨interface, support, raw.mode, ⟨level, raw.logging.json⟩⟩ := by
  rw [validated] at valid
  obtain ⟨interface, checkedInterface, valid⟩ := bind_ok_iff.mp valid
  obtain ⟨support, checkedSupport, valid⟩ := bind_ok_iff.mp valid
  obtain ⟨level, checkedLevel, valid⟩ := bind_ok_iff.mp valid
  obtain rfl := Except.ok.inj valid
  exact ⟨interface, support, level, checkedInterface, checkedSupport, checkedLevel, rfl⟩

theorem validated_extensions {raw config : Config} (valid : raw.validated = .ok config) :
    (∀ c ∈ config.interfaceExtension, isReserved c = false) ∧
      ∀ c ∈ config.supportExtension, isReserved c = false := by
  obtain ⟨_, _, _, interface, support, _, rfl⟩ := validated_ok valid
  exact ⟨(check_extension_ok interface).2.2, (check_extension_ok support).2.2⟩

end PolicyLookup.Config
