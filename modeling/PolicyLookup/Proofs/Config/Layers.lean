import PolicyLookup.Proofs.Config.Again

set_option autoImplicit false

namespace PolicyLookup.Config

open Lookup (bind_ok_iff)

def layered (upper lower : Overrides) : Overrides := fun key => (upper key).or (lower key)

section

variable (c : Config) (overrides : Overrides)

def effectiveMode : Except ConfigFault QueryMode :=
  match overrides .mode with
  | some name => readMode name
  | none => .ok c.mode

def effectiveInterface : Text := (overrides .interfaceExtension).getD c.interfaceExtension

def effectiveSupport : Text := (overrides .supportExtension).getD c.supportExtension

def effectiveLevel : Text := (overrides .level).getD c.logging.level

def effectiveJson : Bool := ((overrides .json).map isYes).getD c.logging.json

theorem with_overrides_effective :
    c.withOverrides overrides = (do
      let mode ← effectiveMode c overrides
      let interface ← checkExtension (effectiveInterface c overrides)
      let support ← checkExtension (effectiveSupport c overrides)
      let level ← checkLevel (effectiveLevel c overrides)
      .ok ⟨interface, support, mode, ⟨level, effectiveJson c overrides⟩⟩) := by
  rw [withOverrides, effectiveMode]
  cases overrides .mode <;> rfl

structure Accepts (config : Config) : Prop where
  mode : effectiveMode c overrides = .ok config.mode
  interface : checkExtension (effectiveInterface c overrides) = .ok config.interfaceExtension
  support : checkExtension (effectiveSupport c overrides) = .ok config.supportExtension
  level : checkLevel (effectiveLevel c overrides) = .ok config.logging.level
  json : effectiveJson c overrides = config.logging.json

theorem accepts_iff (config : Config) : c.withOverrides overrides = .ok config ↔ Accepts c overrides config := by
  rw [with_overrides_effective]
  constructor
  · intro accepted
    obtain ⟨mode, readMode, accepted⟩ := bind_ok_iff.mp accepted
    obtain ⟨interface, checkedInterface, accepted⟩ := bind_ok_iff.mp accepted
    obtain ⟨support, checkedSupport, accepted⟩ := bind_ok_iff.mp accepted
    obtain ⟨level, checkedLevel, accepted⟩ := bind_ok_iff.mp accepted
    obtain rfl := Except.ok.inj accepted
    exact ⟨readMode, checkedInterface, checkedSupport, checkedLevel, rfl⟩
  · intro accepts
    rw [accepts.mode, accepts.interface, accepts.support, accepts.level, accepts.json]
    rfl

end

structure Unblanked (c : Config) (overrides : Overrides) : Prop where
  interface : StartsSolid (bareExtension c.interfaceExtension)
  support : StartsSolid (bareExtension c.supportExtension)
  set : ∀ key ∈ [Key.interfaceExtension, .supportExtension], ∀ extension ∈ overrides key,
    StartsSolid (bareExtension extension)

theorem effective_extension_settled {set : Option Text} {below extension : Text}
    (solidBelow : StartsSolid (bareExtension below))
    (solid : ∀ given ∈ set, StartsSolid (bareExtension given))
    (checked : checkExtension (set.getD below) = .ok extension) : checkExtension extension = .ok extension := by
  apply (check_extension_again checked).mpr
  rw [(check_extension_ok checked).1]
  cases set with
  | none => exact solidBelow
  | some given => exact solid given rfl

theorem check_layered {check : Text → Except ConfigFault Text} {lower : Option Text} {below kept : Text}
    (checked : check (lower.getD below) = .ok kept) (again : check kept = .ok kept) (upper : Option Text) :
    check (upper.getD kept) = check ((upper.or lower).getD below) := by
  cases upper with
  | none => exact again.trans checked.symm
  | some given => rfl

section

variable {c middle : Config} {lower : Overrides}

theorem effective_mode_layered (accepts : Accepts c lower middle) (upper : Overrides) :
    effectiveMode middle upper = effectiveMode c (layered upper lower) := by
  have below := accepts.mode
  rw [effectiveMode] at below
  rw [effectiveMode, effectiveMode, layered]
  cases upper .mode with
  | none => exact below.symm
  | some name => rfl

theorem effective_json_layered (accepts : Accepts c lower middle) (upper : Overrides) :
    effectiveJson middle upper = effectiveJson c (layered upper lower) := by
  have below := accepts.json
  rw [effectiveJson] at below
  rw [effectiveJson, effectiveJson, layered]
  cases upper .json with
  | none => exact below.symm
  | some given => rfl

theorem with_overrides_again (accepted : c.withOverrides lower = .ok middle) (unblanked : Unblanked c lower)
    (upper : Overrides) : middle.withOverrides upper = c.withOverrides (layered upper lower) := by
  have accepts := (accepts_iff c lower middle).mp accepted
  have interface : checkExtension (effectiveInterface middle upper) =
      checkExtension (effectiveInterface c (layered upper lower)) :=
    check_layered accepts.interface
      (effective_extension_settled unblanked.interface (unblanked.set _ (by simp)) accepts.interface) _
  have support : checkExtension (effectiveSupport middle upper) =
      checkExtension (effectiveSupport c (layered upper lower)) :=
    check_layered accepts.support
      (effective_extension_settled unblanked.support (unblanked.set _ (by simp)) accepts.support) _
  have level : checkLevel (effectiveLevel middle upper) = checkLevel (effectiveLevel c (layered upper lower)) :=
    check_layered accepts.level (check_level_again accepts.level) _
  rw [with_overrides_effective, with_overrides_effective, effective_mode_layered accepts upper, interface, support,
    level, effective_json_layered accepts upper]

end

def Alike : Key → Config → Config → Prop
  | .interfaceExtension, c, d => c.interfaceExtension = d.interfaceExtension
  | .supportExtension, c, d => c.supportExtension = d.supportExtension
  | .mode, c, d => c.mode = d.mode
  | .level, c, d => c.logging.level = d.logging.level
  | .json, c, d => c.logging.json = d.logging.json

theorem accepts_alike {key : Key} {c d config other : Config} {overrides others : Overrides}
    (accepts : Accepts c overrides config) (also : Accepts d others other) (below : Alike key c d)
    (set : overrides key = others key) : Alike key config other := by
  cases key with
  | interfaceExtension =>
      have same : effectiveInterface c overrides = effectiveInterface d others := by
        rw [effectiveInterface, effectiveInterface, set, below]
      exact Except.ok.inj (accepts.interface.symm.trans (same ▸ also.interface))
  | supportExtension =>
      have same : effectiveSupport c overrides = effectiveSupport d others := by
        rw [effectiveSupport, effectiveSupport, set, below]
      exact Except.ok.inj (accepts.support.symm.trans (same ▸ also.support))
  | mode =>
      have same : effectiveMode c overrides = effectiveMode d others := by
        rw [effectiveMode, effectiveMode, set, below]
      exact Except.ok.inj (accepts.mode.symm.trans (same ▸ also.mode))
  | level =>
      have same : effectiveLevel c overrides = effectiveLevel d others := by
        rw [effectiveLevel, effectiveLevel, set, below]
      exact Except.ok.inj (accepts.level.symm.trans (same ▸ also.level))
  | json =>
      have same : effectiveJson c overrides = effectiveJson d others := by
        rw [effectiveJson, effectiveJson, set, below]
      exact accepts.json.symm.trans (same.trans also.json)

def refusal {α : Type} : Except ConfigFault α → Option ConfigFault
  | .error fault => some fault
  | .ok _ => none

def faultAt (c : Config) (overrides : Overrides) : Key → Option ConfigFault
  | .interfaceExtension => refusal (checkExtension (effectiveInterface c overrides))
  | .supportExtension => refusal (checkExtension (effectiveSupport c overrides))
  | .mode => refusal (effectiveMode c overrides)
  | .level => refusal (checkLevel (effectiveLevel c overrides))
  | .json => none

def checkOrder : List Key := [.mode, .interfaceExtension, .supportExtension, .level]

theorem refusal_iff {α : Type} {result : Except ConfigFault α} {fault : ConfigFault} :
    result = .error fault ↔ refusal result = some fault := by
  cases result <;> simp [refusal]

theorem refusal_bind {α β : Type} {first : Except ConfigFault α} {next : α → Except ConfigFault β}
    {later : Option ConfigFault} (follows : ∀ a, refusal (next a) = later) :
    refusal (first >>= next) = (refusal first).or later := by
  cases first with
  | error fault => rfl
  | ok a => exact follows a

theorem find_fault_cons (fault? : Key → Option ConfigFault) (key : Key) (rest : List Key) :
    (key :: rest).findSome? fault? = (fault? key).or (rest.findSome? fault?) := by
  rw [List.findSome?_cons]
  cases fault? key <;> rfl

theorem refusal_in_order (c : Config) (overrides : Overrides) :
    refusal (c.withOverrides overrides) = checkOrder.findSome? (faultAt c overrides) := by
  rw [with_overrides_effective, checkOrder, find_fault_cons, find_fault_cons, find_fault_cons, find_fault_cons]
  apply refusal_bind
  intro mode
  apply refusal_bind
  intro interface
  apply refusal_bind
  intro support
  apply refusal_bind
  intro level
  rfl

-- Overrides laid over accepted settings do what both layers do as one. A field of the result depends on its own
-- key and on the field below, and of several bad values the first in the order of the checks is told.
theorem overrides_layered (c : Config) (overrides : Overrides) :
    (∀ middle, c.withOverrides overrides = .ok middle → Unblanked c overrides →
      ∀ upper, middle.withOverrides upper = c.withOverrides (layered upper overrides)) ∧
    (∀ key config d others other, c.withOverrides overrides = .ok config → d.withOverrides others = .ok other →
      Alike key c d → overrides key = others key → Alike key config other) ∧
    ∀ fault, c.withOverrides overrides = .error fault ↔
      checkOrder.findSome? (faultAt c overrides) = some fault := by
  refine ⟨?_, ?_, ?_⟩
  · intro middle accepted unblanked upper
    exact with_overrides_again accepted unblanked upper
  · intro key config d others other accepted also below set
    have accepts := (accepts_iff c overrides config).mp accepted
    exact accepts_alike accepts ((accepts_iff d others other).mp also) below set
  · intro fault
    rw [refusal_iff, refusal_in_order]

def lowerLayer : Overrides
  | .interfaceExtension => some " ..i f ".toList
  | .level => some "INFO".toList
  | _ => none

def upperLayer : Overrides
  | .mode => some "Regex".toList
  | .json => some "1".toList
  | _ => none

def badLayer : Overrides
  | .mode => some "Glob".toList
  | .level => some "loud".toList
  | _ => none

theorem overrides_layered_in_sample :
    let middle : Config := ⟨"i f".toList, "spt".toList, .literal, ⟨"info".toList, false⟩⟩
    let result : Config := ⟨"i f".toList, "spt".toList, .regex, ⟨"info".toList, true⟩⟩
    default.withOverrides lowerLayer = .ok middle ∧ Unblanked default lowerLayer ∧
      middle.withOverrides upperLayer = .ok result ∧
      default.withOverrides (layered upperLayer lowerLayer) = .ok result ∧
      Alike .interfaceExtension middle { default with interfaceExtension := "i f".toList } ∧
      default.withOverrides badLayer = .error (.unknownMode "glob".toList) := by
  intro middle result
  have accepted : default.withOverrides lowerLayer = .ok middle := rfl
  have unblanked : Unblanked default lowerLayer := by
    refine ⟨starts_solid_cons (by decide) _, starts_solid_cons (by decide) _, ?_⟩
    intro key member extension given
    rcases (by simpa using member : key = .interfaceExtension ∨ key = .supportExtension) with rfl | rfl
    · obtain rfl := Option.some.inj given
      exact starts_solid_cons (by decide) _
    · contradiction
  obtain ⟨layers, fields, faults⟩ := overrides_layered default lowerLayer
  have again : middle.withOverrides upperLayer = .ok result := rfl
  refine ⟨accepted, unblanked, again, (layers middle accepted unblanked upperLayer).symm.trans again, ?_, ?_⟩
  · exact fields .interfaceExtension middle default (onlyInterface " ..i f ") _ accepted rfl rfl rfl
  · exact ((overrides_layered default badLayer).2.2 _).mpr rfl

end PolicyLookup.Config
