import Mathlib.Data.List.Forall2
import PolicyLookup.Proofs.Config.Again
import PolicyLookup.Proofs.Source.Spelling

set_option autoImplicit false

namespace PolicyLookup

namespace Config

def extensions (c : Config) : List Text := [c.interfaceExtension, c.supportExtension]

inductive Accepted (extension : Text) : Prop
  | default (member : extension ∈ Config.default.extensions)
  | overridden {c config : Config} {overrides : Overrides} (made : c.withOverrides overrides = .ok config)
      (member : extension ∈ config.extensions)
  | loaded {disk : Disk} {path : Path} {config : Config} (read : ofFile disk path = .ok config)
      (member : extension ∈ config.extensions)

theorem validated_free {raw config : Config} (valid : raw.validated = .ok config) {extension : Text}
    (member : extension ∈ config.extensions) : ∀ c ∈ extension, isReserved c = false := by
  obtain ⟨interface, support⟩ := validated_extensions valid
  rcases List.mem_pair.mp member with rfl | rfl
  · exact interface
  · exact support

theorem Accepted.free {extension : Text} (accepted : Accepted extension) : ∀ c ∈ extension, isReserved c = false := by
  cases accepted with
  | default member =>
      have valid : Config.default.validated = .ok Config.default := rfl
      exact validated_free valid member
  | overridden made member =>
      obtain ⟨_, valid⟩ := with_overrides_ok made
      exact validated_free valid member
  | loaded read member =>
      obtain ⟨_, valid⟩ := of_file_ok read
      exact validated_free valid member

end Config

namespace Glob

-- What an escaped name is read as. A walk puts a part without wildcards behind a folder as it is and
-- looks for any other among the entries: on both ways the part stands for the name alone.
structure StandsFor (part : List Token) (name : Text) : Prop where
  reads : read (escape name) = .ok part
  only : ∀ other, matchesName part other = true ↔ other = name
  entry : ∀ entry, matchesEntry part entry = true ↔ entry.name = Utf8.encode name
  plain : ∀ text, plain? part = some text → text = name
  narrow : isFolders part = false

theorem stands_for_tokens (name : Text) : StandsFor (tokensOf name) name where
  reads := read_name name
  only := matches_tokens name
  entry := matches_entry_name name
  plain _ := plain_tokens
  narrow := not_folders name

structure StandsForAll (part : List Token) (extension : Text) : Prop where
  reads : read ('*' :: '.' :: extension) = .ok part
  only : ∀ name, matchesName part name = true ↔ '.' :: extension <:+ name
  entry : ∀ entry, matchesEntry part entry = true ↔
    ∃ name, Utf8.decode? entry.name = some name ∧ '.' :: extension <:+ name

theorem stands_for_all_run {extension : Text} (free : ∀ c ∈ extension, Config.isReserved c = false) :
    StandsForAll (.run :: tokensOf ('.' :: extension)) extension where
  reads := Root.read_last free
  only := matches_run ('.' :: extension)
  entry := matches_entry_run ('.' :: extension)

end Glob

namespace Root

structure Patterned (r : Root) (extension : Text) : Prop where
  whole : ∃ tokens, Glob.read (Folder.patternFor r.text extension) = .ok tokens
  parts : ∃ names last,
    Glob.Pattern.ofText (Folder.patternFor r.text extension) = .ok ⟨r.absolute, names ++ [[.folders], last], false⟩ ∧
      List.Forall₂ Glob.StandsFor names r.names ∧ Glob.StandsForAll last extension

theorem patterned {r : Root} (spelled : r.Spelled) {extension : Text}
    (free : ∀ c ∈ extension, Config.isReserved c = false) : r.Patterned extension where
  whole := read_whole spelled free
  parts := by
    have along : List.Forall₂ Glob.StandsFor (r.names.map Glob.tokensOf) r.names := by
      rw [List.forall₂_map_left_iff, List.forall₂_same]
      exact fun name _ => Glob.stands_for_tokens name
    exact ⟨_, _, Glob.pattern_of_root spelled free, along, Glob.stands_for_all_run free⟩

end Root

namespace Folder

-- Any root that is text makes patterns without a fault, so that a search for candidates fails only
-- where it finds none, on whatever the disk has become since the folder was opened.
theorem candidates_patterned {disk : Disk} {root : Path} {t : Text} {config : Config} {folder : Folder}
    (spells : root.text? = some t) (accepted : ∀ extension ∈ config.extensions, Config.Accepted extension)
    (opened : ofConfig disk root config = .ok folder) :
    (∀ session : Session Disk,
      (∃ files, (folder.source.candidates.run session).1 = .ok files) ∨
        (folder.source.candidates.run session).1 =
          .error (.noCandidates root config.interfaceExtension config.supportExtension)) ∧
      (Root.ofText t).text = t ∧ (Root.ofText t).Spelled ∧
        ∀ extension ∈ config.extensions, (Root.ofText t).Patterned extension := by
  obtain ⟨⟨entries, there⟩, rfl⟩ := of_config_ok opened
  obtain rfl : root = Path.ofText t := congrArg Path.mk ((Utf8.decode_iff root.bytes t).mp spells)
  have something : t ≠ [] := by
    rintro rfl
    contradiction
  have spelled := Root.of_text_spelled something
  refine ⟨?_, Root.text_of_text t, spelled, fun extension member => Root.patterned spelled (accepted extension member).free⟩
  rintro ⟨later, log⟩
  have first := files_in_pattern later spelled (accepted config.interfaceExtension List.mem_cons_self).free
  have second := files_in_pattern later spelled
    (accepted config.supportExtension (List.mem_cons_of_mem _ List.mem_cons_self)).free
  rw [Root.path_of_text] at first second
  obtain ⟨_, ran⟩ := candidates_run later ⟨Path.ofText t, config.interfaceExtension, config.supportExtension⟩ log
  rw [ran]
  have listed := @candidates_in_ok later
    ⟨Path.ofText t, config.interfaceExtension, config.supportExtension⟩ _ _ first second
  rw [listed]
  split
  · exact Or.inr rfl
  · exact Or.inl ⟨_, rfl⟩

theorem candidates_patterned_in_wild_root :
    let root : Path := Path.ofText "[!a]**-?/".toList
    let disk : Disk := ⟨.cons (Utf8.encode "[!a]**-?".toList) (.folder .nil) .nil, []⟩
    let overrides : Config.Overrides := fun key => if key = .interfaceExtension then some " .!z-".toList else none
    let config : Config := { Config.default with interfaceExtension := "!z-".toList }
    let folder : Folder := ⟨root, "!z-".toList, "spt".toList⟩
    (root.text? = some "[!a]**-?/".toList ∧ Config.default.withOverrides overrides = .ok config ∧
        (∀ extension ∈ config.extensions, Config.Accepted extension) ∧ ofConfig disk root config = .ok folder) ∧
      ((∃ files, (folder.source.candidates.run ⟨disk, []⟩).1 = .ok files) ∨
        (folder.source.candidates.run ⟨disk, []⟩).1 = .error (.noCandidates root "!z-".toList "spt".toList)) ∧
      (Root.ofText "[!a]**-?/".toList).Patterned "!z-".toList := by
  intro root disk overrides config folder
  have spells : root.text? = some "[!a]**-?/".toList := Utf8.decode_encode _
  have made : Config.default.withOverrides overrides = .ok config := rfl
  have accepted : ∀ extension ∈ config.extensions, Config.Accepted extension :=
    fun extension member => .overridden made member
  have opened : ofConfig disk root config = .ok folder := if_pos (by decide +kernel)
  obtain ⟨ran, _, _, patterned⟩ := candidates_patterned spells accepted opened
  exact ⟨⟨spells, made, accepted, opened⟩, ran ⟨disk, []⟩, patterned "!z-".toList List.mem_cons_self⟩

end Folder

end PolicyLookup
