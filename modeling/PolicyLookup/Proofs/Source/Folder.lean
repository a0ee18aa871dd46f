import PolicyLookup.Proofs.Config.Validated
import PolicyLookup.Proofs.Glob.Walk
import PolicyLookup.Proofs.Source.Candidates
import PolicyLookup.Proofs.Source.Root

set_option autoImplicit false

namespace PolicyLookup

namespace Root

structure Holds (disk : Disk) (r : Root) (extension : Text) (place : Place) : Prop where
  file : ∃ entries content, disk.entries? r.path = some entries ∧ entries.at? place = some (.file content)
  name : ∃ start last text, place = start ++ [last] ∧ Utf8.decode? last = some text ∧ '.' :: extension <:+ text

theorem Holds.content {disk : Disk} {r : Root} {extension : Text} {place : Place} (holds : r.Holds disk extension place)
    {entries : Entries} (opened : disk.entries? r.path = some entries) :
    ∃ content, entries.at? place = some (.file content) := by
  obtain ⟨inner, content, openedToo, found⟩ := holds.file
  rw [opened] at openedToo
  obtain rfl := Option.some.inj openedToo
  exact ⟨content, found⟩

-- The paths are those of exactly these files, in the byte order of their parts. Only a path that the
-- system does not refuse for its length is one of a file.
structure Lists (disk : Disk) (r : Root) (extension : Text) (paths : List Path) : Prop where
  listed : ∀ path, path ∈ paths ↔ path.Fits ∧ ∃ place, r.Holds disk extension place ∧ path = r.below place
  files : ∀ path ∈ paths, disk.isFile path = true
  ordered : paths.Pairwise fun p q => p.parts < q.parts

end Root

namespace Folder

section

variable {disk : Disk} {r : Root} {extension : Text} {folder : Folder} {reached : Place} {entries : Entries}

def filesBelow (disk : Disk) (r : Root) (extension : Text) : List Path :=
  (((Glob.listed disk Disk.longestPath ⟨r.walked, true⟩).filter
    (Glob.matchesEntry (.run :: Glob.tokensOf ('.' :: extension)))).map fun entry => entry.path).filter disk.isFile

theorem search_below (linkless : disk.root.Linkless) (spelled : r.Spelled)
    (moves : (Path.top r.absolute).Moves r.place) (opened : disk.entries? r.path = some entries) :
    Glob.found ((Glob.Pattern.mk r.absolute (r.parts extension) false).search disk) =
      ((Glob.listed disk Disk.longestPath ⟨r.walked, true⟩).filter
        (Glob.matchesEntry (.run :: Glob.tokensOf ('.' :: extension)))).map fun entry => entry.path := by
  obtain ⟨_, along⟩ := Root.walk_root spelled linkless moves opened
  have start : (if r.absolute then (⟨[Path.slash]⟩ : Path) else Glob.here) = Path.top r.absolute := rfl
  rw [Glob.Pattern.search, start, Root.parts, along, Glob.walk_below]

theorem files_in_pattern (disk : Disk) (spelled : r.Spelled) (free : ∀ c ∈ extension, Config.isReserved c = false) :
    filesIn disk r.path extension =
      .ok ((Glob.found ((Glob.Pattern.mk r.absolute (r.parts extension) false).search disk)).filter disk.isFile) := by
  have text : r.path.text? = some r.text := Utf8.decode_encode r.text
  rw [filesIn]
  simp only [text, Glob.pattern_of_root spelled free, Glob.found]

theorem files_in_below (linkless : disk.root.Linkless) (spelled : r.Spelled)
    (moves : (Path.top r.absolute).Moves r.place) (opened : disk.entries? r.path = some entries)
    (free : ∀ c ∈ extension, Config.isReserved c = false) :
    filesIn disk r.path extension = .ok (filesBelow disk r extension) := by
  rw [files_in_pattern disk spelled free, search_below linkless spelled moves opened]
  rfl

theorem files_with_run (linkless : disk.root.Linkless) (sound : r.Sound) (named : folder.root = r.path)
    (opened : disk.entries? r.path = some entries) (free : ∀ c ∈ extension, Config.isReserved c = false)
    (log : List Event) :
    ∃ after, (folder.filesWith extension).run ⟨disk, log⟩ = (.ok (filesBelow disk r extension), ⟨disk, after⟩) := by
  obtain ⟨after, ran⟩ := files_run disk folder extension log
  rw [named, files_in_below linkless sound.spelled (Root.moves_place sound) opened free] at ran
  exact ⟨after, ran⟩

theorem walked_holds (linkless : disk.root.Linkless) (leads : disk.Leads r.walked reached (.folder entries))
    (opened : disk.entries? r.path = some entries) {path : Path} (member : path ∈ filesBelow disk r extension) :
    path.Fits ∧ ∃ place, r.Holds disk extension place ∧ path = r.walked.along place := by
  rw [filesBelow, List.mem_filter, List.mem_map] at member
  obtain ⟨⟨entry, inWalk, rfl⟩, isFile⟩ := member
  obtain ⟨inBelow, named⟩ := List.mem_filter.mp inWalk
  obtain ⟨place, node, something, _, _, found, rfl⟩ := (Glob.mem_listed linkless _ leads entry).mp inBelow
  rw [Glob.entry_below_path disk _ something] at isFile ⊢
  obtain ⟨fits, content, rfl⟩ := (leads.along linkless found).is_file.mp isFile
  obtain ⟨text, decoded, ends⟩ := (Glob.matches_entry_run _ _).mp named
  rcases List.eq_nil_or_concat place with rfl | ⟨start, last, rfl⟩
  · contradiction
  · rw [List.concat_eq_append] at found decoded fits ⊢
    rw [Glob.entryBelow, List.getLastD_concat] at decoded
    exact ⟨fits, start ++ [last], ⟨⟨entries, content, opened, found⟩, start, last, text, rfl, decoded, ends⟩, rfl⟩

theorem holds_walked (linkless : disk.root.Linkless) (leads : disk.Leads r.walked reached (.folder entries))
    (opened : disk.entries? r.path = some entries) {place : Place} (holds : r.Holds disk extension place)
    (fits : (r.walked.along place).Fits) : r.walked.along place ∈ filesBelow disk r extension := by
  obtain ⟨content, found⟩ := holds.content opened
  obtain ⟨start, last, text, rfl, decoded, ends⟩ := holds.name
  have plain := leads.names_plain linkless found
  have short := Nat.le_trans (Path.length_way leads.something plain) fits
  have fitsAbove : (r.walked.along (start ++ [last]).dropLast).Fits := by
    have onLast : ∀ n ∈ [last], Name.Plain n := fun n member => plain n (List.mem_append_right _ member)
    have onStart : ∀ n ∈ start, Name.Plain n := fun n member => plain n (List.mem_append_left _ member)
    rw [List.dropLast_concat]
    rw [Path.along_append] at fits
    exact Nat.le_trans (Path.length_names (Path.names_some leads.something onStart) onLast) fits
  have inBelow := (Glob.mem_listed linkless Disk.longestPath leads _).mpr
    ⟨start ++ [last], _, by simp, short, fitsAbove, found, rfl⟩
  have named : Glob.matchesEntry (.run :: Glob.tokensOf ('.' :: extension))
      (Glob.entryBelow disk r.walked (start ++ [last]) (.file content)) = true := by
    rw [Glob.matches_entry_run, Glob.entryBelow, List.getLastD_concat]
    exact ⟨text, decoded, ends⟩
  have isFile := (leads.along linkless found).is_file.mpr ⟨fits, content, rfl⟩
  have something : start ++ [last] ≠ [] := by simp
  have path := Glob.entry_below_path disk r.walked something (.file content)
  exact List.mem_filter.mpr ⟨List.mem_map.mpr ⟨_, List.mem_filter.mpr ⟨inBelow, named⟩, path⟩, isFile⟩

theorem holds_plain (linkless : disk.root.Linkless) (leads : disk.Leads r.walked reached (.folder entries))
    (opened : disk.entries? r.path = some entries) {place : Place} (holds : r.Holds disk extension place) :
    (∀ n ∈ place, n.Plain) ∧ place ≠ [] := by
  obtain ⟨content, found⟩ := holds.content opened
  obtain ⟨start, last, _, rfl, _⟩ := holds.name
  exact ⟨leads.names_plain linkless found, by simp⟩

theorem files_below_listed (linkless : disk.root.Linkless) (sound : r.Sound)
    (opened : disk.entries? r.path = some entries) : r.Lists disk extension (filesBelow disk r extension) := by
  obtain ⟨reached, leads⟩ := Root.leads_plain sound linkless opened
  have spelledAlike {place : Place} (holds : r.Holds disk extension place) : r.below place = r.walked.along place := by
    obtain ⟨plain, something⟩ := holds_plain linkless leads opened holds
    exact Root.below_walked sound plain something
  refine ⟨?_, ?_, ?_⟩
  · intro path
    constructor
    · intro member
      obtain ⟨fits, place, holds, rfl⟩ := walked_holds linkless leads opened member
      exact ⟨fits, place, holds, (spelledAlike holds).symm⟩
    · rintro ⟨fits, place, holds, rfl⟩
      rw [spelledAlike holds] at fits ⊢
      exact holds_walked linkless leads opened holds fits
  · intro path member
    exact (List.mem_filter.mp member).2
  · have ordered := Glob.listed_ordered linkless Disk.longestPath leads
    apply List.Pairwise.filter
    rw [List.pairwise_map]
    exact ordered.filter _

theorem below_inj (sound : r.Sound) {one other : Place} (plain : ∀ n ∈ one, n.Plain)
    (otherPlain : ∀ n ∈ other, n.Plain) (something : one ≠ []) (otherSomething : other ≠ [])
    (same : r.below one = r.below other) : one = other := by
  have walked : r.walked.bytes ≠ [] :=
    Path.along_some (Path.top_some r.absolute) (Root.place_free sound.spelled) (Root.moves_place sound)
  rw [Root.below_walked sound plain something, Root.below_walked sound otherPlain otherSomething] at same
  have parts := congrArg Path.parts same
  rw [Path.along_parts walked plain something, Path.along_parts walked otherPlain otherSomething] at parts
  exact (List.append_right_inj _).mp parts

theorem ordered_nodup {paths : List Path} (ordered : paths.Pairwise fun p q => p.parts < q.parts) : paths.Nodup := by
  refine ordered.imp ?_
  rintro p q less rfl
  exact List.lt_irrefl _ less

theorem lists_apart (linkless : disk.root.Linkless) (sound : r.Sound) {one other : Text} {ps qs : List Path}
    (first : r.Lists disk one ps) (second : r.Lists disk other qs) (different : one ≠ other)
    (notEnd : ¬ '.' :: other <:+ one) (otherNotEnd : ¬ '.' :: one <:+ other) : (ps ++ qs).Nodup := by
  refine List.nodup_append.mpr ⟨ordered_nodup first.ordered, ordered_nodup second.ordered, ?_⟩
  rintro path inFirst _ inSecond rfl
  obtain ⟨_, place, holds, isPath⟩ := (first.listed path).mp inFirst
  obtain ⟨_, samePlace, otherHolds, isPathToo⟩ := (second.listed path).mp inSecond
  obtain ⟨start, last, text, split, decoded, ends⟩ := holds.name
  obtain ⟨otherStart, otherLast, otherText, otherSplit, otherDecoded, otherEnds⟩ := otherHolds.name
  obtain ⟨_, _, opened, _⟩ := holds.file
  obtain ⟨reached, leads⟩ := Root.leads_plain sound linkless opened
  obtain ⟨plain, something⟩ := holds_plain linkless leads opened holds
  obtain ⟨otherPlain, otherSomething⟩ := holds_plain linkless leads opened otherHolds
  have same := below_inj sound plain otherPlain something otherSomething (isPath.symm.trans isPathToo)
  rw [split, otherSplit] at same
  obtain rfl := List.singleton_inj.mp (List.append_inj_right' same rfl)
  rw [decoded] at otherDecoded
  obtain rfl := Option.some.inj otherDecoded
  rcases List.suffix_or_suffix_of_suffix ends otherEnds with shorter | shorter
  · rcases List.suffix_cons_iff.mp shorter with whole | inner
    · exact different (List.cons.inj whole).2
    · exact otherNotEnd inner
  · rcases List.suffix_cons_iff.mp shorter with whole | inner
    · exact different (List.cons.inj whole).2.symm
    · exact notEnd inner

theorem candidates_listed (linkless : disk.root.Linkless) (sound : r.Sound) {raw config : Config}
    (valid : raw.validated = .ok config) (opened : ofConfig disk r.path config = .ok folder) (log : List Event) :
    ∃ interfaces supports : List Path,
      r.Lists disk config.interfaceExtension interfaces ∧ r.Lists disk config.supportExtension supports ∧
      (folder.source.candidates.run ⟨disk, log⟩).1 =
        (if interfaces = [] ∧ supports = [] then
          .error (.noCandidates r.path config.interfaceExtension config.supportExtension)
        else .ok (interfaces ++ supports)) ∧
      (config.interfaceExtension ≠ config.supportExtension →
        ¬ '.' :: config.supportExtension <:+ config.interfaceExtension →
        ¬ '.' :: config.interfaceExtension <:+ config.supportExtension → (interfaces ++ supports).Nodup) := by
  obtain ⟨freeInterface, freeSupport⟩ := Config.validated_extensions valid
  rw [ofConfig] at opened
  split at opened
  · rename_i isFolder
    obtain rfl := Except.ok.inj opened
    obtain ⟨entries, there⟩ := Option.isSome_iff_exists.mp isFolder
    have first : r.Lists disk config.interfaceExtension _ := files_below_listed linkless sound there
    have second : r.Lists disk config.supportExtension _ := files_below_listed linkless sound there
    refine ⟨_, _, first, second, ?_, lists_apart linkless sound first second⟩
    have runs (extension : Text) := @files_with_run disk r extension
      ⟨r.path, config.interfaceExtension, config.supportExtension⟩ entries linkless sound rfl there
    obtain ⟨middle, ranFirst⟩ := runs _ freeInterface log
    obtain ⟨after, ranSecond⟩ := runs _ freeSupport middle
    change ((candidates _).run _).1 = _
    rw [candidates, Lookup.run_bind_ok ranFirst, Lookup.run_bind_ok ranSecond]
    by_cases none : filesBelow disk r config.interfaceExtension = [] ∧ filesBelow disk r config.supportExtension = []
    · rw [if_pos none, none.1, none.2]
      rfl
    · have listedAny : ¬ (filesBelow disk r config.interfaceExtension ++
          filesBelow disk r config.supportExtension).isEmpty = true := by
        simpa [List.isEmpty_iff] using none
      rw [if_neg none, if_neg listedAny]
      rfl
  · contradiction

end

def sampleDisk : Disk where
  root := .cons (Utf8.encode "p*".toList) (.folder
    (.cons (Utf8.encode "b.if".toList) (.file [])
      (.cons (Utf8.encode "a.if".toList) (.folder (.cons (Utf8.encode ".if".toList) (.file []) .nil)) .nil))) .nil
  home := []

def sampleRoot : Root := ⟨false, ["p*".toList], 1⟩

theorem sample_linkless : sampleDisk.root.Linkless := by
  refine .cons _ _ _ ⟨⟨by decide, by decide, by decide, by decide⟩, by decide, by decide⟩ (.folder _ ?_) rfl .nil
  refine .cons _ _ _ ⟨⟨by decide, by decide, by decide, by decide⟩, by decide, by decide⟩ (.file _) (by decide) ?_
  refine .cons _ _ _ ⟨⟨by decide, by decide, by decide, by decide⟩, by decide, by decide⟩ (.folder _ ?_) rfl .nil
  exact .cons _ _ _ ⟨⟨by decide, by decide, by decide, by decide⟩, by decide, by decide⟩ (.file _) rfl .nil

theorem sample_sound : sampleRoot.Sound where
  plain := by
    intro name member
    obtain rfl := List.mem_singleton.mp member
    exact ⟨by decide, by decide, by decide, by decide⟩
  begins := Or.inr (List.cons_ne_nil _ _)

theorem candidates_in_sample :
    ∃ interfaces supports : List Path,
      sampleRoot.Lists sampleDisk "if".toList interfaces ∧ sampleRoot.Lists sampleDisk "spt".toList supports ∧
      ((Folder.mk sampleRoot.path "if".toList "spt".toList).source.candidates.run ⟨sampleDisk, []⟩).1 =
        (if interfaces = [] ∧ supports = [] then
          .error (.noCandidates sampleRoot.path "if".toList "spt".toList)
        else .ok (interfaces ++ supports)) ∧
      ("if".toList ≠ "spt".toList → ¬ '.' :: "spt".toList <:+ "if".toList →
        ¬ '.' :: "if".toList <:+ "spt".toList → (interfaces ++ supports).Nodup) := by
  have valid : Config.default.validated = .ok Config.default := rfl
  have opened : ofConfig sampleDisk sampleRoot.path Config.default =
      .ok ⟨sampleRoot.path, "if".toList, "spt".toList⟩ := if_pos (by decide +kernel)
  exact candidates_listed sample_linkless sample_sound valid opened []

end Folder

end PolicyLookup
