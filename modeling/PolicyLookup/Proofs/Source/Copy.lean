import Mathlib
import PolicyLookup.Proofs.Disk.Same
import PolicyLookup.Proofs.Source.Candidates
import PolicyLookup.Proofs.Source.Stored

set_option autoImplicit false

namespace PolicyLookup

namespace Location

variable {matcher : Matcher} {answer : Path → Answer}

theorem search_in_append (files more : List Path) :
    searchIn matcher answer (files ++ more) =
      match searchIn matcher answer files with
      | .ok none => searchIn matcher answer more
      | ended => ended := by
  induction files with
  | nil => rfl
  | cons path files ih =>
      rw [List.cons_append, searchIn, searchIn]
      cases answer path with
      | error failure => rfl
      | ok lines =>
          dsimp only
          cases firstIn matcher path lines with
          | some found => rfl
          | none => exact ih

-- A file with the answer of one before it is never the first that matches.
theorem search_in_repeated {files : List Path} {path other : Path} (earlier : other ∈ files)
    (same : answer path = answer other) :
    searchIn matcher answer (files ++ [path]) = searchIn matcher answer files := by
  rw [search_in_append]
  rcases search_in_cases matcher answer files with
    ⟨nowhere, missed⟩ | ⟨_, _, _, _, _, ⟨_, _, ends⟩ | ⟨_, _, _, _, _, ends⟩⟩
  · have missedToo : ∀ again ∈ [path], Missed matcher (again, answer again) := by
      intro again member
      obtain ⟨lines, read, unmatched⟩ := missed other earlier
      rw [List.mem_singleton.mp member]
      exact ⟨lines, same.trans read, unmatched⟩
    rw [nowhere]
    exact search_in_skips missedToo []
  · rw [ends]
  · rw [ends]

end Location

theorem Lookup.find_in_searched {answer : Path → Answer} {files others : List Path}
    (same : ∀ matcher, Location.searchIn matcher answer files = Location.searchIn matcher answer others)
    (mode : QueryMode) (query : Text) : findIn answer mode query files = findIn answer mode query others := by
  rw [findIn, findIn]
  cases Matcher.ofQuery query mode with
  | error fault => rfl
  | ok matcher => simp only [same]

namespace Memory

def copied (content : Path → Text) (files : List Path) : Memory :=
  ofList (files.map fun path => (path, content path))

def Consistent (content : Path → Text) (files : List Path) : Prop :=
  ∀ p ∈ files, ∀ q ∈ files, p.same q = true → content p = content q

section

variable {content : Path → Text} {files : List Path}

theorem copied_append (content : Path → Text) (files : List Path) (path : Path) :
    copied content (files ++ [path]) = (copied content files).insert path (content path) := by
  rw [copied, ofList, List.map_append, List.foldl_append]
  rfl

theorem Consistent.upper {path : Path} (consistent : Consistent content (files ++ [path])) :
    Consistent content files :=
  fun p inFiles q inFilesToo => consistent p (List.mem_append_left _ inFiles) q (List.mem_append_left _ inFilesToo)

theorem distinct_copied (content : Path → Text) (files : List Path) : Distinct (copied content files).files := by
  induction files using List.reverseRecOn with
  | nil => exact .nil
  | append_singleton files path ih =>
      rw [copied_append]
      exact distinct_insert ih path (content path)

theorem paths_copied (content : Path → Text) (files : List Path) : (copied content files).paths ⊆ files := by
  induction files using List.reverseRecOn with
  | nil => exact List.Subset.refl _
  | append_singleton files path ih =>
      rw [copied_append, paths_insert]
      split
      · exact List.subset_append_of_subset_left _ ih
      · exact List.append_subset.mpr ⟨List.subset_append_of_subset_left _ ih, List.subset_append_right _ _⟩

theorem find_copied_path (consistent : Consistent content files) {path : Path} (member : path ∈ files) :
    (copied content files).find? path = some (content path) := by
  induction files using List.reverseRecOn with
  | nil => contradiction
  | append_singleton files last ih =>
      rw [copied_append, find_insert]
      cases again : last.same path with
      | true =>
          rw [if_pos rfl, consistent last (by simp) path member again]
      | false =>
          rcases List.mem_append.mp member with earlier | here
          · rw [if_neg Bool.false_ne_true, ih consistent.upper earlier]
          · rw [List.mem_singleton.mp here, Path.same_refl] at again
            contradiction

theorem search_copied (consistent : Consistent content files) (matcher : Matcher) :
    Location.searchIn matcher (fun path => .ok (Text.lines (content path))) (copied content files).paths =
      Location.searchIn matcher (fun path => .ok (Text.lines (content path))) files := by
  induction files using List.reverseRecOn with
  | nil => rfl
  | append_singleton files path ih =>
      rw [copied_append, paths_insert]
      cases found : (copied content files).find? path with
      | none =>
          simp only [Option.isSome_none, Bool.false_eq_true, if_false]
          rw [Location.search_in_append, Location.search_in_append, ih consistent.upper]
      | some old =>
          have there : ¬ ∀ old ∈ (copied content files).paths, old.same path = false := by
            rw [← find_none_iff, found]
            exact Option.some_ne_none old
          obtain ⟨old, held, alike⟩ : ∃ old ∈ (copied content files).paths, old.same path = true := by
            simpa using there
          have earlier := paths_copied content files held
          have same := consistent old (List.mem_append_left _ earlier) path (by simp) alike
          rw [Option.isSome_some, if_pos rfl, ih consistent.upper]
          exact (Location.search_in_repeated earlier (by rw [same])).symm

theorem find_in_copied (consistent : Consistent content files) (mode : QueryMode) (query : Text) :
    Lookup.findIn (copied content files).lines mode query (copied content files).paths =
      Lookup.findIn (fun path => .ok (Text.lines (content path))) mode query files := by
  rw [← Lookup.find_in_searched (search_copied consistent) mode query]
  apply Lookup.find_in_congr
  intro path held
  rw [lines, find_copied_path consistent (paths_copied content files held)]

end

end Memory

namespace Folder

variable {disk : Disk} {folder : Folder} {files : List Path} {content : Path → Text}

theorem candidates_some (listed : candidatesIn disk folder = .ok files) : files ≠ [] := by
  rintro rfl
  rw [candidatesIn] at listed
  split at listed
  · contradiction
  · split at listed
    · contradiction
    · split at listed
      · contradiction
      · rename_i something
        exact something (List.append_eq_nil_iff.mp (Except.ok.inj listed))

theorem consistent_of_readable (readable : ∀ path ∈ files, disk.readText path = .ok (content path)) :
    Memory.Consistent content files :=
  fun p inFiles q inFilesToo same => Disk.read_text_same same (readable p inFiles) (readable q inFilesToo)

theorem start_candidates (disk : Disk) (folder : Folder) :
    (folder.source.candidates.start disk).1 = candidatesIn disk folder := by
  obtain ⟨after, ran⟩ := candidates_run disk folder []
  rw [Lookup.start, ran]

theorem start_read (disk : Disk) (folder : Folder) (path : Path) :
    ((folder.source.read path).start disk).1 = answer disk path :=
  (folder_answers folder disk).reads ⟨disk, []⟩ path rfl

theorem find_copied (listed : (folder.source.candidates.start disk).1 = .ok files)
    (readable : ∀ path ∈ files, disk.readText path = .ok (content path)) :
    let copy := Memory.copied content files
    copy.paths.Pairwise (fun p q => p.same q = false) ∧
    (∀ path ∈ files, ((Memory.source.read path).start copy).1 = ((folder.source.read path).start disk).1) ∧
    ∀ mode query, ((Lookup.find Memory.source mode query).start copy).1 =
      ((Lookup.find folder.source mode query).start disk).1 := by
  intro copy
  have consistent := consistent_of_readable readable
  have answers : ∀ path ∈ files, answer disk path = .ok (Text.lines (content path)) := by
    intro path member
    rw [answer, readable path member]
  have held : ∀ path ∈ files, copy.find? path = some (content path) :=
    fun path member => Memory.find_copied_path consistent member
  refine ⟨List.pairwise_map.mpr (Memory.distinct_copied content files), ?_, ?_⟩
  · intro path member
    rw [Memory.ask_lines, start_read, answers path member, Memory.lines, held path member]
  · intro mode query
    rw [start_candidates] at listed
    obtain ⟨first, _, rfl⟩ := List.exists_cons_of_ne_nil (candidates_some listed)
    have candidates := Memory.candidates_of_paths (Memory.paths_some (held first List.mem_cons_self))
    rw [Lookup.start, Lookup.start, Memory.find_in_memory, find_in_folder, listed, candidates, Lookup.ok_bind,
      Lookup.ok_bind, Memory.find_in_copied consistent]
    exact (Lookup.find_in_congr answers).symm

def linkedText : Text := "\ndefine(`x', 1)\n".toList

def linkedDisk : Disk where
  root := .cons (Utf8.encode "p".toList) (.folder
    (.cons (Utf8.encode "c.if".toList) (.link (Path.ofText "b.a.if".toList))
    (.cons (Utf8.encode "b.a.if".toList) (.file (Utf8.encode linkedText)) .nil))) .nil
  home := []

-- Each file that ends in the second extension ends in the first one too.
def overlapping : Folder := ⟨Path.ofText "./p/".toList, "if".toList, "a.if".toList⟩

theorem find_copied_of_overlapping :
    let twice := Path.ofText "p/b.a.if".toList
    let linked := Path.ofText "p/c.if".toList
    let copy := Memory.copied (fun _ => linkedText) [twice, linked, twice]
    (overlapping.source.candidates.start linkedDisk).1 = .ok [twice, linked, twice] ∧ copy.paths = [twice, linked] ∧
      ((Lookup.find overlapping.source .literal "x".toList).start linkedDisk).1 =
        .ok ⟨⟨twice, 1, some .define⟩, .singleLine, "define(`x', 1)\n".toList⟩ := by
  intro twice linked copy
  have listed : (overlapping.source.candidates.start linkedDisk).1 = .ok [twice, linked, twice] := by
    cbv
  have readable : ∀ path ∈ [twice, linked, twice], linkedDisk.readText path = .ok linkedText := by
    have texts : linkedDisk.readText twice = .ok linkedText ∧ linkedDisk.readText linked = .ok linkedText :=
      ⟨by decide +kernel, by decide +kernel⟩
    simp [texts]
  obtain ⟨_, _, same⟩ := find_copied listed readable
  have found : ((Lookup.find Memory.source .literal "x".toList).start copy).1 =
      .ok ⟨⟨twice, 1, some .define⟩, .singleLine, "define(`x', 1)\n".toList⟩ := by
    decide +kernel
  exact ⟨listed, by decide +kernel, (same .literal "x".toList).symm.trans found⟩

end Folder

end PolicyLookup
