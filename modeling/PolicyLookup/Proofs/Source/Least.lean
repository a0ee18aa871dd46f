import PolicyLookup.Proofs.Declaration.Literal
import PolicyLookup.Proofs.Source.Folder

set_option autoImplicit false

namespace PolicyLookup

def Path.EndsIn (path : Path) (extension : Text) : Prop :=
  ∃ last text, path.parts.getLast? = some last ∧ Utf8.decode? last = some text ∧ '.' :: extension <:+ text

-- Line `i` of `p` before line `j` of `q`: files with the extension first, then by the parts of the
-- paths, then by the lines.
inductive Precedes (extension : Text) (p : Path) (i : Nat) (q : Path) (j : Nat) : Prop
  | kind (first : p.EndsIn extension) (second : ¬ q.EndsIn extension)
  | path (alike : p.EndsIn extension ↔ q.EndsIn extension) (less : p.parts < q.parts)
  | line (same : p = q) (less : i < j)

theorem Precedes.asymm {extension : Text} {p q : Path} {i j : Nat} (before : Precedes extension p i q j) :
    ¬ Precedes extension q j p i := by
  intro after
  cases before with
  | kind first second =>
      cases after with
      | kind firstToo _ => exact second firstToo
      | path alike _ => exact second (alike.mpr first)
      | line same _ => exact second (same ▸ first)
  | path alike less =>
      cases after with
      | kind first second => exact second (alike.mpr first)
      | path _ more => exact List.lt_irrefl _ (List.lt_trans less more)
      | line same _ => exact List.lt_irrefl _ (same ▸ less)
  | line same less =>
      cases after with
      | kind first second => exact second (same ▸ first)
      | path _ more => exact List.lt_irrefl _ (same ▸ more)
      | line _ more => exact Nat.lt_asymm less more

def Disk.Declares (disk : Disk) (matcher : Matcher) (path : Path) (j : Nat) (line : Text) : Prop :=
  ∃ lines, Folder.answer disk path = .ok lines ∧ lines[j]? = some line ∧ matcher.isMatch line = true

namespace Root

def Candidate (disk : Disk) (r : Root) (config : Config) (path : Path) : Prop :=
  path.Fits ∧ ∃ place, (r.Holds disk config.interfaceExtension place ∨ r.Holds disk config.supportExtension place) ∧
    path = r.below place

def SameFiles (one other : Entries) : Prop :=
  ∀ place content, one.at? place = some (.file content) ↔ other.at? place = some (.file content)

def SameBelow (r : Root) (one other : Disk) : Prop :=
  ∃ entries otherEntries, one.entries? r.path = some entries ∧ other.entries? r.path = some otherEntries ∧
    SameFiles entries otherEntries

structure Least (disk : Disk) (r : Root) (config : Config) (matcher : Matcher) (path : Path) (j : Nat) (line : Text) :
    Prop where
  candidate : r.Candidate disk config path
  declares : disk.Declares matcher path j line
  least : ∀ other i text, r.Candidate disk config other → disk.Declares matcher other i text →
    (other = path ∧ i = j) ∨ Precedes config.interfaceExtension path j other i

theorem least_unique {disk : Disk} {r : Root} {config : Config} {matcher : Matcher} {path other : Path} {j i : Nat}
    {line text : Text} (one : r.Least disk config matcher path j line) (two : r.Least disk config matcher other i text) :
    path = other ∧ j = i := by
  rcases one.least other i text two.candidate two.declares with ⟨samePath, sameLine⟩ | before
  · exact ⟨samePath.symm, sameLine.symm⟩
  · rcases two.least path j line one.candidate one.declares with same | after
    · exact same
    · exact absurd after before.asymm

end Root

namespace Folder

section

variable {disk : Disk} {r : Root} {config : Config} {matcher : Matcher} {entries : Entries}

theorem mem_listed {interfaces supports : List Path} (first : r.Lists disk config.interfaceExtension interfaces)
    (second : r.Lists disk config.supportExtension supports) (path : Path) :
    r.Candidate disk config path ↔ path ∈ interfaces ∨ path ∈ supports := by
  rw [first.listed, second.listed]
  constructor
  · rintro ⟨fits, place, holds | holds, isPath⟩
    · exact Or.inl ⟨fits, place, holds, isPath⟩
    · exact Or.inr ⟨fits, place, holds, isPath⟩
  · rintro (⟨fits, place, holds, isPath⟩ | ⟨fits, place, holds, isPath⟩)
    · exact ⟨fits, place, Or.inl holds, isPath⟩
    · exact ⟨fits, place, Or.inr holds, isPath⟩

theorem either_holds {one other : Text} {place : Place} (either : r.Holds disk one place ∨ r.Holds disk other place) :
    ∃ extension, r.Holds disk extension place :=
  either.elim (fun holds => ⟨one, holds⟩) fun holds => ⟨other, holds⟩

theorem nothing_listed {interfaces supports : List Path} (first : r.Lists disk config.interfaceExtension interfaces)
    (second : r.Lists disk config.supportExtension supports) (none : ∀ path, ¬ r.Candidate disk config path) :
    interfaces = [] ∧ supports = [] := by
  have inLists := mem_listed first second
  constructor
  · exact List.eq_nil_iff_forall_not_mem.mpr fun path member => none path ((inLists path).mpr (Or.inl member))
  · exact List.eq_nil_iff_forall_not_mem.mpr fun path member => none path ((inLists path).mpr (Or.inr member))

theorem last_below (linkless : disk.root.Linkless) (sound : r.Sound) {extension : Text} {start : Place} {last : Name}
    (holds : r.Holds disk extension (start ++ [last])) : (r.below (start ++ [last])).parts.getLast? = some last := by
  obtain ⟨entries, _, opened, _⟩ := holds.file
  obtain ⟨reached, leads⟩ := Root.leads_plain sound linkless opened
  obtain ⟨plain, something⟩ := holds_plain linkless leads opened holds
  rw [Root.below_walked sound plain something, Path.along_parts leads.something plain something, ← List.append_assoc,
    List.getLast?_concat]

theorem ends_in_iff (linkless : disk.root.Linkless) (sound : r.Sound) {interfaces : List Path}
    (first : r.Lists disk config.interfaceExtension interfaces) {path : Path}
    (candidate : r.Candidate disk config path) : path ∈ interfaces ↔ path.EndsIn config.interfaceExtension := by
  obtain ⟨fits, place, either, rfl⟩ := candidate
  obtain ⟨extension, holds⟩ := either_holds either
  obtain ⟨start, last, _, rfl, _⟩ := holds.name
  have isLast := last_below linkless sound holds
  rw [first.listed]
  constructor
  · rintro ⟨_, other, otherHolds, same⟩
    obtain ⟨otherStart, otherLast, text, rfl, decoded, ends⟩ := otherHolds.name
    rw [same]
    exact ⟨otherLast, text, last_below linkless sound otherHolds, decoded, ends⟩
  · rintro ⟨final, text, isFinal, decoded, ends⟩
    rw [isLast] at isFinal
    obtain rfl := Option.some.inj isFinal
    exact ⟨fits, start ++ [last], ⟨holds.file, start, last, text, rfl, decoded, ends⟩, rfl⟩

theorem missed_declares {path : Path} {j : Nat} {line : Text} (missed : Missed matcher (path, answer disk path))
    (declares : disk.Declares matcher path j line) : False := by
  obtain ⟨lines, read, unmatched⟩ := missed
  obtain ⟨others, readToo, there, isMatch⟩ := declares
  have same : answer disk path = .ok lines := read
  rw [readToo] at same
  obtain rfl := Except.ok.inj same
  rw [unmatched line (List.mem_of_getElem? there)] at isMatch
  contradiction

theorem first_declares {path : Path} {lines : List Text} {j : Nat} {line : Text} (read : answer disk path = .ok lines)
    (first : FirstMatch matcher lines j line) {i : Nat} {text : Text} (declares : disk.Declares matcher path i text) :
    i = j ∨ j < i := by
  obtain ⟨others, readToo, there, isMatch⟩ := declares
  rw [read] at readToo
  obtain rfl := Except.ok.inj readToo
  rcases Nat.lt_trichotomy i j with less | same | less
  · rw [first.before i text less there] at isMatch
    contradiction
  · exact Or.inl same
  · exact Or.inr less

theorem least_in_order {before after : List Path} {path : Path} {lines : List Text} {j : Nat} {line : Text}
    (ordered : (before ++ path :: after).Pairwise fun p q => p.parts < q.parts)
    (missed : ∀ other ∈ before, Missed matcher (other, answer disk other)) (read : answer disk path = .ok lines)
    (first : FirstMatch matcher lines j line) {other : Path} {i : Nat} {text : Text} {extension : Text}
    (member : other ∈ before ++ path :: after) (declares : disk.Declares matcher other i text)
    (alike : path.EndsIn extension ↔ other.EndsIn extension) :
    (other = path ∧ i = j) ∨ Precedes extension path j other i := by
  rcases List.mem_append.mp member with earlier | later
  · exact (missed_declares (missed other earlier) declares).elim
  · rcases List.mem_cons.mp later with rfl | later
    · rcases first_declares read first declares with same | less
      · exact Or.inl ⟨rfl, same⟩
      · exact Or.inr (.line rfl less)
    · have less := (List.pairwise_cons.mp (List.pairwise_append.mp ordered).2.1).1 other later
      exact Or.inr (.path alike less)

theorem least_among_first {before after supports : List Path} {path : Path} {lines : List Text} {j : Nat} {line : Text}
    (linkless : disk.root.Linkless) (sound : r.Sound)
    (first : r.Lists disk config.interfaceExtension (before ++ path :: after))
    (second : r.Lists disk config.supportExtension supports)
    (missed : ∀ other ∈ before, Missed matcher (other, answer disk other)) (read : answer disk path = .ok lines)
    (hit : FirstMatch matcher lines j line) : r.Least disk config matcher path j line := by
  have candidate : r.Candidate disk config path := (mem_listed first second path).mpr (Or.inl (by simp))
  have ends : path.EndsIn config.interfaceExtension := (ends_in_iff linkless sound first candidate).mp (by simp)
  refine ⟨candidate, ⟨lines, read, hit.there, hit.isMatch⟩, ?_⟩
  intro other i text asked there
  by_cases alsoFirst : other.EndsIn config.interfaceExtension
  · have member := (ends_in_iff linkless sound first asked).mpr alsoFirst
    exact least_in_order first.ordered missed read hit member there (iff_of_true ends alsoFirst)
  · exact Or.inr (.kind ends alsoFirst)

theorem least_among_second {interfaces before after : List Path} {path : Path} {lines : List Text} {j : Nat}
    {line : Text} (linkless : disk.root.Linkless) (sound : r.Sound)
    (first : r.Lists disk config.interfaceExtension interfaces)
    (second : r.Lists disk config.supportExtension (before ++ path :: after))
    (missedFirst : ∀ other ∈ interfaces, Missed matcher (other, answer disk other))
    (missed : ∀ other ∈ before, Missed matcher (other, answer disk other)) (read : answer disk path = .ok lines)
    (hit : FirstMatch matcher lines j line) : r.Least disk config matcher path j line := by
  have inLists := mem_listed first second
  have declares : disk.Declares matcher path j line := ⟨lines, read, hit.there, hit.isMatch⟩
  have candidate : r.Candidate disk config path := (inLists path).mpr (Or.inr (by simp))
  have notFirst {other : Path} {i : Nat} {text : Text} (there : disk.Declares matcher other i text) :
      other ∉ interfaces := fun inside => missed_declares (missedFirst other inside) there
  have onlySecond {other : Path} {i : Nat} {text : Text} (asked : r.Candidate disk config other)
      (there : disk.Declares matcher other i text) : ¬ other.EndsIn config.interfaceExtension := fun ends =>
    notFirst there ((ends_in_iff linkless sound first asked).mpr ends)
  refine ⟨candidate, declares, ?_⟩
  intro other i text asked there
  have member := ((inLists other).mp asked).resolve_left (notFirst there)
  exact least_in_order second.ordered missed read hit member there
    (iff_of_false (onlySecond candidate declares) (onlySecond asked there))

theorem found_result {mode : QueryMode} {query : Text} {files before after : List Path} {path : Path}
    {lines : List Text} {j : Nat} {line : Text} (made : Matcher.ofQuery query mode = .ok matcher) (split : files = before ++ path :: after)
    (missed : ∀ other ∈ before, Missed matcher (other, answer disk other)) (read : answer disk path = .ok lines)
    (first : FirstMatch matcher lines j line) :
    Extracted ⟨path, j, matcher.keyword? line⟩ lines (Lookup.findIn (answer disk) mode query files) := by
  subst split
  have extracted := Construct.extracted_of_lines ⟨path, j, matcher.keyword? line⟩ lines
  have looked := LookedUp.found matcher before after path lines j line _ made missed read first extracted
  rw [Lookup.looked_up_unique looked] at extracted
  exact extracted

theorem not_declared_of_extracted {place : Location} {lines : List Text} {result : Except Failure Construct}
    {query : Text} (extracted : Extracted place lines result) : result ≠ .error (.notDeclared query) := by
  rintro rfl
  cases extracted

theorem find_in_lists {mode : QueryMode} {query : Text} {interfaces supports : List Path}
    (linkless : disk.root.Linkless) (sound : r.Sound) (made : Matcher.ofQuery query mode = .ok matcher)
    (readable : ∀ path, r.Candidate disk config path → ∃ lines, answer disk path = .ok lines)
    (first : r.Lists disk config.interfaceExtension interfaces)
    (second : r.Lists disk config.supportExtension supports) :
    let result := Lookup.findIn (answer disk) mode query (interfaces ++ supports)
    (result = .error (.notDeclared query) ∧
      ∀ path j line, r.Candidate disk config path → ¬ disk.Declares matcher path j line) ∨
    ∃ path j line lines, r.Least disk config matcher path j line ∧ answer disk path = .ok lines ∧
      Extracted ⟨path, j, matcher.keyword? line⟩ lines result := by
  intro result
  have inLists := mem_listed first second
  have reads {path : Path} (inside : path ∈ interfaces ∨ path ∈ supports) {failure : Failure} :
      answer disk path ≠ .error failure := by
    obtain ⟨lines, read⟩ := readable path ((inLists path).mpr inside)
    simp [read]
  rcases Location.search_in_cases matcher (answer disk) interfaces with
    ⟨_, missedFirst⟩ | ⟨before, path, after, rfl, missed, ⟨failure, broken, _⟩ | ⟨lines, j, line, read, hit, _⟩⟩
  · rcases Location.search_in_cases matcher (answer disk) supports with
      ⟨_, missedSecond⟩ | ⟨before, path, after, rfl, missed, ⟨failure, broken, _⟩ | ⟨lines, j, line, read, hit, _⟩⟩
    · have missed : ∀ path ∈ interfaces ++ supports, Missed matcher (path, answer disk path) :=
        List.forall_mem_append.mpr ⟨missedFirst, missedSecond⟩
      refine Or.inl ⟨(Lookup.looked_up_unique (.notDeclared matcher _ made missed)).symm, ?_⟩
      intro path j line candidate declares
      exact missed_declares (missed path (List.mem_append.mpr ((inLists path).mp candidate))) declares
    · exact absurd broken (reads (Or.inr (by simp)))
    · have split : interfaces ++ (before ++ path :: after) = (interfaces ++ before) ++ path :: after := by simp
      have missedAll := List.forall_mem_append.mpr ⟨missedFirst, missed⟩
      exact Or.inr ⟨path, j, line, lines, least_among_second linkless sound first second missedFirst missed read hit,
        read, found_result made split missedAll read hit⟩
  · exact absurd broken (reads (Or.inl (by simp)))
  · have split : (before ++ path :: after) ++ supports = before ++ path :: (after ++ supports) := by simp
    exact Or.inr ⟨path, j, line, lines, least_among_first linkless sound first second missed read hit, read,
      found_result made split missed read hit⟩

theorem holds_in_both {other : Disk} {otherEntries : Entries} (opened : disk.entries? r.path = some entries)
    (otherOpened : other.entries? r.path = some otherEntries) (same : Root.SameFiles entries otherEntries)
    {extension : Text} {place : Place} (holds : r.Holds disk extension place) : r.Holds other extension place := by
  obtain ⟨content, found⟩ := holds.content opened
  exact ⟨⟨otherEntries, content, otherOpened, (same place content).mp found⟩, holds.name⟩

theorem same_listed {other : Disk} {otherEntries : Entries} (opened : disk.entries? r.path = some entries)
    (otherOpened : other.entries? r.path = some otherEntries) (same : Root.SameFiles entries otherEntries)
    {extension : Text} {paths others : List Path} (lists : r.Lists disk extension paths)
    (otherLists : r.Lists other extension others) : paths = others := by
  have members (path : Path) : path ∈ paths ↔ path ∈ others := by
    rw [lists.listed, otherLists.listed]
    constructor
    · rintro ⟨fits, place, holds, isPath⟩
      exact ⟨fits, place, holds_in_both opened otherOpened same holds, isPath⟩
    · rintro ⟨fits, place, holds, isPath⟩
      have back : Root.SameFiles otherEntries entries := fun place content => (same place content).symm
      exact ⟨fits, place, holds_in_both otherOpened opened back holds, isPath⟩
  have perm := (List.perm_ext_iff_of_nodup (ordered_nodup lists.ordered) (ordered_nodup otherLists.ordered)).mpr members
  refine perm.eq_of_pairwise ?_ lists.ordered otherLists.ordered
  intro p q _ _ less more
  exact absurd (List.lt_trans less more) (List.lt_irrefl _)

theorem read_below (linkless : disk.root.Linkless) (sound : r.Sound) (opened : disk.entries? r.path = some entries)
    {place : Place} {content : Bytes} (something : place ≠ []) (found : entries.at? place = some (.file content))
    (fits : (r.below place).Fits) :
    disk.readText (r.below place) =
      match Utf8.decode? content with
      | some text => .ok text
      | none => .error .notText := by
  obtain ⟨reached, leads⟩ := Root.leads_plain sound linkless opened
  rw [Root.below_walked sound (leads.names_plain linkless found) something] at fits ⊢
  exact (leads.along linkless found).read_text fits

theorem candidate_file (opened : disk.entries? r.path = some entries) {path : Path}
    (candidate : r.Candidate disk config path) :
    ∃ place content, place ≠ [] ∧ entries.at? place = some (.file content) ∧ path = r.below place := by
  obtain ⟨_, place, either, rfl⟩ := candidate
  obtain ⟨extension, holds⟩ := either_holds either
  obtain ⟨content, found⟩ := holds.content opened
  obtain ⟨start, last, _, rfl, _⟩ := holds.name
  exact ⟨start ++ [last], content, by simp, found, rfl⟩

theorem readable_texts (linkless : disk.root.Linkless) (sound : r.Sound) (opened : disk.entries? r.path = some entries)
    (texts : ∀ place content, entries.at? place = some (.file content) → ∃ text, Utf8.decode? content = some text)
    (path : Path) (candidate : r.Candidate disk config path) : ∃ text, disk.readText path = .ok text := by
  obtain ⟨place, content, something, found, rfl⟩ := candidate_file opened candidate
  obtain ⟨text, decoded⟩ := texts place content found
  exact ⟨text, by rw [read_below linkless sound opened something found candidate.1, decoded]⟩

theorem same_answers {other : Disk} {otherEntries : Entries} (linkless : disk.root.Linkless)
    (otherLinkless : other.root.Linkless) (sound : r.Sound) (opened : disk.entries? r.path = some entries)
    (otherOpened : other.entries? r.path = some otherEntries) (same : Root.SameFiles entries otherEntries) {path : Path}
    (candidate : r.Candidate disk config path) : answer disk path = answer other path := by
  obtain ⟨place, content, something, found, rfl⟩ := candidate_file opened candidate
  rw [answer, answer, read_below linkless sound opened something found candidate.1,
    read_below otherLinkless sound otherOpened something ((same place content).mp found) candidate.1]

theorem find_of_lists {raw : Config} {folder : Folder} (linkless : disk.root.Linkless) (sound : r.Sound)
    (valid : raw.validated = .ok config) (opened : ofConfig disk r.path config = .ok folder) (mode : QueryMode)
    (query : Text) (log : List Event) :
    ∃ interfaces supports : List Path,
      r.Lists disk config.interfaceExtension interfaces ∧ r.Lists disk config.supportExtension supports ∧
      ((Lookup.find folder.source mode query).run ⟨disk, log⟩).1 =
        if interfaces = [] ∧ supports = [] then
          .error (.noCandidates r.path config.interfaceExtension config.supportExtension)
        else Lookup.findIn (answer disk) mode query (interfaces ++ supports) := by
  obtain ⟨freeInterface, freeSupport⟩ := Config.validated_extensions valid
  obtain ⟨⟨entries, there⟩, rfl⟩ := of_config_ok opened
  have listed (extension : Text) := @files_in_below disk r extension entries linkless sound.spelled
    (Root.moves_place sound) there
  refine ⟨_, _, files_below_listed linkless sound there, files_below_listed linkless sound there, ?_⟩
  rw [find_in_folder, candidates_in_ok (listed _ freeInterface) (listed _ freeSupport)]
  split <;> rfl

theorem find_least {raw : Config} {folder : Folder} {mode : QueryMode} {query : Text} (linkless : disk.root.Linkless)
    (sound : r.Sound) (valid : raw.validated = .ok config) (opened : ofConfig disk r.path config = .ok folder)
    (made : Matcher.ofQuery query mode = .ok matcher)
    (readable : ∀ path, r.Candidate disk config path → ∃ text, disk.readText path = .ok text) (log : List Event) :
    let result := ((Lookup.find folder.source mode query).run ⟨disk, log⟩).1
    ((∀ path, ¬ r.Candidate disk config path) →
      result = .error (.noCandidates r.path config.interfaceExtension config.supportExtension)) ∧
    ((∃ path, r.Candidate disk config path) →
      (result = .error (.notDeclared query) ↔
        ∀ path j line, r.Candidate disk config path → ¬ disk.Declares matcher path j line)) ∧
    ((∃ path j line, r.Candidate disk config path ∧ disk.Declares matcher path j line) →
      ∃ path j line lines, r.Least disk config matcher path j line ∧ answer disk path = .ok lines ∧
        Extracted ⟨path, j, matcher.keyword? line⟩ lines result) ∧
    ∀ (other : Disk) (otherLog : List Event), other.root.Linkless → r.SameBelow disk other →
      ((Lookup.find folder.source mode query).run ⟨other, otherLog⟩).1 = result := by
  intro result
  obtain ⟨interfaces, supports, first, second, found⟩ := find_of_lists linkless sound valid opened mode query log
  have found : result = _ := found
  have inLists := mem_listed first second
  have answers : ∀ path, r.Candidate disk config path → ∃ lines, answer disk path = .ok lines := by
    intro path candidate
    obtain ⟨text, there⟩ := readable path candidate
    exact ⟨Text.lines text, by rw [answer, there]⟩
  have searched := find_in_lists linkless sound made answers first second
  have listedAny {path : Path} (candidate : r.Candidate disk config path) : ¬ (interfaces = [] ∧ supports = []) := by
    rintro ⟨rfl, rfl⟩
    simpa using (inLists path).mp candidate
  refine ⟨?_, ?_, ?_, ?_⟩
  · intro none
    rw [found, if_pos (nothing_listed first second none)]
  · rintro ⟨path, candidate⟩
    rw [found, if_neg (listedAny candidate)]
    rcases searched with ⟨nowhere, absent⟩ | ⟨there, j, line, lines, least, _, extracted⟩
    · exact iff_of_true nowhere absent
    · exact iff_of_false (not_declared_of_extracted extracted) fun absent =>
        absent there j line least.candidate least.declares
  · rintro ⟨path, j, line, candidate, declares⟩
    rw [found, if_neg (listedAny candidate)]
    rcases searched with ⟨_, absent⟩ | least
    · exact absurd declares (absent path j line candidate)
    · exact least
  · rintro other otherLog otherLinkless ⟨entries, otherEntries, there, otherThere, same⟩
    have otherOpened : ofConfig other r.path config = .ok folder := by
      rw [(of_config_ok opened).2, ofConfig, Disk.isFolder, otherThere]
      rfl
    obtain ⟨_, _, otherFirst, otherSecond, otherFound⟩ :=
      find_of_lists otherLinkless sound valid otherOpened mode query otherLog
    obtain rfl := same_listed there otherThere same first otherFirst
    obtain rfl := same_listed there otherThere same second otherSecond
    have alike : ∀ path ∈ interfaces ++ supports, answer disk path = answer other path := fun path member =>
      same_answers linkless otherLinkless sound there otherThere same ((inLists path).mpr (List.mem_append.mp member))
    rw [otherFound, found, Lookup.find_in_congr alike]

end

def rivals : Entries :=
  .cons (Utf8.encode "a.spt".toList) (.file (Utf8.encode "define(`x', 1)\n".toList))
    (.cons (Utf8.encode "b.if".toList) (.file (Utf8.encode "\ndefine(`x', 2)\n".toList)) .nil)

def rivalDisk : Disk where
  root := .cons (Utf8.encode "p".toList) (.folder rivals) .nil
  home := []

def rivalRoot : Root := ⟨false, ["p".toList], 0⟩

theorem rivals_linkless : rivalDisk.root.Linkless := by
  refine .cons _ _ _ ⟨⟨by decide, by decide, by decide, by decide⟩, by decide, by decide⟩ (.folder _ ?_) rfl .nil
  refine .cons _ _ _ ⟨⟨by decide, by decide, by decide, by decide⟩, by decide, by decide⟩ (.file _) rfl ?_
  exact .cons _ _ _ ⟨⟨by decide, by decide, by decide, by decide⟩, by decide, by decide⟩ (.file _) rfl .nil

theorem rivals_sound : rivalRoot.Sound where
  plain := by
    intro name member
    obtain rfl := List.mem_singleton.mp member
    exact ⟨by decide, by decide, by decide, by decide⟩
  begins := Or.inr (List.cons_ne_nil _ _)

theorem rivals_texts (place : Place) (content : Bytes) (found : rivals.at? place = some (.file content)) :
    ∃ text, Utf8.decode? content = some text := by
  cases place with
  | nil => exact absurd (Option.some.inj found) Node.noConfusion
  | cons name more =>
      rcases Entries.at_cons found with ⟨inner, folder, _⟩ | ⟨file, _⟩
      · have member := Entries.find_mem folder
        simp [rivals, Entries.toList] at member
      · have member := Entries.find_mem file
        simp only [rivals, Entries.toList, List.mem_cons, Prod.mk.injEq, Node.file.injEq, List.not_mem_nil, or_false]
          at member
        rcases member with ⟨_, rfl⟩ | ⟨_, rfl⟩ <;> exact ⟨_, Utf8.decode_encode _⟩

def rivalMatcher : Matcher := ⟨"x".toList, [Matcher.literalRegex "x".toList]⟩

theorem rival_matcher_made : Matcher.ofQuery "x".toList .literal = .ok rivalMatcher := by
  have small : ¬ (Matcher.literalRegex "x".toList).isTooLarge = true := by decide +kernel
  rw [Matcher.of_query_literal, if_neg small, rivalMatcher]

theorem find_least_of_rivals :
    ∃ path j line lines, rivalRoot.Least rivalDisk Config.default rivalMatcher path j line ∧
      answer rivalDisk path = .ok lines ∧
      Extracted ⟨path, j, rivalMatcher.keyword? line⟩ lines
        ((Lookup.find (Folder.mk rivalRoot.path "if".toList "spt".toList).source .literal "x".toList).run
          ⟨rivalDisk, []⟩).1 := by
  have valid : Config.default.validated = .ok Config.default := rfl
  have opened : ofConfig rivalDisk rivalRoot.path Config.default =
      .ok ⟨rivalRoot.path, "if".toList, "spt".toList⟩ := if_pos (by decide +kernel)
  have there : rivalDisk.entries? rivalRoot.path = some rivals := rfl
  have holds : rivalRoot.Holds rivalDisk "if".toList [Utf8.encode "b.if".toList] :=
    ⟨⟨rivals, _, rfl, rfl⟩, [], _, "b.if".toList, rfl, by decide +kernel, by decide⟩
  have fits : (rivalRoot.below [Utf8.encode "b.if".toList]).Fits := by
    rw [Path.Fits]
    decide +kernel
  have candidate : rivalRoot.Candidate rivalDisk Config.default (rivalRoot.below [Utf8.encode "b.if".toList]) :=
    ⟨fits, _, Or.inl holds, rfl⟩
  have read : answer rivalDisk (rivalRoot.below [Utf8.encode "b.if".toList]) =
      .ok (Text.lines "\ndefine(`x', 2)\n".toList) := by
    rw [answer, read_below rivals_linkless rivals_sound there (List.cons_ne_nil _ []) rfl fits, Utf8.decode_encode]
  have declares : rivalDisk.Declares rivalMatcher (rivalRoot.below [Utf8.encode "b.if".toList]) 1
      "define(`x', 2)\n".toList := ⟨_, read, by decide, by decide +kernel⟩
  have all := find_least rivals_linkless rivals_sound valid opened rival_matcher_made
    (readable_texts rivals_linkless rivals_sound there rivals_texts) []
  exact all.2.2.1 ⟨_, 1, _, candidate, declares⟩

-- A folder without candidates holds no line that matches either, but the lookup fails in its own way.
def bareDisk : Disk where
  root := .cons (Utf8.encode "p".toList) (.folder .nil) .nil
  home := []

theorem bare_linkless : bareDisk.root.Linkless :=
  .cons _ _ _ ⟨⟨by decide, by decide, by decide, by decide⟩, by decide, by decide⟩ (.folder _ .nil) rfl .nil

theorem no_candidates_in_bare_folder :
    ofConfig bareDisk rivalRoot.path Config.default = .ok ⟨rivalRoot.path, "if".toList, "spt".toList⟩ ∧
    Matcher.ofQuery "x".toList .literal = .ok rivalMatcher ∧
    (∀ path j line, rivalRoot.Candidate bareDisk Config.default path → ¬ bareDisk.Declares rivalMatcher path j line) ∧
    ((Lookup.find (Folder.mk rivalRoot.path "if".toList "spt".toList).source .literal "x".toList).run
      ⟨bareDisk, []⟩).1 = .error (.noCandidates rivalRoot.path "if".toList "spt".toList) := by
  have opened : ofConfig bareDisk rivalRoot.path Config.default =
      .ok ⟨rivalRoot.path, "if".toList, "spt".toList⟩ := if_pos (by decide +kernel)
  have none (path : Path) : ¬ rivalRoot.Candidate bareDisk Config.default path := by
    intro candidate
    have there : bareDisk.entries? rivalRoot.path = some .nil := rfl
    obtain ⟨place, content, something, found, _⟩ := candidate_file there candidate
    cases place with
    | nil => exact something rfl
    | cons name more => simp [Entries.at?, Entries.find?] at found
  have valid : Config.default.validated = .ok Config.default := rfl
  obtain ⟨interfaces, supports, first, second, found⟩ :=
    find_of_lists bare_linkless rivals_sound valid opened .literal "x".toList []
  refine ⟨opened, rival_matcher_made, fun path _ _ candidate => absurd candidate (none path), ?_⟩
  rw [found, if_pos (nothing_listed first second none)]
  rfl

end Folder

end PolicyLookup
