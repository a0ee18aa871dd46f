import PolicyLookup.Proofs.Disk.Tree

set_option autoImplicit false

namespace PolicyLookup

def Path.Fits (path : Path) : Prop := path.bytes.length ≤ Disk.longestPath

theorem Path.top_fits (absolute : Bool) : (top absolute).Fits := by
  rw [Fits, length_top]
  decide

namespace Disk

def start (disk : Disk) (absolute : Bool) : Place := if absolute then [] else disk.home

section

variable {disk : Disk} {keepLast : Bool} {path : Path} {place : Place}

theorem locate_eq (noZero : 0 ∉ path.bytes) (something : path.bytes ≠ []) (fits : path.Fits) :
    disk.locate keepLast path = descend disk.root keepLast (follow disk.root keepLast (linkAllowance - 1))
      (disk.start path.isAbsolute) path.parts := by
  rw [locate, if_neg (by simpa using noZero), if_neg (by simpa using something), if_neg (Nat.not_lt.mpr fits)]
  rfl

theorem locate_ok (located : disk.locate keepLast path = .ok place) :
    path.bytes ≠ [] ∧ path.Fits ∧ descend disk.root keepLast
      (follow disk.root keepLast (linkAllowance - 1)) (disk.start path.isAbsolute) path.parts = .ok place := by
  rw [locate] at located
  split at located
  · contradiction
  split at located
  · contradiction
  · rename_i something
    split at located
    · contradiction
    · exact ⟨by simpa using something, Nat.not_lt.mp ‹_›, located⟩

theorem locate_no_zero (located : disk.locate keepLast path = .ok place) : 0 ∉ path.bytes := by
  intro zero
  rw [locate, if_pos (by simpa using zero)] at located
  contradiction

theorem entries_located {entries : Entries} (opened : disk.entries? path = some entries) :
    ∃ reached, disk.locate false path = .ok reached ∧ disk.root.at? reached = some (.folder entries) := by
  rw [entries?, node?] at opened
  cases located : disk.locate false path with
  | error fault =>
      rw [located] at opened
      contradiction
  | ok reached =>
      rw [located] at opened
      dsimp only at opened
      split at opened
      · obtain rfl := Option.some.inj opened
        exact ⟨reached, rfl, by assumption⟩
      · contradiction

theorem node_too_long (long : ¬ path.Fits) : disk.node? path = none := by
  rw [node?]
  cases located : disk.locate false path with
  | error fault => rfl
  | ok place => exact absurd (locate_ok located).2.1 long

-- The parts in front of an entry lead where the path itself leads: what it has beside them, the dot of
-- the working folder or an empty part at the end, stands for no step.
theorem descend_front (linkless : disk.root.Linkless) (located : disk.locate keepLast path = .ok place) :
    descend disk.root keepLast (follow disk.root keepLast (linkAllowance - 1))
      (disk.start path.isAbsolute) path.front = .ok place := by
  obtain ⟨something, _, arrives⟩ := locate_ok located
  rw [Path.front]
  by_cases isHere : path = Glob.here
  · subst isHere
    have along : descend disk.root keepLast (follow disk.root keepLast (linkAllowance - 1))
        (disk.start Glob.here.isAbsolute) [Name.here] = .ok place := arrives
    obtain ⟨inner, here⟩ := descend_folder along
    rw [descend.eq_def] at along
    simp only [here, or_true, if_true] at along
    rw [if_pos rfl]
    exact along
  · rw [if_neg isHere]
    cases ends : path.endsInSlash with
    | false => exact arrives
    | true =>
        have last : path.bytes.getLast? = some Path.slash := by simpa [Path.endsInSlash] using ends
        obtain ⟨before, split⟩ := List.getLast?_eq_some_iff.mp last
        have parts : path.parts = before.splitOn Path.slash ++ [[]] := by
          rw [Path.parts, split, List.splitOn_append_cons_self, List.splitOn_nil]
        rw [parts] at arrives
        rw [parts, if_pos rfl, List.dropLast_concat]
        obtain ⟨middle, above, stays⟩ := descend_ok_append linkless arrives
        rw [← List.replicate_one] at stays
        rw [above, descend_slashes stays]

theorem locate_entry (linkless : disk.root.Linkless) (located : disk.locate keepLast path = .ok place) {part : Bytes}
    (moves : path ≠ Glob.here ∨ part ≠ []) (free : Path.slash ∉ part) (noZero : 0 ∉ part)
    (fits : (Glob.entryPath path part).Fits) :
    disk.locate keepLast (Glob.entryPath path part) =
      descend disk.root keepLast (follow disk.root keepLast (linkAllowance - 1)) place [part] := by
  obtain ⟨something, _, _⟩ := locate_ok located
  have clean : 0 ∉ (Glob.entryPath path part).bytes := by
    intro zero
    rcases Path.mem_entry something free zero with inPath | same | inPart
    · exact locate_no_zero located inPath
    · exact absurd same (by decide)
    · exact noZero inPart
  rw [locate_eq clean (Path.entry_some something free moves) fits, Path.entry_absolute something free,
    Path.entry_front something free, descend_append linkless, descend_front linkless located]
  rfl

end

structure Leads (disk : Disk) (path : Path) (place : Place) (node : Node) : Prop where
  there : disk.root.at? place = some node
  located : path.Fits → disk.locate false path = .ok place

namespace Leads

variable {disk : Disk} {path : Path} {place : Place} {node : Node}

theorem something (leads : disk.Leads path place node) : path.bytes ≠ [] := by
  intro empty
  have fits : path.Fits := by
    rw [Path.Fits, empty]
    exact Nat.zero_le _
  exact (locate_ok (leads.located fits)).1 empty

theorem node_of (leads : disk.Leads path place node) (fits : path.Fits) : disk.node? path = some node := by
  rw [node?, leads.located fits]
  exact leads.there

theorem is_file (leads : disk.Leads path place node) :
    disk.isFile path = true ↔ path.Fits ∧ ∃ content, node = .file content := by
  by_cases fits : path.Fits
  · rw [isFile, leads.node_of fits]
    cases node <;> simp [fits]
  · rw [isFile, node_too_long fits]
    simp [fits]

theorem read_text {content : Bytes} (leads : disk.Leads path place (.file content)) (fits : path.Fits) :
    disk.readText path =
      match Utf8.decode? content with
      | some text => .ok text
      | none => .error .notText := by
  cases decoded : Utf8.decode? content <;>
    simp only [readText, leads.located fits, bind, Except.bind, leads.there, decoded]

section

variable {inner : Entries} {names : Place} {child : Node}

theorem names_plain (linkless : disk.root.Linkless) (leads : disk.Leads path place (.folder inner))
    (found : inner.at? names = some child) : ∀ n ∈ names, n.Plain := by
  rw [← Entries.at_below leads.there] at found
  obtain ⟨_, proper⟩ := Entries.at_linkless linkless found
  exact fun n member => (proper n (List.mem_append_right _ member)).toPlain

theorem entry (linkless : disk.root.Linkless) (leads : disk.Leads path place (.folder inner)) {name : Name}
    (found : inner.find? name = some child) : disk.Leads (Glob.entryPath path name) (place ++ [name]) child where
  there := by rw [Entries.at_below leads.there, Entries.at_single, found]
  located := by
    intro fits
    obtain ⟨proper, _⟩ := child_linkless linkless leads.there found
    have moves : path ≠ Glob.here ∨ name ≠ [] := Or.inr proper.something
    have above := leads.located (Nat.le_trans (Path.length_entry leads.something proper.noSlash moves) fits)
    rw [locate_entry linkless above moves proper.noSlash proper.noZero fits, descend_name linkless leads.there found,
      descend]

theorem along (linkless : disk.root.Linkless) (leads : disk.Leads path place (.folder inner))
    (found : inner.at? names = some child) : disk.Leads (path.along names) (place ++ names) child := by
  induction names generalizing path place inner with
  | nil =>
      obtain rfl := Option.some.inj found
      rwa [List.append_nil]
  | cons name names ih =>
      rw [Path.along_cons, List.append_cons]
      rcases Entries.at_cons found with ⟨deeper, folder, later⟩ | ⟨last, rfl⟩
      · exact ih (leads.entry linkless folder) later
      · rw [List.append_nil]
        exact leads.entry linkless last

theorem part (linkless : disk.root.Linkless) (leads : disk.Leads path place (.folder inner)) {part : Bytes}
    {rest : List Bytes} {reached : Place} {entries : Entries} (moves : path ≠ Glob.here ∨ part ≠ [])
    (free : Path.slash ∉ part)
    (arrives : descend disk.root false (follow disk.root false (linkAllowance - 1)) place (part :: rest) = .ok reached)
    (opened : disk.root.at? reached = some (.folder entries)) :
    ∃ next deeper, disk.Leads (Glob.entryPath path part) next (.folder deeper) ∧
      descend disk.root false (follow disk.root false (linkAllowance - 1)) place [part] = .ok next ∧
      descend disk.root false (follow disk.root false (linkAllowance - 1)) next rest = .ok reached := by
  rw [← List.singleton_append] at arrives
  obtain ⟨next, first, later⟩ := descend_ok_append linkless arrives
  have folder : ∃ deeper, disk.root.at? next = some (.folder deeper) := by
    cases rest with
    | nil =>
        obtain rfl := Except.ok.inj later
        exact ⟨entries, opened⟩
    | cons _ _ => exact descend_folder later
  obtain ⟨deeper, there⟩ := folder
  have noZero : 0 ∉ part := by
    rcases descend_part linkless leads.there first with ⟨rfl | rfl, _⟩ | ⟨rfl, _⟩ | ⟨node, found, _⟩
    · exact List.not_mem_nil
    · decide
    · decide
    · exact (child_linkless linkless leads.there found).1.noZero
  refine ⟨next, deeper, ⟨there, fun fits => ?_⟩, first, later⟩
  have above := leads.located (Nat.le_trans (Path.length_entry leads.something free moves) fits)
  rw [locate_entry linkless above moves free noZero fits, first]

end

end Leads

theorem leads_top {disk : Disk} {absolute : Bool} {base : Entries}
    (here : disk.root.at? (disk.start absolute) = some (.folder base)) :
    disk.Leads (Path.top absolute) (disk.start absolute) (.folder base) where
  there := here
  located := by
    intro fits
    have noZero : 0 ∉ (Path.top absolute).bytes := by cases absolute <;> decide
    rw [locate_eq noZero (Path.top_some absolute) fits]
    cases absolute with
    | true =>
        change descend disk.root false _ (disk.start true) (List.replicate 2 []) = _
        rw [List.replicate_succ, List.replicate_one, descend.eq_def]
        simp only [here, true_or, if_true]
        rw [descend.eq_def]
        simp only [here, true_or, if_true, descend]
    | false =>
        change descend disk.root false _ (disk.start false) [Name.here] = _
        rw [descend.eq_def]
        simp only [here, or_true, if_true, descend]

end Disk

end PolicyLookup
