import PolicyLookup.Proofs.Disk.Leads

set_option autoImplicit false

namespace PolicyLookup

namespace Entries

theorem find_iff_mem (entries : Entries) (name : Name) :
    (∃ node, entries.find? name = some node) ↔ name ∈ entries.toList.map Prod.fst :=
  match entries with
  | .nil => by simp [find?, toList]
  | .cons other node rest => by
      have later := find_iff_mem rest name
      by_cases same : other = name
      · simp [find?, toList, same]
      · rw [find?, if_neg same, later, toList, List.map_cons, List.mem_cons]
        simp [Ne.symm same]

theorem names_nodup {entries : Entries} (linkless : entries.Linkless) : (entries.toList.map Prod.fst).Nodup :=
  match linkless with
  | .nil => List.nodup_nil
  | .cons name node rest _ _ fresh more => by
      have missing : name ∉ rest.toList.map Prod.fst := by
        rw [← find_iff_mem, fresh]
        rintro ⟨other, impossible⟩
        contradiction
      exact List.nodup_cons.mpr ⟨missing, names_nodup more⟩

theorem mem_sorted (entries : Entries) (name : Name) :
    name ∈ entries.sorted ↔ ∃ node, entries.find? name = some node := by
  rw [sorted, List.mem_mergeSort, find_iff_mem]

theorem sorted_strict {entries : Entries} (linkless : entries.Linkless) : entries.sorted.Pairwise (· < ·) := by
  have ordered : entries.sorted.Pairwise fun a b => !(b < a) := by
    apply List.pairwise_mergeSort
    · intro a b c first second
      simp only [Bool.not_eq_true', decide_eq_false_iff_not, List.not_lt] at first second ⊢
      exact List.le_trans first second
    · intro a b
      simp only [Bool.or_eq_true, Bool.not_eq_true', decide_eq_false_iff_not, List.not_lt]
      exact List.le_total a b
  have distinct : entries.sorted.Nodup := (List.mergeSort_perm _ _).nodup_iff.mpr (names_nodup linkless)
  refine (ordered.and distinct).imp ?_
  rintro a b ⟨notAfter, different⟩
  simp only [Bool.not_eq_true', decide_eq_false_iff_not, List.not_lt] at notAfter
  rcases List.le_iff_lt_or_eq.mp notAfter with less | same
  · exact less
  · exact absurd same different

end Entries

namespace Glob

def found {α : Type} (hits : List (Except Unreadable α)) : List α := hits.filterMap Except.toOption

theorem mem_found {α : Type} {hits : List (Except Unreadable α)} {a : α} : a ∈ found hits ↔ .ok a ∈ hits := by
  rw [found, List.mem_filterMap]
  constructor
  · rintro ⟨hit, member, isFound⟩
    cases hit with
    | error skipped => contradiction
    | ok b =>
        obtain rfl := Option.some.inj isFound
        exact member
  · intro member
    exact ⟨.ok a, member, rfl⟩

theorem found_from_each {α β : Type} (next : α → List (Except Unreadable β)) (hits : List (Except Unreadable α)) :
    found (fromEach next hits) = (found hits).flatMap fun a => found (next a) := by
  induction hits with
  | nil => rfl
  | cons hit hits ih =>
      rw [fromEach, List.flatMap_cons, found, List.filterMap_append]
      cases hit with
      | ok a => exact congrArg (found (next a) ++ ·) ih
      | error skipped => exact ih

def children (disk : Disk) (stop : Stop) : List Entry :=
  if stop.isFolder then (entriesOf disk stop.path).toOption.getD [] else []

def listed (disk : Disk) (depth : Nat) (stop : Stop) : List Entry := found (descendants disk depth stop)

theorem listed_succ (disk : Disk) (depth : Nat) (stop : Stop) :
    listed disk (depth + 1) stop =
      (children disk stop).flatMap fun entry => entry :: listed disk depth entry.toStop := by
  rw [listed, descendants, children]
  split
  · cases entriesOf disk stop.path with
    | error fault => rfl
    | ok entries => exact List.filterMap_flatMap
  · rfl

theorem entries_opened (disk : Disk) (folder : Path) :
    (entriesOf disk folder).toOption = (disk.entries? folder).map fun inner =>
      inner.sorted.filterMap fun name => (inner.find? name).map (entryOf disk folder name) := by
  rw [entriesOf, Disk.entries?, Disk.node?]
  cases disk.locate false folder with
  | error fault => rfl
  | ok place =>
      simp only [bind, Except.bind]
      cases disk.root.at? place with
      | none => rfl
      | some node => cases node <;> rfl

def entryBelow (disk : Disk) (folder : Path) (names : Place) (node : Node) : Entry :=
  entryOf disk (folder.along names.dropLast) (names.getLastD []) node

theorem entry_below_path (disk : Disk) (folder : Path) {names : Place} (something : names ≠ []) (node : Node) :
    (entryBelow disk folder names node).path = folder.along names := by
  obtain ⟨start, last, rfl⟩ := (List.eq_nil_or_concat names).resolve_left something
  rw [entryBelow, List.concat_eq_append, List.dropLast_concat, List.getLastD_concat, Path.along_append]
  rfl

theorem entry_of_cons (disk : Disk) (path : Path) (name : Name) {more : Place} (something : more ≠ []) (node : Node) :
    entryBelow disk (Glob.entryPath path name) more node = entryBelow disk path (name :: more) node := by
  rw [entryBelow, entryBelow, List.dropLast_cons_of_ne_nil something, Path.along_cons]
  cases more with
  | nil => contradiction
  | cons next more => simp

section

variable {disk : Disk} {path : Path} {place : Place} {node : Node} {inner : Entries}

theorem stop_at_folder (leads : disk.Leads path place (.folder inner)) (fits : path.Fits) :
    stopAt disk path = ⟨path, true⟩ := by
  rw [stopAt, Disk.isFolder, Disk.entries?, leads.node_of fits]
  rfl

theorem children_of_folder (leads : disk.Leads path place (.folder inner)) (fits : path.Fits) :
    children disk ⟨path, true⟩ = inner.sorted.filterMap fun name => (inner.find? name).map (entryOf disk path name) := by
  rw [children, if_pos rfl, entries_opened, Disk.entries?, leads.node_of fits]
  rfl

theorem entries_ok (leads : disk.Leads path place (.folder inner)) (fits : path.Fits) :
    entriesOf disk path = .ok (children disk ⟨path, true⟩) := by
  simp only [entriesOf, leads.located fits, bind, Except.bind, leads.there, children_of_folder leads fits]

theorem children_of_other {stop : Stop} (leads : disk.Leads stop.path place node)
    (other : (∀ inner, node ≠ .folder inner) ∨ ¬ stop.path.Fits) : children disk stop = [] := by
  have none : disk.entries? stop.path = none := by
    by_cases fits : stop.path.Fits
    · rcases other with notFolder | long
      · rw [Disk.entries?, leads.node_of fits]
        cases node with
        | folder inner => exact absurd rfl (notFolder inner)
        | file content | link target => rfl
      · contradiction
    · rw [Disk.entries?, Disk.node_too_long fits]
  rw [children, entries_opened, none]
  exact ite_self []

theorem mem_sorted_entries (entries : List Name) (entry : Entry) :
    entry ∈ (entries.filterMap fun name => (inner.find? name).map (entryOf disk path name)) ↔
      ∃ name ∈ entries, ∃ child, inner.find? name = some child ∧ entryOf disk path name child = entry := by
  simp only [List.mem_filterMap, Option.map_eq_some_iff]

theorem mem_children_of (leads : disk.Leads path place node) (entry : Entry) :
    entry ∈ children disk ⟨path, true⟩ ↔
      path.Fits ∧ ∃ inner name child, node = .folder inner ∧ inner.find? name = some child ∧
        entry = entryOf disk path name child := by
  constructor
  · intro member
    by_cases fits : path.Fits
    · cases node with
      | folder inner =>
          rw [children_of_folder leads fits, mem_sorted_entries] at member
          obtain ⟨name, _, child, isThere, rfl⟩ := member
          exact ⟨fits, inner, name, child, rfl, isThere, rfl⟩
      | file content | link target =>
          rw [children_of_other leads (Or.inl fun inner => Node.noConfusion)] at member
          contradiction
    · rw [children_of_other leads (Or.inr fits)] at member
      contradiction
  · rintro ⟨fits, inner, name, child, rfl, isThere, rfl⟩
    rw [children_of_folder leads fits, mem_sorted_entries]
    exact ⟨name, (Entries.mem_sorted inner name).mpr ⟨child, isThere⟩, child, isThere, rfl⟩

theorem nothing_below_file (disk : Disk) (depth : Nat) (path : Path) (name : Name) (content : Bytes) :
    descendants disk depth (entryOf disk path name (.file content)).toStop = [] := by
  cases depth <;> rfl

theorem listed_of_file (disk : Disk) (depth : Nat) (path : Path) (name : Name) (content : Bytes) :
    listed disk depth (entryOf disk path name (.file content)).toStop = [] := by
  rw [listed, nothing_below_file]
  rfl

-- By induction on the depth: the first name is an entry of the folder, the others lead on below it.
theorem mem_listed (linkless : disk.root.Linkless) (depth : Nat) (leads : disk.Leads path place (.folder inner))
    (entry : Entry) :
    entry ∈ listed disk depth ⟨path, true⟩ ↔
      ∃ more child, more ≠ [] ∧ more.length ≤ depth ∧ (path.along more.dropLast).Fits ∧
        inner.at? more = some child ∧ entry = entryBelow disk path more child := by
  induction depth generalizing path place inner with
  | zero =>
      constructor
      · intro member
        contradiction
      · rintro ⟨more, _, something, short, _⟩
        exact absurd (List.length_eq_zero_iff.mp (Nat.le_zero.mp short)) something
  | succ depth ih =>
      rw [listed_succ, List.mem_flatMap]
      constructor
      · rintro ⟨first, inFolder, below⟩
        obtain ⟨fits, _, name, child, same, isThere, rfl⟩ := (mem_children_of leads first).mp inFolder
        obtain rfl := Node.folder.inj same
        rcases List.mem_cons.mp below with rfl | deeper
        · refine ⟨[name], child, List.cons_ne_nil _ _, Nat.succ_le_succ (Nat.zero_le _), fits, ?_, rfl⟩
          rw [Entries.at_single, isThere]
        · have next := leads.entry linkless isThere
          obtain ⟨_, child⟩ := Disk.child_linkless linkless leads.there isThere
          cases child with
          | file content =>
              rw [listed_of_file] at deeper
              contradiction
          | folder entries inside =>
              obtain ⟨more, last, something, short, fitsBelow, there, rfl⟩ := (ih next).mp deeper
              refine ⟨name :: more, last, List.cons_ne_nil _ _, Nat.succ_le_succ short, ?_, ?_,
                entry_of_cons disk path name something last⟩
              · rw [List.dropLast_cons_of_ne_nil something]
                exact fitsBelow
              · rw [Entries.at_cons_folder isThere, there]
      · rintro ⟨more, last, something, short, fits, there, rfl⟩
        cases more with
        | nil => contradiction
        | cons name rest =>
            by_cases single : rest = []
            · subst single
              rw [Entries.at_single] at there
              exact ⟨_, (mem_children_of leads _).mpr ⟨fits, inner, name, last, rfl, there, rfl⟩, List.mem_cons_self⟩
            · rcases Entries.at_cons there with ⟨deeper, isThere, later⟩ | ⟨_, none⟩
              · have plain := leads.names_plain linkless there
                rw [List.dropLast_cons_of_ne_nil single] at fits
                have above : ∀ n ∈ name :: rest.dropLast, Name.Plain n := fun n member =>
                  plain n (List.cons_subset_cons name (List.dropLast_subset rest) member)
                have fitsHere : path.Fits := Nat.le_trans (Path.length_names leads.something above) fits
                refine ⟨_, (mem_children_of leads _).mpr ⟨fitsHere, inner, name, _, rfl, isThere, rfl⟩, ?_⟩
                apply List.mem_cons_of_mem
                exact (ih (leads.entry linkless isThere)).mpr ⟨rest, last, single, Nat.le_of_succ_le_succ short, fits,
                  later, (entry_of_cons disk path name single last).symm⟩
              · contradiction

theorem parts_below (linkless : disk.root.Linkless) (leads : disk.Leads path place (.folder inner))
    {names more : Place} {above child : Node} (start : names ≠ []) (here : inner.at? names = some above)
    (something : more ≠ []) (there : inner.at? (names ++ more) = some child) :
    (path.along names).parts < (path.along (names ++ more)).parts := by
  have whole : names ++ more ≠ [] := by simp [start]
  rw [Path.along_parts leads.something (leads.names_plain linkless here) start,
    Path.along_parts leads.something (leads.names_plain linkless there) whole]
  apply List.append_left_lt
  cases more with
  | nil => contradiction
  | cons name more =>
      have longer : names ++ [] < names ++ name :: more := List.append_left_lt (List.nil_lt_cons name more)
      rwa [List.append_nil] at longer

theorem parts_beside (linkless : disk.root.Linkless) (leads : disk.Leads path place (.folder inner))
    {left right : Place} {a b : Name} {one other : Node} (less : a < b) (first : inner.at? (a :: left) = some one)
    (second : inner.at? (b :: right) = some other) :
    (path.along (a :: left)).parts < (path.along (b :: right)).parts := by
  rw [Path.along_parts leads.something (leads.names_plain linkless first) (List.cons_ne_nil _ _),
    Path.along_parts leads.something (leads.names_plain linkless second) (List.cons_ne_nil _ _)]
  apply List.append_left_lt
  exact List.cons_lt_cons_iff.mpr (Or.inl less)

theorem below_entry (linkless : disk.root.Linkless) (depth : Nat) (leads : disk.Leads path place (.folder inner))
    {name : Name} (isThere : inner.find? name = some node) {entry : Entry}
    (member : entry ∈ listed disk depth (entryOf disk path name node).toStop) :
    ∃ rest last, rest ≠ [] ∧ inner.at? (name :: rest) = some last ∧ entry.path = path.along (name :: rest) := by
  have next := leads.entry linkless isThere
  obtain ⟨_, child⟩ := Disk.child_linkless linkless leads.there isThere
  cases child with
  | file content =>
      rw [listed_of_file] at member
      contradiction
  | folder entries inside =>
      obtain ⟨rest, last, something, _, _, there, rfl⟩ := (mem_listed linkless depth next entry).mp member
      exact ⟨rest, last, something, (Entries.at_cons_folder isThere rest).trans there,
        entry_below_path disk _ something last⟩

theorem at_or_below (linkless : disk.root.Linkless) (depth : Nat) (leads : disk.Leads path place (.folder inner))
    {name : Name} (isThere : inner.find? name = some node) {entry : Entry}
    (member : entry ∈ entryOf disk path name node :: listed disk depth (entryOf disk path name node).toStop) :
    ∃ rest last, inner.at? (name :: rest) = some last ∧ entry.path = path.along (name :: rest) := by
  rcases List.mem_cons.mp member with rfl | below
  · exact ⟨[], node, (Entries.at_single inner name).trans isThere, rfl⟩
  · obtain ⟨rest, last, _, there, same⟩ := below_entry linkless depth leads isThere below
    exact ⟨rest, last, there, same⟩

-- An entry comes before all that is below it, and what is below one entry before the next entry.
theorem listed_ordered (linkless : disk.root.Linkless) (depth : Nat) (leads : disk.Leads path place node) :
    (listed disk depth ⟨path, true⟩).Pairwise fun a b => a.path.parts < b.path.parts := by
  induction depth generalizing path place node with
  | zero => exact List.Pairwise.nil
  | succ depth ih =>
      rw [listed_succ, List.pairwise_flatMap]
      constructor
      · intro first inFolder
        obtain ⟨_, inner, name, child, rfl, isThere, rfl⟩ := (mem_children_of leads first).mp inFolder
        refine List.pairwise_cons.mpr ⟨?_, ?_⟩
        · intro entry below
          obtain ⟨rest, last, something, there, same⟩ := below_entry linkless depth leads isThere below
          rw [same]
          exact parts_below linkless leads (List.cons_ne_nil name [])
            ((Entries.at_single inner name).trans isThere) something there
        · obtain ⟨_, whole⟩ := Disk.child_linkless linkless leads.there isThere
          cases whole with
          | file content =>
              rw [listed_of_file]
              exact List.Pairwise.nil
          | folder entries inside => exact ih (leads.entry linkless isThere)
      · by_cases fits : path.Fits
        · cases node with
          | folder inner =>
              obtain ⟨innerLinkless, _⟩ := Entries.at_linkless linkless leads.there
              cases innerLinkless with
              | folder _ innerLinkless =>
                  rw [children_of_folder leads fits, List.pairwise_filterMap]
                  refine (Entries.sorted_strict innerLinkless).imp_of_mem ?_
                  intro a b inA inB less left fromA right fromB x atA y atB
                  obtain ⟨one, foundA, rfl⟩ := Option.map_eq_some_iff.mp fromA
                  obtain ⟨other, foundB, rfl⟩ := Option.map_eq_some_iff.mp fromB
                  obtain ⟨_, _, first, same⟩ := at_or_below linkless depth leads foundA atA
                  obtain ⟨_, _, second, sameToo⟩ := at_or_below linkless depth leads foundB atB
                  rw [same, sameToo]
                  exact parts_beside linkless leads less first second
          | file content | link target =>
              rw [children_of_other leads (Or.inl fun inner => Node.noConfusion)]
              exact List.Pairwise.nil
        · rw [children_of_other leads (Or.inr fits)]
          exact List.Pairwise.nil

end

end Glob

end PolicyLookup
