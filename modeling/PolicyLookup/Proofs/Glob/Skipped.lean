import PolicyLookup.Proofs.Glob.Walk

set_option autoImplicit false

namespace PolicyLookup.Glob

section

variable {disk : Disk} {stop : Stop}

-- What is known as a folder is one, although its path may be too long to open it.
def Opens (disk : Disk) (stop : Stop) : Prop :=
  stop.isFolder = true → ∃ place inner, disk.Leads stop.path place (.folder inner)

theorem opens_at (disk : Disk) (path : Path) : Opens disk (stopAt disk path) := by
  intro isFolder
  obtain ⟨inner, opened⟩ := Option.isSome_iff_exists.mp isFolder
  rw [Disk.entries?] at opened
  split at opened
  · next entries isNode =>
      rw [Disk.node?] at isNode
      split at isNode
      · next place located => exact ⟨place, entries, isNode, fun _ => located⟩
      · contradiction
  · contradiction

theorem opens_child (linkless : disk.root.Linkless) (opens : Opens disk stop) {entry : Entry}
    (member : entry ∈ children disk stop) : Opens disk entry.toStop := by
  obtain ⟨path, isFolder⟩ := stop
  cases isFolder with
  | false => contradiction
  | true =>
      obtain ⟨place, inner, leads⟩ := opens rfl
      obtain ⟨_, _, name, child, same, isThere, rfl⟩ := (mem_children_of leads entry).mp member
      obtain rfl := Node.folder.inj same
      have next := leads.entry linkless isThere
      intro known
      obtain ⟨_, inside⟩ := Disk.child_linkless linkless leads.there isThere
      cases inside with
      | file content => contradiction
      | folder deeper _ => exact ⟨_, deeper, next⟩

theorem unread_too_long (opens : Opens disk stop) (isFolder : stop.isFolder = true) {fault : ReadFault}
    (unread : entriesOf disk stop.path = .error fault) : ¬ stop.path.Fits := by
  intro fits
  obtain ⟨place, inner, leads⟩ := opens isFolder
  rw [entries_ok leads fits] at unread
  contradiction

theorem descendants_open (linkless : disk.root.Linkless) (depth : Nat) (opens : Opens disk stop) :
    (∀ entry, .ok entry ∈ descendants disk depth stop → Opens disk entry.toStop) ∧
      ∀ skipped, .error skipped ∈ descendants disk depth stop → ¬ skipped.folder.Fits := by
  induction depth generalizing stop with
  | zero => simp [descendants]
  | succ depth ih =>
      rw [descendants]
      split
      · next isFolder =>
          cases opened : entriesOf disk stop.path with
          | error fault =>
              have long := unread_too_long opens isFolder opened
              simp [long]
          | ok entries =>
              have child {entry : Entry} (member : entry ∈ entries) : Opens disk entry.toStop := by
                apply opens_child linkless opens
                rwa [children, if_pos isFolder, opened]
              simp only [List.mem_flatMap, List.mem_cons, Except.ok.injEq, reduceCtorEq, false_or]
              constructor
              · rintro entry ⟨first, member, rfl | below⟩
                · exact child member
                · exact (ih (child member)).1 entry below
              · rintro skipped ⟨first, member, below⟩
                exact (ih (child member)).2 skipped below
      · simp

theorem beyond_descendants (linkless : disk.root.Linkless) (opens : Opens disk stop) {skipped : Unreadable}
    {next : Entry → List (Except Unreadable Path)}
    (beyond : ∀ entry, Opens disk entry.toStop → .error skipped ∈ next entry → ¬ skipped.folder.Fits)
    (member : .error skipped ∈ fromEach next (descendants disk Disk.longestPath stop)) : ¬ skipped.folder.Fits := by
  obtain ⟨known, skips⟩ := descendants_open linkless Disk.longestPath opens
  obtain ⟨hit, isThere, comes⟩ := List.mem_flatMap.mp member
  cases hit with
  | error other =>
      obtain rfl := Except.error.inj (List.mem_singleton.mp comes)
      exact skips skipped isThere
  | ok entry => exact beyond entry (known entry isThere) comes

-- Structural on the parts: folders at any depth take the part behind them along.
theorem arrive_skips (linkless : disk.root.Linkless) (foldersOnly : Bool) (skipped : Unreadable) :
    ∀ (parts : List (List Token)) {stop : Stop}, Opens disk stop →
      .error skipped ∈ arrive disk foldersOnly parts stop → ¬ skipped.folder.Fits
  | [], stop, _, member => by
      rw [arrive] at member
      split at member <;> simp at member
  | part :: more, stop, opens, member => by
      rw [arrive, walk.eq_def] at member
      dsimp only at member
      split at member
      · split at member
        · exact arrive_skips linkless foldersOnly skipped more (opens_at disk _) member
        · contradiction
      · split at member
        · split at member
          · refine beyond_descendants linkless opens (fun entry _ found => ?_) member
            split at found <;> simp at found
          · next next rest =>
              split at member
              · exact arrive_skips linkless foldersOnly skipped (next :: rest) opens (by rwa [arrive])
              · refine beyond_descendants linkless opens (fun entry opensToo found => ?_) member
                split at found
                · exact arrive_skips linkless foldersOnly skipped rest opensToo found
                · contradiction
        · split at member
          · next isFolder =>
              cases opened : entriesOf disk stop.path with
              | error fault =>
                  rw [opened] at member
                  obtain rfl := Except.error.inj (List.mem_singleton.mp member)
                  exact unread_too_long opens isFolder opened
              | ok entries =>
                  rw [opened] at member
                  rcases List.mem_append.mp member with dots | named
                  · obtain ⟨name, _, later⟩ := List.mem_flatMap.mp dots
                    exact arrive_skips linkless foldersOnly skipped more (opens_at disk _) later
                  · obtain ⟨entry, matched, later⟩ := List.mem_flatMap.mp named
                    have isChild : entry ∈ children disk stop := by
                      rw [children, if_pos isFolder, opened]
                      exact (List.mem_filter.mp matched).1
                    exact arrive_skips linkless foldersOnly skipped more (opens_child linkless opens isChild) later
          · contradiction

-- On a disk without links nothing is left out of a search but folders whose paths are too long.
theorem search_skips (linkless : disk.root.Linkless) (pattern : Pattern) {skipped : Unreadable}
    (member : .error skipped ∈ pattern.search disk) : ¬ skipped.folder.Fits := by
  rw [Pattern.search] at member
  cases parts : pattern.parts with
  | nil =>
      rw [parts, walk] at member
      contradiction
  | cons part more =>
      rw [parts, ← arrive_walk disk pattern.foldersOnly (List.cons_ne_nil part more)] at member
      exact arrive_skips linkless pattern.foldersOnly skipped _ (opens_at disk _) member

end

end PolicyLookup.Glob
