import PolicyLookup.Proofs.Disk.Real
import PolicyLookup.Proofs.Glob.Walk

set_option autoImplicit false

namespace PolicyLookup

namespace Glob

section

variable {disk : Disk} {place : Place}

theorem mem_children_real (named : disk.root.Named) {inner : Entries} {name : Name} {child : Node}
    (there : disk.root.at? place = some (.folder inner)) (fits : (Path.ofNames place).Fits)
    (isThere : inner.find? name = some child) :
    entryOf disk (Path.ofNames place) name child ∈ children disk ⟨Path.ofNames place, true⟩ ∧
      (entryOf disk (Path.ofNames place) name child).path = Path.ofNames (place ++ [name]) := by
  have below : disk.root.at? (place ++ [name]) = some child := by
    rw [Entries.at_below there, Entries.at_single, isThere]
  refine ⟨?_, Path.of_names_entry (Disk.place_plain named below)⟩
  exact (mem_children_of (Disk.leads_real named there fun _ => Node.noConfusion) _).mpr
    ⟨fits, inner, name, child, rfl, isThere, rfl⟩

-- By induction on the folders between: each is an entry of the one before.
theorem mem_listed_real (named : disk.root.Named) {start : Place} {last : Name} {node : Node} {depth : Nat}
    (there : disk.root.at? (place ++ start ++ [last]) = some node) (fits : (Path.ofNames (place ++ start)).Fits)
    (deep : start.length < depth) :
    ∃ entry ∈ listed disk depth ⟨Path.ofNames place, true⟩,
      entry.name = last ∧ entry.path = Path.ofNames (place ++ start ++ [last]) := by
  induction start generalizing place depth with
  | nil =>
      rw [List.append_nil] at there fits ⊢
      obtain ⟨inner, here, isThere⟩ := Entries.at_above (List.cons_ne_nil last []) there
      rw [Entries.at_single] at isThere
      cases depth with
      | zero => contradiction
      | succ depth =>
          obtain ⟨member, path⟩ := mem_children_real named here fits isThere
          rw [listed_succ]
          exact ⟨_, List.mem_flatMap.mpr ⟨_, member, List.mem_cons_self⟩, rfl, path⟩
  | cons name start ih =>
      have whole : disk.root.at? (place ++ (name :: (start ++ [last]))) = some node := by simpa using there
      obtain ⟨inner, here, below⟩ := Entries.at_above (List.cons_ne_nil name _) whole
      have plain := Disk.place_plain named there
      have fitsHere : (Path.ofNames place).Fits :=
        Path.of_names_fits (fun n member => plain n (List.mem_append_left _ member)) fits
      have regroup : place ++ name :: start = place ++ [name] ++ start := List.append_cons place name start
      rw [regroup] at there fits ⊢
      cases depth with
      | zero => contradiction
      | succ depth =>
          rcases Entries.at_cons below with ⟨deeper, isThere, _⟩ | ⟨_, none⟩
          · obtain ⟨member, path⟩ := mem_children_real named here fitsHere isThere
            obtain ⟨entry, later, same⟩ := ih there fits (Nat.lt_of_succ_lt_succ deep)
            rw [← path] at later
            rw [listed_succ]
            exact ⟨entry, List.mem_flatMap.mpr ⟨_, member, List.mem_cons_of_mem _ later⟩, same⟩
          · simp at none

theorem mem_walk_name (named : disk.root.Named) (foldersOnly : Bool) {t : Text} {entries : Entries}
    (there : disk.root.at? (place ++ [Utf8.encode t]) = some (.folder entries))
    (fits : (Path.ofNames (place ++ [Utf8.encode t])).Fits) {more : List (List Token)} {hit : Except Unreadable Path}
    (onward : hit ∈ arrive disk foldersOnly more ⟨Path.ofNames (place ++ [Utf8.encode t]), true⟩) :
    hit ∈ walk disk foldersOnly (tokensOf t :: more) ⟨Path.ofNames place, true⟩ := by
  obtain ⟨inner, here, inside⟩ := Entries.at_above (List.cons_ne_nil (Utf8.encode t) []) there
  rw [Entries.at_single] at inside
  have plain := Disk.place_plain named there
  have fitsHere := Path.of_names_fits plain fits
  have leads := Disk.leads_real named there fun _ => Node.noConfusion
  rw [walk.eq_def]
  dsimp only
  cases isPlain : plain? (tokensOf t) with
  | some text =>
      obtain rfl := plain_tokens isPlain
      simp only [Path.of_names_entry plain, leads_to_node leads fits, stop_at_folder leads fits, if_true]
      exact onward
  | none =>
      have opened := entries_ok (Disk.leads_real named here fun _ => Node.noConfusion) fitsHere
      obtain ⟨member, path⟩ := mem_children_real named here fitsHere inside
      rw [← path] at onward
      have matched := (matches_entry_name t (entryOf disk (Path.ofNames place) (Utf8.encode t) (.folder entries))).mpr rfl
      simp only [not_folders, opened, Bool.false_eq_true, if_false, if_true]
      exact List.mem_append_right _ (List.mem_flatMap.mpr ⟨_, List.mem_filter.mpr ⟨member, matched⟩, onward⟩)

theorem mem_walk_names (named : disk.root.Named) (foldersOnly : Bool) {texts : List Text} {entries : Entries}
    (there : disk.root.at? (place ++ texts.map Utf8.encode) = some (.folder entries))
    (fits : (Path.ofNames (place ++ texts.map Utf8.encode)).Fits) {more : List (List Token)} (something : more ≠ [])
    {hit : Except Unreadable Path}
    (onward : hit ∈ walk disk foldersOnly more ⟨Path.ofNames (place ++ texts.map Utf8.encode), true⟩) :
    hit ∈ walk disk foldersOnly (texts.map tokensOf ++ more) ⟨Path.ofNames place, true⟩ := by
  induction texts generalizing place with
  | nil =>
      rw [List.map_nil, List.append_nil] at onward
      exact onward
  | cons t texts ih =>
      rw [List.map_cons, List.append_cons] at there fits onward
      have later := ih there fits onward
      have above : ∃ deeper, disk.root.at? (place ++ [Utf8.encode t]) = some (.folder deeper) := by
        by_cases single : texts.map Utf8.encode = []
        · rw [single, List.append_nil] at there
          exact ⟨entries, there⟩
        · obtain ⟨deeper, here, _⟩ := Entries.at_above single there
          exact ⟨deeper, here⟩
      obtain ⟨deeper, here⟩ := above
      have fitsHere := Path.of_names_fits (Disk.place_plain named there) fits
      refine mem_walk_name named foldersOnly here fitsHere ?_
      rw [arrive_walk disk foldersOnly (by simp [something])]
      exact later

end

end Glob

end PolicyLookup
