import PolicyLookup.Proofs.Glob.Rooted
import PolicyLookup.Proofs.Glob.Walk

set_option autoImplicit false

namespace PolicyLookup.Root

def place (r : Root) : Place := r.names.map Utf8.encode

def below (r : Root) (place : Place) : Path := ⟨Utf8.encode r.bare ++ slashed Path.slash place⟩

def walked (r : Root) : Path := (Path.top r.absolute).along r.place

theorem encode_bare (r : Root) : Utf8.encode r.bare = joined Path.slash r.absolute r.place :=
  @joined_flat_map _ '/' _ Path.slash Utf8.encodeChar rfl r.absolute r.names

theorem encode_slashes (n : Nat) : Utf8.encode (List.replicate n '/') = slashed Path.slash (List.replicate n []) := by
  induction n with
  | zero => rfl
  | succ n ih =>
      rw [List.replicate_succ, Utf8.encode_cons, ih, List.replicate_succ, slashed_cons]
      rfl

theorem plain_encode {t : Text} (plain : PlainText t) : Name.Plain (Utf8.encode t) where
  something nothing := plain.something (Utf8.encode_inj (u := []) nothing)
  notHere dot := plain.notHere (Utf8.encode_inj (u := ".".toList) dot)
  notUp dots := plain.notUp (Utf8.encode_inj (u := "..".toList) dots)
  noSlash slash := plain.noSlash (Utf8.slash_in_encode slash)

section

variable {r : Root}

theorem place_free (spelled : r.Spelled) : ∀ n ∈ r.place, Path.slash ∉ n := Glob.parts_free spelled.noSlash

theorem place_first (spelled : r.Spelled) :
    r.absolute = true ∨ ∀ n ∈ r.place.head?, n ≠ [] ∧ Path.slash ∉ n := by
  refine spelled.first.imp_right fun something n first => ⟨?_, place_free spelled n (List.mem_of_head? first)⟩
  rw [place, List.head?_map] at first
  obtain ⟨t, head, rfl⟩ := Option.map_eq_some_iff.mp first
  exact fun nothing => something t head (Utf8.encode_inj (u := []) nothing)

theorem begins_place (spelled : r.Spelled) : r.absolute = true ∨ r.place ≠ [] := by
  simpa [place] using spelled.begins

theorem path_bytes (spelled : r.Spelled) :
    r.path.bytes = joined Path.slash r.absolute (r.place ++ List.replicate r.slashes []) := by
  rw [joined_append (begins_place spelled), ← encode_bare, ← encode_slashes]
  exact List.flatMap_append

theorem path_pieces (spelled : r.Spelled) (something : r.path.bytes ≠ []) :
    r.place ++ List.replicate r.slashes [] ≠ [] := by
  intro none
  rw [path_bytes spelled, none] at something
  cases absolute : r.absolute <;> rw [absolute] at something <;> exact absurd rfl something

theorem pieces_free (spelled : r.Spelled) : ∀ p ∈ r.place ++ List.replicate r.slashes [], Path.slash ∉ p := by
  intro p member
  rcases List.mem_append.mp member with name | slashes
  · exact place_free spelled p name
  · rw [(List.mem_replicate.mp slashes).2]
    exact List.not_mem_nil

theorem path_absolute (spelled : r.Spelled) (something : r.path.bytes ≠ []) : r.path.isAbsolute = r.absolute := by
  have first : r.absolute = true ∨
      ∀ n ∈ (r.place ++ List.replicate r.slashes []).head?, n ≠ [] ∧ Path.slash ∉ n := by
    rcases begins_place spelled with absolute | named
    · exact Or.inl absolute
    · refine (place_first spelled).imp_right fun first n head => first n ?_
      obtain ⟨_, _, split⟩ := List.exists_cons_of_ne_nil named
      rw [split] at head ⊢
      exact head
  rw [Path.isAbsolute, path_bytes spelled]
  exact joined_head r.absolute (path_pieces spelled something) first

theorem path_parts (spelled : r.Spelled) (something : r.path.bytes ≠ []) :
    r.path.parts = (if r.absolute then [[]] else []) ++ (r.place ++ List.replicate r.slashes []) := by
  rw [Path.parts, path_bytes spelled]
  exact split_joined r.absolute (path_pieces spelled something) (pieces_free spelled)

theorem path_begins (spelled : r.Spelled) {disk : Disk} {reached : Place}
    {onLink : Place → List Bytes → Except ReadFault Place}
    (arrives : Disk.descend disk.root false onLink (disk.start r.absolute)
      ((if r.absolute then [[]] else []) ++ (r.place ++ List.replicate r.slashes [])) = .ok reached) :
    ∃ base, disk.root.at? (disk.start r.absolute) = some (.folder base) ∧
      Disk.descend disk.root false onLink (disk.start r.absolute)
        (r.place ++ List.replicate r.slashes []) = .ok reached := by
  cases absolute : r.absolute with
  | true =>
      rw [absolute, if_pos rfl, List.singleton_append, Disk.descend.eq_def] at arrives
      exact ⟨disk.root, rfl, arrives⟩
  | false =>
      rw [absolute, if_neg Bool.false_ne_true, List.nil_append] at arrives
      rcases begins_place spelled with impossible | named
      · rw [absolute] at impossible
        contradiction
      · cases names : r.place with
        | nil => exact absurd names named
        | cons name more =>
            rw [names] at arrives
            obtain ⟨base, here⟩ := Disk.descend_folder arrives
            exact ⟨base, here, arrives⟩

theorem walked_fits (spelled : r.Spelled) (moves : (Path.top r.absolute).Moves r.place)
    (something : r.path.bytes ≠ []) (fits : r.path.Fits) : r.walked.Fits := by
  refine Nat.le_trans ?_ fits
  by_cases none : r.place = []
  · rw [walked, none, Path.along, List.foldl_nil, Path.length_top]
    exact List.length_pos_iff.mpr something
  · rw [path_bytes spelled, joined_append (begins_place spelled), List.length_append]
    exact Nat.le_trans (Path.length_top_along r.absolute none (place_free spelled) moves) (Nat.le_add_right _ _)

theorem walk_root (spelled : r.Spelled) {disk : Disk} (linkless : disk.root.Linkless) {entries : Entries}
    (moves : (Path.top r.absolute).Moves r.place) (opened : disk.entries? r.path = some entries) :
    (∃ reached, disk.locate false r.path = .ok reached ∧ disk.Leads r.walked reached (.folder entries)) ∧
      ∀ part more, Glob.walk disk false (r.names.map Glob.tokensOf ++ part :: more)
          (Glob.stopAt disk (Path.top r.absolute)) = Glob.walk disk false (part :: more) ⟨r.walked, true⟩ := by
  obtain ⟨reached, located, isFolder⟩ := Disk.entries_located opened
  obtain ⟨something, fits, arrives⟩ := Disk.locate_ok located
  rw [path_absolute spelled something, path_parts spelled something] at arrives
  obtain ⟨base, here, along⟩ := path_begins spelled arrives
  obtain ⟨middle, first, slashes⟩ := Disk.descend_ok_append linkless along
  obtain rfl := Disk.descend_slashes slashes
  obtain ⟨leads, onward⟩ := Glob.walk_parts linkless false (Disk.leads_top here) spelled.noSlash moves first isFolder
    (walked_fits spelled moves something fits)
  rw [Glob.stop_at_folder (Disk.leads_top here) (Path.top_fits r.absolute)]
  exact ⟨⟨reached, located, leads⟩, onward⟩

theorem walked_along_fits (spelled : r.Spelled) (moves : (Path.top r.absolute).Moves r.place) {names : Place}
    (free : ∀ n ∈ names, Path.slash ∉ n) (later : r.walked.Moves names) (something : names ≠ [])
    (fits : (r.below names).Fits) : (r.walked.along names).Fits := by
  refine Nat.le_trans ?_ fits
  have allFree : ∀ n ∈ r.place ++ names, Path.slash ∉ n := by
    intro n member
    rcases List.mem_append.mp member with left | right
    · exact place_free spelled n left
    · exact free n right
  rw [walked, ← Path.along_append, below, encode_bare, ← joined_append (begins_place spelled)]
  exact Path.length_top_along r.absolute (by simp [something]) allFree (Path.moves_append moves later)

theorem place_plain (sound : r.Sound) : ∀ n ∈ r.place, n.Plain := by
  intro n member
  obtain ⟨t, inside, rfl⟩ := List.mem_map.mp member
  exact plain_encode (sound.plain t inside)

theorem moves_place (sound : r.Sound) : (Path.top r.absolute).Moves r.place :=
  Path.moves_names (Path.top_some r.absolute) (place_plain sound)

theorem leads_plain (sound : r.Sound) {disk : Disk} (linkless : disk.root.Linkless) {entries : Entries}
    (opened : disk.entries? r.path = some entries) : ∃ reached, disk.Leads r.walked reached (.folder entries) := by
  obtain ⟨⟨reached, _, leads⟩, _⟩ := walk_root sound.spelled linkless (moves_place sound) opened
  exact ⟨reached, leads⟩

theorem below_walked (sound : r.Sound) {names : Place} (plain : ∀ n ∈ names, n.Plain) (something : names ≠ []) :
    r.below names = r.walked.along names := by
  have whole : ∀ n ∈ r.place ++ names, n.Plain := by
    intro n member
    rcases List.mem_append.mp member with left | right
    · exact place_plain sound n left
    · exact plain n right
  rw [below, walked, ← Path.along_append, encode_bare, ← joined_append (begins_place sound.spelled)]
  exact (Path.top_along r.absolute whole (by simp [something])).symm

end

end PolicyLookup.Root
