import PolicyLookup.Proofs.Glob.Escaped
import PolicyLookup.Proofs.Glob.Listing
import PolicyLookup.Proofs.Text.Utf8

set_option autoImplicit false

namespace PolicyLookup.Glob

theorem matches_entry_name (t : Text) (entry : Entry) :
    matchesEntry (tokensOf t) entry = true ↔ entry.name = Utf8.encode t := by
  rw [matchesEntry]
  cases read : Utf8.decode? entry.name with
  | none =>
      constructor
      · intro impossible
        contradiction
      · intro same
        rw [same, Utf8.decode_encode] at read
        contradiction
  | some name =>
      rw [matches_tokens, ← Utf8.decode_iff, read, Option.some_inj]

theorem matches_entry_run (t : Text) (entry : Entry) :
    matchesEntry (.run :: tokensOf t) entry = true ↔
      ∃ name, Utf8.decode? entry.name = some name ∧ t <:+ name := by
  rw [matchesEntry]
  cases read : Utf8.decode? entry.name with
  | none => simp
  | some name =>
      rw [matches_run]
      simp

theorem not_folders (t : Text) : isFolders (tokensOf t) = false := by
  rw [isFolders, beq_eq_false_iff_ne]
  exact tokens_ne_folders t

theorem arrive_walk (disk : Disk) (foldersOnly : Bool) {parts : List (List Token)} (something : parts ≠ [])
    (stop : Stop) : arrive disk foldersOnly parts stop = walk disk foldersOnly parts stop := by
  cases parts with
  | nil => contradiction
  | cons part more => rw [arrive]

theorem filter_single {names : List Name} {name : Name} (distinct : names.Nodup) (member : name ∈ names) :
    names.filter (· == name) = [name] := by
  rw [List.filter_beq, distinct.count, if_pos member]
  rfl

theorem dot_entries_name {t : Text} (notHere : t ≠ ['.']) (notUp : t ≠ ['.', '.']) :
    dotEntries (tokensOf t) = [] := by
  have up : matchesName (tokensOf t) ['.', '.'] = false := by
    rw [← Bool.not_eq_true, matches_tokens]
    exact Ne.symm notUp
  have here : matchesName (tokensOf t) ['.'] = false := by
    rw [← Bool.not_eq_true, matches_tokens]
    exact Ne.symm notHere
  rw [dotEntries]
  split
  · simp [up, here]
  · rfl

section

variable {disk : Disk} {path : Path} {place : Place} {inner : Entries}

theorem leads_to_node {next : Path} {reached : Place} {node : Node} (leads : disk.Leads next reached node)
    (fits : next.Fits) (path : Path) (t : Text) : leadsTo disk ⟨path, true⟩ next t = true := by
  have isThere : disk.exists? next = true := by
    rw [Disk.exists?, leads.node_of fits]
    rfl
  rw [leadsTo, isThere, Bool.true_or, ite_self]

theorem children_named (linkless : disk.root.Linkless) (leads : disk.Leads path place (.folder inner))
    (fits : path.Fits) {t : Text} {node : Node} (isThere : inner.find? (Utf8.encode t) = some node) :
    (children disk ⟨path, true⟩).filter (matchesEntry (tokensOf t)) = [entryOf disk path (Utf8.encode t) node] := by
  obtain ⟨hereLinkless, _⟩ := Entries.at_linkless linkless leads.there
  cases hereLinkless with
  | folder _ innerLinkless =>
      have distinct : inner.sorted.Nodup :=
        (List.mergeSort_perm _ _).nodup_iff.mpr (Entries.names_nodup innerLinkless)
      have member : Utf8.encode t ∈ inner.sorted := (Entries.mem_sorted inner _).mpr ⟨node, isThere⟩
      have same (name : Name) :
          ((inner.find? name).map (entryOf disk path name)).filter (matchesEntry (tokensOf t)) =
            if name == Utf8.encode t then (inner.find? name).map (entryOf disk path name) else none := by
        cases inner.find? name with
        | none => exact (ite_self none).symm
        | some child =>
            have matched : matchesEntry (tokensOf t) (entryOf disk path name child) = (name == Utf8.encode t) := by
              rw [Bool.eq_iff_iff, matches_entry_name, beq_iff_eq]
              rfl
            rw [Option.map_some, Option.filter_some, matched]
      rw [children_of_folder leads fits, List.filter_filterMap, List.filterMap_congr fun name _ => same name,
        ← List.filterMap_filter, filter_single distinct member, List.filterMap_cons, isThere]
      rfl

-- A part without wildcards is put behind the folder as it is, any other is looked for among the
-- entries. An escaped text comes to the same place on both ways.
theorem walk_part (linkless : disk.root.Linkless) (foldersOnly : Bool)
    (leads : disk.Leads path place (.folder inner)) (fits : path.Fits) {t : Text} {next : Place} {deeper : Entries}
    {onLink : Place → List Bytes → Except ReadFault Place}
    (arrives : Disk.descend disk.root false onLink place [Utf8.encode t] = .ok next)
    (leadsOn : disk.Leads (entryPath path (Utf8.encode t)) next (.folder deeper))
    (fitsOn : (entryPath path (Utf8.encode t)).Fits) (more : List (List Token)) :
    walk disk foldersOnly (tokensOf t :: more) ⟨path, true⟩ =
      arrive disk foldersOnly more ⟨entryPath path (Utf8.encode t), true⟩ := by
  rw [walk.eq_def]
  dsimp only
  cases isPlain : plain? (tokensOf t) with
  | some text =>
      obtain rfl := plain_tokens isPlain
      simp only [leads_to_node leadsOn fitsOn path text, stop_at_folder leadsOn fitsOn, if_true]
  | none =>
      have notPlain {text : Text} (plain : plain? (tokensOf text) ≠ none) : t ≠ text := by
        rintro rfl
        exact plain isPlain
      have notHere : t ≠ ['.'] := notPlain (by decide)
      have notUp : t ≠ ['.', '.'] := notPlain (by decide)
      rcases Disk.descend_part linkless leads.there arrives with ⟨nothing | dot, _⟩ | ⟨dots, _⟩ | ⟨node, isThere, rfl⟩
      · exact absurd (Utf8.encode_inj (u := []) nothing) (notPlain (by decide))
      · exact absurd (Utf8.encode_inj (u := ['.']) dot) notHere
      · exact absurd (Utf8.encode_inj (u := ['.', '.']) dots) notUp
      · have below := leadsOn.there
        rw [Entries.at_below leads.there, Entries.at_single, isThere] at below
        obtain rfl := Option.some.inj below
        have named := children_named linkless leads fits isThere
        simp only [not_folders, entries_ok leads fits, dot_entries_name notHere notUp, named, List.flatMap_nil,
          List.nil_append, List.flatMap_singleton, Bool.false_eq_true, if_false, if_true]
        rfl

theorem parts_free {texts : List Text} (free : ∀ t ∈ texts, '/' ∉ t) :
    ∀ part ∈ texts.map Utf8.encode, Path.slash ∉ part := by
  intro part member
  obtain ⟨t, inside, rfl⟩ := List.mem_map.mp member
  exact fun slash => free t inside (Utf8.slash_in_encode slash)

-- By induction on the parts: each leads from a folder to a folder, and the walk goes with it.
theorem walk_parts (linkless : disk.root.Linkless) (foldersOnly : Bool)
    (leads : disk.Leads path place (.folder inner)) {texts : List Text} {reached : Place} {entries : Entries}
    (free : ∀ t ∈ texts, '/' ∉ t) (moves : path.Moves (texts.map Utf8.encode))
    (arrives : Disk.descend disk.root false (Disk.follow disk.root false (Disk.linkAllowance - 1)) place
      (texts.map Utf8.encode) = .ok reached)
    (opened : disk.root.at? reached = some (.folder entries)) (fits : (path.along (texts.map Utf8.encode)).Fits) :
    disk.Leads (path.along (texts.map Utf8.encode)) reached (.folder entries) ∧
      ∀ part more, walk disk foldersOnly (texts.map tokensOf ++ part :: more) ⟨path, true⟩ =
        walk disk foldersOnly (part :: more) ⟨path.along (texts.map Utf8.encode), true⟩ := by
  induction texts generalizing path place inner with
  | nil =>
      obtain rfl := Except.ok.inj arrives
      exact ⟨⟨opened, leads.located⟩, fun _ _ => rfl⟩
  | cons t texts ih =>
      rw [List.forall_mem_cons] at free
      have noSlash : Path.slash ∉ Utf8.encode t := fun slash => free.1 (Utf8.slash_in_encode slash)
      obtain ⟨next, deeper, leadsOn, first, later⟩ := leads.part linkless moves.1 noSlash arrives opened
      have fitsOn : (entryPath path (Utf8.encode t)).Fits :=
        Nat.le_trans (Path.length_along leadsOn.something (parts_free free.2) moves.2) fits
      have fitsHere : path.Fits := Nat.le_trans (Path.length_entry leads.something noSlash moves.1) fitsOn
      obtain ⟨arrived, onward⟩ := ih leadsOn free.2 moves.2 later fits
      refine ⟨arrived, fun part more => ?_⟩
      rw [List.map_cons, List.cons_append, walk_part linkless foldersOnly leads fitsHere first leadsOn fitsOn,
        arrive_walk disk foldersOnly (by simp)]
      exact onward part more

theorem walk_below (disk : Disk) (stop : Stop) (t : Text) :
    found (walk disk false [[.folders], .run :: tokensOf t] stop) =
      ((listed disk Disk.longestPath stop).filter (matchesEntry (.run :: tokensOf t))).map fun entry => entry.path := by
  rw [walk]
  simp only [plain?, isFolders]
  change found (fromEach _ (descendants disk Disk.longestPath stop)) = _
  rw [found_from_each, ← listed]
  induction listed disk Disk.longestPath stop with
  | nil => rfl
  | cons entry entries ih =>
      rw [List.flatMap_cons, ih]
      cases matched : matchesEntry (.run :: tokensOf t) entry with
      | true =>
          have ends : arrive disk false [] entry.toStop = [.ok entry.path] := by
            rw [arrive, Bool.false_and, if_neg Bool.false_ne_true]
          rw [List.filter_cons_of_pos matched, if_pos rfl, ends]
          rfl
      | false =>
          rw [List.filter_cons_of_neg (by simp [matched])]
          rfl

end

end PolicyLookup.Glob
