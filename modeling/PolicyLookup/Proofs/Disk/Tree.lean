import PolicyLookup.Proofs.Path.Along

set_option autoImplicit false

namespace PolicyLookup

mutual
inductive Node.Linkless : Node → Prop
  | file (content : Bytes) : Node.Linkless (.file content)
  | folder (entries : Entries) (linkless : Entries.Linkless entries) : Node.Linkless (.folder entries)

inductive Entries.Linkless : Entries → Prop
  | nil : Entries.Linkless .nil
  | cons (name : Name) (node : Node) (rest : Entries) (proper : name.Proper)
      (inner : Node.Linkless node) (fresh : rest.find? name = none) (linkless : Entries.Linkless rest) :
      Entries.Linkless (.cons name node rest)
end

namespace Entries

theorem find_linkless {entries : Entries} {name : Name} {node : Node} (linkless : entries.Linkless)
    (found : entries.find? name = some node) : name.Proper ∧ node.Linkless := by
  cases linkless with
  | nil => contradiction
  | cons other inner rest proper innerLinkless _ more =>
      by_cases same : other = name
      · rw [find?, if_pos same] at found
        obtain rfl := Option.some.inj found
        exact ⟨same ▸ proper, innerLinkless⟩
      · rw [find?, if_neg same] at found
        exact find_linkless more found

theorem find_mem {entries : Entries} {name : Name} {node : Node} (found : entries.find? name = some node) :
    (name, node) ∈ entries.toList :=
  match entries with
  | .nil => by contradiction
  | .cons other inner rest => by
      by_cases same : other = name
      · rw [find?, if_pos same] at found
        obtain rfl := Option.some.inj found
        rw [toList, same]
        exact List.mem_cons_self
      · rw [find?, if_neg same] at found
        exact List.mem_cons_of_mem _ (find_mem found)

theorem at_cons_folder {entries inner : Entries} {name : Name} (found : entries.find? name = some (.folder inner))
    (more : Place) : entries.at? (name :: more) = inner.at? more := by
  rw [at?, found]

theorem at_cons {entries : Entries} {name : Name} {more : Place} {node : Node}
    (there : entries.at? (name :: more) = some node) :
    (∃ inner, entries.find? name = some (.folder inner) ∧ inner.at? more = some node) ∨
      (entries.find? name = some node ∧ more = []) := by
  cases found : entries.find? name with
  | none =>
      rw [at?, found] at there
      contradiction
  | some child =>
      cases child with
      | folder inner =>
          rw [at_cons_folder found] at there
          exact Or.inl ⟨inner, rfl, there⟩
      | file content | link target =>
          rw [at?, found] at there
          cases more with
          | nil => exact Or.inr ⟨there, rfl⟩
          | cons next more => contradiction

theorem at_single (entries : Entries) (name : Name) : entries.at? [name] = entries.find? name := by
  rw [at?]
  cases entries.find? name with
  | none => rfl
  | some node => cases node <;> rfl

theorem at_below {entries inner : Entries} {place : Place} (there : entries.at? place = some (.folder inner))
    (more : Place) : entries.at? (place ++ more) = inner.at? more := by
  induction place generalizing entries with
  | nil =>
      obtain rfl := Node.folder.inj (Option.some.inj there)
      rfl
  | cons name place ih =>
      rcases at_cons there with ⟨child, found, later⟩ | ⟨found, rfl⟩
      · rw [List.cons_append, at_cons_folder found, ih later]
      · rw [List.singleton_append, at_cons_folder found]

theorem at_above {entries : Entries} {place more : Place} {node : Node} (something : more ≠ [])
    (there : entries.at? (place ++ more) = some node) :
    ∃ inner, entries.at? place = some (.folder inner) ∧ inner.at? more = some node := by
  induction place generalizing entries with
  | nil => exact ⟨entries, rfl, there⟩
  | cons name place ih =>
      rcases at_cons there with ⟨child, found, later⟩ | ⟨_, none⟩
      · obtain ⟨inner, here, below⟩ := ih later
        exact ⟨inner, (at_cons_folder found place).trans here, below⟩
      · exact absurd (List.append_eq_nil_iff.mp none).2 something

theorem at_linkless {entries : Entries} {place : Place} {node : Node} (linkless : entries.Linkless)
    (there : entries.at? place = some node) : node.Linkless ∧ ∀ n ∈ place, n.Proper := by
  induction place generalizing entries with
  | nil =>
      obtain rfl := Option.some.inj there
      exact ⟨.folder entries linkless, by simp⟩
  | cons name place ih =>
      rcases at_cons there with ⟨child, found, later⟩ | ⟨found, rfl⟩
      · obtain ⟨proper, inner⟩ := find_linkless linkless found
        cases inner with
        | folder _ inside =>
            obtain ⟨here, below⟩ := ih inside later
            exact ⟨here, List.forall_mem_cons.mpr ⟨proper, below⟩⟩
      · obtain ⟨proper, inner⟩ := find_linkless linkless found
        exact ⟨inner, List.forall_mem_cons.mpr ⟨proper, by simp⟩⟩

end Entries

namespace Disk

section

variable {root : Entries} {keepLast : Bool} {onLink : Place → List Bytes → Except ReadFault Place}

theorem child_linkless (linkless : root.Linkless) {place : Place} {inner : Entries} {name : Name} {node : Node}
    (here : root.at? place = some (.folder inner)) (found : inner.find? name = some node) :
    name.Proper ∧ node.Linkless := by
  obtain ⟨hereLinkless, _⟩ := Entries.at_linkless linkless here
  cases hereLinkless with
  | folder _ innerLinkless => exact Entries.find_linkless innerLinkless found

theorem descend_real {place : Place} {inner : Entries} {name : Name} {node : Node}
    (here : root.at? place = some (.folder inner)) (found : inner.find? name = some node) (proper : name.Proper)
    (real : ∀ target, node ≠ .link target) (rest : List Bytes) :
    descend root keepLast onLink place (name :: rest) = descend root keepLast onLink (place ++ [name]) rest := by
  have plainPart : ¬ (name = [] ∨ name = Name.here) := not_or.mpr ⟨proper.something, proper.notHere⟩
  have fits : ¬ longestName < name.length := Nat.not_lt.mpr proper.short
  rw [descend.eq_def]
  simp only [here, if_neg plainPart, if_neg proper.notUp, if_neg fits, found]

theorem descend_name (linkless : root.Linkless) {place : Place} {inner : Entries} {name : Name} {node : Node}
    (here : root.at? place = some (.folder inner)) (found : inner.find? name = some node)
    (rest : List Bytes) :
    descend root keepLast onLink place (name :: rest) = descend root keepLast onLink (place ++ [name]) rest := by
  obtain ⟨proper, child⟩ := child_linkless linkless here found
  have real : ∀ target, node ≠ .link target := by
    rintro target rfl
    cases child
  exact descend_real here found proper real rest

theorem descend_folder {place reached : Place} {part : Bytes} {rest : List Bytes}
    (arrives : descend root keepLast onLink place (part :: rest) = .ok reached) :
    ∃ inner, root.at? place = some (.folder inner) := by
  rw [descend.eq_def] at arrives
  dsimp only at arrives
  split at arrives
  · exact ⟨_, by assumption⟩
  · contradiction

theorem descend_part (linkless : root.Linkless) {place reached : Place} {part : Bytes} {inner : Entries}
    (here : root.at? place = some (.folder inner))
    (arrives : descend root keepLast onLink place [part] = .ok reached) :
    ((part = [] ∨ part = Name.here) ∧ reached = place) ∨ (part = Name.up ∧ reached = place.dropLast) ∨
      ∃ node, inner.find? part = some node ∧ reached = place ++ [part] := by
  by_cases stays : part = [] ∨ part = Name.here
  · rw [descend.eq_def] at arrives
    simp only [here, if_pos stays] at arrives
    exact Or.inl ⟨stays, (Except.ok.inj arrives).symm⟩
  · by_cases up : part = Name.up
    · rw [descend.eq_def] at arrives
      simp only [here, if_neg stays, if_pos up] at arrives
      exact Or.inr (Or.inl ⟨up, (Except.ok.inj arrives).symm⟩)
    · cases found : inner.find? part with
      | none =>
          rw [descend.eq_def] at arrives
          simp only [here, if_neg stays, if_neg up, found] at arrives
          split at arrives <;> contradiction
      | some node =>
          rw [descend_name linkless here found] at arrives
          exact Or.inr (Or.inr ⟨node, rfl, (Except.ok.inj arrives).symm⟩)

-- No link takes over, so the rest of a path goes on from where its first parts lead.
theorem descend_append (linkless : root.Linkless) (place : Place) (parts rest : List Bytes) :
    descend root keepLast onLink place (parts ++ rest) =
      (descend root keepLast onLink place parts >>= fun reached => descend root keepLast onLink reached rest) := by
  induction parts generalizing place with
  | nil => rfl
  | cons part parts ih =>
      rw [List.cons_append, descend.eq_def, descend.eq_def root keepLast onLink place (part :: parts)]
      dsimp only
      split
      · rename_i inner here
        by_cases stays : part = [] ∨ part = Name.here
        · simp only [if_pos stays, ih]
        · by_cases up : part = Name.up
          · simp only [if_neg stays, if_pos up, ih]
          · by_cases long : longestName < part.length
            · simp only [if_neg stays, if_neg up, if_pos long]
              rfl
            · simp only [if_neg stays, if_neg up, if_neg long]
              cases found : inner.find? part with
              | none => rfl
              | some node =>
                  obtain ⟨_, child⟩ := child_linkless linkless here found
                  cases child with
                  | file content => exact ih (place ++ [part])
                  | folder entries inside => exact ih (place ++ [part])
      · rfl

theorem descend_ok_append (linkless : root.Linkless) {place reached : Place} {parts rest : List Bytes}
    (arrives : descend root keepLast onLink place (parts ++ rest) = .ok reached) :
    ∃ middle, descend root keepLast onLink place parts = .ok middle ∧
      descend root keepLast onLink middle rest = .ok reached := by
  rw [descend_append linkless] at arrives
  cases first : descend root keepLast onLink place parts with
  | error fault =>
      rw [first] at arrives
      contradiction
  | ok middle =>
      rw [first] at arrives
      exact ⟨middle, rfl, arrives⟩

theorem descend_slashes {place reached : Place} {slashes : Nat}
    (arrives : descend root keepLast onLink place (List.replicate slashes []) = .ok reached) :
    reached = place := by
  induction slashes with
  | zero => exact (Except.ok.inj arrives).symm
  | succ slashes ih =>
      obtain ⟨inner, here⟩ := descend_folder arrives
      rw [List.replicate_succ, descend.eq_def] at arrives
      simp only [here, true_or, if_true] at arrives
      exact ih arrives

end

end Disk

end PolicyLookup
