import PolicyLookup.Proofs.Disk.Leads

set_option autoImplicit false

namespace PolicyLookup

mutual
inductive Node.Named : Node → Prop
  | file (content : Bytes) : Node.Named (.file content)
  | link (target : Path) : Node.Named (.link target)
  | folder (entries : Entries) (named : Entries.Named entries) : Node.Named (.folder entries)

inductive Entries.Named : Entries → Prop
  | nil : Entries.Named .nil
  | cons (name : Name) (node : Node) (rest : Entries) (proper : name.Proper) (inner : Node.Named node)
      (named : Entries.Named rest) : Entries.Named (.cons name node rest)
end

namespace Entries

theorem find_named {entries : Entries} {name : Name} {node : Node} (named : entries.Named)
    (found : entries.find? name = some node) : name.Proper ∧ node.Named := by
  cases named with
  | nil => contradiction
  | cons other inner rest proper innerNamed more =>
      by_cases same : other = name
      · rw [find?, if_pos same] at found
        obtain rfl := Option.some.inj found
        exact ⟨same ▸ proper, innerNamed⟩
      · rw [find?, if_neg same] at found
        exact find_named more found

theorem at_named {entries : Entries} {place : Place} {node : Node} (named : entries.Named)
    (there : entries.at? place = some node) : ∀ n ∈ place, n.Proper := by
  induction place generalizing entries with
  | nil => simp
  | cons name place ih =>
      rcases at_cons there with ⟨child, found, later⟩ | ⟨found, rfl⟩
      · obtain ⟨proper, inner⟩ := find_named named found
        cases inner with
        | folder _ inside => exact List.forall_mem_cons.mpr ⟨proper, ih inside later⟩
      · exact List.forall_mem_cons.mpr ⟨(find_named named found).1, by simp⟩

end Entries

theorem Path.of_names_fits {names more : Place} (plain : ∀ n ∈ names ++ more, n.Plain)
    (fits : (Path.ofNames (names ++ more)).Fits) : (Path.ofNames names).Fits := by
  rw [Path.of_names_append plain] at fits
  have below : ∀ n ∈ more, n.Plain := fun n member => plain n (List.mem_append_right _ member)
  exact Nat.le_trans (Path.length_names (Path.of_names_some names) below) fits

namespace Disk

section

variable {root : Entries} {keepLast : Bool} {onLink : Place → List Bytes → Except ReadFault Place}

-- By induction on the names: each is an entry of a folder, and none but the last may be anything else.
theorem descend_names (named : root.Named) {place names : Place} {node : Node}
    (there : root.at? (place ++ names) = some node) (real : ∀ target, node ≠ .link target) :
    descend root keepLast onLink place names = .ok (place ++ names) := by
  induction names generalizing place with
  | nil => rw [descend, List.append_nil]
  | cons name names ih =>
      have proper : name.Proper := Entries.at_named named there name (by simp)
      obtain ⟨inner, here, below⟩ := Entries.at_above (List.cons_ne_nil name names) there
      have onward := there
      rw [List.append_cons] at onward ⊢
      rcases Entries.at_cons below with ⟨deeper, found, _⟩ | ⟨found, _⟩
      · rw [descend_real here found proper fun _ => Node.noConfusion, ih onward]
      · rw [descend_real here found proper real, ih onward]

end

variable {disk : Disk} {place : Place} {node : Node}

theorem place_plain (named : disk.root.Named) (there : disk.root.at? place = some node) : ∀ n ∈ place, n.Plain :=
  fun n member => (Entries.at_named named there n member).toPlain

theorem leads_real (named : disk.root.Named) (there : disk.root.at? place = some node)
    (real : ∀ target, node ≠ .link target) : disk.Leads (Path.ofNames place) place node := by
  cases place with
  | nil =>
      obtain rfl := Option.some.inj there
      exact @leads_top disk true _ there
  | cons name more =>
      refine ⟨there, fun fits => ?_⟩
      have plain := place_plain named there
      have noZero : 0 ∉ (Path.ofNames (name :: more)).bytes := by
        intro zero
        obtain ⟨n, member, inside⟩ := List.mem_flatMap.mp zero
        rcases List.mem_cons.mp inside with same | inName
        · exact absurd same (by decide)
        · exact (Entries.at_named named there n member).noZero inName
      have along : descend disk.root false (follow disk.root false (linkAllowance - 1)) [] (name :: more) =
          .ok (name :: more) := descend_names named there real
      rw [locate_eq noZero (Path.of_names_some _) fits, Path.of_names_parts plain (List.cons_ne_nil name more)]
      change descend disk.root false _ [] ([] :: name :: more) = _
      rw [descend.eq_def]
      simp only [Entries.at?, true_or, if_true]
      exact along

end Disk

end PolicyLookup
