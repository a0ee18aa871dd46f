import PolicyLookup.Proofs.Lookup.Run
import PolicyLookup.Proofs.Path.Same
import PolicyLookup.Source.Memory

set_option autoImplicit false

namespace PolicyLookup.Memory

def Distinct (files : List (Path × Text)) : Prop := files.Pairwise fun a b => a.1.same b.1 = false

theorem insert_into_fresh {path : Path} {text : Text} {files : List (Path × Text)}
    (fresh : ∀ file ∈ files, file.1.same path = false) :
    insertInto path text files = files ++ [(path, text)] := by
  induction files with
  | nil => rfl
  | cons file files ih =>
      have other := fresh file List.mem_cons_self
      have rest := ih fun later member => fresh later (List.mem_cons_of_mem file member)
      simp [insertInto, other, rest]

theorem insert_all_files {files : List (Path × Text)} (m : Memory) (distinct : Distinct (m.files ++ files)) :
    (files.foldl (fun m file => m.insert file.1 file.2) m).files = m.files ++ files := by
  induction files generalizing m with
  | nil => simp
  | cons file files ih =>
      have fresh : ∀ old ∈ m.files, old.1.same file.1 = false := by
        intro old member
        exact (List.pairwise_append.mp distinct).2.2 old member file List.mem_cons_self
      have inserted : (m.insert file.1 file.2).files = m.files ++ [file] := insert_into_fresh fresh
      have rest : Distinct ((m.insert file.1 file.2).files ++ files) := by
        rw [inserted, List.append_assoc]
        exact distinct
      rw [List.foldl_cons, ih _ rest, inserted, List.append_assoc]
      rfl

theorem files_of_list {files : List (Path × Text)} (distinct : Distinct files) :
    (ofList files).files = files := by
  exact insert_all_files empty (by simpa [empty] using distinct)

theorem find_of_mem {m : Memory} (distinct : Distinct m.files) {path : Path} {text : Text}
    (member : (path, text) ∈ m.files) : m.find? path = some text := by
  obtain ⟨before, after, split⟩ := List.append_of_mem member
  have missing : before.find? (fun file => file.1.same path) = none := by
    rw [List.find?_eq_none]
    intro file earlier
    rw [split] at distinct
    have different := (List.pairwise_append.mp distinct).2.2 file earlier (path, text) List.mem_cons_self
    simpa using different
  have hit : path.same path = true := Path.same_refl path
  simp [find?, split, List.find?_append, missing, hit]

theorem run_candidates {session : Session Memory} (something : session.source.files ≠ []) :
    source.candidates.run session = (.ok session.source.paths, session) := by
  have result : candidates session.source = .ok session.source.paths := by
    rw [candidates, if_neg (by simpa using something)]
  change (candidates session.source, session) = _
  rw [result]

theorem insert_into_paths {path : Path} {text : Text} {files : List (Path × Text)} :
    ∀ file ∈ insertInto path text files, file.1 = path ∨ ∃ old ∈ files, file.1 = old.1 := by
  induction files with
  | nil =>
      intro file member
      exact Or.inl (congrArg Prod.fst (List.mem_singleton.mp member))
  | cons old files ih =>
      intro file member
      rw [insertInto] at member
      split at member
      · rcases List.mem_cons.mp member with rfl | later
        · exact Or.inr ⟨old, List.mem_cons_self, rfl⟩
        · exact Or.inr ⟨file, List.mem_cons_of_mem old later, rfl⟩
      · rcases List.mem_cons.mp member with rfl | later
        · exact Or.inr ⟨old, List.mem_cons_self, rfl⟩
        · rcases ih file later with fresh | ⟨other, inside, same⟩
          · exact Or.inl fresh
          · exact Or.inr ⟨other, List.mem_cons_of_mem old inside, same⟩

theorem distinct_insert {m : Memory} (distinct : Distinct m.files) (path : Path) (text : Text) :
    Distinct (m.insert path text).files := by
  obtain ⟨files⟩ := m
  change Distinct (insertInto path text files)
  induction files with
  | nil => exact List.pairwise_singleton _ _
  | cons old files ih =>
      obtain ⟨apart, rest⟩ := List.pairwise_cons.mp distinct
      rw [insertInto]
      by_cases same : old.1.same path = true
      · rw [if_pos same]
        exact List.pairwise_cons.mpr ⟨apart, rest⟩
      · rw [if_neg same]
        refine List.pairwise_cons.mpr ⟨?_, ih rest⟩
        intro file member
        rcases insert_into_paths file member with here | ⟨other, inside, here⟩
        · rw [here]
          exact Bool.eq_false_iff.mpr same
        · rw [here]
          exact apart other inside

theorem distinct_remove {m : Memory} (distinct : Distinct m.files) (path : Path) : Distinct (m.remove path).files :=
  List.Pairwise.filter _ distinct

inductive Filled : Memory → Prop
  | empty : Filled empty
  | insert (m : Memory) (path : Path) (text : Text) (filled : Filled m) : Filled (m.insert path text)
  | remove (m : Memory) (path : Path) (filled : Filled m) : Filled (m.remove path)

theorem Filled.distinct {m : Memory} (filled : Filled m) : Distinct m.files := by
  induction filled with
  | empty => exact .nil
  | insert m path text _ ih => exact distinct_insert ih path text
  | remove m path _ ih => exact distinct_remove ih path

theorem find_insert (m : Memory) (path : Path) (text : Text) (other : Path) :
    (m.insert path text).find? other = if path.same other then some text else m.find? other := by
  obtain ⟨files⟩ := m
  simp only [find?, insert]
  induction files with
  | nil => cases hit : path.same other <;> simp [insertInto, hit]
  | cons file files ih =>
      obtain ⟨old, content⟩ := file
      by_cases here : old.same path = true
      · rw [insertInto, if_pos here]
        have alike := Path.same_congr here other
        cases hit : path.same other <;> simp [alike, hit]
      · rw [insertInto, if_neg here]
        cases hit : old.same other with
        | true =>
            have apart : ¬ path.same other = true := by
              intro alike
              rw [Path.same_symm] at alike
              exact here (Path.same_trans _ _ _ hit alike)
            simp [hit, apart]
        | false =>
            simp only [List.find?_cons, hit]
            exact ih

theorem find_remove (m : Memory) (path other : Path) :
    (m.remove path).find? other = if path.same other then none else m.find? other := by
  obtain ⟨files⟩ := m
  simp only [find?, remove]
  induction files with
  | nil => simp
  | cons file files ih =>
      cases here : file.1.same path with
      | true =>
          rw [List.filter_cons_of_neg (by simp [here]), ih]
          have alike := Path.same_congr here other
          cases hit : path.same other <;> simp [alike, hit]
      | false =>
          rw [List.filter_cons_of_pos (by simp [here])]
          cases hit : file.1.same other with
          | true =>
              have apart : ¬ path.same other = true := by
                intro alike
                rw [Path.same_symm] at alike
                rw [Path.same_trans _ _ _ hit alike] at here
                contradiction
              simp [hit, apart]
          | false =>
              simp only [List.find?_cons, hit]
              exact ih

theorem find_none_iff {m : Memory} {path : Path} :
    m.find? path = none ↔ ∀ old ∈ m.paths, old.same path = false := by
  simp [find?, paths]

theorem paths_some {m : Memory} {path : Path} {text : Text} (there : m.find? path = some text) : m.paths ≠ [] := by
  intro nothing
  have missing : m.find? path = none := find_none_iff.mpr (by simp [nothing])
  rw [missing] at there
  contradiction

theorem paths_insert (m : Memory) (path : Path) (text : Text) :
    (m.insert path text).paths = if (m.find? path).isSome then m.paths else m.paths ++ [path] := by
  obtain ⟨files⟩ := m
  change (insertInto path text files).map Prod.fst =
    if ((files.find? fun file => file.1.same path).map Prod.snd).isSome then files.map Prod.fst
    else files.map Prod.fst ++ [path]
  induction files with
  | nil => rfl
  | cons file files ih =>
      obtain ⟨old, content⟩ := file
      cases here : old.same path with
      | true => simp [insertInto, here]
      | false =>
          simp only [insertInto, here, List.find?_cons, List.map_cons, Bool.false_eq_true, if_false]
          rw [ih, apply_ite (List.cons old)]
          rfl

theorem paths_remove (m : Memory) (path : Path) : (m.remove path).paths = m.paths.filter fun old => !old.same path := by
  simp [paths, remove, List.filter_map, Function.comp_def]

end PolicyLookup.Memory
