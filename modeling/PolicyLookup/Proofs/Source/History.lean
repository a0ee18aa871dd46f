import Mathlib.Data.List.Induction
import PolicyLookup.Proofs.Source.Stored

set_option autoImplicit false

namespace PolicyLookup.Memory

inductive Change where
  | insert (path : Path) (text : Text)
  | remove (path : Path)

namespace Change

def path : Change → Path
  | .insert path _ => path
  | .remove path => path

def apply (m : Memory) : Change → Memory
  | .insert path text => m.insert path text
  | .remove path => m.remove path

end Change

def after (changes : List Change) : Memory := changes.foldl Change.apply empty

def Latest (changes : List Change) (path : Path) (text : Text) : Prop :=
  ∃ before spelling later, changes = before ++ .insert spelling text :: later ∧ spelling.same path = true ∧
    ∀ change ∈ later, change.path.same path = false

-- The insertion at index `i` made the path: there was none before it, and the path was not removed since.
def Made (changes : List Change) (i : Nat) (path : Path) : Prop :=
  ∃ before text later, changes = before ++ .insert path text :: later ∧ before.length = i ∧
    (∀ old, ¬ Latest before path old) ∧ ∀ removed, .remove removed ∈ later → removed.same path = false

def Listed (changes : List Change) (paths : List Path) : Prop :=
  ∃ makers : List (Nat × Path), makers.Pairwise (fun a b => a.1 < b.1) ∧
    (∀ i path, (i, path) ∈ makers ↔ Made changes i path) ∧ paths = makers.map Prod.snd

structure Records (changes : List Change) (m : Memory) : Prop where
  distinct : m.paths.Pairwise fun p q => p.same q = false
  listed : Listed changes m.paths
  candidates : ∀ path text, Latest changes path text →
    m.paths ≠ [] ∧ source.candidates.start m = (.ok m.paths, ⟨m, []⟩)
  noCandidates : (∀ path text, ¬ Latest changes path text) →
    source.candidates.start m = (.error (.noCandidates root "if".toList "spt".toList), ⟨m, []⟩)
  read : ∀ path text, Latest changes path text → (source.read path).start m = (.ok (Text.lines text), ⟨m, []⟩)
  unread : ∀ path, (∀ text, ¬ Latest changes path text) →
    (source.read path).start m = (.error (.read path .absent), ⟨m, []⟩)
  replaced : ∀ path text old, Latest changes path old → (m.insert path text).paths = m.paths
  removed : ∀ path, (m.remove path).paths = m.paths.filter fun old => !old.same path
  again : ∀ path text, ((m.remove path).insert path text).paths = (m.remove path).paths ++ [path]

section

variable {changes : List Change} {change : Change} {path : Path} {text : Text} {paths : List Path}

theorem after_append (changes : List Change) (change : Change) :
    after (changes ++ [change]) = change.apply (after changes) :=
  List.foldl_append

theorem filled_after (changes : List Change) : (after changes).Filled := by
  induction changes using List.reverseRecOn with
  | nil => exact .empty
  | append_singleton changes change ih =>
      rw [after_append]
      cases change with
      | insert path text => exact .insert _ path text ih
      | remove path => exact .remove _ path ih

theorem split_append {before later : List Change} {one : Change}
    (split : changes ++ [change] = before ++ one :: later) :
    (before = changes ∧ one = change ∧ later = []) ∨
      ∃ start, later = start ++ [change] ∧ changes = before ++ one :: start := by
  rcases List.eq_nil_or_concat later with rfl | ⟨start, last, rfl⟩
  · obtain ⟨rfl, only⟩ := List.append_inj' split rfl
    exact Or.inl ⟨rfl, (List.singleton_inj.mp only).symm, rfl⟩
  · rw [List.concat_eq_append, ← List.cons_append, ← List.append_assoc] at split
    obtain ⟨rfl, only⟩ := List.append_inj' split rfl
    rw [List.singleton_inj.mp only, List.concat_eq_append]
    exact Or.inr ⟨start, rfl, rfl⟩

theorem latest_append : Latest (changes ++ [change]) path text ↔
    (∃ spelling, change = .insert spelling text ∧ spelling.same path = true) ∨
      (change.path.same path = false ∧ Latest changes path text) := by
  constructor
  · rintro ⟨before, spelling, later, split, hit, untouched⟩
    rcases split_append split with ⟨_, added, _⟩ | ⟨start, rfl, rfl⟩
    · exact Or.inl ⟨spelling, added.symm, hit⟩
    · refine Or.inr ⟨untouched change (by simp), before, spelling, start, rfl, hit, ?_⟩
      intro other member
      exact untouched other (List.mem_append_left _ member)
  · rintro (⟨spelling, rfl, hit⟩ | ⟨apart, before, spelling, later, rfl, hit, untouched⟩)
    · exact ⟨changes, spelling, [], rfl, hit, by simp⟩
    · refine ⟨before, spelling, later ++ [change], by simp, hit, ?_⟩
      intro other member
      rcases List.mem_append.mp member with earlier | last
      · exact untouched other earlier
      · rw [List.mem_singleton.mp last]
        exact apart

theorem find_after (changes : List Change) (path : Path) (text : Text) :
    (after changes).find? path = some text ↔ Latest changes path text := by
  induction changes using List.reverseRecOn with
  | nil =>
      constructor
      · intro impossible
        contradiction
      · rintro ⟨before, spelling, later, split, _⟩
        simp at split
  | append_singleton changes change ih =>
      rw [after_append, latest_append, ← ih]
      cases change with
      | insert spelling new =>
          rw [Change.apply, find_insert]
          cases hit : spelling.same path <;> simp [Change.path, hit]
      | remove spelling =>
          rw [Change.apply, find_remove]
          cases hit : spelling.same path <;> simp [Change.path, hit]

theorem find_after_none : (after changes).find? path = none ↔ ∀ text, ¬ Latest changes path text := by
  simp only [← find_after, Option.eq_none_iff_forall_ne_some, ne_eq]

theorem made_append {i : Nat} : Made (changes ++ [change]) i path ↔
    (Made changes i path ∧ ∀ removed, change = .remove removed → removed.same path = false) ∨
      (i = changes.length ∧ (∃ text, change = .insert path text) ∧ ∀ old, ¬ Latest changes path old) := by
  constructor
  · rintro ⟨before, text, later, split, rfl, fresh, kept⟩
    rcases split_append split with ⟨rfl, added, _⟩ | ⟨start, rfl, rfl⟩
    · exact Or.inr ⟨rfl, ⟨text, added.symm⟩, fresh⟩
    · refine Or.inl ⟨⟨before, text, start, rfl, rfl, fresh, ?_⟩, ?_⟩
      · intro removed member
        exact kept removed (List.mem_append_left _ member)
      · rintro removed rfl
        exact kept removed (by simp)
  · rintro (⟨⟨before, text, later, rfl, rfl, fresh, kept⟩, last⟩ | ⟨rfl, ⟨text, rfl⟩, fresh⟩)
    · refine ⟨before, text, later ++ [change], by simp, rfl, fresh, ?_⟩
      intro removed member
      rcases List.mem_append.mp member with earlier | here
      · exact kept removed earlier
      · exact last removed (List.mem_singleton.mp here).symm
    · exact ⟨changes, text, [], rfl, rfl, fresh, by simp⟩

theorem made_before {i : Nat} (made : Made changes i path) : i < changes.length := by
  obtain ⟨before, text, later, rfl, rfl, _⟩ := made
  simp

theorem listed_replaced {old : Text} (listed : Listed changes paths) (there : Latest changes path old) (text : Text) :
    Listed (changes ++ [.insert path text]) paths := by
  obtain ⟨makers, ordered, members, rfl⟩ := listed
  refine ⟨makers, ordered, ?_, rfl⟩
  intro i other
  rw [members, made_append]
  constructor
  · intro made
    exact Or.inl ⟨made, by simp⟩
  · rintro (⟨made, _⟩ | ⟨_, ⟨_, same⟩, fresh⟩)
    · exact made
    · obtain ⟨rfl, _⟩ := Change.insert.inj same
      exact absurd there (fresh old)

theorem listed_inserted (listed : Listed changes paths) (fresh : ∀ old, ¬ Latest changes path old) (text : Text) :
    Listed (changes ++ [.insert path text]) (paths ++ [path]) := by
  obtain ⟨makers, ordered, members, rfl⟩ := listed
  refine ⟨makers ++ [(changes.length, path)], ?_, ?_, by simp⟩
  · rw [List.pairwise_append]
    refine ⟨ordered, List.pairwise_singleton _ _, ?_⟩
    rintro ⟨i, other⟩ earlier last member
    rw [List.mem_singleton.mp member]
    exact made_before ((members i other).mp earlier)
  · intro i other
    rw [List.mem_append, List.mem_singleton, members, made_append, Prod.mk.injEq]
    constructor
    · rintro (made | ⟨rfl, rfl⟩)
      · exact Or.inl ⟨made, by simp⟩
      · exact Or.inr ⟨rfl, ⟨text, rfl⟩, fresh⟩
    · rintro (⟨made, _⟩ | ⟨rfl, ⟨_, same⟩, _⟩)
      · exact Or.inl made
      · exact Or.inr ⟨rfl, (Change.insert.inj same).1.symm⟩

theorem listed_removed (listed : Listed changes paths) (path : Path) :
    Listed (changes ++ [.remove path]) (paths.filter fun old => !old.same path) := by
  obtain ⟨makers, ordered, members, rfl⟩ := listed
  refine ⟨makers.filter fun maker => !maker.2.same path, ordered.filter _, ?_, List.filter_map⟩
  intro i other
  rw [List.mem_filter, members, made_append, Path.same_symm]
  constructor
  · rintro ⟨made, apart⟩
    refine Or.inl ⟨made, ?_⟩
    rintro removed same
    rw [← Change.remove.inj same]
    simpa using apart
  · rintro (⟨made, apart⟩ | ⟨_, ⟨_, same⟩, _⟩)
    · exact ⟨made, by simp [apart path rfl]⟩
    · contradiction

theorem listed_after (changes : List Change) : Listed changes (after changes).paths := by
  induction changes using List.reverseRecOn with
  | nil =>
      refine ⟨[], .nil, ?_, rfl⟩
      intro i path
      constructor
      · intro impossible
        contradiction
      · intro made
        exact absurd (made_before made) (Nat.not_lt_zero i)
  | append_singleton changes change ih =>
      rw [after_append]
      cases change with
      | insert path text =>
          rw [Change.apply, paths_insert]
          cases found : (after changes).find? path with
          | none => exact listed_inserted ih (find_after_none.mp found) text
          | some old => exact listed_replaced ih ((find_after changes path old).mp found) text
      | remove path =>
          rw [Change.apply, paths_remove]
          exact listed_removed ih path

end

theorem no_paths {m : Memory} (missing : ∀ path, m.find? path = none) : m.paths = [] := by
  refine List.eq_nil_iff_forall_not_mem.mpr fun old member => ?_
  have apart := find_none_iff.mp (missing old) old member
  rw [Path.same_refl] at apart
  contradiction

theorem records_after (changes : List Change) : Records changes (after changes) where
  distinct := List.pairwise_map.mpr (filled_after changes).distinct
  listed := listed_after changes
  candidates path text latest := by
    have something := paths_some ((find_after changes path text).mpr latest)
    rw [ask_candidates, candidates_of_paths something]
    exact ⟨something, rfl⟩
  noCandidates nothing := by
    have none : (after changes).paths = [] := no_paths fun path => find_after_none.mpr (nothing path)
    rw [ask_candidates, Memory.candidates, if_pos (by simpa [paths] using none)]
  read path text latest := by
    rw [ask_lines, lines, (find_after changes path text).mpr latest]
  unread path nothing := by
    rw [ask_lines, lines, find_after_none.mpr nothing]
  replaced path text old latest := by
    rw [paths_insert, (find_after changes path old).mpr latest]
    rfl
  removed path := paths_remove _ path
  again path text := by
    rw [paths_insert, find_remove, if_pos (Path.same_refl path)]
    rfl

end PolicyLookup.Memory
