import PolicyLookup.Proofs.Lookup.Run
import PolicyLookup.Search

set_option autoImplicit false

namespace PolicyLookup

abbrev Answer := Except Failure (List Text)

abbrev Reading := Path × Answer

structure Watched (σ : Type) where
  source : σ
  readings : List Reading

namespace Session

variable {σ : Type}

def watched (session : Session σ) : Session (Watched σ) := ⟨⟨session.source, []⟩, session.log⟩

def plain (session : Session (Watched σ)) : Session σ := ⟨session.source.source, session.log⟩

def resume (session : Session (Watched σ)) (after : Session σ) (readings : List Reading) :
    Session (Watched σ) :=
  ⟨⟨after.source, session.source.readings ++ readings⟩, after.log⟩

@[simp] theorem plain_watched (session : Session σ) : session.watched.plain = session := rfl

@[simp] theorem readings_resume (session : Session (Watched σ)) (after : Session σ) (readings : List Reading) :
    (session.resume after readings).source.readings = session.source.readings ++ readings := rfl

end Session

def Source.watched {σ : Type} (source : Source σ) : Source (Watched σ) where
  candidates := fun session =>
    let (files, after) := source.candidates.run session.plain
    (files, session.resume after [])
  read path := fun session =>
    let (answer, after) := (source.read path).run session.plain
    (answer, session.resume after [(path, answer)])

namespace Lookup

variable {σ α β : Type}

@[simp] theorem run_watched_candidates (source : Source σ) (session : Session (Watched σ)) :
    source.watched.candidates.run session =
      ((source.candidates.run session.plain).1,
        session.resume (source.candidates.run session.plain).2 []) := rfl

@[simp] theorem run_watched_read (source : Source σ) (path : Path) (session : Session (Watched σ)) :
    (source.watched.read path).run session =
      (((source.read path).run session.plain).1,
        session.resume ((source.read path).run session.plain).2
          [(path, ((source.read path).run session.plain).1)]) := rfl

def Mirrors (watched : Lookup (Watched σ) α) (plain : Lookup σ α) : Prop :=
  ∀ session, (watched.run session).1 = (plain.run session.plain).1 ∧
    (watched.run session).2.plain = (plain.run session.plain).2

theorem mirrors_pure (value : α) : Mirrors (pure value : Lookup (Watched σ) α) (pure value) :=
  fun _ => ⟨rfl, rfl⟩

theorem mirrors_throw (failure : Failure) :
    Mirrors (throw failure : Lookup (Watched σ) α) (throw failure) :=
  fun _ => ⟨rfl, rfl⟩

theorem mirrors_tell (event : Event) :
    Mirrors (tell event : Lookup (Watched σ) Unit) (tell event) :=
  fun _ => ⟨rfl, rfl⟩

theorem mirrors_of_except (result : Except Failure α) :
    Mirrors (ofExcept result : Lookup (Watched σ) α) (ofExcept result) :=
  fun _ => ⟨rfl, rfl⟩

theorem mirrors_candidates (source : Source σ) :
    Mirrors source.watched.candidates source.candidates :=
  fun _ => ⟨rfl, rfl⟩

theorem mirrors_read (source : Source σ) (path : Path) :
    Mirrors (source.watched.read path) (source.read path) :=
  fun _ => ⟨rfl, rfl⟩

theorem mirrors_bind {first : Lookup (Watched σ) α} {plainFirst : Lookup σ α}
    {next : α → Lookup (Watched σ) β} {plainNext : α → Lookup σ β}
    (mirrorsFirst : Mirrors first plainFirst) (mirrorsNext : ∀ value, Mirrors (next value) (plainNext value)) :
    Mirrors (first >>= next) (plainFirst >>= plainNext) := by
  intro session
  obtain ⟨sameResult, sameSession⟩ := mirrorsFirst session
  rw [run_bind, run_bind]
  rcases ran : first.run session with ⟨result, after⟩
  rcases plainRan : plainFirst.run session.plain with ⟨plainResult, plainAfter⟩
  rw [ran, plainRan] at sameResult sameSession
  subst sameResult sameSession
  cases result with
  | error failure => exact ⟨rfl, rfl⟩
  | ok value => exact mirrorsNext value after

theorem mirrors_search (source : Source σ) (matcher : Matcher) (total : Nat) (files : List Path) :
    Mirrors (Location.searchFiles source.watched matcher total files)
      (Location.searchFiles source matcher total files) := by
  induction files with
  | nil => exact mirrors_bind (mirrors_tell _) fun _ => mirrors_pure none
  | cons path rest ih =>
      refine mirrors_bind (mirrors_read source path) fun lines => ?_
      refine mirrors_bind (mirrors_tell _) fun _ => ?_
      cases Location.firstIn matcher path lines with
      | none => exact ih
      | some found => exact mirrors_bind (mirrors_tell _) fun _ => mirrors_pure _

theorem mirrors_extract (source : Source σ) (location : Location) :
    Mirrors (Construct.extract source.watched location) (Construct.extract source location) := by
  refine mirrors_bind (mirrors_read source location.path) fun lines => ?_
  refine mirrors_bind (mirrors_of_except _) fun construct => ?_
  by_cases isBlock : construct.shape = .block
  · simp only [isBlock, if_true]
    exact mirrors_bind (mirrors_tell _) fun _ => mirrors_pure _
  · simp only [isBlock, if_false]
    exact mirrors_pure construct

theorem mirrors_find (source : Source σ) (mode : QueryMode) (query : Text) :
    Mirrors (find source.watched mode query) (find source mode query) := by
  refine mirrors_bind (mirrors_candidates source) fun files => ?_
  refine mirrors_bind (mirrors_tell _) fun _ => ?_
  refine mirrors_bind (mirrors_of_except _) fun matcher => ?_
  refine mirrors_bind (mirrors_search source matcher _ files) fun location => ?_
  cases location with
  | none => exact mirrors_throw _
  | some location =>
      refine mirrors_bind (mirrors_extract source location) fun construct => ?_
      exact mirrors_bind (mirrors_tell _) fun _ => mirrors_pure _

end Lookup

end PolicyLookup
