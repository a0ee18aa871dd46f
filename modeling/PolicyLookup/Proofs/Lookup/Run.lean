import Mathlib.Control.Monad.Basic
import PolicyLookup.Lookup

set_option autoImplicit false

namespace PolicyLookup.Lookup

variable {σ α β : Type}

@[simp] theorem run_pure (value : α) (session : Session σ) :
    (pure value : Lookup σ α).run session = (.ok value, session) := rfl

@[simp] theorem run_tell (event : Event) (session : Session σ) :
    (tell event).run session = (.ok (), { session with log := session.log ++ [event] }) := rfl

@[simp] theorem run_of_except (result : Except Failure α) (session : Session σ) :
    (ofExcept result).run session = (result, session) := rfl

@[simp] theorem run_get (session : Session σ) :
    (get : Lookup σ (Session σ)).run session = (.ok session, session) := rfl

theorem map_error_ok {ε ε' : Type} (f : ε → ε') (value : α) :
    (Except.ok value : Except ε α).mapError f = .ok value := rfl

theorem run_bind (first : Lookup σ α) (next : α → Lookup σ β) (session : Session σ) :
    (first >>= next).run session =
      match first.run session with
      | (.ok value, after) => (next value).run after
      | (.error failure, after) => (.error failure, after) := by
  change (ExceptT.bindCont next (first.run session).1).run (first.run session).2 = _
  rcases first.run session with ⟨result, after⟩
  cases result <;> rfl

theorem run_bind_ok {first : Lookup σ α} {session after : Session σ} {value : α}
    (ran : first.run session = (.ok value, after)) (next : α → Lookup σ β) :
    (first >>= next).run session = (next value).run after := by
  rw [run_bind, ran]

theorem run_bind_error {first : Lookup σ α} {session after : Session σ} {failure : Failure}
    (ran : first.run session = (.error failure, after)) (next : α → Lookup σ β) :
    (first >>= next).run session = (.error failure, after) := by
  rw [run_bind, ran]

theorem ok_bind {ε α β : Type} (a : α) (next : α → Except ε β) : (Except.ok a >>= next) = next a := rfl

theorem bind_ok_iff {ε α β : Type} {first : Except ε α} {next : α → Except ε β} {b : β} :
    (first >>= next) = .ok b ↔ ∃ a, first = .ok a ∧ next a = .ok b := by
  cases first with
  | error fault =>
      constructor
      · intro impossible
        contradiction
      · intro ⟨_, impossible, _⟩
        contradiction
  | ok a =>
      constructor
      · intro result
        exact ⟨a, rfl, result⟩
      · intro ⟨_, same, result⟩
        obtain rfl := Except.ok.inj same
        exact result

theorem map_error_ok_iff {ε ε' α : Type} {result : Except ε α} {f : ε → ε'} {a : α} :
    result.mapError f = .ok a ↔ result = .ok a := by
  cases result with
  | error fault => constructor <;> intro impossible <;> contradiction
  | ok b =>
      constructor
      · intro same
        exact congrArg Except.ok (Except.ok.inj same)
      · intro same
        exact congrArg Except.ok (Except.ok.inj same)

theorem map_ok_iff {ε α β : Type} {f : α → β} {result : Except ε α} {b : β} :
    result.map f = .ok b ↔ ∃ a, result = .ok a ∧ f a = b := by
  cases result with
  | error fault =>
      constructor
      · intro impossible
        contradiction
      · intro ⟨_, impossible, _⟩
        contradiction
  | ok a =>
      constructor
      · intro same
        exact ⟨a, rfl, Except.ok.inj same⟩
      · rintro ⟨_, same, rfl⟩
        obtain rfl := Except.ok.inj same
        rfl

theorem map_error {ε α β : Type} {f : α → β} {result : Except ε α} {fault : ε}
    (failed : result.map f = .error fault) : result = .error fault := by
  cases result with
  | error other => exact congrArg Except.error (Except.error.inj failed)
  | ok a => contradiction

theorem map_eq_cases {ε α β : Type} {f : α → β} {result other : Except ε α} (same : result.map f = other.map f) :
    (∃ fault, result = .error fault ∧ other = .error fault) ∨
      ∃ a b, result = .ok a ∧ other = .ok b ∧ f a = f b := by
  cases result with
  | error fault => exact Or.inl ⟨fault, rfl, map_error same.symm⟩
  | ok a =>
      cases other with
      | error fault => contradiction
      | ok b => exact Or.inr ⟨a, b, rfl, rfl, Except.ok.inj same⟩

end PolicyLookup.Lookup
