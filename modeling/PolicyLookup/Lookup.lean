import PolicyLookup.Event
import PolicyLookup.Failure

set_option autoImplicit false

namespace PolicyLookup

structure Session (σ : Type) where
  source : σ
  log : List Event

abbrev Lookup (σ : Type) := ExceptT Failure (StateM (Session σ))

namespace Lookup

def tell {σ : Type} (event : Event) : Lookup σ Unit :=
  modify fun session => { session with log := session.log ++ [event] }

def ofExcept {σ α : Type} (result : Except Failure α) : Lookup σ α := fun session => (result, session)

def start {σ α : Type} (lookup : Lookup σ α) (source : σ) : Except Failure α × Session σ :=
  lookup.run ⟨source, []⟩

end Lookup

-- What a file holds may differ from one reading to the next.
structure Source (σ : Type) where
  candidates : Lookup σ (List Path)
  read : Path → Lookup σ (List Text)

end PolicyLookup
