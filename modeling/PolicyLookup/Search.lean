import PolicyLookup.Construct

set_option autoImplicit false

namespace PolicyLookup

namespace Lookup

def matcher {σ : Type} (query : Text) (mode : QueryMode) : Lookup σ Matcher :=
  ofExcept ((Matcher.ofQuery query mode).mapError .regex)

-- The first declaration that the query names. The candidates are asked for before the query is
-- read, so that without candidates no query is at fault.
def find {σ : Type} (source : Source σ) (mode : QueryMode) (query : Text) : Lookup σ Construct := do
  let files ← source.candidates
  tell (.searching files.length query)
  let matcher ← matcher query mode
  match ← Location.find source matcher files with
  | none => throw (.notDeclared query)
  | some location =>
      let construct ← Construct.extract source location
      tell (.resolved location.keyword query location.path location.line construct.lineCount)
      return construct

end Lookup

end PolicyLookup
