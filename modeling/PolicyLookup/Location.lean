import PolicyLookup.Lookup

set_option autoImplicit false

namespace PolicyLookup

-- The line is counted from zero.
structure Location where
  path : Path
  line : Nat
  keyword : Option Keyword
deriving DecidableEq

namespace Location

def firstIn (matcher : Matcher) (path : Path) (lines : List Text) : Option Location :=
  match lines.findIdx? matcher.isMatch with
  | some line => some ⟨path, line, matcher.keyword? (lines[line]?.getD [])⟩
  | none => none

def searchFiles {σ : Type} (source : Source σ) (matcher : Matcher) (total : Nat) :
    List Path → Lookup σ (Option Location)
  | [] => do
      Lookup.tell (.notLocated matcher.query total)
      return none
  | path :: rest => do
      let lines ← source.read path
      Lookup.tell (.scanning path lines.length)
      match firstIn matcher path lines with
      | some found =>
          Lookup.tell (.located found.keyword matcher.query path found.line)
          return some found
      | none => searchFiles source matcher total rest

def find {σ : Type} (source : Source σ) (matcher : Matcher) (files : List Path) :
    Lookup σ (Option Location) :=
  searchFiles source matcher files.length files

end Location

end PolicyLookup
