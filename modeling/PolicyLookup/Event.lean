import PolicyLookup.Declaration
import PolicyLookup.Glob.Walk

set_option autoImplicit false

namespace PolicyLookup

inductive Level where
  | trace
  | debug
  | info
  | warn
  | error
deriving DecidableEq, Inhabited

def Level.name : Level → String
  | .trace => "TRACE"
  | .debug => "DEBUG"
  | .info => "INFO"
  | .warn => "WARN"
  | .error => "ERROR"

def Level.rank : Level → Nat
  | .trace => 0
  | .debug => 1
  | .info => 2
  | .warn => 3
  | .error => 4

inductive Event where
  | starting (query : Text) (mode : QueryMode) (interface support : Text)
  | filesFound (count : Nat) (extension : Text) (root : Path)
  | notFile (path : Path)
  | unreadable (skipped : Glob.Unreadable)
  | searching (files : Nat) (query : Text)
  | scanning (path : Path) (lines : Nat)
  | located (keyword : Option Keyword) (query : Text) (path : Path) (line : Nat)
  | notLocated (query : Text) (files : Nat)
  | block (path : Path) (line lines : Nat)
  | resolved (keyword : Option Keyword) (query : Text) (path : Path) (line lines : Nat)

namespace Event

def level : Event → Level
  | .notFile _ | .scanning _ _ | .block _ _ _ => .trace
  | .resolved _ _ _ _ _ => .info
  | .unreadable _ => .warn
  | _ => .debug

def target : Event → String
  | .starting _ _ _ _ => "sepolq"
  | .filesFound _ _ _ | .notFile _ | .unreadable _ => "sepolq_policy::source"
  | .searching _ _ | .resolved _ _ _ _ _ => "sepolq_policy::search"
  | .scanning _ _ | .located _ _ _ _ | .notLocated _ _ => "sepolq_policy::locator"
  | .block _ _ _ => "sepolq_policy::extractor"

private def quoted (t : Text) : String := "'" ++ String.ofList t ++ "'"

private def place (path : Path) (line : Nat) : String := path.display ++ ":" ++ toString (line + 1)

def message : Event → String
  | .starting query mode interface support =>
      "sepolq starting: query=" ++ quoted query ++ " mode=" ++ mode.name ++ " extensions=." ++
        String.ofList interface ++ "/." ++ String.ofList support
  | .filesFound count extension root =>
      "Found " ++ toString count ++ " ." ++ String.ofList extension ++ " files under " ++ root.display
  | .notFile path => "Skipping non-file match " ++ path.display
  | .unreadable skipped => "Skipping unreadable path " ++ skipped.folder.display ++ ": " ++ skipped.message
  | .searching files query =>
      "Searching " ++ toString files ++ " candidate files for " ++ quoted query
  | .scanning path lines => "Scanning " ++ path.display ++ " (" ++ toString lines ++ " lines)"
  | .located keyword query path line =>
      "Found " ++ Keyword.nameOr keyword ++ " " ++ quoted query ++ " at " ++ place path line
  | .notLocated query files =>
      "No declaration of " ++ quoted query ++ " in " ++ toString files ++ " files"
  | .block path line lines =>
      "Block at " ++ place path line ++ " spans " ++ toString lines ++ " lines"
  | .resolved keyword query path line lines =>
      "Resolved " ++ Keyword.nameOr keyword ++ " " ++ quoted query ++ " at " ++ place path line ++
        " (" ++ toString lines ++ " lines)"

end Event

end PolicyLookup
