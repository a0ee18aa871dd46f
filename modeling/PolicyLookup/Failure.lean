import PolicyLookup.Disk.Resolve
import PolicyLookup.Glob.Pattern
import PolicyLookup.Regex.Expr
import PolicyLookup.Yaml.Fault

set_option autoImplicit false

namespace PolicyLookup

inductive ConfigFault where
  | missing (path : Path)
  | unreadable (fault : ReadFault)
  | emptyExtension
  | extensionCharacters (extension : Text)
  | unknownMode (name : Text)
  | unknownLevel (name : Text)
deriving DecidableEq

def ConfigFault.message : ConfigFault → String
  | .missing path => "Config file not found: " ++ path.display
  | .unreadable fault => "Failed to read config: " ++ fault.message
  | .emptyExtension => "File extension must not be empty"
  | .extensionCharacters extension =>
      "File extension '" ++ String.ofList extension ++ "' contains path or glob characters"
  | .unknownMode name =>
      "Unknown query mode '" ++ String.ofList name ++ "' (expected literal or regex)"
  | .unknownLevel name => "Unknown log level '" ++ String.ofList name ++ "'"

inductive Failure where
  | pattern (fault : Glob.Fault)
  | folderNotText (folder : Path)
  | regex (fault : Regex.Fault)
  | config (fault : ConfigFault)
  | yaml (fault : Yaml.Fault)
  | notFolder (path : Path)
  | noCandidates (root : Path) (interface support : Text)
  | notDeclared (query : Text)
  | neverClosed (path : Path) (line : Nat)
  | pastEnd (path : Path) (line : Nat)
  | read (path : Path) (fault : ReadFault)
deriving DecidableEq

-- Lines are counted from one in what is said of them.
def Failure.message : Failure → String
  | .pattern fault => "Invalid glob pattern: " ++ fault.message
  | .folderNotText folder =>
      "Invalid glob pattern: Policy directory is not valid UTF-8: " ++ folder.display
  | .regex fault => "Invalid regex: " ++ fault.message
  | .config fault => "Config error: " ++ fault.message
  | .yaml fault => "YAML error: Invalid YAML: " ++ fault.message
  | .notFolder path => "Directory does not exist: '" ++ path.display ++ "'"
  | .noCandidates root interface support =>
      "No <filename>." ++ String.ofList interface ++ " or <filename>." ++ String.ofList support ++
        " files found in any sub-directories within '" ++ root.display ++ "'"
  | .notDeclared query => "Unable to find query: '" ++ String.ofList query ++ "'"
  | .neverClosed path line =>
      "Construct opened at " ++ path.display ++ ":" ++ toString (line + 1) ++
        " is never closed by a `')` line"
  | .pastEnd path line => "Line " ++ toString (line + 1) ++ " is past the end of " ++ path.display
  | .read path fault => "Failed to read " ++ path.display ++ ": " ++ fault.message

end PolicyLookup
