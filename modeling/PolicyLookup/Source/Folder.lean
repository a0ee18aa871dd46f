import PolicyLookup.Config
import PolicyLookup.Glob.Walk
import PolicyLookup.Lookup
import PolicyLookup.Text.Lines

set_option autoImplicit false

namespace PolicyLookup

structure Folder where
  root : Path
  interfaceExtension : Text
  supportExtension : Text

namespace Folder

def ofConfig (disk : Disk) (root : Path) (config : Config) : Except Failure Folder :=
  if disk.isFolder root then .ok ⟨root, config.interfaceExtension, config.supportExtension⟩
  else .error (.notFolder root)

def patternFor (root extension : Text) : Text :=
  Glob.escape (root.reverse.dropWhile (· == '/')).reverse ++ "/**/*.".toList ++ extension

def keepFiles (disk : Disk) : List (Except Glob.Unreadable Path) → Lookup Disk (List Path)
  | [] => return []
  | .ok path :: rest => do
      if disk.isFile path then
        return path :: (← keepFiles disk rest)
      else
        Lookup.tell (.notFile path)
        keepFiles disk rest
  | .error skipped :: rest => do
      Lookup.tell (.unreadable skipped)
      keepFiles disk rest

def filesWith (folder : Folder) (extension : Text) : Lookup Disk (List Path) := do
  let disk := (← get).source
  match folder.root.text? with
  | none => throw (.folderNotText folder.root)
  | some root =>
      let pattern ← Lookup.ofExcept ((Glob.Pattern.ofText (patternFor root extension)).mapError .pattern)
      let files ← keepFiles disk (pattern.search disk)
      Lookup.tell (.filesFound files.length extension folder.root)
      return files

def candidates (folder : Folder) : Lookup Disk (List Path) := do
  let interfaces ← folder.filesWith folder.interfaceExtension
  let supports ← folder.filesWith folder.supportExtension
  if (interfaces ++ supports).isEmpty then
    throw (.noCandidates folder.root folder.interfaceExtension folder.supportExtension)
  return interfaces ++ supports

def read (path : Path) : Lookup Disk (List Text) := do
  match (← get).source.readText path with
  | .ok text => return Text.lines text
  | .error fault => throw (.read path fault)

def source (folder : Folder) : Source Disk where
  candidates := folder.candidates
  read := read

end Folder

end PolicyLookup
