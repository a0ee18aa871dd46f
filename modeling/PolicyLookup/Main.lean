import PolicyLookup.CommandLine.LogLine
import PolicyLookup.CommandLine.Run
import PolicyLookup.Disk.Edit

set_option autoImplicit false

open PolicyLookup

namespace PolicyLookup.Main

def bytesOf (s : String) : Bytes := s.toUTF8.toList

def pathOf (s : String) : Path := ⟨bytesOf s⟩

def real? (spelling : String) : IO (Option String) := do
  match ← (IO.FS.realPath spelling).toBaseIO with
  | .ok path => if ← path.pathExists then return some path.toString else return none
  | .error _ => return none

-- What is taken from the file system: all that a request can reach, with the paths that are done.
structure Snapshot where
  disk : Disk
  done : List String

def Snapshot.put (s : Snapshot) (path : String) (node : Node) : Snapshot :=
  { s with disk := s.disk.put (pathOf path) node }

partial def Snapshot.load (s : Snapshot) (path : String) : IO Snapshot := do
  if s.done.contains path then return s
  let s := { s with done := path :: s.done }
  let place ← IO.FS.realPath path
  if ← place.isDir then
    let mut s := s.put path (.folder .nil)
    for entry in ← place.readDir do
      let spelling := entry.path.toString
      let kind := (← entry.path.symlinkMetadata).type
      if kind == .symlink then
        match ← real? spelling with
        | some target => s ← (s.put spelling (.link (pathOf target))).load target
        | none => s := s.put spelling (.link (pathOf spelling))
      else s ← s.load spelling
    return s
  else
    match ← (IO.FS.readBinFile path).toBaseIO with
    | .ok content => return s.put path (.file content.toList)
    | .error _ => return s

def Snapshot.reach (s : Snapshot) (path : Option Path) : IO (Snapshot × Option Path) := do
  match path with
  | none => return (s, none)
  | some path =>
      match ← real? path.display with
      | some spelling => return (← s.load spelling, some (pathOf spelling))
      | none => return (s, some path)

def environment : IO CommandLine.Environment := do
  let keys : List Config.Key := [.interfaceExtension, .supportExtension, .mode, .level, .json]
  let values ← keys.mapM fun key => do return (key, (← IO.getEnv key.name).map String.toList)
  return {
    config := (← IO.getEnv "SEPOLQ_CONFIG").map pathOf
    overrides := fun key => (values.lookup key).join
    logFilter := (← IO.getEnv "RUST_LOG").map String.toList }

def outcomeOf (words : List String) : IO CommandLine.Outcome := do
  let environment ← environment
  let home := (← IO.FS.realPath ".").toString
  let start : Snapshot := ⟨⟨.nil, (pathOf home).parts.filter (!·.isEmpty)⟩, []⟩
  match CommandLine.Request.ofWords (words.map bytesOf) with
  | .ok (.lookup a) =>
      let (s, folder) ← start.reach a.folder
      let (s, config) ← s.reach (a.config.or environment.config)
      return CommandLine.lookup s.disk environment { a with folder, config }
  | _ => return CommandLine.run start.disk environment (words.map bytesOf)

end PolicyLookup.Main

def main (words : List String) : IO UInt32 := do
  let outcome ← PolicyLookup.Main.outcomeOf words
  let errors ← IO.getStderr
  for event in outcome.log do
    errors.putStrLn (LogLine.render outcome.logsRecords event)
  if let some fault := outcome.complaint then
    errors.putStrLn ("error: " ++ fault.message)
  let output ← IO.getStdout
  output.putStr (String.ofList outcome.output)
  output.flush
  return outcome.exitCode.toUInt32
