import PolicyLookup.CommandLine.Arguments
import PolicyLookup.CommandLine.LogFilter
import PolicyLookup.Config.Document
import PolicyLookup.Search
import PolicyLookup.Source.Folder

set_option autoImplicit false

namespace PolicyLookup

def Config.load (disk : Disk) (file : Option Path) (overrides : Overrides) : Except Failure Config := do
  let base ← match file with
    | some path => ofFile disk path
    | none => .ok default
  (base.withOverrides overrides).mapError .config

namespace CommandLine

structure Environment where
  config : Option Path
  overrides : Config.Overrides
  logFilter : Option Text

inductive Fault where
  | missingFolder
  | missingQuery
  | failure (cause : Failure)

def Fault.message : Fault → String
  | .missingFolder =>
      "Argument 1: Directory that contains all of the sub-directories of SELinux polices to search."
  | .missingQuery => "Argument 2: Pass the interface or domain name query."
  | .failure cause => cause.message

def Fault.exitCode : Fault → Nat
  | .missingQuery => 2
  | _ => 1

def resolve (disk : Disk) (folder : Path) : Path :=
  (disk.canonical? folder).getD (disk.absolute folder)

def configFor (disk : Disk) (environment : Environment) (a : Arguments) : Except Failure Config := do
  let config ← Config.load disk (a.config.or environment.config) environment.overrides
  .ok (if a.isRegex then { config with mode := .regex } else config)

def search (disk : Disk) (config : Config) (folder : Path) (query : Text) :
    Except Failure Construct × List Event :=
  match Folder.ofConfig disk (resolve disk folder) config with
  | .error failure => (.error failure, [])
  | .ok folder =>
      let (result, session) := (Lookup.find folder.source config.mode query).start disk
      (result, session.log)

def thresholdFor (config : Config) (verbosity : Nat) : Threshold :=
  match verbosity with
  | 0 => (Threshold.ofText? config.logging.level).join
  | 1 => some .debug
  | _ => some .trace

def filterFor (environment : Environment) (config : Config) (verbosity : Nat) : LogFilter :=
  (environment.logFilter.bind LogFilter.ofText?).getD (.ofThreshold (thresholdFor config verbosity))

structure Outcome where
  exitCode : Nat
  output : Text
  logsRecords : Bool
  log : List Event
  complaint : Option UsageFault

namespace Outcome

def of (result : Except Fault Text) (logsRecords : Bool) (log : List Event) : Outcome :=
  match result with
  | .ok text => ⟨0, text, logsRecords, log, none⟩
  | .error fault =>
      ⟨fault.exitCode, ("ERROR: " ++ fault.message ++ "\n").toList, logsRecords, log, none⟩

end Outcome

def lookup (disk : Disk) (environment : Environment) (a : Arguments) : Outcome :=
  match a.folder, a.query with
  | none, _ => .of (.error .missingFolder) false []
  | some _, none => .of (.error .missingQuery) false []
  | some folder, some query =>
      match configFor disk environment a with
      | .error failure => .of (.error (.failure failure)) false []
      | .ok config =>
          let starting :=
            Event.starting query config.mode config.interfaceExtension config.supportExtension
          let (result, events) := search disk config folder query
          .of ((result.map Construct.text).mapError .failure) config.logging.json
            ((starting :: events).filter (filterFor environment config a.verbosity).admits)

def versionText : String := "sepolq 0.1.0\n"

def helpText : String := "Print the define or interface declaration for a name in SELinux policy sources

Usage: sepolq [OPTIONS] [DIRECTORY] [QUERY]

Arguments:
  [DIRECTORY]  Directory that contains all of the sub-directories of SELinux policies to search
  [QUERY]      Interface or define name to look up

Options:
  -v, --verbose...       Log more to stderr (-v debug, -vv trace)
  -h, --help             Print help
  -V, --version          Print version
"

def run (disk : Disk) (environment : Environment) (words : List Bytes) : Outcome :=
  match Request.ofWords words with
  | .ok (.lookup a) => lookup disk environment a
  | .ok .version => ⟨0, versionText.toList, false, [], none⟩
  | .ok .help => ⟨0, helpText.toList, false, [], none⟩
  | .error fault => ⟨2, [], false, [], some fault⟩

end CommandLine

end PolicyLookup
