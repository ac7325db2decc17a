import OpenCLRegistry.CommandLine.Arguments
import OpenCLRegistry.FeatureList
import OpenCLRegistry.Language.Text
import OpenCLRegistry.Snapshot.Text

/-!
# Reports

What a run of the program gives back: its exit code and what it prints. A run
finds the language, builds the registry that the invocation describes, and shows
either all of it or the answers about one name. The first thing that fails, in
that order, ends the run with its message.

The file system is a parameter: a function from paths to texts or to the reason
why there is none. So are the words for the refusal of arguments, which are those
of their reader and stand in the report of a whole run only.
-/
namespace OpenCLRegistry

/-- Why a file gave no text. -/
inductive FileFault
  | missing
  | isDirectory
  | notText
  | other (reason : String)
deriving DecidableEq

def FileFault.message : FileFault → String
  | .missing => "No such file or directory (os error 2)"
  | .isDirectory => "Is a directory (os error 21)"
  | .notText => "stream did not contain valid UTF-8"
  | .other reason => reason

abbrev Files := String → Except FileFault String

structure Report where
  exitCode : UInt8
  stdout : String := ""
  /-- The message of an error. Why arguments are refused is worded by their reader and is
  no part of it. -/
  stderr : String := ""
  /-- What a log shows at the verbosity that was asked for. -/
  log : List Event := []

namespace Registry

/-- Enables names one after the other, up to the first unknown one. -/
def enableAll (r : Registry) : List String → Attempt Registry
  | [] => { value := r }
  | name :: rest => (r.setEnabled name true).andThen fun r => r.enableAll rest

/-- The answers about one name. -/
def answers (r : Registry) (l : Language) (name : String) : Json :=
  .obj [("name", .str name), ("known", .bool (r.isKnown name)),
    ("enabled", .bool (r.isEnabled name)), ("supported", .bool (r.isSupported name l)),
    ("supported_core", .bool (r.isSupportedAsCore name l)),
    ("supported_optional_core", .bool (r.isSupportedAsOptionalCore name l)),
    ("supported_extension", .bool (r.isSupportedAsExtension name l))]

end Registry

namespace Invocation

/-- The language of a configuration file if one is named, else that of the other settings. -/
def language (i : Invocation) (files : Files) : Except Error Language :=
  match i.configuration with
  | some path =>
    match files path with
    | .ok text => Language.ofText text
    | .error fault => .error (.unreadableFile (path ++ ": " ++ fault.message))
  | none => Language.ofNumbers (i.version.getD Language.unstatedVersion) i.cplusplus

/-- The registry that the settings describe. Flags are cleared after all names have been
enabled, and core features are enabled after that. -/
def registry (i : Invocation) (l : Language) : Attempt Registry :=
  match TargetFeatures.ofList .initial (i.features.getD "") with
  | .error e => { value := .initial, error := some e }
  | .ok features =>
    let adopted := Attempt.ofLogged (Registry.initial.adopt features l)
    let named := adopted.andThen fun r => r.enableAll i.enables
    (named.thenIf i.clearEnabled Registry.clearEnabled).thenIf i.enableCore (·.enableCore l)

/-- What is shown of a registry. -/
def shown (i : Invocation) (l : Language) (r : Registry) : Json :=
  match i.query with
  | some name => r.answers l name
  | none => r.snapshot.tree

/-- The lowest level of events that the log shows. -/
def logLevel (i : Invocation) : LogLevel :=
  if i.verbosity = 0 then .warn else if i.verbosity = 1 then .debug else .trace

/-- Of the events of a run, those that the log shows. -/
def logged (i : Invocation) (events : List Event) : List Event :=
  events.filter fun event => i.logLevel.rank ≤ event.level.rank

/-- What is shown, or why nothing is. The events are those up to the end of the run, or up to
its failure. -/
def run (i : Invocation) (files : Files) : Logged (Except Error Json) :=
  match i.language files with
  | .error e => { value := .error e }
  | .ok l =>
    let built := i.registry l
    { value := built.toExcept.map (i.shown l), events := built.events }

end Invocation

namespace Report

def usageLine : String := "Usage: clopts [OPTIONS]"

def helpText : String :=
  "Show which OpenCL extensions are supported and enabled for a target\n\n" ++
  usageLine ++ "\n\n" ++
  "Options:\n" ++
  "      --cl-std <CL_STD>  OpenCL C version (100, 110, 120, 200 or 300) [default: 100]\n" ++
  "      --cpp              C++ for OpenCL mode\n" ++
  "      --config <CONFIG>  JSON language configuration; overrides --cl-std and --cpp\n" ++
  "      --cl-ext <CL_EXT>  Target features, e.g. \"-all,+cl_khr_fp64\" [default: \"\"]\n" ++
  "      --enable <ENABLE>  Enable an extension as a pragma would (repeatable)\n" ++
  "      --disable-all      Clear every enabled flag after --enable\n" ++
  "      --enable-core      Enable supported core and optional core features\n" ++
  "      --query <QUERY>    Print predicate results for one extension" ++
  " instead of the full state\n" ++
  "  -v, --verbose...       Increase log verbosity (-v debug, -vv trace)\n" ++
  "  -h, --help             Print help\n" ++
  "  -V, --version          Print version\n"

def ofExit : Exit → Report
  | .usage => { exitCode := 2 }
  | .help => { exitCode := 0, stdout := helpText }
  | .version => { exitCode := 0, stdout := "opencl-options 0.1.0\n" }

def ofInvocation (files : Files) (i : Invocation) : Report :=
  let ran := i.run files
  let log := i.logged ran.events
  match ran.value with
  | .ok shown => { exitCode := 0, stdout := shown.ascendingKeys.pretty ++ "\n", log }
  | .error e => { exitCode := 1, stderr := e.message ++ "\n", log }

/-- The report of a run with the given arguments. -/
def ofArguments (files : Files) (args : List String) : Report :=
  match Invocation.ofArguments args with
  | .ok i => ofInvocation files i
  | .error e => ofExit e

/-- The report together with the reason for which arguments are refused, in the words of
their reader. -/
def explained (usage : List String → String) (files : Files) (args : List String) : Report :=
  match Invocation.ofArguments args with
  | .error .usage => { ofArguments files args with stderr := usage args }
  | _ => ofArguments files args

end Report

end OpenCLRegistry
