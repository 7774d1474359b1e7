import HostSurvey.Cli.Arguments
import HostSurvey.Config.Load
import HostSurvey.Survey.Capture
import HostSurvey.Value.Display

/-!
The `hostwatch` command line.
-/

namespace HostSurvey

namespace Cli

def exitCodesText : String :=
  "exit codes:\n  0 - no issues detected\n  1 - warnings (minor issues)\n" ++
    "  2 - critical (zombies, permission issues, unusual ports)\n  3 - error (probe failed)\n"

def helpOption : OptionSpec := ⟨["-h", "--help"], "help", .help⟩

def mainGrammar : Grammar where
  prog := "hostwatch"
  usage := "usage: hostwatch [-h] \x7bprobe,api\x7d ..."
  help := "usage: hostwatch [-h] \x7bprobe,api\x7d ...\n\n" ++
    "hostwatch v1.0.0 - host diagnostic fingerprint\n\n" ++
    "positional arguments:\n  \x7bprobe,api\x7d\n" ++
    "    probe      Capture and analyze a host fingerprint\n" ++
    "    api        Run REST API server\n\n" ++
    "options:\n  -h, --help   show this help message and exit\n\n" ++ exitCodesText
  options := [helpOption]
  positional := some ("cmd", .command ["probe", "api"])

def probeUsage : String :=
  "usage: hostwatch probe [-h] [-q] [-j] [-w] [-i INTERVAL] [-n]\n" ++
    "                       [--config CONFIG]\n" ++
    "                       [files ...]"

def probeGrammar : Grammar where
  prog := "hostwatch probe"
  usage := probeUsage
  help := probeUsage ++ "\n\n" ++
    "positional arguments:\n" ++
    "  files                 Config files to check (default: common system configs)\n\n" ++
    "options:\n" ++
    "  -h, --help            show this help message and exit\n" ++
    "  -q, --quick           Only show quick analysis summary\n" ++
    "  -j, --json            Output JSON to stdout (even in quick mode)\n" ++
    "  -w, --watch           Continuous monitoring mode\n" ++
    "  -i INTERVAL, --interval INTERVAL\n" ++
    "                        Seconds between probes in watch mode (default: 60)\n" ++
    "  -n, --network         Include network probe (listeners, connections)\n" ++
    "  --config CONFIG       Config YAML\n\n" ++ exitCodesText
  options := [helpOption, ⟨["-q", "--quick"], "quick", .switch⟩, ⟨["-j", "--json"], "json", .switch⟩,
    ⟨["-w", "--watch"], "watch", .switch⟩, ⟨["-i", "--interval"], "interval", .integer⟩,
    ⟨["-n", "--network"], "network", .switch⟩, ⟨["--config"], "config", .text⟩]
  positional := some ("files", .texts)

def apiUsage : String := "usage: hostwatch api [-h] [--host HOST] [--port PORT] [--config CONFIG]"

def apiGrammar : Grammar where
  prog := "hostwatch api"
  usage := apiUsage
  help := apiUsage ++ "\n\n" ++
    "options:\n" ++
    "  -h, --help       show this help message and exit\n" ++
    "  --host HOST      Host to bind to\n" ++
    "  --port PORT      Port to bind to\n" ++
    "  --config CONFIG  Config YAML\n"
  options := [helpOption, ⟨["--host"], "host", .text⟩, ⟨["--port"], "port", .integer⟩,
    ⟨["--config"], "config", .text⟩]
  positional := none

/-- The choices of a survey on the command line. -/
structure ProbeOptions where
  config : Option String
  interval : Option Int
  files : List String
  quick : Bool
  json : Bool
  watch : Bool
  network : Bool
deriving Repr

/-- What the program does after reading its command line. -/
inductive Invocation where
  /-- A survey, once or every interval. -/
  | probe (o : ProbeOptions)
  /-- The HTTP service on a host and port. -/
  | serve (host : String) (port : Int) (config : Option String)
deriving Repr

def readCommandLine (argv : List String) : Except Stop Invocation := do
  let (_, topExtras, command) ← mainGrammar.read argv
  match command with
  | none => throw (mainGrammar.failure "the following arguments are required: cmd")
  | some (name, rest) =>
    let grammar := if name = "probe" then probeGrammar else apiGrammar
    let (values, subExtras, _) ← grammar.read rest
    let extras := topExtras ++ subExtras
    if !extras.isEmpty then
      throw (mainGrammar.failure ("unrecognized arguments: " ++ String.intercalate " " extras))
    if name = "probe" then
      return .probe ⟨textOf? values "config", integerOf? values "interval", textsOf values "files",
        switchOf values "quick", switchOf values "json", switchOf values "watch",
        switchOf values "network"⟩
    return .serve ((textOf? values "host").getD "127.0.0.1") ((integerOf? values "port").getD 5000)
      (textOf? values "config")

def configPathOf (argv : List String) : Option String :=
  match readCommandLine argv with
  | .ok (.probe o) => o.config
  | .ok (.serve _ _ config) => config
  | .error _ => none

/-- The configuration of a survey: the file's over `defaults`, then the interval of the command
line brought within its bounds; with the notes of the load. -/
def ProbeOptions.configuration (o : ProbeOptions) (t : FileTree) (defaults : Value) :
    Except Fault ConfigLoad := do
  let loaded ← loadConfigOver t defaults o.config
  match o.interval with
  | some n => pure { loaded with config := loaded.config.withEntry "interval" (.int (← clampInterval (.int n))) }
  | none => pure loaded

/-- One survey as the command line asks for it, in watch mode the quick report unless JSON is
asked for. -/
def ProbeOptions.survey (o : ProbeOptions) (t : FileTree) (cfg : Value) (system : Option SystemInfo) :
    Except Fault RunOutcome :=
  t.runAnalysis cfg (.list (o.files.map .str)) (o.quick || o.watch) o.json o.network system

def watchBanner (cfg : Value) : String :=
  let interval := match Value.getText? cfg.entries "interval" with
    | some v => v.displayText
    | none => ""
  s!"HostWatch v{surveyorVersion} - Watch Mode (Ctrl+C to stop)\nInterval: {interval} seconds\n\n"

def watchRoundText (time : String) (r : RunOutcome) : String :=
  s!"[{time}] " ++ r.stdout ++ " " ++ severityTag r.exitCode ++ "\n"

/-- Runs the command line against a file tree, with `defaults` as the configuration a missing
file leaves and `system` the machine when it can be read. A survey runs once, also in watch
mode; the HTTP service is not started. -/
def run (t : FileTree) (defaults : Value) (system : Option SystemInfo) (argv : List String) :
    Except Fault RunOutcome := do
  match readCommandLine argv with
  | .error (.help text) => return ⟨0, text, ""⟩
  | .error (.error text) => return ⟨2, "", text⟩
  | .ok (.serve ..) => return ⟨0, "", ""⟩
  | .ok (.probe o) =>
    let loaded ← o.configuration t defaults
    let outcome ← t.runAnalysis loaded.config (.list (o.files.map .str)) o.quick o.json o.network system
    return { outcome with stderr := String.join (loaded.notes.map (· ++ "\n")) ++ outcome.stderr }

end Cli

end HostSurvey
