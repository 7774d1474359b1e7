import HostSurvey.Survey.Report
import HostSurvey.Process.Scan
import HostSurvey.Network.Probe

/-!
Taking a survey of a host and reporting on it.
-/

namespace HostSurvey

/-- The clock ticks per second of surveyed processes. -/
def surveyClockTicks : Num := .int 100

def FileTree.checkConfigFiles (t : FileTree) (paths : List Value) : Except Fault (List ConfigFileInfo) :=
  paths.mapM fun p => do t.checkConfigFile (← p.pathText)

/-- The configuration files a survey checks: those asked for, or those the configuration
lists when the files asked for are a false value. -/
def configPaths (cfg configs : Value) : Except Fault (List Value) :=
  if configs.truthy then configs.items else do (← cfg.getOr "configs" (.list [])).items

/-- Takes a survey: `configs` are the configuration files asked for (a false value asks for
those of the configuration), `system` the machine when it could be read. -/
def FileTree.capture (t : FileTree) (cfg : Value) (configs : Value) (network : Bool)
    (system : Option SystemInfo) : Except Fault Fingerprint := do
  let root ← (← cfg.getOr "proc_root" (.str "/proc")).pathText
  let unreadMachine : Int := if system.isSome then 0 else 1
  let processes ← t.collectProcesses root surveyClockTicks
  let noProcesses : Int := if processes.isEmpty then 1 else 0
  let paths ← configPaths cfg configs
  let checked ← t.checkConfigFiles paths
  let absent : Int := (checked.filter (fun c => !c.isPresent)).length
  let base : Fingerprint :=
    { system := (system.getD default), processes, configs := checked,
      probeErrors := unreadMachine + noProcesses + absent }
  if network then
    let info ← (← ProbeSettings.ofConfig cfg).run t
    let surveyed : Fingerprint :=
      { base with network := info, networkProbed := true, probeErrors := base.probeErrors + info.probeErrors }
    return surveyed
  return base

/-- What a run writes and the code it ends with. -/
structure RunOutcome where
  exitCode : Int
  stdout : String
  stderr : String
deriving Repr

def Fingerprint.warnings (fp : Fingerprint) : List String :=
  if fp.probeErrors = 0 then []
  else s!"Warning: Some probes failed (errors: {fp.probeErrors})" ::
    fp.network.errors.map ("Warning: " ++ ·)

/-- The entry of a mapping value for a text key; a missing key is a fault, and so is a value
that is no mapping (lists, texts and bytes are indexed by integers only). -/
def Value.entry (v : Value) (key : String) : Except Fault Value :=
  match v with
  | .dict es => match Value.getText? es key with
    | some x => .ok x
    | none => .error (.missingKey (quote key))
  | .list _ => .error (.other "TypeError" "list indices must be integers or slices, not str")
  | .str _ => .error (.other "TypeError" "string indices must be integers, not 'str'")
  | .bytes _ => .error (.other "TypeError" "byte indices must be integers or slices, not str")
  | _ => .error (.other "TypeError" s!"'{v.typeName}' object is not subscriptable")

/-- Whether a fault is one that writing a survey as JSON reports instead of stopping on: a
value of the wrong kind or a value that cannot be written. -/
def Fault.isSerializing (f : Fault) : Bool := f.kind = "TypeError" || f.kind = "ValueError"

/-- Takes a survey, analyses it and writes the report. When the survey cannot be written as
JSON for a reason the writing reports, the run says so and ends with the error code. -/
def FileTree.runAnalysis (t : FileTree) (cfg : Value) (configs : Value) (quick json network : Bool)
    (system : Option SystemInfo) : Except Fault RunOutcome := do
  let fp ← t.capture cfg configs network system
  let thresholds ← Thresholds.ofConfig cfg
  let a := thresholds.analyze fp
  let warnings := String.join (fp.warnings.map (· ++ "\n"))
  if quick ∧ ¬json then
    let report ← cfg.entry "report"
    let maxListeners ← (← report.getOr "max_listeners" (.int 10)).toInteger
    return ⟨a.exitCode, ← quickReport fp a maxListeners thresholds, warnings⟩
  match fp.toJson (some a) with
  | .ok text => return ⟨a.exitCode, text, warnings⟩
  | .error f =>
    if f.isSerializing then
      return ⟨exitError, "",
        warnings ++ "Error: Failed to serialize fingerprint to JSON: " ++ f.message ++ "\n"⟩
    else throw f

end HostSurvey
