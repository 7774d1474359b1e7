import HostSurvey.Host.Snapshot

/-!
The `hostwatch` program.
-/

open HostSurvey

def readHostBytes (path : String) : IO (Option (List UInt8)) := do
  try
    return some (← IO.FS.readBinFile path).toList
  catch _ =>
    return none

def readHostFiles (cwd : String) (paths : List String) : IO (List (String × List UInt8)) := do
  let mut out := []
  for p in paths do
    let full := Host.absoluteText cwd p
    if let some bs ← readHostBytes full then
      out := out ++ [(full, bs)]
  return out

def reportFault (f : Fault) : IO UInt32 := do
  IO.eprintln s!"{f.kind}: {f.message}"
  return 1

def surveyHost (cwd : String) (first : List (String × List UInt8)) (o : Cli.ProbeOptions)
    (cfg : Value) : IO (Except Fault RunOutcome) := do
  let kernel ← readHostFiles cwd Host.kernelFiles
  let files ← readHostFiles cwd (Host.surveyPaths cfg o.files)
  let tree := Host.snapshot cwd (first ++ kernel ++ files)
  return o.survey tree cfg (some (Host.systemInfo (Host.textOf kernel)))

partial def watch (cwd : String) (first : List (String × List UInt8)) (o : Cli.ProbeOptions)
    (cfg : Value) (seconds : Nat) : IO UInt32 := do
  match ← surveyHost cwd first o cfg with
  | .error f => reportFault f
  | .ok r =>
    IO.eprint r.stderr
    let clock ← readHostFiles cwd ["/proc/stat", "/proc/uptime"]
    let time := ((Host.wallClock (Host.textOf clock)).map Host.clockText).getD ""
    IO.print (Cli.watchRoundText time r)
    (← IO.getStdout).flush
    IO.sleep (UInt32.ofNat (seconds * 1000))
    watch cwd first o cfg seconds

def main (args : List String) : IO UInt32 := do
  let cwd := (← IO.getEnv "PWD").getD "/"
  let first ← readHostFiles cwd (Cli.configPathOf args).toList
  let tree := Host.snapshot cwd first
  match Cli.readCommandLine args with
  | .error (.help text) =>
    IO.print text
    return 0
  | .error (.error text) =>
    IO.eprint text
    return 2
  | .ok (.serve host port config) =>
    match loadConfig tree config with
    | .error f => reportFault f
    | .ok loaded =>
      for note in loaded.notes do IO.eprintln note
      IO.eprintln s!"Error: the HTTP service cannot be started on {host}:{port} by this program"
      return 3
  | .ok (.probe o) =>
    match o.configuration tree defaultConfig with
    | .error f => reportFault f
    | .ok loaded =>
      for note in loaded.notes do IO.eprintln note
      if o.watch then
        IO.eprint (Cli.watchBanner loaded.config)
        let seconds := match Value.getText? loaded.config.entries "interval" with
          | some (.int n) => n.toNat
          | _ => Int.toNat defaultInterval
        watch cwd first o loaded.config seconds
      else
        match ← surveyHost cwd first o loaded.config with
        | .error f => reportFault f
        | .ok r =>
          IO.eprint r.stderr
          IO.print r.stdout
          return UInt32.ofNat r.exitCode.toNat
