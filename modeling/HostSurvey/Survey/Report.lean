import HostSurvey.Survey.Analysis
import HostSurvey.Number.Decimal
import HostSurvey.Json.Write

/-!
Reports of a survey.
-/

namespace HostSurvey

/-- Terminal colours. -/
structure Palette where
  reset : String
  red : String
  yellow : String
  green : String
  cyan : String
  gray : String

def Palette.ansi : Palette :=
  ⟨"\x1b[0m", "\x1b[31m", "\x1b[33m", "\x1b[32m", "\x1b[36m", "\x1b[90m"⟩

def warnMark : String := " ⚠"

def verdictLabel (code : Int) : String :=
  if code = 0 then "OK" else if code = 1 then "WARNINGS" else if code = 2 then "CRITICAL" else "ERROR"

def severityTag (code : Int) : String :=
  let color := if code ≥ exitCritical then Palette.ansi.red
    else if code = exitWarnings then Palette.ansi.yellow else Palette.ansi.green
  s!"{color}[{verdictLabel code}]{Palette.ansi.reset}"

def markIf (flag : Bool) : String :=
  if flag then Palette.ansi.yellow ++ warnMark ++ Palette.ansi.reset else ""

def Num.fixedText (places : Nat) (n : Num) : Except Fault String :=
  (n.toFloat).map (Float.fixedText places)

/-- The first `k` items of a list, a negative `k` dropping that many from the end. -/
def sliceTo {α : Type} (xs : List α) (k : Int) : List α :=
  if k ≥ 0 then xs.take k.toNat else xs.take (xs.length - k.natAbs)

def loadLine (loads : List Num) : Except Fault String := do
  let one (i : Nat) : Except Fault String :=
    match loads[i]? with
    | some n => n.fixedText 2
    | none => throw (.formatIndex i)
  let a ← one 0
  let b ← one 1
  let c ← one 2
  pure s!"Load: {a} {b} {c}"

/-- Orders findings by score, highest first, keeping the order of equal scores. -/
def Finding.byScore (fs : List Finding) : List Finding :=
  fs.mergeSort (fun a b => b.score ≤ a.score)

/-- The decimal numeral of an integer; an integer with more digits than may be written is a
fault. -/
def integerText (n : Int) : Except Fault String :=
  if Value.tooLongToWrite n then .error .integerTooLongToWrite else .ok (toString n)

/-- The line of one listener; its port may be too long to write. -/
def ListenerEntry.line (l : ListenerEntry) : Except Fault String := do
  let name := Palette.ansi.cyan ++ l.processName ++ Palette.ansi.reset
  let flag := if l.unusual then s!" {Palette.ansi.yellow}(unusual){Palette.ansi.reset}" else ""
  let proto := if l.service.isEmpty then l.protocol else s!"{l.protocol}/{l.service}"
  let port ← integerText l.localPort
  pure s!"    {l.localAddr}:{port} ({proto}) - {name}{flag}"

def countLine (label : String) (n : Int) (flag : Bool) : String :=
  "  " ++ label ++ ": " ++ toString n ++ markIf flag

/-- The counts of potential issues under their heading: zombies and configuration files with
issues are marked when there are any, processes holding many descriptors when there are more
than the limit allows; long-running processes are counted unmarked. -/
def issueLines (a : Analysis) (t : Thresholds) : List String :=
  ["", "Potential Issues:",
    countLine "Zombie processes" a.zombieProcessCount (a.zombieProcessCount > 0),
    countLine "High FD processes" a.highFdProcessCount (a.highFdProcessCount > t.highFdProcesses),
    countLine s!"Long-running (>{Float.generalText 6 t.longRunningDays}d)" a.longRunningProcessCount false,
    countLine "Config permission issues" a.configPermissionIssues (a.configPermissionIssues > 0)]

def networkHead (n : NetworkInfo) (a : Analysis) : List String :=
  ["", "Network:", countLine "Listening ports" n.totalListening false,
    countLine "Established connections" n.totalEstablished false,
    countLine "Unusual ports" a.unusualListeners (a.unusualListeners > 0)]

/-- The listeners under their heading: the first `maxListeners` of them, and a line counting
the rest when there are more. -/
def listenerLines (n : NetworkInfo) (maxListeners : Int) : Except Fault (List String) :=
  if n.listeners.isEmpty then pure []
  else do
    let shown ← (sliceTo n.listeners maxListeners).mapM ListenerEntry.line
    let more ← if (n.listeners.length : Int) > maxListeners then do
        let rest ← integerText ((n.listeners.length : Int) - maxListeners)
        pure [s!"    ... and {rest} more"]
      else pure []
    pure (["", "  Listeners:"] ++ shown ++ more)

def capacityNote (n : NetworkInfo) : List String :=
  if n.listenersTruncated || n.connectionsTruncated then
    [s!"  {Palette.ansi.gray}(storage capacity reached: listeners {n.listeners.length}/{n.totalListening}, " ++
      s!"connections {n.connections.length}/{n.totalEstablished}){Palette.ansi.reset}"]
  else []

def networkLines (n : NetworkInfo) (a : Analysis) (maxListeners : Int) :
    Except Fault (List String) := do
  let listeners ← listenerLines n maxListeners
  pure (networkHead n a ++ listeners ++ capacityNote n)

/-- The title and the lines about the machine: its name, its time up in days and memory in
use to one decimal, the load line, and the number of processes. -/
def machineLines (fp : Fingerprint) (up : Float) (load : String) (memory : Float) : List String :=
  ["HostWatch Quick Analysis",
    "========================",
    s!"Hostname: {fp.system.hostname}",
    s!"Uptime: {Float.fixedText 1 (up / 86400.0)} days",
    load,
    s!"Memory: {Float.fixedText 1 memory}% used",
    s!"Processes: {fp.processCount} total"]

def findingLines (a : Analysis) : List String :=
  if a.findings.isEmpty then []
  else ["", "Findings:"] ++ (Finding.byScore a.findings).map fun f => s!"  [{f.score}] {f.reason}"

/-- The lines of the quick report of a survey, its analysis, and the limits it was analysed
with. -/
def quickLines (fp : Fingerprint) (a : Analysis) (maxListeners : Int) (t : Thresholds) :
    Except Fault (List String) := do
  let s := fp.system
  let up ← s.uptimeSeconds.toFloat
  let load ← loadLine s.loadAvg
  let memory ← s.memoryUsedPct
  let net ← if fp.networkProbed then networkLines fp.network a maxListeners else pure []
  pure (machineLines fp up load memory ++ issueLines a t ++ net ++ findingLines a)

def quickReport (fp : Fingerprint) (a : Analysis) (maxListeners : Int) (t : Thresholds) :
    Except Fault String :=
  (quickLines fp a maxListeners t).map fun lines => String.intercalate "\n" lines ++ "\n"

def Num.toValue : Num → Value
  | .int n => .int n
  | .float x => .float x

def ProcessInfo.toValue (p : ProcessInfo) : Value :=
  Value.record [("pid", .int p.pid), ("name", .str p.name), ("ppid", .int p.ppid),
    ("state", .str p.state), ("uid", .str p.uid), ("rss_kb", .int p.rssKb),
    ("threads", .int p.threads), ("fd_count", .int p.fdCount), ("age_seconds", p.ageSeconds.toValue)]

def ListenerEntry.toValue (e : ListenerEntry) : Value :=
  Value.record [("protocol", .str e.protocol), ("local_addr", .str e.localAddr),
    ("local_port", .int e.localPort), ("state", .str e.state), ("pid", .int e.pid),
    ("process_name", .str e.processName), ("unusual", .bool e.unusual), ("service", .str e.service)]

def ConnectionEntry.toValue (e : ConnectionEntry) : Value :=
  Value.record [("protocol", .str e.protocol), ("local_addr", .str e.localAddr),
    ("local_port", .int e.localPort), ("remote_addr", .str e.remoteAddr),
    ("remote_port", .int e.remotePort), ("state", .str e.state), ("pid", .int e.pid),
    ("process_name", .str e.processName)]

def NetworkInfo.toValue (n : NetworkInfo) : Value :=
  Value.record [("max_listeners", .int n.maxListeners), ("max_connections", .int n.maxConnections),
    ("listeners", .list (n.listeners.map ListenerEntry.toValue)),
    ("connections", .list (n.connections.map ConnectionEntry.toValue)),
    ("total_listening", .int n.totalListening), ("total_established", .int n.totalEstablished),
    ("unusual_port_count", .int n.unusualPortCount),
    ("listeners_truncated", .bool n.listenersTruncated),
    ("connections_truncated", .bool n.connectionsTruncated), ("probe_errors", .int n.probeErrors),
    ("errors", .list (n.errors.map Value.str))]

def ConfigFileInfo.toValue (c : ConfigFileInfo) : Value :=
  Value.record [("path", .str c.path), ("exists", .bool c.isPresent), ("mode", .str c.mode),
    ("uid", .int c.uid), ("gid", .int c.gid), ("size", .int c.size), ("mtime", c.mtime.toValue),
    ("issues", .list (c.issues.map Value.str))]

/-- The machine as a record, with the share of memory in use to one decimal. -/
def SystemInfo.toValue (s : SystemInfo) : Except Fault Value := do
  let memory ← s.memoryUsedPct
  pure (Value.record [("hostname", .str s.hostname), ("kernel", .str s.kernel),
    ("uptime_seconds", s.uptimeSeconds.toValue), ("load_avg", .list (s.loadAvg.map Num.toValue)),
    ("total_ram", .int s.totalRam), ("free_ram", .int s.freeRam),
    ("available_ram", .int s.availableRam), ("memory_used_pct", .float (Float.roundPlaces 1 memory))])

def Analysis.toValue (a : Analysis) : Value :=
  Value.record [("zombie_process_count", .int a.zombieProcessCount),
    ("high_fd_process_count", .int a.highFdProcessCount),
    ("long_running_process_count", .int a.longRunningProcessCount),
    ("config_permission_issues", .int a.configPermissionIssues),
    ("unusual_listeners", .int a.unusualListeners),
    ("findings", .list (a.findings.map fun f => Value.record [("score", .int f.score), ("reason", .str f.reason)])),
    ("exit_code", .int a.exitCode)]

def Fingerprint.toValue (fp : Fingerprint) (analysis : Option Analysis) : Except Fault Value := do
  let system ← fp.system.toValue
  pure <| Value.record ([("ts", .str fp.ts), ("version", .str fp.version), ("system", system),
    ("processes", .list (fp.processes.map ProcessInfo.toValue)),
    ("configs", .list (fp.configs.map ConfigFileInfo.toValue))] ++
    (if fp.networkProbed then [("network", fp.network.toValue)] else []) ++
    [("network_probed", .bool fp.networkProbed), ("probe_errors", .int fp.probeErrors),
     ("process_count", .int fp.processCount)] ++
    (match analysis with | some a => [("analysis", a.toValue)] | none => []))

/-- A survey as indented JSON text with a closing line feed; an integer too long to write is
a fault. -/
def Fingerprint.toJson (fp : Fingerprint) (analysis : Option Analysis) : Except Fault String := do
  let v ← fp.toValue analysis
  if v.holdsLongInteger then throw .integerTooLongToWrite
  pure (writeJson JsonLayout.indented v ++ "\n")

end HostSurvey
