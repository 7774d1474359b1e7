import HostSurvey.Survey.Basic
import HostSurvey.Value.Convert

/-!
Findings of a survey and the verdict they lead to.
-/

namespace HostSurvey

def exitOk : Int := 0
def exitWarnings : Int := 1
def exitCritical : Int := 2
def exitError : Int := 3

/-- The limits of an analysis. -/
structure Thresholds where
  highFd : Int := 100
  highFdProcesses : Int := 5
  longRunningDays : Float := 7.0
  unusualPortsCritical : Int := 3
deriving Inhabited, Repr

/-- One finding with its score. -/
structure Finding where
  score : Int
  reason : String
deriving Inhabited, Repr, DecidableEq

/-- The counts and findings of an analysis, and its verdict. -/
structure Analysis where
  zombieProcessCount : Int := 0
  highFdProcessCount : Int := 0
  longRunningProcessCount : Int := 0
  configPermissionIssues : Int := 0
  unusualListeners : Int := 0
  findings : List Finding := []
  exitCode : Int := 0
deriving Inhabited, Repr

def zombieFinding (p : ProcessInfo) : Finding :=
  ⟨3, s!"Zombie process {p.pid} ({p.name}), parent {p.ppid}"⟩

def descriptorFinding (p : ProcessInfo) : Finding :=
  ⟨1, s!"Process {p.pid} ({p.name}) has {p.fdCount} open descriptors"⟩

def configFinding (c : ConfigFileInfo) : Finding :=
  let issues := String.intercalate ", " c.issues
  ⟨3, s!"{c.path}: {issues} (mode {c.mode})"⟩

/-- The finding of listeners on unusual ports: how many there are, then the ports with their
protocols, when any is known. -/
def unusualPortsFinding (count : Int) (ports : List (Int × String)) : Finding :=
  let texts := ports.map fun (port, proto) => s!"{port}/{proto}"
  let detail := if texts.isEmpty then "" else ": " ++ String.intercalate ", " texts
  ⟨2, s!"{count} listener(s) on unusual ports{detail}"⟩

namespace Thresholds

/-- The limits a configuration's `thresholds` section gives: integers, and a double for the
days. -/
def ofConfig (cfg : Value) : Except Fault Thresholds := do
  let th ← cfg.getOr "thresholds" (.dict [])
  let highFd ← (← th.getOr "high_fd" (.int 100)).toInteger
  let highFdProcesses ← (← th.getOr "high_fd_processes" (.int 5)).toInteger
  let days ← (← th.getOr "long_running_days" (.int 7)).toDouble
  let critical ← (← th.getOr "unusual_ports_critical" (.int 3)).toInteger
  pure ⟨highFd, highFdProcesses, days, critical⟩

def verdict (t : Thresholds) (a : Analysis) : Int :=
  if a.zombieProcessCount > 0 ∨ a.configPermissionIssues > 0 ∨ a.unusualListeners > t.unusualPortsCritical then
    exitCritical
  else if a.highFdProcessCount > t.highFdProcesses ∨ a.unusualListeners > 0 then exitWarnings
  else exitOk

def checkProcess (t : Thresholds) (longRunning : Float) (a : Analysis) (p : ProcessInfo) : Analysis :=
  let a := if p.state = "Z" then
    { a with zombieProcessCount := a.zombieProcessCount + 1,
             findings := a.findings ++ [zombieFinding p] }
    else a
  let a := if p.fdCount > t.highFd then
    { a with highFdProcessCount := a.highFdProcessCount + 1,
             findings := a.findings ++ [descriptorFinding p] }
    else a
  if p.ageSeconds.gtDouble longRunning then
    { a with longRunningProcessCount := a.longRunningProcessCount + 1 }
  else a

def checkConfig (a : Analysis) (c : ConfigFileInfo) : Analysis :=
  if c.issues.isEmpty then a
  else
    { a with configPermissionIssues := a.configPermissionIssues + 1,
             findings := a.findings ++ [configFinding c] }

def portBefore (a b : Int × String) : Bool := a.1 < b.1 ∨ (a.1 = b.1 ∧ codePointsLe a.2 b.2)

def unusualPorts (n : NetworkInfo) : List (Int × String) :=
  let pairs := (n.listeners.filter (·.unusual)).map fun l => (l.localPort, l.protocol)
  (pairs.mergeSort portBefore).eraseDups

def checkNetwork (a : Analysis) (n : NetworkInfo) : Analysis :=
  let a := { a with unusualListeners := n.unusualPortCount }
  if n.unusualPortCount = 0 then a
  else { a with findings := a.findings ++ [unusualPortsFinding n.unusualPortCount (unusualPorts n)] }

def analyze (t : Thresholds) (fp : Fingerprint) : Analysis :=
  let longRunning := t.longRunningDays * 86400.0
  let a := fp.processes.foldl (t.checkProcess longRunning) {}
  let a := fp.configs.foldl checkConfig a
  let a := checkNetwork a fp.network
  { a with exitCode := t.verdict a }

end Thresholds

theorem verdict_clean (t : Thresholds) (h : 0 ≤ t.unusualPortsCritical) (h2 : 0 ≤ t.highFdProcesses) :
    t.verdict {} = exitOk := by
  simp only [Thresholds.verdict]
  rw [if_neg (by omega), if_neg (by omega)]

end HostSurvey
