import HostSurvey.Process.Basic
import HostSurvey.Network.Info
import HostSurvey.Files.Permissions

/-!
A survey of a host: the machine itself, its processes, its configuration files and, when it was
surveyed, its network, with the time, the version that took it and how many of its parts could
not be read.
-/

namespace HostSurvey

/-- The machine: name, kernel, time since boot, load, and memory in bytes. -/
structure SystemInfo where
  hostname : String := ""
  kernel : String := ""
  uptimeSeconds : Num := .float 0.0
  loadAvg : List Num := [.float 0.0, .float 0.0, .float 0.0]
  totalRam : Int := 0
  freeRam : Int := 0
  availableRam : Int := 0
deriving Inhabited, Repr

/-- The share of memory in use, in percent; zero when the total is not known. The share of
available memory must be a finite double. -/
def SystemInfo.memoryUsedPct (s : SystemInfo) : Except Fault Float :=
  if s.totalRam = 0 then .ok 0.0
  else match divideToDouble? s.availableRam s.totalRam with
    | some q => .ok (100.0 * (1.0 - q))
    | none => .error .quotientTooLarge

def surveyTime : String := "2000-01-01T00:00:00+00:00"

def surveyorVersion : String := "1.0.0"

/-- One survey of a host. -/
structure Fingerprint where
  ts : String := surveyTime
  version : String := surveyorVersion
  system : SystemInfo := {}
  processes : List ProcessInfo := []
  configs : List ConfigFileInfo := []
  network : NetworkInfo := {}
  networkProbed : Bool := false
  probeErrors : Int := 0
deriving Inhabited, Repr

def Fingerprint.processCount (fp : Fingerprint) : Nat := fp.processes.length

theorem memoryUsedPct_unknown (s : SystemInfo) (h : s.totalRam = 0) : s.memoryUsedPct = .ok 0.0 := by
  simp [SystemInfo.memoryUsedPct, h]

end HostSurvey
