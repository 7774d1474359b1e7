import HostSurvey.Cli.Command
import HostSurvey.Text.Trim
import HostSurvey.Number.Numeral

/-!
A live host seen through the files that can be read by name.
-/

namespace HostSurvey

namespace Host

def kernelFiles : List String :=
  ["/proc/sys/kernel/hostname", "/proc/sys/kernel/osrelease", "/proc/uptime", "/proc/loadavg",
   "/proc/meminfo", "/proc/stat"]

/-- The text of a path as the host reads it: an absolute path as it is, a relative one under
the working directory `cwd`. -/
def absoluteText (cwd path : String) : String := ((PathName.ofText cwd).slash path).text

def snapshot (cwd : String) (files : List (String × List UInt8)) : FileTree :=
  files.foldl (fun t (path, data) =>
    let parts := (PathName.ofText path).parts
    match t.makeParents parts with
    | .ok t => t.setAt parts (.file data) ⟨0o644, 0, 0, 0.0⟩
    | .error _ => t) { FileTree.empty with workDir := some (PathName.ofText cwd).parts }

/-- The files a survey under a configuration reads by name: the configuration files to check
(those given, else those the configuration lists) and the socket tables. -/
def surveyPaths (cfg : Value) (files : List String) : List String :=
  let root := match Value.getText? cfg.entries "proc_root" with
    | some (.str r) => r
    | _ => "/proc"
  let listed := match Value.getText? cfg.entries "configs" with
    | some (.list xs) => (Value.listItems xs).filterMap fun x => match x with | .str s => some s | _ => none
    | _ => []
  (if files.isEmpty then listed else files) ++
    socketSources.map fun (_, name) => ((PathName.ofText root).slash name).text

/-- The text of a file read by path, decoded as UTF-8 (malformed bytes dropped). -/
def textOf (files : List (String × List UInt8)) (path : String) : Option String :=
  (files.lookup path).map fun bs => String.ofList (decodeUtf8Lenient bs)

def words (s : String) : List String := blankWords s

def numberOf (w : String) : Option Num :=
  match readInteger 10 w with
  | .ok n => some (.int n)
  | .error _ => (readDecimal w).map .float

def memoryCounter (meminfo key : String) : Int :=
  let line := (meminfo.splitOn "\n").find? (fun l => l.startsWith (key ++ ":"))
  match line.map words with
  | some (_ :: n :: _) => match readInteger 10 n with
    | .ok k => k * 1024
    | .error _ => 0
  | _ => 0

/-- The machine as its kernel files describe it; `read` gives a file's text when it could be
read. -/
def systemInfo (read : String → Option String) : SystemInfo :=
  let trimmed (p : String) := (read p).map trimBlanks |>.getD ""
  let uptime := ((read "/proc/uptime").bind fun t => (words t).head?.bind numberOf).getD (.float 0.0)
  let loads := ((read "/proc/loadavg").map fun t => ((words t).take 3).filterMap numberOf).getD []
  let meminfo := (read "/proc/meminfo").getD ""
  { hostname := trimmed "/proc/sys/kernel/hostname"
    kernel := trimmed "/proc/sys/kernel/osrelease"
    uptimeSeconds := uptime
    loadAvg := if loads.length = 3 then loads else [.float 0.0, .float 0.0, .float 0.0]
    totalRam := memoryCounter meminfo "MemTotal"
    freeRam := memoryCounter meminfo "MemFree"
    availableRam := memoryCounter meminfo "MemAvailable" }

def civilDate (days : Int) : Int × Int × Int :=
  let z := days + 719468
  let era := (if z ≥ 0 then z else z - 146096) / 146097
  let doe := z - era * 146097
  let yoe := (doe - doe / 1460 + doe / 36524 - doe / 146096) / 365
  let doy := doe - (365 * yoe + yoe / 4 - yoe / 100)
  let mp := (5 * doy + 2) / 153
  let day := doy - (153 * mp + 2) / 5 + 1
  let month := if mp < 10 then mp + 3 else mp - 9
  let year := yoe + era * 400 + (if month ≤ 2 then 1 else 0)
  (year, month, day)

def clockText (seconds : Int) : String :=
  let (y, m, d) := civilDate (seconds / 86400)
  let s := seconds % 86400
  let two (n : Int) := String.ofList (paddedDigits 2 n.toNat)
  s!"{String.ofList (paddedDigits 4 y.toNat)}-{two m}-{two d} {two (s / 3600)}:{two (s % 3600 / 60)}:{two (s % 60)}"

/-- The time of day, in seconds since 1970-01-01 UTC, from the boot time of `/proc/stat` and
the time since boot of `/proc/uptime`. -/
def wallClock (read : String → Option String) : Option Int := do
  let stat ← read "/proc/stat"
  let line ← (stat.splitOn "\n").find? (·.startsWith "btime ")
  let boot ← (words line)[1]?
  let boot ← (readInteger 10 boot).toOption
  let up ← (read "/proc/uptime").bind fun t => (words t).head?
  let up ← (readInteger 10 ((up.splitOn ".").headD "")).toOption
  pure (boot + up)

end Host

end HostSurvey
