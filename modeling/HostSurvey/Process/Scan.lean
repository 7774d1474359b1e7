import HostSurvey.Process.Basic
import HostSurvey.Files.Text
import HostSurvey.Socket.Inode
import HostSurvey.Value.Convert

/-!
Reading processes from a kernel process directory.
-/

namespace HostSurvey

namespace FileTree

def processPath (root : String) (pid : Int) (entry : String) : String :=
  ((PathName.ofText root).slash (toString pid) |>.slash entry).text

def processIds (t : FileTree) (root : String) : Except Fault (List Int) := do
  ((← t.namesOrNone root).filter isDigitText).mapM (fun n => Value.toInteger (.str n))

/-- The owners of socket inodes: every inode held by a process, with the first process in
directory order that holds it, in the order they are found. -/
def socketOwners (t : FileTree) (root : String) : Except Fault (List (Int × Int)) := do
  let pids ← t.processIds root
  pids.foldlM (fun index pid => do
    (← t.descriptorTargets (processPath root pid "fd")).foldlM (fun index fdTarget => do
      let inode ← socketInode fdTarget.2
      if inode = 0 ∨ index.any (·.1 == inode) then pure index
      else pure (index ++ [(inode, pid)])) index) []

/-- The name of a process: the first line of its `comm` file without surrounding blanks;
sockets of no process belong to the kernel. -/
def processName (t : FileTree) (root : String) (pid : Int) : Except Fault String := do
  if pid ≤ 0 then return kernelOwner
  let name := trimBlanks (← t.firstLineOf (processPath root pid "comm") 256)
  return if name.isEmpty then unknownName else name

/-- The seconds since boot: the first word of the `uptime` file read as a decimal; zero when
it cannot be read. -/
def uptime (t : FileTree) (root : String) : Except Fault Float := do
  let line ← t.firstLineOf ((PathName.ofText root).slash "uptime").text 256
  return match blankWords line with
    | w :: _ => (readDecimal w).getD 0.0
    | [] => 0.0

end FileTree

def integerOrZero (s : String) : Int := (readInteger 10 s).toOption.getD 0

/-- The start time of a process in clock ticks: the twentieth word after the last closing
parenthesis of its `stat` line; zero when there is none or it is no integer. -/
def startTicks (statLine : String) : Int :=
  let rest := match splitLast ')' statLine.toList with
    | some (_, after) => String.ofList after
    | none => statLine
  match (blankWords rest)[19]? with
  | some w => integerOrZero w
  | none => 0

def firstWordInteger (s : String) : Int :=
  match blankWords s with
  | w :: _ => integerOrZero w
  | [] => 0

/-- How long a process has run: the uptime less its start, never below zero; computed only
when both the start and the uptime are not zero. -/
def processAge (uptime : Num) (start : Int) (clockTicks : Num) : Except Fault Num := do
  if start = 0 ∨ !uptime.truthy then return .float 0.0
  let started ← Num.intDiv start clockTicks
  let up ← uptime.toFloat
  let age := up - started
  pure (.float (if age > 0.0 then age else 0.0))

namespace FileTree

/-- What the files of one process tell; none when its `status` has no fields. -/
def analyzeProcess (t : FileTree) (root : String) (pid : Int) (uptime : Num) (clockTicks : Num) :
    Except Fault (Option ProcessInfo) := do
  let status ← t.fieldsOf (processPath root pid "status") ":" 200
  if status.isEmpty then return none
  let field (k : String) : Option String := status.lookup k
  let state := match (field "State").getD "" |>.toList with
    | c :: _ => String.singleton c
    | [] => "?"
  let uid := match field "Uid" with
    | some u => (blankWords u).headD ""
    | none => ""
  let start := startTicks (← t.firstLineOf (processPath root pid "stat") 4096)
  let age ← processAge uptime start clockTicks
  pure (some {
    pid := pid
    name := (field "Name").getD ""
    ppid := match field "PPid" with | some v => integerOrZero v | none => 0
    state := state
    uid := uid
    rssKb := firstWordInteger ((field "VmRSS").getD "")
    threads := match field "Threads" with | some v => integerOrZero v | none => 0
    fdCount := (← t.namesOrNone (processPath root pid "fd")).length
    ageSeconds := age })

/-- Every process of a kernel process directory in pid order, read with the uptime of the
directory and the given clock ticks per second. -/
def collectProcesses (t : FileTree) (root : String) (clockTicks : Num) :
    Except Fault (List ProcessInfo) := do
  let up ← t.uptime root
  let pids ← t.processIds root
  let sorted := sortBy (fun a b => decide (a ≤ b)) pids
  let infos ← sorted.mapM (fun pid => t.analyzeProcess root pid (.float up) clockTicks)
  pure infos.reduceOption

end FileTree

end HostSurvey
