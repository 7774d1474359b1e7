import HostSurvey.Value.Convert

/-!
The default configuration and the survey interval.
-/

namespace HostSurvey

def defaultConfig : Value :=
  Value.record [
    ("configs", .list [.str "/etc/hosts", .str "/etc/passwd", .str "/etc/ssh/sshd_config",
      .str "/etc/fstab", .str "/etc/resolv.conf"]),
    ("proc_root", .str "/proc"),
    ("interval", .int 60),
    ("network", Value.record [("max_listeners", .int 64), ("max_connections", .int 128),
      ("extra_common_ports", .list []), ("decode_ipv6", .bool true)]),
    ("thresholds", Value.record [("high_fd", .int 100), ("high_fd_processes", .int 5),
      ("long_running_days", .int 7), ("unusual_ports_critical", .int 3)]),
    ("report", Value.record [("max_listeners", .int 10)]),
    ("api", Value.record [("secret_key", .str "hostwatch-secret-key-change-in-production"),
      ("require_auth", .bool true), ("users", .dict [])])]

def nestedSections : List String := ["network", "thresholds", "report", "api"]

def defaultInterval : Int := 60

def minInterval : Int := 1

def maxInterval : Int := 86400

/-- The survey interval a value gives: its integer, or the default when it is no integer,
kept within the shortest and longest interval. An infinite double has no integer and fails. -/
def clampInterval (v : Value) : Except Fault Int := do
  let n ← match v.toInteger with
    | .ok n => pure n
    | .error f => if f.kind = "ValueError" ∨ f.kind = "TypeError" then pure defaultInterval else throw f
  pure (max minInterval (min maxInterval n))

def Value.withEntry (v : Value) (key : String) (x : Value) : Value :=
  match v with
  | .dict es => .dict (Value.insertEntry es (.str key) x)
  | _ => v

/-- Merges a mapping into a configuration one level deep: a mapping given for a key whose
value is a mapping updates it key by key; any other value replaces the value or is added. -/
def Value.mergeOneLevel (base update : Value) : Value :=
  match base, update with
  | .dict es, .dict us =>
    .dict ((Value.dictEntries us).foldl (fun acc u =>
      match Value.lookup acc u.1, u.2 with
      | some (.dict old), .dict new =>
        Value.insertEntry acc u.1
          (.dict ((Value.dictEntries new).foldl (fun d e => Value.insertEntry d e.1 e.2) (Value.dictEntries old)))
      | _, _ => Value.insertEntry acc u.1 u.2) es)
  | _, _ => base

theorem clampInterval_int (n : Int) :
    clampInterval (.int n) = .ok (max minInterval (min maxInterval n)) := rfl

end HostSurvey
