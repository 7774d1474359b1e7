import HostSurvey.Network.Info
import HostSurvey.Network.Ports
import HostSurvey.Socket.Table
import HostSurvey.Process.Scan

/-!
Surveying the network through the kernel's socket tables.
-/

namespace HostSurvey

def socketSources : List (String × String) :=
  [("tcp", "net/tcp"), ("tcp6", "net/tcp6"), ("udp", "net/udp"), ("udp6", "net/udp6")]

/-- How the network is surveyed. -/
structure ProbeSettings where
  root : String
  policy : PortPolicy
  maxListeners : Int
  maxConnections : Int
  canonical : Bool
deriving Repr

def Value.pathText : Value → Except Fault String
  | .str s => .ok (PathName.ofText s).text
  | .bytes _ => .error (.badArgument
      "argument should be a str object or an os.PathLike object returning str, not <class 'bytes'>")
  | v => .error (.notPathLike v.typeName)

namespace ProbeSettings

/-- The settings a configuration gives: the process directory, the ports its `network`
section adds to the expected ones, the limits, and whether IPv6 addresses are written in
canonical form. -/
def ofConfig (cfg : Value) : Except Fault ProbeSettings := do
  let net ← cfg.getOr "network" (.dict [])
  let root ← cfg.getOr "proc_root" (.str "/proc")
  let policy ← PortPolicy.ofExtra (← net.getOr "extra_common_ports" (.list []))
  let maxL ← (← net.getOr "max_listeners" (.int 64)).toInteger
  let maxC ← (← net.getOr "max_connections" (.int 128)).toInteger
  let canonical := (← net.getOr "decode_ipv6" (.bool true)).truthy
  let rootText ← root.pathText
  pure ⟨rootText, policy, maxL, maxC, canonical⟩

end ProbeSettings

/-- What a survey carries from socket to socket: the findings, the owners of sockets once
they are looked up, and the names of owners already read. -/
structure ProbeState where
  info : NetworkInfo
  owners : Option (List (Int × Int)) := none
  names : List (Int × String) := []

namespace ProbeSettings

def ownerOf (s : ProbeSettings) (t : FileTree) (st : ProbeState) (inode : Int) :
    Except Fault (Int × String × ProbeState) := do
  let owners ← match st.owners with
    | some o => pure o
    | none => t.socketOwners s.root
  let pid := (owners.lookup inode).getD 0
  match st.names.lookup pid with
  | some n => pure (pid, n, { st with owners := some owners })
  | none =>
    let n ← t.processName s.root pid
    pure (pid, n, { st with owners := some owners, names := st.names ++ [(pid, n)] })

def addRecord (s : ProbeSettings) (t : FileTree) (st : ProbeState) (r : SocketRecord) :
    Except Fault ProbeState := do
  if r.isListener then
    let (pid, name, st) ← s.ownerOf t st r.inode
    let state := if r.protocol.startsWith "udp" then "LISTEN" else tcpStateName r.state
    let unusual := s.policy.isUnusual r.localPort
    let entry : ListenerEntry := ⟨r.protocol, r.localAddr, r.localPort, state, pid, name, unusual,
      PortPolicy.serviceName r.localPort⟩
    pure { st with info := st.info.addListener entry unusual }
  else if r.isConnection then
    let (pid, name, st) ← s.ownerOf t st r.inode
    let entry : ConnectionEntry := ⟨r.protocol, r.localAddr, r.localPort, r.remoteAddr, r.remotePort,
      tcpStateName r.state, pid, name⟩
    pure { st with info := st.info.addConnection entry }
  else pure st

def run (s : ProbeSettings) (t : FileTree) : Except Fault NetworkInfo := do
  let start : ProbeState := ⟨{ maxListeners := s.maxListeners, maxConnections := s.maxConnections }, none, []⟩
  let final ← socketSources.foldlM (fun st (protocol, rel) =>
    match t.socketTable ((PathName.ofText s.root).slash rel).text protocol s.canonical with
    | .error (.sourceUnavailable m) => pure { st with info := st.info.addError m }
    | .error f => throw f
    | .ok records => records.foldlM (s.addRecord t) st) start
  pure final.info

end ProbeSettings

end HostSurvey
