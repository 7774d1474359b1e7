import HostSurvey.Process.Basic

/-!
What a survey of the network finds: listening sockets, established connections, their
owners, and the failures met on the way.
-/

namespace HostSurvey

/-- A socket that accepts connections or datagrams, with its owner and whether its port
is expected. -/
structure ListenerEntry where
  protocol : String
  localAddr : String
  localPort : Int
  state : String
  pid : Int := 0
  processName : String := kernelOwner
  unusual : Bool := false
  service : String := ""
deriving Inhabited, Repr

/-- An established connection with its owner. -/
structure ConnectionEntry where
  protocol : String
  localAddr : String
  localPort : Int
  remoteAddr : String
  remotePort : Int
  state : String
  pid : Int := 0
  processName : String := kernelOwner
deriving Inhabited, Repr

/-- The network part of a survey. -/
structure NetworkInfo where
  maxListeners : Int := 64
  maxConnections : Int := 128
  listeners : List ListenerEntry := []
  connections : List ConnectionEntry := []
  totalListening : Int := 0
  totalEstablished : Int := 0
  unusualPortCount : Int := 0
  listenersTruncated : Bool := false
  connectionsTruncated : Bool := false
  probeErrors : Int := 0
  errors : List String := []
deriving Inhabited, Repr

namespace NetworkInfo

def addListener (info : NetworkInfo) (entry : ListenerEntry) (unusual : Bool) : NetworkInfo :=
  let info := { info with
    totalListening := info.totalListening + 1
    unusualPortCount := info.unusualPortCount + if unusual then 1 else 0 }
  if (info.listeners.length : Int) ≥ info.maxListeners then { info with listenersTruncated := true }
  else { info with listeners := info.listeners ++ [entry] }

def addConnection (info : NetworkInfo) (entry : ConnectionEntry) : NetworkInfo :=
  let info := { info with totalEstablished := info.totalEstablished + 1 }
  if (info.connections.length : Int) ≥ info.maxConnections then
    { info with connectionsTruncated := true }
  else { info with connections := info.connections ++ [entry] }

def addError (info : NetworkInfo) (message : String) : NetworkInfo :=
  { info with probeErrors := info.probeErrors + 1, errors := info.errors ++ [message] }

theorem addListener_total (info : NetworkInfo) (e : ListenerEntry) (u : Bool) :
    (info.addListener e u).totalListening = info.totalListening + 1 := by
  unfold addListener; dsimp only; split <;> rfl

theorem addConnection_total (info : NetworkInfo) (e : ConnectionEntry) :
    (info.addConnection e).totalEstablished = info.totalEstablished + 1 := by
  unfold addConnection; dsimp only; split <;> rfl

end NetworkInfo

end HostSurvey
