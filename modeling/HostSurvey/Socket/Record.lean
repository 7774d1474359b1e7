import HostSurvey.Socket.Address
import HostSurvey.Unicode.Blank
import HostSurvey.Unicode.Digit

/-!
Lines of kernel socket tables.
-/

namespace HostSurvey

/-- One socket of a kernel table. -/
structure SocketRecord where
  protocol : String
  localAddr : String
  localPort : Int
  remoteAddr : String
  remotePort : Int
  state : Int
  inode : Int
deriving DecidableEq, Repr

def isHexChar (c : Char) : Bool := (hexDigitValue c).isSome

def isDecimalChar (c : Char) : Bool := isDecimalDigit c

def takeRun (p : Char → Bool) (cs : List Char) : Option (List Char × List Char) :=
  match cs.span p with
  | ([], _) => none
  | (run, rest) => some (run, rest)

def skipBlankRun (cs : List Char) : Option (List Char) :=
  (takeRun isBlank cs).map (·.2)

def expectChar (c : Char) : List Char → Option (List Char)
  | x :: rest => if x = c then some rest else none
  | [] => none

/-- The fields of a socket table line, by the grammar of the module comment. -/
structure LineFields where
  localAddr : String
  localPort : String
  remoteAddr : String
  remotePort : String
  state : String
  inode : String
deriving DecidableEq, Repr

def readEndpoint (cs : List Char) : Option ((String × String) × List Char) := do
  let (addr, cs) ← takeRun isHexChar cs
  let cs ← expectChar ':' cs
  let (port, cs) ← takeRun isHexChar cs
  let cs ← skipBlankRun cs
  pure ((String.ofList addr, String.ofList port), cs)

def readToken (cs : List Char) : Option (List Char) := do
  let (_, cs) ← takeRun (fun c => !isBlank c) cs
  skipBlankRun cs

def readNumberField (cs : List Char) : Option (List Char) := do
  let (_, cs) ← takeRun isDecimalChar cs
  skipBlankRun cs

def LineFields.read (line : String) : Option LineFields := do
  let cs := line.toList.dropWhile isBlank
  let (_, cs) ← takeRun isDecimalChar cs
  let cs ← expectChar ':' cs
  let cs ← skipBlankRun cs
  let ((la, lp), cs) ← readEndpoint cs
  let ((ra, rp), cs) ← readEndpoint cs
  let (st, cs) ← takeRun isHexChar cs
  let cs ← skipBlankRun cs
  let cs ← readToken cs
  let cs ← readToken cs
  let cs ← readToken cs
  let cs ← readNumberField cs
  let cs ← readNumberField cs
  let (ino, _) ← takeRun isDecimalChar cs
  pure ⟨la, lp, ra, rp, String.ofList st, String.ofList ino⟩

def addressWidth (protocol : String) : Nat := if isIpv6Protocol protocol then 32 else 8

def SocketRecord.ofLine (line : String) (protocol : String) (canonical : Bool) :
    Option SocketRecord := do
  let f ← LineFields.read line
  let w := addressWidth protocol
  if f.localAddr.length ≠ w ∨ f.remoteAddr.length ≠ w then none
  else
    let decoded : Except Fault SocketRecord := do
      let la ← decodeAddress f.localAddr protocol canonical
      let lp ← decodePort f.localPort
      let ra ← decodeAddress f.remoteAddr protocol canonical
      let rp ← decodePort f.remotePort
      let st ← readHexField f.state
      let ino ← match readInteger 10 f.inode with
        | .ok v => .ok v
        | .error _ => .error (Fault.badIntegerText f.inode 10)
      pure ⟨protocol, la, lp, ra, rp, st, ino⟩
    decoded.toOption

def SocketRecord.ofLines (lines : List String) (protocol : String) (canonical : Bool) :
    List SocketRecord :=
  lines.filterMap (fun l => SocketRecord.ofLine l protocol canonical)

def tcpStateNames : List String :=
  ["UNKNOWN", "ESTABLISHED", "SYN_SENT", "SYN_RECV", "FIN_WAIT1", "FIN_WAIT2", "TIME_WAIT",
   "CLOSE", "CLOSE_WAIT", "LAST_ACK", "LISTEN", "CLOSING"]

/-- The name of a TCP state, `UNKNOWN` outside the table. -/
def tcpStateName (state : Int) : String :=
  if 0 ≤ state then tcpStateNames.getD state.toNat "UNKNOWN" else "UNKNOWN"

def tcpListen : Int := 0x0A
def tcpEstablished : Int := 0x01
def udpUnconnected : Int := 0x07

/-- A record is a listener when it is a listening TCP socket, or a UDP socket that is
unconnected or bound to a port. -/
def SocketRecord.isListener (r : SocketRecord) : Bool :=
  if r.protocol.startsWith "udp" then r.state == udpUnconnected || r.localPort != 0
  else r.state == tcpListen

/-- A record is a connection when it is an established TCP socket. -/
def SocketRecord.isConnection (r : SocketRecord) : Bool :=
  r.protocol.startsWith "tcp" && r.state == tcpEstablished

end HostSurvey
