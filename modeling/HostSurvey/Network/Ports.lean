import HostSurvey.Value.Convert

/-!
Which listening ports are expected on a server.
-/

namespace HostSurvey

def wellKnownPorts : List (Int × String) :=
  [(22, "ssh"), (25, "smtp"), (53, "dns"), (80, "http"), (110, "pop3"), (143, "imap"),
   (443, "https"), (465, "smtps"), (587, "submission"), (993, "imaps"), (995, "pop3s"),
   (3306, "mysql"), (5432, "postgresql"), (6379, "redis"), (8080, "http-alt"),
   (8443, "https-alt"), (27017, "mongodb")]

def ephemeralPortMin : Int := 32768

/-- The ports expected to listen: the well-known ports and those a configuration adds. -/
structure PortPolicy where
  expected : List Int
deriving Repr

namespace PortPolicy

def standard : PortPolicy := ⟨wellKnownPorts.map (·.1)⟩

/-- The policy that adds the items of a value, each read as an integer, to the well-known
ports; a false value adds nothing. -/
def ofExtra (extra : Value) : Except Fault PortPolicy := do
  let items ← extra.itemsOrEmpty
  let added ← items.mapM Value.toInteger
  pure ⟨standard.expected ++ added⟩

def expects (p : PortPolicy) (port : Int) : Bool :=
  p.expected.contains port || ephemeralPortMin ≤ port

def isUnusual (p : PortPolicy) (port : Int) : Bool := !p.expects port

def serviceName (port : Int) : String :=
  match wellKnownPorts.lookup port with
  | some name => name
  | none => if ephemeralPortMin ≤ port then "ephemeral" else ""

/-- Whether a port given as a value is expected: it is one of the expected ports as a key,
or a number in the ephemeral range. -/
def expectsValue (p : PortPolicy) (port : Value) : Except Fault Bool := do
  if ← port.memberOfIntegers p.expected then pure true
  else port.atLeast ephemeralPortMin

def serviceNameOf (port : Value) : Except Fault String := do
  match wellKnownPorts.find? (fun e => Value.sameKey port (.int e.1)) with
  | some (_, name) => if port.hashable then pure name else throw (.unhashable port.typeName)
  | none =>
    if !port.hashable then throw (.unhashable port.typeName)
    else if ← port.atLeast ephemeralPortMin then pure "ephemeral" else pure ""

end PortPolicy

theorem expects_ephemeral (p : PortPolicy) (port : Int) (h : ephemeralPortMin ≤ port) :
    p.expects port = true := by
  simp [PortPolicy.expects, h]

end HostSurvey
