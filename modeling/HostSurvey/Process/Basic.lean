import HostSurvey.Number.Num

/-!
What is known of one process: its identity, owner, state, memory, threads, open descriptors
and how long it has run.
-/

namespace HostSurvey

/-- The owner name given to sockets no process holds. -/
def kernelOwner : String := "[kernel]"

def unknownName : String := "[unknown]"

/-- One process. -/
structure ProcessInfo where
  pid : Int
  name : String := ""
  ppid : Int := 0
  state : String := "?"
  uid : String := ""
  rssKb : Int := 0
  threads : Int := 0
  fdCount : Int := 0
  ageSeconds : Num := .float 0.0
deriving Inhabited, Repr

end HostSurvey
