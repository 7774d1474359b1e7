import HostSurvey.Files.Text
import HostSurvey.Socket.Record

/-!
Kernel socket tables read from files.
-/

namespace HostSurvey

def Fault.reason : Fault → String
  | .system e _ => e.text
  | f => f.message

def FileTree.socketTable (t : FileTree) (path : String) (protocol : String) (canonical : Bool) :
    Except Fault (List SocketRecord) :=
  match t.tableBody path with
  | .ok lines => .ok (SocketRecord.ofLines lines protocol canonical)
  | .error f =>
    if f.isSystem then .error (.sourceUnavailable (path ++ ": " ++ f.reason)) else .error f

end HostSurvey
