import HostSurvey.Unicode.Digit
import HostSurvey.Number.Numeral
import HostSurvey.Fault

/-!
Socket inodes of descriptor targets.
-/

namespace HostSurvey

def socketLinkPrefix : String := "socket:["

/-- The inode named by a descriptor target, 0 when it names no socket. -/
def socketInode (link : String) : Except Fault Int :=
  if link.startsWith socketLinkPrefix ∧ link.endsWith "]" ∧ socketLinkPrefix.length < link.length then
    let inner := String.ofList ((link.toList.drop socketLinkPrefix.length).dropLast)
    if isDigitText inner then
      match readInteger 10 inner with
      | .ok n => .ok n
      | .error .invalid => .error (.badIntegerText inner 10)
      | .error (.tooManyDigits n) => .error (.integerTextTooLong n)
    else .ok 0
  else .ok 0

end HostSurvey
