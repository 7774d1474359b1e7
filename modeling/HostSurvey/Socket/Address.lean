import HostSurvey.Number.Numeral
import HostSurvey.Fault

/-!
Addresses and ports of kernel socket tables.
-/

namespace HostSurvey

def ipv4Text (value : Int) : String :=
  let octet (k : Nat) : Int := (value / Int.pow 256 k) % 256
  s!"{octet 0}.{octet 1}.{octet 2}.{octet 3}"

def readHexField (text : String) : Except Fault Int :=
  match readInteger 16 text with
  | .ok v => .ok v
  | .error .invalid => .error (.badIntegerText text 16)
  | .error (.tooManyDigits n) => .error (.integerTextTooLong n)

def decodeIpv4 (hex : String) : Except Fault String := (readHexField hex).map ipv4Text

def hexDigitValue (c : Char) : Option Nat :=
  if '0' ≤ c ∧ c ≤ '9' then some (c.toNat - 0x30)
  else if 'a' ≤ c ∧ c ≤ 'f' then some (c.toNat - 0x61 + 10)
  else if 'A' ≤ c ∧ c ≤ 'F' then some (c.toNat - 0x41 + 10)
  else none

def hexBytes : List Char → Option (List Nat)
  | [] => some []
  | a :: b :: rest => do
    let x ← hexDigitValue a
    let y ← hexDigitValue b
    let r ← hexBytes rest
    pure ((x * 16 + y) :: r)
  | [_] => none

/-- The sixteen bytes of a kernel IPv6 address field: four words, each with its bytes
reversed. -/
def ipv6Bytes (hex : String) : Option (List Nat) :=
  if hex.length ≠ 32 then none
  else (hexBytes hex.toList).map fun bs =>
    (List.range 4).flatMap (fun w => ((bs.drop (4 * w)).take 4).reverse)

def groupsOfBytes (bs : List Nat) : List Nat :=
  (List.range 8).map (fun g => bs.getD (2 * g) 0 * 256 + bs.getD (2 * g + 1) 0)

/-- One group of the search for the leftmost longest run of zero groups. The state holds the
best run so far and the current run, each as a start and a length, and the index of the group;
a run replaces the best one only when it is strictly longer. -/
def zeroRunStep (st : (Nat × Nat) × (Nat × Nat) × Nat) (g : Nat) :
    (Nat × Nat) × (Nat × Nat) × Nat :=
  let ((bestStart, bestLen), (curStart, curLen), i) := st
  if g = 0 then
    let cs := if curLen = 0 then i else curStart
    let cl := curLen + 1
    if bestLen < cl then ((cs, cl), (cs, cl), i + 1) else ((bestStart, bestLen), (cs, cl), i + 1)
  else ((bestStart, bestLen), (0, 0), i + 1)

def longestZeroRun (gs : List Nat) : Nat × Nat :=
  (gs.foldl zeroRunStep ((0, 0), (0, 0), 0)).1

def ipv6Text (gs : List Nat) : String :=
  let hexts := gs.map (fun g => String.ofList (Nat.toDigits 16 g))
  let (start, len) := longestZeroRun gs
  if len < 2 then String.intercalate ":" hexts
  else
    let before := hexts.take start
    let after := hexts.drop (start + len)
    String.intercalate ":" before ++ "::" ++ String.intercalate ":" after

/-- Decodes an IPv6 address field; with `canonical` off, or when the field is not 32
hexadecimal digits, the field is kept. -/
def decodeIpv6 (hex : String) (canonical : Bool) : String :=
  if !canonical then hex
  else match ipv6Bytes hex with
    | some bs => ipv6Text (groupsOfBytes bs)
    | none => hex

def decodePort (hex : String) : Except Fault Int := readHexField hex

def isIpv6Protocol (protocol : String) : Bool := protocol.endsWith "6"

def decodeAddress (hex : String) (protocol : String) (canonical : Bool) : Except Fault String :=
  if isIpv6Protocol protocol then .ok (decodeIpv6 hex canonical) else decodeIpv4 hex

end HostSurvey
