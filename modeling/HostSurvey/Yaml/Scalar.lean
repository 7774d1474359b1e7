import HostSurvey.Value.Basic
import HostSurvey.Number.Numeral
import HostSurvey.Number.Binary64
import HostSurvey.Unicode.Case
import HostSurvey.Text.Base64
import HostSurvey.Text.Quote
import HostSurvey.Fault

/-!
The values of scalars of the YAML type repository.
-/

namespace HostSurvey

namespace Yaml

def emptyIndexFault : Fault := .other "IndexError" "string index out of range"

def boolOfText (text : String) : Except Fault Bool :=
  let word := lowerText text
  if word = "yes" ∨ word = "true" ∨ word = "on" then .ok true
  else if word = "no" ∨ word = "false" ∨ word = "off" then .ok false
  else .error (.missingKey (quote word))

def integerOfBase (b : Nat) (text : String) : Except Fault Int :=
  match readInteger b text with
  | .ok n => .ok n
  | .error .invalid => .error (.badIntegerText text b)
  | .error (.tooManyDigits n) => .error (.integerTextTooLong n)

def sexagesimalValue (groups : List Int) : Int :=
  groups.foldl (fun acc g => acc * 60 + g) 0

def intOfText (text : String) : Except Fault Int := do
  let cs := text.toList.filter (· ≠ '_')
  match cs with
  | [] => throw emptyIndexFault
  | c :: _ =>
    let sign : Int := if c = '-' then -1 else 1
    let cs := if c = '+' ∨ c = '-' then cs.drop 1 else cs
    match cs with
    | ['0'] => return 0
    | '0' :: 'b' :: r => return sign * (← integerOfBase 2 (String.ofList r))
    | '0' :: 'x' :: r => return sign * (← integerOfBase 16 (String.ofList r))
    | '0' :: _ => return sign * (← integerOfBase 8 (String.ofList cs))
    | [] => throw emptyIndexFault
    | _ =>
      if cs.contains ':' then
        let groups ← ((String.ofList cs).splitOn ":").mapM (integerOfBase 10)
        return sign * sexagesimalValue groups
      else return sign * (← integerOfBase 10 (String.ofList cs))

def doubleOfText (text : String) : Except Fault Float :=
  match readDecimal text with
  | some x => .ok x
  | none => .error (.badDecimalText (quote text))

/-- The sum of base-60 groups of doubles, each group times its weight, added from the last. -/
def sexagesimalDouble : List Float → Nat → Float → Except Fault Float
  | [], _, acc => .ok acc
  | g :: rest, weight, acc =>
    match Int.toDouble? weight with
    | some w => sexagesimalDouble rest (weight * 60) (acc + g * w)
    | none => .error .integerTooLarge

def floatOfText (text : String) : Except Fault Float := do
  let cs := (lowerText text).toList.filter (· ≠ '_')
  match cs with
  | [] => throw emptyIndexFault
  | c :: _ =>
    let neg := c = '-'
    let signed (x : Float) : Float := if neg then -x else x
    let cs := if c = '+' ∨ c = '-' then cs.drop 1 else cs
    if cs = ".inf".toList then return signed (1.0 / 0.0)
    if cs = ".nan".toList then return (0.0 / 0.0)
    if cs.contains ':' then
      let groups ← ((String.ofList cs).splitOn ":").mapM doubleOfText
      return signed (← sexagesimalDouble groups.reverse 1 0.0)
    return signed (← doubleOfText (String.ofList cs))

/-- Why text could not be written in ASCII: the first character outside it, or the run of
such characters that starts there. -/
def asciiProblem (cs : List Char) : Option String :=
  match cs.findIdx? (fun c => 128 ≤ c.toNat) with
  | none => none
  | some i =>
    let run := ((cs.drop i).takeWhile (fun c => 128 ≤ c.toNat)).length
    if run = 1 then
      let code := (cs.getD i ' ').toNat
      let escape :=
        if code ≤ 0xFF then "\\x" ++ String.ofList (hexDigits 2 code)
        else if code ≤ 0xFFFF then "\\u" ++ String.ofList (hexDigits 4 code)
        else "\\U" ++ String.ofList (hexDigits 8 code)
      some s!"'ascii' codec can't encode character '{escape}' in position {i}: ordinal not in range(128)"
    else
      some s!"'ascii' codec can't encode characters in position {i}-{i + run - 1}: ordinal not in range(128)"

def bytesOfText (text : String) : Except String (List UInt8) :=
  let cs := text.toList
  match asciiProblem cs with
  | some p => .error ("failed to convert base64 data into ascii: " ++ p)
  | none =>
    match decodeBase64 (cs.map (fun c => c.toNat.toUInt8)) with
    | .ok bs => .ok bs
    | .error e => .error ("failed to decode base64 data: " ++ e.message)

/-- The fields of a date or time stamp as written. -/
structure StampText where
  year : Nat
  month : Nat
  day : Nat
  /-- Hour, minute, second, the fraction's digits and the zone, when a time is given. -/
  time : Option (Nat × Nat × Nat × List Char × Option (Option (Bool × Nat × Nat)))
deriving Repr

def digitsValue (cs : List Char) : Nat := cs.foldl (fun n c => n * 10 + (c.toNat - 0x30)) 0

def leadingDigits (cs : List Char) : Option (List Char × List Char) :=
  match cs with
  | a :: b :: rest =>
    if a.isDigit ∧ b.isDigit then some ([a, b], rest)
    else if a.isDigit then some ([a], b :: rest) else none
  | [a] => if a.isDigit then some ([a], []) else none
  | [] => none

/-- Reads the zone of a time stamp after its seconds and fraction: none, `Z`, or a signed
offset in hours with optional minutes. -/
def readZone (cs : List Char) : Option (Option (Option (Bool × Nat × Nat))) :=
  match cs with
  | [] => some none
  | _ =>
    match cs.dropWhile isSpaceOrTabChar with
    | ['Z'] => some (some none)
    | s :: rest =>
      if s = '+' ∨ s = '-' then
        match leadingDigits rest with
        | some (h, []) => some (some (some (s = '-', digitsValue h, 0)))
        | some (h, [':', a, b]) =>
          if a.isDigit ∧ b.isDigit then some (some (some (s = '-', digitsValue h, digitsValue [a, b])))
          else none
        | _ => none
      else none
    | [] => none
where
  isSpaceOrTabChar (c : Char) : Bool := c = ' ' ∨ c = '\t'

def readStampAll (cs : List Char) : Option StampText :=
  match cs with
  | y1 :: y2 :: y3 :: y4 :: '-' :: rest =>
    if !([y1, y2, y3, y4].all Char.isDigit) then none
    else
      match leadingDigits rest with
      | some (m, '-' :: rest) =>
        match leadingDigits rest with
        | some (d, rest) =>
          let date (time : Option _) : StampText :=
            ⟨digitsValue [y1, y2, y3, y4], digitsValue m, digitsValue d, time⟩
          match rest with
          | [] => some (date none)
          | c :: rest =>
            let afterSep :=
              if c = 'T' ∨ c = 't' then some rest
              else if c = ' ' ∨ c = '\t' then some (rest.dropWhile (fun c => c = ' ' ∨ c = '\t'))
              else none
            match afterSep.bind leadingDigits with
            | some (h, ':' :: m1 :: m2 :: ':' :: s1 :: s2 :: rest) =>
              if !([m1, m2, s1, s2].all Char.isDigit) then none
              else
                let (frac, rest) := match rest with
                  | '.' :: r => (r.takeWhile Char.isDigit, r.dropWhile Char.isDigit)
                  | _ => ([], rest)
                (readZone rest).map fun zone =>
                  date (some (digitsValue h, digitsValue [m1, m2], digitsValue [s1, s2], frac, zone))
            | _ => none
        | none => none
      | _ => none
  | _ => none

def readStamp (cs : List Char) : Option StampText :=
  match readStampAll cs with
  | some t => some t
  | none => if cs.getLast? = some '\n' then readStampAll cs.dropLast else none

def isLeapYear (y : Nat) : Bool := y % 4 = 0 ∧ (y % 100 ≠ 0 ∨ y % 400 = 0)

def daysInMonth (y m : Nat) : Nat :=
  if m = 2 then (if isLeapYear y then 29 else 28)
  else if m = 4 ∨ m = 6 ∨ m = 9 ∨ m = 11 then 30 else 31

def checkDate (y m d : Nat) : Except Fault CalendarDate :=
  if y < 1 ∨ 9999 < y then .error (.other "ValueError" s!"year {y} is out of range")
  else if m < 1 ∨ 12 < m then .error (.other "ValueError" "month must be in 1..12")
  else if d < 1 ∨ daysInMonth y m < d then .error (.other "ValueError" "day is out of range for month")
  else .ok ⟨y, m, d⟩

def spanText (seconds : Int) : String :=
  let days := seconds / 86400
  let rest := seconds % 86400
  let parts := (if days ≠ 0 then [s!"days={days}"] else []) ++ (if rest ≠ 0 then [s!"seconds={rest}"] else [])
  "datetime.timedelta(" ++ (if parts.isEmpty then "0" else String.intercalate ", " parts) ++ ")"

/-- The offset of a zone in minutes, which must lie strictly within a day. -/
def zoneOffset : Option (Bool × Nat × Nat) → Except Fault (Option Int)
  | none => .ok (some 0)
  | some (neg, h, m) =>
    let minutes : Int := (if neg then -1 else 1) * ((h : Int) * 60 + m)
    if minutes.natAbs < 24 * 60 then .ok (some minutes)
    else .error (.other "ValueError" ("offset must be a timedelta strictly between -timedelta(hours=24) and timedelta(hours=24), not " ++ spanText (minutes * 60) ++ "."))

/-- The date or time stamp a scalar stands for; `none` when the text is not one. -/
def stampOfText (text : String) : Option (Except Fault Value) :=
  (readStamp text.toList).map fun t => do
    match t.time with
    | none => return .date (← checkDate t.year t.month t.day)
    | some (h, mi, s, frac, zone) =>
      let micro := if frac.isEmpty then 0 else digitsValue ((frac.take 6) ++ List.replicate (6 - frac.length) '0')
      let offset ← match zone with
        | none => pure none
        | some z => zoneOffset z
      let date ← checkDate t.year t.month t.day
      if 23 < h then throw (.other "ValueError" "hour must be in 0..23")
      if 59 < mi then throw (.other "ValueError" "minute must be in 0..59")
      if 59 < s then throw (.other "ValueError" "second must be in 0..59")
      return .stamp ⟨date, h, mi, s, micro, offset⟩

end Yaml

end HostSurvey
