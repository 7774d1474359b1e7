import HostSurvey.Number.Binary64

/-!
Dynamic values.
-/

namespace HostSurvey

/-- A calendar date. -/
structure CalendarDate where
  year : Nat
  month : Nat
  day : Nat
deriving DecidableEq, Repr

/-- A date with a time of day, microseconds, and an optional offset from UTC in minutes. -/
structure TimeStamp where
  date : CalendarDate
  hour : Nat
  minute : Nat
  second : Nat
  micro : Nat
  offset : Option Int
deriving DecidableEq, Repr

/-- A dynamic value. -/
inductive Value where
  | null
  | bool (b : Bool)
  | int (n : Int)
  | float (x : Float)
  | str (s : String)
  | bytes (b : List UInt8)
  | list (items : List Value)
  | dict (entries : List (Value × Value))
  | set (items : List Value)
  | date (d : CalendarDate)
  | stamp (t : TimeStamp)
  /-- The container `depth` levels up: 0 is the list or mapping that holds this value. -/
  | backRef (depth : Nat)
deriving Inhabited, Repr

/-- The number of a day counted from 1970-01-01 on the proleptic Gregorian calendar (days
before it are negative). Years are counted from March, so that the leap day ends a year. -/
def CalendarDate.dayNumber (d : CalendarDate) : Int :=
  let y : Int := (d.year : Int) - (if d.month ≤ 2 then 1 else 0)
  let era := (if y ≥ 0 then y else y - 399) / 400
  let yoe := y - era * 400
  let m : Int := d.month
  let doy := (153 * (if m > 2 then m - 3 else m + 9) + 2) / 5 + (d.day : Int) - 1
  let doe := yoe * 365 + yoe / 4 - yoe / 100 + doy
  era * 146097 + doe - 719468

/-- The instant a time stamp names, in microseconds from 1970-01-01 00:00 UTC, its offset
taken off (a time stamp without an offset is read as UTC). -/
def TimeStamp.instantKey (t : TimeStamp) : Int :=
  ((t.date.dayNumber * 24 + (t.hour : Int)) * 60 + (t.minute : Int) - t.offset.getD 0) * 60 * 1000000 +
    (t.second : Int) * 1000000 + (t.micro : Int)

namespace Value

def typeName : Value → String
  | .null => "NoneType"
  | .bool _ => "bool"
  | .int _ => "int"
  | .float _ => "float"
  | .str _ => "str"
  | .bytes _ => "bytes"
  | .list _ => "list"
  | .dict _ => "dict"
  | .set _ => "set"
  | .date _ => "datetime.date"
  | .stamp _ => "datetime.datetime"
  | .backRef _ => "list"

/-- The truth of a value: nothing, false, zero and empty values are false. -/
def truthy : Value → Bool
  | .null => false
  | .bool b => b
  | .int n => n ≠ 0
  | .float x => !(x == 0.0)
  | .str s => !s.isEmpty
  | .bytes b => !b.isEmpty
  | .list xs => !xs.isEmpty
  | .dict es => !es.isEmpty
  | .set xs => !xs.isEmpty
  | .date _ => true
  | .stamp _ => true
  | .backRef _ => true

/-- Whether a value can be a key (containers cannot). -/
def hashable : Value → Bool
  | .list _ | .dict _ | .set _ | .backRef _ => false
  | _ => true

/-- The exact numeric value of a number as a fraction with a power-of-two denominator,
`none` for a double that is not finite and for other kinds. -/
def exactNumber : Value → Option (Int × Nat)
  | .bool b => some (if b then 1 else 0, 0)
  | .int n => some (n, 0)
  | .float x => match Float.value x with
    | .finite b => some b.scaled
    | _ => none
  | _ => none

def sameKey : Value → Value → Bool
  | .null, .null => true
  | .str a, .str b => a == b
  | .bytes a, .bytes b => a == b
  | .date a, .date b => a == b
  | .stamp a, .stamp b =>
    match a.offset, b.offset with
    | some _, some _ => a.instantKey == b.instantKey
    | none, none => a == b
    | _, _ => false
  | .float a, .float b => a == b
  | a, b =>
    match a.exactNumber, b.exactNumber with
    | some (p, i), some (q, j) => p * Int.pow 2 j == q * Int.pow 2 i
    | _, _ => false

/-- Puts `c` in the place of every reference to the container `level` levels above a value:
one step of unfolding a container `c` that holds itself. -/
def fillRefs (c : Value) (level : Nat) : Value → Value
  | .backRef n => if n = level then c else .backRef n
  | .list xs => .list (xs.attach.map fun ⟨x, _⟩ => fillRefs c (level + 1) x)
  | .dict es => .dict (es.attach.map fun ⟨e, _⟩ => (e.1, fillRefs c (level + 1) e.2))
  | v => v
termination_by v => sizeOf v
decreasing_by
  all_goals simp_wf
  · have := List.sizeOf_lt_of_mem ‹_›; omega
  · rename_i h; have := List.sizeOf_lt_of_mem h
    cases e; simp_all; omega

def listItems (xs : List Value) : List Value := xs.map (fillRefs (.list xs) 0)

def dictEntries (es : List (Value × Value)) : List (Value × Value) :=
  es.map fun e => (e.1, fillRefs (.dict es) 0 e.2)

/-- Whether a value holds a reference, that is, whether it holds itself somewhere. -/
def holdsItself : Value → Bool
  | .backRef _ => true
  | .list xs => xs.attach.any fun ⟨x, _⟩ => holdsItself x
  | .dict es => es.attach.any fun ⟨e, _⟩ => holdsItself e.2
  | _ => false
termination_by v => sizeOf v
decreasing_by
  all_goals simp_wf
  · have := List.sizeOf_lt_of_mem ‹_›; omega
  · rename_i h; have := List.sizeOf_lt_of_mem h
    cases e; simp_all; omega

def lookup (entries : List (Value × Value)) (k : Value) : Option Value :=
  (entries.find? (fun e => sameKey e.1 k)).map (fun e => fillRefs (.dict entries) 0 e.2)

/-- Sets the entry of a key: an equal key keeps its place and its own form and takes the
new value; a new key is added at the end. -/
def insertEntry (entries : List (Value × Value)) (k v : Value) : List (Value × Value) :=
  if entries.any (fun e => sameKey e.1 k) then
    entries.map (fun e => if sameKey e.1 k then (e.1, v) else e)
  else entries ++ [(k, v)]

def getText? (entries : List (Value × Value)) (key : String) : Option Value :=
  lookup entries (.str key)

theorem sameKey_text (a b : String) : sameKey (.str a) (.str b) = (a == b) := rfl

end Value

end HostSurvey
