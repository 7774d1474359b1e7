import HostSurvey.Value.Basic
import HostSurvey.Number.Numeral
import HostSurvey.Number.Decimal
import HostSurvey.Fault

/-!
Turning dynamic values into numbers, going through their items, and ordering them.
-/

namespace HostSurvey

namespace Value

def bytesNumeralText (bs : List UInt8) : String :=
  String.ofList (bs.map (fun b => if b.toNat < 0x80 then Char.ofNat b.toNat else '\x7f'))

def toInteger : Value → Except Fault Int
  | .bool b => .ok (if b then 1 else 0)
  | .int n => .ok n
  | .float x => match Float.value x with
    | .finite b => .ok b.truncate
    | .infinite _ => .error .infinityToInteger
    | .nan => .error .nanToInteger
  | .str s => match readInteger 10 s with
    | .ok n => .ok n
    | .error .invalid => .error (.badIntegerText s 10)
    | .error (.tooManyDigits n) => .error (.integerTextTooLong n)
  | .bytes bs => match readInteger 10 (bytesNumeralText bs) with
    | .ok n => .ok n
    | .error .invalid => .error (.badIntegerBytes bs 10)
    | .error (.tooManyDigits n) => .error (.integerTextTooLong n)
  | v => .error (.notIntegerLike v.typeName)

def toDouble : Value → Except Fault Float
  | .bool b => .ok (if b then 1.0 else 0.0)
  | .int n => match Int.toDouble? n with
    | some x => .ok x
    | none => .error .integerTooLarge
  | .float x => .ok x
  | .str s => match readDecimal s with
    | some x => .ok x
    | none => .error (.badDecimalText (quote s))
  | .bytes bs => match readDecimal (bytesNumeralText bs) with
    | some x => .ok x
    | none => .error (.badDecimalText (quoteBytes bs))
  | v => .error (.notDecimalLike v.typeName)

def items : Value → Except Fault (List Value)
  | .str s => .ok (s.toList.map (fun c => .str (String.singleton c)))
  | .bytes bs => .ok (bs.map (fun b => .int b.toNat))
  | .list xs => .ok (listItems xs)
  | .dict es => .ok (es.map (·.1))
  | .set xs => .ok xs
  | v => .error (.notIterable v.typeName)

/-- The items of a value, or none when the value is false. -/
def itemsOrEmpty (v : Value) : Except Fault (List Value) :=
  if v.truthy then v.items else .ok []

/-- Whether a number is at least an integer bound; other kinds cannot be ordered. -/
def atLeast (v : Value) (bound : Int) : Except Fault Bool :=
  match v with
  | .float x => match compareIntDouble bound x with
    | some .lt => .ok true
    | some .eq => .ok true
    | _ => .ok false
  | _ => match v.exactNumber with
    | some (p, k) => .ok (decide (bound * Int.pow 2 k ≤ p))
    | none => .error (.unorderable ">=" v.typeName "int")

def memberOfIntegers (v : Value) (ns : List Int) : Except Fault Bool :=
  if v.hashable then .ok (ns.any (fun n => sameKey v (.int n)))
  else .error (.unhashable v.typeName)

def record (es : List (String × Value)) : Value := .dict (es.map fun (k, v) => (.str k, v))

/-- The entry of a mapping value with a default; a value that is no mapping has no entries
to look up. -/
def getOr (v : Value) (key : String) (dflt : Value) : Except Fault Value :=
  match v with
  | .dict es => .ok ((getText? es key).getD dflt)
  | _ => .error (.missingAttribute v.typeName "get")

def asSwitch (v : Value) : Bool := v.truthy

def tooLongToWrite (n : Int) : Bool := Nat.pow 10 maxNumeralDigits ≤ n.natAbs

/-- Whether a value holds, anywhere among its items, keys and entries, an integer too long
to be written as a decimal numeral. -/
def holdsLongInteger : Value → Bool
  | .int n => tooLongToWrite n
  | .list xs | .set xs => xs.attach.any fun ⟨x, _⟩ => holdsLongInteger x
  | .dict es => es.attach.any fun ⟨e, _⟩ => holdsLongInteger e.1 || holdsLongInteger e.2
  | _ => false
termination_by v => sizeOf v
decreasing_by
  all_goals simp_wf
  · have := List.sizeOf_lt_of_mem ‹_›; omega
  · have := List.sizeOf_lt_of_mem ‹_›; omega
  · rename_i h; have := List.sizeOf_lt_of_mem h
    cases e; simp_all; omega
  · rename_i h; have := List.sizeOf_lt_of_mem h
    cases e; simp_all; omega

theorem toInteger_int (n : Int) : toInteger (.int n) = .ok n := rfl

theorem atLeast_int (n b : Int) : atLeast (.int n) b = .ok (decide (b ≤ n)) := by
  simp [atLeast, exactNumber, Int.pow]

end Value

end HostSurvey
