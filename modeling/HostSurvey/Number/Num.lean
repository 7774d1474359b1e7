import HostSurvey.Number.Binary64
import HostSurvey.Fault

/-!
Numbers that are integers or doubles.
-/

namespace HostSurvey

/-- A number that is an integer or a double, kept in the kind it was given. -/
inductive Num where
  | int (n : Int)
  | float (x : Float)
deriving Inhabited, Repr

namespace Num

/-- The double of a number; an integer beyond the finite doubles has none. -/
def toFloat : Num → Except Fault Float
  | .int n => match Int.toDouble? n with
    | some x => .ok x
    | none => .error .integerTooLarge
  | .float x => .ok x

/-- Whether a number is not zero (a value that is not a number counts as not zero). -/
def truthy : Num → Bool
  | .int n => n != 0
  | .float x => x != 0.0

def compareDouble (a : Num) (y : Float) : Option Ordering :=
  match a with
  | .int n => compareIntDouble n y
  | .float x =>
    if x < y then some .lt else if x == y then some .eq else if y < x then some .gt else none

def gtDouble (a : Num) (y : Float) : Bool := a.compareDouble y == some .gt

def intDiv (a : Int) (b : Num) : Except Fault Float :=
  match b with
  | .int 0 => .error .divisionByZero
  | .int d => match divideToDouble? a d with
    | some x => .ok x
    | none => .error .quotientTooLarge
  | .float y => do
    let x ← (Num.int a).toFloat
    if y == 0.0 then throw .floatDivisionByZero else pure (x / y)

end Num

end HostSurvey
