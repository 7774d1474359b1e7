/-!
Binary64 doubles as exact numbers.
-/

namespace HostSurvey

/-- A finite double: its value is `(-1)^neg · mant · 2^exp`. -/
structure Binary where
  neg : Bool
  mant : Nat
  exp : Int
deriving DecidableEq, Repr

/-- What the bits of a double stand for. -/
inductive DoubleValue where
  | finite (b : Binary)
  | infinite (neg : Bool)
  | nan
deriving DecidableEq, Repr

def Float.value (x : Float) : DoubleValue :=
  let bits := x.toBits.toNat
  let neg := decide (Nat.pow 2 63 ≤ bits)
  let expField : Nat := (bits / Nat.pow 2 52) % 2048
  let frac : Nat := bits % Nat.pow 2 52
  if expField = 2047 then (if frac = 0 then .infinite neg else .nan)
  else if expField = 0 then .finite ⟨neg, frac, -1074⟩
  else .finite ⟨neg, frac + Nat.pow 2 52, (expField : Int) - 1075⟩

def scaledDivision (num den : Nat) (s : Int) : Nat × Nat × Nat :=
  if 0 ≤ s then
    let a := num * Nat.pow 2 s.toNat
    (a / den, a % den, den)
  else
    let b := den * Nat.pow 2 (-s).toNat
    (num / b, num % b, b)

def roundHalfEven (q r den : Nat) : Nat :=
  if 2 * r > den ∨ (2 * r = den ∧ q % 2 = 1) then q + 1 else q

def infinityBits : Nat := 0x7FF0000000000000

def nearestBits (n d : Nat) : Nat :=
  let k : Int := (n.log2 : Int) - (d.log2 : Int)
  let s0 : Int := 52 - k
  let s1 := if (scaledDivision n d s0).1 < Nat.pow 2 52 then s0 + 1 else s0
  if 1074 < s1 then
    -- below the normal range every double is a multiple of 2^-1074
    let (q, r, den) := scaledDivision n d 1074
    roundHalfEven q r den
  else
    let (q, r, den) := scaledDivision n d s1
    let q' := roundHalfEven q r den
    let (m, e) := if q' = Nat.pow 2 53 then (Nat.pow 2 52, 53 - s1) else (q', 52 - s1)
    let biased := e + 1023
    if 2047 ≤ biased then infinityBits
    else biased.toNat * Nat.pow 2 52 + (m - Nat.pow 2 52)

/-- The double nearest to the fraction `±n / d`; zero when `n = 0` or `d = 0`. -/
def nearestDouble (neg : Bool) (n d : Nat) : Float :=
  let magnitude := if n = 0 ∨ d = 0 then 0 else nearestBits n d
  Float.ofBits (UInt64.ofNat (magnitude + if neg then Nat.pow 2 63 else 0))

/-- The double nearest to an integer, or `none` when it lies beyond the finite doubles. -/
def Int.toDouble? (i : Int) : Option Float :=
  if i ≠ 0 ∧ nearestBits i.natAbs 1 = infinityBits then none
  else some (nearestDouble (decide (i < 0)) i.natAbs 1)

/-- The double nearest to the quotient of two integers, the divisor not zero; none when the
quotient lies beyond the finite doubles. -/
def divideToDouble? (a b : Int) : Option Float :=
  if a ≠ 0 ∧ b ≠ 0 ∧ nearestBits a.natAbs b.natAbs = infinityBits then none
  else some (nearestDouble (decide ((a < 0) ≠ (b < 0))) a.natAbs b.natAbs)

def Binary.truncate (b : Binary) : Int :=
  let mag : Nat := if 0 ≤ b.exp then b.mant * Nat.pow 2 b.exp.toNat else b.mant / Nat.pow 2 (-b.exp).toNat
  if b.neg then -(mag : Int) else mag

/-- The exact value of a finite double as a fraction whose denominator is a power of two:
numerator and exponent `k` with value `num / 2^k`. -/
def Binary.scaled (b : Binary) : Int × Nat :=
  let signed : Int := if b.neg then -(b.mant : Int) else b.mant
  if 0 ≤ b.exp then (signed * Int.pow 2 b.exp.toNat, 0) else (signed, (-b.exp).toNat)

/-- Compares an integer with a double by exact value; `none` when the double is not a number. -/
def compareIntDouble (i : Int) (x : Float) : Option Ordering :=
  match Float.value x with
  | .nan => none
  | .infinite neg => some (if neg then .gt else .lt)
  | .finite b =>
    let (num, k) := b.scaled
    some (compare (i * Int.pow 2 k) num)

theorem scaledDivision_nonneg (num den : Nat) (s : Nat) :
    scaledDivision num den s = (num * Nat.pow 2 s / den, num * Nat.pow 2 s % den, den) := by
  simp [scaledDivision]

theorem roundHalfEven_le (q r den : Nat) : q ≤ roundHalfEven q r den := by
  unfold roundHalfEven; split <;> omega

theorem roundHalfEven_of_lt {q r den : Nat} (h : 2 * r < den) : roundHalfEven q r den = q := by
  unfold roundHalfEven; split <;> omega

end HostSurvey
