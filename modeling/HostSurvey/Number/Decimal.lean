import HostSurvey.Number.Binary64

/-!
Decimal text of doubles.
-/

namespace HostSurvey

def decimalLength (n : Nat) : Nat := (Nat.toDigits 10 n).length

/-- An exact positive fraction `num / den`. -/
structure Fraction where
  num : Nat
  den : Nat
deriving Repr

def Fraction.ofBinary (m : Nat) (e : Int) : Fraction :=
  if 0 ≤ e then ⟨m * Nat.pow 2 e.toNat, 1⟩ else ⟨m, Nat.pow 2 (-e).toNat⟩

def Fraction.ofDecimal (c : Nat) (p : Int) : Fraction :=
  if 0 ≤ p then ⟨c * Nat.pow 10 p.toNat, 1⟩ else ⟨c, Nat.pow 10 (-p).toNat⟩

def Fraction.cmp (a b : Fraction) : Ordering := compare (a.num * b.den) (b.num * a.den)

def Fraction.floorScaled (q : Fraction) (p : Int) : Nat :=
  if 0 ≤ p then q.num / (q.den * Nat.pow 10 p.toNat) else q.num * Nat.pow 10 (-p).toNat / q.den

def Fraction.decimalExponent (q : Fraction) : Int :=
  let whole := q.num / q.den
  if 0 < whole then (decimalLength whole : Int) - 1
  else
    -- the least j with 10^j · q ≥ 1 is the least j with 10^j ≥ ⌈den / num⌉
    let c := (q.den + q.num - 1) / q.num
    (0 : Int) - (decimalLength (c - 1) : Int)

def stripTrailingZeros (d : Nat) (p : Int) (fuel : Nat) : Nat × Int :=
  match fuel with
  | 0 => (d, p)
  | fuel + 1 => if d ≠ 0 ∧ d % 10 = 0 then stripTrailingZeros (d / 10) (p + 1) fuel else (d, p)

/-- The decimals with `k` significant digits nearest below and above `v`, found on the grid
of step `10^p` where `p = t - k + 1`. -/
def gridNeighbours (v : Fraction) (t : Int) (k : Nat) : Nat × Nat × Int :=
  let p := t - k + 1
  let c := v.floorScaled p
  (c, c + 1, p)

def Fraction.within (lo hi x : Fraction) (closed : Bool) : Bool :=
  match lo.cmp x, x.cmp hi with
  | .lt, .lt => true
  | .eq, .lt => closed
  | .lt, .eq => closed
  | .eq, .eq => closed
  | _, _ => false

def shortestSearch (v lo hi : Fraction) (closed : Bool) (t : Int) :
    (k : Nat) → (fuel : Nat) → Nat × Int
  | _, 0 => (v.floorScaled (t - 16), t - 16)
  | k, fuel + 1 =>
    let (c, c', p) := gridNeighbours v t k
    let below := Fraction.within lo hi (Fraction.ofDecimal c p) closed && c ≠ 0
    let above := Fraction.within lo hi (Fraction.ofDecimal c' p) closed
    if below && above then
      -- the nearer one; a tie goes to the even digit string
      let dBelow := (v.cmp (Fraction.ofDecimal c p), v)
      let diffBelow : Fraction := ⟨v.num * (Fraction.ofDecimal c p).den - (Fraction.ofDecimal c p).num * v.den, v.den * (Fraction.ofDecimal c p).den⟩
      let diffAbove : Fraction := ⟨(Fraction.ofDecimal c' p).num * v.den - v.num * (Fraction.ofDecimal c' p).den, v.den * (Fraction.ofDecimal c' p).den⟩
      let _ := dBelow
      match diffBelow.cmp diffAbove with
      | .lt => (c, p)
      | .gt => (c', p)
      | .eq => if c % 2 = 0 then (c, p) else (c', p)
    else if below then (c, p)
    else if above then (c', p)
    else shortestSearch v lo hi closed t (k + 1) fuel

/-- The shortest decimal `d · 10^p` of the positive double `m · 2^e`: no decimal with fewer
significant digits reads back as the same double, and of those with as many it is the
nearest. Trailing zeros are dropped from `d`. -/
def shortestDecimal (m : Nat) (e : Int) : Nat × Int :=
  let f := e - 2
  let v := Fraction.ofBinary (4 * m) f
  let hi := Fraction.ofBinary (4 * m + 2) f
  let lowGap := if m = Nat.pow 2 52 ∧ -1074 < e then 1 else 2
  let lo := Fraction.ofBinary (4 * m - lowGap) f
  let t := v.decimalExponent
  let (d, p) := shortestSearch v lo hi (m % 2 = 0) t 1 17
  stripTrailingZeros d p 20

def Fraction.roundScaled (q : Fraction) (places : Int) : Nat :=
  if 0 ≤ places then
    let a := q.num * Nat.pow 10 places.toNat
    roundHalfEven (a / q.den) (a % q.den) q.den
  else
    let b := q.den * Nat.pow 10 (-places).toNat
    roundHalfEven (q.num / b) (q.num % b) b

def paddedDigits (width : Nat) (n : Nat) : List Char :=
  let ds := Nat.toDigits 10 n
  List.replicate (width - ds.length) '0' ++ ds

/-- Writes the integer `r` scaled by `10^-places` with exactly `places` digits after the
point (no point when `places = 0`). -/
def placeDigits (places : Nat) (r : Nat) : List Char :=
  let ds := paddedDigits (places + 1) r
  if places = 0 then ds
  else ds.take (ds.length - places) ++ '.' :: ds.drop (ds.length - places)

/-- How the shortest text of a double is written. -/
structure ShortestStyle where
  /-- Positional when the point position lies above this. -/
  lowPositional : Int
  /-- Positional when the point position is at most this. -/
  highPositional : Int
  /-- The least number of exponent digits. -/
  exponentDigits : Nat
  nanText : String
  infinityText : String

/-- The shortest text of doubles in reports and messages: positional for point positions
-3 to 16, `nan` and `inf` for the values that are not finite. -/
def ShortestStyle.plain : ShortestStyle := ⟨-4, 16, 2, "nan", "inf"⟩

/-- The shortest text of doubles in JSON documents, where the values that are not finite
are written `NaN` and `Infinity`. -/
def ShortestStyle.json : ShortestStyle := ⟨-4, 16, 2, "NaN", "Infinity"⟩

def exponentText (width : Nat) (x : Int) : List Char :=
  (if x < 0 then '-' else '+') :: paddedDigits width x.natAbs

def ShortestStyle.render (st : ShortestStyle) (x : Float) : String :=
  match Float.value x with
  | .nan => st.nanText
  | .infinite neg => (if neg then "-" else "") ++ st.infinityText
  | .finite b =>
    let sign := if b.neg then "-" else ""
    if b.mant = 0 then sign ++ "0.0"
    else
      let (d, p) := shortestDecimal b.mant b.exp
      let ds := Nat.toDigits 10 d
      let n : Int := ds.length
      let decpt := p + n
      let body : List Char :=
        if st.lowPositional < decpt ∧ decpt ≤ st.highPositional then
          if decpt ≤ 0 then '0' :: '.' :: (List.replicate (-decpt).toNat '0' ++ ds)
          else if n ≤ decpt then ds ++ List.replicate (decpt - n).toNat '0' ++ ['.', '0']
          else ds.take decpt.toNat ++ '.' :: ds.drop decpt.toNat
        else
          let mantissa := match ds with
            | [c] => [c]
            | c :: rest => c :: '.' :: rest
            | [] => ['0']
          mantissa ++ 'e' :: exponentText st.exponentDigits (decpt - 1)
      sign ++ String.ofList body

def Float.shortText (x : Float) : String := ShortestStyle.plain.render x

def Float.fixedText (places : Nat) (x : Float) : String :=
  match Float.value x with
  | .nan => "nan"
  | .infinite neg => if neg then "-inf" else "inf"
  | .finite b =>
    let sign := if b.neg then "-" else ""
    let r := (Fraction.ofBinary b.mant b.exp).roundScaled places
    sign ++ String.ofList (placeDigits places r)

def dropFractionZeros (cs : List Char) : List Char :=
  if cs.contains '.' then
    let r := (cs.reverse.dropWhile (· == '0'))
    (match r with
      | '.' :: rest => rest
      | _ => r).reverse
  else cs

/-- General text with `precision` significant digits (at least one): positional when the
decimal exponent lies in `-4 ≤ x < precision`, with an exponent otherwise, trailing zeros
dropped in both. -/
def Float.generalText (precision : Nat) (x : Float) : String :=
  let prec := max precision 1
  match Float.value x with
  | .nan => "nan"
  | .infinite neg => if neg then "-inf" else "inf"
  | .finite b =>
    let sign := if b.neg then "-" else ""
    if b.mant = 0 then sign ++ "0"
    else
      let v := Fraction.ofBinary b.mant b.exp
      let t0 := v.decimalExponent
      let r0 := v.roundScaled ((prec : Int) - 1 - t0)
      -- rounding may carry into a new leading digit
      let (r, t) := if r0 = Nat.pow 10 prec then (Nat.pow 10 (prec - 1), t0 + 1) else (r0, t0)
      if -4 ≤ t ∧ t < prec then
        let places := ((prec : Int) - 1 - t).toNat
        sign ++ String.ofList (dropFractionZeros (placeDigits places r))
      else
        let ds := paddedDigits prec r
        let mantissa := dropFractionZeros (match ds with
          | c :: rest => c :: '.' :: rest
          | [] => ['0'])
        sign ++ String.ofList (mantissa ++ 'e' :: exponentText 2 t)

/-- The double nearest to `x` rounded to `places` decimal places, a tie going to the even
last digit of the exact binary value. -/
def Float.roundPlaces (places : Nat) (x : Float) : Float :=
  match Float.value x with
  | .finite b =>
    let r := (Fraction.ofBinary b.mant b.exp).roundScaled places
    nearestDouble b.neg r (Nat.pow 10 places)
  | _ => x

end HostSurvey
