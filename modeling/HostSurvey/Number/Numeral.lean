import HostSurvey.Unicode.Blank
import HostSurvey.Unicode.Digit
import HostSurvey.Number.Binary64

/-!
Reading numerals.
-/

namespace HostSurvey

def isNumeralSpace (c : Char) : Bool :=
  c = ' ' || c = '\t' || c = '\n' || c = '\x0b' || c = '\x0c' || c = '\r'

def numeralForm (c : Char) : Char :=
  if c.toNat < 127 then c
  else if isBlank c then ' '
  else match decimalValue? c with
    | some d => Char.ofNat (0x30 + d)
    | none => '?'

def digitValue (c : Char) : Option Nat :=
  if '0' ≤ c ∧ c ≤ '9' then some (c.toNat - 0x30)
  else if 'a' ≤ c ∧ c ≤ 'z' then some (c.toNat - 0x61 + 10)
  else if 'A' ≤ c ∧ c ≤ 'Z' then some (c.toNat - 0x41 + 10)
  else none

/-- Why a text is not an integer numeral. -/
inductive IntegerTextError where
  /-- The text does not follow the grammar. -/
  | invalid
  /-- The numeral has more digits than a base that is not a power of two may read. -/
  | tooManyDigits (count : Nat)
deriving DecidableEq, Repr

def maxNumeralDigits : Nat := 4300

/-- Reads digits of base `b` with single underscores between them: the value, the number of
digits, and the rest. An underscore must follow a digit and precede one. -/
def readDigitRun (b : Nat) : List Char → Nat → Nat → Option (Nat × Nat × List Char)
  | [], acc, n => if n = 0 then none else some (acc, n, [])
  | '_' :: c :: rest, acc, n =>
    match digitValue c with
    | some d => if n = 0 ∨ b ≤ d then none else readDigitRun b rest (acc * b + d) (n + 1)
    | none => none
  | c :: rest, acc, n =>
    match digitValue c with
    | some d =>
      if b ≤ d then (if n = 0 then none else some (acc, n, c :: rest))
      else readDigitRun b rest (acc * b + d) (n + 1)
    | none =>
      if c = '_' then none
      else if n = 0 then none else some (acc, n, c :: rest)

/-- The letter that may follow a leading zero to mark the base of a numeral (an underscore
may follow it): `0b` binary, `0o` octal, `0x` hexadecimal. -/
def basePrefixLetter : Nat → Option Char
  | 2 => some 'b'
  | 8 => some 'o'
  | 16 => some 'x'
  | _ => none

def splitSign : List Char → Bool × List Char
  | '+' :: rest => (false, rest)
  | '-' :: rest => (true, rest)
  | cs => (false, cs)

/-- A numeral without the prefix that marks its base, and the one underscore that may follow
the prefix. -/
def dropBasePrefix (b : Nat) (cs : List Char) : List Char :=
  match basePrefixLetter b, cs with
  | some p, '0' :: x :: rest =>
    if x.toLower = p then (match rest with
      | '_' :: r => r
      | _ => rest) else cs
  | _, _ => cs

def readIntegerAscii (b : Nat) (cs : List Char) : Except IntegerTextError Int :=
  let (neg, cs) := splitSign (cs.dropWhile isNumeralSpace)
  match readDigitRun b (dropBasePrefix b cs) 0 0 with
  | none => .error .invalid
  | some (value, count, rest) =>
    if b &&& (b - 1) ≠ 0 ∧ maxNumeralDigits < count then .error (.tooManyDigits count)
    else if rest.all isNumeralSpace then .ok (if neg then -(value : Int) else value)
    else .error .invalid

def readInteger (b : Nat) (s : String) : Except IntegerTextError Int :=
  readIntegerAscii b (s.toList.map numeralForm)

/-- Removes the underscores of a decimal numeral, each of which must stand between two
digits; `none` when one does not. -/
def dropDigitUnderscores : List Char → Option (List Char)
  | [] => some []
  | [c] => if c = '_' then none else some [c]
  | a :: '_' :: b :: rest =>
    if a.isDigit ∧ b.isDigit then (dropDigitUnderscores (b :: rest)).map (a :: ·) else none
  | a :: b :: rest =>
    if a = '_' then none else (dropDigitUnderscores (b :: rest)).map (a :: ·)

def readPlainDigits : List Char → Nat → Nat → Nat × Nat × List Char
  | c :: rest, acc, n =>
    if c.isDigit then readPlainDigits rest (acc * 10 + (c.toNat - 0x30)) (n + 1) else (acc, n, c :: rest)
  | [], acc, n => (acc, n, [])

def decimalToDouble (neg : Bool) (d : Nat) (x : Int) : Float :=
  if d = 0 then nearestDouble neg 0 1
  else
    let top := x + (Nat.toDigits 10 d).length
    if 311 < top then (if neg then -(1.0 / 0.0) else 1.0 / 0.0)
    else if top < -330 then nearestDouble neg 0 1
    else if 0 ≤ x then nearestDouble neg (d * Nat.pow 10 x.toNat) 1
    else nearestDouble neg d (Nat.pow 10 (-x).toNat)

def dropWordAnyCase (word : List Char) : List Char → Option (List Char)
  | cs => if (cs.take word.length).map Char.toLower = word then some (cs.drop word.length) else none

/-- Reads a decimal numeral (sign, digits, point, exponent, or a word for infinity or not a
number) from its ASCII form without surrounding spaces and underscores. -/
def readDecimalBody (cs : List Char) : Option Float :=
  let (neg, cs) := match cs with
    | '+' :: rest => (false, rest)
    | '-' :: rest => (true, rest)
    | _ => (false, cs)
  let inf : Float := if neg then -(1.0 / 0.0) else 1.0 / 0.0
  if (cs.map Char.toLower) = "infinity".toList ∨ (cs.map Char.toLower) = "inf".toList then some inf
  else if (cs.map Char.toLower) = "nan".toList then some (0.0 / 0.0)
  else
    let (whole, nWhole, rest) := readPlainDigits cs 0 0
    let (frac, nFrac, rest) := match rest with
      | '.' :: r => readPlainDigits r whole nWhole |> fun (v, n, r') => (v, n - nWhole, r')
      | _ => (whole, 0, rest)
    if nWhole + nFrac = 0 then none
    else
      let expPart : Option Int := match rest with
        | [] => some 0
        | e :: r =>
          if e = 'e' ∨ e = 'E' then
            let (eneg, r) := match r with
              | '+' :: r' => (false, r')
              | '-' :: r' => (true, r')
              | _ => (false, r)
            let (ev, en, r) := readPlainDigits r 0 0
            if en = 0 ∨ !r.isEmpty then none else some (if eneg then -(ev : Int) else ev)
          else none
      expPart.map (fun ex => decimalToDouble neg frac (ex - nFrac))

def readDecimal (s : String) : Option Float :=
  let cs := s.toList.map numeralForm
  let cs := (cs.dropWhile isNumeralSpace).reverse.dropWhile isNumeralSpace |>.reverse
  if cs.contains '_' then (dropDigitUnderscores cs).bind readDecimalBody
  else readDecimalBody cs

end HostSurvey
