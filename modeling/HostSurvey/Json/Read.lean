import HostSurvey.Value.Basic
import HostSurvey.Number.Numeral
import HostSurvey.Text.Utf8
import HostSurvey.Fault
import HostSurvey.Text.Surrogate

/-!
Reading JSON documents into dynamic values.
-/

namespace HostSurvey

/-- The problem that stops the reading of a JSON document. -/
inductive JsonProblem where
  /-- The text does not follow the grammar: what was expected, and the character offset. -/
  | malformed (message : String) (offset : Nat)
  /-- An integer has more decimal digits than may be read. -/
  | integerTooLong (digits : Nat)
deriving Repr

namespace JsonRead

def isBlankJ (c : Char) : Bool := c = ' ' || c = '\t' || c = '\n' || c = '\r'

def skipBlanks (s : Array Char) (i : Nat) : Nat :=
  if h : i < s.size then
    if isBlankJ s[i] then skipBlanks s (i + 1) else i
  else i
termination_by s.size - i

def wordAt (s : Array Char) (i : Nat) (word : String) : Bool :=
  (s.extract i (i + word.length)).toList = word.toList

def skipDigits (s : Array Char) (i : Nat) : Nat :=
  if h : i < s.size then
    if s[i].isDigit then skipDigits s (i + 1) else i
  else i
termination_by s.size - i

def hex4 (s : Array Char) (i : Nat) : Option Nat :=
  (List.range 4).foldl (fun acc k =>
    acc.bind (fun a => (s[i + k]?).bind (fun c =>
      if c.isDigit then some (a * 16 + (c.toNat - 0x30))
      else if 'a' ≤ c ∧ c ≤ 'f' then some (a * 16 + (c.toNat - 0x61 + 10))
      else if 'A' ≤ c ∧ c ≤ 'F' then some (a * 16 + (c.toNat - 0x41 + 10))
      else none))) (some 0)

/-- Reads the rest of a string whose opening quote stands at `begin`, from offset `i`: the
characters (reversed) and the offset after the closing quote. -/
def readString (s : Array Char) (begin : Nat) (i : Nat) (acc : List Char) :
    Except JsonProblem (List Char × Nat) :=
  if h : i < s.size then
    let c := s[i]
    if c = '"' then .ok (acc, i + 1)
    else if c = '\\' then
      if h2 : i + 1 < s.size then
        let e := s[i + 1]
        let simple : Option Char :=
          if e = '"' then some '"' else if e = '\\' then some '\\' else if e = '/' then some '/'
          else if e = 'b' then some '\x08' else if e = 'f' then some '\x0c'
          else if e = 'n' then some '\n' else if e = 'r' then some '\r'
          else if e = 't' then some '\t' else none
        match simple with
        | some x => readString s begin (i + 2) (x :: acc)
        | none =>
          if e = 'u' then
            if s.size ≤ i + 6 then .error (.malformed "Invalid \\uXXXX escape" (i + 1))
            else match hex4 s (i + 2) with
              | none => .error (.malformed "Invalid \\uXXXX escape" (i + 1))
              | some u =>
                if 0xD800 ≤ u ∧ u < 0xDC00 ∧ i + 12 < s.size ∧ s[i + 6]? = some '\\' ∧ s[i + 7]? = some 'u' then
                  match hex4 s (i + 8) with
                  | none => .error (.malformed "Invalid \\uXXXX escape" (i + 7))
                  | some u2 =>
                    if 0xDC00 ≤ u2 ∧ u2 < 0xE000 then
                      readString s begin (i + 12)
                        (Char.ofNat (0x10000 + (u - 0xD800) * 0x400 + (u2 - 0xDC00)) :: acc)
                    else readString s begin (i + 6) (charOfCode u :: acc)
                else readString s begin (i + 6) (charOfCode u :: acc)
          else .error (.malformed "Invalid \\escape" i)
      else .error (.malformed "Unterminated string starting at" begin)
    else if c.toNat ≤ 0x1F then .error (.malformed "Invalid control character at" i)
    else readString s begin (i + 1) (c :: acc)
  else .error (.malformed "Unterminated string starting at" begin)
termination_by s.size - i

/-- The offset after the integer part of a number at `j`: a single `0`, or a digit from `1`
to `9` and the digits after it. -/
def intPartEnd (s : Array Char) (j : Nat) : Option Nat :=
  match s[j]? with
  | some '0' => some (j + 1)
  | some c => if '1' ≤ c ∧ c ≤ '9' then some (skipDigits s (j + 1)) else none
  | none => none

def fracPart (s : Array Char) (k : Nat) : Bool × Nat :=
  if s[k]? = some '.' ∧ (s[k + 1]?.map Char.isDigit) = some true then (true, skipDigits s (k + 2))
  else (false, k)

def expPart (s : Array Char) (k : Nat) : Bool × Nat :=
  if s[k]? = some 'e' ∨ s[k]? = some 'E' then
    let k1 := if s[k + 1]? = some '+' ∨ s[k + 1]? = some '-' then k + 2 else k + 1
    let k2 := skipDigits s k1
    if k1 < k2 then (true, k2) else (false, k)
  else (false, k)

/-- Reads a number that starts at offset `i`: the value and the offset after it, or `none`
when no number starts there. An integer of too many digits is refused. -/
def readNumber (s : Array Char) (i : Nat) : Option (Except JsonProblem (Value × Nat)) :=
  let j := if s[i]? = some '-' then i + 1 else i
  (intPartEnd s j).map fun k =>
    let (isFrac, k) := fracPart s k
    let (isExp, k) := expPart s k
    let text := String.ofList (s.extract i k).toList
    if isFrac ∨ isExp then
      .ok (.float ((readDecimal text).getD 0.0), k)
    else
      match readInteger 10 text with
      | .ok n => .ok (.int n, k)
      | .error (.tooManyDigits n) => .error (.integerTooLong n)
      | .error _ => .ok (.int 0, k)

/-- Reads one value at offset `i` (blanks already skipped): the value and the offset after
it. `depth` bounds the nesting and is never reached, since every level takes a character. -/
def readValue (s : Array Char) (depth : Nat) (i : Nat) : Except JsonProblem (Value × Nat) :=
  match depth with
  | 0 => .error (.malformed "Expecting value" i)
  | depth + 1 =>
    match s[i]? with
    | none => .error (.malformed "Expecting value" i)
    | some '"' => (readString s i (i + 1) []).map fun (cs, k) => (.str (String.ofList cs.reverse), k)
    | some '{' => readMembers s depth (skipBlanks s (i + 1)) [] true
    | some '[' => readItems s depth (skipBlanks s (i + 1)) [] true
    | some 'n' => if wordAt s i "null" then .ok (.null, i + 4) else .error (.malformed "Expecting value" i)
    | some 't' => if wordAt s i "true" then .ok (.bool true, i + 4) else .error (.malformed "Expecting value" i)
    | some 'f' => if wordAt s i "false" then .ok (.bool false, i + 5) else .error (.malformed "Expecting value" i)
    | some 'N' => if wordAt s i "NaN" then .ok (.float (0.0 / 0.0), i + 3) else .error (.malformed "Expecting value" i)
    | some 'I' =>
      if wordAt s i "Infinity" then .ok (.float (1.0 / 0.0), i + 8) else .error (.malformed "Expecting value" i)
    | some c =>
      if c = '-' ∧ wordAt s i "-Infinity" then .ok (.float (-(1.0 / 0.0)), i + 9)
      else match readNumber s i with
        | some r => r
        | none => .error (.malformed "Expecting value" i)
where
  /-- Reads the members of an object from offset `i`, the entries so far given. -/
  readMembers (s : Array Char) (depth : Nat) (i : Nat) (acc : List (Value × Value)) (first : Bool) :
      Except JsonProblem (Value × Nat) :=
    match depth with
    | 0 => .error (.malformed "Expecting value" i)
    | depth + 1 =>
      if first ∧ s[i]? = some '}' then .ok (.dict acc, i + 1)
      else if s[i]? ≠ some '"' then .error (.malformed "Expecting property name enclosed in double quotes" i)
      else match readString s i (i + 1) [] with
        | .error e => .error e
        | .ok (key, k) =>
          let k := skipBlanks s k
          if s[k]? ≠ some ':' then .error (.malformed "Expecting ':' delimiter" k)
          else
            match readValue s (depth + 1) (skipBlanks s (k + 1)) with
            | .error e => .error e
            | .ok (v, k) =>
              let acc := Value.insertEntry acc (.str (String.ofList key.reverse)) v
              let k := skipBlanks s k
              if s[k]? = some '}' then .ok (.dict acc, k + 1)
              else if s[k]? ≠ some ',' then .error (.malformed "Expecting ',' delimiter" k)
              else readMembers s depth (skipBlanks s (k + 1)) acc false
  /-- Reads the items of an array from offset `i`, the items so far given (reversed). -/
  readItems (s : Array Char) (depth : Nat) (i : Nat) (acc : List Value) (first : Bool) :
      Except JsonProblem (Value × Nat) :=
    match depth with
    | 0 => .error (.malformed "Expecting value" i)
    | depth + 1 =>
      if first ∧ s[i]? = some ']' then .ok (.list acc.reverse, i + 1)
      else
        match readValue s (depth + 1) i with
        | .error e => .error e
        | .ok (v, k) =>
          let k := skipBlanks s k
          if s[k]? = some ']' then .ok (.list (v :: acc).reverse, k + 1)
          else if s[k]? ≠ some ',' then .error (.malformed "Expecting ',' delimiter" k)
          else readItems s depth (skipBlanks s (k + 1)) (v :: acc) false

end JsonRead

def readJson (text : String) : Except JsonProblem Value :=
  let s := text.toList.toArray
  let i := JsonRead.skipBlanks s 0
  match JsonRead.readValue s (2 * s.size + 2) i with
  | .error e => .error e
  | .ok (v, k) =>
    let k := JsonRead.skipBlanks s k
    if k = s.size then .ok v else .error (.malformed "Extra data" k)

def JsonProblem.render (p : JsonProblem) (text : String) : String :=
  match p with
  | .malformed message offset =>
    let before := text.toList.take offset
    let line := before.count '\n' + 1
    let col := (before.reverse.takeWhile (· != '\n')).length + 1
    s!"{message}: line {line} column {col} (char {offset})"
  | .integerTooLong n => (Fault.integerTextTooLong n).message

end HostSurvey
