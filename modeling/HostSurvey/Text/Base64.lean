/-!
Base64 text: lenient reading, and the URL-safe form of tokens.
-/

namespace HostSurvey

/-- Why base64 text could not be read. -/
inductive Base64Error where
  /-- A group was left with two or three data characters and no padding. -/
  | incorrectPadding
  /-- A group was left with one data character; `count` data characters were read in all. -/
  | danglingCharacter (count : Nat)
deriving DecidableEq, Repr

def Base64Error.message : Base64Error → String
  | .incorrectPadding => "Incorrect padding"
  | .danglingCharacter n =>
    s!"Invalid base64-encoded string: number of data characters ({n}) cannot be 1 more than a multiple of 4"

def base64Digit (b : UInt8) : Option Nat :=
  let n := b.toNat
  if 0x41 ≤ n ∧ n ≤ 0x5A then some (n - 0x41)
  else if 0x61 ≤ n ∧ n ≤ 0x7A then some (n - 0x61 + 26)
  else if 0x30 ≤ n ∧ n ≤ 0x39 then some (n - 0x30 + 52)
  else if n = 0x2B then some 62
  else if n = 0x2F then some 63
  else none

/-- Reads the rest of base64 text: `quad` data characters of the current group have been
read, `left` holds their bits not yet written, `pads` counts padding since the last data
character, and `out` holds the bytes so far, last first. -/
def decodeBase64From : List UInt8 → Nat → Nat → Nat → List UInt8 → Except Base64Error (List UInt8)
  | [], quad, _, _, out =>
    if quad = 0 then .ok out.reverse
    else if quad = 1 then .error (.danglingCharacter (out.length / 3 * 4 + 1))
    else .error .incorrectPadding
  | b :: rest, quad, left, pads, out =>
    if b = 0x3D then
      if 2 ≤ quad then
        if 4 ≤ quad + (pads + 1) then .ok out.reverse
        else decodeBase64From rest quad left (pads + 1) out
      else decodeBase64From rest quad left pads out
    else match base64Digit b with
      | none => decodeBase64From rest quad left pads out
      | some v =>
        match quad with
        | 0 => decodeBase64From rest 1 v 0 out
        | 1 => decodeBase64From rest 2 (v % 16) 0 ((left * 4 + v / 16).toUInt8 :: out)
        | 2 => decodeBase64From rest 3 (v % 4) 0 ((left * 16 + v / 4).toUInt8 :: out)
        | _ => decodeBase64From rest 0 0 0 ((left * 64 + v).toUInt8 :: out)

def decodeBase64 (bs : List UInt8) : Except Base64Error (List UInt8) := decodeBase64From bs 0 0 0 []

def base64UrlChar (n : Nat) : Char :=
  if n < 26 then Char.ofNat (0x41 + n)
  else if n < 52 then Char.ofNat (0x61 + n - 26)
  else if n < 62 then Char.ofNat (0x30 + n - 52)
  else if n = 62 then '-' else '_'

/-- Writes the bytes in groups of three as four digits; a last group of one or two bytes
gives two or three digits, with no padding. -/
def encodeBase64UrlChars : List UInt8 → List Char
  | [] => []
  | [a] => [base64UrlChar (a.toNat / 4), base64UrlChar (a.toNat % 4 * 16)]
  | [a, b] =>
    [base64UrlChar (a.toNat / 4), base64UrlChar (a.toNat % 4 * 16 + b.toNat / 16),
      base64UrlChar (b.toNat % 16 * 4)]
  | a :: b :: c :: rest =>
    base64UrlChar (a.toNat / 4) :: base64UrlChar (a.toNat % 4 * 16 + b.toNat / 16) ::
      base64UrlChar (b.toNat % 16 * 4 + c.toNat / 64) :: base64UrlChar (c.toNat % 64) ::
      encodeBase64UrlChars rest

def encodeBase64Url (bs : List UInt8) : String := String.ofList (encodeBase64UrlChars bs)

/-- Whether base64 text is strictly well formed: alphabet characters only, then exactly the
padding that completes the last group (none, `==` after two characters, `=` after three). -/
def isStrictBase64 (bs : List UInt8) : Bool :=
  let data := bs.takeWhile (fun b => (base64Digit b).isSome)
  let pads := bs.drop data.length
  pads.all (· = 0x3D) &&
    match data.length % 4, pads.length with
    | 0, 0 | 2, 2 | 3, 1 => true
    | _, _ => false

def standardDigitByte (b : UInt8) : UInt8 := if b = 0x2D then 0x2B else if b = 0x5F then 0x2F else b

/-- Reads URL-safe base64 text: padded to whole groups of four, with `-` and `_` read as
`+` and `/`, and strictly well formed. -/
def decodeBase64Url (bs : List UInt8) : Except Base64Error (List UInt8) :=
  let padded := bs ++ List.replicate ((4 - bs.length % 4) % 4) 0x3D
  let standard := padded.map standardDigitByte
  if isStrictBase64 standard then decodeBase64 standard else .error .incorrectPadding

end HostSurvey
