import HostSurvey.Text.Utf8
import HostSurvey.Text.Quote
import HostSurvey.Text.Surrogate

/-!
Decoding the bytes of a JSON document into text.
-/

namespace HostSurvey

/-- The encodings a JSON document can be read in. -/
inductive TextEncoding where
  | utf8
  | utf8Marked
  | utf16 (bigEndian : Bool)
  | utf16Marked
  | utf32 (bigEndian : Bool)
  | utf32Marked
deriving DecidableEq, Repr

/-- Why bytes could not be decoded: the codec, the range of bytes at fault, the first of
them, and what is wrong. -/
structure DecodeFailure where
  codec : String
  start : Nat
  stop : Nat
  firstByte : UInt8
  reason : String
deriving DecidableEq, Repr

def DecodeFailure.message (e : DecodeFailure) : String :=
  if e.stop ≤ e.start + 1 then
    s!"'{e.codec}' codec can't decode byte 0x{String.ofList (hexDigits 2 e.firstByte.toNat)} in position {e.start}: {e.reason}"
  else s!"'{e.codec}' codec can't decode bytes in position {e.start}-{e.stop - 1}: {e.reason}"

def Utf8Error.toFailure (e : Utf8Error) : DecodeFailure :=
  let reason := match e.problem with
    | .invalidStart => "invalid start byte"
    | .invalidContinuation => "invalid continuation byte"
    | .unexpectedEnd => "unexpected end of data"
  ⟨"utf-8", e.start, e.stop, e.firstByte, reason⟩

def detectEncoding (bs : List UInt8) : TextEncoding :=
  if [0x00, 0x00, 0xFE, 0xFF].isPrefixOf bs || [0xFF, 0xFE, 0x00, 0x00].isPrefixOf bs then
    .utf32Marked
  else if [0xFE, 0xFF].isPrefixOf bs || [0xFF, 0xFE].isPrefixOf bs then .utf16Marked
  else if [0xEF, 0xBB, 0xBF].isPrefixOf bs then .utf8Marked
  else match bs with
    | b0 :: b1 :: b2 :: b3 :: _ =>
      if b0 = 0 then (if b1 ≠ 0 then .utf16 true else .utf32 true)
      else if b1 = 0 then (if b2 ≠ 0 || b3 ≠ 0 then .utf16 false else .utf32 false)
      else .utf8
    | [b0, b1] =>
      if b0 = 0 then .utf16 true
      else if b1 = 0 then .utf16 false
      else .utf8
    | _ => .utf8

def spellsSurrogate (b : UInt8) (rest : List UInt8) : Bool :=
  match rest with
  | x :: y :: _ => b = 0xED && 0xA0 ≤ x && x ≤ 0xBF && 0x80 ≤ y && y ≤ 0xBF
  | _ => false

def decodeUtf8PassingFrom (pos : Nat) (bs : List UInt8) : Except DecodeFailure (List Char) :=
  match bs with
  | [] => .ok []
  | b :: rest =>
    if spellsSurrogate b rest then
      let code := 0xD000 + (rest.headD 0).toNat % 64 * 64 + (rest.getD 1 0).toNat % 64
      (decodeUtf8PassingFrom (pos + 3) (rest.drop 2)).map (charOfCode code :: ·)
    else
      match h : readUtf8Char b rest with
      | .ok (c, after) =>
        have := readUtf8Char_rest_length h
        (decodeUtf8PassingFrom (pos + (rest.length + 1 - after.length)) after).map (c :: ·)
      | .error (p, n) => .error (Utf8Error.toFailure ⟨p, pos, pos + n, b⟩)
termination_by bs.length
decreasing_by
  · simp only [List.length_cons, List.length_drop]; omega
  · simp only [List.length_cons]; omega

def codePointChar (u : Nat) : Char := charOfCode u

def unit16 (big : Bool) (b0 b1 : UInt8) : Nat :=
  if big then b0.toNat * 256 + b1.toNat else b1.toNat * 256 + b0.toNat

/-- UTF-16 from byte offset `pos`: a pair of surrogates joins into one character, a surrogate
alone is let through, and a byte left alone at the end is cut off. -/
def decodeUtf16From (codec : String) (big : Bool) (pos : Nat) : List UInt8 → Except DecodeFailure (List Char)
  | [] => .ok []
  | [b] => .error ⟨codec, pos, pos + 1, b, "truncated data"⟩
  | b0 :: b1 :: rest =>
    let u := unit16 big b0 b1
    if 0xD800 ≤ u ∧ u ≤ 0xDBFF then
      match hr : rest with
      | c0 :: c1 :: rest2 =>
        let v := unit16 big c0 c1
        if 0xDC00 ≤ v ∧ v ≤ 0xDFFF then
          (decodeUtf16From codec big (pos + 4) rest2).map
            (Char.ofNat (0x10000 + (u - 0xD800) * 0x400 + (v - 0xDC00)) :: ·)
        else (decodeUtf16From codec big (pos + 2) (c0 :: c1 :: rest2)).map (charOfCode u :: ·)
      | _ => (decodeUtf16From codec big (pos + 2) rest).map (charOfCode u :: ·)
    else (decodeUtf16From codec big (pos + 2) rest).map (codePointChar u :: ·)
termination_by bs => bs.length
decreasing_by all_goals (try subst hr); all_goals simp only [List.length_cons]; all_goals omega

/-- UTF-32 from byte offset `pos`: a unit beyond U+10FFFF fails, and bytes short of a unit at
the end are cut off. -/
def decodeUtf32From (codec : String) (big : Bool) (pos : Nat) : List UInt8 → Except DecodeFailure (List Char)
  | b0 :: b1 :: b2 :: b3 :: rest =>
    let u := if big then ((b0.toNat * 256 + b1.toNat) * 256 + b2.toNat) * 256 + b3.toNat
      else ((b3.toNat * 256 + b2.toNat) * 256 + b1.toNat) * 256 + b0.toNat
    if u > 0x10FFFF then .error ⟨codec, pos, pos + 4, b0, "code point not in range(0x110000)"⟩
    else (decodeUtf32From codec big (pos + 4) rest).map (codePointChar u :: ·)
  | [] => .ok []
  | b :: rest => .error ⟨codec, pos, pos + 1 + rest.length, b, "truncated data"⟩

def codecName (width : Nat) (big : Bool) : String :=
  s!"utf-{width}-" ++ if big then "be" else "le"

def decodeIn (enc : TextEncoding) (bs : List UInt8) : Except DecodeFailure (List Char) :=
  match enc with
  | .utf8 => decodeUtf8PassingFrom 0 bs
  | .utf8Marked => decodeUtf8PassingFrom 0 (bs.drop 3)
  | .utf16 big => decodeUtf16From (codecName 16 big) big 0 bs
  | .utf16Marked =>
    let big := bs.head? = some 0xFE
    decodeUtf16From (codecName 16 big) big 2 (bs.drop 2)
  | .utf32 big => decodeUtf32From (codecName 32 big) big 0 bs
  | .utf32Marked =>
    let big := bs.head? = some 0x00
    decodeUtf32From (codecName 32 big) big 4 (bs.drop 4)

def decodeJsonBytes (bs : List UInt8) : Except DecodeFailure String :=
  (decodeIn (detectEncoding bs) bs).map String.ofList

end HostSurvey
