/-!
UTF-8 decoding, in three modes.
-/

namespace HostSurvey

/-- What is wrong with the bytes at the point where a strict reading stops. -/
inductive Utf8Problem where
  | invalidStart
  | invalidContinuation
  | unexpectedEnd
deriving DecidableEq, Repr

/-- Where a strict reading stops: the problem, the offset of its first byte and the offset
just after its last byte. -/
structure Utf8Error where
  problem : Utf8Problem
  start : Nat
  stop : Nat
  firstByte : UInt8
deriving DecidableEq, Repr

/-- The length of the character that a lead byte starts and the range of its second byte,
or `none` when the byte starts no character. -/
def leadShape (b : Nat) : Option (Nat × Nat × Nat) :=
  if b < 0x80 then some (1, 0, 0)
  else if 0xC2 ≤ b ∧ b ≤ 0xDF then some (2, 0x80, 0xBF)
  else if b = 0xE0 then some (3, 0xA0, 0xBF)
  else if (0xE1 ≤ b ∧ b ≤ 0xEC) ∨ (0xEE ≤ b ∧ b ≤ 0xEF) then some (3, 0x80, 0xBF)
  else if b = 0xED then some (3, 0x80, 0x9F)
  else if b = 0xF0 then some (4, 0x90, 0xBF)
  else if 0xF1 ≤ b ∧ b ≤ 0xF3 then some (4, 0x80, 0xBF)
  else if b = 0xF4 then some (4, 0x80, 0x8F)
  else none

/-- The offset of the first continuation byte that lies outside its range: the second byte
must lie in `lo..hi`, the later ones in `80..BF`. -/
def firstBadTail (lo hi : Nat) : Nat → List UInt8 → Option Nat
  | _, [] => none
  | i, b :: rest =>
    let ok := if i = 0 then lo ≤ b.toNat ∧ b.toNat ≤ hi else 0x80 ≤ b.toNat ∧ b.toNat ≤ 0xBF
    if ok then firstBadTail lo hi (i + 1) rest else some i

def combineUtf8 (len : Nat) (b0 : Nat) (tail : List UInt8) : Nat :=
  let lead := if len = 2 then b0 % 0x20 else if len = 3 then b0 % 0x10 else b0 % 0x08
  tail.foldl (fun acc b => acc * 64 + b.toNat % 64) lead

/-- Reads one character at the front of the bytes after the lead byte `b0`: the character
and the bytes after it, or the problem and how many bytes it covers. -/
def readUtf8Char (b0 : UInt8) (rest : List UInt8) :
    Except (Utf8Problem × Nat) (Char × List UInt8) :=
  match leadShape b0.toNat with
  | none => .error (.invalidStart, 1)
  | some (len, lo, hi) =>
    if len = 1 then .ok (Char.ofNat b0.toNat, rest)
    else
      let tail := rest.take (len - 1)
      match firstBadTail lo hi 0 tail with
      | some j => .error (.invalidContinuation, j + 1)
      | none =>
        if tail.length < len - 1 then .error (.unexpectedEnd, 1 + tail.length)
        else .ok (Char.ofNat (combineUtf8 len b0.toNat tail), rest.drop (len - 1))

theorem readUtf8Char_rest_length {b : UInt8} {rest after : List UInt8} {c : Char}
    (h : readUtf8Char b rest = .ok (c, after)) : after.length ≤ rest.length := by
  unfold readUtf8Char at h
  split at h
  · cases h
  · split at h
    · cases h; exact Nat.le_refl _
    · dsimp only at h
      split at h
      · cases h
      · split at h
        · cases h
        · cases h; simp

def decodeUtf8Lenient (bs : List UInt8) : List Char :=
  match bs with
  | [] => []
  | b :: rest =>
    match h : readUtf8Char b rest with
    | .ok (c, after) =>
      have := readUtf8Char_rest_length h
      c :: decodeUtf8Lenient after
    | .error _ => decodeUtf8Lenient rest
termination_by bs.length
decreasing_by all_goals simp only [List.length_cons]; omega

/-- A replacing reading: every stretch of bytes at which a strict reading would stop becomes
one U+FFFD, and the reading goes on after it. -/
def decodeUtf8Replacing (bs : List UInt8) : List Char :=
  match bs with
  | [] => []
  | b :: rest =>
    match h : readUtf8Char b rest with
    | .ok (c, after) =>
      have := readUtf8Char_rest_length h
      c :: decodeUtf8Replacing after
    | .error (_, n) => '\uFFFD' :: decodeUtf8Replacing (rest.drop (n - 1))
termination_by bs.length
decreasing_by all_goals simp only [List.length_cons, List.length_drop]; omega

def decodeUtf8From (pos : Nat) (bs : List UInt8) : Except Utf8Error (List Char) :=
  match bs with
  | [] => .ok []
  | b :: rest =>
    match h : readUtf8Char b rest with
    | .ok (c, after) =>
      have := readUtf8Char_rest_length h
      (decodeUtf8From (pos + (rest.length + 1 - after.length)) after).map (c :: ·)
    | .error (p, n) => .error ⟨p, pos, pos + n, b⟩
termination_by bs.length
decreasing_by simp only [List.length_cons]; omega

def decodeUtf8 (bs : List UInt8) : Except Utf8Error (List Char) := decodeUtf8From 0 bs

def encodeUtf8 (s : String) : List UInt8 := s.toUTF8.toList

theorem decodeUtf8Lenient_nil : decodeUtf8Lenient [] = [] := by
  simp [decodeUtf8Lenient]

theorem decodeUtf8Lenient_ascii (b : UInt8) (rest : List UInt8) (h : b.toNat < 0x80) :
    decodeUtf8Lenient (b :: rest) = Char.ofNat b.toNat :: decodeUtf8Lenient rest := by
  have hr : readUtf8Char b rest = .ok (Char.ofNat b.toNat, rest) := by
    simp [readUtf8Char, leadShape, h]
  rw [decodeUtf8Lenient]
  split
  · next c after heq => rw [hr] at heq; cases heq; rfl
  · next heq => rw [hr] at heq; cases heq

end HostSurvey
