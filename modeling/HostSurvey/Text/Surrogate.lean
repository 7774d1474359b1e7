/-!
Lone surrogates in texts.
-/

namespace HostSurvey

def standInOffset : Nat := 0x100000

def isSurrogateCode (n : Nat) : Bool := 0xD800 ≤ n && n ≤ 0xDFFF

def charOfCode (n : Nat) : Char :=
  if isSurrogateCode n then Char.ofNat (n + standInOffset) else Char.ofNat n

def standInCode? (c : Char) : Option Nat :=
  if 0x10D800 ≤ c.toNat && c.toNat ≤ 0x10DFFF then some (c.toNat - standInOffset) else none

/-- The code point a character stands for: a stand-in counts as the surrogate it stands for. -/
def codePoint (c : Char) : Nat := (standInCode? c).getD c.toNat

def codesLe : List Nat → List Nat → Bool
  | [], _ => true
  | _ :: _, [] => false
  | x :: xs, y :: ys => x < y || (x = y && codesLe xs ys)

/-- Whether a text comes no later than another when texts are ordered by their code points, a
stand-in ranking as the surrogate it stands for. -/
def codePointsLe (a b : String) : Bool := codesLe (a.toList.map codePoint) (b.toList.map codePoint)

end HostSurvey
