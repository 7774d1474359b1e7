import HostSurvey.Unicode.Printable
import HostSurvey.Text.Surrogate

/-!
Quoted text, as error messages show a value.
-/

namespace HostSurvey

def hexDigits (width : Nat) (n : Nat) : List Char :=
  let ds := Nat.toDigits 16 n
  List.replicate (width - ds.length) '0' ++ ds

def escapeChar (q : Char) (c : Char) : List Char :=
  if c = q ∨ c = '\\' then ['\\', c]
  else if c = '\t' then ['\\', 't']
  else if c = '\n' then ['\\', 'n']
  else if c = '\r' then ['\\', 'r']
  else if c.toNat < 0x20 ∨ c.toNat = 0x7F then '\\' :: 'x' :: hexDigits 2 c.toNat
  else if c.toNat < 0x7F then [c]
  else if let some u := standInCode? c then '\\' :: 'u' :: hexDigits 4 u
  else if isPrintable c then [c]
  else if c.toNat < 0x100 then '\\' :: 'x' :: hexDigits 2 c.toNat
  else if c.toNat < 0x10000 then '\\' :: 'u' :: hexDigits 4 c.toNat
  else '\\' :: 'U' :: hexDigits 8 c.toNat

def quoteFor (cs : List Char) : Char :=
  if cs.contains '\'' && !cs.contains '"' then '"' else '\''

def quote (s : String) : String :=
  let cs := s.toList
  let q := quoteFor cs
  String.ofList (q :: cs.flatMap (escapeChar q) ++ [q])

def escapeByte (q : Char) (b : UInt8) : List Char :=
  let c := Char.ofNat b.toNat
  if c = q ∨ c = '\\' then ['\\', c]
  else if c = '\t' then ['\\', 't']
  else if c = '\n' then ['\\', 'n']
  else if c = '\r' then ['\\', 'r']
  else if b.toNat < 0x20 ∨ 0x7F ≤ b.toNat then '\\' :: 'x' :: hexDigits 2 b.toNat
  else [c]

def quoteBytes (bs : List UInt8) : String :=
  let cs := bs.map (fun b => Char.ofNat b.toNat)
  let q := quoteFor cs
  String.ofList ('b' :: q :: bs.flatMap (escapeByte q) ++ [q])

end HostSurvey
