import HostSurvey.Value.Basic
import HostSurvey.Number.Decimal
import HostSurvey.Text.Quote

/-!
Writing dynamic values as JSON text.
-/

namespace HostSurvey

/-- How a JSON text is laid out. -/
structure JsonLayout where
  indent : Option Nat
  itemSeparator : String
  keySeparator : String
  asciiOnly : Bool

def JsonLayout.spaced : JsonLayout := ⟨none, ", ", ": ", true⟩

def JsonLayout.tight : JsonLayout := ⟨none, ",", ":", true⟩

def JsonLayout.indented : JsonLayout := ⟨some 2, ",", ": ", true⟩

def JsonLayout.line : JsonLayout := ⟨none, ",", ":", false⟩

def jsonEscapeChar (asciiOnly : Bool) (c : Char) : List Char :=
  if c = '"' then ['\\', '"']
  else if c = '\\' then ['\\', '\\']
  else if c = '\n' then ['\\', 'n']
  else if c = '\r' then ['\\', 'r']
  else if c = '\t' then ['\\', 't']
  else if c = '\x08' then ['\\', 'b']
  else if c = '\x0c' then ['\\', 'f']
  else if c.toNat < 0x20 ∨ (asciiOnly ∧ c.toNat = 0x7F) then '\\' :: 'u' :: hexDigits 4 c.toNat
  else if let some u := standInCode? c then '\\' :: 'u' :: hexDigits 4 u
  else if asciiOnly ∧ 0x7F < c.toNat then
    if c.toNat < 0x10000 then '\\' :: 'u' :: hexDigits 4 c.toNat
    else
      let v := c.toNat - 0x10000
      '\\' :: 'u' :: hexDigits 4 (0xD800 + v / 0x400) ++ '\\' :: 'u' :: hexDigits 4 (0xDC00 + v % 0x400)
  else [c]

def jsonString (asciiOnly : Bool) (s : String) : String :=
  String.ofList ('"' :: s.toList.flatMap (jsonEscapeChar asciiOnly) ++ ['"'])

def jsonDouble (x : Float) : String := ShortestStyle.json.render x

def jsonKeyText : Value → String
  | .str s => s
  | .int n => toString n
  | .float x => jsonDouble x
  | .bool b => if b then "true" else "false"
  | .null => "null"
  | _ => ""

/-- The JSON text of a value at nesting `level`. Kinds that JSON lacks are written `null`. -/
def writeJsonAt (layout : JsonLayout) (level : Nat) : Value → String
  | .null => "null"
  | .bool b => if b then "true" else "false"
  | .int n => toString n
  | .float x => jsonDouble x
  | .str s => jsonString layout.asciiOnly s
  | .list xs =>
    if xs.isEmpty then "[]"
    else
      let parts := xs.attach.map (fun ⟨x, _⟩ => writeJsonAt layout (level + 1) x)
      match layout.indent with
      | none => "[" ++ String.intercalate layout.itemSeparator parts ++ "]"
      | some n =>
        let inner := "\n" ++ String.ofList (List.replicate (n * (level + 1)) ' ')
        let outer := "\n" ++ String.ofList (List.replicate (n * level) ' ')
        "[" ++ inner ++ String.intercalate (layout.itemSeparator ++ inner) parts ++ outer ++ "]"
  | .dict es =>
    if es.isEmpty then "\x7b\x7d"
    else
      let parts := es.attach.map (fun ⟨e, _⟩ =>
        jsonString layout.asciiOnly (jsonKeyText e.1) ++ layout.keySeparator ++
          writeJsonAt layout (level + 1) e.2)
      match layout.indent with
      | none => "\x7b" ++ String.intercalate layout.itemSeparator parts ++ "\x7d"
      | some n =>
        let inner := "\n" ++ String.ofList (List.replicate (n * (level + 1)) ' ')
        let outer := "\n" ++ String.ofList (List.replicate (n * level) ' ')
        "\x7b" ++ inner ++ String.intercalate (layout.itemSeparator ++ inner) parts ++ outer ++ "\x7d"
  | _ => "null"
termination_by v => sizeOf v
decreasing_by
  all_goals simp_wf
  · have := List.sizeOf_lt_of_mem ‹_›; omega
  · rename_i h; have := List.sizeOf_lt_of_mem h
    cases e; simp_all; omega

def writeJson (layout : JsonLayout) (v : Value) : String := writeJsonAt layout 0 v

end HostSurvey
