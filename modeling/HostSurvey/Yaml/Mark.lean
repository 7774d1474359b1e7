import HostSurvey.Text.Quote
import HostSurvey.Fault

/-!
Positions in a YAML text and the text of errors that point at them.
-/

namespace HostSurvey

namespace Yaml

/-- A position in a text. -/
structure Mark where
  index : Nat
  line : Nat
  column : Nat
deriving Repr, DecidableEq, Inhabited

def isSnippetEnd (c : Char) : Bool :=
  c = '\x00' ∨ c = '\r' ∨ c = '\n' ∨ c = '\x85' ∨ c = '\u2028' ∨ c = '\u2029'

def snippetStart (buf : Array Char) (pointer : Nat) : Nat × Bool :=
  go pointer (pointer + 1)
where
  go (start : Nat) : Nat → Nat × Bool
    | 0 => (start, false)
    | fuel + 1 =>
      if start > 0 ∧ !isSnippetEnd (buf.getD (start - 1) '\x00') then
        let start := start - 1
        if pointer - start ≥ 37 then (start + 5, true) else go start fuel
      else (start, false)

def snippetEnd (buf : Array Char) (pointer : Nat) : Nat × Bool :=
  go pointer (buf.size + 1)
where
  go (stop : Nat) : Nat → Nat × Bool
    | 0 => (stop, false)
    | fuel + 1 =>
      if stop < buf.size ∧ !isSnippetEnd (buf.getD stop '\x00') then
        let stop := stop + 1
        if stop - pointer ≥ 37 then (stop - 5, true) else go stop fuel
      else (stop, false)

def Mark.snippet (m : Mark) (buf : Array Char) : String :=
  let (start, cutHead) := snippetStart buf m.index
  let (stop, cutTail) := snippetEnd buf m.index
  let head := if cutHead then " ... " else ""
  let tail := if cutTail then " ... " else ""
  let body := String.ofList ((buf.extract start stop).toList)
  "    " ++ head ++ body ++ tail ++ "\n" ++
    String.ofList (List.replicate (4 + (m.index - start) + head.length) ' ') ++ "^"

def Mark.render (m : Mark) (buf : Array Char) : String :=
  s!"  in \"<unicode string>\", line {m.line + 1}, column {m.column + 1}:\n" ++ m.snippet buf

/-- An error found while reading YAML, with the positions it concerns. -/
structure MarkedError where
  context : Option String := none
  contextMark : Option Mark := none
  problem : String
  problemMark : Option Mark := none
deriving Repr, Inhabited

/-- The text of an error: the context and its position (unless it is the position of the
problem), then the problem and its position. -/
def MarkedError.render (e : MarkedError) (buf : Array Char) : String :=
  let contextLines := match e.context with | some c => [c] | none => []
  let contextMarkLines := match e.contextMark, e.problemMark with
    | some cm, some pm =>
      if cm.line ≠ pm.line ∨ cm.column ≠ pm.column then [cm.render buf] else []
    | some cm, none => [cm.render buf]
    | none, _ => []
  let problemMarkLines := match e.problemMark with | some pm => [pm.render buf] | none => []
  String.intercalate "\n" (contextLines ++ contextMarkLines ++ [e.problem] ++ problemMarkLines)

/-- Why reading YAML stopped: a character that YAML does not accept (its code point and
position), an error at positions of the text, or a failure of a conversion on the way. -/
inductive YamlFailure where
  | unacceptable (code position : Nat)
  | marked (e : MarkedError)
  | fault (f : Fault)
deriving Repr

def unacceptableMessage (code : Nat) (position : Nat) : String :=
  s!"unacceptable character #x{String.ofList (hexDigits 4 code)}: special characters are not allowed\n" ++
    s!"  in \"<unicode string>\", position {position}"

end Yaml

end HostSurvey
