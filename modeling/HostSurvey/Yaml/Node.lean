import HostSurvey.Yaml.Event
import HostSurvey.Yaml.Resolve

/-!
The node graph of a YAML document.
-/

namespace HostSurvey

namespace Yaml

/-- What a node holds. -/
inductive NodeBody where
  | scalar (value : String) (style : Option Char)
  | sequence (items : List Nat)
  | mapping (pairs : List (Nat × Nat))
deriving Repr, Inhabited

def NodeBody.kindName : NodeBody → String
  | .scalar .. => "scalar"
  | .sequence _ => "sequence"
  | .mapping _ => "mapping"

/-- A node with its tag and the positions where it starts and ends. -/
structure Node where
  tag : String
  body : NodeBody
  start : Mark
  stop : Mark
deriving Repr, Inhabited

/-- The state of building the node graph from events. -/
structure Composer where
  parser : Parser
  nodes : Array Node := #[]
  anchors : List (String × Nat) := []

abbrev ComposeM := StateT Composer (Except YamlFailure)

def eventStep {α : Type} (m : ParseM α) : ComposeM α := fun c => do
  let (a, p) ← m c.parser
  pure (a, { c with parser := p })

def composeError {α : Type} (context : Option String) (cmark : Option Mark) (problem : String)
    (pmark : Mark) : ComposeM α :=
  throw (.marked { context, contextMark := cmark, problem, problemMark := some pmark })

/-- The failure of a document nested deeper than its own length allows. -/
def nestingFault : YamlFailure := .fault (.other "RecursionError" "maximum recursion depth exceeded")

def addNode (n : Node) (anchor : Option String) : ComposeM Nat := do
  let c ← get
  let id := c.nodes.size
  set { c with
    nodes := c.nodes.push n
    anchors := match anchor with
      | some a => (a, id) :: c.anchors
      | none => c.anchors }
  return id

def updateNode (id : Nat) (f : Node → Node) : ComposeM Unit :=
  modify fun c => { c with nodes := c.nodes.modify id f }

def chooseTag (explicit : Option String) (resolved : String) : String :=
  match explicit with
  | some t => if t = "!" then resolved else t
  | none => resolved

/-- Reads the items of a sequence, each by `node`, up to its end; the items and the end
position. -/
def composeItems (node : ComposeM Nat) : Nat → List Nat → ComposeM (List Nat × Mark)
  | 0, _ => throw nestingFault
  | count + 1, acc => do
    if ← eventStep (checkEvent .sequenceEnd) then
      let e ← eventStep takeEvent
      return (acc.reverse, e.stop)
    let item ← node
    composeItems node count (item :: acc)

/-- Reads the pairs of a mapping, each key and value by `node`, up to its end; the pairs and
the end position. -/
def composePairs (node : ComposeM Nat) : Nat → List (Nat × Nat) → ComposeM (List (Nat × Nat) × Mark)
  | 0, _ => throw nestingFault
  | count + 1, acc => do
    if ← eventStep (checkEvent .mappingEnd) then
      let e ← eventStep takeEvent
      return (acc.reverse, e.stop)
    let key ← node
    let value ← node
    composePairs node count ((key, value) :: acc)

/-- Reads a node and what it contains; its index in the store. The fuel bounds the nesting. -/
def composeNode : Nat → ComposeM Nat
  | 0 => throw nestingFault
  | fuel + 1 => do
    if ← eventStep (checkEvent .alias) then
      let e ← eventStep takeEvent
      let name := match e.kind with
        | .alias a => a
        | _ => ""
      match (← get).anchors.lookup name with
      | some id => return id
      | none => composeError none none s!"found undefined alias {quote name}" e.start
    let e := (← eventStep peekEvent).getD default
    let anchor := e.kind.anchor
    if let some a := anchor then
      if let some id := (← get).anchors.lookup a then
        let first := ((← get).nodes.getD id default).start
        composeError (some s!"found duplicate anchor {quote a}; first occurrence") (some first)
          "second occurrence" e.start
    match e.kind with
    | .scalar _ tag plainImplicit _ value style =>
      discard (eventStep takeEvent)
      let resolved := if plainImplicit then implicitScalarTag value else strTag
      addNode ⟨chooseTag tag resolved, .scalar value style, e.start, e.stop⟩ anchor
    | .sequenceStart _ tag _ =>
      discard (eventStep takeEvent)
      let id ← addNode ⟨chooseTag tag seqTag, .sequence [], e.start, e.start⟩ anchor
      let (items, stop) ← composeItems (composeNode fuel) ((← get).parser.lex.buf.size + 1) []
      updateNode id fun n => { n with body := .sequence items, stop }
      return id
    | .mappingStart _ tag _ =>
      discard (eventStep takeEvent)
      let id ← addNode ⟨chooseTag tag mapTag, .mapping [], e.start, e.start⟩ anchor
      let (pairs, stop) ← composePairs (composeNode fuel) ((← get).parser.lex.buf.size + 1) []
      updateNode id fun n => { n with body := .mapping pairs, stop }
      return id
    | _ => throw nestingFault

def composeDocument : ComposeM Nat := do
  discard (eventStep takeEvent)
  let root ← composeNode ((← get).parser.lex.buf.size + 2)
  discard (eventStep takeEvent)
  modify fun c => { c with anchors := [] }
  return root

def composeSingle : ComposeM (Option Nat) := do
  discard (eventStep takeEvent)
  let root ← if ← eventStep (checkEvent .streamEnd) then pure none else some <$> composeDocument
  if !(← eventStep (checkEvent .streamEnd)) then
    let e ← eventStep takeEvent
    let nodes := (← get).nodes
    let first := match root with
      | some id => (nodes.getD id default).start
      | none => default
    composeError (some "expected a single document in the stream") (some first)
      "but found another document" e.start
  discard (eventStep takeEvent)
  return root

def Composer.ofText (text : String) : Except YamlFailure (Array Node × Option Nat) := do
  let (root, c) ← composeSingle.run { parser := { lex := Lexer.start text } }
  return (c.nodes, root)

end Yaml

end HostSurvey
