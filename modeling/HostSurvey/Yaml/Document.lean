import HostSurvey.Yaml.Node
import HostSurvey.Yaml.Scalar

/-!
The value of a YAML document, built from its node graph with the safe types of the YAML type
repository: null, booleans, integers, floating point numbers, binary data, dates and time
stamps, strings, sequences, mappings, sets, ordered maps and pairs.
-/

namespace HostSurvey

namespace Yaml

/-- A reference to a value being built: a finished value, or a container that a round fills. -/
inductive Slot where
  | done (v : Value)
  | cell (i : Nat)
deriving Inhabited

/-- A container being built: a list, a mapping (keys are finished values, no two of them
equal), a set, or a list of pairs. -/
inductive Cell where
  | seq (items : List Slot)
  | map (entries : List (Value × Slot))
      (distinct : entries.Pairwise fun a b => Value.sameKey a.1 b.1 = false)
  | set (items : List Value)
  | pairs (entries : List (Slot × Slot))
deriving Inhabited

/-- How the contents of a container are read from its node. -/
inductive Filling where
  | seq | map | set | omap | pairs
deriving DecidableEq

/-- The state of building a document's value. -/
structure Builder where
  nodes : Array Node
  built : Array (Option Slot)
  cells : Array Cell := #[]
  pending : Array (Nat × Nat × Filling) := #[]

abbrev BuildM := StateT Builder (Except YamlFailure)

def buildError {α : Type} (context : Option String) (cmark : Option Mark) (problem : String)
    (pmark : Mark) : BuildM α :=
  throw (.marked { context, contextMark := cmark, problem, problemMark := some pmark })

def buildFault {α : Type} (f : Fault) : BuildM α := throw (.fault f)

/-- The failure of a chain of nodes longer than the graph, which only a cycle makes. -/
def cycleFault : Fault := .other "RecursionError" "maximum recursion depth exceeded"

def nodeAt (i : Nat) : BuildM Node := do return (← get).nodes.getD i default

def Node.pairs (n : Node) : List (Nat × Nat) :=
  match n.body with
  | .mapping ps => ps
  | _ => []

def Node.isMapping (n : Node) : Bool :=
  match n.body with
  | .mapping _ => true
  | _ => false

def changeNode (i : Nat) (f : Node → Node) : BuildM Unit :=
  modify fun b => { b with nodes := b.nodes.modify i f }

/-- The text of a scalar node; a mapping stands for the value of its value key. -/
def scalarText : Nat → Nat → BuildM String
  | 0, _ => buildFault cycleFault
  | fuel + 1, i => do
    let n ← nodeAt i
    let nodes := (← get).nodes
    match n.body with
    | .scalar v _ => return v
    | .mapping ps =>
      match ps.find? (fun p => (nodes.getD p.1 default).tag = valueTag) with
      | some (_, v) => scalarText fuel v
      | none => buildError none none s!"expected a scalar node, but found {n.body.kindName}" n.start
    | .sequence _ => buildError none none s!"expected a scalar node, but found {n.body.kindName}" n.start

def textOf (i : Nat) : BuildM String := do scalarText ((← get).nodes.size + 1) i

def liftFault {α : Type} : Except Fault α → BuildM α
  | .ok a => pure a
  | .error f => buildFault f

def newCell (i : Nat) (c : Cell) (how : Filling) : BuildM Slot := do
  let b ← get
  let k := b.cells.size
  set { b with cells := b.cells.push c, pending := b.pending.push (i, k, how) }
  return .cell k

def stampOf (n : Node) : BuildM Value :=
  match n.body with
  | .scalar v _ =>
    match stampOfText v with
    | some r => liftFault r
    | none => buildFault (.missingAttribute "NoneType" "groupdict")
  | _ => buildFault (.other "TypeError" "expected string or bytes-like object, got 'list'")

def buildNode (i : Nat) : BuildM Slot := do
  if let some s := ((← get).built.getD i none) then return s
  let n ← nodeAt i
  let name : Option String := (n.tag.dropPrefix? "tag:yaml.org,2002:").map (·.toString)
  let slot ← match name with
    | some "null" => do
      discard (textOf i)
      pure (Slot.done .null)
    | some "bool" => do
      let t ← textOf i
      pure (Slot.done (.bool (← liftFault (boolOfText t))))
    | some "int" => do
      let t ← textOf i
      pure (Slot.done (.int (← liftFault (intOfText t))))
    | some "float" => do
      let t ← textOf i
      pure (Slot.done (.float (← liftFault (floatOfText t))))
    | some "binary" => do
      match bytesOfText (← textOf i) with
      | .ok bs => pure (.done (.bytes bs))
      | .error problem => buildError none none problem n.start
    | some "timestamp" => do
      discard (textOf i)
      pure (.done (← stampOf n))
    | some "str" => do pure (.done (.str (← textOf i)))
    | some "seq" => newCell i (.seq []) .seq
    | some "map" => newCell i (.map [] .nil) .map
    | some "set" => newCell i (.set []) .set
    | some "omap" => newCell i (.pairs []) .omap
    | some "pairs" => newCell i (.pairs []) .pairs
    | _ => buildError none none s!"could not determine a constructor for the tag {quote n.tag}" n.start
  modify fun b => { b with built := b.built.set! i (some slot) }
  return slot

/-- Whether a float node names the one double that `.nan` stands for: its text, without
underscores and sign and in lower case, is `.nan`. Every other double that is not a number is
a value of its own. -/
def Node.namesSharedNaN (n : Node) : Bool :=
  n.tag == coreTag "float" && match n.body with
    | .scalar v _ =>
      let cs := (lowerText v).toList.filter (· ≠ '_')
      let cs := match cs with
        | c :: rest => if c = '+' ∨ c = '-' then rest else cs
        | [] => cs
      cs == ".nan".toList
    | _ => false

/-- A key of a mapping being built with where it comes from: the index of its node, or the
size of the store for the double that `.nan` names. -/
abbrev BuiltKey := Value × Nat

/-- Whether two built keys are one key: equal keys, or one and the same double that is not a
number (built from one node, or both the one that `.nan` names). -/
def BuiltKey.same (a b : BuiltKey) : Bool :=
  Value.sameKey a.1 b.1 ||
    (match a.1, b.1 with
      | .float x, .float y => x.isNaN && y.isNaN && a.2 == b.2
      | _, _ => false)

/-- Sets the entry of a key in the entries of a mapping being built: the same key keeps its
place and takes the new value. -/
def putEntry (entries : List (BuiltKey × Slot)) (k : BuiltKey) (v : Slot) : List (BuiltKey × Slot) :=
  if entries.any (fun e => e.1.same k) then
    entries.map (fun e => if e.1.same k then (e.1, v) else e)
  else entries ++ [(k, v)]

theorem putEntry_pairwise {entries : List (BuiltKey × Slot)} {k : BuiltKey} {v : Slot}
    (h : entries.Pairwise fun a b => a.1.same b.1 = false) :
    (putEntry entries k v).Pairwise fun a b => a.1.same b.1 = false := by
  unfold putEntry
  split
  · -- the keys stay as they were
    rw [List.pairwise_map]
    refine h.imp fun {a b} hab => ?_
    split <;> split <;> exact hab
  · -- the new key is equal to none before it
    rename_i hnew
    refine List.pairwise_append.2 ⟨h, List.pairwise_singleton _ _, ?_⟩
    intro a ha b hb
    rw [List.mem_singleton] at hb
    subst hb
    simpa using List.any_eq_false.1 (Bool.not_eq_true _ ▸ hnew) a ha

/-- Replaces the merge keys of a mapping node, from position `index` on, collecting the pairs
they bring in `merged`; `sub` flattens another mapping. -/
def flattenFrom (sub : Nat → BuildM Unit) (i : Nat) :
    Nat → Nat → List (Nat × Nat) → BuildM (List (Nat × Nat))
  | 0, _, merged => pure merged
  | steps + 1, index, merged => do
    let n ← nodeAt i
    match n.pairs[index]? with
    | none => pure merged
    | some (k, v) =>
      let key ← nodeAt k
      if key.tag = mergeTag then
        changeNode i fun m => { m with body := .mapping (m.pairs.eraseIdx index) }
        let value ← nodeAt v
        match value.body with
        | .mapping _ =>
          sub v
          let value ← nodeAt v
          flattenFrom sub i steps index (merged ++ value.pairs)
        | .sequence items =>
          let mut groups : List (List (Nat × Nat)) := []
          for s in items do
            let sn ← nodeAt s
            if !sn.isMapping then
              buildError (some "while constructing a mapping") (some n.start)
                s!"expected a mapping for merging, but found {sn.body.kindName}" sn.start
            sub s
            groups := (← nodeAt s).pairs :: groups
          flattenFrom sub i steps index (merged ++ groups.flatten)
        | .scalar .. =>
          buildError (some "while constructing a mapping") (some n.start)
            s!"expected a mapping or list of mappings for merging, but found {value.body.kindName}"
            value.start
      else
        if key.tag = valueTag then changeNode k fun m => { m with tag := strTag }
        flattenFrom sub i steps (index + 1) merged

def flattenSteps : BuildM Nat := do
  let nodes := (← get).nodes
  let pairs := nodes.foldl (fun acc n => acc + n.pairs.length) 0
  return (pairs + 1) * (nodes.size + 1) + 16

def flatten : Nat → Nat → BuildM Unit
  | 0, _ => buildFault cycleFault
  | fuel + 1, i => do
    let merged ← flattenFrom (flatten fuel) i (← flattenSteps) 0 []
    if !merged.isEmpty then
      changeNode i fun m => { m with body := .mapping (merged ++ m.pairs) }

theorem distinct_of_built {entries : List (BuiltKey × Slot)}
    (h : entries.Pairwise fun a b => a.1.same b.1 = false) :
    (entries.map fun e => (e.1.1, e.2)).Pairwise fun a b => Value.sameKey a.1 b.1 = false := by
  rw [List.pairwise_map]
  refine h.imp fun {a b} hab => ?_
  simp only [BuiltKey.same, Bool.or_eq_false_iff] at hab
  exact hab.1

def mappingEntries (i : Nat) :
    BuildM { es : List (Value × Slot) // es.Pairwise fun a b => Value.sameKey a.1 b.1 = false } := do
  if (← nodeAt i).isMapping then flatten ((← get).nodes.size + 2) i
  let n ← nodeAt i
  match n.body with
  | .mapping ps =>
    let mut entries : { es : List (BuiltKey × Slot) // es.Pairwise fun a b => a.1.same b.1 = false } :=
      ⟨[], .nil⟩
    let store := (← get).nodes.size
    for (k, v) in ps do
      match ← buildNode k with
      | .cell _ =>
        buildError (some "while constructing a mapping") (some n.start) "found unhashable key"
          (← nodeAt k).start
      | .done key =>
        let value ← buildNode v
        let origin := if (← nodeAt k).namesSharedNaN then store else k
        entries := ⟨putEntry entries.1 (key, origin) value, putEntry_pairwise entries.2⟩
    return ⟨entries.1.map fun e => (e.1.1, e.2), distinct_of_built entries.2⟩
  | _ => buildError none none s!"expected a mapping node, but found {n.body.kindName}" n.start

def pairEntries (i : Nat) (context : String) : BuildM (List (Slot × Slot)) := do
  let n ← nodeAt i
  match n.body with
  | .sequence items =>
    let mut out : List (Slot × Slot) := []
    for s in items do
      let sn ← nodeAt s
      match sn.body with
      | .mapping [(k, v)] =>
        let key ← buildNode k
        let value ← buildNode v
        out := out ++ [(key, value)]
      | .mapping ps =>
        buildError (some context) (some n.start)
          s!"expected a single mapping item, but found {ps.length} items" sn.start
      | _ =>
        buildError (some context) (some n.start)
          s!"expected a mapping of length 1, but found {sn.body.kindName}" sn.start
    return out
  | _ => buildError (some context) (some n.start) s!"expected a sequence, but found {n.body.kindName}" n.start

def fillCell (i k : Nat) (how : Filling) : BuildM Unit := do
  let cell ← match how with
    | .seq => do
      let n ← nodeAt i
      match n.body with
      | .sequence items => pure (Cell.seq (← items.mapM buildNode))
      | _ => buildError none none s!"expected a sequence node, but found {n.body.kindName}" n.start
    | .map => do
      let es ← mappingEntries i
      pure (Cell.map es.1 es.2)
    | .set => do pure (Cell.set ((← mappingEntries i).1.map (·.1)))
    | .omap => do pure (Cell.pairs (← pairEntries i "while constructing an ordered map"))
    | .pairs => do pure (Cell.pairs (← pairEntries i "while constructing pairs"))
  modify fun b => { b with cells := b.cells.set! k cell }

/-- Runs rounds of filling until no container is left empty; each node makes at most one
container, so the rounds are at most the nodes. -/
def fillRounds : Nat → BuildM Unit
  | 0 => pure ()
  | rounds + 1 => do
    let work := (← get).pending
    if work.isEmpty then return
    modify fun b => { b with pending := #[] }
    for (i, k, how) in work do
      fillCell i k how
    fillRounds rounds

/-- The finished value of a slot. `around` holds, innermost first, the containers being
written around it (none for the two-item list of a pair, which no alias names); a container
met again inside itself becomes a reference to it. Each level takes a container that is not
yet around, so the fuel of one more than the containers is never used up. -/
def Slot.finish (cells : Array Cell) : Nat → List (Option Nat) → Slot → Except Fault Value
  | _, _, .done v => .ok v
  | 0, _, .cell _ => .error cycleFault
  | fuel + 1, around, .cell k =>
    match around.idxOf? (some k) with
    | some depth => .ok (.backRef depth)
    | none =>
      let inner := some k :: around
      match cells.getD k default with
      | .seq items => .list <$> items.mapM (Slot.finish cells fuel inner)
      | .map es _ => .dict <$> es.mapM (fun e => (e.1, ·) <$> Slot.finish cells fuel inner e.2)
      | .set xs => .ok (.set xs)
      | .pairs es => .list <$> es.mapM (fun e => do
          let a ← Slot.finish cells fuel (none :: inner) e.1
          let b ← Slot.finish cells fuel (none :: inner) e.2
          return .list [a, b])

def acceptsChar (c : Char) : Bool :=
  let n := c.toNat
  n = 0x09 || n = 0x0A || n = 0x0D || (0x20 ≤ n && n ≤ 0x7E) || n = 0x85 ||
    (0xA0 ≤ n && n ≤ 0xD7FF) || (0xE000 ≤ n && n ≤ 0xFFFD) || 0x10000 ≤ n

/-- The value of the one document of a text: null for a text without one. -/
def loadDocument (text : String) : Except YamlFailure Value := do
  let cs := text.toList
  if let some i := cs.findIdx? (fun c => !acceptsChar c) then
    throw (.unacceptable (cs.getD i ' ').toNat i)
  let (nodes, root) ← Composer.ofText text
  match root with
  | none => return .null
  | some r =>
    let start : Builder := { nodes, built := Array.replicate nodes.size none }
    let (slot, b) ← (do
        let s ← buildNode r
        fillRounds (nodes.size + 1)
        return s).run start
    match slot.finish b.cells (b.cells.size + 1) [] with
    | .ok v => return v
    | .error f => throw (.fault f)

def YamlFailure.message (text : String) : YamlFailure → String
  | .unacceptable code position => unacceptableMessage code position
  | .marked e => e.render (text.toList ++ ['\x00']).toArray
  | .fault f => f.message

end Yaml

end HostSurvey
