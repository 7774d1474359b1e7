import HostSurvey.Yaml.Lexer

/-!
The events of a YAML text: the start and end of the stream, of documents, of sequences and of
mappings, scalars and aliases, read from the tokens by the grammar of YAML 1.1.
-/

namespace HostSurvey

namespace Yaml

/-- What an event is. A scalar records whether it may be resolved by its text as a plain
scalar (`plainImplicit`) or as a quoted one (`quotedImplicit`). -/
inductive EventKind where
  | streamStart
  | streamEnd
  | documentStart (explicit : Bool)
  | documentEnd (explicit : Bool)
  | alias (anchor : String)
  | scalar (anchor : Option String) (tag : Option String) (plainImplicit quotedImplicit : Bool)
      (value : String) (style : Option Char)
  | sequenceStart (anchor : Option String) (tag : Option String) (implicit : Bool)
  | sequenceEnd
  | mappingStart (anchor : Option String) (tag : Option String) (implicit : Bool)
  | mappingEnd
deriving Repr, Inhabited

/-- An event with the positions where it starts and ends. -/
structure Event where
  kind : EventKind
  start : Mark
  stop : Mark
deriving Repr, Inhabited

/-- The kinds of events, without their contents. -/
inductive EventClass where
  | streamStart | streamEnd | documentStart | documentEnd | alias | scalar
  | sequenceStart | sequenceEnd | mappingStart | mappingEnd
deriving DecidableEq, Repr

def EventKind.cls : EventKind → EventClass
  | .streamStart => .streamStart
  | .streamEnd => .streamEnd
  | .documentStart _ => .documentStart
  | .documentEnd _ => .documentEnd
  | .alias _ => .alias
  | .scalar .. => .scalar
  | .sequenceStart .. => .sequenceStart
  | .sequenceEnd => .sequenceEnd
  | .mappingStart .. => .mappingStart
  | .mappingEnd => .mappingEnd

def EventKind.anchor : EventKind → Option String
  | .scalar a .. => a
  | .sequenceStart a .. => a
  | .mappingStart a .. => a
  | _ => none

/-- What the grammar expects next. -/
inductive Phase where
  | streamStart | implicitDocumentStart | documentStart | documentEnd | documentContent
  | blockNode | blockNodeOrIndentlessSequence | flowNode
  | blockSequenceFirstEntry | blockSequenceEntry | indentlessSequenceEntry
  | blockMappingFirstKey | blockMappingKey | blockMappingValue
  | flowSequenceFirstEntry | flowSequenceEntry | flowSequenceEntryMappingKey
  | flowSequenceEntryMappingValue | flowSequenceEntryMappingEnd
  | flowMappingFirstKey | flowMappingKey | flowMappingValue | flowMappingEmptyValue
deriving DecidableEq, Repr, Inhabited

def defaultTagHandles : List (String × String) := [("!", "!"), ("!!", "tag:yaml.org,2002:")]

/-- The state of reading events. -/
structure Parser where
  lex : Lexer
  current : Option Event := none
  phase : Option Phase := some .streamStart
  phases : List Phase := []
  marks : List Mark := []
  tagHandles : List (String × String) := []
deriving Repr

abbrev ParseM := StateT Parser (Except YamlFailure)

def lexStep {α : Type} (m : LexM α) : ParseM α := fun p => do
  let (a, l) ← m p.lex
  pure (a, { p with lex := l })

def parseError {α : Type} (context : Option String) (cmark : Option Mark) (problem : String)
    (pmark : Mark) : ParseM α :=
  throw (.marked { context, contextMark := cmark, problem, problemMark := some pmark })

def check (classes : List TokenClass) : ParseM Bool := lexStep (checkToken classes)

def peekTok : ParseM Token := lexStep peekToken

def takeTok : ParseM Token := lexStep takeToken

def popPhase : ParseM Unit := modify fun p =>
  match p.phases with
  | ph :: rest => { p with phase := some ph, phases := rest }
  | [] => { p with phase := none }

def pushPhase (ph : Phase) : ParseM Unit := modify fun p => { p with phases := ph :: p.phases }

def setPhase (ph : Phase) : ParseM Unit := modify fun p => { p with phase := some ph }

def pushMark (m : Mark) : ParseM Unit := modify fun p => { p with marks := m :: p.marks }

def popMark : ParseM Unit := modify fun p => { p with marks := p.marks.drop 1 }

def topMark : ParseM Mark := do return (← get).marks.headD default

def emptyScalar (m : Mark) : Event := ⟨.scalar none none true false "" none, m, m⟩

def processDirectives : ParseM Unit := do
  modify fun p => { p with tagHandles := [] }
  let rec loop : Nat → Option (Nat × Nat) → ParseM Unit
    | 0, _ => pure ()
    | fuel + 1, version => do
      if !(← check [.directive]) then return
      let t ← takeTok
      match t.kind with
      | .directive "YAML" (.version major minor) =>
        if version.isSome then parseError none none "found duplicate YAML directive" t.start
        if major ≠ 1 then
          parseError none none "found incompatible YAML document (version 1.* is required)" t.start
        loop fuel (some (major, minor))
      | .directive "TAG" (.tagPrefix handle pfx) =>
        if ((← get).tagHandles.lookup handle).isSome then
          parseError none none s!"duplicate tag handle {quote handle}" t.start
        modify fun p => { p with tagHandles := p.tagHandles ++ [(handle, pfx)] }
        loop fuel version
      | _ => loop fuel version
  loop ((← get).lex.buf.size + 1) none
  modify fun p => { p with tagHandles := p.tagHandles ++
    defaultTagHandles.filter (fun d => (p.tagHandles.lookup d.1).isNone) }

def parseNode (block indentless : Bool) : ParseM Event := do
  if ← check [.alias] then
    let t ← takeTok
    popPhase
    match t.kind with
    | .alias name => return ⟨.alias name, t.start, t.stop⟩
    | _ => return ⟨.alias "", t.start, t.stop⟩
  let mut anchor : Option String := none
  let mut tag : Option (Option String × String) := none
  let mut startMark : Option Mark := none
  let mut endMark : Option Mark := none
  let mut tagMark : Option Mark := none
  if ← check [.anchor] then
    let t ← takeTok
    startMark := some t.start
    endMark := some t.stop
    if let .anchor a := t.kind then anchor := some a
    if ← check [.tag] then
      let t ← takeTok
      tagMark := some t.start
      endMark := some t.stop
      if let .tag h s := t.kind then tag := some (h, s)
  else if ← check [.tag] then
    let t ← takeTok
    startMark := some t.start
    tagMark := some t.start
    endMark := some t.stop
    if let .tag h s := t.kind then tag := some (h, s)
    if ← check [.anchor] then
      let t ← takeTok
      endMark := some t.stop
      if let .anchor a := t.kind then anchor := some a
  let mut fullTag : Option String := none
  match tag with
  | some (some handle, suffix) =>
    match (← get).tagHandles.lookup handle with
    | some pfx => fullTag := some (pfx ++ suffix)
    | none =>
      parseError (some "while parsing a node") startMark s!"found undefined tag handle {quote handle}"
        (tagMark.getD default)
  | some (none, suffix) => fullTag := some suffix
  | none => pure ()
  let (start, stop) ← match startMark, endMark with
    | some a, some b => pure (a, b)
    | _, _ => do
      let t ← peekTok
      pure (t.start, t.start)
  let implicit := fullTag.isNone ∨ fullTag = some "!"
  if indentless ∧ (← check [.blockEntry]) then
    let t ← peekTok
    setPhase .indentlessSequenceEntry
    return ⟨.sequenceStart anchor fullTag implicit, start, t.stop⟩
  if ← check [.scalar] then
    let t ← takeTok
    popPhase
    match t.kind with
    | .scalar text plain style =>
      let (pi, qi) :=
        if (plain ∧ fullTag.isNone) ∨ fullTag = some "!" then (true, false)
        else if fullTag.isNone then (false, true) else (false, false)
      return ⟨.scalar anchor fullTag pi qi text style, start, t.stop⟩
    | _ => return ⟨.scalar anchor fullTag false false "" none, start, t.stop⟩
  if ← check [.flowSequenceStart] then
    let t ← peekTok
    setPhase .flowSequenceFirstEntry
    return ⟨.sequenceStart anchor fullTag implicit, start, t.stop⟩
  if ← check [.flowMappingStart] then
    let t ← peekTok
    setPhase .flowMappingFirstKey
    return ⟨.mappingStart anchor fullTag implicit, start, t.stop⟩
  if block ∧ (← check [.blockSequenceStart]) then
    let t ← peekTok
    setPhase .blockSequenceFirstEntry
    return ⟨.sequenceStart anchor fullTag implicit, start, t.start⟩
  if block ∧ (← check [.blockMappingStart]) then
    let t ← peekTok
    setPhase .blockMappingFirstKey
    return ⟨.mappingStart anchor fullTag implicit, start, t.start⟩
  if anchor.isSome ∨ fullTag.isSome then
    popPhase
    return ⟨.scalar anchor fullTag implicit false "" none, start, stop⟩
  let t ← peekTok
  let what := if block then "block" else "flow"
  parseError (some s!"while parsing a {what} node") (some start)
    s!"expected the node content, but found {quote t.kind.name}" t.start

def runPhase (ph : Phase) : ParseM Event := do
  match ph with
  | .streamStart =>
    let t ← takeTok
    setPhase .implicitDocumentStart
    return ⟨.streamStart, t.start, t.stop⟩
  | .implicitDocumentStart =>
    if !(← check [.directive, .documentStart, .streamEnd]) then
      modify fun p => { p with tagHandles := defaultTagHandles }
      let t ← peekTok
      pushPhase .documentEnd
      setPhase .blockNode
      return ⟨.documentStart false, t.start, t.start⟩
    else explicitDocumentStart
  | .documentStart => explicitDocumentStart
  | .documentEnd =>
    let t ← peekTok
    let (stop, explicit) ← if ← check [.documentEnd] then do
        let t ← takeTok
        pure (t.stop, true)
      else pure (t.start, false)
    setPhase .documentStart
    return ⟨.documentEnd explicit, t.start, stop⟩
  | .documentContent =>
    if ← check [.directive, .documentStart, .documentEnd, .streamEnd] then
      let t ← peekTok
      popPhase
      return emptyScalar t.start
    else parseNode true false
  | .blockNode => parseNode true false
  | .blockNodeOrIndentlessSequence => parseNode true true
  | .flowNode => parseNode false false
  | .blockSequenceFirstEntry =>
    let t ← takeTok
    pushMark t.start
    blockSequenceEntry
  | .blockSequenceEntry => blockSequenceEntry
  | .indentlessSequenceEntry =>
    if ← check [.blockEntry] then
      let t ← takeTok
      if !(← check [.blockEntry, .key, .value, .blockEnd]) then
        pushPhase .indentlessSequenceEntry
        parseNode true false
      else
        setPhase .indentlessSequenceEntry
        return emptyScalar t.stop
    else
      let t ← peekTok
      popPhase
      return ⟨.sequenceEnd, t.start, t.start⟩
  | .blockMappingFirstKey =>
    let t ← takeTok
    pushMark t.start
    blockMappingKey
  | .blockMappingKey => blockMappingKey
  | .blockMappingValue =>
    if ← check [.value] then
      let t ← takeTok
      if !(← check [.key, .value, .blockEnd]) then
        pushPhase .blockMappingKey
        parseNode true true
      else
        setPhase .blockMappingKey
        return emptyScalar t.stop
    else
      setPhase .blockMappingKey
      let t ← peekTok
      return emptyScalar t.start
  | .flowSequenceFirstEntry =>
    let t ← takeTok
    pushMark t.start
    flowSequenceEntry true
  | .flowSequenceEntry => flowSequenceEntry false
  | .flowSequenceEntryMappingKey =>
    let t ← takeTok
    if !(← check [.value, .flowEntry, .flowSequenceEnd]) then
      pushPhase .flowSequenceEntryMappingValue
      parseNode false false
    else
      setPhase .flowSequenceEntryMappingValue
      return emptyScalar t.stop
  | .flowSequenceEntryMappingValue =>
    if ← check [.value] then
      let t ← takeTok
      if !(← check [.flowEntry, .flowSequenceEnd]) then
        pushPhase .flowSequenceEntryMappingEnd
        parseNode false false
      else
        setPhase .flowSequenceEntryMappingEnd
        return emptyScalar t.stop
    else
      setPhase .flowSequenceEntryMappingEnd
      let t ← peekTok
      return emptyScalar t.start
  | .flowSequenceEntryMappingEnd =>
    setPhase .flowSequenceEntry
    let t ← peekTok
    return ⟨.mappingEnd, t.start, t.start⟩
  | .flowMappingFirstKey =>
    let t ← takeTok
    pushMark t.start
    flowMappingKey true
  | .flowMappingKey => flowMappingKey false
  | .flowMappingValue =>
    if ← check [.value] then
      let t ← takeTok
      if !(← check [.flowEntry, .flowMappingEnd]) then
        pushPhase .flowMappingKey
        parseNode false false
      else
        setPhase .flowMappingKey
        return emptyScalar t.stop
    else
      setPhase .flowMappingKey
      let t ← peekTok
      return emptyScalar t.start
  | .flowMappingEmptyValue =>
    setPhase .flowMappingKey
    let t ← peekTok
    return emptyScalar t.start
where
  explicitDocumentStart : ParseM Event := do
    let rec skipEnds : Nat → ParseM Unit
      | 0 => pure ()
      | fuel + 1 => do
        if ← check [.documentEnd] then
          discard takeTok
          skipEnds fuel
    skipEnds ((← get).lex.buf.size + 1)
    if !(← check [.streamEnd]) then
      let t ← peekTok
      processDirectives
      if !(← check [.documentStart]) then
        let u ← peekTok
        parseError none none s!"expected '<document start>', but found {quote u.kind.name}" u.start
      let d ← takeTok
      pushPhase .documentEnd
      setPhase .documentContent
      return ⟨.documentStart true, t.start, d.stop⟩
    else
      let t ← takeTok
      modify fun p => { p with phase := none }
      return ⟨.streamEnd, t.start, t.stop⟩
  blockSequenceEntry : ParseM Event := do
    if ← check [.blockEntry] then
      let t ← takeTok
      if !(← check [.blockEntry, .blockEnd]) then
        pushPhase .blockSequenceEntry
        return ← parseNode true false
      else
        setPhase .blockSequenceEntry
        return emptyScalar t.stop
    if !(← check [.blockEnd]) then
      let t ← peekTok
      parseError (some "while parsing a block collection") (some (← topMark))
        s!"expected <block end>, but found {quote t.kind.name}" t.start
    let t ← takeTok
    popPhase
    popMark
    return ⟨.sequenceEnd, t.start, t.stop⟩
  blockMappingKey : ParseM Event := do
    if ← check [.key] then
      let t ← takeTok
      if !(← check [.key, .value, .blockEnd]) then
        pushPhase .blockMappingValue
        return ← parseNode true true
      else
        setPhase .blockMappingValue
        return emptyScalar t.stop
    if !(← check [.blockEnd]) then
      let t ← peekTok
      parseError (some "while parsing a block mapping") (some (← topMark))
        s!"expected <block end>, but found {quote t.kind.name}" t.start
    let t ← takeTok
    popPhase
    popMark
    return ⟨.mappingEnd, t.start, t.stop⟩
  flowSequenceEntry (first : Bool) : ParseM Event := do
    if !(← check [.flowSequenceEnd]) then
      if !first then
        if ← check [.flowEntry] then discard takeTok
        else
          let t ← peekTok
          parseError (some "while parsing a flow sequence") (some (← topMark))
            s!"expected ',' or ']', but got {quote t.kind.name}" t.start
      if ← check [.key] then
        let t ← peekTok
        setPhase .flowSequenceEntryMappingKey
        return ⟨.mappingStart none none true, t.start, t.stop⟩
      else if !(← check [.flowSequenceEnd]) then
        pushPhase .flowSequenceEntry
        return ← parseNode false false
    let t ← takeTok
    popPhase
    popMark
    return ⟨.sequenceEnd, t.start, t.stop⟩
  flowMappingKey (first : Bool) : ParseM Event := do
    if !(← check [.flowMappingEnd]) then
      if !first then
        if ← check [.flowEntry] then discard takeTok
        else
          let t ← peekTok
          parseError (some "while parsing a flow mapping") (some (← topMark))
            s!"expected ',' or '\x7d', but got {quote t.kind.name}" t.start
      if ← check [.key] then
        let t ← takeTok
        if !(← check [.value, .flowEntry, .flowMappingEnd]) then
          pushPhase .flowMappingValue
          return ← parseNode false false
        else
          setPhase .flowMappingValue
          return emptyScalar t.stop
      else if !(← check [.flowMappingEnd]) then
        pushPhase .flowMappingEmptyValue
        return ← parseNode false false
    let t ← takeTok
    popPhase
    popMark
    return ⟨.mappingEnd, t.start, t.stop⟩

def peekEvent : ParseM (Option Event) := do
  let p ← get
  match p.current with
  | some e => return some e
  | none =>
    match p.phase with
    | some ph =>
      let e ← runPhase ph
      modify fun p => { p with current := some e }
      return some e
    | none => return none

def checkEvent (c : EventClass) : ParseM Bool := do
  match ← peekEvent with
  | some e => return e.kind.cls = c
  | none => return false

def takeEvent : ParseM Event := do
  let e ← peekEvent
  modify fun p => { p with current := none }
  return e.getD default

end Yaml

end HostSurvey
