import HostSurvey.Yaml.Token
import HostSurvey.Text.Utf8

/-!
Reading the tokens of a YAML text.
-/

namespace HostSurvey

namespace Yaml

/-- A place where a simple key may start. -/
structure SimpleKey where
  tokenNumber : Nat
  required : Bool
  index : Nat
  line : Nat
  column : Nat
  mark : Mark
  level : Int
deriving Repr

/-- The state of reading tokens. -/
structure Lexer where
  buf : Array Char
  pos : Nat := 0
  line : Nat := 0
  column : Nat := 0
  done : Bool := false
  flowLevel : Int := 0
  queue : List Token := []
  taken : Nat := 0
  indent : Int := -1
  indents : List Int := []
  allowSimpleKey : Bool := true
  simpleKeys : List SimpleKey := []
deriving Repr

abbrev LexM := StateT Lexer (Except YamlFailure)

def isLineBreak (c : Char) : Bool :=
  c = '\r' ∨ c = '\n' ∨ c = '\x85' ∨ c = '\u2028' ∨ c = '\u2029'

def isBreakZ (c : Char) : Bool := c = '\x00' ∨ isLineBreak c

def isBlankZ (c : Char) : Bool := c = ' ' ∨ c = '\t' ∨ isBreakZ c

/-- A space, a line break or the end of the text (a tab is not one). -/
def isSpaceZ (c : Char) : Bool := c = ' ' ∨ isBreakZ c

def isWordChar (c : Char) : Bool :=
  ('0' ≤ c ∧ c ≤ '9') ∨ ('A' ≤ c ∧ c ≤ 'Z') ∨ ('a' ≤ c ∧ c ≤ 'z') ∨ c = '-' ∨ c = '_'

def isAsciiHex (c : Char) : Bool :=
  ('0' ≤ c ∧ c ≤ '9') ∨ ('A' ≤ c ∧ c ≤ 'F') ∨ ('a' ≤ c ∧ c ≤ 'f')

def isAsciiDigit (c : Char) : Bool := '0' ≤ c ∧ c ≤ '9'

def isUriChar (c : Char) : Bool := isWordChar c ∨ "-;/?:@&=+$,_.!~*'()[]%".toList.contains c

def asciiHexValue (c : Char) : Nat :=
  if '0' ≤ c ∧ c ≤ '9' then c.toNat - '0'.toNat
  else if 'a' ≤ c ∧ c ≤ 'f' then c.toNat - 'a'.toNat + 10
  else c.toNat - 'A'.toNat + 10

def hexNumber (s : String) : Nat := s.toList.foldl (fun n c => n * 16 + asciiHexValue c) 0

namespace Lexer

def start (text : String) : Lexer :=
  { buf := (text.toList ++ ['\x00']).toArray,
    queue := [⟨.streamStart, ⟨0, 0, 0⟩, ⟨0, 0, 0⟩⟩] }

def peekAt (s : Lexer) (k : Nat) : Char := s.buf.getD (s.pos + k) '\x00'

def prefixAt (s : Lexer) (n : Nat) : String :=
  String.ofList (s.buf.extract s.pos (s.pos + n)).toList

def mark (s : Lexer) : Mark := ⟨s.pos, s.line, s.column⟩

/-- Moves past one character, counting lines and columns (a byte order mark takes no
column, and CR LF is one line break). -/
def step (s : Lexer) : Lexer :=
  let ch := s.peekAt 0
  let s' := { s with pos := s.pos + 1 }
  if ch = '\n' ∨ ch = '\x85' ∨ ch = '\u2028' ∨ ch = '\u2029' ∨ (ch = '\r' ∧ s'.peekAt 0 ≠ '\n') then
    { s' with line := s.line + 1, column := 0 }
  else if ch ≠ '\uFEFF' then { s' with column := s.column + 1 }
  else s'

def advance (s : Lexer) : Nat → Lexer
  | 0 => s
  | n + 1 => s.step.advance n

def runLength (s : Lexer) (p : Char → Bool) (k : Nat) : Nat :=
  go k (s.buf.size + 1)
where
  go (k : Nat) : Nat → Nat
    | 0 => k
    | fuel + 1 => if p (s.peekAt k) then go (k + 1) fuel else k

def firstIndex (s : Lexer) (p : Nat → Bool) (k : Nat) : Nat :=
  go k (s.buf.size + 1)
where
  go (k : Nat) : Nat → Nat
    | 0 => k
    | fuel + 1 => if p k then k else go (k + 1) fuel

def nextSimpleKey (s : Lexer) : Option Nat :=
  s.simpleKeys.foldl (fun acc k => match acc with
    | some n => some (min n k.tokenNumber)
    | none => some k.tokenNumber) none

end Lexer

def peek (k : Nat := 0) : LexM Char := do return (← get).peekAt k

def pfx (n : Nat) : LexM String := do return (← get).prefixAt n

def forward (n : Nat := 1) : LexM Unit := modify (·.advance n)

def getMark : LexM Mark := do return (← get).mark

def skipWhile (p : Char → Bool) : LexM Unit := do
  let s ← get
  set (s.advance (s.runLength p 0))

def scanError {α : Type} (context : Option String) (cmark : Option Mark) (problem : String)
    (pmark : Mark) : LexM α :=
  throw (.marked { context, contextMark := cmark, problem, problemMark := some pmark })

def emit (t : Token) : LexM Unit := modify fun s => { s with queue := s.queue ++ [t] }

/-- Reads a line break: CR LF, CR, LF and NEL become LF, the Unicode separators stay. -/
def scanLineBreak : LexM String := do
  let ch ← peek
  if ch = '\r' ∨ ch = '\n' ∨ ch = '\x85' then
    if (← pfx 2) = "\r\n" then forward 2 else forward 1
    return "\n"
  else if ch = '\u2028' ∨ ch = '\u2029' then
    forward
    return String.singleton ch
  else return ""

/-- Skips spaces, comments and line breaks up to the next token; a line break in block
context allows a simple key. -/
def scanToNextToken : LexM Unit := do
  let s ← get
  if s.pos = 0 ∧ s.peekAt 0 = '\uFEFF' then forward
  loop (s.buf.size + 1)
where
  loop : Nat → LexM Unit
    | 0 => pure ()
    | fuel + 1 => do
      skipWhile (· = ' ')
      if (← peek) = '#' then skipWhile (fun c => !isBreakZ c)
      let br ← scanLineBreak
      if br.isEmpty then pure ()
      else
        if (← get).flowLevel = 0 then modify fun s => { s with allowSimpleKey := true }
        loop fuel

/-- Forgets possible simple keys that can no longer be keys: those on an earlier line or
more than 1024 characters back. A key that had to be one is an error. -/
def staleSimpleKeys : LexM Unit := do
  let s ← get
  let mut kept : List SimpleKey := []
  for key in s.simpleKeys do
    if key.line ≠ s.line ∨ s.pos - key.index > 1024 then
      if key.required then
        scanError (some "while scanning a simple key") (some key.mark) "could not find expected ':'" s.mark
    else kept := kept ++ [key]
  set { s with simpleKeys := kept }

/-- Forgets the possible simple key of the current flow level; one that had to be a key is
an error. -/
def removeSimpleKey : LexM Unit := do
  let s ← get
  match s.simpleKeys.find? (·.level = s.flowLevel) with
  | some key =>
    if key.required then
      scanError (some "while scanning a simple key") (some key.mark) "could not find expected ':'" s.mark
    set { s with simpleKeys := s.simpleKeys.filter (·.level ≠ s.flowLevel) }
  | none => pure ()

def saveSimpleKey : LexM Unit := do
  let s ← get
  let required := s.flowLevel = 0 ∧ s.indent = (s.column : Int)
  if s.allowSimpleKey then
    removeSimpleKey
    let s ← get
    let key : SimpleKey := ⟨s.taken + s.queue.length, required, s.pos, s.line, s.column, s.mark, s.flowLevel⟩
    set { s with simpleKeys := s.simpleKeys ++ [key] }

def unwindIndent (column : Int) : LexM Unit := do
  let s ← get
  if s.flowLevel ≠ 0 then return
  loop (s.indents.length + 1)
where
  loop : Nat → LexM Unit
    | 0 => pure ()
    | fuel + 1 => do
      let s ← get
      if s.indent > column then
        match s.indents with
        | i :: rest =>
          set { s with indent := i, indents := rest, queue := s.queue ++ [Token.mk .blockEnd s.mark s.mark] }
          loop fuel
        | [] => pure ()
      else pure ()

def addIndent (column : Int) : LexM Bool := do
  let s ← get
  if s.indent < column then
    set { s with indents := s.indent :: s.indents, indent := column }
    return true
  return false

def indicator (kind : TokenKind) (n : Nat := 1) : LexM Unit := do
  let a ← getMark
  forward n
  let b ← getMark
  emit ⟨kind, a, b⟩

/-! ### Directives -/

def scanDirectiveName (start : Mark) : LexM String := do
  let s ← get
  let n := s.runLength isWordChar 0
  if n = 0 then
    scanError (some "while scanning a directive") (some start)
      s!"expected alphabetic or numeric character, but found {quote (String.singleton (s.peekAt 0))}" s.mark
  let value := s.prefixAt n
  forward n
  let ch ← peek
  if !isSpaceZ ch then
    scanError (some "while scanning a directive") (some start)
      s!"expected alphabetic or numeric character, but found {quote (String.singleton ch)}" (← getMark)
  return value

def scanVersionNumber (start : Mark) : LexM Nat := do
  let ch ← peek
  if !isAsciiDigit ch then
    scanError (some "while scanning a directive") (some start)
      s!"expected a digit, but found {quote (String.singleton ch)}" (← getMark)
  let s ← get
  let n := s.runLength isAsciiDigit 0
  let value := (s.prefixAt n).toList.foldl (fun acc c => acc * 10 + (c.toNat - '0'.toNat)) 0
  forward n
  return value

def scanVersionValue (start : Mark) : LexM DirectiveValue := do
  skipWhile (· = ' ')
  let major ← scanVersionNumber start
  let ch ← peek
  if ch ≠ '.' then
    scanError (some "while scanning a directive") (some start)
      s!"expected a digit or '.', but found {quote (String.singleton ch)}" (← getMark)
  forward
  let minor ← scanVersionNumber start
  let ch ← peek
  if !isSpaceZ ch then
    scanError (some "while scanning a directive") (some start)
      s!"expected a digit or ' ', but found {quote (String.singleton ch)}" (← getMark)
  return .version major minor

def scanTagHandle (name : String) (start : Mark) : LexM String := do
  let ch ← peek
  if ch ≠ '!' then
    scanError (some s!"while scanning a {name}") (some start)
      s!"expected '!', but found {quote (String.singleton ch)}" (← getMark)
  let s ← get
  let mut n := 1
  if s.peekAt 1 ≠ ' ' then
    n := s.runLength isWordChar 1
    let ch := s.peekAt n
    if ch ≠ '!' then
      forward n
      scanError (some s!"while scanning a {name}") (some start)
        s!"expected '!', but found {quote (String.singleton ch)}" (← getMark)
    n := n + 1
  let value := s.prefixAt n
  forward n
  return value

def scanUriEscapes (name : String) (start : Mark) : LexM String := do
  let m ← getMark
  let rec loop : Nat → List UInt8 → LexM (List UInt8)
    | 0, acc => pure acc
    | fuel + 1, acc => do
      if (← peek) ≠ '%' then return acc
      forward
      for k in [0, 1] do
        let c ← peek k
        if !isAsciiHex c then
          scanError (some s!"while scanning a {name}") (some start)
            s!"expected URI escape sequence of 2 hexadecimal numbers, but found {quote (String.singleton c)}" (← getMark)
      let code := hexNumber (← pfx 2)
      forward 2
      loop fuel (acc ++ [UInt8.ofNat code])
  let bytes ← loop ((← get).buf.size + 1) []
  match decodeUtf8 bytes with
  | .ok cs => return String.ofList cs
  | .error e =>
    let ctx := s!"while scanning a {name}"
    throw (.marked { context := some ctx, contextMark := some start, problem := e.message, problemMark := some m })

def scanTagUri (name : String) (start : Mark) : LexM String := do
  let rec loop : Nat → List String → Nat → LexM (List String × Nat)
    | 0, chunks, n => pure (chunks, n)
    | fuel + 1, chunks, n => do
      let ch ← peek n
      if !isUriChar ch then return (chunks, n)
      if ch = '%' then
        let piece ← pfx n
        forward n
        let esc ← scanUriEscapes name start
        loop fuel (chunks ++ [piece, esc]) 0
      else loop fuel chunks (n + 1)
  let (chunks, n) ← loop ((← get).buf.size + 1) [] 0
  let chunks ← if n > 0 then do
      let piece ← pfx n
      forward n
      pure (chunks ++ [piece])
    else pure chunks
  if chunks.isEmpty then
    scanError (some s!"while parsing a {name}") (some start)
      s!"expected URI, but found {quote (String.singleton (← peek))}" (← getMark)
  return String.join chunks

def scanTagDirectiveValue (start : Mark) : LexM DirectiveValue := do
  skipWhile (· = ' ')
  let handle ← scanTagHandle "directive" start
  let ch ← peek
  if ch ≠ ' ' then
    scanError (some "while scanning a directive") (some start)
      s!"expected ' ', but found {quote (String.singleton ch)}" (← getMark)
  skipWhile (· = ' ')
  let p ← scanTagUri "directive" start
  let ch ← peek
  if !isSpaceZ ch then
    scanError (some "while scanning a directive") (some start)
      s!"expected ' ', but found {quote (String.singleton ch)}" (← getMark)
  return .tagPrefix handle p

def scanDirectiveIgnoredLine (start : Mark) : LexM Unit := do
  skipWhile (· = ' ')
  if (← peek) = '#' then skipWhile (fun c => !isBreakZ c)
  let ch ← peek
  if !isBreakZ ch then
    scanError (some "while scanning a directive") (some start)
      s!"expected a comment or a line break, but found {quote (String.singleton ch)}" (← getMark)
  discard scanLineBreak

def scanDirective : LexM Token := do
  let start ← getMark
  forward
  let name ← scanDirectiveName start
  let (value, stop) ←
    if name = "YAML" then do
      let v ← scanVersionValue start
      pure (v, ← getMark)
    else if name = "TAG" then do
      let v ← scanTagDirectiveValue start
      pure (v, ← getMark)
    else do
      let m ← getMark
      skipWhile (fun c => !isBreakZ c)
      pure (DirectiveValue.none, m)
  scanDirectiveIgnoredLine start
  return ⟨.directive name value, start, stop⟩

/-! ### Anchors, aliases and tags -/

def scanAnchor (isAlias : Bool) : LexM Token := do
  let start ← getMark
  let what := if isAlias then "alias" else "anchor"
  forward
  let s ← get
  let n := s.runLength isWordChar 0
  if n = 0 then
    scanError (some s!"while scanning an {what}") (some start)
      s!"expected alphabetic or numeric character, but found {quote (String.singleton (s.peekAt 0))}" s.mark
  let value := s.prefixAt n
  forward n
  let ch ← peek
  if !(isBlankZ ch ∨ "?:,]\x7d%@`".toList.contains ch) then
    scanError (some s!"while scanning an {what}") (some start)
      s!"expected alphabetic or numeric character, but found {quote (String.singleton ch)}" (← getMark)
  let stop ← getMark
  return ⟨if isAlias then .alias value else .anchor value, start, stop⟩

def scanTag : LexM Token := do
  let start ← getMark
  let ch ← peek 1
  let (handle, suffix) ←
    if ch = '<' then do
      forward 2
      let suffix ← scanTagUri "tag" start
      let c ← peek
      if c ≠ '>' then
        scanError (some "while parsing a tag") (some start)
          s!"expected '>', but found {quote (String.singleton c)}" (← getMark)
      forward
      pure (none, suffix)
    else if isBlankZ ch then do
      forward
      pure (none, "!")
    else do
      let s ← get
      let bang := s.runLength (fun c => !isSpaceZ c ∧ c ≠ '!') 1
      let handle ← if s.peekAt bang = '!' then scanTagHandle "tag" start
        else do forward; pure "!"
      let suffix ← scanTagUri "tag" start
      pure (some handle, suffix)
  let c ← peek
  if !isSpaceZ c then
    scanError (some "while scanning a tag") (some start)
      s!"expected ' ', but found {quote (String.singleton c)}" (← getMark)
  let stop ← getMark
  return ⟨.tag handle suffix, start, stop⟩

/-! ### Block scalars -/

def scanBlockScalarIndicators (start : Mark) : LexM (Option Bool × Option Nat) := do
  let zeroError : LexM Unit := do
    scanError (some "while scanning a block scalar") (some start)
      "expected indentation indicator in the range 1-9, but found 0" (← getMark)
  let mut chomping : Option Bool := none
  let mut increment : Option Nat := none
  let ch ← peek
  if ch = '+' ∨ ch = '-' then
    chomping := some (ch = '+')
    forward
    let c ← peek
    if isAsciiDigit c then
      if c = '0' then zeroError
      increment := some (c.toNat - '0'.toNat)
      forward
  else if isAsciiDigit ch then
    if ch = '0' then zeroError
    increment := some (ch.toNat - '0'.toNat)
    forward
    let c ← peek
    if c = '+' ∨ c = '-' then
      chomping := some (c = '+')
      forward
  let c ← peek
  if !isSpaceZ c then
    scanError (some "while scanning a block scalar") (some start)
      s!"expected chomping or indentation indicators, but found {quote (String.singleton c)}" (← getMark)
  return (chomping, increment)

def scanBlockScalarIgnoredLine (start : Mark) : LexM Unit := do
  skipWhile (· = ' ')
  if (← peek) = '#' then skipWhile (fun c => !isBreakZ c)
  let ch ← peek
  if !isBreakZ ch then
    scanError (some "while scanning a block scalar") (some start)
      s!"expected a comment or a line break, but found {quote (String.singleton ch)}" (← getMark)
  discard scanLineBreak

def scanBlockScalarIndentation : LexM (List String × Nat × Mark) := do
  let rec loop : Nat → List String → Nat → Mark → LexM (List String × Nat × Mark)
    | 0, chunks, maxIndent, m => pure (chunks, maxIndent, m)
    | fuel + 1, chunks, maxIndent, m => do
      let ch ← peek
      if !(ch = ' ' ∨ isLineBreak ch) then return (chunks, maxIndent, m)
      if ch ≠ ' ' then
        let br ← scanLineBreak
        loop fuel (chunks ++ [br]) maxIndent (← getMark)
      else
        forward
        let col := (← get).column
        loop fuel chunks (max maxIndent col) m
  loop ((← get).buf.size + 1) [] 0 (← getMark)

def scanBlockScalarBreaks (indent : Int) : LexM (List String × Mark) := do
  let skipIndent : LexM Unit := do
    let s ← get
    let n := s.runLength (· = ' ') 0
    let room := (indent - s.column).toNat
    forward (min n room)
  skipIndent
  let rec loop : Nat → List String → Mark → LexM (List String × Mark)
    | 0, chunks, m => pure (chunks, m)
    | fuel + 1, chunks, m => do
      if !isLineBreak (← peek) then return (chunks, m)
      let br ← scanLineBreak
      let m ← getMark
      skipIndent
      loop fuel (chunks ++ [br]) m
  loop ((← get).buf.size + 1) [] (← getMark)

def scanBlockScalar (style : Char) : LexM Token := do
  let folded := style = '>'
  let start ← getMark
  forward
  let (chomping, increment) ← scanBlockScalarIndicators start
  scanBlockScalarIgnoredLine start
  let minIndent : Int := max ((← get).indent + 1) 1
  let (breaks0, indent, end0) ← match increment with
    | none => do
      let (br, maxIndent, m) ← scanBlockScalarIndentation
      pure (br, max minIndent (maxIndent : Int), m)
    | some inc => do
      let indent := minIndent + inc - 1
      let (br, m) ← scanBlockScalarBreaks indent
      pure (br, indent, m)
  let rec body : Nat → List String → List String → String → Mark →
      LexM (List String × List String × String × Mark)
    | 0, chunks, breaks, lineBreak, m => pure (chunks, breaks, lineBreak, m)
    | fuel + 1, chunks, breaks, lineBreak, m => do
      let s ← get
      if !((s.column : Int) = indent ∧ s.peekAt 0 ≠ '\x00') then
        return (chunks, breaks, lineBreak, m)
      let leadingNonSpace := !(s.peekAt 0 = ' ' ∨ s.peekAt 0 = '\t')
      let n := s.runLength (fun c => !isBreakZ c) 0
      let line := s.prefixAt n
      forward n
      let lb ← scanLineBreak
      let (br, m) ← scanBlockScalarBreaks indent
      let chunks := chunks ++ breaks ++ [line]
      let s ← get
      if (s.column : Int) = indent ∧ s.peekAt 0 ≠ '\x00' then
        let next := s.peekAt 0
        let chunks :=
          if folded ∧ lb = "\n" ∧ leadingNonSpace ∧ !(next = ' ' ∨ next = '\t') then
            if br.isEmpty then chunks ++ [" "] else chunks
          else chunks ++ [lb]
        body fuel chunks br lb m
      else return (chunks, br, lb, m)
  let (chunks, breaks, lineBreak, stop) ← body ((← get).buf.size + 1) [] breaks0 "" end0
  let chunks := if chomping ≠ some false then chunks ++ [lineBreak] else chunks
  let chunks := if chomping = some true then chunks ++ breaks else chunks
  return ⟨.scalar (String.join chunks) false (some style), start, stop⟩

/-! ### Quoted scalars -/

def escapeReplacement (c : Char) : Option Char :=
  match c with
  | '0' => some '\x00' | 'a' => some '\x07' | 'b' => some '\x08' | 't' => some '\t'
  | '\t' => some '\t' | 'n' => some '\n' | 'v' => some '\x0b' | 'f' => some '\x0c'
  | 'r' => some '\r' | 'e' => some '\x1b' | ' ' => some ' ' | '"' => some '"'
  | '\\' => some '\\' | '/' => some '/' | 'N' => some '\x85' | '_' => some '\xa0'
  | 'L' => some '\u2028' | 'P' => some '\u2029'
  | _ => none

def escapeCodeLength (c : Char) : Option Nat :=
  match c with
  | 'x' => some 2 | 'u' => some 4 | 'U' => some 8
  | _ => none

def scanFlowScalarBreaks (start : Mark) : LexM (List String) := do
  let rec loop : Nat → List String → LexM (List String)
    | 0, chunks => pure chunks
    | fuel + 1, chunks => do
      let p ← pfx 3
      if (p = "---" ∨ p = "...") ∧ isBlankZ (← peek 3) then
        scanError (some "while scanning a quoted scalar") (some start)
          "found unexpected document separator" (← getMark)
      skipWhile (fun c => c = ' ' ∨ c = '\t')
      if isLineBreak (← peek) then
        let br ← scanLineBreak
        loop fuel (chunks ++ [br])
      else return chunks
  loop ((← get).buf.size + 1) []

def scanFlowScalarNonSpaces (double : Bool) (start : Mark) : LexM (List String) := do
  let rec loop : Nat → List String → LexM (List String)
    | 0, chunks => pure chunks
    | fuel + 1, chunks => do
      let s ← get
      let n := s.runLength (fun c => !("'\"\\".toList.contains c ∨ isBlankZ c)) 0
      let chunks := if n > 0 then chunks ++ [s.prefixAt n] else chunks
      forward n
      let ch ← peek
      if !double ∧ ch = '\'' ∧ (← peek 1) = '\'' then
        forward 2
        loop fuel (chunks ++ ["'"])
      else if (double ∧ ch = '\'') ∨ (!double ∧ (ch = '"' ∨ ch = '\\')) then
        forward
        loop fuel (chunks ++ [String.singleton ch])
      else if double ∧ ch = '\\' then
        forward
        let c ← peek
        match escapeReplacement c, escapeCodeLength c with
        | some r, _ =>
          forward
          loop fuel (chunks ++ [String.singleton r])
        | none, some len =>
          forward
          for k in List.range len do
            let d ← peek k
            if !isAsciiHex d then
              scanError (some "while scanning a double-quoted scalar") (some start)
                s!"expected escape sequence of {len} hexadecimal numbers, but found {quote (String.singleton d)}" (← getMark)
          let code := hexNumber (← pfx len)
          if code ≥ 0x110000 then throw (.fault (.other "ValueError" "chr() arg not in range(0x110000)"))
          let ch := charOfCode code
          forward len
          loop fuel (chunks ++ [String.singleton ch])
        | none, none =>
          if isLineBreak c then
            discard scanLineBreak
            let brs ← scanFlowScalarBreaks start
            loop fuel (chunks ++ brs)
          else
            scanError (some "while scanning a double-quoted scalar") (some start)
              s!"found unknown escape character {quote (String.singleton c)}" (← getMark)
      else return chunks
  loop ((← get).buf.size + 1) []

def scanFlowScalarSpaces (start : Mark) : LexM (List String) := do
  let s ← get
  let n := s.runLength (fun c => c = ' ' ∨ c = '\t') 0
  let whitespaces := s.prefixAt n
  forward n
  let ch ← peek
  if ch = '\x00' then
    scanError (some "while scanning a quoted scalar") (some start) "found unexpected end of stream" (← getMark)
  else if isLineBreak ch then
    let lineBreak ← scanLineBreak
    let breaks ← scanFlowScalarBreaks start
    let first := if lineBreak ≠ "\n" then [lineBreak] else if breaks.isEmpty then [" "] else []
    return first ++ breaks
  else return [whitespaces]

def scanFlowScalar (style : Char) : LexM Token := do
  let double := style = '"'
  let start ← getMark
  let q ← peek
  forward
  let first ← scanFlowScalarNonSpaces double start
  let rec loop : Nat → List String → LexM (List String)
    | 0, chunks => pure chunks
    | fuel + 1, chunks => do
      if (← peek) = q then return chunks
      let sp ← scanFlowScalarSpaces start
      let ns ← scanFlowScalarNonSpaces double start
      loop fuel (chunks ++ sp ++ ns)
  let chunks ← loop ((← get).buf.size + 1) first
  forward
  let stop ← getMark
  return ⟨.scalar (String.join chunks) false (some style), start, stop⟩

/-! ### Plain scalars -/

/-- Reads the spaces and line breaks after a piece of a plain scalar; nothing when a
document separator follows a line break. -/
def scanPlainSpaces : LexM (List String) := do
  let s ← get
  let n := s.runLength (· = ' ') 0
  let whitespaces := s.prefixAt n
  forward n
  let ch ← peek
  if isLineBreak ch then
    let lineBreak ← scanLineBreak
    modify fun s => { s with allowSimpleKey := true }
    let separator : LexM Bool := do
      let p ← pfx 3
      return (p = "---" ∨ p = "...") ∧ isBlankZ (← peek 3)
    if ← separator then return []
    let rec loop : Nat → List String → LexM (Option (List String))
      | 0, breaks => pure (some breaks)
      | fuel + 1, breaks => do
        let c ← peek
        if c = ' ' then
          forward
          loop fuel breaks
        else if isLineBreak c then
          let br ← scanLineBreak
          if ← separator then return none
          loop fuel (breaks ++ [br])
        else return some breaks
    match ← loop ((← get).buf.size + 1) [] with
    | none => return []
    | some breaks =>
      let first := if lineBreak ≠ "\n" then [lineBreak] else if breaks.isEmpty then [" "] else []
      return first ++ breaks
  else if !whitespaces.isEmpty then return [whitespaces]
  else return []

/-- Reads a plain scalar: pieces of text joined by folded spaces and line breaks, ending at
`: `, ` #`, a line indented too little, or a flow indicator in flow context. -/
def scanPlain : LexM Token := do
  let start ← getMark
  let indent := (← get).indent + 1
  let rec loop : Nat → List String → List String → Mark → LexM (List String × Mark)
    | 0, chunks, _, m => pure (chunks, m)
    | fuel + 1, chunks, spaces, m => do
      if (← peek) = '#' then return (chunks, m)
      let s ← get
      let flow := s.flowLevel ≠ 0
      let stops (k : Nat) : Bool :=
        let ch := s.peekAt k
        isBlankZ ch ∨
          (ch = ':' ∧ (isBlankZ (s.peekAt (k + 1)) ∨ (flow ∧ ",[]{}".toList.contains (s.peekAt (k + 1))))) ∨
          (flow ∧ ",?[]{}".toList.contains ch)
      let len := s.firstIndex stops 0
      if len = 0 then return (chunks, m)
      modify fun s => { s with allowSimpleKey := false }
      let piece := s.prefixAt len
      forward len
      let m ← getMark
      let chunks := chunks ++ spaces ++ [piece]
      let spaces ← scanPlainSpaces
      let s ← get
      if spaces.isEmpty ∨ s.peekAt 0 = '#' ∨ (s.flowLevel = 0 ∧ (s.column : Int) < indent) then
        return (chunks, m)
      loop fuel chunks spaces m
  let (chunks, stop) ← loop ((← get).buf.size + 1) [] [] start
  return ⟨.scalar (String.join chunks) true none, start, stop⟩

/-! ### Fetching tokens -/

def fetchStreamEnd : LexM Unit := do
  unwindIndent (-1)
  removeSimpleKey
  modify fun s => { s with allowSimpleKey := false, simpleKeys := [] }
  let m ← getMark
  emit ⟨.streamEnd, m, m⟩
  modify fun s => { s with done := true }

def fetchDirective : LexM Unit := do
  unwindIndent (-1)
  removeSimpleKey
  modify fun s => { s with allowSimpleKey := false }
  emit (← scanDirective)

def fetchDocumentIndicator (kind : TokenKind) : LexM Unit := do
  unwindIndent (-1)
  removeSimpleKey
  modify fun s => { s with allowSimpleKey := false }
  indicator kind 3

def fetchFlowCollectionStart (kind : TokenKind) : LexM Unit := do
  saveSimpleKey
  modify fun s => { s with flowLevel := s.flowLevel + 1, allowSimpleKey := true }
  indicator kind

def fetchFlowCollectionEnd (kind : TokenKind) : LexM Unit := do
  removeSimpleKey
  modify fun s => { s with flowLevel := s.flowLevel - 1, allowSimpleKey := false }
  indicator kind

def fetchFlowEntry : LexM Unit := do
  modify fun s => { s with allowSimpleKey := true }
  removeSimpleKey
  indicator .flowEntry

def fetchBlockEntry : LexM Unit := do
  let s ← get
  if s.flowLevel = 0 then
    if !s.allowSimpleKey then
      throw (.marked { problem := "sequence entries are not allowed here", problemMark := some s.mark })
    if ← addIndent s.column then
      let m ← getMark
      emit ⟨.blockSequenceStart, m, m⟩
  modify fun s => { s with allowSimpleKey := true }
  removeSimpleKey
  indicator .blockEntry

def fetchKey : LexM Unit := do
  let s ← get
  if s.flowLevel = 0 then
    if !s.allowSimpleKey then
      throw (.marked { problem := "mapping keys are not allowed here", problemMark := some s.mark })
    if ← addIndent s.column then
      let m ← getMark
      emit ⟨.blockMappingStart, m, m⟩
  modify fun s => { s with allowSimpleKey := s.flowLevel = 0 }
  removeSimpleKey
  indicator .key

def insertAt (n : Nat) (t : Token) : LexM Unit :=
  modify fun s =>
    let i := n - s.taken
    { s with queue := s.queue.take i ++ [t] ++ s.queue.drop i }

/-- Reads `:`; a waiting simple key becomes a KEY token where it started. -/
def fetchValue : LexM Unit := do
  let s ← get
  match s.simpleKeys.find? (·.level = s.flowLevel) with
  | some key =>
    set { s with simpleKeys := s.simpleKeys.filter (·.level ≠ s.flowLevel) }
    insertAt key.tokenNumber ⟨.key, key.mark, key.mark⟩
    if s.flowLevel = 0 then
      if ← addIndent key.column then
        insertAt key.tokenNumber ⟨.blockMappingStart, key.mark, key.mark⟩
    modify fun s => { s with allowSimpleKey := false }
  | none =>
    if s.flowLevel = 0 then
      if !s.allowSimpleKey then
        throw (.marked { problem := "mapping values are not allowed here", problemMark := some s.mark })
      if ← addIndent s.column then
        let m ← getMark
        emit ⟨.blockMappingStart, m, m⟩
    modify fun s => { s with allowSimpleKey := s.flowLevel = 0 }
    removeSimpleKey
  indicator .value

def fetchAnchor (isAlias : Bool) : LexM Unit := do
  saveSimpleKey
  modify fun s => { s with allowSimpleKey := false }
  emit (← scanAnchor isAlias)

def fetchTag : LexM Unit := do
  saveSimpleKey
  modify fun s => { s with allowSimpleKey := false }
  emit (← scanTag)

def fetchBlockScalar (style : Char) : LexM Unit := do
  modify fun s => { s with allowSimpleKey := true }
  removeSimpleKey
  emit (← scanBlockScalar style)

def fetchFlowScalar (style : Char) : LexM Unit := do
  saveSimpleKey
  modify fun s => { s with allowSimpleKey := false }
  emit (← scanFlowScalar style)

def fetchPlain : LexM Unit := do
  saveSimpleKey
  modify fun s => { s with allowSimpleKey := false }
  emit (← scanPlain)

def atDocumentIndicator (s : Lexer) (c : Char) : Bool :=
  s.column = 0 ∧ s.prefixAt 3 = String.ofList [c, c, c] ∧ isBlankZ (s.peekAt 3)

def canStartPlain (s : Lexer) : Bool :=
  let ch := s.peekAt 0
  !(isBlankZ ch ∨ "-?:,[]{}#&*!|>'\"%@`".toList.contains ch) ∨
    (!isBlankZ (s.peekAt 1) ∧ (ch = '-' ∨ (s.flowLevel = 0 ∧ (ch = '?' ∨ ch = ':'))))

def fetchMoreTokens : LexM Unit := do
  scanToNextToken
  staleSimpleKeys
  unwindIndent (← get).column
  let s ← get
  let ch := s.peekAt 0
  let flow := s.flowLevel ≠ 0
  let spaced := isBlankZ (s.peekAt 1)
  if ch = '\x00' then fetchStreamEnd
  else if ch = '%' ∧ s.column = 0 then fetchDirective
  else if ch = '-' ∧ atDocumentIndicator s '-' then fetchDocumentIndicator .documentStart
  else if ch = '.' ∧ atDocumentIndicator s '.' then fetchDocumentIndicator .documentEnd
  else if ch = '[' then fetchFlowCollectionStart .flowSequenceStart
  else if ch = '{' then fetchFlowCollectionStart .flowMappingStart
  else if ch = ']' then fetchFlowCollectionEnd .flowSequenceEnd
  else if ch = '}' then fetchFlowCollectionEnd .flowMappingEnd
  else if ch = ',' then fetchFlowEntry
  else if ch = '-' ∧ spaced then fetchBlockEntry
  else if ch = '?' ∧ (flow ∨ spaced) then fetchKey
  else if ch = ':' ∧ (flow ∨ spaced) then fetchValue
  else if ch = '*' then fetchAnchor true
  else if ch = '&' then fetchAnchor false
  else if ch = '!' then fetchTag
  else if ch = '|' ∧ !flow then fetchBlockScalar '|'
  else if ch = '>' ∧ !flow then fetchBlockScalar '>'
  else if ch = '\'' then fetchFlowScalar '\''
  else if ch = '"' then fetchFlowScalar '"'
  else if canStartPlain s then fetchPlain
  else
    scanError (some "while scanning for the next token") none
      s!"found character {quote (String.singleton ch)} that cannot start any token" s.mark

def needMoreTokens : LexM Bool := do
  let s ← get
  if s.done then return false
  if s.queue.isEmpty then return true
  staleSimpleKeys
  let s ← get
  return s.nextSimpleKey = some s.taken

def ensureTokens : LexM Unit := do
  let rec loop : Nat → LexM Unit
    | 0 => pure ()
    | fuel + 1 => do
      if ← needMoreTokens then
        fetchMoreTokens
        loop fuel
  loop ((← get).buf.size + 2)

def peekToken : LexM Token := do
  ensureTokens
  let s ← get
  match s.queue with
  | t :: _ => return t
  | [] => return ⟨.streamEnd, s.mark, s.mark⟩

def takeToken : LexM Token := do
  ensureTokens
  let s ← get
  match s.queue with
  | t :: rest =>
    set { s with queue := rest, taken := s.taken + 1 }
    return t
  | [] => return ⟨.streamEnd, s.mark, s.mark⟩

def checkToken (classes : List TokenClass) : LexM Bool := do
  ensureTokens
  match (← get).queue with
  | t :: _ => return classes.contains t.kind.cls
  | [] => return false

end Yaml

end HostSurvey
