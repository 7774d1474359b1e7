import HostSurvey.Yaml.Mark

/-!
Tokens of a YAML text.
-/

namespace HostSurvey

namespace Yaml

/-- The value of a directive: the version of a `%YAML` directive, the handle and prefix of a
`%TAG` directive, or nothing for another directive. -/
inductive DirectiveValue where
  | version (major minor : Nat)
  | tagPrefix (handle pfx : String)
  | none
deriving Repr, Inhabited

/-- What a token is. -/
inductive TokenKind where
  | streamStart
  | streamEnd
  | directive (name : String) (value : DirectiveValue)
  | documentStart
  | documentEnd
  | blockSequenceStart
  | blockMappingStart
  | blockEnd
  | flowSequenceStart
  | flowMappingStart
  | flowSequenceEnd
  | flowMappingEnd
  | key
  | value
  | blockEntry
  | flowEntry
  | alias (name : String)
  | anchor (name : String)
  | tag (handle : Option String) (suffix : String)
  | scalar (text : String) (plain : Bool) (style : Option Char)
deriving Repr, Inhabited

/-- A token with the positions where it starts and ends. -/
structure Token where
  kind : TokenKind
  start : Mark
  stop : Mark
deriving Repr, Inhabited

def TokenKind.name : TokenKind → String
  | .streamStart => "<stream start>"
  | .streamEnd => "<stream end>"
  | .directive .. => "<directive>"
  | .documentStart => "<document start>"
  | .documentEnd => "<document end>"
  | .blockSequenceStart => "<block sequence start>"
  | .blockMappingStart => "<block mapping start>"
  | .blockEnd => "<block end>"
  | .flowSequenceStart => "["
  | .flowMappingStart => "\x7b"
  | .flowSequenceEnd => "]"
  | .flowMappingEnd => "\x7d"
  | .key => "?"
  | .value => ":"
  | .blockEntry => "-"
  | .flowEntry => ","
  | .alias _ => "<alias>"
  | .anchor _ => "<anchor>"
  | .tag .. => "<tag>"
  | .scalar .. => "<scalar>"

/-- The kinds of tokens, without their contents, for tests on the next token. -/
inductive TokenClass where
  | streamStart | streamEnd | directive | documentStart | documentEnd
  | blockSequenceStart | blockMappingStart | blockEnd
  | flowSequenceStart | flowMappingStart | flowSequenceEnd | flowMappingEnd
  | key | value | blockEntry | flowEntry | alias | anchor | tag | scalar
deriving DecidableEq, Repr

def TokenKind.cls : TokenKind → TokenClass
  | .streamStart => .streamStart
  | .streamEnd => .streamEnd
  | .directive .. => .directive
  | .documentStart => .documentStart
  | .documentEnd => .documentEnd
  | .blockSequenceStart => .blockSequenceStart
  | .blockMappingStart => .blockMappingStart
  | .blockEnd => .blockEnd
  | .flowSequenceStart => .flowSequenceStart
  | .flowMappingStart => .flowMappingStart
  | .flowSequenceEnd => .flowSequenceEnd
  | .flowMappingEnd => .flowMappingEnd
  | .key => .key
  | .value => .value
  | .blockEntry => .blockEntry
  | .flowEntry => .flowEntry
  | .alias _ => .alias
  | .anchor _ => .anchor
  | .tag .. => .tag
  | .scalar .. => .scalar

end Yaml

end HostSurvey
