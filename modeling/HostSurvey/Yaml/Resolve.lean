/-!
The tags that plain scalars take from their text, after the YAML 1.1 type repository.
-/

namespace HostSurvey

namespace Yaml

def coreTag (name : String) : String := "tag:yaml.org,2002:" ++ name

def strTag : String := coreTag "str"

def seqTag : String := coreTag "seq"

def mapTag : String := coreTag "map"

def mergeTag : String := coreTag "merge"

def valueTag : String := coreTag "value"

def isDigitOrUnderscore (c : Char) : Bool := c.isDigit || c = '_'

def dropSign : List Char → List Char
  | c :: rest => if c = '+' || c = '-' then rest else c :: rest
  | [] => []

def digitsThen (k : List Char → Bool) : List Char → Bool
  | a :: rest =>
    a.isDigit && (k rest || match rest with
      | b :: rest' => b.isDigit && k rest'
      | [] => false)
  | [] => false

/-- One or more sexagesimal groups (a colon, then one digit, or two digits the first of which
is at most five), then what `k` accepts. -/
def sexagesimalThen (k : List Char → Bool) : List Char → Bool
  | ':' :: a :: rest =>
    (a.isDigit && (k rest || sexagesimalThen k rest)) ||
      (match rest with
        | b :: rest' => '0' ≤ a && a ≤ '5' && b.isDigit && (k rest' || sexagesimalThen k rest')
        | [] => false)
  | _ => false

def isExponentTail : List Char → Bool
  | [] => true
  | e :: s :: ds => (e = 'e' || e = 'E') && (s = '+' || s = '-') && !ds.isEmpty && ds.all Char.isDigit
  | _ => false

def boolWords : List String :=
  ["yes", "Yes", "YES", "no", "No", "NO", "true", "True", "TRUE", "false", "False", "FALSE",
    "on", "On", "ON", "off", "Off", "OFF"]

def isBoolText (cs : List Char) : Bool := boolWords.contains (String.ofList cs)

/-- Whether a text is a floating point numeral: digits with a point and an optional exponent,
a point with digits, a sexagesimal numeral with a point, or an infinity or not-a-number. -/
def isFloatText (cs : List Char) : Bool :=
  let unsigned := dropSign cs
  let positional := match unsigned with
    | d :: rest =>
      d.isDigit && match rest.dropWhile isDigitOrUnderscore with
        | '.' :: frac => isExponentTail (frac.dropWhile isDigitOrUnderscore)
        | _ => false
    | [] => false
  let pointFirst := match cs with
    | '.' :: d :: rest => d.isDigit && isExponentTail (rest.dropWhile isDigitOrUnderscore)
    | _ => false
  let sexagesimal := match unsigned with
    | d :: rest =>
      d.isDigit && sexagesimalThen
        (fun r => match r with
          | '.' :: frac => frac.all isDigitOrUnderscore
          | _ => false)
        (rest.dropWhile isDigitOrUnderscore)
    | [] => false
  let infinity := match unsigned with
    | '.' :: w => ["inf", "Inf", "INF"].contains (String.ofList w)
    | _ => false
  let notANumber := match cs with
    | '.' :: w => ["nan", "NaN", "NAN"].contains (String.ofList w)
    | _ => false
  positional || pointFirst || sexagesimal || infinity || notANumber

/-- Whether a text is an integer numeral: binary after `0b`, octal after `0`, decimal,
hexadecimal after `0x`, or sexagesimal; underscores may stand among the digits. -/
def isIntText (cs : List Char) : Bool :=
  let unsigned := dropSign cs
  let nonEmptyOf (p : Char → Bool) (r : List Char) : Bool := !r.isEmpty && r.all (fun c => p c || c = '_')
  let binary := match unsigned with
    | '0' :: 'b' :: r => nonEmptyOf (fun c => c = '0' || c = '1') r
    | _ => false
  let octal := match unsigned with
    | '0' :: r => nonEmptyOf (fun c => '0' ≤ c && c ≤ '7') r
    | _ => false
  let decimal := match unsigned with
    | ['0'] => true
    | d :: r => '1' ≤ d && d ≤ '9' && r.all isDigitOrUnderscore
    | [] => false
  let hexadecimal := match unsigned with
    | '0' :: 'x' :: r =>
      nonEmptyOf (fun c => c.isDigit || ('a' ≤ c && c ≤ 'f') || ('A' ≤ c && c ≤ 'F')) r
    | _ => false
  let sexagesimal := match unsigned with
    | d :: r => '1' ≤ d && d ≤ '9' && sexagesimalThen List.isEmpty (r.dropWhile isDigitOrUnderscore)
    | [] => false
  binary || octal || decimal || hexadecimal || sexagesimal

/-- Whether a text is a null: `~`, `null` in one of three cases, or nothing. -/
def isNullText (cs : List Char) : Bool :=
  ["~", "null", "Null", "NULL", ""].contains (String.ofList cs)

def isSpaceOrTab (c : Char) : Bool := c = ' ' || c = '\t'

/-- Whether the rest after the seconds of a time stamp is an optional fraction and an optional
zone (`Z` or a signed offset of hours and optional minutes, after optional blanks). -/
def isStampTail (cs : List Char) : Bool :=
  let cs := match cs with
    | '.' :: frac => frac.dropWhile Char.isDigit
    | _ => cs
  match cs with
  | [] => true
  | _ =>
    match cs.dropWhile isSpaceOrTab with
    | ['Z'] => true
    | s :: r =>
      (s = '+' || s = '-') && digitsThen
        (fun t => match t with
          | [] => true
          | [':', a, b] => a.isDigit && b.isDigit
          | _ => false) r
    | [] => false

/-- Whether a text is a date (`yyyy-mm-dd`) or a time stamp (`yyyy-m-d` and a time of day
after `T`, `t` or blanks). -/
def isTimestampText (cs : List Char) : Bool :=
  match cs with
  | y1 :: y2 :: y3 :: y4 :: '-' :: rest =>
    [y1, y2, y3, y4].all Char.isDigit &&
      ((match rest with
        | [m1, m2, '-', d1, d2] => [m1, m2, d1, d2].all Char.isDigit
        | _ => false) ||
      digitsThen (fun r => match r with
        | '-' :: r =>
          digitsThen (fun r => match r with
            | c :: r' =>
              let afterSep :=
                if c = 'T' || c = 't' then some r'
                else if isSpaceOrTab c then some (r'.dropWhile isSpaceOrTab) else none
              match afterSep with
              | some r =>
                digitsThen (fun r => match r with
                  | ':' :: a :: b :: ':' :: c :: d :: tail =>
                    [a, b, c, d].all Char.isDigit && isStampTail tail
                  | _ => false) r
              | none => false
            | [] => false) r
        | _ => false) rest)
  | _ => false

/-- The types a plain scalar may resolve to. -/
inductive ImplicitType where
  | bool | float | int | merge | null | timestamp | value | indicator
deriving DecidableEq, Repr

def ImplicitType.tag : ImplicitType → String
  | .bool => coreTag "bool"
  | .float => coreTag "float"
  | .int => coreTag "int"
  | .merge => coreTag "merge"
  | .null => coreTag "null"
  | .timestamp => coreTag "timestamp"
  | .value => coreTag "value"
  | .indicator => coreTag "yaml"

def ImplicitType.matchesAll : ImplicitType → List Char → Bool
  | .bool, cs => isBoolText cs
  | .float, cs => isFloatText cs
  | .int, cs => isIntText cs
  | .merge, cs => cs = ['<', '<']
  | .null, cs => isNullText cs
  | .timestamp, cs => isTimestampText cs
  | .value, cs => cs = ['=']
  | .indicator, cs => cs = ['!'] || cs = ['&'] || cs = ['*']

/-- Whether a text matches the pattern of a type, also with one line feed after it. -/
def ImplicitType.matches (t : ImplicitType) (cs : List Char) : Bool :=
  t.matchesAll cs || (cs.getLast? = some '\n' && t.matchesAll cs.dropLast)

def candidateTypes : List Char → List ImplicitType
  | [] => [.null]
  | c :: _ =>
    if "yYtTfFoO".toList.contains c then [.bool]
    else if c = 'n' || c = 'N' then [.bool, .null]
    else if c = '+' || c = '-' then [.float, .int]
    else if c.isDigit then [.float, .int, .timestamp]
    else if c = '.' then [.float]
    else if c = '<' then [.merge]
    else if c = '~' then [.null]
    else if c = '=' then [.value]
    else if c = '!' || c = '&' || c = '*' then [.indicator]
    else []

/-- The tag of a scalar that may be resolved by its text: the first type it matches, else a
string. -/
def implicitScalarTag (value : String) : String :=
  let cs := value.toList
  match (candidateTypes cs).find? (fun t => t.matches cs) with
  | some t => t.tag
  | none => strTag

end Yaml

end HostSurvey
