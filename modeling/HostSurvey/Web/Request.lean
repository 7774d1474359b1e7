import HostSurvey.Value.Display
import HostSurvey.Text.Utf8
import HostSurvey.Text.Trim

/-!
HTTP requests as the service receives them.
-/

namespace HostSurvey

/-- The parts of a split URL. -/
structure UrlParts where
  scheme : String
  authority : String
  path : String
  query : String
  fragment : String
deriving Repr

namespace Url

def isSchemeChar (c : Char) : Bool :=
  (c.isAlphanum && c.toNat < 0x80) || c = '+' || c = '-' || c = '.'

def split (url : String) : UrlParts :=
  let cs := url.toList.dropWhile (fun c => c.toNat ≤ 0x20)
  let cs := cs.filter (fun c => c ≠ '\t' && c ≠ '\r' && c ≠ '\n')
  let (scheme, cs) :=
    match cs.idxOf? ':' with
    | some i =>
      match cs.head? with
      | some c0 =>
        if i > 0 && c0.isAlpha && c0.toNat < 0x80 && (cs.take i).all isSchemeChar then
          (String.ofList ((cs.take i).map Char.toLower), cs.drop (i + 1))
        else ("", cs)
      | none => ("", cs)
    | none => ("", cs)
  let (authority, cs) :=
    match cs with
    | '/' :: '/' :: rest =>
      let a := rest.takeWhile (fun c => c ≠ '/' && c ≠ '?' && c ≠ '#')
      (String.ofList a, rest.drop a.length)
    | _ => ("", cs)
  let (cs, fragment) :=
    match cs.idxOf? '#' with
    | some i => (cs.take i, String.ofList (cs.drop (i + 1)))
    | none => (cs, "")
  let (cs, query) :=
    match cs.idxOf? '?' with
    | some i => (cs.take i, String.ofList (cs.drop (i + 1)))
    | none => (cs, "")
  ⟨scheme, authority, String.ofList cs, query, fragment⟩

def hexValue (c : Char) : Option Nat :=
  if c.isDigit then some (c.toNat - 0x30)
  else if 'a' ≤ c ∧ c ≤ 'f' then some (c.toNat - 0x61 + 10)
  else if 'A' ≤ c ∧ c ≤ 'F' then some (c.toNat - 0x41 + 10)
  else none

def unescapeBytes : List Char → List UInt8
  | [] => []
  | '%' :: a :: b :: rest =>
    match hexValue a, hexValue b with
    | some x, some y => (x * 16 + y).toUInt8 :: unescapeBytes rest
    | _, _ => '%'.toUInt8 :: unescapeBytes (a :: b :: rest)
  | c :: rest => encodeUtf8 (String.singleton c) ++ unescapeBytes rest

/-- A text with its percent escapes decoded, as UTF-8 (a malformed byte becomes U+FFFD). -/
def unescape (s : String) : String :=
  String.ofList (decodeUtf8Replacing (unescapeBytes s.toList))

def queryArgs (q : String) : List (String × String) :=
  (q.splitOn "&").filterMap fun part =>
    if part.isEmpty then none
    else
      let plain (s : String) := unescape (s.replace "+" " ")
      match part.splitOn "=" with
      | [name] => some (plain name, "")
      | name :: rest => some (plain name, plain (String.intercalate "=" rest))
      | [] => none

end Url

/-- The query arguments given as a value: a mapping gives one argument per entry, one per
item of a list, none for null; a list gives one argument per pair; a text is a query text. -/
def queryArgsOf : Value → List (String × String)
  | .str q => Url.queryArgs q
  | .dict es => es.flatMap fun (k, v) =>
    let name := k.displayText
    match v with
    | .list xs => (xs.filter (fun x => !(x matches .null))).map fun x => (name, x.displayText)
    | .null => []
    | x => [(name, x.displayText)]
  | .list ps => ps.filterMap fun p => match p with
    | .list [k, v] => if v matches .null then none else some (k.displayText, v.displayText)
    | _ => none
  | _ => []

/-- The body of a request. -/
inductive RequestBody where
  /-- No body. -/
  | empty
  /-- A value sent as JSON. -/
  | json (v : Value)
  /-- Text sent as it is. -/
  | text (s : String)
deriving Repr

/-- A request: its method, target, headers, query arguments when given apart from the target,
body, and media type when given apart from the headers. -/
structure WebRequest where
  method : String := "GET"
  target : String
  headers : List (String × String) := []
  query : Option Value := none
  body : RequestBody := .empty
  contentType : Option String := none
deriving Repr

namespace WebRequest

/-- The key a header name is found by: upper case, with `-` as `_`. -/
def headerKey (name : String) : String :=
  String.ofList (name.toList.map fun c => if c = '-' then '_' else c.toUpper)

/-- The value of a header: every value given under the name, in order, joined by a comma and
a space. -/
def header? (r : WebRequest) (name : String) : Option String :=
  match r.headers.filter (fun h => headerKey h.1 = headerKey name) with
  | [] => none
  | hs => some (String.intercalate ", " (hs.map (·.2)))

/-- The media type of the body, in lower case without parameters: the one given apart, else
the first `Content-Type` header, else JSON for a JSON body. -/
def mediaType (r : WebRequest) : String :=
  let given := match r.contentType with
    | some t => some t
    | none => match r.headers.find? (fun (h : String × String) => headerKey h.1 = "CONTENT_TYPE") with
      | some h => some h.2
      | none => match r.body with
        | .json _ => some "application/json"
        | _ => none
  match given with
  | some t =>
    let mainType := String.ofList (t.toList.takeWhile (· ≠ ';'))
    String.ofList ((trimBlanks mainType).toList.map Char.toLower)
  | none => ""

def declaresJson (r : WebRequest) : Bool :=
  let t := r.mediaType
  t = "application/json" || (t.startsWith "application/" && t.endsWith "+json")

/-- The target split as the client sends it: scheme and authority gone, a non-empty query
kept after the path. -/
def sentTarget (r : WebRequest) : String :=
  let u := Url.split r.target
  if u.query.isEmpty then u.path else u.path ++ "?" ++ u.query

/-- The path the request is routed by: percent-decoded, with its leading slashes as one. -/
def routePath (r : WebRequest) : String :=
  let p := Url.unescape (Url.split r.sentTarget).path
  if p.isEmpty then "" else "/" ++ String.ofList (p.toList.dropWhile (· = '/'))

def args (r : WebRequest) : List (String × String) :=
  match r.query with
  | some q => queryArgsOf q
  | none => Url.queryArgs (Url.split r.sentTarget).query

def arg? (r : WebRequest) (name : String) : Option String :=
  (r.args.find? (·.1 = name)).map (·.2)

end WebRequest

end HostSurvey
