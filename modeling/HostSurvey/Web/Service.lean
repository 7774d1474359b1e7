import HostSurvey.Web.Request
import HostSurvey.Web.Token
import HostSurvey.Survey.Capture
import HostSurvey.Unicode.Case

/-!
The HTTP service: the survey, the network and the analysis as JSON, behind a login.
-/

namespace HostSurvey

/-- The pages that answer only with a token. -/
inductive GuardedPage where
  | fingerprint
  | network
  | analysis
deriving DecidableEq, Repr

/-- The pages of the service. -/
inductive Endpoint where
  | login
  | guarded (p : GuardedPage)
  | health
  | staticFile
deriving DecidableEq, Repr

def Endpoint.methods : Endpoint → List String
  | .login => ["POST", "OPTIONS"]
  | _ => ["GET", "HEAD", "OPTIONS"]

def endpointAt (path : String) : Option Endpoint :=
  if path = "/api/login" then some .login
  else if path = "/api/fingerprint" then some (.guarded .fingerprint)
  else if path = "/api/network" then some (.guarded .network)
  else if path = "/api/analysis" then some (.guarded .analysis)
  else if path = "/api/health" then some .health
  else
    let cs := path.toList
    if "/static/".toList.isPrefixOf cs then
      match cs.drop 8 with
      | c :: _ => if c = '/' then none else some .staticFile
      | [] => none
    else none

/-- Merges each pair of slashes into one, left to right (three slashes become two). -/
def mergeSlashPairs : List Char → List Char
  | '/' :: '/' :: rest => '/' :: mergeSlashPairs rest
  | c :: rest => c :: mergeSlashPairs rest
  | [] => []

/-- Where a request goes. -/
inductive Routing where
  /-- To a page. -/
  | page (e : Endpoint)
  /-- To the same path with pairs of slashes merged. -/
  | redirect
  /-- Nowhere: the page does not take the method. -/
  | wrongMethod
  /-- Nowhere: no page has the path. -/
  | unknown
deriving DecidableEq, Repr

def routeOf (method path : String) : Routing :=
  match endpointAt path with
  | some e => if e.methods.contains method then .page e else .wrongMethod
  | none =>
    match endpointAt (String.ofList (mergeSlashPairs path.toList)) with
    | some e => if e.methods.contains method then .redirect else .wrongMethod
    | none => .unknown

/-- An answer: its status, its JSON body (none for a page that is not JSON), and the origins
it allows. -/
structure WebResponse where
  status : Nat
  json : Option Value
  allowOrigin : String := "*"
deriving Repr

def jsonReply (status : Nat) (v : Value) : WebResponse := ⟨status, some v, "*"⟩

def messageReply (status : Nat) (text : String) : WebResponse :=
  jsonReply status (Value.record [("message", .str text)])

def plainReply (status : Nat) : WebResponse := ⟨status, none, "*"⟩

def tokenLifetime : Int := 86400

/-- The service: the configuration and its secret, the host it surveys, the clock tokens are
issued at and the clock they are checked at. -/
structure Service where
  config : Value
  secret : Value
  files : FileTree
  system : Option SystemInfo
  issuedAt : Int
  now : Int

namespace Service

/-- Sets up the service for a configuration; its `api` section must hold a secret. -/
def create (cfg : Value) (files : FileTree) (system : Option SystemInfo) (issuedAt now : Int) :
    Except Fault Service := do
  let secret ← (← cfg.entry "api").entry "secret_key"
  pure ⟨cfg, secret, files, system, issuedAt, now⟩

def jsonBody (r : WebRequest) : Option Value :=
  if !r.declaresJson then none
  else match r.body with
    | .json v => some v
    | .text t => (readJsonBytes (encodeUtf8 t)).toOption
    | .empty => none

def login (s : Service) (r : WebRequest) : Except Fault WebResponse := do
  let data := match jsonBody r with
    | some v => if v.truthy then v else .dict []
    | none => .dict []
  let entries ← match data with
    | .dict es => pure es
    | v => throw (.missingAttribute v.typeName "get")
  let username := (Value.getText? entries "username").getD .null
  let password := (Value.getText? entries "password").getD .null
  if !username.truthy || !password.truthy then
    return messageReply 400 "Username and password required"
  let users ← (← s.config.entry "api").getOr "users" .null
  let users := if users.truthy then users else .dict []
  let passwordText ← match password with
    | .str p => pure p
    | v => throw (.missingAttribute v.typeName "encode")
  let digest := hexText (sha256 (← encodeUtf8Checked passwordText))
  let stored ← match users with
    | .dict es =>
      if username.hashable then pure (Value.lookup es username)
      else throw (.unhashable username.typeName)
    | v => throw (.missingAttribute v.typeName "get")
  match stored with
  | some (.str h) =>
    if h = digest then
      let claims := Value.record [("username", username), ("exp", .int (s.issuedAt + tokenLifetime))]
      let token ← signToken s.secret claims
      return jsonReply 200 (Value.record [("token", .str token), ("username", username)])
    else return messageReply 401 "Invalid credentials"
  | _ => return messageReply 401 "Invalid credentials"

/-- What the check of a token decides: the request is refused with an answer, or accepted for
a user (`null` when the service asks for no token). -/
inductive Admission where
  | refuse (answer : WebResponse)
  | accept (user : Value)

/-- The token of an `Authorization` header: the value less one leading `Bearer `. -/
def bearerToken (given : String) : String :=
  if given.startsWith "Bearer " then String.ofList (given.toList.drop 7) else given

def authorize (s : Service) (r : WebRequest) : Except Fault Admission := do
  let required ← (← s.config.entry "api").getOr "require_auth" (.bool true)
  if !required.truthy then return .accept .null
  match r.header? "Authorization" with
  | none => return .refuse (messageReply 401 "Token is missing")
  | some given =>
    if given.isEmpty then return .refuse (messageReply 401 "Token is missing")
    match verifyToken s.secret s.now (bearerToken given) with
    | .ok claims =>
      match Value.getText? claims "username" with
      | some user => return .accept user
      | none => throw (.missingKey (quote "username"))
    | .error (.rejected reason) =>
      return .refuse (jsonReply 401 (Value.record [("message", .str "Token is invalid"),
        ("error", .str reason)]))
    | .error (.fault f) => throw f

/-- Whether the query asks for the network: `network` is `1`, `true` or `yes` in any case. -/
def networkAsked (r : WebRequest) : Bool :=
  ["1", "true", "yes"].contains (lowerText ((r.arg? "network").getD "0"))

def healthRecord : Value :=
  Value.record [("status", .str "ok"), ("service", .str "hostwatch-api"),
    ("version", .str surveyorVersion)]

/-- The answer of a page that needs a token, once the token is accepted for `user`; no page
reads the user. -/
def guardedPage (s : Service) (p : GuardedPage) (_user : Value) (r : WebRequest) :
    Except Fault WebResponse := do
  match p with
  | .fingerprint =>
    let fp ← s.files.capture s.config .null (networkAsked r) s.system
    let t ← Thresholds.ofConfig s.config
    return jsonReply 200 (← fp.toValue (some (t.analyze fp)))
  | .analysis =>
    let fp ← s.files.capture s.config .null (networkAsked r) s.system
    let t ← Thresholds.ofConfig s.config
    return jsonReply 200 (Value.record [("hostname", .str fp.system.hostname),
      ("probe_errors", .int fp.probeErrors), ("analysis", (t.analyze fp).toValue),
      ("timestamp", .str fp.ts)])
  | .network =>
    let n ← (← ProbeSettings.ofConfig s.config).run s.files
    return jsonReply 200 (Value.record [("total_listening", .int n.totalListening),
      ("total_established", .int n.totalEstablished),
      ("unusual_port_count", .int n.unusualPortCount),
      ("listeners_truncated", .bool n.listenersTruncated),
      ("connections_truncated", .bool n.connectionsTruncated),
      ("listeners", .list (n.listeners.map ListenerEntry.toValue)),
      ("connections", .list (n.connections.map ConnectionEntry.toValue)),
      ("errors", .list (n.errors.map Value.str))])

def serve (s : Service) (e : Endpoint) (r : WebRequest) : Except Fault WebResponse := do
  match e with
  | .login => s.login r
  | .health => return jsonReply 200 healthRecord
  | .staticFile => return plainReply 404
  | .guarded p =>
    match ← s.authorize r with
    | .refuse answer => return answer
    | .accept user => s.guardedPage p user r

def methodOf (r : WebRequest) : String := String.ofList (r.method.toList.map Char.toUpper)

def respond (s : Service) (r : WebRequest) : WebResponse :=
  let method := methodOf r
  let outcome : Except Fault WebResponse :=
    match routeOf method r.routePath with
    | .unknown => pure (plainReply 404)
    | .wrongMethod => pure (plainReply 405)
    | .redirect => pure (plainReply 308)
    | .page e => if method = "OPTIONS" then pure (plainReply 200) else s.serve e r
  let answer := match outcome with
    | .ok a => a
    | .error _ => plainReply 500
  if method = "HEAD" then { answer with json := none } else answer

def tokenOf (a : WebResponse) : Option String :=
  if a.status ≠ 200 then none
  else match a.json with
    | some (.dict es) => match Value.getText? es "token" with
      | some (.str t) => some t
      | _ => none
    | _ => none

def withToken (token : String) (r : WebRequest) : WebRequest :=
  { r with headers := r.headers.map fun (k, v) => (k, v.replace "$token" token) }

/-- Answers requests in turn, where `$token` in a header value stands for the token of the
latest answer that handed one out (empty before any). A header value with a line end cannot
be sent, which stops the session. -/
def session (s : Service) (token : String) : List WebRequest → Except Fault (List WebResponse)
  | [] => pure []
  | r :: rest => do
    let r := withToken token r
    if r.headers.any (fun h => h.2.contains '\n' || h.2.contains '\r') then
      throw (.other "ValueError" "Header values must not contain newline characters.")
    let a := s.respond r
    let more ← s.session ((tokenOf a).getD token) rest
    pure (a :: more)

end Service

end HostSurvey
