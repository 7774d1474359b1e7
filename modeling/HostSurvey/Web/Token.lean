import HostSurvey.Crypto.Sha256
import HostSurvey.Text.Base64
import HostSurvey.Json.Bytes
import HostSurvey.Json.Write
import HostSurvey.Value.Convert

/-!
Signed tokens (JSON Web Tokens, RFC 7519) with HMAC-SHA-256.
-/

namespace HostSurvey

/-- Why a token is not accepted: a refusal with the reason a client is told, or a fault that
stops the request. -/
inductive TokenRefusal where
  | rejected (reason : String)
  | fault (f : Fault)
deriving Repr

namespace Token

def pemLabels : List String :=
  ["CERTIFICATE", "TRUSTED CERTIFICATE", "PRIVATE KEY", "PUBLIC KEY", "ENCRYPTED PRIVATE KEY",
   "OPENSSH PRIVATE KEY", "DSA PRIVATE KEY", "RSA PRIVATE KEY", "RSA PUBLIC KEY",
   "EC PRIVATE KEY", "DH PARAMETERS", "NEW CERTIFICATE REQUEST", "CERTIFICATE REQUEST",
   "SSH2 PUBLIC KEY", "SSH2 ENCRYPTED PRIVATE KEY", "X509 CRL"]

def sshKeyTypes : List String :=
  ["ssh-ed25519", "ssh-rsa", "ssh-dss", "ecdsa-sha2-nistp256", "ecdsa-sha2-nistp384",
   "ecdsa-sha2-nistp521"]

def suffixes {α : Type} : List α → List (List α)
  | [] => [[]]
  | x :: xs => (x :: xs) :: suffixes xs

def isPemFiller (b : UInt8) : Bool := b = 0x2D || b = 0x20

/-- Whether the bytes start with four dashes, a filler, `word` and a space, `label`, a
filler and four dashes; the bytes after, when they do. -/
def pemLine (word label : String) (bs : List UInt8) : Option (List UInt8) :=
  match bs with
  | 0x2D :: 0x2D :: 0x2D :: 0x2D :: c :: rest =>
    let head := encodeUtf8 (word ++ " " ++ label)
    if isPemFiller c && head.isPrefixOf rest then
      match rest.drop head.length with
      | c2 :: 0x2D :: 0x2D :: 0x2D :: 0x2D :: after => if isPemFiller c2 then some after else none
      | _ => none
    else none
  | _ => none

/-- Whether a PEM block with `label` starts at the front of the bytes: its BEGIN line, at
least one byte, and its END line. -/
def pemBlockAt (label : String) (bs : List UInt8) : Bool :=
  match pemLine "BEGIN" label bs with
  | none => false
  | some after => (suffixes (after.drop 1)).any fun s => (pemLine "END" label s).isSome

def holdsPemBlock (bs : List UInt8) : Bool :=
  (suffixes bs).any fun s => pemLabels.any fun label => pemBlockAt label s

def isAsciiSpace (b : UInt8) : Bool := b = 0x20 || (0x09 ≤ b && b ≤ 0x0D)

def sshCertificateSuffix : String := "-cert-v01@openssh.com"

/-- The type word of an SSH public key line: the first word, when blanks or tabs and a
second word follow it. -/
def sshKeyTypeWord (bs : List UInt8) : Option (List UInt8) :=
  let word := bs.takeWhile fun b => !isAsciiSpace b
  let rest := bs.drop word.length
  let gap := rest.takeWhile fun b => b = 0x20 || b = 0x09
  match rest.drop gap.length with
  | b :: _ => if word.isEmpty || gap.isEmpty || isAsciiSpace b then none else some word
  | [] => none

/-- Whether the bytes read as an SSH public key line: its type word, less the certificate
suffix, names an SSH key type. -/
def looksLikeSshKey (bs : List UInt8) : Bool :=
  match sshKeyTypeWord bs with
  | none => false
  | some word =>
    let suffix := encodeUtf8 sshCertificateSuffix
    let keyType :=
      if suffix.isSuffixOf word then word.take (word.length - suffix.length) else word
    sshKeyTypes.any fun t => encodeUtf8 t == keyType

/-- Whether the bytes look like a JSON Web Key: somewhere they name the member `"kty"`,
followed by blanks and a colon. -/
def looksLikeJsonWebKey (bs : List UInt8) : Bool :=
  let name := encodeUtf8 "\"kty\""
  (suffixes bs).any fun s =>
    name.isPrefixOf s && ((s.drop name.length).dropWhile isAsciiSpace).head? = some 0x3A

/-- The key bytes of a secret: a text's UTF-8 bytes, refused when empty or when it looks like
an asymmetric key or a JSON Web Key. -/
def signingKey (secret : Value) : Except Fault (List UInt8) := do
  let bytes ← match secret with
    | .str s => encodeUtf8Checked s
    | .bytes bs => pure bs
    | _ => throw (.other "TypeError" "Expected a string value")
  if bytes.isEmpty then
    throw (.other "InvalidKeyError" "HMAC key must not be empty.")
  if holdsPemBlock bytes || looksLikeSshKey bytes then
    throw (.other "InvalidKeyError"
      "The specified key is an asymmetric key or x509 certificate and should not be used as an HMAC secret.")
  if looksLikeJsonWebKey bytes then
    throw (.other "InvalidKeyError"
      "The specified key is a JSON Web Key and should not be used as an HMAC secret.")
  pure bytes

def headerText : String := "\x7b\"alg\":\"HS256\",\"typ\":\"JWT\"\x7d"

def splitFirst (bs : List UInt8) (sep : UInt8) : Option (List UInt8 × List UInt8) :=
  match bs.idxOf? sep with
  | some i => some (bs.take i, bs.drop (i + 1))
  | none => none

def splitLast (bs : List UInt8) (sep : UInt8) : Option (List UInt8 × List UInt8) :=
  (splitFirst bs.reverse sep).map fun (after, before) => (before.reverse, after.reverse)

def detachedReason : String :=
  "It is required that you pass in a value for the \"detached_payload\" argument to decode " ++
    "a message having the b64 header set to false."

def segment (bs : List UInt8) (reason : String) : Except TokenRefusal (List UInt8) :=
  match decodeBase64Url bs with
  | .ok v => .ok v
  | .error _ => .error (.rejected reason)

def mappingOf (bs : List UInt8) (what : String) : Except TokenRefusal (List (Value × Value)) :=
  match readJsonBytes bs with
  | .ok (.dict es) => .ok es
  | .ok _ => .error (.rejected (what ++ ": must be a json object"))
  | .error m => .error (.rejected (what ++ ": " ++ m))

/-- The integer of a time claim, when the claims have it; a value that reads as no integer, or
is of a kind that cannot become one, is refused with `reason`. -/
def timeClaim (claims : List (Value × Value)) (name reason : String) :
    Except TokenRefusal (Option Int) :=
  match Value.getText? claims name with
  | none => .ok none
  | some v => match v.toInteger with
    | .ok n => .ok (some n)
    | .error f =>
      if f.kind = "ValueError" ∨ f.kind = "TypeError" then .error (.rejected reason)
      else .error (.fault f)

/-- Whether a header's `crit` names `b64`, by membership in its value: an item of a list or
set, a key of a mapping, a part of a text; a value of another kind cannot be searched, which
is a fault. -/
def critNamesB64 (header : List (Value × Value)) : Except TokenRefusal Bool :=
  match Value.getText? header "crit" with
  | none => .ok false
  | some (.list xs) | some (.set xs) => .ok (xs.any fun x => Value.sameKey x (.str "b64"))
  | some (.dict es) => .ok ((Value.lookup es (.str "b64")).isSome)
  | some (.str s) => .ok ((s.splitOn "b64").length > 1)
  | some v => .error (.fault (.notIterable v.typeName))

/-- Checks the registered claims against the clock `now` (whole seconds). -/
def checkClaims (now : Int) (claims : List (Value × Value)) : Except TokenRefusal Unit := do
  if let some iat ← timeClaim claims "iat" "Issued At claim (iat) must be an integer." then
    if iat > now then throw (.rejected "The token is not yet valid (iat)")
  if let some nbf ← timeClaim claims "nbf" "Not Before claim (nbf) must be an integer." then
    if nbf > now then throw (.rejected "The token is not yet valid (nbf)")
  if let some exp ← timeClaim claims "exp" "Expiration Time claim (exp) must be an integer." then
    if exp ≤ now then throw (.rejected "Signature has expired")
  if ((Value.getText? claims "aud").map Value.truthy).getD false then
    throw (.rejected "Invalid audience")
  match Value.getText? claims "sub" with
  | none | some (.str _) => pure ()
  | some _ => throw (.rejected "Subject must be a string")
  match Value.getText? claims "jti" with
  | none | some (.str _) => pure ()
  | some _ => throw (.rejected "JWT ID must be a string")

end Token

def signToken (secret : Value) (claims : Value) : Except Fault String := do
  let key ← Token.signingKey secret
  let signingInput := encodeBase64Url (encodeUtf8 Token.headerText) ++ "." ++
    encodeBase64Url (encodeUtf8 (writeJson JsonLayout.tight claims))
  pure (signingInput ++ "." ++ encodeBase64Url (hmacSha256 key (encodeUtf8 signingInput)))

def verifyToken (secret : Value) (now : Int) (token : String) :
    Except TokenRefusal (List (Value × Value)) := do
  let bs ← match encodeUtf8Checked token with
    | .ok bs => pure bs
    | .error f => throw (.fault f)
  let some (signingInput, signatureSegment) := Token.splitLast bs 0x2E
    | throw (.rejected "Not enough segments")
  let some (headerSegment, claimsSegment) := Token.splitFirst signingInput 0x2E
    | throw (.rejected "Not enough segments")
  let header ← Token.mappingOf (← Token.segment headerSegment "Invalid header padding")
    "Invalid header string"
  let claimsBytes ← Token.segment claimsSegment "Invalid payload padding"
  let signature ← Token.segment signatureSegment "Invalid crypto padding"
  if let some (.bool false) := Value.getText? header "b64" then
    if !claimsSegment.isEmpty then
      throw (.rejected "Payload segment must be empty when 'b64' is false.")
    if !(← Token.critNamesB64 header) then
      throw (.rejected "The 'b64' header parameter requires 'b64' to be listed in 'crit'.")
    throw (.rejected Token.detachedReason)
  match Value.getText? header "alg" with
  | none => throw (.rejected "Algorithm not specified")
  | some (.str "HS256") => pure ()
  | some _ => throw (.rejected "The specified alg value is not allowed")
  let key ← match Token.signingKey secret with
    | .ok k => pure k
    | .error f => throw (.fault f)
  if hmacSha256 key signingInput != signature then
    throw (.rejected "Signature verification failed")
  let claims ← Token.mappingOf claimsBytes "Invalid payload string"
  Token.checkClaims now claims
  pure claims

end HostSurvey
