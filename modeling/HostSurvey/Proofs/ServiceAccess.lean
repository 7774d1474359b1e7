import Mathlib.Data.Nat.Digits.Defs
import HostSurvey.Web.Service
import HostSurvey.Proofs.TokenVerify

/-!
Who the service lets in.
-/

namespace HostSurvey

/-- The digest of a password that the users mapping holds: its SHA-256, in hexadecimal. -/
def passwordDigest (pw : String) : String := hexText (sha256 (encodeUtf8 pw))

/-- Whether a request carries the token `t` in its `Authorization` header, after `Bearer ` or
alone. -/
def CarriesToken (r : WebRequest) (t : String) : Prop :=
  r.header? "Authorization" = some ("Bearer " ++ t) ∨ r.header? "Authorization" = some t

namespace Service

theorem bearerToken_bearer (t : String) : bearerToken ("Bearer " ++ t) = t := by
  rw [bearerToken, if_pos (String.startsWith_string_iff.mpr ⟨t.toList, by simp⟩)]
  simp

theorem bearerToken_self {t : String} (h : t.toList.head? = some 'e') : bearerToken t = t := by
  rw [bearerToken, if_neg]
  intro hb
  obtain ⟨rest, hrest⟩ := String.startsWith_string_iff.mp hb
  rw [← hrest] at h
  simp at h

variable {s : Service} {r : WebRequest}

/-- What the check of a token can decide: with the guard off, the request is accepted with no
user; with it on, a missing or empty header is refused as missing, a token the verifier refuses
is refused with the reason, and a token it accepts is accepted for the user its claims name. -/
theorem authorize_cases {a : Admission} (h : s.authorize r = .ok a) :
    ∃ api req, s.config.entry "api" = .ok api ∧ api.getOr "require_auth" (.bool true) = .ok req ∧
      ((req.truthy = false ∧ a = .accept .null) ∨
       (req.truthy = true ∧ (r.header? "Authorization" = none ∨ r.header? "Authorization" = some "") ∧
          a = .refuse (messageReply 401 "Token is missing")) ∨
       (req.truthy = true ∧ ∃ given, r.header? "Authorization" = some given ∧ given ≠ "" ∧
          ((∃ reason, verifyToken s.secret s.now (bearerToken given) = .error (.rejected reason) ∧
             a = .refuse (jsonReply 401 (Value.record [("message", .str "Token is invalid"),
               ("error", .str reason)]))) ∨
           (∃ claims user, verifyToken s.secret s.now (bearerToken given) = .ok claims ∧
             Value.getText? claims "username" = some user ∧ a = .accept user)))) := by
  unfold authorize at h
  cases hapi : s.config.entry "api" with
  | error f => simp [hapi, bind, Except.bind] at h
  | ok api =>
    cases hreq : api.getOr "require_auth" (.bool true) with
    | error f => simp [hapi, hreq, bind, Except.bind] at h
    | ok req =>
      refine ⟨api, req, rfl, hreq, ?_⟩
      simp only [hapi, hreq, bind, Except.bind, pure, Except.pure] at h
      cases htr : req.truthy with
      | false =>
        simp only [htr, Bool.not_false, if_true, Except.ok.injEq] at h
        exact .inl ⟨rfl, h.symm⟩
      | true =>
        simp only [htr, Bool.not_true, Bool.false_eq_true, if_false] at h
        cases hhead : r.header? "Authorization" with
        | none =>
          simp only [hhead, Except.ok.injEq] at h
          exact .inr (.inl ⟨rfl, .inl rfl, h.symm⟩)
        | some given =>
          simp only [hhead] at h
          by_cases hempty : given.isEmpty = true
          · rw [if_pos hempty, Except.ok.injEq] at h
            have hgiven : given = "" := by simpa using hempty
            exact .inr (.inl ⟨rfl, .inr (by rw [hgiven]), h.symm⟩)
          · rw [if_neg hempty] at h
            have hne : given ≠ "" := fun e => hempty (by simp [e])
            refine .inr (.inr ⟨rfl, given, rfl, hne, ?_⟩)
            cases hv : verifyToken s.secret s.now (bearerToken given) with
            | ok claims =>
              cases hu : Value.getText? claims "username" with
              | none => simp [hv, hu, throw, throwThe, MonadExceptOf.throw] at h
              | some user =>
                simp only [hv, hu, Except.ok.injEq] at h
                exact .inr ⟨claims, user, rfl, hu, h.symm⟩
            | error e =>
              cases e with
              | rejected reason =>
                simp only [hv, Except.ok.injEq] at h
                exact .inl ⟨reason, rfl, h.symm⟩
              | fault f => simp [hv, throw, throwThe, MonadExceptOf.throw] at h

section

variable {api req : Value} (hapi : s.config.entry "api" = .ok api)
  (hreq : api.getOr "require_auth" (.bool true) = .ok req)
include hapi hreq

theorem authorize_unguarded (htr : req.truthy = false) : s.authorize r = .ok (.accept .null) := by
  simp [authorize, hapi, hreq, htr, bind, Except.bind, pure, Except.pure]

/-- With the guard on, a token the verifier accepts lets the request in for the user its
claims name. -/
theorem authorize_verified {given : String} {claims : List (Value × Value)} {user : Value}
    (htr : req.truthy = true) (hhead : r.header? "Authorization" = some given) (hne : given ≠ "")
    (hv : verifyToken s.secret s.now (bearerToken given) = .ok claims)
    (hu : Value.getText? claims "username" = some user) : s.authorize r = .ok (.accept user) := by
  have hempty : given.isEmpty = false := by simpa using hne
  simp [authorize, hapi, hreq, htr, hhead, hempty, hv, hu, bind, Except.bind, pure, Except.pure]

end


theorem serve_accept {user : Value} (h : s.authorize r = .ok (.accept user)) :
    s.serve (.guarded p) r = s.guardedPage p user r := by
  simp [serve, h, bind, Except.bind]

/-- With the guard on, a guarded page answers for the user of a token the verifier accepts,
or answers 401 when the token is missing or refused. -/
theorem serve_guarded_cases {api req : Value} {a : WebResponse}
    (hapi : s.config.entry "api" = .ok api) (hreq : api.getOr "require_auth" (.bool true) = .ok req)
    (htr : req.truthy = true) (h : s.serve (.guarded p) r = .ok a) :
    (∃ given claims user, r.header? "Authorization" = some given ∧ given ≠ "" ∧
      verifyToken s.secret s.now (bearerToken given) = .ok claims ∧
      Value.getText? claims "username" = some user ∧ s.guardedPage p user r = .ok a) ∨
    (a.status = 401 ∧ ∀ given, r.header? "Authorization" = some given → given ≠ "" →
      ∃ reason, verifyToken s.secret s.now (bearerToken given) = .error (.rejected reason)) := by
  unfold serve at h
  cases hauth : s.authorize r with
  | error f => simp [hauth, bind, Except.bind] at h
  | ok adm =>
    obtain ⟨api', req', hapi', hreq', hcases⟩ := authorize_cases hauth
    obtain rfl := Except.ok.inj (hapi.symm.trans hapi')
    obtain rfl := Except.ok.inj (hreq.symm.trans hreq')
    simp only [hauth, bind, Except.bind] at h
    rcases hcases with ⟨hfalse, -⟩ | ⟨-, hmiss, rfl⟩ |
      ⟨-, given, hhead, hne, ⟨reason, hv, rfl⟩ | ⟨claims, user, hv, hu, rfl⟩⟩
    · rw [htr] at hfalse
      cases hfalse
    · cases h
      refine .inr ⟨rfl, fun given hgiven hne => ?_⟩
      rcases hmiss with hm | hm <;> rw [hm] at hgiven <;> simp at hgiven
      exact absurd hgiven hne
    · cases h
      refine .inr ⟨rfl, fun given' hgiven _ => ?_⟩
      rw [hhead, Option.some.injEq] at hgiven
      exact ⟨reason, hgiven ▸ hv⟩
    · exact .inl ⟨given, claims, user, hhead, hne, hv, hu, h⟩

theorem dict_or_empty (es : List (Value × Value)) :
    (if (Value.dict es).truthy = true then Value.dict es else Value.dict []) = .dict es := by
  cases es <;> rfl

/-- A login whose body lacks a user name or a password, or gives an empty one, is refused as
incomplete. -/
theorem login_missing {es : List (Value × Value)} (hbody : jsonBody r = some (.dict es))
    (hmiss : ((Value.getText? es "username").getD .null).truthy = false ∨
      ((Value.getText? es "password").getD .null).truthy = false) :
    s.login r = .ok (messageReply 400 "Username and password required") := by
  unfold login
  simp only [hbody, dict_or_empty]
  rcases hmiss with h | h <;> simp [h, bind, Except.bind, pure, Except.pure]

theorem login_no_body (hbody : jsonBody r = none) :
    s.login r = .ok (messageReply 400 "Username and password required") := by
  simp [login, hbody, Value.getText?, Value.lookup, Value.truthy, bind, Except.bind, pure,
    Except.pure]

/-- A login with a user name and a password: when the users mapping holds the password's digest
for the user, the answer is a token for the user, signed when the secret can sign; otherwise
the login is refused. -/
theorem login_credentials {es us : List (Value × Value)} {u pw : String} {api : Value}
    (hbody : jsonBody r = some (.dict es)) (hu : Value.getText? es "username" = some (.str u))
    (hp : Value.getText? es "password" = some (.str pw)) (hu' : u ≠ "") (hp' : pw ≠ "")
    (hapi : s.config.entry "api" = .ok api) (husers : api.getOr "users" .null = .ok (.dict us))
    (hpw : ∀ c ∈ pw.toList, standInCode? c = none) :
    (Value.lookup us (.str u) = some (.str (passwordDigest pw)) →
      s.login r = (signToken s.secret (Value.record [("username", .str u),
          ("exp", .int (s.issuedAt + tokenLifetime))])).map fun t =>
            jsonReply 200 (Value.record [("token", .str t), ("username", .str u)])) ∧
    (Value.lookup us (.str u) ≠ some (.str (passwordDigest pw)) →
      s.login r = .ok (messageReply 401 "Invalid credentials")) := by
  have hstr : ∀ t : String, t ≠ "" → (Value.str t).truthy = true := fun t ht => by
    simpa [Value.truthy] using ht
  unfold login
  simp only [hbody, dict_or_empty, hu, hp, Option.getD_some, hstr u hu', hstr pw hp', Bool.not_true,
    Bool.or_false, Bool.false_eq_true, if_false, hapi, husers, encodeUtf8Checked_of_no_standIn hpw,
    Value.hashable, if_true, bind, Except.bind, pure, Except.pure]
  constructor
  · intro hstored
    rw [hstored]
    simp only [passwordDigest, if_true]
    cases signToken s.secret _ <;> rfl
  · intro hstored
    split
    next h hl =>
      rw [if_neg fun e => hstored (by rw [hl, e, passwordDigest])]
    next => rfl

/-- A login whose password is the user's, under a secret that can sign, answers the token
signed for the user. -/
theorem login_token {es us : List (Value × Value)} {u pw : String} {api : Value} {key : List UInt8}
    (hbody : jsonBody r = some (.dict es)) (hu : Value.getText? es "username" = some (.str u))
    (hp : Value.getText? es "password" = some (.str pw)) (hu' : u ≠ "") (hp' : pw ≠ "")
    (hapi : s.config.entry "api" = .ok api) (husers : api.getOr "users" .null = .ok (.dict us))
    (hpw : ∀ c ∈ pw.toList, standInCode? c = none)
    (hstored : Value.lookup us (.str u) = some (.str (passwordDigest pw)))
    (hkey : Token.signingKey s.secret = .ok key) :
    ∃ t, signToken s.secret (Value.record [("username", .str u),
        ("exp", .int (s.issuedAt + tokenLifetime))]) = .ok t ∧
      s.login r = .ok (jsonReply 200 (Value.record [("token", .str t), ("username", .str u)])) := by
  obtain ⟨t, ht⟩ : ∃ t, signToken s.secret (Value.record [("username", .str u),
      ("exp", .int (s.issuedAt + tokenLifetime))]) = .ok t := signToken_usable hkey
  refine ⟨t, ht, ?_⟩
  rw [(login_credentials hbody hu hp hu' hp' hapi husers hpw).1 hstored, ht]
  rfl

end Service

theorem checkClaims_login (u : String) {now exp : Int} (hexp : now < exp) :
    Token.checkClaims now [(.str "username", .str u), (.str "exp", .int exp)] = .ok () := by
  simp [Token.checkClaims, Token.timeClaim, Value.getText?, Value.lookup, Value.sameKey,
    Value.fillRefs, Value.toInteger, bind, Except.bind, pure, Except.pure, hexp]

/-- The claims of a login form a flat record when it is issued from 1970 up to the last day of
the year 9999, so that the expiry a day later is still a calendar time. -/
theorem loginClaims_flat {u : String} {issuedAt : Int} (hu : JsonRead.ReadsBack u)
    (hlow : 0 ≤ issuedAt) (hhigh : issuedAt < 253402214400) :
    ∀ e ∈ [("username", Value.str u), ("exp", Value.int (issuedAt + tokenLifetime))],
      JsonRead.ReadsBack e.1 ∧ JsonRead.IsFlatValue e.2 := by
  intro e he
  simp only [List.mem_cons, List.not_mem_nil, or_false] at he
  rcases he with rfl | rfl
  · exact ⟨show JsonRead.ReadsBack "username" by decide, hu⟩
  · refine ⟨show JsonRead.ReadsBack "exp" by decide, by unfold tokenLifetime; omega, ?_⟩
    have hlen := Nat.toDigits_length 10 (issuedAt + tokenLifetime).toNat 12 (by decide)
      (by simp only [Nat.reducePow, tokenLifetime]; omega)
    unfold maxNumeralDigits
    omega

/-- Where signed tokens verify back to their claims, the token a login answers lets every
request that carries it, after `Bearer ` or alone, in for the user who logged in, until it
expires. -/
theorem authorize_login_token (hjwt : TokensRoundTrip) {s s' : Service} {u t : String}
    {r : WebRequest} {api req : Value}
    (hsign : signToken s.secret (Value.record [("username", .str u),
      ("exp", .int (s.issuedAt + tokenLifetime))]) = .ok t)
    (hu : JsonRead.ReadsBack u) (hlow : 0 ≤ s.issuedAt) (hhigh : s.issuedAt < 253402214400)
    (hsecret : s'.secret = s.secret) (hnow : s'.now < s.issuedAt + tokenLifetime)
    (hapi : s'.config.entry "api" = .ok api) (hreq : api.getOr "require_auth" (.bool true) = .ok req)
    (htr : req.truthy = true)
    (hcarry : CarriesToken r t) :
    s'.authorize r = .ok (.accept (.str u)) := by
  have hv := hjwt _ _ _ _ (by simp) (loginClaims_flat hu hlow hhigh) (checkClaims_login u hnow) hsign
  have hhead' := signToken_head hsign
  have hname : Value.getText? [(Value.str "username", Value.str u),
      (Value.str "exp", Value.int (s.issuedAt + tokenLifetime))] "username" = some (.str u) := by
    simp [Value.getText?, Value.lookup, Value.sameKey, Value.fillRefs]
  rw [← hsecret] at hv
  rcases hcarry with hhead | hhead
  · exact Service.authorize_verified hapi hreq htr hhead (by simp)
      (by rw [Service.bearerToken_bearer]; exact hv) hname
  · exact Service.authorize_verified hapi hreq htr hhead (fun e => by simp [e] at hhead')
      (by rw [Service.bearerToken_self hhead']; exact hv) hname

/-- A login request: its JSON body is a mapping that gives the user name `u` and the password
`pw`, both non-empty, the password encodes as UTF-8, and the configuration's users are the
mapping `us`. -/
structure LoginRequest (api : Value) (r : WebRequest) (u pw : String)
    (us : List (Value × Value)) : Prop where
  body : ∃ es, Service.jsonBody r = some (.dict es) ∧
    Value.getText? es "username" = some (.str u) ∧ Value.getText? es "password" = some (.str pw)
  user_given : u ≠ ""
  password_given : pw ≠ ""
  password_encodes : ∀ c ∈ pw.toList, standInCode? c = none
  users : api.getOr "users" .null = .ok (.dict us)

/-- What the service lets in, for a configuration whose `api` section is `api`. -/
structure AccessPolicy (s : Service) (api : Value) : Prop where
  /-- With `require_auth` false, a guarded page runs for no user. -/
  unguarded : ∀ req, api.getOr "require_auth" (.bool true) = .ok req → req.truthy = false →
    ∀ p r, s.serve (.guarded p) r = s.guardedPage p .null r
  /-- With it true, a guarded page runs for the user named by a token the verifier accepts
  under the secret at the service's clock, -/
  verified : ∀ req, api.getOr "require_auth" (.bool true) = .ok req → req.truthy = true →
    ∀ p r given claims user, r.header? "Authorization" = some given → given ≠ "" →
      verifyToken s.secret s.now (Service.bearerToken given) = .ok claims →
      Value.getText? claims "username" = some user →
      s.serve (.guarded p) r = s.guardedPage p user r
  /-- and for no other: every other answer is 401, for a token missing or refused. -/
  guarded : ∀ req, api.getOr "require_auth" (.bool true) = .ok req → req.truthy = true →
    ∀ p r a, s.serve (.guarded p) r = .ok a →
      (∃ given claims user, r.header? "Authorization" = some given ∧ given ≠ "" ∧
        verifyToken s.secret s.now (Service.bearerToken given) = .ok claims ∧
        Value.getText? claims "username" = some user ∧ s.guardedPage p user r = .ok a) ∨
      (a.status = 401 ∧ ∀ given, r.header? "Authorization" = some given → given ≠ "" →
        ∃ reason, verifyToken s.secret s.now (Service.bearerToken given) = .error (.rejected reason))
  /-- A login without a user name or a password is refused as incomplete. -/
  login_incomplete : ∀ r, (Service.jsonBody r = none ∨ ∃ es, Service.jsonBody r = some (.dict es) ∧
      (((Value.getText? es "username").getD .null).truthy = false ∨
        ((Value.getText? es "password").getD .null).truthy = false)) →
    s.login r = .ok (messageReply 400 "Username and password required")
  /-- A login whose password is not the user's is refused. -/
  login_refused : ∀ r u pw us, LoginRequest api r u pw us →
    Value.lookup us (.str u) ≠ some (.str (passwordDigest pw)) →
    s.login r = .ok (messageReply 401 "Invalid credentials")
  /-- A login whose password is the user's fails when the secret is no usable key, -/
  login_unusable_key : ∀ r u pw us f, LoginRequest api r u pw us →
    Value.lookup us (.str u) = some (.str (passwordDigest pw)) →
    Token.signingKey s.secret = .error f → s.login r = .error f
  /-- and otherwise answers the token signed for the user, which lets the user in until it
  expires, wherever the configuration and the secret are the same. -/
  login_token : ∀ r u pw us key, LoginRequest api r u pw us →
    Value.lookup us (.str u) = some (.str (passwordDigest pw)) →
    Token.signingKey s.secret = .ok key →
    ∃ t, s.login r = .ok (jsonReply 200 (Value.record [("token", .str t), ("username", .str u)])) ∧
      signToken s.secret (Value.record [("username", .str u),
        ("exp", .int (s.issuedAt + tokenLifetime))]) = .ok t ∧
      (JsonRead.ReadsBack u → 0 ≤ s.issuedAt → s.issuedAt < 253402214400 →
        ∀ (s' : Service) req p r', s'.config = s.config → s'.secret = s.secret →
          s'.now < s.issuedAt + tokenLifetime →
          api.getOr "require_auth" (.bool true) = .ok req → req.truthy = true →
          CarriesToken r' t → s'.serve (.guarded p) r' = s'.guardedPage p (.str u) r')
  /-- Signed tokens verify back to their claims, as the token library documents. -/
  tokens_round_trip : TokensRoundTrip

/-- The service keeps its access policy. -/
theorem access_policy (s : Service) {api : Value} (hapi : s.config.entry "api" = .ok api) :
    AccessPolicy s api where
  unguarded _ hreq htr _ _ := Service.serve_accept (Service.authorize_unguarded hapi hreq htr)
  verified _ hreq htr _ _ _ _ _ hhead hne hv hu :=
    Service.serve_accept (Service.authorize_verified hapi hreq htr hhead hne hv hu)
  guarded _ hreq htr _ _ _ h := Service.serve_guarded_cases hapi hreq htr h
  login_incomplete r h := by
    rcases h with hbody | ⟨es, hbody, hmiss⟩
    · exact Service.login_no_body hbody
    · exact Service.login_missing hbody hmiss
  login_refused r u pw us hlogin hstored := by
    obtain ⟨es, hbody, hu, hp⟩ := hlogin.body
    exact (Service.login_credentials hbody hu hp hlogin.user_given hlogin.password_given hapi
      hlogin.users hlogin.password_encodes).2 hstored
  login_unusable_key r u pw us f hlogin hstored hkey := by
    obtain ⟨es, hbody, hu, hp⟩ := hlogin.body
    rw [(Service.login_credentials hbody hu hp hlogin.user_given hlogin.password_given hapi
      hlogin.users hlogin.password_encodes).1 hstored, signToken_unusable hkey]
    rfl
  login_token r u pw us key hlogin hstored hkey := by
    obtain ⟨es, hbody, hu, hp⟩ := hlogin.body
    obtain ⟨t, hsign, hreply⟩ := Service.login_token hbody hu hp hlogin.user_given
      hlogin.password_given hapi hlogin.users hlogin.password_encodes hstored hkey
    refine ⟨t, hreply, hsign, fun hread hlow hhigh s' req p r' hconfig hsecret hnow hreq htr hcarry =>
      ?_⟩
    have hapi' : s'.config.entry "api" = .ok api := hconfig ▸ hapi
    exact Service.serve_accept (authorize_login_token signed_tokens_round_trip hsign hread hlow hhigh
      hsecret hnow hapi' hreq htr hcarry)
  tokens_round_trip := signed_tokens_round_trip

/-- A configuration whose secret is `secret` and whose one user, `alice`, has the password
`wonderland`. -/
def sampleConfig (secret : String) : Value :=
  Value.record [("api", Value.record [("secret_key", .str secret),
    ("users", Value.record [("alice", .str (passwordDigest "wonderland"))])])]

/-- The service of `sampleConfig`, at the start of the year 2100. -/
def sampleService (secret : String) : Service :=
  ⟨sampleConfig secret, .str secret, FileTree.empty, none, 4102444800, 4102444800⟩

theorem sampleService_api (secret : String) :
    (sampleService secret).config.entry "api" = .ok (Value.record [("secret_key", .str secret),
      ("users", Value.record [("alice", .str (passwordDigest "wonderland"))])]) := by
  simp [sampleService, sampleConfig, Value.entry, Value.record, Value.getText?, Value.lookup,
    Value.sameKey, Value.fillRefs]

/-- Alice's login with the right password. -/
def sampleLogin : WebRequest :=
  { method := "POST", target := "/api/login",
    body := .json (Value.record [("username", .str "alice"), ("password", .str "wonderland")]) }

/-- The users mapping of `sampleConfig`. -/
def sampleUsers : List (Value × Value) := [(.str "alice", .str (passwordDigest "wonderland"))]

theorem sampleLogin_request (secret : String) :
    LoginRequest (Value.record [("secret_key", .str secret),
      ("users", Value.record [("alice", .str (passwordDigest "wonderland"))])]) sampleLogin
      "alice" "wonderland" sampleUsers where
  body := by
    have hdecl : sampleLogin.declaresJson = true := by decide +kernel
    refine ⟨[(.str "username", .str "alice"), (.str "password", .str "wonderland")], ?_, ?_, ?_⟩
    · rw [Service.jsonBody, hdecl]
      rfl
    · simp [Value.getText?, Value.lookup, Value.sameKey, Value.fillRefs]
    · simp [Value.getText?, Value.lookup, Value.sameKey, Value.fillRefs]
  user_given := by decide
  password_given := by decide
  password_encodes := fun c hc => standInCode_ascii (by revert c; simp)
  users := by
    simp [sampleUsers, Value.getOr, Value.record, Value.getText?, Value.lookup, Value.sameKey,
      Value.fillRefs]

theorem sampleUsers_alice :
    Value.lookup sampleUsers (.str "alice") = some (.str (passwordDigest "wonderland")) := by
  simp [sampleUsers, Value.lookup, Value.sameKey, Value.fillRefs]

/-- A request for a guarded page with the token `t` after `Bearer `. -/
def bearerRequest (t : String) : WebRequest :=
  { target := "/api/analysis", headers := [("Authorization", "Bearer " ++ t)] }

/-- A request for a guarded page with the token `t` alone. -/
def tokenRequest (t : String) : WebRequest :=
  { target := "/api/analysis", headers := [("Authorization", t)] }

theorem authorization_header (given : String) :
    ({ target := "/api/analysis", headers := [("Authorization", given)] } : WebRequest).header?
      "Authorization" = some given := by
  simp [WebRequest.header?, String.intercalate_singleton]

/-- Under the secret `k`, Alice's login answers a token, and the guarded pages let her in with
that token, after `Bearer ` or alone. -/
theorem sampleService_access_policy : ∃ api, (sampleService "k").config.entry "api" = .ok api ∧
    AccessPolicy (sampleService "k") api ∧
    ∃ t, (sampleService "k").login sampleLogin =
        .ok (jsonReply 200 (Value.record [("token", .str t), ("username", .str "alice")])) ∧
      ∀ p, (sampleService "k").serve (.guarded p) (bearerRequest t) =
          (sampleService "k").guardedPage p (.str "alice") (bearerRequest t) ∧
        (sampleService "k").serve (.guarded p) (tokenRequest t) =
          (sampleService "k").guardedPage p (.str "alice") (tokenRequest t) := by
  have hapi := sampleService_api "k"
  have policy := access_policy _ hapi
  have hkey : Token.signingKey (.str "k") = .ok [107] := by decide +kernel
  obtain ⟨t, hlogin, hsign, hin⟩ := policy.login_token sampleLogin "alice" "wonderland" sampleUsers
    [107] (sampleLogin_request "k") sampleUsers_alice hkey
  have hreq : (Value.record [("secret_key", .str "k"),
      ("users", Value.record [("alice", .str (passwordDigest "wonderland"))])]).getOr
      "require_auth" (.bool true) = .ok (.bool true) := by
    simp [Value.getOr, Value.record, Value.getText?, Value.lookup, Value.sameKey]
  have hnow : (sampleService "k").now < (sampleService "k").issuedAt + tokenLifetime := by
    decide
  -- the token verifies back to Alice's claims
  have hv := policy.tokens_round_trip _ _ _ _ (by simp)
    (loginClaims_flat (by decide) (by decide) (by decide)) (checkClaims_login "alice" hnow) hsign
  refine ⟨_, hapi, policy, t, hlogin, fun p => ⟨?_, ?_⟩⟩
  · exact policy.verified _ hreq rfl p (bearerRequest t) ("Bearer " ++ t) _ (.str "alice")
      (authorization_header _) (by simp) (by rw [Service.bearerToken_bearer]; exact hv)
      (by simp [Value.getText?, Value.lookup, Value.sameKey, Value.fillRefs])
  · exact hin (by decide) (by decide) (by decide) _ _ p (tokenRequest t) rfl rfl hnow hreq rfl
      (.inr (authorization_header t))

/-- With an empty secret, Alice's login with the right password fails, for no token can be
signed. -/
theorem empty_secret_login_fails : ((sampleService "").respond sampleLogin).status = 500 := by
  have hreq := sampleLogin_request ""
  obtain ⟨es, hbody, hu, hp⟩ := hreq.body
  have hkey : Token.signingKey (.str "") =
      .error (.other "InvalidKeyError" "HMAC key must not be empty.") := by
    have hbytes : encodeUtf8Checked "" = .ok (encodeUtf8 "") :=
      encodeUtf8Checked_of_no_standIn (fun c hc => standInCode_ascii (by revert c; simp))
    simp [Token.signingKey, hbytes, show encodeUtf8 "" = [] by rw [encodeUtf8_eq]; rfl, bind,
      Except.bind, throw, throwThe, MonadExceptOf.throw]
  have hlogin := (Service.login_credentials (s := sampleService "") hbody hu hp hreq.user_given
    hreq.password_given (sampleService_api "") hreq.users hreq.password_encodes).1 sampleUsers_alice
  rw [show (sampleService "").secret = .str "" from rfl, signToken_unusable hkey] at hlogin
  have hm : Service.methodOf sampleLogin = "POST" := by decide
  have hpath : sampleLogin.routePath = "/api/login" := by decide +kernel
  have hroute : routeOf "POST" "/api/login" = .page .login := by decide
  simp only [Service.respond, hm, hpath, hroute, Service.serve]
  rw [hlogin]
  rfl

end HostSurvey
