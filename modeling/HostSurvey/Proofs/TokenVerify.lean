import HostSurvey.Web.Token
import HostSurvey.Proofs.JsonRecord

/-!
A token the service signs is a token it verifies.
-/

namespace HostSurvey

theorem encodeUtf8_append (a b : String) :
    encodeUtf8 (a ++ b) = encodeUtf8 a ++ encodeUtf8 b := by
  simp [encodeUtf8_eq, String.toList_append, List.flatMap_append]

theorem idxOf?_append_cons {l r : List UInt8} {sep : UInt8} (h : sep ∉ l) :
    (l ++ sep :: r).idxOf? sep = some l.length := by
  induction l with
  | nil => simp [List.idxOf?_cons]
  | cons x l ih =>
    have hx : x ≠ sep := fun e => h (e ▸ List.mem_cons_self)
    rw [List.cons_append, List.idxOf?_cons, if_neg (by simpa using hx),
      ih fun hl => h (List.mem_cons_of_mem _ hl)]
    rfl

theorem encodeUtf8Checked_of_no_standIn {t : String} (h : ∀ c ∈ t.toList, standInCode? c = none) :
    encodeUtf8Checked t = .ok (encodeUtf8 t) := by
  have hnone : t.toList.findIdx? (fun c => (standInCode? c).isSome) = none := by
    rw [List.findIdx?_eq_none_iff]
    intro c hc
    simp [h c hc]
  simp [encodeUtf8Checked, hnone]

theorem standInCode_ascii {c : Char} (h : c.toNat < 128) : standInCode? c = none := by
  simp [standInCode?]
  omega

namespace Token

theorem splitFirst_append {l r : List UInt8} {sep : UInt8} (h : sep ∉ l) :
    splitFirst (l ++ sep :: r) sep = some (l, r) := by
  simp [splitFirst, idxOf?_append_cons h]

theorem splitLast_append {l r : List UInt8} {sep : UInt8} (h : sep ∉ r) :
    splitLast (l ++ sep :: r) sep = some (l, r) := by
  have hr : sep ∉ r.reverse := by simpa using h
  simp [splitLast, splitFirst_append hr]

variable (a b c : List UInt8)

theorem encodeUtf8_dot : encodeUtf8 "." = [0x2E] := by
  rw [encodeUtf8_eq]
  decide

theorem encodeUtf8Checked_dotted :
    encodeUtf8Checked (encodeBase64Url a ++ "." ++ encodeBase64Url b ++ "." ++ encodeBase64Url c) =
      .ok (encodeUtf8 (encodeBase64Url a ++ "." ++ encodeBase64Url b ++ "." ++
        encodeBase64Url c)) := by
  refine encodeUtf8Checked_of_no_standIn fun ch hch => standInCode_ascii ?_
  have hdot : ∀ d ∈ ".".toList, d.toNat < 128 := by simp
  simp only [String.toList_append, List.mem_append] at hch
  rcases hch with (((hch | hch) | hch) | hch) | hch
  · exact ascii_of_mem_encodeBase64Url hch
  · exact hdot ch hch
  · exact ascii_of_mem_encodeBase64Url hch
  · exact hdot ch hch
  · exact ascii_of_mem_encodeBase64Url hch

theorem splitLast_dotted :
    splitLast (encodeUtf8 (encodeBase64Url a ++ "." ++ encodeBase64Url b ++ "." ++
      encodeBase64Url c)) 0x2E =
      some (encodeUtf8 (encodeBase64Url a ++ "." ++ encodeBase64Url b),
        encodeUtf8 (encodeBase64Url c)) := by
  rw [encodeUtf8_append (_ ++ "."), encodeUtf8_append _ ".", encodeUtf8_dot, List.append_assoc]
  exact splitLast_append (dot_not_mem_encodeBase64Url c)

theorem splitFirst_dotted :
    splitFirst (encodeUtf8 (encodeBase64Url a ++ "." ++ encodeBase64Url b)) 0x2E =
      some (encodeUtf8 (encodeBase64Url a), encodeUtf8 (encodeBase64Url b)) := by
  rw [encodeUtf8_append, encodeUtf8_append, encodeUtf8_dot, List.append_assoc]
  exact splitFirst_append (dot_not_mem_encodeBase64Url a)

theorem segment_encode (reason : String) :
    segment (encodeUtf8 (encodeBase64Url a)) reason = .ok a := by
  simp [segment, decodeBase64Url_encode]

end Token

theorem headerText_eq :
    Token.headerText = writeJson JsonLayout.tight
      (Value.record [("alg", .str "HS256"), ("typ", .str "JWT")]) := by
  rw [writeJson_record (by simp)]
  simp [memberText, writeJsonAt]
  decide

theorem mappingOf_header :
    Token.mappingOf (encodeUtf8 Token.headerText) "Invalid header string" =
      .ok [(.str "alg", .str "HS256"), (.str "typ", .str "JWT")] := by
  have hread : readJsonBytes (encodeUtf8 Token.headerText) =
      .ok (Value.record [("alg", .str "HS256"), ("typ", .str "JWT")]) := by
    rw [headerText_eq]
    refine readJsonBytes_writeJson_record (by decide) fun e he => ?_
    simp only [List.mem_cons, List.not_mem_nil, or_false] at he
    rcases he with rfl | rfl <;> exact ⟨by decide, by decide⟩
  simp [Token.mappingOf, hread, Value.record]

/-- A token signed under a secret is verified under it, at a clock its claims allow, with the
claims it was signed with: when they form a flat record with distinct keys. -/
theorem verifyToken_signToken {secret : Value} {now : Int} {claims : List (String × Value)}
    {token : String} (hkeys : (claims.map Prod.fst).Nodup)
    (hflat : ∀ e ∈ claims, JsonRead.ReadsBack e.1 ∧ JsonRead.IsFlatValue e.2)
    (hcheck : Token.checkClaims now (claims.map fun e => (Value.str e.1, e.2)) = .ok ())
    (hsign : signToken secret (Value.record claims) = .ok token) :
    verifyToken secret now token = .ok (claims.map fun e => (Value.str e.1, e.2)) := by
  unfold signToken at hsign
  cases hkey : Token.signingKey secret with
  | error f => simp [hkey, bind, Except.bind] at hsign
  | ok key =>
    simp only [hkey, bind, Except.bind, pure, Except.pure, Except.ok.injEq] at hsign
    subst hsign
    have hpayload : Token.mappingOf (encodeUtf8 (writeJson JsonLayout.tight (Value.record claims)))
        "Invalid payload string" = .ok (claims.map fun e => (Value.str e.1, e.2)) := by
      rw [Token.mappingOf, readJsonBytes_writeJson_record hkeys hflat]
      rfl
    -- the header names the algorithm and does not turn the payload's encoding off
    have hb64 : Value.getText? [(.str "alg", .str "HS256"), (.str "typ", .str "JWT")] "b64" =
        none := by
      simp [Value.getText?, Value.lookup, Value.sameKey]
    have halg : Value.getText? [(.str "alg", .str "HS256"), (.str "typ", .str "JWT")] "alg" =
        some (.str "HS256") := by
      simp [Value.getText?, Value.lookup, Value.sameKey, Value.fillRefs]
    unfold verifyToken
    simp only [Token.encodeUtf8Checked_dotted, Token.splitLast_dotted, Token.splitFirst_dotted,
      Token.segment_encode, mappingOf_header, hb64, halg, hkey, hpayload, hcheck, bind,
      Except.bind, pure, Except.pure, bne_self_eq_false]
    rfl

/-- The round trip the token library documents: a token signed under a secret is verified
under it, at a clock its claims allow, with the claims it was signed with, when they form a
flat record with distinct keys. -/
def TokensRoundTrip : Prop :=
  ∀ (secret : Value) (now : Int) (claims : List (String × Value)) (token : String),
    (claims.map Prod.fst).Nodup → (∀ e ∈ claims, JsonRead.ReadsBack e.1 ∧ JsonRead.IsFlatValue e.2) →
    Token.checkClaims now (claims.map fun e => (Value.str e.1, e.2)) = .ok () →
    signToken secret (Value.record claims) = .ok token →
    verifyToken secret now token = .ok (claims.map fun e => (Value.str e.1, e.2))

theorem signed_tokens_round_trip : TokensRoundTrip :=
  fun _ _ _ _ hkeys hflat hcheck hsign => verifyToken_signToken hkeys hflat hcheck hsign

theorem signToken_head {secret claims : Value} {token : String}
    (h : signToken secret claims = .ok token) : token.toList.head? = some 'e' := by
  unfold signToken at h
  cases hkey : Token.signingKey secret with
  | error f => simp [hkey, bind, Except.bind] at h
  | ok key =>
    simp only [hkey, bind, Except.bind, pure, Except.pure, Except.ok.injEq] at h
    have hH : (encodeBase64Url (encodeUtf8 Token.headerText)).toList.head? = some 'e' := by
      rw [encodeUtf8_eq]
      decide
    subst h
    simp [String.toList_append, List.head?_append, hH]

theorem signToken_unusable {secret claims : Value} {f : Fault}
    (h : Token.signingKey secret = .error f) : signToken secret claims = .error f := by
  simp [signToken, h, bind, Except.bind]

theorem signToken_usable {secret claims : Value} {key : List UInt8}
    (h : Token.signingKey secret = .ok key) : ∃ t, signToken secret claims = .ok t := by
  rw [signToken, h]
  exact ⟨_, rfl⟩

end HostSurvey
