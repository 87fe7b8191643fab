import Spurfire.Server.Responses

/-!
# Secrets in a response

How the native client takes the secrets out of a response (`lobby_client.rs`): `extractSecret` looks
for the quoted key in the bytes of the body, reads the string that follows it and blanks it.

* `extractSecret_frame`: the secret of a document is taken exactly where no other string of the
  document shows its key; otherwise the call fails;
* **`secrets_extracted`**: the clients of a join and of a create read their response exactly when no
  free text of the response shows a key, and an invitation is always read.
-/

namespace Spurfire

open JsonScan

inductive NativeLobbyError
  | cancelled | client | deadline | route | redirect | status | mime | overflow | json | secret
  | worker | clipboard
deriving DecidableEq

/-! ## Secrets -/

def isSecretByte (b : UInt8) : Bool :=
  (48 ≤ b && b ≤ 57) || (65 ≤ b && b ≤ 90) || (97 ≤ b && b ≤ 122)
    || b == 45 || b == 95 || b == 58 || b == 46

def validSecret (bytes : List UInt8) : Bool :=
  32 ≤ bytes.length && bytes.length ≤ 512 && bytes.all isSecretByte

structure SecretBytes where
  bytes : List UInt8
  valid : validSecret bytes = true
deriving DecidableEq

namespace SecretBytes

def new (bytes : List UInt8) : Except NativeLobbyError SecretBytes :=
  if h : validSecret bytes = true then .ok ⟨bytes, h⟩ else .error .secret

/-- The bytes that take the place of the secret. -/
def blanks (secret : SecretBytes) : List UInt8 := List.replicate secret.bytes.length 32

theorem new_bytes (secret : SecretBytes) : new secret.bytes = .ok secret := dif_pos secret.valid

theorem length_bytes (secret : SecretBytes) : 32 ≤ secret.bytes.length := by
  have h := secret.valid
  simp only [validSecret, Bool.and_eq_true, decide_eq_true_eq] at h
  exact h.1.1

theorem isSecretByte_of_mem {secret : SecretBytes} {b : UInt8} (hb : b ∈ secret.bytes) :
    isSecretByte b = true := by
  have h := secret.valid
  simp only [validSecret, Bool.and_eq_true, List.all_eq_true] at h
  exact h.2 b hb

end SecretBytes

/-- A byte at which a secret is refused. -/
def isForbidden (b : UInt8) : Bool := b == BACKSLASH || 128 ≤ b || b < 32 || b == 127

theorem secretByte_cases {b : UInt8} (h : isSecretByte b = true) :
    b ≠ QUOTE ∧ isForbidden b = false ∧ isPlain b = true := by
  have hall : ∀ b : UInt8, isSecretByte b = true →
      b ≠ QUOTE ∧ isForbidden b = false ∧ isPlain b = true := by
    intro b
    have hbytes : ∀ n : Fin 256, isSecretByte (UInt8.ofNat n) = true →
        UInt8.ofNat n ≠ QUOTE ∧ isForbidden (UInt8.ofNat n) = false
          ∧ isPlain (UInt8.ofNat n) = true := by decide +kernel
    have hb := hbytes ⟨b.toNat, b.toNat_lt⟩
    rwa [UInt8.ofNat_toNat] at hb
  exact hall b h

/-! ## Extraction -/

def isAsciiWhitespace (b : UInt8) : Bool := b == 32 || b == 9 || b == 10 || b == 12 || b == 13

def skipWhitespace (body : List UInt8) (cursor : ℕ) : ℕ :=
  cursor + ((body.drop cursor).takeWhile isAsciiWhitespace).length

/-- The number of bytes before the quote that closes the secret. -/
def scanSecret : List UInt8 → Except NativeLobbyError ℕ
  | [] => .error .json
  | b :: rest =>
    if b = QUOTE then .ok 0
    else if isForbidden b then .error .secret
    else (scanSecret rest).map (· + 1)

/-- The secret under the key, and the body in which it is blanked. -/
def extractSecret (body key : List UInt8) : Except NativeLobbyError (SecretBytes × List UInt8) :=
  let needle := quoted key
  match matchesFrom needle 0 body with
  | [index] =>
    let cursor := skipWhitespace body (index + needle.length)
    if body[cursor]? ≠ some 58 then .error .json
    else
      let cursor := skipWhitespace body (cursor + 1)
      if body[cursor]? ≠ some QUOTE then .error .secret
      else
        let start := cursor + 1
        match scanSecret (body.drop start) with
        | .error e => .error e
        | .ok length =>
          match SecretBytes.new ((body.drop start).take length) with
          | .error e => .error e
          | .ok secret =>
            .ok (secret, body.take start ++ List.replicate length 32 ++ body.drop (start + length))
  | _ => .error .secret

def DRY_RUN_NO_KEY : List UInt8 := name "DRY_RUN_NO_KEY"

/-- The enrolment key and the capability of a join, and the body without them. -/
def joinSecrets (body : List UInt8) :
    Except NativeLobbyError (SecretBytes × SecretBytes × List UInt8) :=
  match extractSecret body AUTH_KEY with
  | .error e => .error e
  | .ok (enrollment, body) =>
    if enrollment.bytes = DRY_RUN_NO_KEY then .error .secret
    else
      match extractSecret body TOKEN with
      | .error e => .error e
      | .ok (participant, body) => .ok (enrollment, participant, body)

/-- No white space is skipped before another byte. -/
theorem skipWhitespace_of_mark {before rest : List UInt8} {b : UInt8} {cursor : ℕ}
    (body : List UInt8) (hbody : body = before ++ b :: rest) (hcursor : cursor = before.length)
    (hb : isAsciiWhitespace b = false) :
    skipWhitespace body cursor = cursor ∧ body[cursor]? = some b := by
  subst hbody hcursor
  constructor
  · rw [skipWhitespace, List.drop_left, List.takeWhile_cons_of_neg (by simp [hb])]
    rfl
  · rw [List.getElem?_append_right le_rfl, Nat.sub_self]
    rfl

theorem scanSecret_of_forall {bytes : List UInt8} (h : ∀ b ∈ bytes, isSecretByte b = true)
    (rest : List UInt8) : scanSecret (bytes ++ QUOTE :: rest) = .ok bytes.length := by
  induction bytes with
  | nil => rfl
  | cons b bytes ih =>
    obtain ⟨hquote, hforbidden, -⟩ := secretByte_cases (h b List.mem_cons_self)
    rw [List.cons_append, scanSecret, if_neg hquote, if_neg (by simp [hforbidden]),
      ih fun c hc => h c (List.mem_cons_of_mem b hc)]
    rfl

/-- The member at the only match is read. -/
theorem extractSecret_of_match {key before after : List UInt8} (secret : SecretBytes)
    (hmatch : matchesFrom (quoted key) 0
      (before ++ quoted key ++ 58 :: QUOTE :: secret.bytes ++ QUOTE :: after) = [before.length]) :
    extractSecret (before ++ quoted key ++ 58 :: QUOTE :: secret.bytes ++ QUOTE :: after) key
      = .ok (secret, before ++ quoted key ++ 58 :: QUOTE :: secret.blanks ++ QUOTE :: after) := by
  set body := before ++ quoted key ++ 58 :: QUOTE :: secret.bytes ++ QUOTE :: after with hbody
  obtain ⟨hfirst, hcolon⟩ := skipWhitespace_of_mark body
    (show body = before ++ quoted key ++ 58 :: (QUOTE :: secret.bytes ++ QUOTE :: after) by
      simp [hbody])
    List.length_append.symm (by decide)
  obtain ⟨hsecond, hquote⟩ := skipWhitespace_of_mark body
    (show body = before ++ quoted key ++ [58] ++ QUOTE :: (secret.bytes ++ QUOTE :: after) by
      simp [hbody])
    (show before.length + (quoted key).length + 1 = (before ++ quoted key ++ [58]).length by
      rw [List.length_append, List.length_append, List.length_singleton])
    (by decide)
  have hstart : body = before ++ quoted key ++ [58, QUOTE] ++ (secret.bytes ++ QUOTE :: after) := by
    simp [hbody]
  have hlength : (before ++ quoted key ++ [58, QUOTE]).length
      = before.length + (quoted key).length + 1 + 1 := by
    rw [List.length_append, List.length_append]
    rfl
  have hdrop : body.drop (before.length + (quoted key).length + 1 + 1)
      = secret.bytes ++ QUOTE :: after := by
    rw [hstart]
    exact List.drop_left' hlength
  have htake : body.take (before.length + (quoted key).length + 1 + 1)
      = before ++ quoted key ++ [58, QUOTE] := by
    rw [hstart]
    exact List.take_left' hlength
  have hscan := scanSecret_of_forall (show ∀ b ∈ secret.bytes, isSecretByte b = true from
    fun b hb => SecretBytes.isSecretByte_of_mem hb) after
  unfold extractSecret
  simp only [hmatch, hfirst, hcolon, hsecond, hquote, hdrop, htake, hscan, ne_eq,
    not_true_eq_false, if_false, List.take_left', SecretBytes.new_bytes, ← List.drop_drop,
    List.drop_left']
  simp [SecretBytes.blanks]

/-- A key that is found twice is refused. -/
theorem extractSecret_of_matches {body key : List UInt8}
    (h : 1 < (matchesFrom (quoted key) 0 body).length) :
    extractSecret body key = .error .secret := by
  unfold extractSecret
  dsimp only
  split
  next index hmatch =>
    rw [hmatch] at h
    exact absurd h (Nat.lt_irrefl 1)
  next => rfl

theorem SecretBytes.not_quote (secret : SecretBytes) : QUOTE ∉ secret.bytes :=
  fun hmem => (secretByte_cases (isSecretByte_of_mem hmem)).1 rfl

theorem SecretBytes.isPlain_of_mem {secret : SecretBytes} {b : UInt8} (hb : b ∈ secret.bytes) :
    isPlain b = true :=
  (secretByte_cases (isSecretByte_of_mem hb)).2.2

theorem SecretBytes.isPlain_of_mem_blanks {secret : SecretBytes} {b : UInt8}
    (hb : b ∈ secret.blanks) : isPlain b = true := by
  rw [List.eq_of_mem_replicate hb]
  rfl

/-- Neither a secret nor what blanks it shows a key. -/
theorem SecretBytes.ordinary_bytes (secret : SecretBytes) : Ordinary secret.bytes :=
  ordinary_of_length secret.not_quote (Nat.lt_of_lt_of_le (by decide) secret.length_bytes)

theorem SecretBytes.ordinary_blanks (secret : SecretBytes) : Ordinary secret.blanks := by
  refine ordinary_of_length (fun hmem => ?_) ?_
  · exact nomatch (List.eq_of_mem_replicate hmem : QUOTE = 32)
  · rw [blanks, List.length_replicate]
    exact Nat.lt_of_lt_of_le (by decide) secret.length_bytes

theorem renderText_of_plain {s : List UInt8} (h : ∀ b ∈ s, isPlain b = true) :
    renderText s = QUOTE :: s ++ [QUOTE] := by
  rw [renderText, escape_of_plain h]

/-- The secret of a tidy document is taken and blanked unless another string shows its key. -/
theorem extractSecret_frame {key : List UInt8} (hkey : IsKey key) (hsecret : IsSecretKey key)
    {f : List UInt8 → Document} {others : List (List UInt8)} (hframe : Frame key f others)
    (htidy : ∀ s, Tidy (f s)) (secret : SecretBytes) :
    (¬Shows key others →
        extractSecret (render (f secret.bytes)) key = .ok (secret, render (f secret.blanks)))
      ∧ (Shows key others → extractSecret (render (f secret.bytes)) key = .error .secret) := by
  obtain ⟨before, after, hf, hothers⟩ := hframe
  have hplain : ∀ b ∈ key, isPlain b = true := fun b hb => (hkey.2 b hb).1
  have hbytes : ∀ s, (∀ b ∈ s, isPlain b = true) → render (f s)
      = render before ++ quoted key ++ 58 :: QUOTE :: s ++ QUOTE :: render after := by
    intro s hs
    rw [hf, render_append, render_append, render, render, render, renderText_of_plain hplain,
      renderText_of_plain hs]
    simp [quoted, render]
  have hread := hbytes secret.bytes fun b hb => secret.isPlain_of_mem hb
  obtain ⟨halone, hmore⟩ := matches_frame hkey (hf secret.bytes ▸ htidy secret.bytes)
    (hsecret _ secret.ordinary_bytes)
  rw [← hf, ← hothers] at halone hmore
  constructor
  · intro hnone
    have hmatch := halone fun t ht hmimics => hnone ⟨t, ht, hmimics⟩
    rw [hread] at hmatch
    rw [hread, extractSecret_of_match secret hmatch,
      hbytes secret.blanks fun b hb => SecretBytes.isPlain_of_mem_blanks hb]
  · exact fun hshows => extractSecret_of_matches (hmore hshows)

theorem isKey_auth : IsKey AUTH_KEY := ⟨by decide +kernel, by decide +kernel⟩

theorem isKey_token : IsKey TOKEN := ⟨by decide +kernel, by decide +kernel⟩

/-! ## Responses with a secret -/

def OpaqueCapability.carrying (c : OpaqueCapability) (token : List UInt8) : OpaqueCapability :=
  { c with token }

/-- The response with these secrets. -/
def JoinLobbyResponse.carrying (r : JoinLobbyResponse) (authKey token : List UInt8) :
    JoinLobbyResponse :=
  { r with
    joinCredential := { r.joinCredential with authKey }
    participantCapability := r.participantCapability.carrying token }

def CreateLobbyFirstResponse.carrying (r : CreateLobbyFirstResponse) (token : List UInt8) :
    CreateLobbyFirstResponse :=
  { r with creatorCapability := r.creatorCapability.carrying token }

def CreateInvitationResponse.carrying (r : CreateInvitationResponse) (token : List UInt8) :
    CreateInvitationResponse :=
  { r with invitation := r.invitation.carrying token }

/-- The strings around the token of a capability. -/
theorem frame_capability (c : OpaqueCapability) :
    Frame TOKEN (fun s => (c.carrying s).document) (memberTexts c.tail) :=
  frame_member TOKEN [] c.tail

/-- The member is the only place of the key, but for the free texts. -/
def Holds (key : List UInt8) (f : List UInt8 → Document) (free : List String) : Prop :=
  ∃ others, Frame key f others ∧ (Shows key others ↔ Shows key (free.map textBytes))

theorem shows_joinFreeTexts {k : List UInt8} (hk : IsSecretKey k) (r : JoinLobbyResponse) :
    Shows k (r.freeTexts.map textBytes)
      ↔ Shows k (memberTexts [(name "credential_id", wireText r.joinCredential.credentialId)]
          ++ memberTexts r.joinCredential.tail) ∨ Shows k (memberTexts r.tail) := by
  rw [shows_credential hk, shows_joinTail hk, ← shows_append, ← List.map_append,
    JoinLobbyResponse.freeTexts, List.append_assoc]

theorem holds_auth (r : JoinLobbyResponse) {token : List UInt8} (htoken : Ordinary token) :
    Holds AUTH_KEY (fun s => (r.carrying s token).document) r.freeTexts := by
  refine ⟨_, (frame_member AUTH_KEY
    [(name "credential_id", wireText r.joinCredential.credentialId)]
    r.joinCredential.tail).nested (name "join_credential") []
      ((name "participant_capability", (r.participantCapability.carrying token).document)
        :: r.tail), ?_⟩
  have hk := isSecretKey_auth
  have hcredential := hk.names (name "join_credential") (List.mem_map_of_mem (by simp))
  have hcapability := hk.names (name "participant_capability") (List.mem_map_of_mem (by simp))
  have hname : ¬Mimics AUTH_KEY (name "token") := by decide +kernel
  have htail := not_shows_capabilityTail hk (r.participantCapability.carrying token)
  have hdocument : ¬Shows AUTH_KEY (texts (r.participantCapability.carrying token).document) := by
    rw [OpaqueCapability.document, texts_object, shows_memberTexts_cons (name "token", _),
      texts_textItem, shows_cons]
    rintro (h | (h | h) | h)
    · exact hname h
    · exact hk token htoken h
    · exact not_shows_nil h
    · exact htail h
  rw [shows_joinFreeTexts hk, memberTexts_nil, List.nil_append, List.cons_append, shows_cons,
    shows_append, shows_memberTexts_cons (name "participant_capability", _)]
  simp only [hcredential, hcapability, hdocument, false_or]

theorem holds_token (r : JoinLobbyResponse) {authKey : List UInt8} (hauth : Ordinary authKey) :
    Holds TOKEN (fun s => (r.carrying authKey s).document) r.freeTexts := by
  refine ⟨_, (frame_capability r.participantCapability).nested (name "participant_capability")
    [(name "join_credential", (r.carrying authKey []).joinCredential.document)] r.tail, ?_⟩
  have hk := isSecretKey_token
  have hcredential := hk.names (name "join_credential") (List.mem_map_of_mem (by simp))
  have hcapability := hk.names (name "participant_capability") (List.mem_map_of_mem (by simp))
  have hname : ¬Mimics TOKEN (name "auth_key") := by decide +kernel
  have htail := not_shows_capabilityTail hk r.participantCapability
  have hdocument : Shows TOKEN (texts (r.carrying authKey []).joinCredential.document)
      ↔ Shows TOKEN (memberTexts [(name "credential_id", wireText r.joinCredential.credentialId)]
          ++ memberTexts r.joinCredential.tail) := by
    have hkey : ¬Shows TOKEN (texts (textItem authKey)) := by
      rw [texts_textItem, shows_cons]
      rintro (h | h)
      · exact hk authKey hauth h
      · exact not_shows_nil h
    rw [JoinCredential.document, texts_object, memberTexts_append, shows_append,
      shows_memberTexts_cons (name "auth_key", _), shows_append]
    simp only [hname, JoinLobbyResponse.carrying, hkey, false_or]
    rfl
  rw [shows_joinFreeTexts hk, shows_append, shows_append, shows_memberTexts_cons (name "join_credential", _),
    hdocument, shows_cons]
  simp only [hcredential, hcapability, htail, memberTexts_nil, not_shows_nil, or_false, false_or]

theorem holds_create (r : CreateLobbyFirstResponse) :
    Holds TOKEN (fun s => (r.carrying s).document) r.response.metadata.freeTexts := by
  refine ⟨_, (frame_capability r.creatorCapability).nested (name "creator_capability")
    r.response.members [], ?_⟩
  have hk := isSecretKey_token
  have hcapability := hk.names (name "creator_capability") (List.mem_map_of_mem (by simp))
  have htail := not_shows_capabilityTail hk r.creatorCapability
  rw [← shows_createMembers hk]
  simp [hcapability, htail]

theorem holds_invitation (r : CreateInvitationResponse) :
    Holds TOKEN (fun s => (r.carrying s).document) [] := by
  refine ⟨_, (frame_capability r.invitation).nested (name "invitation") []
    [(name "network_generation", wireNumber r.networkGeneration.toNat)], ?_⟩
  have hk := isSecretKey_token
  have hinvitation := hk.names (name "invitation") (List.mem_map_of_mem (by simp))
  have hgeneration := hk.names (name "network_generation") (List.mem_map_of_mem (by simp))
  have htail := not_shows_capabilityTail hk r.invitation
  simp [hinvitation, hgeneration, htail]

/-- The secret of a response is taken unless a free text shows its key. -/
theorem extractSecret_holds {key : List UInt8} (hkey : IsKey key) (hsecret : IsSecretKey key)
    {f : List UInt8 → Document} {free : List String} (hholds : Holds key f free)
    (htidy : ∀ s, Tidy (f s)) (secret : SecretBytes) :
    extractSecret (render (f secret.bytes)) key
      = if ∀ s ∈ free, ¬Mimics key (textBytes s) then .ok (secret, render (f secret.blanks))
        else .error .secret := by
  obtain ⟨others, hframe, hshows⟩ := hholds
  obtain ⟨hok, herror⟩ := extractSecret_frame hkey hsecret hframe htidy secret
  have hfree : Shows key (free.map textBytes) ↔ ¬∀ s ∈ free, ¬Mimics key (textBytes s) := by
    simp [Shows]
  by_cases h : ∀ s ∈ free, ¬Mimics key (textBytes s)
  · rw [if_pos h]
    exact hok fun hothers => hfree.mp (hshows.mp hothers) h
  · rw [if_neg h]
    exact herror (hshows.mpr (hfree.mpr h))

theorem extractSecret_auth (r : JoinLobbyResponse) (key token : SecretBytes) :
    extractSecret (render (r.carrying key.bytes token.bytes).document) AUTH_KEY
      = if ∀ s ∈ r.freeTexts, ¬Mimics AUTH_KEY (textBytes s) then
          .ok (key, render (r.carrying key.blanks token.bytes).document)
        else .error .secret :=
  extractSecret_holds isKey_auth isSecretKey_auth (holds_auth r token.ordinary_bytes)
    (fun _ => tidy_join _) key

/-- After the enrolment key is blanked. -/
theorem extractSecret_token (r : JoinLobbyResponse) (key token : SecretBytes) :
    extractSecret (render (r.carrying key.blanks token.bytes).document) TOKEN
      = if ∀ s ∈ r.freeTexts, ¬Mimics TOKEN (textBytes s) then
          .ok (token, render (r.carrying key.blanks token.blanks).document)
        else .error .secret :=
  extractSecret_holds isKey_token isSecretKey_token (holds_token r key.ordinary_blanks)
    (fun _ => tidy_join _) token

/-- A join is read, or its body is refused. -/
theorem joinSecrets_eq (r : JoinLobbyResponse) (key token : SecretBytes) :
    joinSecrets (render (r.carrying key.bytes token.bytes).document)
      = if ∀ s ∈ r.freeTexts, ¬Mimics AUTH_KEY (textBytes s) ∧ ¬Mimics TOKEN (textBytes s) then
          .ok (key, token, render (r.carrying key.blanks token.blanks).document)
        else .error .secret := by
  have hreal : key.bytes ≠ DRY_RUN_NO_KEY := by
    intro heq
    have hlength := key.length_bytes
    rw [heq] at hlength
    exact absurd hlength (by decide)
  unfold joinSecrets
  rw [extractSecret_auth]
  by_cases hauth : ∀ s ∈ r.freeTexts, ¬Mimics AUTH_KEY (textBytes s)
  · rw [if_pos hauth]
    dsimp only
    rw [if_neg hreal, extractSecret_token]
    by_cases htoken : ∀ s ∈ r.freeTexts, ¬Mimics TOKEN (textBytes s)
    · rw [if_pos htoken, if_pos fun s hs => ⟨hauth s hs, htoken s hs⟩]
    · rw [if_neg htoken, if_neg fun h => htoken fun s hs => (h s hs).2]
  · rw [if_neg hauth, if_neg fun h => hauth fun s hs => (h s hs).1]

/-! ## The clients of the responses -/

/-- **A join is read exactly when no name or other free text shows one of its keys, a create when no
planned action shows the key of its token, and an invitation always**. -/
theorem secrets_extracted (key token : SecretBytes) :
    (∀ r : JoinLobbyResponse,
        joinSecrets (render (r.carrying key.bytes token.bytes).document)
            = .ok (key, token, render (r.carrying key.blanks token.blanks).document)
          ↔ ∀ s ∈ r.freeTexts, ¬Mimics AUTH_KEY (textBytes s) ∧ ¬Mimics TOKEN (textBytes s))
      ∧ (∀ r : CreateLobbyFirstResponse,
        extractSecret (render (r.carrying token.bytes).document) TOKEN
            = .ok (token, render (r.carrying token.blanks).document)
          ↔ ∀ s ∈ r.response.metadata.freeTexts, ¬Mimics TOKEN (textBytes s))
      ∧ ∀ r : CreateInvitationResponse,
        extractSecret (render (r.carrying token.bytes).document) TOKEN
          = .ok (token, render (r.carrying token.blanks).document) := by
  refine ⟨fun r => ?_, fun r => ?_, fun r => ?_⟩
  · rw [joinSecrets_eq]
    split_ifs with h
    · exact iff_of_true rfl h
    · exact iff_of_false nofun h
  · rw [extractSecret_holds isKey_token isSecretKey_token (holds_create r) fun _ => tidy_create _]
    split_ifs with h
    · exact iff_of_true rfl h
    · exact iff_of_false nofun h
  · rw [extractSecret_holds isKey_token isSecretKey_token (holds_invitation r)
      fun _ => tidy_invitation _]
    exact if_pos fun _ hs => nomatch hs

/-- The answer to a player that joins after one that is called `token`. -/
def joinAfterToken : JoinLobbyResponse where
  joinCredential := ⟨"kKey", [], "lobby.ts.net", ["tag:spurfire"], 3000⟩
  participantCapability := ⟨[], [.lobbyRead, .lobbyPlay], 3000⟩
  lobby :=
    { lobbyId := .ofTail 9, displayName := "Lobby", state := .ready, stateReason := none
      roster := [⟨.ofTail 1, "token", .connected, M3_WIRE_VERSION, "election_v1", none,
        ⟨0, 0, 0⟩, 1000, false⟩]
      maxPlayers := 2, mapSeed := none, authority := none, ttl := ⟨600000, 900000⟩
      wireVersion := M3_WIRE_VERSION, provisioningMode := .tailnetPerLobby, createdAt := 1000
      cleanupPending := false }
  sessionGeneration := 1
  manifestPublicKey := ⟨Vector.replicate 32 7⟩
  metadata := ⟨false, []⟩

def letterSecret : SecretBytes := ⟨List.replicate 40 97, by decide⟩

theorem join_after_token_refused :
    (∀ p ∈ joinAfterToken.lobby.roster, validDisplayName p.displayName = true)
      ∧ validDisplayName joinAfterToken.lobby.displayName = true
      ∧ joinSecrets (render
          (joinAfterToken.carrying letterSecret.bytes letterSecret.bytes).document)
        = .error .secret := by
  refine ⟨by decide +kernel, by decide +kernel, ?_⟩
  rw [joinSecrets_eq, if_neg]
  intro h
  exact (h "token" (by decide +kernel)).2 (.inl rfl)

end Spurfire
