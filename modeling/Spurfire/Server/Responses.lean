import Spurfire.Lib.JsonScan
import Spurfire.Protocol.IpText
import Spurfire.Server.Api

/-!
# First responses on the wire

The JSON documents of the responses that carry a secret (`api.rs`, `credential.rs`, `model.rs`), in
the order in which `serde` writes their members: a join, a first create and an invitation.

`freeTexts` are the strings of a response that do not come from a fixed set or a fixed grammar.
`shows_joinTail` and `shows_createMembers` say that no other string shows the key of a secret.

Secrets are the bytes of their text.
-/

namespace Spurfire

open JsonScan
open Json (ascii)

/-! ## Responses -/

structure OpaqueCapability where
  token : List UInt8
  scopes : List LobbyCapabilityScope
  expiresAt : UnixMillis

structure JoinCredential where
  credentialId : String
  authKey : List UInt8
  tailnet : String
  tags : List String
  expiresAt : UnixMillis

structure PlannedAction where
  method : String
  path : String
  description : String

structure ResponseMetadata where
  dryRun : Bool
  plannedActions : List PlannedAction

/-- A lobby with the members that are only written. -/
structure LobbySnapshot extends Lobby where
  displayName : String
  wireVersion : WireVersion
  cleanupPending : Bool

structure JoinLobbyResponse where
  joinCredential : JoinCredential
  participantCapability : OpaqueCapability
  lobby : LobbySnapshot
  sessionGeneration : UInt64
  manifestPublicKey : SessionPublicKey
  metadata : ResponseMetadata

structure CreateLobbyResponse where
  lobbyId : LobbyId
  state : LobbyState
  wireVersion : WireVersion
  createdAt : UnixMillis
  expiresAt : UnixMillis
  metadata : ResponseMetadata

structure CreateLobbyFirstResponse where
  response : CreateLobbyResponse
  creatorCapability : OpaqueCapability

structure CreateInvitationResponse where
  invitation : OpaqueCapability
  networkGeneration : UInt64

/-! ## Names and values -/

def name (s : String) : List UInt8 := ascii s.toList

def wireText (s : String) : Document := textItem (textBytes s)
def wireNumber (n : ℕ) : Document := literal (Json.number n)
def wireBool (b : Bool) : Document := literal (Json.bool b)

def wireOption {α : Type} (f : α → Document) : Option α → Document
  | none => literal Json.null
  | some a => f a

/-- A member that is skipped unless the flag is set. -/
def flagMember (key : String) (b : Bool) : List (List UInt8 × Document) :=
  if b then [(name key, wireBool true)] else []

namespace LobbyState

def wireName : LobbyState → List UInt8
  | provisioning => name "PROVISIONING"
  | forming => name "FORMING"
  | ready => name "READY"
  | starting => name "STARTING"
  | inMatch => name "IN_MATCH"
  | closing => name "CLOSING"
  | failed => name "FAILED"
  | expired => name "EXPIRED"
  | destroyed => name "DESTROYED"

end LobbyState

def LobbyCapabilityScope.wireName : LobbyCapabilityScope → List UInt8
  | lobbyRead => name "lobby_read"
  | lobbyReport => name "lobby_report"
  | lobbyInvite => name "lobby_invite"
  | lobbyManage => name "lobby_manage"
  | lobbyDestroy => name "lobby_destroy"
  | lobbyJoin => name "lobby_join"
  | lobbyPlay => name "lobby_play"
  | lobbyLeaveSelf => name "lobby_leave_self"
  | lobbyCreateReal => name "lobby_create_real"

def PlayerJoinState.wireName : PlayerJoinState → List UInt8
  | credentialIssued => name "credential_issued"
  | connecting => name "connecting"
  | connected => name "connected"
  | left => name "left"
  | cleanupPending => name "cleanup_pending"
  | unknown => name "unknown"

def HorseSelection.wireName : HorseSelection → List UInt8
  | courser => name "courser"
  | warhorse => name "warhorse"
  | mustang => name "mustang"
  | unknown => name "unknown"

def ProvisioningMode.wireName : ProvisioningMode → List UInt8
  | sharedTailnet => name "shared_tailnet"
  | dryRun => name "dry_run"
  | tailnetPerLobby => name "tailnet_per_lobby"

def ProtocolId.wireName {k : IdKind} (id : ProtocolId k) : List UInt8 := ascii id.canonicalText

def WireVersion.wireName (v : WireVersion) : List UInt8 :=
  Json.number v.major.toNat ++ ascii ['.'] ++ Json.number v.minor.toNat

def base64Digits : List UInt8 :=
  name "ABCDEFGHIJKLMNOPQRSTUVWXYZabcdefghijklmnopqrstuvwxyz0123456789-_"

def base64Group (count bits : ℕ) : List UInt8 :=
  (List.range count).map fun i => base64Digits.getD (bits / 64 ^ (3 - i) % 64) 65

/-- `URL_SAFE_NO_PAD`. -/
def base64Url : List UInt8 → List UInt8
  | a :: b :: c :: rest =>
    base64Group 4 (a.toNat * 65536 + b.toNat * 256 + c.toNat) ++ base64Url rest
  | [a, b] => base64Group 3 (a.toNat * 65536 + b.toNat * 256)
  | [a] => base64Group 2 (a.toNat * 65536)
  | [] => []

def SessionPublicKey.wireName (key : SessionPublicKey) : List UInt8 := base64Url key.bytes.toList

/-! ## Documents -/

def RouteSummary.document (r : RouteSummary) : Document :=
  object [(name "direct_count", wireNumber r.directCount.toNat),
    (name "peer_relay_count", wireNumber r.peerRelayCount.toNat),
    (name "derp_count", wireNumber r.derpCount.toNat)]

def Player.wireDocument (p : Player) : Document :=
  object ([(name "player_id", textItem p.playerId.wireName),
      (name "display_name", wireText p.displayName),
      (name "join_state", textItem p.joinState.wireName),
      (name "wire_version", textItem p.wireVersion.wireName),
      (name "formula_version", wireText p.formulaVersion)]
    ++ p.horseSelection.toList.map (fun horse => (name "horse_selection", textItem horse.wireName))
    ++ [(name "route_summary", p.routeSummary.document),
      (name "joined_at", wireNumber p.joinedAt.toNat)]
    ++ flagMember "cleanup_pending" p.cleanupPending)

def AuthoritySummary.wireDocument (a : AuthoritySummary) : Document :=
  object [(name "candidate_player_id", textItem a.candidatePlayerId.wireName),
    (name "formula_version", wireText a.formulaVersion),
    (name "score_milli", wireNumber a.scoreMilli.toNat)]

def LobbyTtl.wireDocument (ttl : LobbyTtl) : Document :=
  object [(name "idle_expires_at", wireNumber ttl.idleExpiresAt.toNat),
    (name "absolute_expires_at", wireNumber ttl.absoluteExpiresAt.toNat)]

def LobbySnapshot.document (l : LobbySnapshot) : Document :=
  object ([(name "lobby_id", textItem l.lobbyId.wireName),
      (name "display_name", wireText l.displayName),
      (name "state", textItem l.state.wireName),
      (name "state_reason", wireOption wireText l.stateReason),
      (name "roster", array (l.roster.map (·.wireDocument))),
      (name "max_players", wireNumber l.maxPlayers.toNat),
      (name "map_seed", wireOption (fun seed => wireNumber seed.toNat) l.mapSeed),
      (name "authority", wireOption (·.wireDocument) l.authority),
      (name "ttl", l.ttl.wireDocument),
      (name "wire_version", textItem l.wireVersion.wireName),
      (name "provisioning_mode", textItem l.provisioningMode.wireName),
      (name "created_at", wireNumber l.createdAt.toNat)]
    ++ flagMember "cleanup_pending" l.cleanupPending)

def PlannedAction.document (a : PlannedAction) : Document :=
  object [(name "method", wireText a.method), (name "path", wireText a.path),
    (name "description", wireText a.description)]

/-- The members that are flattened into a response. -/
def ResponseMetadata.members (m : ResponseMetadata) : List (List UInt8 × Document) :=
  flagMember "dry_run" m.dryRun
    ++ [(name "planned_actions", array (m.plannedActions.map (·.document)))]

/-- What follows the token. -/
def OpaqueCapability.tail (c : OpaqueCapability) : List (List UInt8 × Document) :=
  [(name "scopes", array (c.scopes.map fun scope => textItem scope.wireName)),
    (name "expires_at", wireNumber c.expiresAt.toNat)]

def OpaqueCapability.document (c : OpaqueCapability) : Document :=
  object ((name "token", textItem c.token) :: c.tail)

/-- What follows the key. -/
def JoinCredential.tail (c : JoinCredential) : List (List UInt8 × Document) :=
  [(name "tailnet", wireText c.tailnet), (name "tags", array (c.tags.map wireText)),
    (name "expires_at", wireNumber c.expiresAt.toNat), (name "one_use", wireBool true)]

def JoinCredential.document (c : JoinCredential) : Document :=
  object ([(name "credential_id", wireText c.credentialId)]
    ++ (name "auth_key", textItem c.authKey) :: c.tail)

/-- What follows the two secrets. -/
def JoinLobbyResponse.tail (r : JoinLobbyResponse) : List (List UInt8 × Document) :=
  [(name "lobby", r.lobby.document),
    (name "session_generation", wireNumber r.sessionGeneration.toNat),
    (name "manifest_public_key", textItem r.manifestPublicKey.wireName)] ++ r.metadata.members

def JoinLobbyResponse.document (r : JoinLobbyResponse) : Document :=
  object ((name "join_credential", r.joinCredential.document)
    :: (name "participant_capability", r.participantCapability.document) :: r.tail)

def CreateLobbyResponse.members (r : CreateLobbyResponse) : List (List UInt8 × Document) :=
  [(name "lobby_id", textItem r.lobbyId.wireName), (name "state", textItem r.state.wireName),
    (name "wire_version", textItem r.wireVersion.wireName),
    (name "created_at", wireNumber r.createdAt.toNat),
    (name "expires_at", wireNumber r.expiresAt.toNat)] ++ r.metadata.members

def CreateLobbyFirstResponse.document (r : CreateLobbyFirstResponse) : Document :=
  object (r.response.members ++ [(name "creator_capability", r.creatorCapability.document)])

def CreateInvitationResponse.document (r : CreateInvitationResponse) : Document :=
  object [(name "invitation", r.invitation.document),
    (name "network_generation", wireNumber r.networkGeneration.toNat)]

/-! ## Free texts -/

def Player.freeTexts (p : Player) : List String := [p.displayName, p.formulaVersion]

def LobbySnapshot.freeTexts (l : LobbySnapshot) : List String :=
  l.displayName :: l.stateReason.toList ++ l.roster.flatMap (·.freeTexts)
    ++ l.authority.toList.map (·.formulaVersion)

def ResponseMetadata.freeTexts (m : ResponseMetadata) : List String :=
  m.plannedActions.flatMap fun action => [action.method, action.path, action.description]

def JoinCredential.freeTexts (c : JoinCredential) : List String :=
  c.credentialId :: c.tailnet :: c.tags

/-- The strings of a join response that come from players, the provider or the operator. -/
def JoinLobbyResponse.freeTexts (r : JoinLobbyResponse) : List String :=
  r.joinCredential.freeTexts ++ r.lobby.freeTexts ++ r.metadata.freeTexts

/-! ## Ordinary strings -/

def AUTH_KEY : List UInt8 := name "auth_key"
def TOKEN : List UInt8 := name "token"

/-- Neither key of a secret is shown. -/
def Ordinary (t : List UInt8) : Prop := ¬Mimics AUTH_KEY t ∧ ¬Mimics TOKEN t

instance (t : List UInt8) : Decidable (Ordinary t) := inferInstanceAs (Decidable (_ ∧ _))

/-- The names of the members and of the values of a fixed set. -/
def wireNames : List (List UInt8) :=
  ["PROVISIONING", "FORMING", "READY", "STARTING", "IN_MATCH", "CLOSING", "FAILED", "EXPIRED",
    "DESTROYED", "lobby_read", "lobby_report", "lobby_invite", "lobby_manage", "lobby_destroy",
    "lobby_join", "lobby_play", "lobby_leave_self", "lobby_create_real", "credential_issued",
    "connecting", "connected", "left", "cleanup_pending", "unknown", "courser", "warhorse", "mustang",
    "shared_tailnet", "dry_run", "tailnet_per_lobby", "direct_count", "peer_relay_count",
    "derp_count", "player_id", "display_name", "join_state", "wire_version", "formula_version",
    "horse_selection", "route_summary", "joined_at", "candidate_player_id", "score_milli",
    "idle_expires_at", "absolute_expires_at", "lobby_id", "state", "state_reason", "roster",
    "max_players", "map_seed", "authority", "ttl", "provisioning_mode", "created_at", "method",
    "path", "description", "planned_actions", "scopes", "expires_at", "tailnet", "tags", "one_use",
    "credential_id", "join_credential", "participant_capability", "lobby", "session_generation",
    "manifest_public_key", "creator_capability", "invitation", "network_generation"].map name

theorem ordinary_of_mem {n : List UInt8} (h : n ∈ wireNames) : Ordinary n := by
  have hall : ∀ n ∈ wireNames, Ordinary n := by decide +kernel
  exact hall n h

/-- A string without quotes is ordinary unless it is one of the keys. -/
theorem ordinary_of_quoteless {t : List UInt8} (hquote : QUOTE ∉ t) (hauth : t ≠ AUTH_KEY)
    (htoken : t ≠ TOKEN) : Ordinary t :=
  ⟨not_mimics hquote hauth, not_mimics hquote htoken⟩

theorem ordinary_of_length {t : List UInt8} (hquote : QUOTE ∉ t) (hlength : 8 < t.length) :
    Ordinary t := by
  refine ordinary_of_quoteless hquote ?_ ?_
  · rintro rfl
    exact absurd hlength (by decide)
  · rintro rfl
    exact absurd hlength (by decide)

theorem quote_not_mem_ascii {t : List Char} (h : ∀ c ∈ t, UInt8.ofNat c.toNat ≠ QUOTE) :
    QUOTE ∉ ascii t := by
  intro hmem
  obtain ⟨c, hc, heq⟩ := List.mem_map.mp hmem
  exact h c hc heq

theorem quote_not_mem_number (n : ℕ) : QUOTE ∉ Json.number n := by
  refine quote_not_mem_ascii fun c hc => ?_
  have hdigit := Nat.isDigit_of_mem_toDigits (by decide) (by decide) hc
  simp only [Char.isDigit, Bool.and_eq_true, decide_eq_true_eq, UInt32.le_iff_toNat_le] at hdigit
  have hlow : 48 ≤ c.toNat := hdigit.1
  have hhigh : c.toNat ≤ 57 := hdigit.2
  intro heq
  have hnat := congrArg UInt8.toNat heq
  rw [UInt8.toNat_ofNat'] at hnat
  have hquote : QUOTE.toNat = 34 := rfl
  omega

theorem ordinary_id {k : IdKind} (id : ProtocolId k) : Ordinary id.wireName := by
  have hdigit : ∀ n, n < 16 → UInt8.ofNat (Nat.digitChar n).toNat ≠ QUOTE := by decide
  have hhex : ∀ count n, ∀ c ∈ hexText count n, UInt8.ofNat c.toNat ≠ QUOTE := by
    intro count n c hc
    obtain ⟨i, -, rfl⟩ := List.mem_map.mp hc
    exact hdigit _ (Nat.mod_lt _ (by decide))
  have hdash : ∀ c ∈ ['-'], UInt8.ofNat c.toNat ≠ QUOTE := by
    intro c hc
    cases List.mem_singleton.mp hc
    decide
  refine ordinary_of_length (quote_not_mem_ascii fun c hc => ?_) ?_
  · unfold ProtocolId.canonicalText at hc
    simp only [List.mem_append] at hc
    rcases hc with (((((((hc | hc) | hc) | hc) | hc) | hc) | hc) | hc) | hc
    all_goals first
      | exact hhex _ _ c hc
      | exact hdash c hc
  · simp [ProtocolId.wireName, ProtocolId.canonicalText]

theorem ordinary_version (v : WireVersion) : Ordinary v.wireName := by
  have hdot : ∀ t : List UInt8, 46 ∉ t → v.wireName ≠ t := by
    rintro t ht rfl
    exact ht (List.mem_append_left _ (List.mem_append_right _ (List.mem_singleton_self _)))
  refine ordinary_of_quoteless ?_ (hdot _ (by decide)) (hdot _ (by decide))
  unfold WireVersion.wireName
  rw [List.mem_append, List.mem_append, not_or, not_or]
  exact ⟨⟨quote_not_mem_number _, by decide⟩, quote_not_mem_number _⟩

theorem length_base64Url (bytes : List UInt8) :
    (base64Url bytes).length = (4 * bytes.length + 2) / 3 := by
  induction bytes using base64Url.induct with
  | case1 a b c rest ih =>
    simp only [base64Url, List.length_append, ih, base64Group, List.length_map, List.length_range,
      List.length_cons]
    omega
  | case2 a b => simp [base64Url, base64Group]
  | case3 a => simp [base64Url, base64Group]
  | case4 => rfl

theorem quote_not_mem_base64Url (bytes : List UInt8) : QUOTE ∉ base64Url bytes := by
  have hgroup : ∀ count bits, QUOTE ∉ base64Group count bits := by
    intro count bits hmem
    obtain ⟨i, -, heq⟩ := List.mem_map.mp hmem
    rw [List.getD_eq_getElem?_getD] at heq
    cases hdigit : base64Digits[bits / 64 ^ (3 - i) % 64]? with
    | none =>
      rw [hdigit] at heq
      exact nomatch heq
    | some b =>
      rw [hdigit] at heq
      have hall : (base64Digits.all fun b => decide (b ≠ QUOTE)) = true := by decide +kernel
      exact of_decide_eq_true (List.all_eq_true.mp hall b (List.mem_of_getElem? hdigit)) heq
  induction bytes using base64Url.induct with
  | case1 a b c rest ih =>
    rw [base64Url, List.mem_append, not_or]
    exact ⟨hgroup _ _, ih⟩
  | case2 a b => exact hgroup _ _
  | case3 a => exact hgroup _ _
  | case4 => exact List.not_mem_nil

theorem ordinary_publicKey (key : SessionPublicKey) : Ordinary key.wireName := by
  refine ordinary_of_length (quote_not_mem_base64Url _) ?_
  unfold SessionPublicKey.wireName
  rw [length_base64Url, Vector.length_toList]
  decide

/-! ## What a document shows -/

section Shows

variable {k : List UInt8}

@[simp] theorem texts_wireText (s : String) : texts (wireText s) = [textBytes s] := rfl

@[simp] theorem texts_wireNumber (n : ℕ) : texts (wireNumber n) = [] := texts_literal _

@[simp] theorem texts_wireBool (b : Bool) : texts (wireBool b) = [] := texts_literal _

@[simp] theorem texts_wireOption {α : Type} (f : α → Document) (o : Option α) :
    texts (wireOption f o) = o.toList.flatMap fun a => texts (f a) := by
  cases o with
  | none => exact texts_literal _
  | some a => exact (List.append_nil _).symm

/-- `k` is a key that no ordinary string shows. -/
def IsSecretKey (k : List UInt8) : Prop := ∀ t, Ordinary t → ¬Mimics k t

theorem isSecretKey_auth : IsSecretKey AUTH_KEY := fun _ h => h.1

theorem isSecretKey_token : IsSecretKey TOKEN := fun _ h => h.2

/-- No name is shown. -/
theorem IsSecretKey.names (hk : IsSecretKey k) : ∀ n ∈ wireNames, ¬Mimics k n :=
  fun n hn => hk n (ordinary_of_mem hn)

theorem IsSecretKey.flag (hk : IsSecretKey k) (key : String) (hkey : name key ∈ wireNames)
    (b : Bool) : ¬Shows k (memberTexts (flagMember key b)) := by
  cases b with
  | false => exact not_shows_nil
  | true => simp [flagMember, hk.names _ hkey]

theorem shows_player (hk : IsSecretKey k) (p : Player) :
    Shows k (texts p.wireDocument) ↔ Shows k (p.freeTexts.map textBytes) := by
  have hnames := hk.names
  simp only [wireNames, List.map_cons, List.forall_mem_cons] at hnames
  have hjoin : ¬Mimics k p.joinState.wireName := by
    cases p.joinState <;> simp [PlayerJoinState.wireName, hnames]
  have hhorse : ∀ horse : HorseSelection, ¬Mimics k horse.wireName := by
    intro horse
    cases horse <;> simp [HorseSelection.wireName, hnames]
  cases hselection : p.horseSelection <;>
    simp [Player.wireDocument, Player.freeTexts, RouteSummary.document, hnames, hjoin, hhorse,
      hselection, hk.flag "cleanup_pending" (by decide), hk _ (ordinary_id p.playerId),
      hk _ (ordinary_version p.wireVersion)]

theorem shows_lobby (hk : IsSecretKey k) (l : LobbySnapshot) :
    Shows k (texts l.document) ↔ Shows k (l.freeTexts.map textBytes) := by
  have hnames := hk.names
  simp only [wireNames, List.map_cons, List.forall_mem_cons] at hnames
  have hstate : ¬Mimics k l.state.wireName := by
    cases l.state <;> simp [LobbyState.wireName, hnames]
  have hmode : ¬Mimics k l.provisioningMode.wireName := by
    cases l.provisioningMode <;> simp [ProvisioningMode.wireName, hnames]
  have hauthority : ∀ a : AuthoritySummary, Shows k (texts a.wireDocument)
      ↔ Mimics k (textBytes a.formulaVersion) := by
    intro a
    simp [AuthoritySummary.wireDocument, hnames, hk _ (ordinary_id a.candidatePlayerId)]
  have hroster : Shows k ((l.roster.flatMap (·.freeTexts)).map textBytes)
      ↔ ∃ p ∈ l.roster, Shows k (p.freeTexts.map textBytes) := by
    rw [List.map_flatMap, shows_flatMap]
  cases hreason : l.stateReason <;> cases hauthor : l.authority <;>
    simp [LobbySnapshot.document, LobbySnapshot.freeTexts, LobbyTtl.wireDocument, hnames, hstate,
      hmode, hauthority, hreason, hauthor, List.flatMap_map, shows_player hk, hroster,
      hk.flag "cleanup_pending" (by decide), hk _ (ordinary_id l.lobbyId),
      hk _ (ordinary_version l.wireVersion)]

theorem shows_metadata (hk : IsSecretKey k) (m : ResponseMetadata) :
    Shows k (memberTexts m.members) ↔ Shows k (m.freeTexts.map textBytes) := by
  have hnames := hk.names
  simp only [wireNames, List.map_cons, List.forall_mem_cons] at hnames
  have haction : ∀ a : PlannedAction, Shows k (texts a.document)
      ↔ Shows k ([a.method, a.path, a.description].map textBytes) := by
    intro a
    simp [PlannedAction.document, hnames]
  have hactions : Shows k (m.freeTexts.map textBytes) ↔ ∃ a ∈ m.plannedActions,
      Shows k ([a.method, a.path, a.description].map textBytes) := by
    rw [ResponseMetadata.freeTexts, List.map_flatMap, shows_flatMap]
  rw [hactions, ResponseMetadata.members]
  simp only [memberTexts_append, shows_append, memberTexts_cons, memberTexts_nil, shows_cons,
    texts_array, List.flatMap_map, shows_flatMap, hnames, haction,
    hk.flag "dry_run" (by decide), List.append_nil, false_or]

theorem not_shows_capabilityTail (hk : IsSecretKey k) (c : OpaqueCapability) :
    ¬Shows k (memberTexts c.tail) := by
  have hnames := hk.names
  simp only [wireNames, List.map_cons, List.forall_mem_cons] at hnames
  have hscope : ∀ scope : LobbyCapabilityScope, ¬Mimics k scope.wireName := by
    intro scope
    cases scope <;> simp [LobbyCapabilityScope.wireName, hnames]
  simp [OpaqueCapability.tail, hnames, List.flatMap_map, hscope]

/-- The strings around the key of a credential. -/
theorem shows_credential (hk : IsSecretKey k) (c : JoinCredential) :
    Shows k (memberTexts [(name "credential_id", wireText c.credentialId)] ++ memberTexts c.tail)
      ↔ Shows k (c.freeTexts.map textBytes) := by
  have hnames := hk.names
  simp only [wireNames, List.map_cons, List.forall_mem_cons] at hnames
  have htags : Shows k (c.tags.map textBytes) ↔ ∃ tag ∈ c.tags, Mimics k (textBytes tag) := by
    simp [Shows]
  simp [JoinCredential.tail, JoinCredential.freeTexts, hnames, List.flatMap_map, htags]

/-- The strings after the secrets of a join. -/
theorem shows_joinTail (hk : IsSecretKey k) (r : JoinLobbyResponse) :
    Shows k (memberTexts r.tail)
      ↔ Shows k ((r.lobby.freeTexts ++ r.metadata.freeTexts).map textBytes) := by
  have hnames := hk.names
  simp only [wireNames, List.map_cons, List.forall_mem_cons] at hnames
  rw [JoinLobbyResponse.tail, memberTexts_append, shows_append, shows_metadata hk, List.map_append,
    shows_append]
  simp [hnames, shows_lobby hk, hk _ (ordinary_publicKey r.manifestPublicKey)]

theorem shows_createMembers (hk : IsSecretKey k) (r : CreateLobbyResponse) :
    Shows k (memberTexts r.members) ↔ Shows k (r.metadata.freeTexts.map textBytes) := by
  have hnames := hk.names
  simp only [wireNames, List.map_cons, List.forall_mem_cons] at hnames
  have hstate : ¬Mimics k r.state.wireName := by
    cases r.state <;> simp [LobbyState.wireName, hnames]
  rw [CreateLobbyResponse.members, memberTexts_append, shows_append, shows_metadata hk]
  simp [hnames, hstate, hk _ (ordinary_id r.lobbyId), hk _ (ordinary_version r.wireVersion)]

end Shows

/-! ## Tidiness -/

section Tidy

@[simp] theorem tidy_wireText (s : String) : Tidy (wireText s) := tidy_textItem _

@[simp] theorem tidy_wireNumber (n : ℕ) : Tidy (wireNumber n) :=
  tidy_literal (quote_not_mem_number n)

@[simp] theorem tidy_wireBool (b : Bool) : Tidy (wireBool b) := by
  cases b <;> exact tidy_literal (by decide)

theorem tidy_wireOption {α : Type} {f : α → Document} (h : ∀ a, Tidy (f a)) (o : Option α) :
    Tidy (wireOption f o) := by
  cases o with
  | none => exact tidy_literal (by decide)
  | some a => exact h a

theorem tidy_array_map {α : Type} {f : α → Document} (h : ∀ a, Tidy (f a)) (as : List α) :
    Tidy (array (as.map f)) := by
  refine tidy_array fun d hd => ?_
  obtain ⟨a, -, rfl⟩ := List.mem_map.mp hd
  exact h a

@[simp] theorem tidyMembers_flagMember (key : String) (b : Bool) :
    TidyMembers (flagMember key b) := by
  cases b <;> simp [flagMember]

theorem tidy_player (p : Player) : Tidy p.wireDocument := by
  have hroute : Tidy p.routeSummary.document := tidy_object (by simp)
  cases hselection : p.horseSelection <;>
    exact tidy_object (by simp [hroute, hselection])

theorem tidy_lobby (l : LobbySnapshot) : Tidy l.document := by
  have hauthority : ∀ a : AuthoritySummary, Tidy a.wireDocument := fun a => tidy_object (by simp)
  have httl : Tidy l.ttl.wireDocument := tidy_object (by simp)
  exact tidy_object (by
    simp [tidy_array_map tidy_player, tidy_wireOption hauthority, tidy_wireOption tidy_wireText,
      tidy_wireOption fun seed : UInt64 => tidy_wireNumber seed.toNat, httl])

theorem tidyMembers_metadata (m : ResponseMetadata) : TidyMembers m.members := by
  have haction : ∀ a : PlannedAction, Tidy a.document := fun a => tidy_object (by simp)
  simp [ResponseMetadata.members, tidy_array_map haction]

theorem tidyMembers_capabilityTail (c : OpaqueCapability) : TidyMembers c.tail := by
  have hscopes := tidy_array_map (fun scope : LobbyCapabilityScope => tidy_textItem scope.wireName)
    c.scopes
  simp [OpaqueCapability.tail, hscopes]

theorem tidy_capability (c : OpaqueCapability) : Tidy c.document :=
  tidy_object (by simp [tidyMembers_capabilityTail])

theorem tidy_credential (c : JoinCredential) : Tidy c.document :=
  tidy_object (by simp [JoinCredential.tail, tidy_array_map tidy_wireText])

theorem tidy_join (r : JoinLobbyResponse) : Tidy r.document :=
  tidy_object (by simp [JoinLobbyResponse.tail, tidy_credential, tidy_capability, tidy_lobby,
    tidyMembers_metadata])

theorem tidy_create (r : CreateLobbyFirstResponse) : Tidy r.document :=
  tidy_object (by simp [CreateLobbyResponse.members, tidy_capability, tidyMembers_metadata])

theorem tidy_invitation (r : CreateInvitationResponse) : Tidy r.document :=
  tidy_object (by simp [tidy_capability])

end Tidy

end Spurfire
