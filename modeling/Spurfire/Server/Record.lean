import Spurfire.Lib.TreeMap
import Spurfire.Protocol.Lobby

/-!
# The durable lobby record

What the service keeps about one lobby (`store.rs`): the public snapshot, the lifecycle of its
backing network with the evidence of its cleanup, and the join, start and result ledgers.

* `StoredCapabilityVerifier` are the hash-only capabilities, `consumeInvitation` spends one;
* `hasReleaseProof` is the evidence under which the record gives up the real-lobby lease;
* `applyTimeTransitions` drives the deadlines, `purgeRecord` drops what has aged out.

The authenticated-reporter set is left out: only the network view reads it.
-/

namespace Spurfire

def IDEMPOTENCY_RETENTION_MS : UInt64 := 86400000
def TERMINAL_DEBUG_RETENTION_MS : UInt64 := 900000
def START_TIMEOUT_MS : UInt64 := 120000

abbrev Digest := Vector UInt8 32

/-! ## Parts of a record -/

structure JoinCredentialReceipt where
  credentialId : String
  expiresAt : UnixMillis
  oneUse : Bool
deriving DecidableEq

structure StoredCredential where
  credentialId : String
  expiresAt : UnixMillis
  revoked : Bool
  cleanupPending : Bool
  dryRun : Bool
deriving DecidableEq

def StoredCredential.receipt (c : StoredCredential) : JoinCredentialReceipt :=
  ⟨c.credentialId, c.expiresAt, true⟩

structure StoredJoinReplay where
  fingerprint : List UInt8
  playerId : PlayerId
  receipt : JoinCredentialReceipt
  createdAt : UnixMillis
deriving DecidableEq

structure StoredMutationReplay where
  fingerprint : List UInt8
  actor : PlayerId
  createdAt : UnixMillis
deriving DecidableEq

/-- Written before a key-mint request leaves the process. -/
structure StoredIssuanceReservation where
  fingerprint : List UInt8
  idempotencyKey : String
  createdAt : UnixMillis
  expiresAt : UnixMillis
deriving DecidableEq

structure StoredJoinAttempt where
  playerId : PlayerId
  attemptedAt : UnixMillis
deriving DecidableEq

structure StoredNetworkIdentity where
  providerTailnetId : Option String
  tailnetDnsName : TailnetDnsName
  networkGeneration : UInt64
  capturedAt : UnixMillis
deriving DecidableEq

structure StoredAcceptedHeartbeat where
  playerId : PlayerId
  epoch : UInt64
  inputHash : Vector UInt8 32
  receivedAt : UnixMillis
deriving DecidableEq

inductive LobbyCapabilityScope
  | lobbyRead
  | lobbyReport
  | lobbyInvite
  | lobbyManage
  | lobbyDestroy
  | lobbyJoin
  | lobbyPlay
  | lobbyLeaveSelf
  | lobbyCreateReal
deriving DecidableEq

structure StoredCapabilityVerifier where
  verifier : Digest
  scopes : List LobbyCapabilityScope
  lobbyId : LobbyId
  playerId : Option PlayerId
  networkGeneration : UInt64
  expiresAt : UnixMillis
  revoked : Bool
  consumedAt : Option UnixMillis
deriving DecidableEq

namespace StoredCapabilityVerifier

def new (verifier : Digest) (scopes : List LobbyCapabilityScope) (lobbyId : LobbyId)
    (playerId : Option PlayerId) (networkGeneration : UInt64) (expiresAt : UnixMillis) :
    StoredCapabilityVerifier :=
  ⟨verifier, scopes, lobbyId, playerId, networkGeneration, expiresAt, false, none⟩

def authorizes (c : StoredCapabilityVerifier) (candidate : Digest) (lobbyId : LobbyId)
    (generation : UInt64) (required : LobbyCapabilityScope) (expectedPlayer : Option PlayerId)
    (now : UnixMillis) : Bool :=
  !c.revoked && c.consumedAt.isNone && c.scopes.contains required && c.lobbyId == lobbyId
    && c.networkGeneration == generation && expectedPlayer.all (fun p => c.playerId == some p)
    && now < c.expiresAt && c.verifier == candidate

end StoredCapabilityVerifier

/-! ## The record -/

structure StoredLobby where
  lobby : Lobby
  creatorPlayerId : PlayerId
  tailnet : String
  tag : String
  dryRun : Bool
  networkGeneration : UInt64
  rosterRevision : UInt64
  sessionGeneration : UInt64
  networkLifecycle : NetworkLifecycle
  networkIdentity : Option StoredNetworkIdentity
  childPolicyDigest : Option String
  childPolicyStatus : Option String
  cleanupRequestedAt : Option UnixMillis
  deleteAcknowledgedAt : Option UnixMillis
  childSecretErasedAt : Option UnixMillis
  firstAbsenceObservedAt : Option UnixMillis
  absenceConfirmedAt : Option UnixMillis
  absenceObservationGeneration : Option UInt64
  absenceObservationProviderId : Option String
  absenceMonotonicVerified : Bool
  capabilities : List StoredCapabilityVerifier
  idleTtlMs : UInt64
  measurements : Std.ExtTreeMap PlayerId ConnectivitySample
  credentials : Std.ExtTreeMap PlayerId StoredCredential
  joinReplays : Std.ExtTreeMap String StoredJoinReplay
  startReplays : Std.ExtTreeMap String StoredMutationReplay
  resultsReplays : Std.ExtTreeMap String StoredMutationReplay
  pendingIssuances : Std.ExtTreeMap PlayerId StoredIssuanceReservation
  joinAttempts : List StoredJoinAttempt
  cleanupPending : Bool
  lastElection : Option AuthorityElection
  matchStartElection : Option AuthorityElection
  authorityEpoch : UInt64
  startedAt : Option UnixMillis
  lastAuthorityHeartbeatAt : Option UnixMillis
  lastAcceptedHeartbeat : Option StoredAcceptedHeartbeat
  terminalAt : Option UnixMillis

namespace StoredLobby

def new (lobby : Lobby) (creatorPlayerId : PlayerId) (tailnet tag : String) (dryRun : Bool)
    (idleTtlMs : UInt64) : StoredLobby where
  lobby := lobby
  creatorPlayerId := creatorPlayerId
  tailnet := tailnet
  tag := tag
  dryRun := dryRun
  networkGeneration := 1
  rosterRevision := 1
  sessionGeneration := 0
  networkLifecycle := if dryRun then .simulated else .reserved
  networkIdentity := none
  childPolicyDigest := none
  childPolicyStatus := none
  cleanupRequestedAt := none
  deleteAcknowledgedAt := none
  childSecretErasedAt := none
  firstAbsenceObservedAt := none
  absenceConfirmedAt := none
  absenceObservationGeneration := none
  absenceObservationProviderId := none
  absenceMonotonicVerified := false
  capabilities := []
  idleTtlMs := idleTtlMs
  measurements := ∅
  credentials := ∅
  joinReplays := ∅
  startReplays := ∅
  resultsReplays := ∅
  pendingIssuances := ∅
  joinAttempts := []
  cleanupPending := false
  lastElection := none
  matchStartElection := none
  authorityEpoch := 0
  startedAt := none
  lastAuthorityHeartbeatAt := none
  lastAcceptedHeartbeat := none
  terminalAt := none

/-! ### Capabilities -/

def addCapability (stored : StoredLobby) (capability : StoredCapabilityVerifier) : StoredLobby :=
  { stored with capabilities := stored.capabilities ++ [capability] }

/-- The player of the first capability that authorizes, when there is one. -/
def authorize (stored : StoredLobby) (verifier : Digest) (required : LobbyCapabilityScope)
    (expectedPlayer : Option PlayerId) (now : UnixMillis) : Option (Option PlayerId) :=
  (stored.capabilities.find? fun capability =>
    capability.authorizes verifier stored.lobby.lobbyId stored.networkGeneration required
      expectedPlayer now).map (·.playerId)

def activeInvitationCount (stored : StoredLobby) (now : UnixMillis) : ℕ :=
  (stored.capabilities.filter fun capability =>
    capability.scopes.contains .lobbyJoin && !capability.revoked && capability.consumedAt.isNone
      && now < capability.expiresAt).length

def matchesInvitation (stored : StoredLobby) (verifier : Digest) (now : UnixMillis) : Bool :=
  stored.capabilities.any fun capability =>
    capability.scopes.contains .lobbyJoin && !capability.revoked && now < capability.expiresAt
      && capability.verifier == verifier

/-- Spends the first invitation that authorizes a join; `none` when there is none. -/
def consumeInvitation (stored : StoredLobby) (verifier : Digest) (now : UnixMillis) :
    Option StoredLobby :=
  let authorizes := fun capability : StoredCapabilityVerifier =>
    capability.authorizes verifier stored.lobby.lobbyId stored.networkGeneration .lobbyJoin none now
  (stored.capabilities.findIdx? authorizes).map fun i =>
    { stored with
      capabilities := stored.capabilities.modify i fun c => { c with consumedAt := some now } }

def revokePlayerCapabilities (stored : StoredLobby) (player : PlayerId) : StoredLobby :=
  { stored with
    capabilities := stored.capabilities.map fun c =>
      if c.playerId = some player then { c with revoked := true } else c }

/-! ### Release of the real-lobby lease -/

/-- `valid_provider_tailnet_id`: 1 to 128 bytes of ASCII letters, digits, `-` and `_`. -/
def validProviderTailnetId (id : String) : Bool :=
  !id.isEmpty && id.utf8ByteSize ≤ 128
    && id.toList.all fun c => c.isAlphanum || c == '-' || c == '_'

/-- The stored identity belongs to the record's generation and names its tailnet. -/
def identityMatches (stored : StoredLobby) (identity : StoredNetworkIdentity) : Bool :=
  identity.networkGeneration == stored.networkGeneration
    && identity.tailnetDnsName.asStr == stored.tailnet

def hasReleaseProof (stored : StoredLobby) : Bool :=
  match stored.networkLifecycle with
  | .createRejected => stored.networkIdentity.isNone
  | .dedicatedAbsent =>
    stored.networkIdentity.any (fun identity =>
        stored.identityMatches identity && identity.providerTailnetId.any validProviderTailnetId)
      && stored.cleanupRequestedAt.isSome && stored.deleteAcknowledgedAt.isSome
      && stored.childSecretErasedAt.isSome && stored.absenceMonotonicVerified
      && stored.absenceObservationGeneration == some stored.networkGeneration
      && stored.absenceObservationProviderId == stored.networkIdentity.bind (·.providerTailnetId)
      && stored.firstAbsenceObservedAt.isSome && stored.absenceConfirmedAt.isSome
      && !stored.cleanupPending
  | .sharedResourcesClean =>
    stored.lobby.provisioningMode == .sharedTailnet
      && stored.networkIdentity.any (fun identity =>
        stored.identityMatches identity && identity.providerTailnetId.isNone)
      && stored.cleanupRequestedAt.isSome && !stored.cleanupPending
  | _ => false

end StoredLobby

def leaseReleaseLifecycle : NetworkLifecycle → Bool
  | .createRejected | .dedicatedAbsent | .sharedResourcesClean => true
  | _ => false

namespace StoredLobby

/-- The record asks for its lease to be released, and has the proof. -/
def releases (stored : StoredLobby) : Bool :=
  leaseReleaseLifecycle stored.networkLifecycle && stored.hasReleaseProof

/-! ### Time -/

/-- `now` is at least `duration` after `earlier`; a clock that is behind `earlier` says no. -/
def ageAtLeast (now earlier : UnixMillis) (duration : UInt64) : Bool :=
  (now.checkedSub earlier).any (duration ≤ ·)

theorem ageAtLeast_iff {now earlier : UnixMillis} {duration : UInt64} :
    ageAtLeast now earlier duration = true ↔ earlier.toNat + duration.toNat ≤ now.toNat := by
  unfold ageAtLeast UInt64.checkedSub
  split_ifs with h
  · rw [Option.any_some, decide_eq_true_iff, UInt64.le_iff_toNat_le, UInt64.toNat_sub_of_le _ _ h]
    have := UInt64.le_iff_toNat_le.mp h
    omega
  · rw [UInt64.le_iff_toNat_le] at h
    refine iff_of_false nofun ?_
    omega

/-- What is too young at a later time is too young now. -/
theorem ageAtLeast_mono {now later earlier : UnixMillis} {duration : UInt64} (h : now ≤ later)
    (hage : ageAtLeast later earlier duration = false) :
    ageAtLeast now earlier duration = false := by
  rw [← Bool.not_eq_true, ageAtLeast_iff] at hage ⊢
  rw [UInt64.le_iff_toNat_le] at h
  omega

/-- The deadline that has passed, and where it leads. -/
def timeTarget (record : StoredLobby) (now : UnixMillis) : Option (LobbyState × Option String) :=
  let absoluteDue : Bool := record.lobby.ttl.absoluteExpiresAt ≤ now
  let idleDue : Bool := record.lobby.ttl.idleExpiresAt ≤ now
  let startDue := record.startedAt.any fun started => ageAtLeast now started START_TIMEOUT_MS
  match record.lobby.state with
  | .provisioning => if absoluteDue then some (.failed, some "absolute_ttl_expired") else none
  | .forming | .ready => if absoluteDue || idleDue then some (.expired, none) else none
  | .starting =>
    if absoluteDue then some (.failed, some "absolute_ttl_expired")
    else if startDue then some (.failed, some "start_timeout")
    else none
  | .inMatch => if absoluteDue then some (.failed, some "absolute_ttl_expired") else none
  | _ => none

/-- The record after its deadlines, and whether one of them moved it. -/
def applyTimeTransitions (record : StoredLobby) (now : UnixMillis) : StoredLobby × Bool :=
  match record.timeTarget now with
  | none => (record, false)
  | some (next, reason) =>
    match record.lobby.state.validateTransition next with
    | .error _ => (record, false)
    | .ok () =>
      ({ record with
        lobby := { record.lobby with state := next, stateReason := reason, authority := none }
        lastElection := none
        terminalAt := some now
        cleanupPending := true }, true)

/-- Drops the replay rows, reservations and join attempts that have aged out. -/
def purgeRecord (record : StoredLobby) (now : UnixMillis) : StoredLobby :=
  { record with
    joinReplays := record.joinReplays.filter fun _ replay =>
      !ageAtLeast now replay.createdAt IDEMPOTENCY_RETENTION_MS
    startReplays := record.startReplays.filter fun _ replay =>
      !ageAtLeast now replay.createdAt IDEMPOTENCY_RETENTION_MS
    resultsReplays := record.resultsReplays.filter fun _ replay =>
      !ageAtLeast now replay.createdAt IDEMPOTENCY_RETENTION_MS
    pendingIssuances := record.pendingIssuances.filter fun _ reservation =>
      now < reservation.expiresAt
    joinAttempts := record.joinAttempts.dropWhile fun attempt =>
      ageAtLeast now attempt.attemptedAt 60000 }

/-- A terminal record that has been kept for its full retention. -/
def retentionOver (record : StoredLobby) (now : UnixMillis) : Bool :=
  record.terminalAt.any fun terminalAt =>
    match record.lobby.state with
    | .failed | .expired => ageAtLeast now terminalAt TERMINAL_DEBUG_RETENTION_MS
    | .destroyed => ageAtLeast now terminalAt IDEMPOTENCY_RETENTION_MS
    | _ => false

end StoredLobby

end Spurfire
