import Spurfire.Server.Provider

/-!
# Changes of a lobby record

What the handlers, the reaper and the cleanup do to the record they hold (`service.rs`), as pure
functions of it:

* elections: `recomputeAuthority` and `applyElection` over the candidates of the roster;
* membership: `mintFailed`, `enrolled`, `left` and `measured`;
* the match: `started`, `heartbeatAccepted`, and the guards of a successor claim;
* cleanup: `applyCleanupResult`, `finalizeLobbyCleanup` and the steps of the absence proof;
* `Kept` and `Undisturbed` are what the updates leave alone.

`transition` cannot fail in any of them: each tests the state it leaves.
-/

namespace Spurfire

def JOIN_RATE_WINDOW_MS : UInt64 := 60000
def MAX_JOIN_ATTEMPTS_PER_LOBBY : ℕ := 32
def MAX_JOIN_ATTEMPTS_PER_PLAYER : ℕ := 4
def AUTHORITY_SILENCE_MS : UInt64 := 2000

namespace LobbyState

def isTerminal : LobbyState → Bool
  | failed | expired | destroyed => true
  | _ => false

/-- `CLOSING` or terminal. -/
def isClosed : LobbyState → Bool
  | closing | failed | expired | destroyed => true
  | _ => false

theorem isClosed_of_isTerminal {state : LobbyState} (h : state.isTerminal = true) :
    state.isClosed = true := by
  cases state with
  | failed => rfl
  | expired => rfl
  | destroyed => rfl
  | _ => exact nomatch h

theorem destroyed_of_closed {state next : LobbyState} (h : state.isClosed = true)
    (hlegal : state.canTransitionTo next = true) : next = destroyed := by
  cases state with
  | closing => simpa [canTransitionTo, legalSuccessors] using hlegal
  | failed => simpa [canTransitionTo, legalSuccessors] using hlegal
  | expired => simpa [canTransitionTo, legalSuccessors] using hlegal
  | destroyed => exact nomatch hlegal
  | _ => exact nomatch h

end LobbyState

structure JoinLobbyRequest where
  playerId : PlayerId
  displayName : String
  clientWireVersion : WireVersion
  authorityFormulaVersion : String
  horseSelection : Option HorseSelection
deriving DecidableEq

structure AuthorityHeartbeatRequest where
  playerId : PlayerId
  inputHash : Vector UInt8 32
  /-- Zero is the legacy form for the already elected epoch. -/
  authorityEpoch : UInt64
  survivors : List PlayerId
deriving DecidableEq

namespace StoredLobby

def hasPlayer (stored : StoredLobby) (player : PlayerId) : Bool :=
  stored.lobby.roster.any fun p => p.playerId == player

def withState (stored : StoredLobby) (state : LobbyState) : StoredLobby :=
  { stored with lobby := { stored.lobby with state := state } }

/-- A roster or measurement change takes a `READY` lobby back to `FORMING`. -/
def unready (stored : StoredLobby) : StoredLobby :=
  if stored.lobby.state = .ready then stored.withState .forming else stored

def forgetAuthority (stored : StoredLobby) : StoredLobby :=
  { stored with lobby := { stored.lobby with authority := none }, lastElection := none }

def explained (stored : StoredLobby) (reason : String) : StoredLobby :=
  { stored with lobby := { stored.lobby with stateReason := some reason } }

/-- The exact provider identity of the record's own generation. -/
def providerIdentity (stored : StoredLobby) : Option ProviderNetworkIdentity :=
  stored.networkIdentity.bind fun identity =>
    if stored.networkGeneration = 0 ∨ stored.identityMatches identity = false then none
    else
      let identity : ProviderNetworkIdentity :=
        ⟨identity.providerTailnetId, identity.tailnetDnsName⟩
      match identity.validateForMode stored.lobby.provisioningMode with
      | .ok () => some identity
      | .error _ => none

/-! ## Elections -/

def authorityCandidates (stored : StoredLobby) : List AuthorityCandidate :=
  stored.lobby.roster.filterMap fun player =>
    (stored.measurements[player.playerId]?).map fun measurement =>
      ⟨player.playerId, player.wireVersion, player.joinedAt, measurement⟩

def allMeasurementsFresh (stored : StoredLobby) (now : UnixMillis) : Bool :=
  PROTOTYPE_MIN_PLAYERS.toNat ≤ stored.lobby.roster.length
    && stored.lobby.roster.all fun player =>
      ((stored.measurements[player.playerId]?).bind fun sample =>
        now.checkedSub sample.measuredAt).any (· < MEASUREMENT_FRESHNESS_MS)

/-- The epoch an installed election gets: the next one where winner or input change. -/
def electedEpoch (stored : StoredLobby) (election : AuthorityElection) : UInt64 :=
  let electionChanged := stored.lastElection.all fun previous =>
    previous.winnerPlayerId != election.winnerPlayerId || previous.inputHash != election.inputHash
  if electionChanged then max (stored.authorityEpoch.satAdd 1) 1 else stored.authorityEpoch

def applyElection (stored : StoredLobby) (election : AuthorityElection) (now : UnixMillis) :
    StoredLobby :=
  let scoreMilli := (election.eligible.find? (·.playerId == election.winnerPlayerId)).elim 0
    (·.scoreMilli)
  let elected : StoredLobby := { stored with
    authorityEpoch := stored.electedEpoch election
    lobby := { stored.lobby with
      authority := some ⟨election.winnerPlayerId, election.formulaVersion, scoreMilli⟩ }
    lastElection := some election }
  if elected.lobby.state = .forming ∧ elected.allMeasurementsFresh now = true then
    elected.withState .ready
  else elected

def recomputeAuthority (stored : StoredLobby) (now : UnixMillis) :
    Except AuthorityElectionError StoredLobby :=
  if stored.allMeasurementsFresh now = false then .ok stored.forgetAuthority
  else
    match electAuthority stored.authorityCandidates now with
    | .error error => .error error
    | .ok election => .ok (stored.applyElection election now)

/-- Stale measurements take a `READY` lobby back to `FORMING`. -/
def refreshFreshnessState (stored : StoredLobby) (now : UnixMillis) : StoredLobby × Bool :=
  if stored.lobby.state = .ready ∧ stored.allMeasurementsFresh now = false then
    ((stored.withState .forming).forgetAuthority, true)
  else (stored, false)

/-! ## Maintenance -/

def requiresProviderAccess (stored : StoredLobby) : Bool :=
  stored.cleanupPending || !stored.lobby.state.isTerminal

def accessDenied (stored : StoredLobby) (error : ProviderError) (now : UnixMillis) : StoredLobby :=
  let state := if !stored.lobby.state.isTerminal && stored.lobby.state.canTransitionTo .failed then
    .failed else stored.lobby.state
  { stored with
    lobby := { stored.lobby with
      state := state, stateReason := some error.stateReason, authority := none }
    networkLifecycle := .manualRemediation
    lastElection := none
    cleanupPending := true
    terminalAt := some (stored.terminalAt.getD now) }

def refreshIdleExpiry (stored : StoredLobby) (now : UnixMillis) : StoredLobby :=
  { stored with
    lobby := { stored.lobby with
      ttl := { stored.lobby.ttl with
        idleExpiresAt := min (now.satAdd stored.idleTtlMs) stored.lobby.ttl.absoluteExpiresAt } } }

/-! ## Membership -/

def rosterChanged (stored : StoredLobby) : StoredLobby :=
  { stored.unready.forgetAuthority with
    rosterRevision := stored.rosterRevision.satAdd 1
    measurements := ∅ }

/-- The join attempts after one more, where the rate limits allow it. -/
def enforceJoinRateLimit (stored : StoredLobby) (player : PlayerId) (now : UnixMillis) :
    Option StoredLobby :=
  let attempts := stored.joinAttempts.dropWhile fun attempt =>
    ageAtLeast now attempt.attemptedAt JOIN_RATE_WINDOW_MS
  let playerAttempts := (attempts.filter (·.playerId == player)).length
  if MAX_JOIN_ATTEMPTS_PER_LOBBY ≤ attempts.length
      ∨ MAX_JOIN_ATTEMPTS_PER_PLAYER ≤ playerAttempts then none
  else some { stored with joinAttempts := attempts ++ [⟨player, now⟩] }

def recordJoinReplay (stored : StoredLobby) (key : String) (replay : StoredJoinReplay) :
    StoredLobby :=
  { stored with joinReplays := stored.joinReplays.insert key replay }

def reserveIssuance (stored : StoredLobby) (player : PlayerId)
    (reservation : StoredIssuanceReservation) : StoredLobby :=
  { stored with pendingIssuances := stored.pendingIssuances.insert player reservation }

def remediated (stored : StoredLobby) : StoredLobby :=
  { stored with networkLifecycle := .manualRemediation }

def withoutReservation (stored : StoredLobby) (player : PlayerId) : StoredLobby :=
  { stored with pendingIssuances := stored.pendingIssuances.erase player }

def failedByMint (stored : StoredLobby) (error : ProviderError) : StoredLobby :=
  (if stored.lobby.state = .forming ∨ stored.lobby.state = .ready then stored.withState .failed
    else stored).explained error.stateReason

/-- The evidence of a refused child policy. -/
def gateRecorded (stored : StoredLobby) (error : ProviderError) (now : UnixMillis) : StoredLobby :=
  match error with
  | .childPolicyGate _ expectedDigest status deleteAcknowledged =>
    let stored : StoredLobby := { stored with
      childPolicyDigest := some expectedDigest
      childPolicyStatus := some status.asStr
      cleanupRequestedAt := some now }
    if deleteAcknowledged then
      { stored with deleteAcknowledgedAt := some now, networkLifecycle := .verifyingAbsence }
    else stored
  | _ => stored

/-- The network of a lobby that failed at a mint is owed a cleanup. -/
def cleanupOwed (stored : StoredLobby) (error : ProviderError) (dryRun : Bool) : StoredLobby :=
  let stored : StoredLobby := if error.losesIdentity then stored.remediated else stored
  let stored : StoredLobby := { stored with
    cleanupPending := !dryRun || !stored.credentials.isEmpty || error.losesIdentity }
  if stored.cleanupPending = true ∧ stored.networkLifecycle ≠ .manualRemediation
      ∧ stored.networkLifecycle ≠ .verifyingAbsence then
    { stored with networkLifecycle := .cleanupPending }
  else stored

/-- The mint failed.  Only an ambiguous failure keeps the reservation. -/
def mintFailed (stored : StoredLobby) (player : PlayerId) (error : ProviderError)
    (now : UnixMillis) (dryRun : Bool) : StoredLobby :=
  let stored := if error.isUnavailable then stored else stored.withoutReservation player
  let stored := (stored.failedByMint error).gateRecorded error now
  let stored : StoredLobby := { stored.forgetAuthority with terminalAt := some now }
  stored.cleanupOwed error dryRun

/-- The player takes its place, or takes it again with a new key. -/
def seated (stored : StoredLobby) (request : JoinLobbyRequest) (now : UnixMillis) : StoredLobby :=
  if !stored.hasPlayer request.playerId then
    let stored : StoredLobby := stored.rosterChanged
    let player : Player := {
      playerId := request.playerId
      displayName := request.displayName
      joinState := .credentialIssued
      wireVersion := request.clientWireVersion
      formulaVersion := request.authorityFormulaVersion
      horseSelection := request.horseSelection
      routeSummary := ⟨0, 0, 0⟩
      joinedAt := now
      cleanupPending := false }
    { stored with
      lobby := { stored.lobby with
        roster := (stored.lobby.roster ++ [player]).insertionSort fun a b =>
          a.playerId ≤ b.playerId } }
  else
    let stored : StoredLobby := stored.unready.forgetAuthority
    { stored with
      lobby := { stored.lobby with
        roster := stored.lobby.roster.map fun player =>
          if player.playerId = request.playerId then
            { player with joinState := .credentialIssued } else player }
      measurements := stored.measurements.erase request.playerId }

def enrolled (stored : StoredLobby) (request : JoinLobbyRequest) (minted : MintedCredential)
    (key : String) (fingerprint : List UInt8) (verifier : Digest) (expiresAt now : UnixMillis) :
    StoredLobby :=
  let stored := (stored.withoutReservation request.playerId).seated request now
  let stored := stored.refreshIdleExpiry now
  let stored := stored.addCapability (.new verifier
    [.lobbyRead, .lobbyReport, .lobbyPlay, .lobbyLeaveSelf] stored.lobby.lobbyId
    (some request.playerId) stored.networkGeneration stored.lobby.ttl.absoluteExpiresAt)
  { stored with
    credentials := stored.credentials.insert request.playerId
      ⟨minted.credentialId, expiresAt, false, false, minted.dryRun⟩
    joinReplays := stored.joinReplays.insert key
      ⟨fingerprint, request.playerId, ⟨minted.credentialId, expiresAt, true⟩, now⟩ }

/-- A credential that is neither revoked nor expired. -/
def liveCredential (now : UnixMillis) (credential : StoredCredential) : Bool :=
  !credential.revoked && now < credential.expiresAt

/-- The credential of the player may still be used. -/
def credentialPending (stored : StoredLobby) (player : PlayerId) (now : UnixMillis) : Bool :=
  (stored.credentials[player]?).any (liveCredential now)

/-- The player leaves the roster, with its reservation, its capabilities and its replay rows. -/
def departed (stored : StoredLobby) (player : PlayerId) : StoredLobby :=
  let stored : StoredLobby := { stored with
    lobby := { stored.lobby with
      roster := stored.lobby.roster.filter fun p => p.playerId != player }
    rosterRevision := stored.rosterRevision.satAdd 1
    measurements := ∅
    pendingIssuances := stored.pendingIssuances.erase player }
  let stored : StoredLobby := stored.revokePlayerCapabilities player
  { stored with
    joinReplays := stored.joinReplays.filter fun _ replay => replay.playerId != player }

def left (stored : StoredLobby) (player : PlayerId) (now : UnixMillis) (dryRun : Bool) :
    StoredLobby :=
  let stored := (stored.departed player).forgetAuthority.unready.refreshIdleExpiry now
  { stored with
    cleanupPending := stored.cleanupPending || stored.credentialPending player now || !dryRun }

/-- A measurement of a roster member, before the election it may cause. -/
def measured (stored : StoredLobby) (player : PlayerId) (sample : ConnectivitySample)
    (now : UnixMillis) : StoredLobby :=
  let stored : StoredLobby := stored.unready
  let stored : StoredLobby := { stored with
    lobby := { stored.lobby with
      roster := stored.lobby.roster.map fun p => if p.playerId = player then
        { p with routeSummary := sample.routeSummary, joinState := .connected } else p }
    measurements := stored.measurements.insert player sample }
  stored.refreshIdleExpiry now

/-! ## The match -/

def recordStartReplay (stored : StoredLobby) (key : String) (replay : StoredMutationReplay) :
    StoredLobby :=
  { stored with startReplays := stored.startReplays.insert key replay }

def started (stored : StoredLobby) (key : String) (replay : StoredMutationReplay)
    (mapSeed : UInt64) (now : UnixMillis) : StoredLobby :=
  let stored : StoredLobby := { stored with
    matchStartElection := stored.lastElection
    lobby := { stored.lobby with mapSeed := some mapSeed, state := .starting }
    sessionGeneration := max (stored.sessionGeneration.satAdd 1) 1
    startedAt := some now
    lastAuthorityHeartbeatAt := none }
  stored.recordStartReplay key replay

def requestedEpoch (stored : StoredLobby) (request : AuthorityHeartbeatRequest) : UInt64 :=
  if request.authorityEpoch = 0 then stored.authorityEpoch else request.authorityEpoch

/-- The heartbeat comes from the installed authority. -/
def currentClaim (current : AuthorityElection) (actor : PlayerId)
    (request : AuthorityHeartbeatRequest) : Bool :=
  current.winnerPlayerId == actor && current.inputHash == request.inputHash

/-- The last accepted heartbeat, else the start, is at least two seconds old. -/
def authoritySilent (stored : StoredLobby) (now : UnixMillis) : Bool :=
  (stored.lastAuthorityHeartbeatAt <|> stored.startedAt).any fun heartbeat =>
    ageAtLeast now heartbeat AUTHORITY_SILENCE_MS

/-- Silence, epoch and survivor validation of a successor claim. -/
def acceptsSuccessor (stored : StoredLobby) (current : AuthorityElection) (actor : PlayerId)
    (request : AuthorityHeartbeatRequest) (now : UnixMillis) : Bool :=
  stored.lobby.state == .inMatch && stored.authoritySilent now
    && stored.authorityEpoch.checkedAdd 1 == some (stored.requestedEpoch request)
    && current.inputHash == request.inputHash
    && decide (request.survivors.Pairwise (· < ·)) && !request.survivors.isEmpty
    && request.survivors.all stored.hasPlayer && request.survivors.contains actor
    && !request.survivors.contains current.winnerPlayerId

def survivorCandidates (locked : AuthorityElection) (survivors : List PlayerId) :
    List AuthorityCandidate :=
  locked.input.candidates.filter fun candidate => survivors.contains candidate.playerId

/-- The election of the survivors over the matrix locked at match start. -/
def survivorElection (locked : AuthorityElection) (survivors : List PlayerId) :
    Except AuthorityElectionError AuthorityElection :=
  electAuthorityForRoster (survivorCandidates locked survivors) locked.input.electionAt
    locked.input.expectedWireVersion locked.input.rosterSize.toNat

def heartbeatAccepted (stored : StoredLobby) (actor : PlayerId) (election : AuthorityElection)
    (now : UnixMillis) : StoredLobby :=
  let stored : StoredLobby :=
    if stored.lobby.state = .starting then stored.withState .inMatch else stored
  { stored with
    lastAuthorityHeartbeatAt := some now
    lastAcceptedHeartbeat := some ⟨actor, stored.authorityEpoch, election.inputHash, now⟩ }

def resultsAccepted (stored : StoredLobby) (key : String) (replay : StoredMutationReplay) :
    StoredLobby :=
  { stored.withState .closing with
    resultsReplays := stored.resultsReplays.insert key replay }

/-! ## Cleanup -/

def cleanupRequest (stored : StoredLobby) (now : UnixMillis) (includeDevices : Bool) :
    CleanupLobbyRequest where
  lobbyId := stored.lobby.lobbyId
  networkGeneration := stored.networkGeneration
  identity := stored.providerIdentity
  mode := stored.lobby.provisioningMode
  tailnet := stored.tailnet
  tag := stored.tag
  credentials := (stored.credentials.toList.filter fun (_, c) => !c.revoked).map fun (_, c) =>
    ⟨c.credentialId, c.expiresAt⟩
  includeDevices := includeDevices
  now := now
  dryRun := stored.dryRun

def cleanupRequestForPlayer (stored : StoredLobby) (player : PlayerId) (now : UnixMillis)
    (includeDevices : Bool) : CleanupLobbyRequest :=
  { stored.cleanupRequest now includeDevices with
    credentials := ((stored.credentials[player]?).filter fun c => !c.revoked).toList.map fun c =>
      ⟨c.credentialId, c.expiresAt⟩ }

/-- The first cleanup forgets the measurements and the routes. -/
def forgetMeasurements (stored : StoredLobby) : StoredLobby :=
  if stored.cleanupRequestedAt.isNone then
    { stored with
      measurements := ∅
      lobby := { stored.lobby with
        roster := stored.lobby.roster.map fun player =>
          { player with routeSummary := ⟨0, 0, 0⟩ } } }
  else stored

def pended (stored : StoredLobby) : StoredLobby := { stored with cleanupPending := true }

/-- The intent to clean up, which is stored before any destructive call. -/
def cleanupRequested (stored : StoredLobby) (now : UnixMillis) : StoredLobby :=
  { stored with
    cleanupRequestedAt := some (stored.cleanupRequestedAt.getD now)
    networkLifecycle := .cleanupRequested
    cleanupPending := true }

def settles (outcome : CleanupOutcome) (now : UnixMillis) (credential : StoredCredential) : Bool :=
  credential.expiresAt ≤ now || outcome.revokedCredentialIds.contains credential.credentialId

/-- What a successful cleanup call settles. -/
def cleanupSettled (stored : StoredLobby) (outcome : CleanupOutcome) (now : UnixMillis)
    (fullCleanup : Bool) : StoredLobby :=
  { stored with
    credentials := stored.credentials.map fun _ credential =>
      if settles outcome now credential then
        { credential with revoked := true, cleanupPending := false } else credential
    deleteAcknowledgedAt := if fullCleanup && outcome.deleteAcknowledged then
      some (stored.deleteAcknowledgedAt.getD now) else stored.deleteAcknowledgedAt
    childSecretErasedAt := if fullCleanup && outcome.childSecretErased then
      some (stored.childSecretErasedAt.getD now) else stored.childSecretErasedAt }

/-- What the provider's answer itself settles. -/
def settledBy (stored : StoredLobby) (now : UnixMillis) (fullCleanup : Bool) :
    Except ProviderError CleanupOutcome → StoredLobby
  | .error error => if error.losesIdentity then stored.explained error.stateReason else stored
  | .ok outcome => stored.cleanupSettled outcome now fullCleanup

/-- The first live credential is marked; the search stops at it. -/
def markPendingCredential (stored : StoredLobby) (now : UnixMillis) : StoredLobby × Bool :=
  match stored.credentials.toList.find? fun (_, credential) => liveCredential now credential with
  | some (player, credential) =>
    ({ stored with
      credentials := stored.credentials.insert player { credential with cleanupPending := true } },
      true)
  | none => (stored, false)

/-- The lifecycle after a full cleanup of a real lobby; `none` is the record that cannot be. -/
def cleanupLifecycle (mode : ProvisioningMode) (result : Except ProviderError CleanupOutcome)
    (pending : Bool) : Option (NetworkLifecycle × Bool) :=
  match mode with
  | .tailnetPerLobby =>
    match result with
    | .ok outcome =>
      if outcome.deleteAcknowledged then some (.verifyingAbsence, true)
      else some (.cleanupPending, true)
    | .error error =>
      if error.losesIdentity then some (.manualRemediation, true) else some (.cleanupPending, true)
  | .sharedTailnet =>
    if !pending then some (.sharedResourcesClean, false) else some (.cleanupPending, true)
  | .dryRun => none

/-- The join state of the roster follows the cleanup. -/
def markRoster (stored : StoredLobby) : StoredLobby :=
  { stored with
    lobby := { stored.lobby with
      roster := stored.lobby.roster.map fun player =>
        let player := { player with cleanupPending := stored.cleanupPending }
        if stored.cleanupPending then { player with joinState := .cleanupPending }
        else if stored.lobby.state.isClosed then { player with joinState := .left }
        else player } }

/-- The record after a cleanup call; `none` where the code is unreachable by its own account. -/
def applyCleanupResult (stored : StoredLobby) (now : UnixMillis)
    (result : Except ProviderError CleanupOutcome) (fullCleanup : Bool) : Option StoredLobby :=
  let (stored, credentialPending) :=
    (stored.settledBy now fullCleanup result).markPendingCredential now
  let providerPending := match result with
    | .ok outcome => outcome.cleanupPending
    | .error _ => true
  let pending := providerPending || credentialPending
  if fullCleanup && !stored.dryRun then
    (cleanupLifecycle stored.lobby.provisioningMode result pending).map fun (lifecycle, pending) =>
      { stored with networkLifecycle := lifecycle, cleanupPending := pending }.markRoster
  else some { stored with cleanupPending := pending }.markRoster

def finalizeLobbyCleanup (stored : StoredLobby) (now : UnixMillis) (finalize : Bool) :
    StoredLobby :=
  if finalize = true ∧ stored.lobby.state ≠ .destroyed then
    { stored with
      lobby := { stored.lobby with
        state := if stored.lobby.state.canTransitionTo .destroyed then .destroyed
          else stored.lobby.state
        stateReason := if stored.cleanupPending then stored.lobby.stateReason else none
        authority := none }
      terminalAt := some now }
  else stored

/-! ## The absence proof -/

def clearAbsenceProof (stored : StoredLobby) : StoredLobby :=
  { stored with
    firstAbsenceObservedAt := none
    absenceConfirmedAt := none
    absenceObservationGeneration := none
    absenceObservationProviderId := none
    absenceMonotonicVerified := false }

def firstAbsence (stored : StoredLobby) (providerId : String) (now : UnixMillis) : StoredLobby :=
  { stored with
    firstAbsenceObservedAt := some now
    absenceObservationGeneration := some stored.networkGeneration
    absenceObservationProviderId := some providerId
    absenceMonotonicVerified := false
    cleanupPending := true }

def absenceConfirmed (stored : StoredLobby) (providerId : String) (now : UnixMillis) :
    StoredLobby :=
  { stored with
    absenceConfirmedAt := some now
    absenceObservationGeneration := some stored.networkGeneration
    absenceObservationProviderId := some providerId
    absenceMonotonicVerified := true
    cleanupPending := true }

def absenceDoubted (stored : StoredLobby) : StoredLobby :=
  { stored with absenceMonotonicVerified := false }

def dedicatedAbsent (stored : StoredLobby) (now : UnixMillis) : StoredLobby :=
  { stored with
    childSecretErasedAt := some now
    networkLifecycle := .dedicatedAbsent
    cleanupPending := false
    lobby := { stored.lobby with stateReason := none } }

/-! ## Operator actions -/

/-- The launcher's transition at the play deadline. -/
def protectedCleanupBegun (stored : StoredLobby) : StoredLobby :=
  { stored.withState .closing with
    cleanupPending := true
    networkLifecycle := .cleanupRequested }

/-- A restart moves a signed session into a fresh replay domain. -/
def sessionRenewed (stored : StoredLobby) : StoredLobby :=
  { stored with sessionGeneration := stored.sessionGeneration.satAdd 1 }

end StoredLobby

/-! ## What the updates leave alone -/

/-- What is fixed when the lobby is created. -/
structure FixedPart where
  lobbyId : LobbyId
  maxPlayers : UInt8
  mode : ProvisioningMode
  generation : UInt64

/-- What is fixed once the lobby is provisioned. -/
structure BackingPart where
  dryRun : Bool
  tailnet : String
  identity : Option StoredNetworkIdentity

/-- What the teardown of the network moves. -/
structure TeardownPart where
  lifecycle : NetworkLifecycle
  cleanupRequestedAt : Option UnixMillis
  deleteAcknowledgedAt : Option UnixMillis
  childSecretErasedAt : Option UnixMillis
  firstAbsenceObservedAt : Option UnixMillis
  absenceConfirmedAt : Option UnixMillis
  absenceObservationGeneration : Option UInt64
  absenceObservationProviderId : Option String
  absenceMonotonicVerified : Bool

namespace StoredLobby

def fixed (w : StoredLobby) : FixedPart :=
  ⟨w.lobby.lobbyId, w.lobby.maxPlayers, w.lobby.provisioningMode, w.networkGeneration⟩

def backing (w : StoredLobby) : BackingPart := ⟨w.dryRun, w.tailnet, w.networkIdentity⟩

def teardown (w : StoredLobby) : TeardownPart :=
  ⟨w.networkLifecycle, w.cleanupRequestedAt, w.deleteAcknowledgedAt, w.childSecretErasedAt,
    w.firstAbsenceObservedAt, w.absenceConfirmedAt, w.absenceObservationGeneration,
    w.absenceObservationProviderId, w.absenceMonotonicVerified⟩

/-- The same lobby on the same network. -/
structure Kept (w w' : StoredLobby) : Prop where
  fixed : w'.fixed = w.fixed
  backing : w'.backing = w.backing

/-- The same lobby on the same network, whose teardown has not moved. -/
structure Undisturbed (w w' : StoredLobby) : Prop extends Kept w w' where
  teardown : w'.teardown = w.teardown

variable {w w' : StoredLobby} {now : UnixMillis}

namespace Kept

theorem trans {u : StoredLobby} (h : Kept u w) (h' : Kept w w') : Kept u w' :=
  ⟨h'.fixed.trans h.fixed, h'.backing.trans h.backing⟩

theorem mode (h : Kept w w') : w'.lobby.provisioningMode = w.lobby.provisioningMode :=
  congrArg FixedPart.mode h.fixed

theorem dryRun (h : Kept w w') : w'.dryRun = w.dryRun := congrArg BackingPart.dryRun h.backing

theorem tailnet (h : Kept w w') : w'.tailnet = w.tailnet := congrArg BackingPart.tailnet h.backing

end Kept

namespace Undisturbed

theorem refl (w : StoredLobby) : Undisturbed w w := ⟨⟨rfl, rfl⟩, rfl⟩

theorem trans {u : StoredLobby} (h : Undisturbed u w) (h' : Undisturbed w w') :
    Undisturbed u w' :=
  ⟨h.toKept.trans h'.toKept, h'.teardown.trans h.teardown⟩

theorem lifecycle (h : Undisturbed w w') : w'.networkLifecycle = w.networkLifecycle :=
  congrArg TeardownPart.lifecycle h.teardown

end Undisturbed

theorem undisturbed_unready (w : StoredLobby) : Undisturbed w w.unready := by
  unfold unready
  split_ifs
  · exact ⟨⟨rfl, rfl⟩, rfl⟩
  · exact .refl w

theorem undisturbed_applyTimeTransitions (w : StoredLobby) (now : UnixMillis) :
    Undisturbed w (w.applyTimeTransitions now).1 := by
  unfold applyTimeTransitions
  split
  · exact .refl w
  · split
    · exact .refl w
    · exact ⟨⟨rfl, rfl⟩, rfl⟩

theorem undisturbed_refreshFreshnessState (w : StoredLobby) (now : UnixMillis) :
    Undisturbed w (w.refreshFreshnessState now).1 := by
  unfold refreshFreshnessState
  split_ifs
  · exact ⟨⟨rfl, rfl⟩, rfl⟩
  · exact .refl w

theorem undisturbed_forgetMeasurements (w : StoredLobby) : Undisturbed w w.forgetMeasurements := by
  unfold forgetMeasurements
  split_ifs
  · exact ⟨⟨rfl, rfl⟩, rfl⟩
  · exact .refl w

theorem undisturbed_finalizeLobbyCleanup (w : StoredLobby) (now : UnixMillis) (finalize : Bool) :
    Undisturbed w (w.finalizeLobbyCleanup now finalize) := by
  unfold finalizeLobbyCleanup
  by_cases h : finalize = true ∧ w.lobby.state ≠ .destroyed
  · rw [if_pos h]
    exact ⟨⟨rfl, rfl⟩, rfl⟩
  · rw [if_neg h]
    exact .refl w

theorem undisturbed_markPendingCredential (w : StoredLobby) (now : UnixMillis) :
    Undisturbed w (w.markPendingCredential now).1 := by
  unfold markPendingCredential
  split
  · exact ⟨⟨rfl, rfl⟩, rfl⟩
  · exact .refl w

theorem undisturbed_applyElection (w : StoredLobby) (election : AuthorityElection)
    (now : UnixMillis) : Undisturbed w (w.applyElection election now) := by
  unfold applyElection
  dsimp only
  split_ifs
  · exact ⟨⟨rfl, rfl⟩, rfl⟩
  · exact ⟨⟨rfl, rfl⟩, rfl⟩

theorem undisturbed_recomputeAuthority (h : w.recomputeAuthority now = .ok w') :
    Undisturbed w w' := by
  unfold recomputeAuthority at h
  split_ifs at h
  · cases h
    exact ⟨⟨rfl, rfl⟩, rfl⟩
  · split at h
    · exact nomatch h
    · cases h
      exact undisturbed_applyElection w _ now

theorem undisturbed_rosterChanged (w : StoredLobby) : Undisturbed w w.rosterChanged :=
  (undisturbed_unready w).trans ⟨⟨rfl, rfl⟩, rfl⟩

theorem undisturbed_seated (w : StoredLobby) (request : JoinLobbyRequest) (now : UnixMillis) :
    Undisturbed w (w.seated request now) := by
  unfold seated
  split_ifs
  · exact (undisturbed_rosterChanged w).trans ⟨⟨rfl, rfl⟩, rfl⟩
  · exact (undisturbed_unready w).trans ⟨⟨rfl, rfl⟩, rfl⟩

theorem undisturbed_enrolled (w : StoredLobby) (request : JoinLobbyRequest)
    (minted : MintedCredential) (key : String) (fingerprint : List UInt8) (verifier : Digest)
    (expiresAt now : UnixMillis) :
    Undisturbed w (w.enrolled request minted key fingerprint verifier expiresAt now) := by
  have hfreed : Undisturbed w (w.withoutReservation request.playerId) := ⟨⟨rfl, rfl⟩, rfl⟩
  exact (hfreed.trans (undisturbed_seated _ request now)).trans ⟨⟨rfl, rfl⟩, rfl⟩

theorem undisturbed_left (w : StoredLobby) (player : PlayerId) (now : UnixMillis)
    (dryRun : Bool) : Undisturbed w (w.left player now dryRun) := by
  have hdeparted : Undisturbed w (w.departed player).forgetAuthority := ⟨⟨rfl, rfl⟩, rfl⟩
  exact (hdeparted.trans (undisturbed_unready _)).trans ⟨⟨rfl, rfl⟩, rfl⟩

theorem undisturbed_measured (w : StoredLobby) (player : PlayerId) (sample : ConnectivitySample)
    (now : UnixMillis) : Undisturbed w (w.measured player sample now) :=
  (undisturbed_unready w).trans ⟨⟨rfl, rfl⟩, rfl⟩

theorem undisturbed_heartbeatAccepted (w : StoredLobby) (actor : PlayerId)
    (election : AuthorityElection) (now : UnixMillis) :
    Undisturbed w (w.heartbeatAccepted actor election now) := by
  unfold heartbeatAccepted
  dsimp only
  split_ifs
  · exact ⟨⟨rfl, rfl⟩, rfl⟩
  · exact ⟨⟨rfl, rfl⟩, rfl⟩

theorem undisturbed_enforceJoinRateLimit {player : PlayerId}
    (h : w.enforceJoinRateLimit player now = some w') : Undisturbed w w' := by
  unfold enforceJoinRateLimit at h
  dsimp only at h
  split_ifs at h
  cases h
  exact ⟨⟨rfl, rfl⟩, rfl⟩

theorem undisturbed_consumeInvitation {verifier : Digest}
    (h : w.consumeInvitation verifier now = some w') : Undisturbed w w' := by
  obtain ⟨i, -, rfl⟩ := Option.map_eq_some_iff.mp h
  exact ⟨⟨rfl, rfl⟩, rfl⟩

theorem lobby_enforceJoinRateLimit {player : PlayerId}
    (h : w.enforceJoinRateLimit player now = some w') : w'.lobby = w.lobby := by
  unfold enforceJoinRateLimit at h
  dsimp only at h
  split_ifs at h
  cases h
  rfl

/-! ### Cleanup results -/

theorem kept_settledBy (w : StoredLobby) (now : UnixMillis) (full : Bool)
    (result : Except ProviderError CleanupOutcome) : Kept w (w.settledBy now full result) := by
  cases result with
  | error error =>
    unfold settledBy
    dsimp only
    split_ifs
    · exact ⟨rfl, rfl⟩
    · exact ⟨rfl, rfl⟩
  | ok outcome => exact ⟨rfl, rfl⟩

/-- The record as the provider's answer leaves it, before the lifecycle moves. -/
def settledAndMarked (w : StoredLobby) (now : UnixMillis) (full : Bool)
    (result : Except ProviderError CleanupOutcome) : StoredLobby :=
  ((w.settledBy now full result).markPendingCredential now).1

theorem kept_settledAndMarked (w : StoredLobby) (now : UnixMillis) (full : Bool)
    (result : Except ProviderError CleanupOutcome) : Kept w (w.settledAndMarked now full result) :=
  (kept_settledBy w now full result).trans (undisturbed_markPendingCredential _ now).toKept

/-- A cleanup result settles, marks a live credential, and moves the lifecycle of a real lobby when
the cleanup was a full one. -/
theorem applyCleanupResult_some {result : Except ProviderError CleanupOutcome} {full : Bool}
    (h : w.applyCleanupResult now result full = some w') : ∃ lifecycle pending,
      w' = { w.settledAndMarked now full result with
        networkLifecycle := lifecycle, cleanupPending := pending }.markRoster
      ∧ ((full = true ∧ w.dryRun = false ∧ ∃ unsettled,
            cleanupLifecycle w.lobby.provisioningMode result unsettled = some (lifecycle, pending))
          ∨ ¬(full = true ∧ w.dryRun = false)
            ∧ lifecycle = (w.settledAndMarked now full result).networkLifecycle) := by
  have hkept := kept_settledAndMarked w now full result
  unfold applyCleanupResult at h
  unfold settledAndMarked at hkept ⊢
  generalize (w.settledBy now full result).markPendingCredential now = marked at h hkept ⊢
  dsimp only at h
  by_cases hfull : full = true ∧ w.dryRun = false
  · rw [if_pos (by simp [hfull, hkept.dryRun])] at h
    obtain ⟨⟨lifecycle, pending⟩, hmoved, rfl⟩ := Option.map_eq_some_iff.mp h
    rw [hkept.mode] at hmoved
    exact ⟨lifecycle, pending, rfl, .inl ⟨hfull.1, hfull.2, _, hmoved⟩⟩
  · rw [if_neg (by simpa [hkept.dryRun] using hfull)] at h
    cases h
    exact ⟨_, _, rfl, .inr ⟨hfull, rfl⟩⟩

theorem kept_applyCleanupResult {result : Except ProviderError CleanupOutcome} {full : Bool}
    (h : w.applyCleanupResult now result full = some w') : Kept w w' := by
  obtain ⟨lifecycle, pending, rfl, -⟩ := applyCleanupResult_some h
  exact (kept_settledAndMarked w now full result).trans ⟨rfl, rfl⟩

/-- The cleanup of one player leaves the teardown alone. -/
theorem undisturbed_playerCleanup {result : Except ProviderError CleanupOutcome}
    (h : w.applyCleanupResult now result false = some w') : Undisturbed w w' := by
  have hsettled : Undisturbed w (w.settledBy now false result) := by
    cases result with
    | error error =>
      unfold settledBy
      dsimp only
      split_ifs
      · exact ⟨⟨rfl, rfl⟩, rfl⟩
      · exact .refl w
    | ok outcome => exact ⟨⟨rfl, rfl⟩, rfl⟩
  have hmarked := hsettled.trans (undisturbed_markPendingCredential _ now)
  obtain ⟨lifecycle, pending, rfl, ⟨hfull, -⟩ | ⟨-, rfl⟩⟩ := applyCleanupResult_some h
  · exact nomatch hfull
  · exact hmarked.trans ⟨⟨rfl, rfl⟩, rfl⟩

/-! ### Failed mints -/

theorem kept_failedByMint (w : StoredLobby) (error : ProviderError) :
    Kept w (w.failedByMint error) := by
  unfold failedByMint
  split_ifs
  · exact ⟨rfl, rfl⟩
  · exact ⟨rfl, rfl⟩

theorem kept_gateRecorded (w : StoredLobby) (error : ProviderError) (now : UnixMillis) :
    Kept w (w.gateRecorded error now) := by
  cases error with
  | childPolicyGate identity digest status deleteAcknowledged =>
    cases deleteAcknowledged with
    | true => exact ⟨rfl, rfl⟩
    | false => exact ⟨rfl, rfl⟩
  | _ => exact ⟨rfl, rfl⟩

theorem kept_cleanupOwed (w : StoredLobby) (error : ProviderError) (dryRun : Bool) :
    Kept w (w.cleanupOwed error dryRun) := by
  unfold cleanupOwed
  dsimp only
  split_ifs
  all_goals exact ⟨rfl, rfl⟩

theorem kept_mintFailed (w : StoredLobby) (player : PlayerId) (error : ProviderError)
    (now : UnixMillis) (dryRun : Bool) : Kept w (w.mintFailed player error now dryRun) := by
  have hfreed : Kept w (if error.isUnavailable then w else w.withoutReservation player) := by
    split_ifs
    · exact ⟨rfl, rfl⟩
    · exact ⟨rfl, rfl⟩
  have hfailed := (hfreed.trans (kept_failedByMint _ error)).trans (kept_gateRecorded _ error now)
  refine Kept.trans ?_ (kept_cleanupOwed _ error dryRun)
  exact hfailed.trans ⟨rfl, rfl⟩

/-! ### State and lifecycle -/

theorem state_unready (w : StoredLobby) : w.unready.lobby.state
    = if w.lobby.state = .ready then .forming else w.lobby.state := by
  unfold unready
  split_ifs with h
  · rfl
  · rfl

theorem unready_eq (w : StoredLobby) :
    w.unready = w.withState (if w.lobby.state = .ready then .forming else w.lobby.state) := by
  unfold unready
  split_ifs
  · rfl
  · rfl

/-- A passed deadline leads to a failure with its reason, or to expiry. -/
theorem timeTarget_some {next : LobbyState} {reason : Option String}
    (h : w.timeTarget now = some (next, reason)) :
    next = .failed ∧ reason.any (!isBlank ·) = true ∨ next = .expired := by
  have hfailed : ∀ {b : Bool} {text : String}, isBlank text = false →
      (if b then some (LobbyState.failed, some text) else none) = some (next, reason) →
      next = .failed ∧ reason.any (!isBlank ·) = true := by
    intro b text htext h
    split_ifs at h
    cases h
    exact ⟨rfl, by rw [Option.any_some, htext]; rfl⟩
  have habsolute : isBlank "absolute_ttl_expired" = false := by decide +kernel
  have hstart : isBlank "start_timeout" = false := by decide +kernel
  unfold timeTarget at h
  dsimp only at h
  cases hstate : w.lobby.state with
  | provisioning =>
    rw [hstate] at h
    exact .inl (hfailed habsolute h)
  | inMatch =>
    rw [hstate] at h
    exact .inl (hfailed habsolute h)
  | starting =>
    rw [hstate] at h
    dsimp only at h
    split_ifs at h
    · cases h
      exact .inl ⟨rfl, by rw [Option.any_some, habsolute]; rfl⟩
    · cases h
      exact .inl ⟨rfl, by rw [Option.any_some, hstart]; rfl⟩
  | forming =>
    rw [hstate] at h
    dsimp only at h
    split_ifs at h
    cases h
    exact .inr rfl
  | ready =>
    rw [hstate] at h
    dsimp only at h
    split_ifs at h
    cases h
    exact .inr rfl
  | _ =>
    rw [hstate] at h
    exact nomatch h

/-- A deadline that has passed fails or expires an open lobby. -/
theorem applyTimeTransitions_cases (w : StoredLobby) (now : UnixMillis) :
    w.applyTimeTransitions now = (w, false)
      ∨ ∃ next reason, w.lobby.state.canTransitionTo next = true
        ∧ (next = .failed ∧ reason.any (!isBlank ·) = true ∨ next = .expired)
        ∧ w.applyTimeTransitions now = ({ w with
          lobby := { w.lobby with state := next, stateReason := reason, authority := none }
          lastElection := none
          terminalAt := some now
          cleanupPending := true }, true) := by
  unfold applyTimeTransitions
  cases htarget : w.timeTarget now with
  | none => exact .inl rfl
  | some target =>
    obtain ⟨next, reason⟩ := target
    dsimp only
    cases hvalid : w.lobby.state.validateTransition next with
    | error error => exact .inl rfl
    | ok _ =>
      exact .inr ⟨next, reason, LobbyState.validateTransition_ok_iff.mp hvalid,
        timeTarget_some htarget, rfl⟩

theorem applyTimeTransitions_of_closed (h : w.lobby.state.isClosed = true) :
    w.applyTimeTransitions now = (w, false) := by
  rcases w.applyTimeTransitions_cases now with heq | ⟨next, reason, hlegal, hnext, heq⟩
  · exact heq
  · rw [LobbyState.destroyed_of_closed h hlegal] at hnext
    exact hnext.elim (fun h => nomatch h.1) nofun

theorem refreshFreshnessState_cases (w : StoredLobby) (now : UnixMillis) :
    w.refreshFreshnessState now = (w, false)
      ∨ w.lobby.state = .ready
        ∧ w.refreshFreshnessState now = ((w.withState .forming).forgetAuthority, true) := by
  unfold refreshFreshnessState
  split_ifs with h
  · exact .inr ⟨h.1, rfl⟩
  · exact .inl rfl

theorem refreshFreshnessState_of_closed (h : w.lobby.state.isClosed = true) :
    w.refreshFreshnessState now = (w, false) := by
  rcases w.refreshFreshnessState_cases now with heq | ⟨hready, -⟩
  · exact heq
  · rw [hready] at h
    exact nomatch h

/-- A lobby whose access is denied fails, or is closed already. -/
theorem closed_accessDenied (w : StoredLobby) (error : ProviderError) (now : UnixMillis) :
    (w.accessDenied error now).lobby.state.isClosed = true := by
  unfold accessDenied
  dsimp only
  cases hstate : w.lobby.state with
  | _ => rfl

/-- A finalized lobby is destroyed, and keeps its reason only while its cleanup is pending. -/
theorem finalizeLobbyCleanup_cases (w : StoredLobby) (now : UnixMillis) (finalize : Bool) :
    w.finalizeLobbyCleanup now finalize = w
      ∨ finalize = true ∧ w.lobby.state ≠ .destroyed ∧ w.finalizeLobbyCleanup now finalize
        = { w with
          lobby := { w.lobby with
            state := if w.lobby.state.canTransitionTo .destroyed then .destroyed
              else w.lobby.state
            stateReason := if w.cleanupPending then w.lobby.stateReason else none
            authority := none }
          terminalAt := some now } := by
  unfold finalizeLobbyCleanup
  by_cases h : finalize = true ∧ w.lobby.state ≠ .destroyed
  · rw [if_pos h]
    exact .inr ⟨h.1, h.2, rfl⟩
  · rw [if_neg h]
    exact .inl rfl

theorem forgetMeasurements_same (w : StoredLobby) :
    w.forgetMeasurements.lobby.state = w.lobby.state
      ∧ w.forgetMeasurements.cleanupPending = w.cleanupPending := by
  unfold forgetMeasurements
  split_ifs
  · exact ⟨rfl, rfl⟩
  · exact ⟨rfl, rfl⟩

theorem state_settledAndMarked (w : StoredLobby) (now : UnixMillis) (full : Bool)
    (result : Except ProviderError CleanupOutcome) :
    (w.settledAndMarked now full result).lobby.state = w.lobby.state
      ∧ (w.settledAndMarked now full result).networkLifecycle = w.networkLifecycle := by
  have hsettled : (w.settledBy now full result).lobby.state = w.lobby.state
      ∧ (w.settledBy now full result).networkLifecycle = w.networkLifecycle := by
    cases result with
    | error error =>
      unfold settledBy
      dsimp only
      split_ifs
      · exact ⟨rfl, rfl⟩
      · exact ⟨rfl, rfl⟩
    | ok outcome => exact ⟨rfl, rfl⟩
  rw [← hsettled.1, ← hsettled.2]
  unfold settledAndMarked markPendingCredential
  split
  · exact ⟨rfl, rfl⟩
  · exact ⟨rfl, rfl⟩

theorem state_applyCleanupResult {result : Except ProviderError CleanupOutcome} {full : Bool}
    (h : w.applyCleanupResult now result full = some w') : w'.lobby.state = w.lobby.state := by
  obtain ⟨lifecycle, pending, rfl, -⟩ := applyCleanupResult_some h
  exact (state_settledAndMarked w now full result).1

theorem state_mintFailed (w : StoredLobby) (player : PlayerId) (error : ProviderError)
    (now : UnixMillis) (dryRun : Bool) : (w.mintFailed player error now dryRun).lobby.state
      = if w.lobby.state = .forming ∨ w.lobby.state = .ready then .failed else w.lobby.state := by
  have hfreed : (if error.isUnavailable then w else w.withoutReservation player).lobby.state
      = w.lobby.state := by
    split_ifs
    · rfl
    · rfl
  have howed : ∀ u : StoredLobby, (u.cleanupOwed error dryRun).lobby.state = u.lobby.state := by
    intro u
    unfold cleanupOwed
    dsimp only
    split_ifs
    all_goals rfl
  have hgate : ∀ u : StoredLobby, (u.gateRecorded error now).lobby.state = u.lobby.state := by
    intro u
    cases error with
    | childPolicyGate identity digest status deleteAcknowledged =>
      cases deleteAcknowledged with
      | true => rfl
      | false => rfl
    | _ => rfl
  have hfailed : ∀ u : StoredLobby, (u.failedByMint error).lobby.state
      = if u.lobby.state = .forming ∨ u.lobby.state = .ready then .failed else u.lobby.state := by
    intro u
    unfold failedByMint
    split_ifs
    · rfl
    · rfl
  unfold mintFailed
  dsimp only
  rw [howed]
  change (StoredLobby.gateRecorded _ error now).lobby.state = _
  rw [hgate, hfailed, hfreed]

theorem state_seated (w : StoredLobby) (request : JoinLobbyRequest) (now : UnixMillis) :
    (w.seated request now).lobby.state = w.unready.lobby.state := by
  unfold seated
  split_ifs
  · rfl
  · rfl

theorem state_measured (w : StoredLobby) (player : PlayerId) (sample : ConnectivitySample)
    (now : UnixMillis) : (w.measured player sample now).lobby.state = w.unready.lobby.state :=
  rfl

end StoredLobby

end Spurfire
