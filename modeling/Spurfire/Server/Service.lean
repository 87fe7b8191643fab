import Spurfire.Server.World

/-!
# The lobby service

The handlers, the reaper and the operator actions of `service.rs`, each from the lock of its lobby
on, as programs over `World`:

* `cleanupResources` and `reconcileDedicatedAbsence` tear a lobby down, and `loadMaintainedLobby`
  applies deadlines before any handler looks at the record;
* `createLobby`, `joinLobby`, `leaveLobby`, `submitMeasurements`, `electLobbyAuthority`,
  `startLobby`, `authorityHeartbeat`, `submitResults`, `deleteLobby` are the mutations;
* `cleanupExpired`, `beginProtectedCleanup` and `reconcileStartup` are the reaper, the launcher and
  the restart.

Session endpoints and manifest keys are process caches that no record depends on; `startLobby` asks
the outside whether every roster member has registered.
-/

namespace Spurfire

open Interrupt

/-- What a handler answers with. -/
inductive Response
  | lobby (snapshot : Lobby)
  | created (lobbyId : LobbyId)
  | invited (networkGeneration : UInt64)
  | joinReplayed (receipt : JoinCredentialReceipt) (lobby : Lobby)
  | joined (receipt : JoinCredentialReceipt) (lobby : Lobby) (sessionGeneration : UInt64)
  | left (cleanupPending : Bool)
  | measured (state : LobbyState) (authority : Option AuthoritySummary)
  | authority (election : AuthorityResponse)
  | started (state : LobbyState) (mapSeed : Option UInt64) (authority : Option AuthoritySummary)
      (sessionGeneration : UInt64)
  | heartbeat (state : LobbyState) (authority : AuthoritySummary) (inputHash : Vector UInt8 32)
  | results
  | destroyed (cleanupPending : Bool)
  | done

namespace Service

open Prog (fail check ofExcept)

variable (id : LobbyId)

/-! ## Cleanup -/

/-- The tailnet is there: the proof starts over. -/
def absenceReset (stored : StoredLobby) : Service StoredLobby := do
  anchorRemove
  let stored := stored.clearAbsenceProof.pended
  let written ← storeReplace id stored
  if written then pure stored
  else pure (stored.remediated.explained "absence_reset_persistence_failed")

/-- The first observation anchors the wait for the second. -/
def absenceFirst (stored : StoredLobby) (providerId : String) : Service StoredLobby := do
  let now ← clockNow id
  let stored := stored.firstAbsence providerId now
  anchorInsert stored.networkGeneration
  let written ← storeReplace id stored
  if written then pure stored
  else do
    anchorRemove
    pure (stored.clearAbsenceProof.remediated.explained "absence_observation_persistence_failed")

/-- The second observation: the whole proof is durable before the vault is touched. -/
def absenceSecond (stored : StoredLobby) (request : TailnetPresenceRequest)
    (providerId : String) : Service StoredLobby := do
  let now ← clockNow id
  let stored := stored.absenceConfirmed providerId now
  let written ← storeReplace id stored
  if written then do
    let erased ← eraseChildSecret id request
    match erased with
    | some (.ok ()) => do
      let completedAt ← clockNow id
      anchorRemove
      pure (stored.dedicatedAbsent completedAt)
    | some (.error error) => pure (stored.pended.explained error.stateReason)
    | none => pure (stored.pended.explained "child_secret_erasure_pending")
  else pure (stored.absenceDoubted.remediated.explained "absence_proof_persistence_failed")

/-- Asks for the tailnet, and takes the proof one step on. -/
def observeAbsence (stored : StoredLobby) (identity : ProviderNetworkIdentity)
    (providerId : String) : Service StoredLobby := do
  let request : TailnetPresenceRequest := ⟨id, stored.networkGeneration, identity⟩
  let present ← tailnetPresent id request
  match present with
  | some (.ok true) => absenceReset id stored
  | some (.ok false) =>
    if stored.firstAbsenceObservedAt.isNone then absenceFirst id stored providerId
    else absenceSecond id stored request providerId
  | some (.error .identityMismatch) =>
    pure (stored.remediated.pended.explained "provider_identity_mismatch_manual_remediation")
  | _ => pure stored.pended

/-- A first observation whose anchor is lost, or belongs to another generation, is discarded. -/
def reconcileDedicatedAbsence (stored : StoredLobby) : Service StoredLobby :=
  match stored.providerIdentity with
  | none =>
    pure (stored.remediated.pended.explained "provider_identity_missing_manual_remediation")
  | some identity =>
    match identity.providerTailnetId with
    | none => pure stored.remediated.pended
    | some providerId =>
      if stored.firstAbsenceObservedAt.isSome then do
        let anchor ← anchorGet
        match anchor.filter fun anchor => anchor.1 == stored.networkGeneration with
        | some (_, elapsed) =>
          if elapsed < CLEANUP_ABSENCE_MIN_SEPARATION_MS then pure stored.pended
          else observeAbsence id stored identity providerId
        | none => do
          let stored := stored.clearAbsenceProof
          let written ← storeReplace id stored
          if written then observeAbsence id stored identity providerId
          else pure (stored.remediated.explained "absence_reset_persistence_failed")
      else observeAbsence id stored identity providerId

/-- The cleanup call and what it settles. -/
def runCleanup (stored : StoredLobby) (now : UnixMillis) (includeDevices finalize : Bool) :
    Service StoredLobby := do
  let result ← providerCleanup id (stored.cleanupRequest now includeDevices)
  match stored.applyCleanupResult now result true with
  | some stored => pure (stored.finalizeLobbyCleanup now finalize)
  -- a real record in dry-run mode is `unreachable!`
  | none => fail (.internalError false)

def cleanupResources (stored : StoredLobby) (now : UnixMillis) (includeDevices finalize : Bool) :
    Service StoredLobby :=
  let stored := stored.forgetMeasurements
  if stored.lobby.provisioningMode = .tailnetPerLobby
      ∧ stored.networkLifecycle = .verifyingAbsence then do
    let stored ← reconcileDedicatedAbsence id stored
    pure (stored.finalizeLobbyCleanup now finalize)
  else if stored.networkLifecycle = .dedicatedAbsent
      ∨ stored.networkLifecycle = .sharedResourcesClean then
    pure (stored.finalizeLobbyCleanup now finalize)
  else if stored.dryRun = false ∧ stored.lobby.provisioningMode = .tailnetPerLobby
      ∧ (stored.networkLifecycle = .createUnknown
        ∨ stored.networkLifecycle = .manualRemediation) then
    pure (stored.remediated.pended.finalizeLobbyCleanup now finalize)
  else if stored.dryRun then runCleanup id stored now includeDevices finalize
  else do
    -- no destructive call before the intent is durable
    let stored := stored.cleanupRequested now
    let written ← storeReplace id stored
    if written then runCleanup id stored now includeDevices finalize
    else
      pure ((stored.remediated.explained "cleanup_intent_persistence_failed").finalizeLobbyCleanup
        now finalize)

/-! ## Maintenance -/

/-- The access check of a lobby that still needs the provider, and its effect on the record. -/
def checkAccess (stored : StoredLobby) (now : UnixMillis) : Service (StoredLobby × Bool) :=
  if stored.requiresProviderAccess then do
    let denied ← lobbyAccessError id
    match denied with
    | some error => pure (stored.accessDenied error now, true)
    | none => pure (stored, false)
  else pure (stored, false)

def loadMaintainedLobby (now : UnixMillis) (dryHint : Bool) : Service StoredLobby := do
  let found ← storeGet id
  match found with
  | none => fail (.lobbyNotFound dryHint)
  | some stored => do
    let access ← checkAccess id stored now
    let moved := access.1.applyTimeTransitions now
    let refreshed := moved.1.refreshFreshnessState now
    let stored := refreshed.1
    if access.2 || moved.2 then do
      persist id stored (stored.dryRun || dryHint)
      let stored ← cleanupResources id stored now true false
      persist id stored (stored.dryRun || dryHint)
      pure stored
    else if refreshed.2 then do
      persist id stored (stored.dryRun || dryHint)
      pure stored
    else pure stored

def ensureNewLobbyWorkAuthorized (config : ServiceConfig) (stored : StoredLobby) :
    Service Unit := do
  let admitted ← ask id (·.admitted)
  check (stored.dryRun || admitted || config.legacyRealTestMode) .realAdmissionClosed

def ensureJoinable (state : LobbyState) (dryRun : Bool) : Service Unit :=
  check (state == .forming || state == .ready)
    (.lobbyClosedOrTransition state "lobby does not accept joins in its current state" dryRun)

def ensureCreator (stored : StoredLobby) (actor : PlayerId) (dryRun : Bool) : Service Unit :=
  check (stored.creatorPlayerId == actor)
    (.new 403 "not_creator" "action is restricted to the lobby creator" dryRun)

/-! ## Reads and invitations -/

def getLobby (config : ServiceConfig) (headers : Headers) : Service Response := do
  let _ ← authorizeScope id
  let now ← clockNow id
  let stored ← loadMaintainedLobby id now (config.forceDryRun || headers.dryRun)
  pure (.lobby stored.lobby)

def createInvitation (config : ServiceConfig) : Service Response := do
  let legacyActor ← authorizeScope id
  let now ← clockNow id
  let stored ← loadMaintainedLobby id now config.forceDryRun
  ensureNewLobbyWorkAuthorized id config stored
  ensureJoinable stored.lobby.state stored.dryRun
  check (legacyActor.all (· == stored.creatorPlayerId))
    (.new 403 "not_creator" "action is restricted to the lobby creator" stored.dryRun)
  check (stored.activeInvitationCount now < MAX_ACTIVE_INVITATIONS)
    (.new 429 "invitation_limit_reached" "too many active invitations" stored.dryRun)
  let token ← ask id (·.token)
  let expiresAt := min (now.satAdd INVITATION_TTL_MS) stored.lobby.ttl.absoluteExpiresAt
  let stored := stored.addCapability
    (.new token [.lobbyJoin] id none stored.networkGeneration expiresAt)
  persist id stored stored.dryRun
  pure (.invited stored.networkGeneration)

/-! ## Join and leave -/

/-- The checks on a roster member or a new player, and the receipt that answers without a mint. -/
def reuseCredential (stored : StoredLobby) (request : JoinLobbyRequest) (now : UnixMillis)
    (dryRun : Bool) : Except ApiError (Option JoinCredentialReceipt) :=
  match stored.lobby.roster.find? fun player => player.playerId == request.playerId with
  | some existing =>
    if !request.matchesPlayer existing then
      .error (.new 409 "duplicate_player"
        "player_id is already present with different join attributes" dryRun)
    else
      .ok (((stored.credentials[request.playerId]?).filter
        (StoredLobby.liveCredential now)).map (·.receipt))
  | none =>
    if stored.lobby.maxPlayers.toNat ≤ stored.lobby.roster.length then
      .error (.new 409 "roster_full" "lobby roster is full" dryRun)
    else if stored.credentialPending request.playerId now then
      .error (.new 503 "credential_cleanup_pending"
        "a previous live credential must be revoked or expire before rejoin" dryRun)
    else .ok none

/-- No earlier issuance for the player has an open outcome. -/
def issuanceOpen (stored : StoredLobby) (player : PlayerId) (now : UnixMillis) : Bool :=
  (stored.pendingIssuances[player]?).any fun reservation => now < reservation.expiresAt

/-- The one-use invitation is spent with the reservation. -/
def spendInvitation (stored : StoredLobby) (invitation : Option Digest) (now : UnixMillis) :
    Except ApiError StoredLobby :=
  match invitation with
  | none => .ok stored
  | some verifier =>
    match stored.consumeInvitation verifier now with
    | some stored => .ok stored
    | none => .error (.lobbyNotFound false)

def mintRequest (stored : StoredLobby) (player : PlayerId) (expiresAt : UnixMillis)
    (dryRun : Bool) : MintCredentialRequest where
  lobbyId := id
  networkGeneration := stored.networkGeneration
  identity := stored.providerIdentity
  mode := stored.lobby.provisioningMode
  playerId := player
  tailnet := stored.tailnet
  tag := stored.tag
  expiresAt := expiresAt
  dryRun := dryRun

/-- Mints under a stored reservation and records the outcome. -/
def mintAndRecord (stored : StoredLobby) (request : JoinLobbyRequest) (key : String)
    (fingerprint : List UInt8) (expiresAt now : UnixMillis) (dryRun : Bool) :
    Service Response := do
  let minted ← mintCredential id (mintRequest id stored request.playerId expiresAt dryRun)
  match minted with
  | .error error => do
    persist id (stored.mintFailed request.playerId error now dryRun) dryRun
    fail (.provider error dryRun)
  | .ok minted => do
    let token ← ask id (·.token)
    let stored := stored.enrolled request minted key fingerprint token expiresAt now
    persist id stored dryRun
    pure (.joined ⟨minted.credentialId, expiresAt, true⟩ stored.lobby stored.sessionGeneration)

def reserveAndMint (stored : StoredLobby) (request : JoinLobbyRequest)
    (invitation : Option Digest) (key : String) (fingerprint : List UInt8) (now : UnixMillis)
    (dryRun : Bool) : Service Response := do
  check (!issuanceOpen stored request.playerId now)
    (.new 503 "credential_issuance_pending"
      "a prior credential issuance has an ambiguous outcome; retry after its expiry" dryRun)
  match stored.enforceJoinRateLimit request.playerId now with
  | none => fail (.new 429 "join_rate_limited"
      "join mint rate limit exceeded; retry after 60 seconds" dryRun)
  | some stored => do
    let permitted ← ask id (·.permitted)
    check permitted (.new 429 "provider_busy"
      "credential provider concurrency limit reached; retry later" dryRun)
    let stored ← ofExcept (spendInvitation stored invitation now)
    let expiresAt := now.satAdd JOIN_CREDENTIAL_TTL_MS
    let stored := stored.reserveIssuance request.playerId ⟨fingerprint, key, now, expiresAt⟩
    persist id stored dryRun
    mintAndRecord id stored request key fingerprint expiresAt now dryRun

/-- The invitation a join presents; legacy mode asserts the player instead. -/
def joinInvitation (config : ServiceConfig) (headers : Headers) (request : JoinLobbyRequest)
    (dryHint : Bool) : Except ApiError (Option Digest) :=
  if config.allowLegacyClientAssertions then
    match headers.requireActor dryHint with
    | .error error => .error error
    | .ok actor => if actor = request.playerId then .ok none else .error (.actorMismatch dryHint)
  else
    match headers.capability with
    | some verifier => .ok (some verifier)
    | none => .error (.lobbyNotFound false)

def joinLobby (config : ServiceConfig) (headers : Headers) (request : JoinLobbyRequest)
    (fingerprint : List UInt8) : Service Response := do
  let _ ← authorizeScope id
  let dryHint := config.forceDryRun || headers.dryRun
  let invitation ← ofExcept (joinInvitation config headers request dryHint)
  let now ← clockNow id
  let stored ← loadMaintainedLobby id now dryHint
  let dryRun ← ofExcept (mutationDryRun config headers stored)
  let key ← ofExcept (headers.requireIdempotencyKey dryRun)
  match stored.joinReplays[key]? with
  | some replay => do
    check (invitation.all fun verifier => stored.matchesInvitation verifier now)
      (.lobbyNotFound false)
    check (replay.fingerprint == fingerprint && replay.playerId == request.playerId)
      (.idempotencyConflict dryRun)
    pure (.joinReplayed replay.receipt stored.lobby)
  | none => do
    ensureNewLobbyWorkAuthorized id config stored
    ofExcept (request.validate dryRun)
    ensureJoinable stored.lobby.state dryRun
    let reused ← ofExcept (reuseCredential stored request now dryRun)
    match reused with
    | some receipt => do
      let stored := stored.recordJoinReplay key ⟨fingerprint, request.playerId, receipt, now⟩
      persist id stored dryRun
      pure (.joinReplayed receipt stored.lobby)
    | none => reserveAndMint id stored request invitation key fingerprint now dryRun

/-- Leaves are refused while the lobby is set up, starting, or closed. -/
def acceptsLeaves : LobbyState → Bool
  | .forming | .ready | .inMatch => true
  | _ => false

/-- The leave of a player from a record that has been loaded. -/
def leaveLoaded (config : ServiceConfig) (headers : Headers) (player : PlayerId) (now : UnixMillis)
    (stored : StoredLobby) : Service Response := do
  let dryRun ← ofExcept (mutationDryRun config headers stored)
  check (acceptsLeaves stored.lobby.state) (.lobbyClosedOrTransition stored.lobby.state
    "lobby does not accept leaves in its current state" dryRun)
  if stored.hasPlayer player then do
    let cleanup ← providerCleanup id (stored.cleanupRequestForPlayer player now false)
    match stored.applyCleanupResult now cleanup false with
    | none => fail (.internalError dryRun)
    | some stored => do
      let credentialPending := stored.credentialPending player now
      persist id (stored.left player now dryRun) dryRun
      pure (.left (credentialPending || !dryRun))
  else pure (.left false)

def leaveLobby (config : ServiceConfig) (headers : Headers) (player : PlayerId) :
    Service Response := do
  let _ ← authorizeScope id
  let now ← clockNow id
  let stored ← loadMaintainedLobby id now (config.forceDryRun || headers.dryRun)
  leaveLoaded id config headers player now stored

/-! ## Measurements and elections -/

def submitMeasurements (config : ServiceConfig) (headers : Headers)
    (request : SubmitMeasurementsRequest) : Service Response := do
  let legacy ← authorizeScope id
  let now ← clockNow id
  let stored ← loadMaintainedLobby id now (config.forceDryRun || headers.dryRun)
  let dryRun ← ofExcept (mutationDryRun config headers stored)
  check stored.lobby.state.acceptsMeasurements (.lobbyClosedOrTransition stored.lobby.state
    "lobby does not accept measurements in its current state" dryRun)
  check (stored.hasPlayer request.playerId)
    (.new 404 "player_not_found" "player_id is not a member of this lobby" dryRun)
  check (legacy.isSome || !((stored.measurements[request.playerId]?).bind fun sample =>
      now.checkedSub sample.measuredAt).any (· < 2000))
    (.new 429 "report_rate_limited"
      "participant reports are accepted at most once every two seconds" false)
  let sample ← ofExcept (request.intoValidatedSample now stored.lobby.roster.length dryRun)
  let stored := stored.measured request.playerId sample now
  if stored.lobby.state = .inMatch then do
    persist id stored dryRun
    pure (.measured stored.lobby.state stored.lobby.authority)
  else
    match stored.recomputeAuthority now with
    | .error error => fail (.authorityError error dryRun)
    | .ok stored => do
      persist id stored dryRun
      pure (.measured stored.lobby.state stored.lobby.authority)

/-- `authority_handler`. -/
def electLobbyAuthority (config : ServiceConfig) (headers : Headers) : Service Response := do
  let _ ← authorizeScope id
  let now ← clockNow id
  let stored ← loadMaintainedLobby id now (config.forceDryRun || headers.dryRun)
  let dryRun ← ofExcept (mutationDryRun config headers stored)
  check stored.lobby.state.acceptsMeasurements (.lobbyClosedOrTransition stored.lobby.state
    "authority cannot be elected in the current lobby state" dryRun)
  let recomputed := if stored.lobby.state ≠ .inMatch ∧ stored.lastElection.isNone = true then
    stored.recomputeAuthority now else .ok stored
  match recomputed with
  | .error error => fail (.authorityError error dryRun)
  | .ok stored =>
    match stored.lastElection with
    | none => fail (.authorityUnavailable
        "every roster member must submit a fresh measurement before election" dryRun)
    | some election => do
      persist id stored dryRun
      pure (.authority election.toResponse)

/-! ## The match -/

/-- `start_response` fails where a started record lacks its seed, authority or election. -/
def startResponse (stored : StoredLobby) (dryRun : Bool) : Service Response := do
  check (stored.lobby.mapSeed.isSome && stored.lobby.authority.isSome
    && stored.lastElection.isSome) (.internalError dryRun)
  pure (.started stored.lobby.state stored.lobby.mapSeed stored.lobby.authority
    stored.sessionGeneration)

def startReady (stored : StoredLobby) (request : StartLobbyRequest) (key : String)
    (replay : StoredMutationReplay) (now : UnixMillis) (dryRun : Bool) : Service Response := do
  check (PROTOTYPE_MIN_PLAYERS.toNat ≤ stored.lobby.roster.length)
    (.new 409 "not_enough_players" "prototype start requires at least two players" dryRun)
  ofExcept (validateStartRosterAgainst stored.lobby.roster dryRun)
  ofExcept (if dryRun then .ok () else validateSecureStartRosterAgainst stored.lobby.roster dryRun)
  let projection ← ask id (·.secure)
  let secure ← ofExcept (if dryRun then .ok true else projection)
  check secure (.new 409 "session_identity_required"
    "every roster member must register a fresh signed session identity" false)
  if stored.allMeasurementsFresh now then do
    check (stored.lastElection.isSome && stored.lobby.authority.isSome)
      (.authorityUnavailable "a deterministic authority winner is required before start" dryRun)
    let randomSeed ← ask id (·.seed)
    let stored := stored.started key replay (request.mapSeed.getD randomSeed) now
    persist id stored dryRun
    startResponse stored dryRun
  else do
    persist id (stored.withState .forming).forgetAuthority dryRun
    fail (.authorityUnavailable "all roster measurements must be fresher than 60 seconds" dryRun)

def startLobby (config : ServiceConfig) (headers : Headers) (request : StartLobbyRequest)
    (fingerprint : List UInt8) : Service Response := do
  let legacy ← authorizeScope id
  let actor := legacy.getD request.creatorPlayerId
  let now ← clockNow id
  let stored ← loadMaintainedLobby id now (config.forceDryRun || headers.dryRun)
  let dryRun ← ofExcept (mutationDryRun config headers stored)
  ensureCreator stored actor dryRun
  let key ← ofExcept (headers.requireIdempotencyKey dryRun)
  let running := stored.lobby.state == .starting || stored.lobby.state == .inMatch
  match stored.startReplays[key]? with
  | some replay => do
    check (replay.actor == actor && replay.fingerprint == fingerprint)
      (.idempotencyConflict dryRun)
    check running (.lobbyClosedOrTransition stored.lobby.state
      "started lobby is already closed" dryRun)
    startResponse stored dryRun
  | none =>
    let replay : StoredMutationReplay := ⟨fingerprint, actor, now⟩
    if running then do
      check (request.mapSeed.all fun seed => stored.lobby.mapSeed == some seed)
        (.idempotencyConflict dryRun)
      let stored := stored.recordStartReplay key replay
      persist id stored dryRun
      startResponse stored dryRun
    else do
      check (stored.lobby.state == .ready) (.lobbyClosedOrTransition stored.lobby.state
        "lobby must be READY before start" dryRun)
      startReady id stored request key replay now dryRun

/-- The record under the claimant, whose claim is the current one or a successor's. -/
def acceptClaim (stored : StoredLobby) (current : AuthorityElection) (actor : PlayerId)
    (request : AuthorityHeartbeatRequest) (now : UnixMillis) (dryRun : Bool) :
    Except ApiError StoredLobby :=
  if StoredLobby.currentClaim current actor request then
    if stored.requestedEpoch request = stored.authorityEpoch then .ok stored
    else .error (.new 409 "authority_epoch_mismatch"
      "heartbeat epoch does not match the installed authority" dryRun)
  else if stored.acceptsSuccessor current actor request now = false then
    .error (.notAuthority
      "in-match successor claim failed silence, epoch, or survivor validation" dryRun)
  else
    match stored.matchStartElection with
    | none => .error (.authorityUnavailable "match-start election input is unavailable" dryRun)
    | some locked =>
      if (StoredLobby.survivorCandidates locked request.survivors).length
          ≠ request.survivors.length then
        .error (.notAuthority "survivor set is not covered by the locked election matrix" dryRun)
      else
        match StoredLobby.survivorElection locked request.survivors with
        | .error error => .error (.authorityError error dryRun)
        | .ok successor =>
          if successor.winnerPlayerId ≠ actor then
            .error (.notAuthority "successor does not win the locked survivor election" dryRun)
          else if (stored.applyElection successor now).authorityEpoch
              ≠ stored.requestedEpoch request then
            .error (.new 409 "authority_epoch_mismatch"
              "successor election did not install the requested epoch" dryRun)
          else .ok (stored.applyElection successor now)

def authorityHeartbeat (config : ServiceConfig) (headers : Headers)
    (request : AuthorityHeartbeatRequest) : Service Response := do
  let legacy ← authorizeScope id
  let actor := legacy.getD request.playerId
  let now ← clockNow id
  let stored ← loadMaintainedLobby id now (config.forceDryRun || headers.dryRun)
  let dryRun ← ofExcept (mutationDryRun config headers stored)
  check (stored.lobby.state == .starting || stored.lobby.state == .inMatch)
    (.lobbyClosedOrTransition stored.lobby.state
      "heartbeat is accepted only while STARTING or IN_MATCH" dryRun)
  match stored.lastElection with
  | none => fail (.authorityUnavailable "lobby has no authority election" dryRun)
  | some current => do
    let claimed ← ofExcept (acceptClaim stored current actor request now dryRun)
    match claimed.lastElection with
    | none => fail (.internalError dryRun)
    | some election =>
      let stored := claimed.heartbeatAccepted actor election now
      match stored.lobby.authority with
      | none => fail (.internalError dryRun)
      | some authority => do
        persist id stored dryRun
        pure (.heartbeat stored.lobby.state authority election.inputHash)

def submitResults (config : ServiceConfig) (headers : Headers) (request : SubmitResultsRequest)
    (fingerprint : List UInt8) : Service Response := do
  let legacy ← authorizeScope id
  let actor := legacy.getD request.submittedBy
  let now ← clockNow id
  let stored ← loadMaintainedLobby id now (config.forceDryRun || headers.dryRun)
  let dryRun ← ofExcept (mutationDryRun config headers stored)
  let key ← ofExcept (headers.requireIdempotencyKey dryRun)
  match stored.resultsReplays[key]? with
  | some replay => do
    check (replay.actor == actor && replay.fingerprint == fingerprint)
      (.idempotencyConflict dryRun)
    pure .results
  | none => do
    check (stored.lobby.state == .inMatch) (.lobbyClosedOrTransition stored.lobby.state
      "results are accepted only while IN_MATCH" dryRun)
    match stored.lastElection with
    | none => fail (.internalError dryRun)
    | some election => do
      check (election.winnerPlayerId == request.submittedBy)
        (.notAuthority "results must be submitted by the last known authority" dryRun)
      check (election.inputHash == request.inputHash)
        (.new 409 "authority_input_mismatch"
          "results input_hash does not match the last authority election" dryRun)
      ofExcept (validateResults stored request dryRun)
      let stored := stored.resultsAccepted key ⟨fingerprint, actor, now⟩
      persist id stored dryRun
      let stored ← cleanupResources id stored now true true
      persist id stored dryRun
      pure .results

/-! ## Delete -/

def deleteLobby (config : ServiceConfig) (headers : Headers) : Service Response := do
  let legacy ← authorizeScope id
  let now ← clockNow id
  let stored ← loadMaintainedLobby id now (config.forceDryRun || headers.dryRun)
  let dryRun ← ofExcept (mutationDryRun config headers stored)
  check (legacy.all (· == stored.creatorPlayerId))
    (.new 403 "not_creator" "action is restricted to the lobby creator" dryRun)
  if stored.lobby.state = .destroyed ∧ stored.cleanupPending = false then pure (.destroyed false)
  else if stored.lobby.state.isClosed then do
    let stored ← cleanupResources id stored now true true
    persist id stored dryRun
    pure (.destroyed stored.cleanupPending)
  else do
    let stored := stored.withState .closing
    persist id stored dryRun
    let stored ← cleanupResources id stored now true true
    persist id stored dryRun
    pure (.destroyed stored.cleanupPending)

/-! ## Create -/

def networked (stored : StoredLobby) (prepared : PreparedNetwork) (mode : ProvisioningMode)
    (now : UnixMillis) (dryRun : Bool) : Except ApiError StoredLobby :=
  let stored : StoredLobby := { stored with tailnet := prepared.tailnet, dryRun := prepared.dryRun }
  if prepared.dryRun then .ok { stored with networkLifecycle := .simulated }
  else
    match prepared.identity with
    | none => .error (.internalError dryRun)
    | some identity =>
      match identity.validateForMode mode with
      | .error error => .error (.provider error dryRun)
      | .ok () =>
        let stored : StoredLobby := { stored with
          networkIdentity := some ⟨identity.providerTailnetId, identity.tailnetDnsName,
            stored.networkGeneration, now⟩
          networkLifecycle := .active }
        if mode = .tailnetPerLobby then
          match prepared.childPolicyEvidence with
          | none => .error (.internalError dryRun)
          | some digest => .ok { stored with
              childPolicyDigest := some digest
              childPolicyStatus := some "verified" }
        else .ok stored

/-- The record of a lobby whose provisioning succeeded. -/
def provisioned (stored : StoredLobby) (prepared : PreparedNetwork) (mode : ProvisioningMode)
    (capabilities : ProviderCapabilities) (now : UnixMillis) (dryRun : Bool) :
    Except ApiError StoredLobby :=
  match networked stored prepared mode now dryRun with
  | .error error => .error error
  | .ok stored =>
    if prepared.dryRun || capabilities.modeAvailable mode then .ok (stored.withState .forming)
    else
      .ok { (stored.withState .failed).explained (capabilities.blockedStateReason mode) with
        networkLifecycle := .manualRemediation
        cleanupPending := true
        terminalAt := some now }

/-- The record of a lobby whose provisioning failed. -/
def provisionFailed (stored : StoredLobby) (error : ProviderError) (mode : ProvisioningMode)
    (now : UnixMillis) : StoredLobby :=
  let stored := stored.withState .failed
  match error with
  | .childPolicyGate identity expectedDigest status deleteAcknowledged =>
    let stored : StoredLobby := { stored.explained error.stateReason with
      tailnet := identity.tailnetDnsName.asStr
      networkIdentity := some ⟨identity.providerTailnetId, identity.tailnetDnsName,
        stored.networkGeneration, now⟩
      childPolicyDigest := some expectedDigest
      childPolicyStatus := some status.asStr
      cleanupRequestedAt := some now
      cleanupPending := true
      terminalAt := some now }
    if deleteAcknowledged then
      { stored with deleteAcknowledgedAt := some now, networkLifecycle := .verifyingAbsence }
    else { stored with networkLifecycle := .cleanupPending }
  | _ =>
    let ambiguousChildCreate := mode == .tailnetPerLobby && error.isUnavailable
    let lifecycle : NetworkLifecycle :=
      if ambiguousChildCreate then .createUnknown
      else if mode = .tailnetPerLobby
          ∧ error = .insufficientScopes "organization_tailnet_create" then .createRejected
      else .manualRemediation
    { stored.explained (if ambiguousChildCreate then
        "tailnet_create_outcome_unknown_manual_remediation" else error.stateReason) with
      networkLifecycle := lifecycle
      cleanupPending := lifecycle != .createRejected
      terminalAt := some now }

/-- Provisions a lobby that has just been created. -/
def provision (advanced : StoredLobby) (mode : ProvisioningMode) (now : UnixMillis)
    (dryRun : Bool) : Service Response := do
  let prepared ← prepareLobby id ⟨id, advanced.networkGeneration, mode, dryRun⟩
  match prepared with
  | .ok prepared => do
    let capabilities ← ask id (·.capabilities)
    let advanced ← ofExcept (provisioned advanced prepared mode capabilities now dryRun)
    persist id advanced dryRun
    pure (.created id)
  | .error error => do
    persist id (provisionFailed advanced error mode now) dryRun
    pure (.created id)

/-- The mode the service gives a create, which real clients cannot choose. -/
def effectiveMode (config : ServiceConfig) (request : CreateLobbyRequest)
    (dryRun admitted localOperator : Bool) : Except ApiError ProvisioningMode :=
  if dryRun then .ok .dryRun
  else if config.legacyRealTestMode then .ok request.provisioningMode
  else if !admitted || (config.localRehearsal.isSome && !localOperator) then
    .error .realAdmissionClosed
  else if request.provisioningMode ≠ .tailnetPerLobby then
    .error (.new 422 "provisioning_mode_server_selected"
      "real lobbies use the server-selected dedicated mode" false)
  else .ok .tailnetPerLobby

/-- The verifier of the one-use authority a real create presents. -/
def realCreateGrant (config : ServiceConfig) (headers : Headers) (dryRun localOperator : Bool)
    (now : UnixMillis) : Service (Option Digest) :=
  if dryRun then pure none
  else if config.legacyRealTestMode then do
    let token ← ask id (·.token)
    let issued ← storeIssueGrant id token (now.satAdd 60000)
    match issued with
    | none => fail (.internalError false)
    | some (.error error) => fail (.store error false)
    | some (.ok ()) => pure (some token)
  else if localOperator then
    match config.protectedAlpha, config.localRehearsal with
    | some alpha, _ => pure (some alpha.launchCodeSha256)
    | none, some rehearsal => pure (some rehearsal.receiptVerifier)
    | none, none => fail (.lobbyNotFound false)
  else
    match headers.capability with
    | some verifier => pure (some verifier)
    | none => fail (.lobbyNotFound false)

def newRecord (config : ServiceConfig) (request : CreateLobbyRequest) (mode : ProvisioningMode)
    (actor : PlayerId) (token : Digest) (tag : String) (dryRun localOperator : Bool)
    (now : UnixMillis) : StoredLobby :=
  let absoluteTtlMs := if dryRun then config.dryRunTtlMs else ABSOLUTE_TTL_MS
  let idleTtlMs := min IDLE_TTL_MS absoluteTtlMs
  let lobby : Lobby := {
    lobbyId := id
    state := .provisioning
    stateReason := none
    roster := []
    maxPlayers := request.maxPlayers
    mapSeed := none
    authority := none
    ttl := ⟨now.satAdd idleTtlMs, now.satAdd absoluteTtlMs⟩
    provisioningMode := mode
    createdAt := now }
  let creatorExpiresAt :=
    now.satAdd (absoluteTtlMs.satAdd CREATOR_CAPABILITY_CLEANUP_GRACE_MS)
  let stored := (StoredLobby.new lobby actor "provisioning.invalid" tag dryRun
    idleTtlMs).addCapability (.new token [.lobbyRead, .lobbyInvite, .lobbyManage, .lobbyDestroy]
      id none 1 creatorExpiresAt)
  match config.protectedAlpha.filter fun _ => localOperator with
  | none => stored
  | some alpha =>
    { stored with
      networkGeneration := alpha.networkGeneration
      lobby := { stored.lobby with
        ttl := ⟨min stored.lobby.ttl.idleExpiresAt alpha.absoluteDeadline,
          alpha.absoluteDeadline⟩ } }

def createAndProvision (call : CreateCall) (mode : ProvisioningMode) (dryRun : Bool) :
    Service Response := do
  let outcome ← storeCreate id call
  match outcome with
  | none => fail (.internalError dryRun)
  | some (.error error) => fail (.store error dryRun)
  | some (.ok .conflict) => fail (.idempotencyConflict dryRun)
  | some (.ok (.replay stored)) => pure (.created stored.lobby.lobbyId)
  | some (.ok (.created stored)) =>
    if dryRun then provision id stored mode call.now dryRun
    else do
      let advanced : StoredLobby := { stored with networkLifecycle := .creating }
      persist id advanced dryRun
      provision id advanced mode call.now dryRun

/-- `id` is the identifier of the receipt, or a fresh one. -/
def createLobby (config : ServiceConfig) (headers : Headers) (request : CreateLobbyRequest)
    (fingerprint : List UInt8) (tag : String) (localOperator : Bool) : Service Response := do
  let _ ← authorizeScope id
  let dryRun := config.forceDryRun || headers.dryRun || request.provisioningMode == .dryRun
  let actor ← ofExcept (headers.requireActor dryRun)
  let key ← ofExcept (headers.requireIdempotencyKey dryRun)
  check request.isValid (.invalidRequest dryRun)
  check (request.maxPlayers ≤ config.maxPlayers) (.new 422 "max_players_exceeds_service_limit"
    "max_players exceeds this service deployment limit" dryRun)
  check (dryRun || !config.allowLegacyClientAssertions || config.legacyRealTestMode)
    (.new 503 "legacy_real_mutations_forbidden"
      "legacy asserted-player mode cannot perform real provider mutations" false)
  let admitted ← ask id (·.admitted)
  let mode ← ofExcept (effectiveMode config request dryRun admitted localOperator)
  let now ← clockNow id
  let grant ← realCreateGrant id config headers dryRun localOperator now
  let token ← ask id (·.token)
  let stored := newRecord id config request mode actor token tag dryRun localOperator now
  let call : CreateCall :=
    ⟨key, fingerprint, actor, now, stored, grant, config.realMutationsEnabled⟩
  createAndProvision id call mode dryRun

/-! ## The reaper, the launcher and the restart -/

/-- One lobby of a reaper pass. -/
def cleanupExpired : Service Response := do
  let now ← clockNow id
  let found ← storeGet id
  match found with
  | none => pure .done
  | some stored =>
    let moved := stored.applyTimeTransitions now
    let stored := moved.1
    if moved.2 || stored.lobby.state == .closing
        || (stored.cleanupPending && stored.lobby.state.isTerminal) then do
      let stored ← cleanupResources id stored now true (stored.lobby.state == .closing)
      let _ ← storeReplace id stored
      pure .done
    else pure .done

def beginProtectedCleanup (generation : UInt64) : Service Response := do
  let found ← storeGet id
  match found with
  | none => pure .done
  | some stored =>
    if stored.dryRun = false ∧ stored.networkGeneration = generation then do
      let now ← clockNow id
      let stored ← cleanupResources id stored.protectedCleanupBegun now true true
      persist id stored false
      pure .done
    else pure .done

/-- The identity a dedicated lobby must have by now is missing. -/
def identityMissing (stored : StoredLobby) : Bool :=
  stored.lobby.provisioningMode == .tailnetPerLobby && stored.networkIdentity.isNone
    && stored.networkLifecycle != .reserved && stored.networkLifecycle != .createRejected

def policyEvidenceMissing (stored : StoredLobby) (expectedPolicyDigest : Option String) : Bool :=
  stored.lobby.provisioningMode == .tailnetPerLobby && stored.networkLifecycle == .active
    && (stored.childPolicyStatus != some "verified"
      || stored.childPolicyDigest != expectedPolicyDigest)

/-- The provider's access check, then its custody of the child credentials. -/
def startupAccessError (stored : StoredLobby) (denied custody : Option ProviderError) :
    Option ProviderError :=
  match denied with
  | some error => some error
  | none =>
    if stored.lobby.provisioningMode ≠ .tailnetPerLobby ∨ stored.networkLifecycle = .reserved
        ∨ stored.networkLifecycle = .createRejected
        ∨ stored.networkLifecycle = .dedicatedAbsent then none
    else if stored.providerIdentity.isNone then some .identityMismatch
    else custody

/-- The record that startup leaves to manual remediation, when it does. -/
def startupVerdict (stored : StoredLobby) (denied custody : Option ProviderError)
    (expectedPolicyDigest : Option String) : Option String :=
  match startupAccessError stored denied custody with
  | some error => some error.stateReason
  | none =>
    if policyEvidenceMissing stored expectedPolicyDigest then
      some "child_policy_evidence_missing_manual_remediation"
    else if identityMissing stored then some "provider_identity_missing_manual_remediation"
    else none

/-- The evidence a restart asks for. -/
def verifyEvidence (stored : StoredLobby) : Service Response :=
  if stored.dryRun then pure .done
  else do
    let denied ← lobbyAccessError id
    let custody ← ask id (·.custody)
    let digest ← ask id (·.policyDigest)
    match startupVerdict stored denied custody digest with
    | none => pure .done
    | some reason => do
      let _ ← storeReplace id (stored.remediated.pended.explained reason)
      pure .done

/-- One lobby of the startup reconciliation. -/
def reconcileStartup : Service Response := do
  let found ← storeGet id
  match found with
  | none => pure .done
  | some stored =>
    if 0 < stored.sessionGeneration
        ∧ (stored.lobby.state = .starting ∨ stored.lobby.state = .inMatch) then do
      let stored := stored.sessionRenewed
      let written ← storeReplace id stored
      if written then verifyEvidence id stored else pure .done
    else verifyEvidence id stored

end Service

/-! ## Runs -/

inductive LobbyRequest
  | create (headers : Headers) (request : CreateLobbyRequest) (fingerprint : List UInt8)
      (tag : String) (localOperator : Bool)
  | get (headers : Headers)
  | invite
  | join (headers : Headers) (request : JoinLobbyRequest) (fingerprint : List UInt8)
  | leave (headers : Headers) (player : PlayerId)
  | measure (headers : Headers) (request : SubmitMeasurementsRequest)
  | elect (headers : Headers)
  | start (headers : Headers) (request : StartLobbyRequest) (fingerprint : List UInt8)
  | heartbeat (headers : Headers) (request : AuthorityHeartbeatRequest)
  | results (headers : Headers) (request : SubmitResultsRequest) (fingerprint : List UInt8)
  | delete (headers : Headers)
  | cleanupExpired
  | beginProtectedCleanup (generation : UInt64)
  | reconcileStartup

def LobbyRequest.program (id : LobbyId) (config : ServiceConfig) :
    LobbyRequest → Service Response
  | create headers request fingerprint tag localOperator =>
    Service.createLobby id config headers request fingerprint tag localOperator
  | get headers => Service.getLobby id config headers
  | invite => Service.createInvitation id config
  | join headers request fingerprint => Service.joinLobby id config headers request fingerprint
  | leave headers player => Service.leaveLobby id config headers player
  | measure headers request => Service.submitMeasurements id config headers request
  | elect headers => Service.electLobbyAuthority id config headers
  | start headers request fingerprint => Service.startLobby id config headers request fingerprint
  | heartbeat headers request => Service.authorityHeartbeat id config headers request
  | results headers request fingerprint =>
    Service.submitResults id config headers request fingerprint
  | delete headers => Service.deleteLobby id config headers
  | cleanupExpired => Service.cleanupExpired id
  | beginProtectedCleanup generation => Service.beginProtectedCleanup id generation
  | reconcileStartup => Service.reconcileStartup id

inductive ServiceStep
  /-- A request runs until it answers, or until it is dropped for want of answers. -/
  | handle (config : ServiceConfig) (request : LobbyRequest) (answers : List Answer)
  | elsewhere (step : StoreStep)
  | restart

/-- The process memory is lost, and the image in the file is loaded. -/
def World.restarted (s : World) : World :=
  { s with
    data := (s.file.getD s.data).normalizeLoadedStore.2
    anchor := none
    trace := .restarted :: s.trace
    file := none }

/-- One step of the service, as far as the lobby `id` is concerned.  It restarts only with the image
of its memory in the file; `World.fileStep` restarts with any. -/
def World.step (id : LobbyId) (s : World) : ServiceStep → Unit × World
  | .handle config request answers => ((), (request.program id config).exec s answers)
  | .elsewhere step => ((), s.elsewhere id step)
  | .restart => ((), if s.file.isSome then s else s.restarted)

/-- One step, where a restart may find what a failed persist has left. -/
def World.fileStep (id : LobbyId) (s : World) : ServiceStep → Unit × World
  | .restart => ((), s.restarted)
  | step => s.step id step

end Spurfire
