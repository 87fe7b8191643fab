import Spurfire.Protocol.Election
import Spurfire.Net.State
import Spurfire.Net.Canonical
import Spurfire.Net.Fragments

/-!
# The wire-v2 secure session

`M3SecureSession` is one peer of a live match (`v2.rs`): the signed roster, the shared
`SessionState`, the two reassembly buffers, the actor keyframes of the delta stream and the last
accepted truths.

* `envelope` signs a local payload and turns actor snapshots into deltas between keyframes;
* `acceptWithSourceValidated` is the receive path: `authenticate` checks source, roster and
  signature, then `acceptAuthenticated` dispatches to the direct path or to one of the two
  fragment paths;
* `expireAndMigrate` is the local succession.

Each receive path is cut where the source can still return early: a gate that reads the state
only, a buffering stage that may touch a reassembly buffer, and a commit.
-/

namespace Spurfire

open Std (ExtTreeMap)
open SessionState (timedOut)

structure PendingMigration where
  authority : PlayerId
  epoch : UInt64
  stateHash : Vector UInt8 32
  fragmentCount : UInt16
  startedMs : UInt64
  envelopes : ExtTreeMap UInt16 M3EnvelopeV2

structure PendingMatchState where
  sender : PlayerId
  epoch : UInt64
  tick : UInt64
  stateHash : Vector UInt8 32
  fragmentCount : UInt16
  startedMs : UInt64
  replayFloor : UInt64
  envelopes : ExtTreeMap UInt16 M3EnvelopeV2

def PendingMigration.add (pending : PendingMigration) (index : UInt16) (env : M3EnvelopeV2) :
    PendingMigration :=
  { pending with envelopes := pending.envelopes.insert index env }

def PendingMatchState.add (pending : PendingMatchState) (index : UInt16) (env : M3EnvelopeV2) :
    PendingMatchState :=
  { pending with envelopes := pending.envelopes.insert index env }

structure M3SecureSession where
  manifest : RosterManifest
  rosterHash : RosterHash
  state : SessionState
  pendingMigration : Option PendingMigration
  pendingMatchState : Option PendingMatchState
  installedCheckpoint : Option M3MatchCheckpointV2
  sentActorKeyframes : ExtTreeMap PlayerId (UInt64 × M3ActorSnapshot)
  receivedActorKeyframes : ExtTreeMap PlayerId (UInt64 × M3ActorSnapshot)
  acceptedActorSnapshot : Option (UInt64 × M3ActorSnapshot)
  acceptedMatchState : Option (UInt64 × M5MatchStateV2)

/-- The buffered envelopes in fragment order. -/
def fragmentRows (envelopes : ExtTreeMap UInt16 M3EnvelopeV2) : List M3EnvelopeV2 :=
  envelopes.toList.map (·.2)

namespace M3SecureSession

variable (X : Externals)

def new (manifest : RosterManifest) (manifestPublicKey : SessionPublicKey)
    (manifestSignature : SessionSignature) (state : SessionState) :
    Except SessionIdentityError M3SecureSession :=
  match manifest.validate with
  | .error error => .error error
  | .ok () =>
    match X.verifyDigest manifestPublicKey
        (canonicalManifestDigest X.toCrypto manifestPublicKey manifest) manifestSignature with
    | .error error => .error error
    | .ok () =>
      .ok { manifest := manifest
            rosterHash := Spurfire.rosterHash X.toCrypto manifest
            state := state
            pendingMigration := none
            pendingMatchState := none
            installedCheckpoint := none
            sentActorKeyframes := ∅
            receivedActorKeyframes := ∅
            acceptedActorSnapshot := none
            acceptedMatchState := none }

/-- The snapshot reconstructed from the last accepted actor packet, for its own sequence. -/
def acceptedActorSnapshotFor (s : M3SecureSession) (sequence : UInt64) : Option M3ActorSnapshot :=
  (s.acceptedActorSnapshot.filter fun row => row.1 == sequence).map (·.2)

def takeInstalledCheckpoint (s : M3SecureSession) : Option M3MatchCheckpointV2 × M3SecureSession :=
  (s.installedCheckpoint, { s with installedCheckpoint := none })

/-- What a change of authority or epoch discards outside the replay state. -/
def forgetEpoch (s : M3SecureSession) : M3SecureSession :=
  { s with
    sentActorKeyframes := ∅
    receivedActorKeyframes := ∅
    acceptedActorSnapshot := none
    pendingMatchState := none
    acceptedMatchState := none }

/-! ## Migration order -/

/-- Higher scores first, then smaller identifiers. -/
def byScore (candidates : List ScoredAuthorityCandidate) : List ScoredAuthorityCandidate :=
  candidates.insertionSort fun left right => left.toScore.precedes right.toScore

/-- The order of succession an election implies: normally eligible candidates by score, then the
ineligible ones by score, then the players without a usable measurement by identifier. -/
def electionPreference (election : AuthorityElection) (manifestPlayers : List PlayerId) :
    List PlayerId :=
  let normallyEligible := byScore (election.scoredCandidates.filter (·.isEligible))
  let degraded := byScore (election.scoredCandidates.filter (!·.isEligible))
  let swapped := if normallyEligible.isEmpty then (degraded, normallyEligible)
    else (normallyEligible, degraded)
  let preference := (swapped.1 ++ swapped.2).map (·.playerId)
  preference ++ manifestPlayers.filter fun player => !preference.contains player

/-- Locks the match-start election into the migration order.  The election is recomputed, so a
forged preference cannot be installed. -/
def configureMigrationElection (s : M3SecureSession) (response : AuthorityResponse) :
    Bool × M3SecureSession :=
  let rosterSize := s.manifest.entries.length
  let manifestPlayers := orderedSet (s.manifest.entries.map (·.playerId))
  let inputPlayers := orderedSet (response.input.candidates.map (·.playerId))
  if response.input.rosterSize.toNat ≠ rosterSize ∨ inputPlayers ≠ manifestPlayers
      ∨ response.winnerPlayerId ≠ s.state.authority then
    (false, s)
  else
    match electAuthorityForRoster response.input.candidates response.input.electionAt
        response.input.expectedWireVersion rosterSize with
    | .error _ => (false, s)
    | .ok election =>
      if election.toResponse ≠ response then (false, s)
      else
        let configured := s.state.configureMigrationPreference
          (electionPreference election manifestPlayers)
        (configured.1, { s with state := configured.2 })

/-! ## Sending -/

def sign (s : M3SecureSession) (env : M3EnvelopeV2) (signingKey : SigningKey) :
    Except SessionIdentityError M3EnvelopeV2 :=
  if env.wireVersion ≠ M3_WIRE_VERSION then .error .badSignature
  else
    match s.manifest.entry env.sender with
    | none => .error .badSignature
    | some entry =>
      if entry.sessionPublicKey ≠ X.verifyingKey signingKey then .error .badSignature
      else
        let digest := env.digest X.toCrypto s.manifest.networkGeneration
          s.manifest.sessionGeneration s.rosterHash
        .ok { env with
              session := some
                { networkGeneration := s.manifest.networkGeneration
                  sessionGeneration := s.manifest.sessionGeneration
                  rosterHash := s.rosterHash
                  signature := X.sign signingKey digest } }

/-- The keyframe a snapshot of this tick is encoded against, if one is recent enough. -/
def deltaBase (s : M3SecureSession) (tick : UInt64) (rider : PlayerId) :
    Option (UInt64 × M3ActorSnapshot) :=
  (s.sentActorKeyframes[rider]?).filter fun base =>
    tick > base.1 && tick - base.1 < M3_ACTOR_KEYFRAME_TICKS

/-- Callers supply complete snapshots; only the session derives deltas. -/
def outgoingPayload (s : M3SecureSession) (tick : UInt64) :
    M3PeerPayloadV2 → Except SessionIdentityError M3PeerPayloadV2
  | .actorSnapshot snapshot =>
    if !snapshot.isCanonical then .error .badSignature
    else
      match s.deltaBase tick snapshot.riderPlayerId with
      | some (baseTick, base) =>
        .ok (.actorSnapshotDelta (M3ActorSnapshotDelta.between baseTick base snapshot))
      | none => .ok (.actorSnapshot snapshot)
  | .actorSnapshotDelta _ => .error .badSignature
  | payload => .ok payload

/-- Whether the local player may speak about the subject of a payload. -/
def subjectIsValid (s : M3SecureSession) (tick : UInt64) : M3PeerPayloadV2 → Bool
  | .actorSnapshot snapshot =>
    s.state.localPlayer == s.state.authority && s.state.peers.contains snapshot.riderPlayerId
  | .actorSnapshotDelta delta =>
    s.state.localPlayer == s.state.authority && s.state.peers.contains delta.riderPlayerId
  | .matchState state =>
    s.state.localPlayer == s.state.authority && state.authorityEpoch == s.state.authorityEpoch
      && state.currentTick == tick
  | .matchStateFragment .. => s.state.localPlayer == s.state.authority
  | .shotResult result =>
    s.state.localPlayer == s.state.authority && result.tick == tick
      && s.state.peers.contains result.shooterPeerId
  | .shotCommand command => command.shooterPeerId == s.state.localPlayer && command.tick == tick
  | .authority claimed epoch => claimed == s.state.localPlayer && epoch == s.state.authorityEpoch
  | .migrationFragment claimed epoch _ _ _ _ =>
    claimed == s.state.localPlayer && epoch == s.state.authorityEpoch
  | .hello _ | .heartbeat | .probe .. | .actorLoadout _ | .actorInput _ | .leave => true

/-- Remembers a complete snapshot as the base of later deltas. -/
def rememberKeyframe (s : M3SecureSession) (tick : UInt64) : M3PeerPayloadV2 → M3SecureSession
  | .actorSnapshot snapshot =>
    { s with
      sentActorKeyframes :=
        s.sentActorKeyframes.insert snapshot.riderPlayerId (tick, snapshot) }
  | _ => s

/-- The next envelope of the local player, before it is signed. -/
def unsigned (s : M3SecureSession) (tick : UInt64) (payload : M3PeerPayloadV2) : M3EnvelopeV2 where
  wireVersion := M3_WIRE_VERSION
  lobbyId := s.state.lobbyId
  sender := s.state.localPlayer
  sequence := s.state.nextSequence
  authorityEpoch := s.state.authorityEpoch
  simulationTick := tick
  payload := payload
  session := none

/-- The session after an envelope has been signed. -/
def afterSend (s : M3SecureSession) (tick : UInt64) (payload : M3PeerPayloadV2) : M3SecureSession :=
  { s.rememberKeyframe tick payload with
    state := { s.state with nextSequence := s.state.nextSequence.satAdd 1 } }

def envelope (s : M3SecureSession) (tick : UInt64) (payload : M3PeerPayloadV2)
    (signingKey : SigningKey) : Except SessionIdentityError M3EnvelopeV2 × M3SecureSession :=
  match s.outgoingPayload tick payload with
  | .error error => (.error error, s)
  | .ok payload =>
    if !payload.isValid then (.error .badSignature, s)
    else if !s.subjectIsValid tick payload then (.error .badSignature, s)
    else
      match s.sign X (s.unsigned tick payload) signingKey with
      | .error error => (.error error, s)
      | .ok env => (.ok env, s.afterSend tick env.payload)

/-! ## Local succession -/

def expireAndMigrate (s : M3SecureSession) (nowMs : UInt64) :
    Option (PlayerId × UInt64) × M3SecureSession :=
  let migration := s.state.expireAndMigrate nowMs
  let s := { s with state := migration.2 }
  (migration.1,
    if migration.1.isSome then { s.forgetEpoch with pendingMigration := none } else s)

/-! ## Direct payloads -/

def isAuthorityOnly : M3PeerPayloadV2 → Bool
  | .actorSnapshot _ | .actorSnapshotDelta _ | .shotResult _ | .matchState _
  | .matchStateFragment .. => true
  | _ => false

def isAuthorityClaim : M3PeerPayloadV2 → Bool
  | .authority .. => true
  | _ => false

def subjectIsInvalid (s : M3SecureSession) (env : M3EnvelopeV2) : Bool :=
  match env.payload with
  | .shotCommand command =>
    command.shooterPeerId != env.sender || command.tick != env.simulationTick
  | .shotResult result =>
    result.tick != env.simulationTick || !s.state.peers.contains result.shooterPeerId
  | .actorSnapshot snapshot => !s.state.peers.contains snapshot.riderPlayerId
  | .actorSnapshotDelta delta =>
    !s.state.peers.contains delta.riderPlayerId || delta.baseTick ≥ env.simulationTick
  | .matchState state =>
    state.authorityEpoch != env.authorityEpoch || state.currentTick != env.simulationTick
      || state.players.any fun row => !s.state.peers.contains row.playerId
  | .authority authority epoch => authority != env.sender || epoch != env.authorityEpoch
  | _ => false

/-- The complete snapshot behind an actor packet: `none` when a delta has no matching base. -/
def reconstruct (s : M3SecureSession) : M3PeerPayloadV2 → Option (Option M3ActorSnapshot)
  | .actorSnapshot snapshot => some (some snapshot)
  | .actorSnapshotDelta delta =>
    match s.receivedActorKeyframes[delta.riderPlayerId]? with
    | none => none
    | some (baseTick, base) =>
      if baseTick ≠ delta.baseTick then none
      else (delta.apply base).map some
  | _ => some none

def receiptOf (env : M3EnvelopeV2) : Option (UInt64 × PlayerId × UInt64) :=
  match env.payload with
  | .shotResult result => some (env.authorityEpoch, result.shooterPeerId, result.tick)
  | _ => none

def claimIsIncoherent (s : M3SecureSession) (env : M3EnvelopeV2) (nowMs : UInt64) : Bool :=
  match env.payload with
  | .authority authority epoch =>
    !s.state.authorityClaimIsCoherent env.sender authority epoch nowMs
  | _ => false

/-- Decides a direct payload; the answer carries the reconstructed snapshot. -/
def directGate (s : M3SecureSession) (env : M3EnvelopeV2) (nowMs : UInt64) :
    Except AcceptOutcome (Option M3ActorSnapshot) :=
  if env.authorityEpoch ≠ s.state.authorityEpoch ∧ !isAuthorityClaim env.payload then
    .error .invalidPayloadRole
  else if isAuthorityOnly env.payload ∧ env.sender ≠ s.state.authority then
    .error .invalidPayloadRole
  else if s.subjectIsInvalid env then .error .invalidPayloadSubject
  else
    match s.reconstruct env.payload with
    | none => .error .invalidPayloadSubject
    | some snapshot =>
      if (receiptOf env).any fun receipt => decide (receipt ∈ s.state.appliedShotResults) then
        .error .duplicateShotResult
      else if env.sequence ≤ s.state.lastSequence env.sender then .error .duplicateOrReplay
      else if s.claimIsIncoherent env nowMs then .error .invalidAuthorityClaim
      else .ok snapshot

/-- Replay window, liveness and receipt of an accepted direct payload. -/
def touchDirect (s : M3SecureSession) (env : M3EnvelopeV2) (nowMs : UInt64) : M3SecureSession :=
  let state := s.state.touch env.sender env.sequence nowMs (env.payload ≠ .leave)
  { s with
    state := match receiptOf env with
      | some receipt =>
        { state with appliedShotResults := insert receipt state.appliedShotResults }
      | none => state }

/-- Installs the claim of an accepted authority payload when it wins. -/
def installClaim (s : M3SecureSession) : M3PeerPayloadV2 → M3SecureSession
  | .authority authority epoch =>
    if epoch > s.state.authorityEpoch
        ∨ (epoch = s.state.authorityEpoch ∧ authority < s.state.authority) then
      { s.forgetEpoch with
        state := { s.state with authority := authority, authorityEpoch := epoch } }
    else s
  | _ => s

/-- Remembers an accepted actor packet, as a keyframe when it is complete. -/
def recordSnapshot (s : M3SecureSession) (env : M3EnvelopeV2) :
    Option M3ActorSnapshot → M3SecureSession
  | none => s
  | some snapshot =>
    { s with
      receivedActorKeyframes := match env.payload with
        | .actorSnapshot _ =>
          s.receivedActorKeyframes.insert snapshot.riderPlayerId (env.simulationTick, snapshot)
        | _ => s.receivedActorKeyframes
      acceptedActorSnapshot := some (env.sequence, snapshot) }

def recordMatchState (s : M3SecureSession) (env : M3EnvelopeV2) : M3SecureSession :=
  match env.payload with
  | .matchState state =>
    { s with pendingMatchState := none, acceptedMatchState := some (env.sequence, state) }
  | _ => s

def directCommit (s : M3SecureSession) (env : M3EnvelopeV2) (nowMs : UInt64)
    (snapshot : Option M3ActorSnapshot) : M3SecureSession :=
  ((((s.touchDirect env nowMs).installClaim env.payload).recordSnapshot env
    snapshot).recordMatchState env)

def acceptDirect (s : M3SecureSession) (env : M3EnvelopeV2) (nowMs : UInt64) :
    AcceptOutcome × M3SecureSession :=
  match s.directGate env nowMs with
  | .error outcome => (outcome, s)
  | .ok snapshot => (.accepted, s.directCommit env nowMs snapshot)

/-! ## Fragments: what both kinds share -/

/-- A buffer already holds this index or this sequence. -/
def isBuffered (envelopes : ExtTreeMap UInt16 M3EnvelopeV2) (index : UInt16)
    (env : M3EnvelopeV2) : Bool :=
  envelopes.contains index
    || (fragmentRows envelopes).any fun candidate => candidate.sequence == env.sequence

def sequencesOf (envelopes : ExtTreeMap UInt16 M3EnvelopeV2) : List UInt64 :=
  (fragmentRows envelopes).map (·.sequence)

/-- The sequences are not pairwise different, or one is at or below the floor. -/
def sequencesBelow (envelopes : ExtTreeMap UInt16 M3EnvelopeV2) (floor : UInt64) : Bool :=
  (sequencesOf envelopes).toFinset.card != envelopes.size
    || (sequencesOf envelopes).min?.all fun sequence => sequence ≤ floor

/-! ## Match-state fragments -/

def matchStateConflicts (pending : PendingMatchState) (env : M3EnvelopeV2)
    (stateHash : Vector UInt8 32) (fragmentCount : UInt16) : Bool :=
  pending.sender != env.sender || pending.epoch != env.authorityEpoch
    || pending.tick != env.simulationTick || pending.stateHash != stateHash
    || pending.fragmentCount != fragmentCount

/-- The buffer this fragment goes to: the live one, or a fresh one whose replay floor is the
sender's window now.  `none` when an older fragment conflicts with the live buffer. -/
def openMatchState (s : M3SecureSession) (env : M3EnvelopeV2) (nowMs : UInt64)
    (stateHash : Vector UInt8 32) (fragmentCount : UInt16) : Option PendingMatchState :=
  let fresh : PendingMatchState :=
    { sender := env.sender
      epoch := env.authorityEpoch
      tick := env.simulationTick
      stateHash := stateHash
      fragmentCount := fragmentCount
      startedMs := nowMs
      replayFloor := s.state.lastSequence env.sender
      envelopes := ∅ }
  match s.pendingMatchState.filter fun pending => !timedOut nowMs pending.startedMs with
  | none => some fresh
  | some pending =>
    if matchStateConflicts pending env stateHash fragmentCount then
      if env.simulationTick ≤ pending.tick then none else some fresh
    else some pending

/-- The reassembled state does not belong to this envelope, or the fragments are not of one
sender, epoch and tick. -/
def matchStateIsForeign (s : M3SecureSession) (pending : PendingMatchState) (env : M3EnvelopeV2)
    (state : M5MatchStateV2) : Bool :=
  state.authorityEpoch != env.authorityEpoch || state.currentTick != env.simulationTick
    || state.players.any (fun row => !s.state.peers.contains row.playerId)
    || (fragmentRows pending.envelopes).any fun candidate =>
      candidate.sender != env.sender || candidate.authorityEpoch != env.authorityEpoch
        || candidate.simulationTick != env.simulationTick

/-- Completion of a full buffer.  The buffer has already been taken out of the session. -/
def completeMatchState (s : M3SecureSession) (pending : PendingMatchState) (env : M3EnvelopeV2)
    (nowMs : UInt64) : AcceptOutcome × M3SecureSession :=
  match reassembleM5MatchState X ((fragmentRows pending.envelopes).map (·.payload)) with
  | .error _ => (.invalidCheckpoint, s)
  | .ok state =>
    if s.matchStateIsForeign pending env state then (.invalidCheckpoint, s)
    else if sequencesBelow pending.envelopes pending.replayFloor
        ∨ (sequencesOf pending.envelopes).max?.all
          (fun sequence => sequence ≤ s.state.lastSequence env.sender) then
      (.duplicateOrReplay, s)
    else
      (.accepted,
        { s with
          state := s.state.touch env.sender ((sequencesOf pending.envelopes).max?.getD 0) nowMs
            true
          acceptedMatchState := some (env.sequence, state) })

/-- Adds a fragment to its buffer, and completes the buffer when it is full. -/
def bufferMatchState (s : M3SecureSession) (pending : PendingMatchState) (env : M3EnvelopeV2)
    (nowMs : UInt64) (fragmentIndex fragmentCount : UInt16) : AcceptOutcome × M3SecureSession :=
  if env.sequence ≤ pending.replayFloor ∨ isBuffered pending.envelopes fragmentIndex env then
    (.duplicateOrReplay, { s with pendingMatchState := some pending })
  else if (pending.add fragmentIndex env).envelopes.size ≠ fragmentCount.toNat then
    (.pendingFragment, { s with pendingMatchState := some (pending.add fragmentIndex env) })
  else
    completeMatchState X { s with pendingMatchState := none } (pending.add fragmentIndex env) env
      nowMs

def acceptMatchStateFragment (s : M3SecureSession) (env : M3EnvelopeV2) (nowMs : UInt64)
    (stateHash : Vector UInt8 32) (fragmentIndex fragmentCount : UInt16) :
    AcceptOutcome × M3SecureSession :=
  if env.authorityEpoch ≠ s.state.authorityEpoch ∨ env.sender ≠ s.state.authority then
    (.invalidPayloadRole, s)
  else if s.acceptedMatchState.any fun row => row.2.currentTick ≥ env.simulationTick then
    (.duplicateOrReplay, s)
  else
    match s.openMatchState env nowMs stateHash fragmentCount with
    | none => (.invalidCheckpoint, s)
    | some pending => s.bufferMatchState X pending env nowMs fragmentIndex fragmentCount

/-! ## Migration fragments -/

/-- The buffer this fragment goes to: the live one, or a fresh one. -/
def openMigration (s : M3SecureSession) (nowMs : UInt64) (authority : PlayerId) (epoch : UInt64)
    (stateHash : Vector UInt8 32) (fragmentCount : UInt16) : PendingMigration :=
  (s.pendingMigration.filter fun pending => !timedOut nowMs pending.startedMs).getD
    { authority := authority
      epoch := epoch
      stateHash := stateHash
      fragmentCount := fragmentCount
      startedMs := nowMs
      envelopes := ∅ }

/-- Completion of a full buffer.  The buffer has already been taken out of the session. -/
def completeMigration (s : M3SecureSession) (pending : PendingMigration) (env : M3EnvelopeV2)
    (nowMs : UInt64) (checkpointIsInstallable : M3MatchCheckpointV2 → Bool) :
    AcceptOutcome × M3SecureSession :=
  match reassembleM3Checkpoint X ((fragmentRows pending.envelopes).map (·.payload)) with
  | .error _ => (.invalidCheckpoint, s)
  | .ok (authority, epoch, checkpoint) =>
    if (fragmentRows pending.envelopes).any (fun candidate =>
          candidate.simulationTick != checkpoint.combat.tick)
        ∨ !s.state.authorityClaimIsCoherent env.sender authority epoch nowMs then
      (.invalidCheckpoint, s)
    else if !checkpointIsInstallable checkpoint then (.invalidCheckpoint, s)
    else if sequencesBelow pending.envelopes (s.state.lastSequence env.sender) then
      (.duplicateOrReplay, s)
    else
      let state := s.state.touch env.sender ((sequencesOf pending.envelopes).max?.getD 0) nowMs true
      (.accepted,
        { s.forgetEpoch with
          state :=
            { state with
              appliedShotResults := state.appliedShotResults ∪
                (checkpoint.combat.resolvedShots.map fun shot =>
                  (checkpoint.combat.sourceEpoch, shot.1, shot.2)).toFinset
              authority := authority
              authorityEpoch := epoch }
          installedCheckpoint := some checkpoint })

/-- Adds a fragment to its buffer, and completes the buffer when it is full. -/
def bufferMigration (s : M3SecureSession) (pending : PendingMigration) (env : M3EnvelopeV2)
    (nowMs : UInt64) (checkpointIsInstallable : M3MatchCheckpointV2 → Bool)
    (fragmentIndex fragmentCount : UInt16) : AcceptOutcome × M3SecureSession :=
  if isBuffered pending.envelopes fragmentIndex env then
    (.duplicateOrReplay, { s with pendingMigration := some pending })
  else if (pending.add fragmentIndex env).envelopes.size ≠ fragmentCount.toNat then
    (.pendingMigration, { s with pendingMigration := some (pending.add fragmentIndex env) })
  else
    completeMigration X { s with pendingMigration := none } (pending.add fragmentIndex env) env
      nowMs checkpointIsInstallable

/-- A fragment that does not belong to the live migration. -/
def migrationConflicts (pending : PendingMigration) (authority : PlayerId) (epoch : UInt64)
    (stateHash : Vector UInt8 32) (fragmentCount : UInt16) : Bool :=
  pending.authority != authority || pending.epoch != epoch || pending.stateHash != stateHash
    || pending.fragmentCount != fragmentCount

def acceptMigrationFragment (s : M3SecureSession) (env : M3EnvelopeV2) (nowMs : UInt64)
    (checkpointIsInstallable : M3MatchCheckpointV2 → Bool) (authority : PlayerId) (epoch : UInt64)
    (stateHash : Vector UInt8 32) (fragmentIndex fragmentCount : UInt16) :
    AcceptOutcome × M3SecureSession :=
  if authority ≠ env.sender ∨ epoch ≠ env.authorityEpoch
      ∨ !s.state.authorityClaimIsCoherent env.sender authority epoch nowMs then
    (.invalidAuthorityClaim, s)
  else if env.sequence ≤ s.state.lastSequence env.sender then (.duplicateOrReplay, s)
  else if migrationConflicts (s.openMigration nowMs authority epoch stateHash fragmentCount)
      authority epoch stateHash fragmentCount then
    (.invalidCheckpoint,
      { s with
        pendingMigration := some (s.openMigration nowMs authority epoch stateHash fragmentCount) })
  else
    s.bufferMigration X (s.openMigration nowMs authority epoch stateHash fragmentCount) env nowMs
      checkpointIsInstallable fragmentIndex fragmentCount

/-! ## The receive path -/

def acceptAuthenticated (s : M3SecureSession) (env : M3EnvelopeV2) (nowMs : UInt64)
    (checkpointIsInstallable : M3MatchCheckpointV2 → Bool) : AcceptOutcome × M3SecureSession :=
  if env.lobbyId ≠ s.state.lobbyId then (.wrongLobby, s)
  else if env.authorityEpoch < s.state.authorityEpoch then (.staleAuthorityEpoch, s)
  else if !s.state.peers.contains env.sender then (.unknownSender, s)
  else
    match env.payload with
    | .migrationFragment authority epoch stateHash index count _ =>
      s.acceptMigrationFragment X env nowMs checkpointIsInstallable authority epoch stateHash
        index count
    | .matchStateFragment stateHash index count _ =>
      s.acceptMatchStateFragment X env nowMs stateHash index count
    | _ => s.acceptDirect env nowMs

/-- The first reason to reject a datagram before any session state is consulted. -/
def authenticate (s : M3SecureSession) (env : M3EnvelopeV2) (source : SocketAddr)
    (currentNodeKey : Option NodeKey) : Option AcceptOutcome :=
  if env.wireVersion ≠ M3_WIRE_VERSION then some .invalidPayloadRole
  else
    match env.session, s.manifest.entry env.sender with
    | none, _ => some .unsignedInSecureMode
    | some _, none => some .unknownSender
    | some binding, some entry =>
      if entry.tailnetAddress ≠ source.ip ∨ entry.applicationPort ≠ source.port then
        some .endpointMismatch
      else if entry.nodeKey.any fun claimed => currentNodeKey.any (claimed ≠ ·) then
        some .nodeKeyMismatch
      else if env.lobbyId ≠ s.manifest.lobbyId then some .wrongLobby
      else if binding.networkGeneration ≠ s.manifest.networkGeneration
          ∨ binding.sessionGeneration ≠ s.manifest.sessionGeneration then
        some .wrongGeneration
      else if binding.rosterHash ≠ s.rosterHash then some .rosterMismatch
      else if !(X.verifyDigest entry.sessionPublicKey
          (env.digest X.toCrypto binding.networkGeneration binding.sessionGeneration
            binding.rosterHash) binding.signature).isOk then
        some .badSignature
      else if !env.payload.isValid then some .invalidPayloadSubject
      else none

def acceptWithSourceValidated (s : M3SecureSession) (env : M3EnvelopeV2) (source : SocketAddr)
    (currentNodeKey : Option NodeKey) (nowMs : UInt64)
    (checkpointIsInstallable : M3MatchCheckpointV2 → Bool) : AcceptOutcome × M3SecureSession :=
  match s.authenticate X env source currentNodeKey with
  | some outcome => (outcome, s)
  | none => s.acceptAuthenticated X env nowMs checkpointIsInstallable

/-! ## Calls -/

/-- The public operations of a session. -/
inductive Call
  | envelope (tick : UInt64) (payload : M3PeerPayloadV2) (signingKey : SigningKey)
  | accept (env : M3EnvelopeV2) (source : SocketAddr) (currentNodeKey : Option NodeKey)
      (nowMs : UInt64) (checkpointIsInstallable : M3MatchCheckpointV2 → Bool)
  | expireAndMigrate (nowMs : UInt64)
  | configureMigrationElection (response : AuthorityResponse)
  | takeInstalledCheckpoint

/-- What a call answers. -/
inductive Reply
  | envelope (result : Except SessionIdentityError M3EnvelopeV2)
  | accept (outcome : AcceptOutcome)
  | expireAndMigrate (migration : Option (PlayerId × UInt64))
  | configureMigrationElection (configured : Bool)
  | takeInstalledCheckpoint (checkpoint : Option M3MatchCheckpointV2)

def call (s : M3SecureSession) : Call → Reply × M3SecureSession
  | .envelope tick payload signingKey => (s.envelope X tick payload signingKey).map .envelope id
  | .accept env source currentNodeKey nowMs installable =>
    (s.acceptWithSourceValidated X env source currentNodeKey nowMs installable).map .accept id
  | .expireAndMigrate nowMs => (s.expireAndMigrate nowMs).map .expireAndMigrate id
  | .configureMigrationElection response =>
    (s.configureMigrationElection response).map .configureMigrationElection id
  | .takeInstalledCheckpoint => s.takeInstalledCheckpoint.map .takeInstalledCheckpoint id

end M3SecureSession

end Spurfire
