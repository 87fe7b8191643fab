import Spurfire.Net.Messages
import Spurfire.Lib.TreeMap
import Spurfire.Lib.OrderedSet

/-!
# Session state

Membership, replay windows, heartbeats and the authority epoch of one peer (`lib.rs`).  Both wires
share this state: `SessionState.accept` is the wire-1.2 receive path, and the wire-v2 session of
`Spurfire.Net.Session` drives the same fields through the same authority check.

The receive path is split into `acceptGate`, which decides without touching the state, and
`acceptCommit`, which runs only when the gate lets the envelope through.
-/

namespace Spurfire

open Std (ExtTreeMap)

/-- Authority silence threshold. -/
def HEARTBEAT_TIMEOUT_MS : UInt64 := 2000

structure PeerState where
  lastSequence : UInt64
  lastSeenMs : UInt64
  connected : Bool
deriving DecidableEq

structure SessionState where
  lobbyId : LobbyId
  localPlayer : PlayerId
  authority : PlayerId
  authorityEpoch : UInt64
  nextSequence : UInt64
  peers : ExtTreeMap PlayerId PeerState
  migrationPreference : List PlayerId
  appliedShotResults : Finset (UInt64 × PlayerId × UInt64)
  checkpoint : Option MatchCheckpoint

namespace SessionState

def new (lobbyId : LobbyId) (localPlayer authority : PlayerId) (nowMs : UInt64) :
    SessionState where
  lobbyId := lobbyId
  localPlayer := localPlayer
  authority := authority
  authorityEpoch := 1
  nextSequence := 1
  peers := ((∅ : ExtTreeMap PlayerId PeerState).insertIfNew localPlayer ⟨0, nowMs, true⟩).insertIfNew
    authority ⟨0, nowMs, true⟩
  migrationPreference := []
  appliedShotResults := ∅
  checkpoint := none

def addPeer (s : SessionState) (player : PlayerId) (nowMs : UInt64) : SessionState :=
  { s with peers := s.peers.insert player ⟨0, nowMs, true⟩ }

/-- Installs a migration order, which must cover the exact roster. -/
def configureMigrationPreference (s : SessionState) (preference : List PlayerId) :
    Bool × SessionState :=
  if (orderedSet preference).length ≠ preference.length
      ∨ (orderedSet preference).length ≠ s.peers.size
      ∨ orderedSet preference ≠ s.peers.keys then
    (false, s)
  else
    (true, { s with migrationPreference := preference })

def envelope (s : SessionState) (tick : UInt64) (payload : PeerPayload) :
    Envelope × SessionState :=
  ({ wireVersion := CURRENT_WIRE_VERSION
     lobbyId := s.lobbyId
     sender := s.localPlayer
     sequence := s.nextSequence
     authorityEpoch := s.authorityEpoch
     simulationTick := tick
     payload := payload
     session := none },
   { s with nextSequence := s.nextSequence.satAdd 1 })

/-- Last accepted sequence of a peer; only read for members. -/
def lastSequence (s : SessionState) (player : PlayerId) : UInt64 :=
  ((s.peers[player]?).map (·.lastSequence)).getD 0

/-- Writes the replay window, the liveness clock and the connected flag of one member. -/
def touch (s : SessionState) (player : PlayerId) (sequence nowMs : UInt64) (connected : Bool) :
    SessionState :=
  { s with peers := s.peers.insert player ⟨sequence, nowMs, connected⟩ }

/-! ## Succession -/

def timedOut (nowMs lastSeenMs : UInt64) : Bool :=
  nowMs.satSub lastSeenMs ≥ HEARTBEAT_TIMEOUT_MS

/-- The `connected` closure of `deterministic_successor`. -/
def isLiveAt (s : SessionState) (nowMs : UInt64) (player : PlayerId) : Bool :=
  (s.peers[player]?).any fun peer =>
    player == s.localPlayer || (peer.connected && !timedOut nowMs peer.lastSeenMs)

def deterministicSuccessor (s : SessionState) (nowMs : UInt64) : Option PlayerId :=
  (s.migrationPreference.find? (s.isLiveAt nowMs)).or (s.peers.keys.find? (s.isLiveAt nowMs))

def currentAuthorityIsSilent (s : SessionState) (nowMs : UInt64) : Bool :=
  s.authority != s.localPlayer
    && (s.peers[s.authority]?).all fun peer => timedOut nowMs peer.lastSeenMs

/-- Whether a signed authority claim may mutate session authority. -/
def authorityClaimIsCoherent (s : SessionState) (sender authority : PlayerId) (epoch nowMs : UInt64) :
    Bool :=
  if authority ≠ sender then false
  else if epoch = s.authorityEpoch then
    authority == s.authority || (authority < s.authority && s.currentAuthorityIsSilent nowMs)
  else if s.authorityEpoch.checkedAdd 1 ≠ some epoch ∨ !s.currentAuthorityIsSilent nowMs then false
  else s.deterministicSuccessor nowMs == some authority

/-- The loop of `expire_and_migrate` over the peer rows. -/
def expirePeers (s : SessionState) (nowMs : UInt64) : SessionState :=
  { s with
    peers := s.peers.map fun player peer =>
      if player = s.localPlayer then { peer with connected := true }
      else if timedOut nowMs peer.lastSeenMs then { peer with connected := false }
      else peer }

/-- The stored connected flag of a player. -/
def isConnected (s : SessionState) (player : PlayerId) : Bool :=
  (s.peers[player]?).any (·.connected)

/-- Expires silent peers and elects a successor of a lost authority. -/
def expireAndMigrate (s : SessionState) (nowMs : UInt64) :
    Option (PlayerId × UInt64) × SessionState :=
  let s := s.expirePeers nowMs
  if s.isConnected s.authority then (none, s)
  else
    let successor := (s.migrationPreference.find? s.isConnected).or
      (s.peers.toList.findSome? fun row => if row.2.connected then some row.1 else none)
    match successor, s.authorityEpoch.checkedAdd 1 with
    | some successor, some nextEpoch =>
      (some (successor, nextEpoch), { s with authority := successor, authorityEpoch := nextEpoch })
    | _, _ => (none, s)

/-! ## Receive path of wire 1.2 -/

def claimOf : PeerPayload → Option (PlayerId × UInt64)
  | .authority authority epoch => some (authority, epoch)
  | .migrationSnapshot authority epoch _ _ => some (authority, epoch)
  | _ => none

def isAuthorityOnly : PeerPayload → Bool
  | .riderSnapshot .. | .shotResult _ => true
  | _ => false

def subjectIsInvalid (s : SessionState) (env : Envelope) : Bool :=
  match env.payload with
  | .shotCommand command =>
    command.shooterPeerId != env.sender || command.tick != env.simulationTick
  | .shotResult result =>
    result.tick != env.simulationTick || !s.peers.contains result.shooterPeerId
  | .riderSnapshot rider _ _ _ _ => !s.peers.contains rider
  | _ => false

def isDuplicateShotResult (s : SessionState) (env : Envelope) : Bool :=
  match env.payload with
  | .shotResult result =>
    decide ((env.authorityEpoch, result.shooterPeerId, result.tick) ∈ s.appliedShotResults)
  | _ => false

def checkpointIsInvalid (X : Externals) (s : SessionState) (env : Envelope) : Bool :=
  match env.payload with
  | .migrationSnapshot authority epoch checkpoint stateHash =>
    let expectedEpoch := checkpoint.sourceEpoch.checkedAdd 1
    let epochWindow := checkpoint.sourceEpoch == s.authorityEpoch
      || (expectedEpoch == some s.authorityEpoch && epoch == s.authorityEpoch)
    authority != env.sender || expectedEpoch != some epoch || !epochWindow
      || checkpoint.tick != env.simulationTick || X.matchCheckpointHash checkpoint != stateHash
      || !checkpoint.isBoundedAndCanonical
      || checkpoint.riders.any (fun rider => !s.peers.contains rider.riderPlayerId)
  | _ => false

/-- The first reason to reject an envelope, if any. -/
def acceptGate (X : Externals) (s : SessionState) (env : Envelope) (nowMs : UInt64) :
    Option AcceptOutcome :=
  if env.lobbyId ≠ s.lobbyId then some .wrongLobby
  else if env.authorityEpoch < s.authorityEpoch then some .staleAuthorityEpoch
  else if !s.peers.contains env.sender then some .unknownSender
  else if env.authorityEpoch ≠ s.authorityEpoch ∧ (claimOf env.payload).isNone then
    some .invalidPayloadRole
  else if isAuthorityOnly env.payload ∧ env.sender ≠ s.authority then some .invalidPayloadRole
  else if s.subjectIsInvalid env then some .invalidPayloadSubject
  else if s.isDuplicateShotResult env then some .duplicateShotResult
  else if s.checkpointIsInvalid X env then some .invalidCheckpoint
  else if env.sequence ≤ s.lastSequence env.sender then some .duplicateOrReplay
  else if (claimOf env.payload).any fun claim =>
      !s.authorityClaimIsCoherent env.sender claim.1 claim.2 nowMs then
    some .invalidAuthorityClaim
  else none

/-- Receipts and checkpoint written by an accepted payload. -/
def recordPayload (s : SessionState) (env : Envelope) : SessionState :=
  match env.payload with
  | .shotResult result =>
    { s with
      appliedShotResults :=
        insert (env.authorityEpoch, result.shooterPeerId, result.tick) s.appliedShotResults }
  | .migrationSnapshot _ _ checkpoint _ =>
    { s with
      appliedShotResults := s.appliedShotResults ∪
        (checkpoint.resolvedShots.map fun shot =>
          (checkpoint.sourceEpoch, shot.1, shot.2)).toFinset
      checkpoint := some checkpoint }
  | _ => s

/-- Installs a coherent claim when it wins over the current authority. -/
def installClaim (s : SessionState) (authority : PlayerId) (epoch : UInt64) : SessionState :=
  if epoch > s.authorityEpoch ∨ (epoch = s.authorityEpoch ∧ authority < s.authority) then
    { s with authority := authority, authorityEpoch := epoch }
  else s

def acceptCommit (s : SessionState) (env : Envelope) (nowMs : UInt64) : SessionState :=
  let s := s.touch env.sender env.sequence nowMs (env.payload ≠ .leave)
  let s := s.recordPayload env
  match claimOf env.payload with
  | some claim => s.installClaim claim.1 claim.2
  | none => s

def accept (X : Externals) (s : SessionState) (env : Envelope) (nowMs : UInt64) :
    AcceptOutcome × SessionState :=
  match s.acceptGate X env nowMs with
  | some outcome => (outcome, s)
  | none => (.accepted, s.acceptCommit env nowMs)

end SessionState

end Spurfire
