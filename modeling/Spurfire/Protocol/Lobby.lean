import Mathlib.Logic.Relation
import Spurfire.Protocol.Election

/-!
# The lobby and its lifecycle

The public lobby model (`state.rs`, `model.rs`) and the lifecycle of its backing network:

* `LobbyState` with the table of its legal successors; `LobbyState.Leads` is a path in that table;
* `NetworkLifecycle` and `ProvisioningMode`;
* `Lobby` with the checks a snapshot must pass on its own, `Lobby.validate`.

Display name, wire version and the `cleanup_pending` copy of a lobby are left out: nothing modelled
reads them.
-/

namespace Spurfire

def MAX_PLAYERS : UInt8 := 16
def PROTOTYPE_MIN_PLAYERS : UInt8 := 2
def IDLE_TTL_MS : UInt64 := 600000
def ABSOLUTE_TTL_MS : UInt64 := 3600000
def JOIN_CREDENTIAL_TTL_MS : UInt64 := 300000

/-! ## Lobby states -/

inductive LobbyState
  | provisioning
  | forming
  | ready
  | starting
  | inMatch
  | closing
  | failed
  | expired
  | destroyed
deriving DecidableEq

namespace LobbyState

def legalSuccessors : LobbyState → List LobbyState
  | provisioning => [forming, closing, failed]
  | forming => [ready, closing, failed, expired]
  | ready => [starting, forming, closing, failed, expired]
  | starting => [inMatch, closing, failed]
  | inMatch => [closing, failed]
  | closing | failed | expired => [destroyed]
  | destroyed => []

/-- A same-state replay is no transition. -/
def canTransitionTo (self next : LobbyState) : Bool := self.legalSuccessors.contains next

structure TransitionError where
  fromState : LobbyState
  toState : LobbyState
deriving DecidableEq

def validateTransition (self next : LobbyState) : Except TransitionError Unit :=
  if self.canTransitionTo next then .ok () else .error ⟨self, next⟩

def acceptsMeasurements : LobbyState → Bool
  | forming | ready | inMatch => true
  | _ => false

def requiresStateReason : LobbyState → Bool
  | failed => true
  | _ => false

/-- A path of declared edges, the empty path included. -/
def Leads : LobbyState → LobbyState → Prop :=
  Relation.ReflTransGen fun a b => a.canTransitionTo b = true

theorem Leads.refl (s : LobbyState) : Leads s s := Relation.ReflTransGen.refl

theorem Leads.edge {a b : LobbyState} (h : a.canTransitionTo b = true) : Leads a b :=
  Relation.ReflTransGen.single h

theorem Leads.trans {a b c : LobbyState} (h : Leads a b) (h' : Leads b c) : Leads a c :=
  Relation.ReflTransGen.trans h h'

theorem validateTransition_ok_iff {a b : LobbyState} :
    a.validateTransition b = .ok () ↔ a.canTransitionTo b = true := by
  unfold validateTransition
  split_ifs with h
  · exact iff_of_true rfl h
  · exact iff_of_false nofun h

/-- Nothing leaves `DESTROYED`. -/
theorem Leads.of_destroyed {s : LobbyState} (h : Leads destroyed s) : s = destroyed := by
  induction h with
  | refl => rfl
  | tail _ hstep ih =>
    subst ih
    exact nomatch hstep

end LobbyState

/-! ## The backing network -/

/-- Lifecycle of the backing network, independent of the lobby's. -/
inductive NetworkLifecycle
  | simulated
  | reserved
  | creating
  | active
  | createRejected
  | createUnknown
  | cleanupRequested
  | cleanupPending
  | verifyingAbsence
  | dedicatedAbsent
  | sharedResourcesClean
  | manualRemediation
  | unknown
deriving DecidableEq

inductive ProvisioningMode
  | sharedTailnet
  | dryRun
  | tailnetPerLobby
deriving DecidableEq

/-- A canonical complete DNS name.  Values enter already parsed. -/
structure TailnetDnsName where
  asStr : String
deriving DecidableEq

/-! ## Lobbies -/

inductive HorseSelection
  | courser
  | warhorse
  | mustang
  | unknown
deriving DecidableEq

inductive PlayerJoinState
  | credentialIssued
  | connecting
  | connected
  | left
  | cleanupPending
  | unknown
deriving DecidableEq

structure Player where
  playerId : PlayerId
  displayName : String
  joinState : PlayerJoinState
  wireVersion : WireVersion
  formulaVersion : String
  horseSelection : Option HorseSelection
  routeSummary : RouteSummary
  joinedAt : UnixMillis
  cleanupPending : Bool
deriving DecidableEq

structure AuthoritySummary where
  candidatePlayerId : PlayerId
  formulaVersion : String
  scoreMilli : UInt32
deriving DecidableEq

structure LobbyTtl where
  idleExpiresAt : UnixMillis
  absoluteExpiresAt : UnixMillis
deriving DecidableEq

structure Lobby where
  lobbyId : LobbyId
  state : LobbyState
  stateReason : Option String
  roster : List Player
  maxPlayers : UInt8
  mapSeed : Option UInt64
  authority : Option AuthoritySummary
  ttl : LobbyTtl
  provisioningMode : ProvisioningMode
  createdAt : UnixMillis
deriving DecidableEq

inductive LobbyValidationError
  | invalidMaxPlayers (value : UInt8)
  | rosterExceedsCapacity (rosterSize : ℕ) (maxPlayers : UInt8)
  | missingStateReason
deriving DecidableEq

/-- Unicode `White_Space`, which is what `trim` strips. -/
def isWhitespace (c : Char) : Bool :=
  let n := c.toNat
  (9 ≤ n && n ≤ 13) || n == 0x20 || n == 0x85 || n == 0xA0 || n == 0x1680
    || (0x2000 ≤ n && n ≤ 0x200A) || n == 0x2028 || n == 0x2029 || n == 0x202F || n == 0x205F
    || n == 0x3000

/-- `trim().is_empty()`. -/
def isBlank (s : String) : Bool := s.toList.all isWhitespace

def Lobby.validate (lobby : Lobby) : Except LobbyValidationError Unit :=
  if lobby.maxPlayers = 0 ∨ lobby.maxPlayers > MAX_PLAYERS then
    .error (.invalidMaxPlayers lobby.maxPlayers)
  else if lobby.roster.length > lobby.maxPlayers.toNat then
    .error (.rosterExceedsCapacity lobby.roster.length lobby.maxPlayers)
  else if lobby.state.requiresStateReason && lobby.stateReason.all isBlank then
    .error .missingStateReason
  else .ok ()

end Spurfire
