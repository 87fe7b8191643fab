import Spurfire.Server.Record

/-!
# The lobby store

The durable image of the service and its transactions (`store.rs`):

* `createInData` resolves a create: idempotency first, then quotas, then the one-use authority and
  the singleton lease of a real lobby;
* `replaceInData` overwrites one record and moves the lease;
* `normalizeLoadedStore` is the restart migration, `purgeRetained` and `cleanupInData` the retention;
* `StoreStep` and `StoreData.step` are the store as a state machine.

The in-memory and the durable store run the same transactions.  Where one fails, the durable store
keeps its old image and the in-memory store keeps the retention purge.
-/

namespace Spurfire

def MAX_STORED_LOBBIES : ℕ := 10000
def MAX_CREATE_REPLAYS : ℕ := 20000
def MAX_REAL_CREATE_GRANTS : ℕ := 128

def IDEMPOTENCY_DIGEST_DOMAIN : List UInt8 :=
  "spurfire-real-lobby-lease-v1\x00".toByteArray.data.toList
def STORE_INSTANCE_DOMAIN : List UInt8 :=
  "spurfire-store-instance-v1\x00".toByteArray.data.toList

/-! ## The image -/

structure CreateReplay where
  fingerprint : List UInt8
  lobbyId : LobbyId
  actor : PlayerId
  createdAt : UnixMillis
deriving DecidableEq

structure RealLobbyLease where
  holderLobbyId : LobbyId
  networkGeneration : UInt64
  idempotencyDigest : Digest
  acquiredAt : UnixMillis
  lifecycle : NetworkLifecycle
deriving DecidableEq

structure StoredCreateGrant where
  verifier : Digest
  expiresAt : UnixMillis
  consumedAt : Option UnixMillis
deriving DecidableEq

structure StoredLocalRehearsalReceipt where
  verifier : Digest
  lobbyId : LobbyId
  networkGeneration : UInt64
  expiresAt : UnixMillis
  participantCap : UInt8
  consumedAt : Option UnixMillis
deriving DecidableEq

structure StoredProtectedAlphaReceipt where
  lobbyId : LobbyId
  networkGeneration : UInt64
  storeInstanceIdSha256 : Digest
  canonicalStatePathSha256 : Digest
  launchCodeSha256 : Digest
  expiresAt : UnixMillis
  finalIoDeadline : UnixMillis
  absoluteDeadline : UnixMillis
  participantCap : UInt8
  consumedAt : Option UnixMillis
deriving DecidableEq

structure StoreData where
  storeInstanceId : Digest
  canonicalStatePathSha256 : Digest
  lobbies : Std.ExtTreeMap LobbyId StoredLobby
  createReplays : Std.ExtTreeMap String CreateReplay
  realLobbyLease : Option RealLobbyLease
  realCreationQuarantined : Bool
  realCreateGrants : List StoredCreateGrant
  localRehearsalReceipt : Option StoredLocalRehearsalReceipt
  protectedAlphaReceipt : Option StoredProtectedAlphaReceipt

inductive StoreError
  | duplicateLobby
  | lobbyNotFound
  | inconsistentIdempotency
  | capacity
  | realMutationsDisabled
  | realLobbyCapacityReached
  | invalidCreateGrant
  | invalidRehearsalReceipt
deriving DecidableEq

inductive CreateStoreOutcome
  | created (lobby : StoredLobby)
  | replay (lobby : StoredLobby)
  | conflict

/-- The arguments of a create. -/
structure CreateCall where
  idempotencyKey : String
  fingerprint : List UInt8
  actor : PlayerId
  now : UnixMillis
  lobby : StoredLobby
  realCreateGrant : Option Digest
  allowNewReal : Bool

namespace StoreData

def empty (storeInstanceId canonicalStatePathSha256 : Digest) : StoreData where
  storeInstanceId := storeInstanceId
  canonicalStatePathSha256 := canonicalStatePathSha256
  lobbies := ∅
  createReplays := ∅
  realLobbyLease := none
  realCreationQuarantined := false
  realCreateGrants := []
  localRehearsalReceipt := none
  protectedAlphaReceipt := none

/-- The digest under which a receipt is bound to this store. -/
def boundInstance (data : StoreData) : Digest :=
  Sha256.digest (STORE_INSTANCE_DOMAIN ++ data.storeInstanceId.toList)

def holdsLease (data : StoreData) (id : LobbyId) : Bool :=
  data.realLobbyLease.any (·.holderLobbyId == id)

/-! ## Retention -/

/-- A grant that has not expired, or was consumed within the retention window. -/
def retainsGrant (now : UnixMillis) (grant : StoredCreateGrant) : Bool :=
  now < grant.expiresAt
    || grant.consumedAt.any fun at_ => !StoredLobby.ageAtLeast now at_ IDEMPOTENCY_RETENTION_MS

/-- Terminal records leave after their retention unless they hold the lease, and replay rows leave
with their lobby or after their own retention. -/
def purgeRetained (data : StoreData) (now : UnixMillis) : StoreData :=
  let lobbies := (data.lobbies.map fun _ record => record.purgeRecord now).filter fun id record =>
    data.holdsLease id || !record.retentionOver now
  { data with
    realCreateGrants := data.realCreateGrants.filter (retainsGrant now)
    lobbies := lobbies
    createReplays := data.createReplays.filter fun _ replay =>
      !StoredLobby.ageAtLeast now replay.createdAt IDEMPOTENCY_RETENTION_MS
        && lobbies.contains replay.lobbyId }

/-- The store after its deadlines, and the lobbies whose teardown is due. -/
def cleanupInData (data : StoreData) (now : UnixMillis) : List LobbyId × StoreData :=
  let data := data.purgeRetained now
  let due := data.lobbies.toList.filter fun (_, record) =>
    let (moved, transitioned) := record.applyTimeTransitions now
    transitioned || moved.lobby.state == .closing
      || (moved.cleanupPending && (moved.lobby.state == .failed || moved.lobby.state == .expired
        || moved.lobby.state == .destroyed))
  (due.map Prod.fst,
    { data with lobbies := data.lobbies.map fun _ record => (record.applyTimeTransitions now).1 })

/-! ## Create -/

/-- A grant that the presented verifier may still spend. -/
def grantUsable (now : UnixMillis) (candidate : Digest) (grant : StoredCreateGrant) : Bool :=
  grant.consumedAt.isNone && now < grant.expiresAt && grant.verifier == candidate

/-- Spends the one-use authority of a real create: the protected receipt where one is installed,
else the rehearsal receipt, else the first usable grant. -/
def consumeCreateAuthority (data : StoreData) (call : CreateCall) (candidate : Digest) :
    Except StoreError StoreData :=
  let lobby := call.lobby
  match data.protectedAlphaReceipt with
  | some receipt =>
    if receipt.consumedAt.isSome || receipt.expiresAt ≤ call.now
        || receipt.finalIoDeadline ≤ call.now || receipt.absoluteDeadline ≤ call.now
        || receipt.lobbyId != lobby.lobby.lobbyId
        || receipt.networkGeneration != lobby.networkGeneration
        || receipt.storeInstanceIdSha256 != data.boundInstance
        || receipt.canonicalStatePathSha256 != data.canonicalStatePathSha256
        || lobby.lobby.provisioningMode != .tailnetPerLobby
        || receipt.participantCap < lobby.lobby.maxPlayers
        || receipt.launchCodeSha256 != candidate then
      .error .invalidRehearsalReceipt
    else
      .ok { data with
        protectedAlphaReceipt := some { receipt with consumedAt := some call.now } }
  | none =>
    match data.localRehearsalReceipt with
    | some receipt =>
      if receipt.consumedAt.isSome || receipt.expiresAt ≤ call.now
          || receipt.lobbyId != lobby.lobby.lobbyId
          || receipt.networkGeneration != lobby.networkGeneration
          || lobby.lobby.provisioningMode != .tailnetPerLobby
          || receipt.participantCap < lobby.lobby.maxPlayers
          || receipt.verifier != candidate then
        .error .invalidRehearsalReceipt
      else
        .ok { data with
          localRehearsalReceipt := some { receipt with consumedAt := some call.now } }
    | none =>
      match data.realCreateGrants.findIdx? (grantUsable call.now candidate) with
      | none => .error .invalidCreateGrant
      | some i =>
        .ok { data with
          realCreateGrants := data.realCreateGrants.modify i fun grant =>
            { grant with consumedAt := some call.now } }

/-- The guards of a real create, its authority and the singleton lease. -/
def reserveReal (data : StoreData) (call : CreateCall) : Except StoreError StoreData :=
  if !call.allowNewReal then .error .realMutationsDisabled
  else if data.realCreationQuarantined || data.realLobbyLease.isSome then
    .error .realLobbyCapacityReached
  else
    match call.realCreateGrant with
    | none => .error .invalidCreateGrant
    | some candidate =>
      match data.consumeCreateAuthority call candidate with
      | .error error => .error error
      | .ok data =>
        .ok { data with
          realLobbyLease := some {
            holderLobbyId := call.lobby.lobby.lobbyId
            networkGeneration := call.lobby.networkGeneration
            idempotencyDigest := Sha256.digest (IDEMPOTENCY_DIGEST_DOMAIN ++ call.fingerprint)
            acquiredAt := call.now
            lifecycle := call.lobby.networkLifecycle } }

/-- Files the new record and its replay row. -/
def insertCreated (data : StoreData) (call : CreateCall) : StoreData :=
  { data with
    createReplays := data.createReplays.insert call.idempotencyKey
      ⟨call.fingerprint, call.lobby.lobby.lobbyId, call.actor, call.now⟩
    lobbies := data.lobbies.insert call.lobby.lobby.lobbyId call.lobby }

/-- A create that no replay row answers. -/
def createFresh (data : StoreData) (call : CreateCall) :
    Except StoreError CreateStoreOutcome × StoreData :=
  if MAX_STORED_LOBBIES ≤ data.lobbies.size ∨ MAX_CREATE_REPLAYS ≤ data.createReplays.size then
    (.error .capacity, data)
  else if data.lobbies.contains call.lobby.lobby.lobbyId then (.error .duplicateLobby, data)
  else
    match if call.lobby.dryRun then .ok data else data.reserveReal call with
    | .error error => (.error error, data)
    | .ok reserved => (.ok (.created call.lobby), reserved.insertCreated call)

/-- Replay resolution precedes the kill switch and the lease, so that an accepted request never
creates twice. -/
def createInData (data : StoreData) (call : CreateCall) :
    Except StoreError CreateStoreOutcome × StoreData :=
  let data := data.purgeRetained call.now
  match data.createReplays[call.idempotencyKey]? with
  | some replay =>
    if replay.fingerprint ≠ call.fingerprint ∨ replay.actor ≠ call.actor then
      (.ok .conflict, data)
    else
      match data.lobbies[replay.lobbyId]? with
      | some lobby => (.ok (.replay lobby), data)
      | none => (.error .inconsistentIdempotency, data)
  | none => data.createFresh call

/-! ## Replace -/

/-- How a replaced record moves the lease and the quarantine. -/
def moveLease (data : StoreData) (lobby : StoredLobby) : StoreData :=
  let releaseRequested := leaseReleaseLifecycle lobby.networkLifecycle
  match data.realLobbyLease.filter (·.holderLobbyId == lobby.lobby.lobbyId) with
  | some lease =>
    if lease.networkGeneration ≠ lobby.networkGeneration then
      { data with realCreationQuarantined := true }
    else if lobby.releases then { data with realLobbyLease := none }
    else
      { data with
        realLobbyLease := some { lease with lifecycle := lobby.networkLifecycle }
        realCreationQuarantined := data.realCreationQuarantined || releaseRequested }
  | none =>
    -- a retained real record without its exact lease is restart ambiguity
    if !lobby.dryRun && !lobby.releases then { data with realCreationQuarantined := true } else data

def replaceInData (data : StoreData) (lobby : StoredLobby) : Except StoreError Unit × StoreData :=
  if data.lobbies.contains lobby.lobby.lobbyId then
    (.ok (), { data with lobbies := data.lobbies.insert lobby.lobby.lobbyId lobby }.moveLease lobby)
  else (.error .lobbyNotFound, data)

/-! ## Restart -/

def activeReal (record : StoredLobby) : Bool := !(record.dryRun || record.releases)

/-- A record loaded after a restart, and whether it changed. -/
def normalizeRecord (record : StoredLobby) : StoredLobby × Bool :=
  if activeReal record then
    let (record, first) := if record.networkGeneration = 0 then
      ({ record with networkGeneration := 1 }, true) else (record, false)
    if record.networkLifecycle = .simulated then
      ({ record with networkLifecycle := .manualRemediation, cleanupPending := true }, true)
    else (record, first)
  else (record, false)

/-- A missing or mismatched lease never becomes free capacity after a restart. -/
def normalizeLoadedStore (data : StoreData) : Bool × StoreData :=
  let holders := (data.lobbies.toList.filter fun (_, record) => activeReal record).map Prod.fst
  let changed := data.lobbies.toList.any fun (_, record) => (normalizeRecord record).2
  let data := { data with lobbies := data.lobbies.map fun _ record => (normalizeRecord record).1 }
  let leaseOf := fun (holder : LobbyId) (stored : StoredLobby) (lifecycle : NetworkLifecycle) =>
    some (RealLobbyLease.mk holder stored.networkGeneration (Vector.replicate 32 0)
      stored.lobby.createdAt lifecycle)
  match data.realLobbyLease, holders with
  | none, [] => (changed, data)
  | none, holder :: rest =>
    match data.lobbies[holder]? with
    | none => (changed, data)
    | some stored =>
      if rest.isEmpty then
        (true, { data with realLobbyLease := leaseOf holder stored stored.networkLifecycle })
      else
        (true, { data with
          realLobbyLease := leaseOf holder stored .manualRemediation
          realCreationQuarantined := true })
  | some lease, holders =>
    if holders = [lease.holderLobbyId]
        ∧ (data.lobbies[lease.holderLobbyId]?).any
          (·.networkGeneration == lease.networkGeneration) then
      (changed, data)
    else (true, { data with realCreationQuarantined := true })

/-! ## Receipts and grants -/

def issueRealCreateGrant (data : StoreData) (verifier : Digest) (expiresAt : UnixMillis) :
    Except StoreError Unit × StoreData :=
  if MAX_REAL_CREATE_GRANTS ≤ data.realCreateGrants.length then (.error .capacity, data)
  else (.ok (), { data with
    realCreateGrants := data.realCreateGrants ++ [⟨verifier, expiresAt, none⟩] })

def acceptsReceipt (data : StoreData) : Bool :=
  data.localRehearsalReceipt.isNone && data.realLobbyLease.isNone
    && !data.realCreationQuarantined && data.lobbies.toList.all fun (_, lobby) => lobby.dryRun

/-- A receipt starts unconsumed, whatever the qualification carries. -/
def installRehearsalInData (data : StoreData) (qualification : StoredLocalRehearsalReceipt) :
    Except StoreError Unit × StoreData :=
  if data.acceptsReceipt then
    (.ok (), { data with
      localRehearsalReceipt := some { qualification with consumedAt := none } })
  else (.error .invalidRehearsalReceipt, data)

def installAlphaInData (data : StoreData) (qualification : StoredProtectedAlphaReceipt) :
    Except StoreError Unit × StoreData :=
  if data.protectedAlphaReceipt.isNone && data.acceptsReceipt
      && data.boundInstance == qualification.storeInstanceIdSha256
      && data.canonicalStatePathSha256 == qualification.canonicalStatePathSha256 then
    (.ok (), { data with
      protectedAlphaReceipt := some { qualification with consumedAt := none } })
  else (.error .invalidRehearsalReceipt, data)

end StoreData

/-! ## The store as a state machine -/

inductive StoreStep
  | create (call : CreateCall)
  | replace (lobby : StoredLobby)
  | cleanupExpired (now : UnixMillis)
  | issueRealCreateGrant (verifier : Digest) (expiresAt : UnixMillis)
  | installLocalRehearsalReceipt (qualification : StoredLocalRehearsalReceipt)
  | installProtectedAlphaReceipt (qualification : StoredProtectedAlphaReceipt)
  | quarantineRealCreation
  | reopen

inductive StoreAnswer
  | create (outcome : Except StoreError CreateStoreOutcome)
  | done (result : Except StoreError Unit)
  | cleanup (due : List LobbyId)
  | reopened (changed : Bool)

def StoreData.step (data : StoreData) : StoreStep → StoreAnswer × StoreData
  | .create call => (data.createInData call).map .create id
  | .replace lobby => (data.replaceInData lobby).map .done id
  | .cleanupExpired now => (data.cleanupInData now).map .cleanup id
  | .issueRealCreateGrant verifier expiresAt =>
    (data.issueRealCreateGrant verifier expiresAt).map .done id
  | .installLocalRehearsalReceipt q => (data.installRehearsalInData q).map .done id
  | .installProtectedAlphaReceipt q => (data.installAlphaInData q).map .done id
  | .quarantineRealCreation => (.done (.ok ()), { data with realCreationQuarantined := true })
  | .reopen => data.normalizeLoadedStore.map .reopened id

end Spurfire
