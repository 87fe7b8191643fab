import Spurfire.Control.DnsName
import Spurfire.Control.Inventory
import Spurfire.Lib.Fallible
import Spurfire.Server.Vault

/-!
# The custody of child tailnets

`TailscaleProvider` (`provider.rs`): the tailnet of a dedicated lobby is created through the parent
client, and everything after that goes through a child client, which is built from the credentials
that the creation returned.  They are kept in a cache and in the encrypted vault.

* `childAccess` finds the client of an exact lobby, generation, provider id and DNS name;
* `gateChildPolicyOrCleanup` reads the policy back, and deletes the tailnet where that fails;
* `prepareLobby`, `mintCredential`, `cleanupLobby`, `observeNetwork` and `eraseChildSecret` are the
  calls, over the answers of the control plane and of the file system.

A client is identified with the credentials it is built from.
-/

namespace Spurfire

open Fallible

/-! ## Tags -/

/-- The one rider tag that the policy and every key of the lobby carry. -/
def dedicatedRiderTag (lobbyId : LobbyId) : String :=
  "tag:spurfire-lobby-" ++ String.ofList lobbyId.canonicalText

/-- `restrictive_riders` accepts the tag. -/
def validateRiderTag (tag : String) : Bool :=
  let stem := "tag:spurfire-lobby-".toList
  stem.isPrefixOf tag.toList && stem.length < tag.toList.length && tag.utf8ByteSize ≤ 128
    && (tag.toList.drop stem.length).all fun c => c.isAlphanum || c == '-'

/-! ## Calls to the control plane -/

inductive ControlClient
  /-- The organization's own client. -/
  | parent
  | child (credentials : ChildOAuthCredentials)
deriving DecidableEq

inductive ControlCall
  | createTailnet (displayName : String)
  | writePolicy (tailnet : String)
  | readPolicy (tailnet : String)
  | createAuthKey (tailnet : String) (tag : String)
  | deleteAuthKey (tailnet : String) (credentialId : String)
  | listDevices (tailnet : String)
  | deleteDevice (deviceId : String)
  | deleteTailnet (dnsName : String)
deriving DecidableEq

/-- The tailnet that a destructive call or a mint is about. -/
def ControlCall.names : ControlCall → Option String
  | createAuthKey tailnet _ | deleteAuthKey tailnet _ => some tailnet
  | deleteTailnet dnsName => some dnsName
  | _ => none

structure CreatedTailnet where
  id : String
  dnsName : TailnetDnsName
  oauthCredentials : ChildOAuthCredentials
deriving DecidableEq

structure Device where
  id : String
  tags : List String
deriving DecidableEq

/-- What the control plane, the clock of the policy gate and the file system answer at one point. -/
structure ProviderAnswer where
  result : Except ControlError Unit
  tailnet : CreatedTailnet
  keyId : String
  devices : List Device
  policyMatches : Bool
  timedOut : Bool
  nonce : List UInt8
  replace : ReplaceAnswer
  readable : Bool

/-! ## The provider -/

/-- The identity that a tuple of custody stands for. -/
def ChildVaultIdentity.networkIdentity (identity : ChildVaultIdentity) : ProviderNetworkIdentity :=
  ⟨some identity.providerTailnetId, identity.tailnetDnsName⟩

inductive ProviderRequest
  | prepare (request : PrepareLobbyRequest)
  | mint (request : MintCredentialRequest)
  | cleanup (request : CleanupLobbyRequest)
  | observe (request : ObserveNetworkRequest)
  | erase (request : TailnetPresenceRequest)
deriving DecidableEq

namespace ProviderRequest

def lobbyId : ProviderRequest → LobbyId
  | prepare request => request.lobbyId
  | mint request => request.lobbyId
  | cleanup request => request.lobbyId
  | observe request => request.lobbyId
  | erase request => request.lobbyId

def IsDedicated : ProviderRequest → Prop
  | prepare request => request.mode = .tailnetPerLobby
  | mint request => request.mode = .tailnetPerLobby
  | cleanup request => request.mode = .tailnetPerLobby
  | observe request => request.mode = .tailnetPerLobby
  | erase _ => True

/-- The tuple of the request agrees with `identity` in every component; the request to prepare a
lobby does not name a tailnet yet. -/
def Fits (identity : ChildVaultIdentity) : ProviderRequest → Prop
  | prepare request =>
    request.lobbyId = identity.lobbyId ∧ request.networkGeneration = identity.networkGeneration
  | mint request => request.lobbyId = identity.lobbyId
      ∧ request.networkGeneration = identity.networkGeneration
      ∧ request.identity = some identity.networkIdentity
  | cleanup request => request.lobbyId = identity.lobbyId
      ∧ request.networkGeneration = identity.networkGeneration
      ∧ request.identity = some identity.networkIdentity
  | observe request => request.lobbyId = identity.lobbyId
      ∧ request.networkGeneration = identity.networkGeneration
      ∧ request.identity = some identity.networkIdentity
  | erase request => request.lobbyId = identity.lobbyId
      ∧ request.networkGeneration = identity.networkGeneration
      ∧ request.identity = identity.networkIdentity

end ProviderRequest

/-- A call, the client it is sent through and the request it is sent for. -/
structure SentCall where
  request : ProviderRequest
  client : ControlClient
  call : ControlCall
deriving DecidableEq

structure ChildTailnetAccess where
  networkGeneration : UInt64
  providerTailnetId : String
  dnsName : TailnetDnsName
  client : ChildOAuthCredentials
deriving DecidableEq

/-- The tuple that the entry of a lobby stands for. -/
def ChildTailnetAccess.identity (access : ChildTailnetAccess) (lobbyId : LobbyId) :
    ChildVaultIdentity :=
  ⟨lobbyId, access.networkGeneration, access.providerTailnetId, access.dnsName⟩

/-- The entry of a client for the tuple. -/
def ChildVaultIdentity.access (identity : ChildVaultIdentity) (client : ChildOAuthCredentials) :
    ChildTailnetAccess :=
  ⟨identity.networkGeneration, identity.providerTailnetId, identity.tailnetDnsName, client⟩

/-- Credentials that a creation returned, under the tuple they belong to. -/
structure ChildCustody where
  identity : ChildVaultIdentity
  credentials : ChildOAuthCredentials
deriving DecidableEq

/-- What the provider is configured with. -/
structure ProviderSetup where
  cipher : VaultCipher
  sharedTailnet : String
  /-- The semantic digest of the restrictive policy of a lobby. -/
  policyDigest : LobbyId → String

/-- The provider, the request it works on, and what it has sent and been given so far. -/
structure TailscaleProvider where
  childVault : Std.ExtTreeMap LobbyId ChildTailnetAccess compare
  durableChildVault : Option EncryptedChildVault
  capabilities : ProviderCapabilities
  simulatedMints : UInt64
  request : ProviderRequest
  answers : ℕ → ProviderAnswer
  turn : ℕ
  sent : List SentCall
  created : List ChildCustody

def mapVaultError : VaultError → ProviderError
  | .conflict | .invalid => .identityMismatch
  | .missing => .childSecretUnavailable
  | .io | .crypto => .unavailable "child_secret_vault"

abbrev Custodian (α : Type) := Prog TailscaleProvider ProviderError α

namespace TailscaleProvider

variable (setup : ProviderSetup)

/-! ### Effects -/

def answer (w : TailscaleProvider) : ProviderAnswer := w.answers w.turn

/-- Sends a call; `reply` reads its answer. -/
def send {α : Type} (client : ControlClient) (call : ControlCall) (reply : ProviderAnswer → α) :
    Custodian α := act fun w =>
  (.ok (reply w.answer),
    { w with turn := w.turn + 1, sent := w.sent ++ [⟨w.request, client, call⟩] })

/-- A tailnet that is gone already counts as deleted. -/
def deleteTailnet (child : ChildOAuthCredentials) (dnsName : String) :
    Custodian (Except ControlError Unit) :=
  send (.child child) (.deleteTailnet dnsName) fun a =>
    if a.result = .error (.http 404) then .ok () else a.result

def setCapabilities (change : ProviderCapabilities → ProviderCapabilities) : Custodian Unit :=
  act fun w => (.ok (), { w with capabilities := change w.capabilities })

def nextSimulatedMint : Custodian UInt64 := act fun w =>
  (.ok (w.simulatedMints + 1), { w with simulatedMints := w.simulatedMints + 1 })

def cachedAccess (lobbyId : LobbyId) : Custodian (Option ChildTailnetAccess) := look fun w =>
  .ok w.childVault[lobbyId]?

def cache (identity : ChildVaultIdentity) (client : ChildOAuthCredentials) : Custodian Unit :=
  act fun w => (.ok (), { w with
    childVault := w.childVault.insert identity.lobbyId (identity.access client) })

def forget (lobbyId : LobbyId) : Custodian Unit := act fun w =>
  (.ok (), { w with childVault := w.childVault.erase lobbyId })

/-- The tuple of the lobby in the vault, where there is a vault. -/
def durableIdentity (lobbyId : LobbyId) : Custodian (Option ChildVaultIdentity) := look fun w =>
  .ok (w.durableChildVault.bind fun durable =>
    (durable.image.records.toList.map (·.2.identity)).find? (·.lobbyId = lobbyId))

def getExact (identity : ChildVaultIdentity) : Custodian (ChildOAuthCredentials × UInt64) :=
  look fun w =>
    match w.durableChildVault with
    | none => .error .childSecretUnavailable
    | some durable =>
      match durable.getExact setup.cipher identity with
      | .error error => .error (mapVaultError error)
      | .ok found => .ok found

/-- Puts the credentials into the vault, where there is a vault. -/
def putIfAbsent (identity : ChildVaultIdentity) (credentials : ChildOAuthCredentials) :
    Custodian Unit := act fun w =>
  match w.durableChildVault with
  | none => (.ok (), w)
  | some durable =>
    let (result, durable) :=
      durable.putIfAbsent setup.cipher identity credentials w.answer.nonce w.answer.replace
    let w := { w with turn := w.turn + 1, durableChildVault := some durable }
    match result with
    | .error error => (.error (mapVaultError error), w)
    | .ok _ => (.ok (), w)

/-! ### Custody -/

/-- The identity has a provider id that may be acted on. -/
def exactIdentity (lobbyId : LobbyId) (networkGeneration : UInt64)
    (expected : ProviderNetworkIdentity) : Custodian ChildVaultIdentity :=
  match expected.validateForMode .tailnetPerLobby with
  | .error error => throw error
  | .ok () =>
    match expected.providerTailnetId with
    | none => throw .identityMismatch
    | some id => pure ⟨lobbyId, networkGeneration, id, expected.tailnetDnsName⟩

/-- The client of exactly this tuple, from the cache or else from the vault. -/
def childAccess (lobbyId : LobbyId) (networkGeneration : UInt64)
    (expected : ProviderNetworkIdentity) : Custodian ChildOAuthCredentials := do
  let identity ← exactIdentity lobbyId networkGeneration expected
  let cached ← cachedAccess lobbyId
  match cached with
  | some access =>
    if access.identity lobbyId ≠ identity then throw .identityMismatch else pure access.client
  | none => do
    let found ← getExact setup identity
    cache identity found.1
    pure found.1

/-- Reads the policy back, unless writing it failed. -/
def readPolicyBack (child : ChildOAuthCredentials) (dnsName : String) :
    Option (Except ControlError Unit) → Custodian (Option (Except ControlError Unit))
  | some (.ok ()) =>
    send (.child child) (.readPolicy dnsName) fun a =>
      if a.timedOut then none
      else some (a.result.bind fun _ =>
        if a.policyMatches then .ok () else .error .policyMismatch)
  | failed => pure failed

/-- Writes the policy first if it is a new tailnet's; `none` is a gate that timed out. -/
def verifyPolicy (child : ChildOAuthCredentials) (dnsName : String) (applyFirst : Bool) :
    Custodian (Option (Except ControlError Unit)) :=
  if applyFirst then do
    let written ← send (.child child) (.writePolicy dnsName) fun a =>
      if a.timedOut then none else some a.result
    readPolicyBack child dnsName written
  else readPolicyBack child dnsName (some (.ok ()))

def childPolicyStatus : Option (Except ControlError Unit) → ChildPolicyStatus
  | some (.error .policyMismatch) => .mismatch
  | some (.error (.http status)) => if status = 403 then .denied else .unavailable
  | _ => .unavailable

/-- The digest of the verified policy; a tailnet whose policy is not verified is deleted. -/
def gateChildPolicyOrCleanup (lobbyId : LobbyId) (identity : ProviderNetworkIdentity)
    (child : ChildOAuthCredentials) (applyFirst : Bool) : Custodian String :=
  if validateRiderTag (dedicatedRiderTag lobbyId) = false then throw .identityMismatch
  else do
    let dnsName := identity.tailnetDnsName.asStr
    let verified ← verifyPolicy child dnsName applyFirst
    match verified with
    | some (.ok ()) => pure (setup.policyDigest lobbyId)
    | failed => do
      let deleted ← deleteTailnet child dnsName
      throw (.childPolicyGate identity (setup.policyDigest lobbyId) (childPolicyStatus failed)
        deleted.isOk)

/-! ### Calls -/

def dryPreparedNetwork : PreparedNetwork := ⟨"dry-run.invalid", none, none, true⟩

/-- A tailnet in custody, once its policy is verified. -/
def preparedChild (identity : ChildVaultIdentity) (child : ChildOAuthCredentials)
    (applyFirst : Bool) : Custodian PreparedNetwork := do
  let evidence ← gateChildPolicyOrCleanup setup identity.lobbyId identity.networkIdentity child
    applyFirst
  pure ⟨identity.tailnetDnsName.asStr, some identity.networkIdentity, some evidence, false⟩

/-- The custody of a new tailnet; the generation is looked at once the tailnet exists. -/
def createTailnet (request : PrepareLobbyRequest) : Custodian ChildCustody := do
  let displayName := "spurfire-" ++ String.ofList request.lobbyId.canonicalText
  let created ← send .parent (.createTailnet displayName) fun a => a.result.map fun _ => a.tailnet
  match created with
  | .error error => throw (mapControlError error "organization_tailnet_create")
  | .ok tailnet =>
    match TailnetDnsName.protocolParse tailnet.dnsName.asStr with
    | .error _ => throw .identityMismatch
    | .ok dnsName => do
      let custody : ChildCustody := ⟨⟨request.lobbyId, request.networkGeneration, tailnet.id,
        dnsName⟩, tailnet.oauthCredentials⟩
      act fun w => (.ok (), { w with created := w.created ++ [custody] })
      if StoredLobby.validProviderTailnetId tailnet.id = false ∨ request.networkGeneration = 0 then
        throw .identityMismatch
      else pure custody

def createChild (request : PrepareLobbyRequest) : Custodian PreparedNetwork := do
  let custody ← createTailnet request
  putIfAbsent setup custody.identity custody.credentials
  cache custody.identity custody.credentials
  let prepared ← preparedChild setup custody.identity custody.credentials true
  setCapabilities fun c => { c with oauthTokenOk := true, canManageOrganizationTailnets := true }
  pure prepared

/-- From the cache, else from the vault, else a new tailnet. -/
def prepareChild (request : PrepareLobbyRequest) : Custodian PreparedNetwork := do
  let cached ← cachedAccess request.lobbyId
  match cached with
  | some access =>
    if access.networkGeneration ≠ request.networkGeneration then throw .identityMismatch
    else preparedChild setup (access.identity request.lobbyId) access.client false
  | none => do
    let durable ← durableIdentity request.lobbyId
    match durable with
    | some identity =>
      if identity.networkGeneration ≠ request.networkGeneration then throw .identityMismatch
      else do
        let found ← getExact setup identity
        cache identity found.1
        preparedChild setup identity found.1 false
    | none => createChild setup request

def prepareLobby (request : PrepareLobbyRequest) : Custodian PreparedNetwork :=
  if request.dryRun ∨ request.mode = .dryRun then pure dryPreparedNetwork
  else if request.mode = .sharedTailnet then
    match TailnetDnsName.protocolParse setup.sharedTailnet with
    | .error _ => throw .identityMismatch
    | .ok dnsName => pure ⟨dnsName.asStr, some ⟨none, dnsName⟩, none, false⟩
  else prepareChild setup request

def finishMint (request : MintCredentialRequest) (key : Except ControlError String) :
    Custodian MintedCredential :=
  match key with
  | .ok id => pure ⟨id, request.tailnet, false⟩
  | .error error => do
    (if request.mode = .sharedTailnet ∧ error = .http 403 then
      setCapabilities fun c => { c with canMintAuthKeys := false }
    else pure ())
    throw (mapControlError error "auth_keys")

def createAuthKey (client : ControlClient) (request : MintCredentialRequest) :
    Custodian MintedCredential := do
  let key ← send client (.createAuthKey request.tailnet request.tag) fun a =>
    a.result.map fun _ => a.keyId
  finishMint request key

/-- The policy is read back before every mint. -/
def mintChild (request : MintCredentialRequest) (identity : ProviderNetworkIdentity) :
    Custodian MintedCredential := do
  let child ← childAccess setup request.lobbyId request.networkGeneration identity
  let _ ← gateChildPolicyOrCleanup setup request.lobbyId identity child false
  createAuthKey (.child child) request

def dryMintedCredential (request : MintCredentialRequest) (sequence : UInt64) : MintedCredential :=
  ⟨"dry-" ++ String.ofList request.lobbyId.canonicalText ++ "-"
    ++ String.ofList request.playerId.canonicalText ++ "-" ++ toString sequence.toNat,
    "dry-run.invalid", true⟩

def mintCredential (request : MintCredentialRequest) : Custodian MintedCredential :=
  if request.dryRun ∨ request.mode = .dryRun then do
    let sequence ← nextSimulatedMint
    pure (dryMintedCredential request sequence)
  else if request.mode = .sharedTailnet then createAuthKey .parent request
  else
    match request.identity with
    | none => throw .identityMismatch
    | some identity =>
      if identity.tailnetDnsName.asStr ≠ request.tailnet
          ∨ request.tag ≠ dedicatedRiderTag request.lobbyId then throw .identityMismatch
      else mintChild setup request identity

/-- The loop over the unconsumed credentials; an expired one needs no call, and one that the control
plane does not know is revoked. -/
def revokeCredentials (client : ControlClient) (request : CleanupLobbyRequest) :
    List CredentialCleanup → CleanupOutcome → Custodian CleanupOutcome
  | [], outcome => pure outcome
  | credential :: rest, outcome =>
    let revoked := { outcome with
      revokedCredentialIds := outcome.revokedCredentialIds ++ [credential.credentialId] }
    if credential.expiresAt ≤ request.now then revokeCredentials client request rest revoked
    else do
      let deleted ← send client (.deleteAuthKey request.tailnet credential.credentialId) (·.result)
      match deleted with
      | .ok () => revokeCredentials client request rest revoked
      | .error error =>
        if error = .http 400 ∨ error = .http 404 then revokeCredentials client request rest revoked
        else do
          (if client = .parent ∧ error = .http 403 then
            setCapabilities fun c => { c with canMintAuthKeys := false }
          else pure ())
          revokeCredentials client request rest { outcome with cleanupPending := true }

/-- A failure over the devices of the shared tailnet. -/
def deviceFailure (error : ControlError) : Custodian Unit :=
  if error = .http 403 then setCapabilities fun c => { c with canListDevices := false }
  else pure ()

def deleteDevices : List Device → CleanupOutcome → Custodian CleanupOutcome
  | [], outcome => pure outcome
  | device :: rest, outcome => do
    let deleted ← send .parent (.deleteDevice device.id) (·.result)
    match deleted with
    | .ok () => deleteDevices rest outcome
    | .error error => do
      deviceFailure error
      deleteDevices rest { outcome with cleanupPending := true }

def noOutcome : CleanupOutcome := ⟨false, false, false, []⟩

def cleanupSharedTailnet (request : CleanupLobbyRequest) : Custodian CleanupOutcome := do
  let outcome ← revokeCredentials .parent request request.credentials noOutcome
  if request.includeDevices = false then pure outcome
  else do
    let devices ← send .parent (.listDevices request.tailnet) fun a =>
      a.result.map fun _ => a.devices
    match devices with
    | .error error => do
      deviceFailure error
      pure { outcome with cleanupPending := true }
    | .ok devices => deleteDevices (devices.filter (·.tags.contains request.tag)) outcome

def cleanupChildTailnet (request : CleanupLobbyRequest) (identity : ProviderNetworkIdentity) :
    Custodian CleanupOutcome := do
  let child ← childAccess setup request.lobbyId request.networkGeneration identity
  if request.includeDevices then do
    let deleted ← deleteTailnet child identity.tailnetDnsName.asStr
    match deleted with
    | .error error => throw (mapControlError error "child_tailnet_delete")
    | .ok () => pure ⟨true, true, false, request.credentials.map (·.credentialId)⟩
  else revokeCredentials (.child child) request request.credentials noOutcome

def dryCleanupOutcome (request : CleanupLobbyRequest) : CleanupOutcome :=
  ⟨false, false, false, request.credentials.map (·.credentialId)⟩

def cleanupLobby (request : CleanupLobbyRequest) : Custodian CleanupOutcome :=
  if request.dryRun ∨ request.mode = .dryRun then pure (dryCleanupOutcome request)
  else
    match request.identity with
    | none => throw .identityMismatch
    | some identity =>
      match identity.validateForMode request.mode with
      | .error error => throw error
      | .ok () =>
        if request.networkGeneration = 0 ∨ identity.tailnetDnsName.asStr ≠ request.tailnet then
          throw .identityMismatch
        else if request.mode = .tailnetPerLobby then cleanupChildTailnet setup request identity
        else cleanupSharedTailnet request

/-- The number of devices enrolled, up to `u32::MAX`. -/
def deviceCount (client : ControlClient) (tailnet : String) (counts : Device → Bool) :
    Custodian ℕ := do
  let devices ← send client (.listDevices tailnet) fun a => a.result.map fun _ => a.devices
  match devices with
  | .error error => throw (mapControlError error "device_inventory")
  | .ok devices => pure (min (devices.countP counts) (2 ^ 32 - 1))

def observeChild (request : ObserveNetworkRequest) (identity : ProviderNetworkIdentity) :
    Custodian ℕ := do
  let child ← childAccess setup request.lobbyId request.networkGeneration identity
  deviceCount (.child child) identity.tailnetDnsName.asStr fun _ => true

def observeNetwork (request : ObserveNetworkRequest) : Custodian ℕ :=
  if request.dryRun ∨ request.mode = .dryRun then throw .identityMismatch
  else if request.mode = .sharedTailnet then
    deviceCount .parent request.tailnet (·.tags.contains request.tag)
  else
    match request.identity with
    | none => throw .identityMismatch
    | some identity =>
      if identity.tailnetDnsName.asStr ≠ request.tailnet then throw .identityMismatch
      else observeChild setup request identity

/-- Every layer in memory agrees with the tuple before it is erased for good. -/
def checkErasable (identity : ChildVaultIdentity) : Custodian Unit := look fun w =>
  match w.childVault[identity.lobbyId]? with
  | some access =>
    if identity.networkGeneration = 0 ∨ access.identity identity.lobbyId ≠ identity then
      .error .identityMismatch
    else .ok ()
  | none => if w.durableChildVault.isNone then .error .childSecretUnavailable else .ok ()

def deleteCas (identity : ChildVaultIdentity) (version : UInt64) : Custodian Unit := act fun w =>
  match w.durableChildVault with
  | none => (.ok (), w)
  | some durable =>
    let (result, durable) := durable.deleteCas identity version w.answer.replace w.answer.readable
    let w := { w with turn := w.turn + 1, durableChildVault := some durable }
    match result with
    | .error error => (.error (mapVaultError error), w)
    | .ok () => (.ok (), w)

def verifyErased (identity : ChildVaultIdentity) : Custodian (Option UInt64) := act fun w =>
  match w.durableChildVault with
  | none => (.ok none, w)
  | some durable =>
    let (result, durable) := durable.verifyErased identity w.answer.readable
    let w := { w with turn := w.turn + 1, durableChildVault := some durable }
    match result with
    | .error error => (.error (mapVaultError error), w)
    | .ok version => (.ok (some version), w)

/-- The version of the record, `none` where it is missing or there is no vault. -/
def recordVersion (identity : ChildVaultIdentity) : Custodian (Option UInt64) := look fun w =>
  match w.durableChildVault with
  | none => .ok none
  | some durable =>
    match durable.getExact setup.cipher identity with
    | .error .missing => .ok none
    | .error error => .error (mapVaultError error)
    | .ok found => .ok (some found.2)

/-- A record that is missing already has to have its receipt. -/
def eraseDurable (identity : ChildVaultIdentity) : Custodian Unit := do
  let version ← recordVersion setup identity
  match version with
  | none => do
    let _ ← verifyErased identity
    pure ()
  | some version => do
    deleteCas identity version
    let verified ← verifyErased identity
    if verified ≠ some version then throw .identityMismatch else pure ()

def eraseChildSecret (request : TailnetPresenceRequest) : Custodian Unit := do
  let identity ← exactIdentity request.lobbyId request.networkGeneration request.identity
  checkErasable identity
  eraseDurable setup identity
  forget request.lobbyId

/-! ## Steps -/

/-- A request, up to its result. -/
def serve (request : ProviderRequest) : Custodian Unit :=
  match request with
  | .prepare request => do
    let _ ← prepareLobby setup request
    pure ()
  | .mint request => do
    let _ ← mintCredential setup request
    pure ()
  | .cleanup request => do
    let _ ← cleanupLobby setup request
    pure ()
  | .observe request => do
    let _ ← observeNetwork setup request
    pure ()
  | .erase request => eraseChildSecret setup request

end TailscaleProvider

inductive ProviderStep
  | call (request : ProviderRequest) (answers : ℕ → ProviderAnswer)
  /-- The cache is lost and the vault reopened. -/
  | restart

namespace TailscaleProvider

variable (setup : ProviderSetup)

def step (w : TailscaleProvider) : ProviderStep → Except ProviderError Unit × TailscaleProvider
  | .call request answers =>
    exec (serve setup request) { w with request := request, answers := answers, turn := 0 }
  | .restart => (.ok (), { w with
      childVault := ∅
      durableChildVault := w.durableChildVault.map fun durable =>
        { durable with image := durable.onDisk }
      capabilities := .blocked
      simulatedMints := 0 })

end TailscaleProvider

/-! ## The vault under custody -/

/-- What was sealed can be opened again, under the same nonce and the same associated data. -/
def VaultCipher.Opens (cipher : VaultCipher) : Prop :=
  ∀ nonce plaintext tuple text, cipher.encrypt nonce plaintext tuple = some text →
    cipher.decrypt nonce text tuple = some plaintext

def EncryptedRecord.SealedFrom (cipher : VaultCipher) (created : List ChildCustody)
    (record : EncryptedRecord) : Prop :=
  ∃ credentials plaintext, ⟨record.identity, credentials⟩ ∈ created
    ∧ encodePlaintext credentials = .ok plaintext
    ∧ cipher.encrypt record.nonce plaintext (record.identity, record.version)
      = some record.ciphertext

theorem EncryptedRecord.SealedFrom.mono {cipher : VaultCipher} {created later : List ChildCustody}
    {record : EncryptedRecord} (h : record.SealedFrom cipher created) (hle : created ⊆ later) :
    record.SealedFrom cipher later := by
  obtain ⟨credentials, plaintext, hmem, hsealed⟩ := h
  exact ⟨credentials, plaintext, hle hmem, hsealed⟩

namespace EncryptedChildVault

variable {cipher : VaultCipher} {vault : EncryptedChildVault} {identity : ChildVaultIdentity}
  {lobby : LobbyId} {record : EncryptedRecord}

def Has (vault : EncryptedChildVault) (lobby : LobbyId) (record : EncryptedRecord) : Prop :=
  vault.image.records[lobby]? = some record ∨ vault.onDisk.records[lobby]? = some record

/-- A put leaves the vault alone, or writes a new record over an image that had none. -/
theorem putIfAbsent_cases (cipher : VaultCipher) (vault : EncryptedChildVault)
    (identity : ChildVaultIdentity) (credentials : ChildOAuthCredentials) (nonce : List UInt8)
    (answer : ReplaceAnswer) :
    (∃ result, vault.putIfAbsent cipher identity credentials nonce answer = (result, vault)
        ∧ ((∃ version, result = .ok version) → ∃ record,
          vault.image.records[identity.lobbyId]? = some record ∧ record.identity = identity))
      ∨ ∃ plaintext text next, encodePlaintext credentials = .ok plaintext
        ∧ cipher.encrypt nonce plaintext (identity, 1) = some text
        ∧ vault.image.records[identity.lobbyId]? = none
        ∧ next = { vault.image with
            records := vault.image.records.insert identity.lobbyId ⟨identity, 1, nonce, text⟩ }
        ∧ (vault.putIfAbsent cipher identity credentials nonce answer = (.ok 1, ⟨next, some next⟩)
          ∨ vault.putIfAbsent cipher identity credentials nonce answer
            = (.error .io, ⟨vault.image, some next⟩)) := by
  unfold putIfAbsent sealedImage
  cases hplain : encodePlaintext credentials with
  | error error => exact .inl ⟨_, rfl, by simp⟩
  | ok plaintext =>
    dsimp only
    cases hrecord : vault.image.records[identity.lobbyId]? with
    | some existing =>
      dsimp only
      by_cases hsame : existing.identity = identity
      · rw [if_pos hsame]
        exact .inl ⟨_, rfl, fun _ => ⟨existing, rfl, hsame⟩⟩
      · rw [if_neg hsame]
        exact .inl ⟨_, rfl, by simp⟩
    | none =>
      dsimp only
      by_cases herased : vault.image.erasures.contains identity.lobbyId = true
      · rw [if_pos herased]
        exact .inl ⟨_, rfl, by simp⟩
      · rw [if_neg herased]
        cases hsealed : cipher.encrypt nonce plaintext (identity, 1) with
        | none => exact .inl ⟨_, rfl, by simp⟩
        | some text =>
          cases answer with
          | installed => exact .inr ⟨plaintext, text, _, rfl, hsealed, rfl, rfl, .inl rfl⟩
          | failed => exact .inl ⟨_, rfl, by simp⟩
          | failedInstalled => exact .inr ⟨plaintext, text, _, rfl, hsealed, rfl, rfl, .inr rfl⟩

/-- The record that a put may add, and the ones there were before. -/
theorem has_insert {text : List UInt8} {nonce : List UInt8} {vault' : EncryptedChildVault}
    {next : VaultImage}
    (hnext : next = { vault.image with
      records := vault.image.records.insert identity.lobbyId ⟨identity, 1, nonce, text⟩ })
    (hvault : vault' = ⟨next, some next⟩ ∨ vault' = ⟨vault.image, some next⟩)
    (h : vault'.Has lobby record) :
    (lobby = identity.lobbyId ∧ record = ⟨identity, 1, nonce, text⟩)
      ∨ vault.image.records[lobby]? = some record := by
  have hrecord : next.records[lobby]? = some record
      ∨ vault.image.records[lobby]? = some record := by
    rcases hvault with rfl | rfl
    · exact .inl (h.elim id id)
    · exact h.symm
  rcases hrecord with hrecord | hrecord
  · subst hnext
    rw [Std.ExtTreeMap.getElem?_insert] at hrecord
    split_ifs at hrecord with hlobby
    · cases hrecord
      exact .inl ⟨(Std.LawfulEqCmp.eq_of_compare hlobby).symm, rfl⟩
    · exact .inr hrecord
  · exact .inr hrecord

theorem has_erased {version : UInt64} {next : VaultImage}
    (herased : vault.erasedImage identity version = .ok next)
    (h : next.records[lobby]? = some record) : vault.image.records[lobby]? = some record := by
  unfold erasedImage at herased
  split at herased
  · exact nomatch herased
  · split_ifs at herased
    cases herased
    rw [Std.ExtTreeMap.getElem?_erase] at h
    split_ifs at h
    exact h

/-- An erase adds no record. -/
theorem has_deleteCas {version : UInt64} {answer : ReplaceAnswer} {readable : Bool}
    (h : (vault.deleteCas identity version answer readable).2.Has lobby record) :
    vault.Has lobby record := by
  unfold deleteCas at h
  cases herased : vault.erasedImage identity version with
  | error error =>
    rw [herased] at h
    exact h
  | ok next =>
    rw [herased] at h
    dsimp only at h
    cases answer with
    | installed =>
      unfold persist at h
      dsimp only at h
      cases hread : ({ vault with file := some next } : EncryptedChildVault).readImageFromDisk
          readable with
      | error error =>
        rw [hread] at h
        exact h.elim .inl fun hdisk => .inl (has_erased herased hdisk)
      | ok readback =>
        rw [hread] at h
        dsimp only at h
        have hback : readback = next := (onDisk_of_open (readImageFromDisk_open hread)).1
        split_ifs at h
        · exact h.elim .inl fun hdisk => .inl (has_erased herased hdisk)
        · subst hback
          exact h.elim (fun himage => .inl (has_erased herased himage))
            fun hdisk => .inl (has_erased herased hdisk)
    | failed => exact h
    | failedInstalled => exact h.elim .inl fun hdisk => .inl (has_erased herased hdisk)

theorem has_verifyErased {readable : Bool}
    (h : (vault.verifyErased identity readable).2.Has lobby record) : vault.Has lobby record := by
  unfold verifyErased at h
  cases hread : vault.readImageFromDisk readable with
  | error error =>
    rw [hread] at h
    exact h
  | ok readback =>
    rw [hread] at h
    dsimp only at h
    split_ifs at h
    · exact h
    · have hback := (onDisk_of_open (readImageFromDisk_open hread)).1
      split at h
      · exact h
      · subst hback
        exact h.elim .inr .inr

/-- Sealed credentials are read back. -/
theorem credentials_of_getExact (hopens : cipher.Opens) {created : List ChildCustody}
    (hsealed : ∀ record, vault.image.records[identity.lobbyId]? = some record →
      record.SealedFrom cipher created)
    {found : ChildOAuthCredentials × UInt64} (h : vault.getExact cipher identity = .ok found) :
    ⟨identity, found.1⟩ ∈ created ∧ ∃ record,
      vault.image.records[identity.lobbyId]? = some record ∧ record.identity = identity := by
  unfold getExact at h
  cases hrecord : vault.image.records[identity.lobbyId]? with
  | none =>
    rw [hrecord] at h
    exact nomatch h
  | some record =>
    obtain ⟨credentials, plaintext, hmem, hencode, hencrypt⟩ := hsealed record hrecord
    rw [hrecord] at h
    dsimp only at h
    split_ifs at h with hsame
    rw [not_not] at hsame
    subst hsame
    rw [hopens _ _ _ _ hencrypt] at h
    dsimp only at h
    rw [decodePlaintext_of_encode hencode] at h
    cases h
    exact ⟨hmem, record, rfl, rfl⟩

end EncryptedChildVault

/-! ## What a request keeps -/

/-- A destructive call or a mint for a dedicated lobby goes through the client of credentials that a
creation returned for the tuple of the request, and names the tailnet of that tuple. -/
def SentCall.Authorized (created : List ChildCustody) (entry : SentCall) : Prop :=
  entry.request.IsDedicated → ∀ named, entry.call.names = some named →
    ∃ custody ∈ created, entry.client = .child custody.credentials
      ∧ entry.request.Fits custody.identity ∧ custody.identity.tailnetDnsName.asStr = named

namespace TailscaleProvider

variable {setup : ProviderSetup} {w w' : TailscaleProvider} {req : ProviderRequest}

/-- The tuples that the layers of custody have for a lobby, on disk included. -/
inductive Records (w : TailscaleProvider) (lobby : LobbyId) : ChildVaultIdentity → Prop
  | cached (access : ChildTailnetAccess) (h : w.childVault[lobby]? = some access) :
      Records w lobby (access.identity lobby)
  | durable (vault : EncryptedChildVault) (record : EncryptedRecord)
      (hvault : w.durableChildVault = some vault) (h : vault.Has lobby record) :
      Records w lobby record.identity

/-- The tuple is in custody: in the cache, or in the vault as it is loaded. -/
def InCustody (w : TailscaleProvider) (identity : ChildVaultIdentity) : Prop :=
  (∃ access, w.childVault[identity.lobbyId]? = some access
      ∧ access.identity identity.lobbyId = identity)
    ∨ ∃ vault record, w.durableChildVault = some vault
      ∧ vault.image.records[identity.lobbyId]? = some record ∧ record.identity = identity

theorem InCustody.records {identity : ChildVaultIdentity} (h : w.InCustody identity) :
    w.Records identity.lobbyId identity := by
  rcases h with ⟨access, haccess, heq⟩ | ⟨vault, record, hvault, hrecord, heq⟩
  · have hcached := Records.cached access haccess
    rwa [heq] at hcached
  · have hdurable := Records.durable vault record hvault (.inl hrecord)
    rwa [heq] at hdurable

/-- Whatever is in custody is what a creation returned, and one tuple for each lobby. -/
structure Held (setup : ProviderSetup) (w : TailscaleProvider) : Prop where
  cached : ∀ (lobby : LobbyId) (access : ChildTailnetAccess), w.childVault[lobby]? = some access →
    ⟨access.identity lobby, access.client⟩ ∈ w.created
  durable : ∀ vault lobby record, w.durableChildVault = some vault → vault.Has lobby record →
    record.identity.lobbyId = lobby ∧ record.SealedFrom setup.cipher w.created
  unique : ∀ lobby i j, w.Records lobby i → w.Records lobby j → i = j

/-- Custody that loses entries, or only learns of creations, is held. -/
theorem Held.shrink (h : Held setup w)
    (hcache : ∀ (lobby : LobbyId) (access : ChildTailnetAccess),
      w'.childVault[lobby]? = some access → w.childVault[lobby]? = some access)
    (hvault : ∀ vault' lobby record, w'.durableChildVault = some vault' → vault'.Has lobby record →
      ∃ vault, w.durableChildVault = some vault ∧ vault.Has lobby record)
    (hcreated : w.created ⊆ w'.created) : Held setup w' := by
  have hrecords : ∀ lobby i, w'.Records lobby i → w.Records lobby i := by
    intro lobby i hi
    cases hi with
    | cached access haccess => exact .cached access (hcache lobby access haccess)
    | durable vault' record hvault' hrecord =>
      obtain ⟨vault, hfound, hhas⟩ := hvault vault' lobby record hvault' hrecord
      exact .durable vault record hfound hhas
  refine ⟨fun lobby access haccess => hcreated (h.cached lobby access (hcache lobby access haccess)),
    fun vault' lobby record hvault' hrecord => ?_, fun lobby i j hi hj =>
      h.unique lobby i j (hrecords lobby i hi) (hrecords lobby j hj)⟩
  obtain ⟨vault, hfound, hhas⟩ := hvault vault' lobby record hvault' hrecord
  obtain ⟨hlobby, hsealed⟩ := h.durable vault lobby record hfound hhas
  exact ⟨hlobby, hsealed.mono hcreated⟩

/-- Custody between the effects of the request `req`. -/
structure Good (setup : ProviderSetup) (req : ProviderRequest) (w : TailscaleProvider) : Prop where
  request : w.request = req
  held : Held setup w
  sent : ∀ entry ∈ w.sent, entry.Authorized w.created

theorem Good.called (h : Good setup req w) (client : ControlClient) (call : ControlCall)
    (hcall : (SentCall.mk req client call).Authorized w.created) :
    Good setup req
      { w with turn := w.turn + 1, sent := w.sent ++ [⟨w.request, client, call⟩] } := by
  refine ⟨h.request, h.held.shrink (fun _ _ h => h) (fun vault _ _ hv h => ⟨vault, hv, h⟩)
    (List.Subset.refl _), fun entry hentry => ?_⟩
  rcases List.mem_append.mp hentry with hentry | hentry
  · exact h.sent entry hentry
  · cases List.mem_singleton.mp hentry
    rw [h.request]
    exact hcall

theorem Good.recorded (h : Good setup req w) (custody : ChildCustody) :
    Good setup req { w with created := w.created ++ [custody] } := by
  refine ⟨h.request, h.held.shrink (fun _ _ h => h) (fun vault _ _ hv h => ⟨vault, hv, h⟩)
    (List.subset_append_left _ _), fun entry hentry hdedicated named hnamed => ?_⟩
  obtain ⟨found, hmem, hfound⟩ := h.sent entry hentry hdedicated named hnamed
  exact ⟨found, List.mem_append_left _ hmem, hfound⟩

/-! ### Calls through one client -/

/-- The calls through `client` that name no tailnet but `tailnet` keep `I`, and so do the
capabilities. -/
structure Carries (I : TailscaleProvider → Prop) (client : ControlClient) (tailnet : String) :
    Prop where
  send : ∀ w call, I w → (∀ named, call.names = some named → named = tailnet) →
    I { w with turn := w.turn + 1, sent := w.sent ++ [⟨w.request, client, call⟩] }
  capabilities : ∀ w c, I w → I { w with capabilities := c }

section Carries

variable {I : TailscaleProvider → Prop} {client : ControlClient} {tailnet : String}

theorem carries_send {α : Type} {call : ControlCall} {reply : ProviderAnswer → α}
    (hI : Carries I client tailnet) (hw : I w)
    (hnames : ∀ named, call.names = some named → named = tailnet) :
    Ends (fun _ => I) w (send client call reply) fun _ => I := by
  refine ends_act (fun a s' heq => ?_) fun e s' heq => nomatch heq
  cases heq
  exact hI.send w call hw hnames

theorem carries_setCapabilities {change : ProviderCapabilities → ProviderCapabilities}
    (hI : Carries I client tailnet) (hw : I w) :
    Ends (fun _ => I) w (setCapabilities change) fun _ => I := by
  refine ends_act (fun a s' heq => ?_) fun e s' heq => nomatch heq
  cases heq
  exact hI.capabilities w _ hw

/-- A program with one postcondition goes on from it. -/
theorem carries_bind {α β : Type} {p : Custodian α} {f : α → Custodian β}
    (hp : Ends (fun _ => I) w p fun _ => I)
    (hf : ∀ a w, I w → Ends (fun _ => I) w (f a) fun _ => I) :
    Ends (fun _ => I) w (p >>= f) fun _ => I :=
  ends_next hp hf

variable {child : ChildOAuthCredentials}

theorem carries_readPolicyBack (hI : Carries I (.child child) tailnet)
    (written : Option (Except ControlError Unit)) (hw : I w) :
    Ends (fun _ => I) w (readPolicyBack child tailnet written) fun _ => I := by
  unfold readPolicyBack
  split
  · exact carries_send hI hw nofun
  · exact ends_pure hw

theorem carries_verifyPolicy (hI : Carries I (.child child) tailnet) (applyFirst : Bool)
    (hw : I w) : Ends (fun _ => I) w (verifyPolicy child tailnet applyFirst) fun _ => I :=
  ends_ite
    (fun _ => carries_bind (carries_send hI hw nofun) fun written _ hw =>
      carries_readPolicyBack hI written hw)
    fun _ => carries_readPolicyBack hI _ hw

theorem carries_gate (setup : ProviderSetup) (lobbyId : LobbyId)
    {identity : ProviderNetworkIdentity}
    (hI : Carries I (.child child) identity.tailnetDnsName.asStr) (applyFirst : Bool) (hw : I w) :
    Ends (fun _ => I) w (gateChildPolicyOrCleanup setup lobbyId identity child applyFirst)
      fun _ => I := by
  refine ends_ite (fun _ => ends_throw hw) fun _ => ?_
  refine carries_bind (carries_verifyPolicy hI applyFirst hw) fun verified w hw => ?_
  split
  · exact ends_pure hw
  · refine carries_bind (carries_send hI hw ?_) fun deleted w hw => ends_throw hw
    intro named hnamed
    cases hnamed
    rfl

theorem carries_createAuthKey {request : MintCredentialRequest}
    (hI : Carries I client request.tailnet) (hw : I w) :
    Ends (fun _ => I) w (createAuthKey client request) fun _ => I := by
  refine carries_bind (carries_send hI hw ?_) fun key w hw => ?_
  · intro named hnamed
    cases hnamed
    rfl
  · cases key with
    | ok id => exact ends_pure hw
    | error error =>
      refine carries_bind (ends_ite (fun _ => carries_setCapabilities hI hw) fun _ => ends_pure hw)
        fun _ w hw => ends_throw hw

theorem carries_revokeCredentials {request : CleanupLobbyRequest}
    (hI : Carries I client request.tailnet) (credentials : List CredentialCleanup)
    (outcome : CleanupOutcome) (hw : I w) :
    Ends (fun _ => I) w (revokeCredentials client request credentials outcome) fun _ => I := by
  induction credentials generalizing outcome w with
  | nil => exact ends_pure hw
  | cons credential rest ih =>
    refine ends_ite (fun _ => ih _ hw) fun _ => ?_
    refine carries_bind (carries_send hI hw ?_) fun deleted w hw => ?_
    · intro named hnamed
      cases hnamed
      rfl
    · cases deleted with
      | ok => exact ih _ hw
      | error error =>
        refine ends_ite (fun _ => ih _ hw) fun _ => ?_
        exact carries_bind
          (ends_ite (fun _ => carries_setCapabilities hI hw) fun _ => ends_pure hw)
          fun _ w hw => ih _ hw

theorem carries_deviceCount {counts : Device → Bool} (hI : Carries I client tailnet) (hw : I w) :
    Ends (fun _ => I) w (deviceCount client tailnet counts) fun _ => I := by
  refine carries_bind (carries_send hI hw nofun) fun devices w hw => ?_
  cases devices with
  | ok devices => exact ends_pure hw
  | error error => exact ends_throw hw

theorem carries_deviceFailure (hI : Carries I client tailnet) (error : ControlError) (hw : I w) :
    Ends (fun _ => I) w (deviceFailure error) fun _ => I :=
  ends_ite (fun _ => carries_setCapabilities hI hw) fun _ => ends_pure hw

theorem carries_deleteDevices (hI : Carries I .parent tailnet) (devices : List Device)
    (outcome : CleanupOutcome) (hw : I w) :
    Ends (fun _ => I) w (deleteDevices devices outcome) fun _ => I := by
  induction devices generalizing outcome w with
  | nil => exact ends_pure hw
  | cons device rest ih =>
    refine carries_bind (carries_send hI hw nofun) fun deleted w hw => ?_
    cases deleted with
    | ok => exact ih _ hw
    | error error =>
      exact carries_bind (carries_deviceFailure hI error hw) fun _ w hw => ih _ hw

theorem carries_cleanupSharedTailnet {request : CleanupLobbyRequest}
    (hI : Carries I .parent request.tailnet) (hw : I w) :
    Ends (fun _ => I) w (cleanupSharedTailnet request) fun _ => I := by
  refine carries_bind (carries_revokeCredentials hI _ _ hw) fun outcome w hw => ?_
  refine ends_ite (fun _ => ends_pure hw) fun _ => ?_
  refine carries_bind (carries_send hI hw nofun) fun devices w hw => ?_
  cases devices with
  | ok devices => exact carries_deleteDevices hI _ _ hw
  | error error =>
    exact carries_bind (carries_deviceFailure hI error hw) fun _ w hw => ends_pure hw

end Carries

/-- The client of credentials in `created` may name the tailnet that they belong to. -/
theorem carries_child (setup : ProviderSetup) (custody : ChildCustody) (hfits : req.Fits custody.identity) :
    Carries (fun w => Good setup req w ∧ custody ∈ w.created) (.child custody.credentials)
      custody.identity.tailnetDnsName.asStr where
  send w call hw hnames := by
    refine ⟨hw.1.called _ _ fun _ named hnamed => ?_, hw.2⟩
    exact ⟨custody, hw.2, rfl, hfits, (hnames named hnamed).symm⟩
  capabilities _ _ hw :=
    ⟨⟨hw.1.request, hw.1.held.shrink (fun _ _ h => h) (fun vault _ _ hv h => ⟨vault, hv, h⟩)
      (List.Subset.refl _), hw.1.sent⟩, hw.2⟩

theorem carries_shared (req : ProviderRequest) (hshared : ¬req.IsDedicated) (client : ControlClient) (tailnet : String) :
    Carries (Good setup req) client tailnet where
  send _ _ hw _ := hw.called _ _ fun hdedicated => absurd hdedicated hshared
  capabilities _ _ hw :=
    ⟨hw.request, hw.held.shrink (fun _ _ h => h) (fun vault _ _ hv h => ⟨vault, hv, h⟩)
      (List.Subset.refl _), hw.sent⟩

/-! ### Entries of custody -/

theorem exactIdentity_ends {lobbyId : LobbyId} {networkGeneration : UInt64}
    {expected : ProviderNetworkIdentity} {P : TailscaleProvider → Prop} (hw : P w) :
    Ends (fun _ => P) w (exactIdentity lobbyId networkGeneration expected) fun identity w' =>
      P w' ∧ identity.lobbyId = lobbyId ∧ identity.networkGeneration = networkGeneration
        ∧ expected = identity.networkIdentity := by
  unfold exactIdentity
  split
  · exact ends_throw hw
  · split
    · exact ends_throw hw
    · next id hid =>
      refine ends_pure ⟨hw, rfl, rfl, ?_⟩
      obtain ⟨found, dnsName⟩ := expected
      cases hid
      rfl

/-- The vault gives out what a creation returned, for the only tuple of the lobby. -/
theorem getExact_ends (hopens : setup.cipher.Opens) (hw : Good setup req w)
    (identity : ChildVaultIdentity) :
    Ends (fun _ w' => w' = w) w (getExact setup identity) fun found w' =>
      w' = w ∧ ⟨identity, found.1⟩ ∈ w.created ∧ ∀ j, w.Records identity.lobbyId j → j = identity := by
  refine ends_look (fun found heq => ?_) fun _ _ => rfl
  split at heq
  · exact nomatch heq
  · next vault hvault =>
    split at heq
    · exact nomatch heq
    · next found' hfound =>
      cases heq
      obtain ⟨hmem, record, hrecord, hidentity⟩ := vault.credentials_of_getExact hopens
        (fun record hrecord => (hw.held.durable vault _ record hvault (.inl hrecord)).2) hfound
      refine ⟨rfl, hmem, fun j hj => hw.held.unique _ _ _ hj ?_⟩
      have hdurable := Records.durable vault record hvault (.inl hrecord)
      rwa [hidentity] at hdurable

/-- A client may be cached for the only tuple of its lobby. -/
theorem cache_ends {identity : ChildVaultIdentity} {client : ChildOAuthCredentials}
    (hw : Good setup req w) (hmem : ⟨identity, client⟩ ∈ w.created)
    (honly : ∀ j, w.Records identity.lobbyId j → j = identity) :
    Ends (fun _ => Good setup req) w (cache identity client) fun _ w' =>
      Good setup req w' ∧ ⟨identity, client⟩ ∈ w'.created := by
  refine ends_act (fun _ w' heq => ?_) fun _ _ heq => nomatch heq
  cases heq
  have hcache : ∀ (lobby : LobbyId) (access : ChildTailnetAccess),
      (w.childVault.insert identity.lobbyId (identity.access client))[lobby]? = some access →
      (lobby = identity.lobbyId ∧ access.identity lobby = identity ∧ access.client = client)
        ∨ w.childVault[lobby]? = some access := by
    intro lobby access haccess
    rw [Std.ExtTreeMap.getElem?_insert] at haccess
    split_ifs at haccess with hlobby
    · cases Std.LawfulEqCmp.eq_of_compare hlobby
      cases haccess
      exact .inl ⟨rfl, rfl, rfl⟩
    · exact .inr haccess
  have hrecords : ∀ lobby i, Records { w with
        childVault := w.childVault.insert identity.lobbyId (identity.access client) } lobby i →
      (lobby = identity.lobbyId ∧ i = identity) ∨ w.Records lobby i := by
    intro lobby i hi
    cases hi with
    | cached access haccess =>
      rcases hcache lobby access haccess with ⟨hlobby, heq, -⟩ | hold
      · exact .inl ⟨hlobby, heq⟩
      · exact .inr (.cached access hold)
    | durable vault record hvault hrecord => exact .inr (.durable vault record hvault hrecord)
  refine ⟨⟨hw.request, ⟨fun lobby access haccess => ?_, hw.held.durable, fun lobby i j hi hj => ?_⟩,
    hw.sent⟩, hmem⟩
  · rcases hcache lobby access haccess with ⟨rfl, heq, hclient⟩ | hold
    · rw [heq, hclient]
      exact hmem
    · exact hw.held.cached lobby access hold
  · rcases hrecords lobby i hi with ⟨rfl, rfl⟩ | hi
    · exact (hrecords _ j hj).elim (fun h => h.2.symm) fun h => (honly j h).symm
    · rcases hrecords lobby j hj with ⟨rfl, rfl⟩ | hj
      · exact honly i hi
      · exact hw.held.unique lobby i j hi hj

/-- A client that is handed out is the one of the exact tuple. -/
theorem childAccess_ends (hopens : setup.cipher.Opens) (hw : Good setup req w) (lobbyId : LobbyId)
    (networkGeneration : UInt64) (expected : ProviderNetworkIdentity) :
    Ends (fun _ => Good setup req) w (childAccess setup lobbyId networkGeneration expected)
      fun client w' => Good setup req w' ∧ ∃ identity, ⟨identity, client⟩ ∈ w'.created
        ∧ identity.lobbyId = lobbyId ∧ identity.networkGeneration = networkGeneration
        ∧ expected = identity.networkIdentity := by
  refine ends_next (exactIdentity_ends hw) ?_
  rintro identity v ⟨hv, rfl, hgeneration, hexpected⟩
  refine ends_bind (ends_look (fun cached heq => ?_) fun _ heq => nomatch heq)
  cases heq
  cases hcached : v.childVault[identity.lobbyId]? with
  | some access =>
    refine ends_ite (fun _ => ends_throw hv) fun hsame => ends_pure ?_
    have hmem := hv.held.cached identity.lobbyId access hcached
    rw [not_not.mp hsame] at hmem
    exact ⟨hv, identity, hmem, rfl, hgeneration, hexpected⟩
  | none =>
    refine ends_seq (getExact_ends hopens hv identity) (fun _ _ h => h ▸ hv) ?_
    rintro found _ ⟨rfl, hmem, honly⟩
    refine ends_next (cache_ends hv hmem honly) ?_
    rintro _ last ⟨hlast, hmem⟩
    exact ends_pure ⟨hlast, identity, hmem, rfl, hgeneration, hexpected⟩

/-- The vault has a record of the lobby exactly under the tuple that is found. -/
theorem durableIdentity_ends (hw : Held setup w) (lobbyId : LobbyId) :
    Ends (fun _ w' => w' = w) w (durableIdentity lobbyId) fun found w' => w' = w
      ∧ (∀ identity, found = some identity →
        identity.lobbyId = lobbyId ∧ w.Records lobbyId identity)
      ∧ (found = none → ∀ vault, w.durableChildVault = some vault →
        vault.image.records[lobbyId]? = none) := by
  refine ends_look (fun found heq => ?_) fun _ heq => nomatch heq
  cases heq
  refine ⟨rfl, fun identity hfound => ?_, fun hnone vault hvault => ?_⟩
  · obtain ⟨vault, hvault, hfound⟩ := Option.bind_eq_some_iff.mp hfound
    have hlobby : identity.lobbyId = lobbyId := by simpa using List.find?_some hfound
    obtain ⟨entry, hentry, rfl⟩ := List.mem_map.mp (List.mem_of_find?_eq_some hfound)
    have hrecord := Std.ExtTreeMap.mem_toList_iff_getElem?_eq_some.mp
      (show (entry.1, entry.2) ∈ vault.image.records.toList from hentry)
    have hkey := (hw.durable vault _ _ hvault (.inl hrecord)).1
    rw [← hkey, hlobby] at hrecord
    exact ⟨hlobby, .durable vault entry.2 hvault (.inl hrecord)⟩
  · rw [hvault, Option.bind_some, List.find?_eq_none] at hnone
    by_contra hsome
    obtain ⟨record, hrecord⟩ := Option.ne_none_iff_exists'.mp hsome
    have hlobby := (hw.durable vault lobbyId record hvault (.inl hrecord)).1
    have hmem := Std.ExtTreeMap.mem_toList_iff_getElem?_eq_some.mpr hrecord
    exact hnone _ (List.mem_map_of_mem hmem) (by simpa using hlobby)

/-- What the creation returned is noted before anything is done with it. -/
theorem createTailnet_ends {request : PrepareLobbyRequest} (hw : Good setup (.prepare request) w) :
    Ends (fun _ => Good setup (.prepare request)) w (createTailnet request) fun custody w' =>
      Good setup (.prepare request) w' ∧ custody ∈ w'.created
        ∧ custody.identity.lobbyId = request.lobbyId
        ∧ custody.identity.networkGeneration = request.networkGeneration
        ∧ w'.childVault = w.childVault ∧ w'.durableChildVault = w.durableChildVault := by
  refine ends_bind (ends_act (fun created w' heq => ?_) fun _ _ heq => nomatch heq)
  cases heq
  have hcalled := hw.called .parent
    (.createTailnet ("spurfire-" ++ String.ofList request.lobbyId.canonicalText)) nofun
  split
  · exact ends_throw hcalled
  · next tailnet htailnet =>
    split
    · exact ends_throw hcalled
    · next dnsName hparse =>
      refine ends_bind (ends_act (fun _ w' heq => ?_) fun _ _ heq => nomatch heq)
      cases heq
      refine ends_ite (fun _ => ends_throw (hcalled.recorded _)) fun _ => ends_pure ?_
      exact ⟨hcalled.recorded _, List.mem_append_right _ (List.mem_singleton_self _), rfl, rfl, rfl,
        rfl⟩

/-- A put adds the tuple of a creation where the lobby had none in memory. -/
theorem Held.inserted (h : Held setup w) {identity : ChildVaultIdentity}
    {credentials : ChildOAuthCredentials} {nonce plaintext text : List UInt8}
    {vault vault' : EncryptedChildVault} {next : VaultImage} {turn : ℕ}
    (hvault : w.durableChildVault = some vault) (hmem : ⟨identity, credentials⟩ ∈ w.created)
    (hcached : w.childVault[identity.lobbyId]? = none)
    (hencode : encodePlaintext credentials = .ok plaintext)
    (hencrypt : setup.cipher.encrypt nonce plaintext (identity, 1) = some text)
    (hrecord : vault.image.records[identity.lobbyId]? = none)
    (hnext : next = { vault.image with
      records := vault.image.records.insert identity.lobbyId ⟨identity, 1, nonce, text⟩ })
    (hvault' : vault' = ⟨next, some next⟩ ∨ vault' = ⟨vault.image, some next⟩) :
    Held setup { w with turn := turn, durableChildVault := some vault' }
      ∧ ∀ j, Records { w with turn := turn, durableChildVault := some vault' } identity.lobbyId j →
        j = identity := by
  have hhas : ∀ lobby record, vault'.Has lobby record →
      (lobby = identity.lobbyId ∧ record = ⟨identity, 1, nonce, text⟩)
        ∨ (lobby ≠ identity.lobbyId ∧ vault.Has lobby record) := by
    intro lobby record hhas
    rcases EncryptedChildVault.has_insert hnext hvault' hhas with hnew | hold
    · exact .inl hnew
    · refine .inr ⟨?_, .inl hold⟩
      rintro rfl
      exact nomatch hrecord.symm.trans hold
  have hrecords : ∀ lobby j,
      Records { w with turn := turn, durableChildVault := some vault' } lobby j →
      (lobby = identity.lobbyId ∧ j = identity)
        ∨ (lobby ≠ identity.lobbyId ∧ w.Records lobby j) := by
    intro lobby j hj
    cases hj with
    | cached access haccess =>
      refine .inr ⟨?_, .cached access haccess⟩
      rintro rfl
      exact nomatch hcached.symm.trans haccess
    | durable found record hfound hrecord =>
      cases hfound
      rcases hhas lobby record hrecord with ⟨hlobby, rfl⟩ | ⟨hlobby, hold⟩
      · exact .inl ⟨hlobby, rfl⟩
      · exact .inr ⟨hlobby, .durable vault record hvault hold⟩
  refine ⟨⟨h.cached, fun found lobby record hfound hrecord => ?_, fun lobby i j hi hj => ?_⟩,
    fun j hj => ?_⟩
  · cases hfound
    rcases hhas lobby record hrecord with ⟨rfl, rfl⟩ | ⟨-, hold⟩
    · exact ⟨rfl, credentials, plaintext, hmem, hencode, hencrypt⟩
    · exact h.durable vault lobby record hvault hold
  · rcases hrecords lobby i hi with ⟨rfl, rfl⟩ | ⟨hlobby, hi⟩
    · exact (hrecords _ j hj).elim (fun h => h.2.symm) fun h => absurd rfl h.1
    · exact (hrecords lobby j hj).elim (fun h => absurd h.1 hlobby) fun hj =>
        h.unique lobby i j hi hj.2
  · exact (hrecords _ j hj).elim (fun h => h.2) fun h => absurd rfl h.1

theorem putIfAbsent_ends {identity : ChildVaultIdentity} {credentials : ChildOAuthCredentials}
    (hw : Good setup req w) (hmem : ⟨identity, credentials⟩ ∈ w.created)
    (hcached : w.childVault[identity.lobbyId]? = none) :
    Ends (fun _ => Good setup req) w (putIfAbsent setup identity credentials) fun _ w' =>
      Good setup req w' ∧ ⟨identity, credentials⟩ ∈ w'.created
        ∧ ∀ j, w'.Records identity.lobbyId j → j = identity := by
  unfold putIfAbsent
  cases hvault : w.durableChildVault with
  | none =>
    refine ends_act (fun _ w' heq => ?_) fun _ w' heq => ?_
    all_goals
      rw [hvault] at heq
      cases heq
    refine ⟨hw, hmem, fun j hj => ?_⟩
    cases hj with
    | cached access haccess => exact nomatch hcached.symm.trans haccess
    | durable vault record hfound => exact nomatch hvault.symm.trans hfound
  | some vault =>
    rcases vault.putIfAbsent_cases setup.cipher identity credentials w.answer.nonce w.answer.replace with
      ⟨result, hput, hthere⟩ | ⟨plaintext, text, next, hencode, hencrypt, hrecord, hnext, hput⟩
    · have hsame : Good setup req
          { w with turn := w.turn + 1, durableChildVault := some vault } :=
        ⟨hw.request, hw.held.shrink (fun _ _ h => h) (fun found _ _ hfound h => by
          cases hfound
          exact ⟨vault, hvault, h⟩) (List.Subset.refl _), hw.sent⟩
      refine ends_act (fun _ w' heq => ?_) fun _ w' heq => ?_
      · rw [hvault] at heq
        dsimp only at heq
        rw [hput] at heq
        cases result with
        | error error => exact nomatch heq
        | ok version =>
          cases heq
          obtain ⟨record, hrecord, hidentity⟩ := hthere ⟨version, rfl⟩
          refine ⟨hsame, hmem, fun j hj => hsame.held.unique _ _ _ hj ?_⟩
          have hdurable := Records.durable (w := { w with
            turn := w.turn + 1, durableChildVault := some vault }) vault record rfl (.inl hrecord)
          rwa [hidentity] at hdurable
      · rw [hvault] at heq
        dsimp only at heq
        rw [hput] at heq
        cases result with
        | error error =>
          cases heq
          exact hsame
        | ok version => exact nomatch heq
    · have hinserted : ∀ vault', vault' = ⟨next, some next⟩ ∨ vault' = ⟨vault.image, some next⟩ →
          Good setup req { w with turn := w.turn + 1, durableChildVault := some vault' }
            ∧ ∀ j, Records { w with turn := w.turn + 1, durableChildVault := some vault' }
              identity.lobbyId j → j = identity := by
        intro vault' hvault'
        obtain ⟨hheld, honly⟩ := hw.held.inserted hvault hmem hcached hencode hencrypt hrecord hnext
          hvault'
        exact ⟨⟨hw.request, hheld, hw.sent⟩, honly⟩
      refine ends_act (fun _ w' heq => ?_) fun _ w' heq => ?_
      all_goals
        rw [hvault] at heq
        dsimp only at heq
        rcases hput with hput | hput <;> rw [hput] at heq <;> cases heq
      · exact ⟨(hinserted _ (.inl rfl)).1, hmem, (hinserted _ (.inl rfl)).2⟩
      · exact (hinserted _ (.inr rfl)).1

/-! ### Requests -/

/-- The tailnet of credentials in custody may be gated, whichever request it is for. -/
theorem preparedChild_ends (custody : ChildCustody) (hw : Good setup req w)
    (hmem : custody ∈ w.created) (hfits : req.Fits custody.identity) (applyFirst : Bool) :
    Ends (fun _ => Good setup req) w
      (preparedChild setup custody.identity custody.credentials applyFirst)
      fun _ => Good setup req := by
  exact ends_seq (carries_gate setup _ (carries_child setup custody hfits) applyFirst ⟨hw, hmem⟩)
    (fun _ _ h => h.1) fun _ _ h => ends_pure h.1

theorem createChild_ends {request : PrepareLobbyRequest} (hw : Good setup (.prepare request) w)
    (hcached : w.childVault[request.lobbyId]? = none) :
    Ends (fun _ => Good setup (.prepare request)) w (createChild setup request)
      fun _ => Good setup (.prepare request) := by
  refine ends_next (createTailnet_ends hw) ?_
  rintro custody v ⟨hv, hmem, hlobby, hgeneration, hcache, -⟩
  rw [← hcache, ← hlobby] at hcached
  refine ends_next (putIfAbsent_ends hv hmem hcached) ?_
  rintro _ v ⟨hv, hmem, honly⟩
  refine ends_next (cache_ends hv hmem honly) ?_
  rintro _ v ⟨hv, hmem⟩
  refine ends_next (preparedChild_ends custody hv hmem ⟨hlobby.symm, hgeneration.symm⟩ true)
    fun prepared v hv => ?_
  refine ends_bind (ends_act (fun _ v' heq => ?_) fun _ _ heq => nomatch heq)
  cases heq
  exact ends_pure ⟨hv.request, hv.held.shrink (fun _ _ h => h) (fun vault _ _ hvault h =>
    ⟨vault, hvault, h⟩) (List.Subset.refl _), hv.sent⟩

theorem prepareLobby_ends (hopens : setup.cipher.Opens) {request : PrepareLobbyRequest}
    (hw : Good setup (.prepare request) w) :
    Ends (fun _ => Good setup (.prepare request)) w (prepareLobby setup request)
      fun _ => Good setup (.prepare request) := by
  unfold prepareLobby
  refine ends_ite (fun _ => ends_pure hw) fun _ => ends_ite (fun _ => ?_) fun _ => ?_
  · split
    · exact ends_throw hw
    · exact ends_pure hw
  · refine ends_bind (ends_look (fun cached heq => ?_) fun _ heq => nomatch heq)
    cases heq
    cases hcached : w.childVault[request.lobbyId]? with
    | some access =>
      refine ends_ite (fun _ => ends_throw hw) fun hgeneration => ?_
      exact preparedChild_ends ⟨access.identity request.lobbyId, access.client⟩ hw
        (hw.held.cached _ access hcached) ⟨rfl, (not_not.mp hgeneration).symm⟩ false
    | none =>
      refine ends_seq (durableIdentity_ends hw.held request.lobbyId) (fun _ _ h => h ▸ hw) ?_
      rintro durable _ ⟨rfl, hfound, -⟩
      cases durable with
      | none => exact createChild_ends hw hcached
      | some identity =>
        refine ends_ite (fun _ => ends_throw hw) fun hgeneration => ?_
        refine ends_seq (getExact_ends hopens hw identity) (fun _ _ h => h ▸ hw) ?_
        rintro found _ ⟨rfl, hmem, honly⟩
        refine ends_next (cache_ends hw hmem honly) ?_
        rintro _ v ⟨hv, hmem⟩
        exact preparedChild_ends ⟨identity, found.1⟩ hv hmem
          ⟨(hfound identity rfl).1.symm, (not_not.mp hgeneration).symm⟩ false

theorem mintCredential_ends (hopens : setup.cipher.Opens) {request : MintCredentialRequest}
    (hw : Good setup (.mint request) w) :
    Ends (fun _ => Good setup (.mint request)) w (mintCredential setup request)
      fun _ => Good setup (.mint request) := by
  unfold mintCredential
  refine ends_ite (fun _ => ?_) fun _ => ends_ite (fun hshared => ?_) fun _ => ?_
  · refine ends_bind (ends_act (fun _ v heq => ?_) fun _ _ heq => nomatch heq)
    cases heq
    exact ends_pure ⟨hw.request, hw.held.shrink (fun _ _ h => h) (fun vault _ _ hvault h =>
      ⟨vault, hvault, h⟩) (List.Subset.refl _), hw.sent⟩
  · refine carries_createAuthKey (carries_shared _ (fun hdedicated => ?_) _ _) hw
    exact nomatch hshared.symm.trans hdedicated
  · split
    · exact ends_throw hw
    · next identity hidentity =>
      refine ends_ite (fun _ => ends_throw hw) fun hnames => ?_
      rw [not_or, not_not, not_not] at hnames
      refine ends_next (childAccess_ends hopens hw _ _ identity) ?_
      rintro child v ⟨hv, tuple, hmem, hlobby, hgeneration, rfl⟩
      have hfits : (ProviderRequest.mint request).Fits tuple :=
        ⟨hlobby.symm, hgeneration.symm, hidentity⟩
      have hcarries := carries_child setup ⟨tuple, child⟩ hfits
      refine ends_seq (carries_gate setup _ hcarries false ⟨hv, hmem⟩) (fun _ _ h => h.1) fun _ v hv => ?_
      rw [show tuple.tailnetDnsName.asStr = request.tailnet from hnames.1] at hcarries
      exact (carries_createAuthKey hcarries hv).mono (fun _ _ h => h.1) fun _ _ h => h.1

theorem cleanupLobby_ends (hopens : setup.cipher.Opens) {request : CleanupLobbyRequest}
    (hw : Good setup (.cleanup request) w) :
    Ends (fun _ => Good setup (.cleanup request)) w (cleanupLobby setup request)
      fun _ => Good setup (.cleanup request) := by
  unfold cleanupLobby
  refine ends_ite (fun _ => ends_pure hw) fun _ => ?_
  split
  · exact ends_throw hw
  · next identity hidentity =>
    split
    · exact ends_throw hw
    · refine ends_ite (fun _ => ends_throw hw) fun hnames => ends_ite (fun _ => ?_) fun hshared =>
        carries_cleanupSharedTailnet (carries_shared (.cleanup request) hshared _ _) hw
      rw [not_or, not_not] at hnames
      refine ends_next (childAccess_ends hopens hw _ _ identity) ?_
      rintro child v ⟨hv, tuple, hmem, hlobby, hgeneration, rfl⟩
      have hfits : (ProviderRequest.cleanup request).Fits tuple :=
        ⟨hlobby.symm, hgeneration.symm, hidentity⟩
      have hcarries := carries_child setup ⟨tuple, child⟩ hfits
      refine ends_ite (fun _ => ?_) fun _ => ?_
      · refine ends_seq (carries_send hcarries ⟨hv, hmem⟩ ?_) (fun _ _ h => h.1)
          fun deleted v hv => ?_
        · intro named hnamed
          cases hnamed
          rfl
        · cases deleted with
          | ok => exact ends_pure hv.1
          | error error => exact ends_throw hv.1
      · rw [show tuple.tailnetDnsName.asStr = request.tailnet from hnames.2] at hcarries
        exact (carries_revokeCredentials hcarries _ _ ⟨hv, hmem⟩).mono (fun _ _ h => h.1)
          fun _ _ h => h.1

theorem observeNetwork_ends (hopens : setup.cipher.Opens) {request : ObserveNetworkRequest}
    (hw : Good setup (.observe request) w) :
    Ends (fun _ => Good setup (.observe request)) w (observeNetwork setup request)
      fun _ => Good setup (.observe request) := by
  unfold observeNetwork
  refine ends_ite (fun _ => ends_throw hw) fun _ => ends_ite (fun hshared => ?_) fun _ => ?_
  · refine carries_deviceCount (carries_shared _ (fun hdedicated => ?_) _ request.tailnet) hw
    exact nomatch hshared.symm.trans hdedicated
  · split
    · exact ends_throw hw
    · next identity hidentity =>
      refine ends_ite (fun _ => ends_throw hw) fun _ => ?_
      refine ends_next (childAccess_ends hopens hw _ _ identity) ?_
      rintro child v ⟨hv, tuple, hmem, hlobby, hgeneration, rfl⟩
      have hfits : (ProviderRequest.observe request).Fits tuple :=
        ⟨hlobby.symm, hgeneration.symm, hidentity⟩
      have hcarries := carries_child setup ⟨tuple, child⟩ hfits
      exact (carries_deviceCount hcarries ⟨hv, hmem⟩).mono (fun _ _ h => h.1) fun _ _ h => h.1

/-! ### Erasure -/

/-- `P` is kept where the vault or the cache loses entries. -/
structure Erasable (P : TailscaleProvider → Prop) : Prop where
  vault : ∀ w turn (vault vault' : EncryptedChildVault), P w → w.durableChildVault = some vault →
    (∀ lobby record, vault'.Has lobby record → vault.Has lobby record) →
    P { w with turn := turn, durableChildVault := some vault' }
  cache : ∀ w lobby, P w → P { w with childVault := w.childVault.erase lobby }

section Erasable

variable {P : TailscaleProvider → Prop}

theorem deleteCas_ends (hP : Erasable P) (hw : P w) (identity : ChildVaultIdentity)
    (version : UInt64) : Ends (fun _ => P) w (deleteCas identity version) fun _ => P := by
  unfold deleteCas
  cases hvault : w.durableChildVault with
  | none =>
    refine ends_act (fun _ w' heq => ?_) fun _ w' heq => ?_
    all_goals
      rw [hvault] at heq
      cases heq
    exact hw
  | some vault =>
    have hkept := hP.vault w (w.turn + 1) vault
      (vault.deleteCas identity version w.answer.replace w.answer.readable).2 hw hvault
      fun _ _ h => EncryptedChildVault.has_deleteCas h
    refine ends_act (fun _ w' heq => ?_) fun _ w' heq => ?_
    all_goals
      rw [hvault] at heq
      dsimp only at heq
      split at heq <;> cases heq
      exact hkept

theorem verifyErased_ends (hP : Erasable P) (hw : P w) (identity : ChildVaultIdentity) :
    Ends (fun _ => P) w (verifyErased identity) fun _ => P := by
  unfold verifyErased
  cases hvault : w.durableChildVault with
  | none =>
    refine ends_act (fun _ w' heq => ?_) fun _ w' heq => ?_
    all_goals
      rw [hvault] at heq
      cases heq
    exact hw
  | some vault =>
    have hkept := hP.vault w (w.turn + 1) vault (vault.verifyErased identity w.answer.readable).2 hw
      hvault fun _ _ h => EncryptedChildVault.has_verifyErased h
    refine ends_act (fun _ w' heq => ?_) fun _ w' heq => ?_
    all_goals
      rw [hvault] at heq
      dsimp only at heq
      split at heq <;> cases heq
      exact hkept

theorem eraseDurable_ends (hP : Erasable P) (hw : P w) (identity : ChildVaultIdentity) :
    Ends (fun _ => P) w (eraseDurable setup identity) fun _ => P := by
  refine ends_bind (ends_look (fun version _ => ?_) fun _ _ => hw)
  cases version with
  | none => exact ends_next (verifyErased_ends hP hw identity) fun _ _ hv => ends_pure hv
  | some version =>
    refine ends_next (deleteCas_ends hP hw identity version) fun _ v hv => ?_
    refine ends_next (verifyErased_ends hP hv identity) fun _ v hv => ?_
    exact ends_ite (fun _ => ends_throw hv) fun _ => ends_pure hv

theorem eraseChildSecret_ends (hP : Erasable P) (hw : P w) (request : TailnetPresenceRequest) :
    Ends (fun _ => P) w (eraseChildSecret setup request) fun _ => P := by
  refine ends_next (exactIdentity_ends hw) ?_
  rintro identity v ⟨hv, -⟩
  refine ends_bind (ends_look (fun _ _ => ?_) fun _ _ => hv)
  refine ends_next (eraseDurable_ends hP hv identity) fun _ v hv => ?_
  refine ends_act (fun _ v' heq => ?_) fun _ _ heq => nomatch heq
  cases heq
  exact hP.cache v _ hv

end Erasable

theorem erasable_good : Erasable (Good setup req) where
  vault _ _ vault _ hw hvault hhas :=
    ⟨hw.request, hw.held.shrink (fun _ _ h => h) (fun found lobby record hfound hrecord => by
      cases hfound
      exact ⟨vault, hvault, hhas lobby record hrecord⟩) (List.Subset.refl _), hw.sent⟩
  cache _ _ hw := by
    refine ⟨hw.request, hw.held.shrink (fun lobby access haccess => ?_) (fun vault _ _ hvault h =>
      ⟨vault, hvault, h⟩) (List.Subset.refl _), hw.sent⟩
    rw [Std.ExtTreeMap.getElem?_erase] at haccess
    split_ifs at haccess
    exact haccess

theorem serve_good (hopens : setup.cipher.Opens) (hw : Good setup req w) :
    Ends (fun _ => Good setup req) w (serve setup req) fun _ => Good setup req := by
  cases req with
  | prepare request => exact ends_next (prepareLobby_ends hopens hw) fun _ _ h => ends_pure h
  | mint request => exact ends_next (mintCredential_ends hopens hw) fun _ _ h => ends_pure h
  | cleanup request => exact ends_next (cleanupLobby_ends hopens hw) fun _ _ h => ends_pure h
  | observe request => exact ends_next (observeNetwork_ends hopens hw) fun _ _ h => ends_pure h
  | erase request => exact eraseChildSecret_ends erasable_good hw request

/-- What holds between requests. -/
structure Custodial (setup : ProviderSetup) (w : TailscaleProvider) : Prop where
  held : Held setup w
  sent : ∀ entry ∈ w.sent, entry.Authorized w.created

theorem Custodial.step (hopens : setup.cipher.Opens) (h : Custodial setup w) (a : ProviderStep) :
    Custodial setup (w.step setup a).2 := by
  cases a with
  | call request answers =>
    have hgood : Good setup request { w with request := request, answers := answers, turn := 0 } :=
      ⟨rfl, h.held.shrink (fun _ _ h => h) (fun vault _ _ hv h => ⟨vault, hv, h⟩)
        (List.Subset.refl _), h.sent⟩
    have hend := (serve_good hopens hgood).exec
    exact ⟨hend.held, hend.sent⟩
  | restart =>
    refine ⟨h.held.shrink (fun lobby access haccess => ?_) (fun found lobby record hfound hhas => ?_)
      (List.Subset.refl _), h.sent⟩
    · exact nomatch Std.ExtTreeMap.getElem?_empty.symm.trans haccess
    · obtain ⟨vault, hvault, rfl⟩ := Option.map_eq_some_iff.mp hfound
      exact ⟨vault, hvault, .inr (hhas.elim id id)⟩

/-- A provider that has just been set up, with an empty vault or without one. -/
def start (hasVault : Bool) (request : ProviderRequest) (answers : ℕ → ProviderAnswer) :
    TailscaleProvider where
  childVault := ∅
  durableChildVault := if hasVault then some .fresh else none
  capabilities := .blocked
  simulatedMints := 0
  request := request
  answers := answers
  turn := 0
  sent := []
  created := []

theorem custodial_start (setup : ProviderSetup) (hasVault : Bool) (request : ProviderRequest)
    (answers : ℕ → ProviderAnswer) : Custodial setup (start hasVault request answers) := by
  have hempty : ∀ lobby : LobbyId, VaultImage.empty.records[lobby]? = none := fun _ =>
    Std.ExtTreeMap.getElem?_empty
  have hcache : ∀ (lobby : LobbyId) (access : ChildTailnetAccess),
      (start hasVault request answers).childVault[lobby]? ≠ some access := by
    intro lobby access haccess
    exact nomatch Std.ExtTreeMap.getElem?_empty.symm.trans haccess
  have hrecords : ∀ vault lobby record, (start hasVault request answers).durableChildVault
      = some vault → ¬vault.Has lobby record := by
    intro vault lobby record hvault hhas
    have hfresh : vault = .fresh := by
      cases hasVault with
      | false => exact nomatch hvault
      | true => exact (Option.some.inj hvault).symm
    subst hfresh
    exact hhas.elim (fun h => nomatch (hempty lobby).symm.trans h) fun h =>
      nomatch (hempty lobby).symm.trans h
  refine ⟨⟨fun lobby access haccess => absurd haccess (hcache lobby access),
    fun vault lobby record hvault hhas => absurd hhas (hrecords vault lobby record hvault),
    fun lobby i j hi _ => ?_⟩, fun _ hentry => absurd hentry List.not_mem_nil⟩
  cases hi with
  | cached access haccess => exact absurd haccess (hcache lobby access)
  | durable vault record hvault hhas => exact absurd hhas (hrecords vault lobby record hvault)

theorem custodial_run (hopens : setup.cipher.Opens) (hasVault : Bool) (request : ProviderRequest)
    (answers : ℕ → ProviderAnswer) (steps : List ProviderStep) :
    Custodial setup (Runs.run (step setup) (start hasVault request answers) steps) := by
  have hstep : ∀ (w : TailscaleProvider) (a : ProviderStep), Custodial setup w →
      Custodial setup (w.step setup a).2 := fun _ a h => h.step hopens a
  exact Runs.run_invariant hstep (custodial_start setup hasVault request answers) steps

theorem openCipher_opens : EncryptedChildVault.openCipher.Opens := by
  intro nonce plaintext tuple text h
  cases h
  rfl

def plainSetup : ProviderSetup := ⟨EncryptedChildVault.openCipher, "shared.ts.net", fun _ => ""⟩

/-- Every call succeeds, and the policy reads back wrong. -/
def gatedAnswer : ProviderAnswer where
  result := .ok ()
  tailnet := ⟨"tailnet-1", ⟨"one.ts.net"⟩, ⟨"client-1", "secret-1"⟩⟩
  keyId := "key-1"
  devices := []
  policyMatches := false
  timedOut := false
  nonce := []
  replace := .installed
  readable := true

def gatedLobby : LobbyId := ProtocolId.ofTail 1

def gatedPrepare : ProviderRequest := .prepare ⟨gatedLobby, 1, .tailnetPerLobby, false⟩

end TailscaleProvider

end Spurfire
