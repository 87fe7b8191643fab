import Spurfire.Server.Record

/-!
# The network provider

The boundary between the service and the network provider (`provider.rs`): requests, results, and
the failures with the machine-readable reason each one leaves in a lobby.

Response metadata, the secret key material and the device counters are left out: no modelled
function reads them.
-/

namespace Spurfire

/-! ## Identity -/

structure ProviderNetworkIdentity where
  providerTailnetId : Option String
  tailnetDnsName : TailnetDnsName
deriving DecidableEq

/-! ## Failures -/

inductive ChildPolicyStatus
  | mismatch
  | denied
  | unavailable
deriving DecidableEq

def ChildPolicyStatus.asStr : ChildPolicyStatus → String
  | mismatch => "mismatch"
  | denied => "denied"
  | unavailable => "unavailable"

inductive ProviderError
  | realMutationsDisabled
  | identityMismatch
  | childSecretUnavailable
  | childPolicyGate (identity : ProviderNetworkIdentity) (expectedDigest : String)
      (status : ChildPolicyStatus) (deleteAcknowledged : Bool)
  | insufficientScopes (operation : String)
  | upstream (operation : String) (status : UInt16)
  | unavailable (operation : String)
deriving DecidableEq

namespace ProviderError

def stateReason : ProviderError → String
  | realMutationsDisabled => "real_mutations_disabled"
  | identityMismatch => "provider_identity_mismatch_manual_remediation"
  | childSecretUnavailable => "child_secret_unavailable_manual_remediation"
  | childPolicyGate _ _ .mismatch _ => "child_policy_readback_mismatch"
  | childPolicyGate _ _ .denied _ => "child_policy_blocked_403"
  | childPolicyGate _ _ .unavailable _ => "child_policy_unavailable"
  | insufficientScopes operation =>
    if operation = "organization_tailnet_create" then "provisioning_blocked_organization_tailnets"
    else if operation = "auth_keys" then "provisioning_blocked_auth_keys_403"
    else if operation = "devices" then "cleanup_blocked_devices_403"
    else if operation = "acl" then "provisioning_blocked_acl_403"
    else "provisioning_blocked_scopes_403"
  | upstream _ _ => "provider_upstream_error"
  | unavailable operation =>
    if operation = "startup" ∨ operation = "settings" then "token_fetch_failed"
    else "provider_unavailable"

/-- Every failure says something. -/
theorem stateReason_not_blank (error : ProviderError) : isBlank error.stateReason = false := by
  cases error with
  | childPolicyGate _ _ status _ =>
    cases status
    all_goals
      dsimp only [stateReason]
      decide +kernel
  | _ =>
    dsimp only [stateReason]
    try split_ifs
    all_goals decide +kernel

/-- The outcome upstream is not known. -/
def isUnavailable : ProviderError → Bool
  | unavailable _ => true
  | _ => false

/-- The identity or the custody behind it is lost. -/
def losesIdentity : ProviderError → Bool
  | childSecretUnavailable | identityMismatch => true
  | _ => false

end ProviderError

/-- A dedicated tailnet needs its stable identifier before it can be destructive input. -/
def ProviderNetworkIdentity.validateForMode (identity : ProviderNetworkIdentity)
    (mode : ProvisioningMode) : Except ProviderError Unit :=
  if mode = .tailnetPerLobby
      ∧ identity.providerTailnetId.any StoredLobby.validProviderTailnetId = false then
    .error .identityMismatch
  else .ok ()

/-! ## Capabilities -/

structure ProviderCapabilities where
  oauthTokenOk : Bool
  canManageOrganizationTailnets : Bool
  canMintAuthKeys : Bool
  canListDevices : Bool
  canManageAcl : Bool
deriving DecidableEq

namespace ProviderCapabilities

def blocked : ProviderCapabilities := ⟨false, false, false, false, false⟩

def available : ProviderCapabilities := ⟨true, true, true, true, true⟩

def sharedTailnetAvailable (c : ProviderCapabilities) : Bool :=
  c.oauthTokenOk && c.canMintAuthKeys && c.canListDevices && c.canManageAcl

def tailnetPerLobbyAvailable (c : ProviderCapabilities) : Bool :=
  c.oauthTokenOk && c.canManageOrganizationTailnets

def modeAvailable (c : ProviderCapabilities) : ProvisioningMode → Bool
  | .sharedTailnet => c.sharedTailnetAvailable
  | .tailnetPerLobby => c.tailnetPerLobbyAvailable
  | .dryRun => true

def blockedStateReason (c : ProviderCapabilities) (mode : ProvisioningMode) : String :=
  if !c.oauthTokenOk then "token_fetch_failed"
  else if mode = .tailnetPerLobby then "provisioning_blocked_organization_tailnets"
  else if !c.canMintAuthKeys then "provisioning_blocked_auth_keys_403"
  else if !c.canListDevices then "provisioning_blocked_devices_403"
  else "provisioning_blocked_acl_403"

theorem blockedStateReason_not_blank (c : ProviderCapabilities) (mode : ProvisioningMode) :
    isBlank (c.blockedStateReason mode) = false := by
  unfold blockedStateReason
  split_ifs
  all_goals decide +kernel

end ProviderCapabilities

/-! ## Requests and results -/

structure PrepareLobbyRequest where
  lobbyId : LobbyId
  networkGeneration : UInt64
  mode : ProvisioningMode
  dryRun : Bool
deriving DecidableEq

structure PreparedNetwork where
  tailnet : String
  identity : Option ProviderNetworkIdentity
  /-- Digest of the verified restrictive policy. -/
  childPolicyEvidence : Option String
  dryRun : Bool
deriving DecidableEq

structure MintCredentialRequest where
  lobbyId : LobbyId
  networkGeneration : UInt64
  identity : Option ProviderNetworkIdentity
  mode : ProvisioningMode
  playerId : PlayerId
  tailnet : String
  tag : String
  expiresAt : UnixMillis
  dryRun : Bool
deriving DecidableEq

structure MintedCredential where
  credentialId : String
  tailnet : String
  dryRun : Bool
deriving DecidableEq

structure CredentialCleanup where
  credentialId : String
  expiresAt : UnixMillis
deriving DecidableEq

structure CleanupLobbyRequest where
  lobbyId : LobbyId
  networkGeneration : UInt64
  identity : Option ProviderNetworkIdentity
  mode : ProvisioningMode
  tailnet : String
  tag : String
  credentials : List CredentialCleanup
  includeDevices : Bool
  now : UnixMillis
  dryRun : Bool
deriving DecidableEq

structure CleanupOutcome where
  cleanupPending : Bool
  /-- The delete call was acknowledged, which does not prove absence. -/
  deleteAcknowledged : Bool
  childSecretErased : Bool
  revokedCredentialIds : List String
deriving DecidableEq

structure ObserveNetworkRequest where
  lobbyId : LobbyId
  networkGeneration : UInt64
  mode : ProvisioningMode
  identity : Option ProviderNetworkIdentity
  tailnet : String
  tag : String
  dryRun : Bool
deriving DecidableEq

structure TailnetPresenceRequest where
  lobbyId : LobbyId
  networkGeneration : UInt64
  identity : ProviderNetworkIdentity
deriving DecidableEq

end Spurfire
