import Spurfire.Lib.Sha256
import Spurfire.Lib.Word
import Spurfire.Protocol.IpText
import Spurfire.Server.Api
import Spurfire.Server.Ledger

/-!
# Receipts of the hosted Alpha

The owner's signed receipt (`rehearsal.rs`), its verification against the launcher's measurements,
and the supervisor ledger built from what it qualifies (`supervision.rs`).

* `receipt_outlived`: a verified receipt expires before its own absolute deadline, or its play
  window is cut off at the end of time.
* `alpha_ledger_refused`: so no verified receipt yields a supervisor ledger.

The wire form of a receipt, the signature and the hash are outside this repository.
-/

namespace Spurfire

def PROTECTED_ALPHA_AUDIENCE : String := "spurfire-protected-alpha/v1"
def PROTECTED_ALPHA_PURPOSE : String := "bounded_hosted_alpha"
def MAX_RECEIPT_LIFETIME : UInt64 := 300000
def ALPHA_PLAY_MS : UInt64 := 2700000
def ALPHA_CLEANUP_MS : UInt64 := 900000

structure ProtectedAlphaClaims where
  audience : String
  receiptId : String
  sourceSha : String
  runtimeImageDigest : String
  brokerImageDigest : String
  workerSha256 : String
  brokerSha256 : String
  provenanceSha256 : String
  artifactSetSha256 : String
  policyProfileSha256 : String
  publicOrigin : String
  internalListener : String
  lobbyId : LobbyId
  networkGeneration : UInt64
  installationId : String
  storeInstanceIdSha256 : String
  canonicalStatePathSha256 : String
  initialStateSha256 : String
  leaseUid : String
  leaseResourceVersion : String
  leasePhase : String
  supervisorRunId : String
  initialEpoch : UInt64
  launchCodeSha256 : String
  participantCap : UInt8
  issuedAt : UnixMillis
  expiresAt : UnixMillis
  finalIoDeadline : UnixMillis
  absoluteDeadline : UnixMillis
  provisioningMode : ProvisioningMode
  hosted : Bool
  purpose : String
  ownerKeyId : String

structure ProtectedAlphaReceipt where
  claims : ProtectedAlphaClaims
  signature : List UInt8

structure ProtectedAlphaVerificationContext where
  now : UnixMillis
  sourceSha : String
  runtimeImageDigest : String
  brokerImageDigest : String
  workerSha256 : Digest
  brokerSha256 : Digest
  provenanceSha256 : Digest
  artifactSetSha256 : Digest
  policyProfileSha256 : Digest
  publicOrigin : String
  internalListener : String
  installationId : String
  storeInstanceIdSha256 : Digest
  canonicalStatePathSha256 : Digest
  initialStateSha256 : Digest
  leaseUid : String
  leaseResourceVersion : String
  launchCodeSha256 : Digest

/-- The whole of `ProtectedAlphaQualification`: the part the handlers read, and the bindings. -/
structure FullAlphaQualification extends ProtectedAlphaQualification where
  receiptVerifier : Digest
  receiptIdDigest : Digest
  installationIdDigest : Digest
  storeInstanceIdSha256 : Digest
  canonicalStatePathSha256 : Digest
  initialStateSha256 : Digest
  leaseUidDigest : Digest
  leaseResourceVersionDigest : Digest
  supervisorRunIdDigest : Digest
  initialEpoch : UInt64
  expiresAt : UnixMillis
  finalIoDeadline : UnixMillis
  participantCap : UInt8
  runtimeImageDigest : Digest
  brokerImageDigest : Digest
  workerSha256 : Digest
  brokerSha256 : Digest
  provenanceSha256 : Digest
  artifactSetSha256 : Digest
  policyProfileDigest : Digest
  publicOriginDigest : Digest
  internalListenerDigest : Digest

inductive RehearsalReceiptError
  | malformed
  | invalidSignature
  | unknownSigner
  | invalidBinding
  | invalidLifetime
  | invalidListener
deriving DecidableEq

/-- The crates a verification calls: the JSON form of receipts and claims, the strict signature
check of a key, and SHA-256. -/
structure ReceiptCodec (Key : Type) where
  fromSlice : List UInt8 → Option ProtectedAlphaReceipt
  toVec : ProtectedAlphaClaims → List UInt8
  verifyStrict : Key → List UInt8 → List UInt8 → Bool
  sha256 : List UInt8 → Digest

/-! ## Verification -/

def hexDigit (n : ℕ) : Char := "0123456789abcdef".toList.getD n '0'

def hex (digest : Digest) : String :=
  String.ofList (digest.toList.flatMap fun byte =>
    [hexDigit (byte.toNat / 16), hexDigit (byte.toNat % 16)])

def isLowerHex (byte : UInt8) : Bool :=
  (0x30 ≤ byte && byte ≤ 0x39) || (0x61 ≤ byte && byte ≤ 0x66)

def validImageDigest (value : String) : Bool :=
  let bytes := textBytes value
  bytes.length == 71 && (textBytes "sha256:").isPrefixOf bytes && (bytes.drop 7).all isLowerHex

def hostByte (byte : UInt8) : Bool :=
  (0x61 ≤ byte && byte ≤ 0x7a) || (0x30 ≤ byte && byte ≤ 0x39) || byte == 0x2d || byte == 0x2e

/-- A socket path, a loopback address, or a host name with the service port. -/
def privateListener (listener : String) : Bool :=
  let bytes := textBytes listener
  let host := bytes.takeWhile (· != 0x3a)
  bytes.head? == some 0x2f
    || (SocketAddr.parse listener).any (fun value =>
      value.ip.isLoopback && !value.ip.isUnspecified)
    || (textBytes ":9443").isSuffixOf bytes && !host.isEmpty && host.length ≤ 253
      && host.all hostByte

namespace ProtectedAlphaClaims

variable (claims : ProtectedAlphaClaims) (context : ProtectedAlphaVerificationContext)
  (cleanupRecovery : Bool)

/-- Issue, expiry and the two deadlines, against each other and the clock. -/
def validLifetime : Bool :=
  match claims.expiresAt.checkedSub claims.issuedAt with
  | none => false
  | some lifetime =>
    !(decide (context.now < claims.issuedAt)
      || (!cleanupRecovery && decide (claims.expiresAt ≤ context.now))
      || lifetime == 0
      || decide (MAX_RECEIPT_LIFETIME < lifetime)
      || (!cleanupRecovery && decide (claims.finalIoDeadline ≤ context.now))
      || (cleanupRecovery && decide (claims.absoluteDeadline ≤ context.now))
      || claims.finalIoDeadline != claims.issuedAt.satAdd ALPHA_PLAY_MS
      || claims.absoluteDeadline != claims.finalIoDeadline.satAdd ALPHA_CLEANUP_MS)

def validListener : Bool :=
  privateListener claims.internalListener
    && (textBytes "https://").isPrefixOf (textBytes claims.publicOrigin)
    && !(textBytes "/").isSuffixOf (textBytes claims.publicOrigin)

def validBinding : Bool :=
  claims.audience == PROTECTED_ALPHA_AUDIENCE
    && claims.purpose == PROTECTED_ALPHA_PURPOSE
    && claims.hosted
    && claims.provisioningMode == .tailnetPerLobby
    && claims.networkGeneration != 0
    && claims.initialEpoch != 0
    && claims.participantCap == 2
    && 32 ≤ (textBytes claims.receiptId).length
    && 16 ≤ (textBytes claims.supervisorRunId).length
    && 16 ≤ (textBytes claims.installationId).length
    && claims.leaseUid != ""
    && claims.leaseResourceVersion != ""
    && claims.leasePhase == "admission"
    && validImageDigest claims.runtimeImageDigest
    && validImageDigest claims.brokerImageDigest
    && claims.sourceSha == context.sourceSha
    && claims.runtimeImageDigest == context.runtimeImageDigest
    && claims.brokerImageDigest == context.brokerImageDigest
    && claims.workerSha256 == hex context.workerSha256
    && claims.brokerSha256 == hex context.brokerSha256
    && claims.provenanceSha256 == hex context.provenanceSha256
    && claims.artifactSetSha256 == hex context.artifactSetSha256
    && claims.policyProfileSha256 == hex context.policyProfileSha256
    && claims.publicOrigin == context.publicOrigin
    && claims.internalListener == context.internalListener
    && claims.installationId == context.installationId
    && claims.storeInstanceIdSha256 == hex context.storeInstanceIdSha256
    && claims.canonicalStatePathSha256 == hex context.canonicalStatePathSha256
    && claims.initialStateSha256 == hex context.initialStateSha256
    && claims.leaseUid == context.leaseUid
    && claims.leaseResourceVersion == context.leaseResourceVersion
    && claims.launchCodeSha256 == hex context.launchCodeSha256

end ProtectedAlphaClaims

variable {Key : Type} (codec : ReceiptCodec Key)

def domainHash (domain : String) (value : List UInt8) : Digest :=
  codec.sha256 (textBytes domain ++ value)

def qualify (claims : ProtectedAlphaClaims) (context : ProtectedAlphaVerificationContext) :
    FullAlphaQualification where
  receiptVerifier := domainHash codec "spurfire-protected-alpha-receipt-v1\x00" (codec.toVec claims)
  receiptIdDigest := domainHash codec "spurfire-protected-alpha-id-v1\x00"
    (textBytes claims.receiptId)
  lobbyId := claims.lobbyId
  networkGeneration := claims.networkGeneration
  installationIdDigest := domainHash codec "spurfire-installation-id-v1\x00"
    (textBytes claims.installationId)
  storeInstanceIdSha256 := context.storeInstanceIdSha256
  canonicalStatePathSha256 := context.canonicalStatePathSha256
  initialStateSha256 := context.initialStateSha256
  leaseUidDigest := domainHash codec "spurfire-lease-uid-v1\x00" (textBytes claims.leaseUid)
  leaseResourceVersionDigest := domainHash codec "spurfire-lease-rv-v1\x00"
    (textBytes claims.leaseResourceVersion)
  launchCodeSha256 := context.launchCodeSha256
  supervisorRunIdDigest := domainHash codec "spurfire-protected-alpha-run-v1\x00"
    (textBytes claims.supervisorRunId)
  initialEpoch := claims.initialEpoch
  expiresAt := claims.expiresAt
  finalIoDeadline := claims.finalIoDeadline
  absoluteDeadline := claims.absoluteDeadline
  participantCap := claims.participantCap
  runtimeImageDigest := domainHash codec "spurfire-runtime-image-v1\x00"
    (textBytes claims.runtimeImageDigest)
  brokerImageDigest := domainHash codec "spurfire-broker-image-v1\x00"
    (textBytes claims.brokerImageDigest)
  workerSha256 := context.workerSha256
  brokerSha256 := context.brokerSha256
  provenanceSha256 := context.provenanceSha256
  artifactSetSha256 := context.artifactSetSha256
  policyProfileDigest := context.policyProfileSha256
  publicOriginDigest := domainHash codec "spurfire-protected-alpha-origin-v1\x00"
    (textBytes claims.publicOrigin)
  internalListenerDigest := domainHash codec "spurfire-protected-alpha-listener-v1\x00"
    (textBytes claims.internalListener)

def verifyProtectedAlphaInner (receiptBytes : List UInt8) (trustedKeys : String → Option Key)
    (context : ProtectedAlphaVerificationContext) (cleanupRecovery : Bool) :
    Except RehearsalReceiptError FullAlphaQualification :=
  match codec.fromSlice receiptBytes with
  | none => .error .malformed
  | some receipt =>
    let claims := receipt.claims
    match trustedKeys claims.ownerKeyId with
    | none => .error .unknownSigner
    | some key =>
      if receipt.signature.length ≠ 64 then .error .invalidSignature
      else if codec.verifyStrict key (codec.toVec claims) receipt.signature = false then
        .error .invalidSignature
      else if claims.validLifetime context cleanupRecovery = false then .error .invalidLifetime
      else if claims.validListener = false then .error .invalidListener
      else if claims.validBinding context = false then .error .invalidBinding
      else .ok (qualify codec claims context)

def verifyProtectedAlphaReceipt (receiptBytes : List UInt8) (trustedKeys : String → Option Key)
    (context : ProtectedAlphaVerificationContext) :
    Except RehearsalReceiptError FullAlphaQualification :=
  verifyProtectedAlphaInner codec receiptBytes trustedKeys context false

/-! ## The ledger of a qualification -/

namespace SupervisorLedger

variable {D : Type} [DecidableEq D] (h : EntryHash D)

def new (fence : Fence) (receiptIdDigest receiptVerifier workerSha256 policyProfileDigest : Digest)
    (absoluteDeadline finalIoDeadline : UnixMillis) :
    Except SupervisionError (SupervisorLedger D) :=
  if (textBytes fence.runId).length < 16 ∨ fence.generation = 0 ∨ fence.epoch = 0
      ∨ absoluteDeadline ≤ finalIoDeadline then .error .invalidLedger
  else
    push h {
      schemaVersion := SCHEMA_VERSION
      fence := fence
      receiptIdDigest := receiptIdDigest
      receiptVerifier := receiptVerifier
      workerSha256 := workerSha256
      brokerSha256 := ZERO_DIGEST
      provenanceSha256 := ZERO_DIGEST
      artifactSetSha256 := ZERO_DIGEST
      storeInstanceIdSha256 := ZERO_DIGEST
      canonicalStatePathSha256 := ZERO_DIGEST
      publicOriginDigest := ZERO_DIGEST
      internalListenerDigest := ZERO_DIGEST
      receiptExpiresAt := 0
      protectedAlpha := false
      policyProfileDigest := policyProfileDigest
      absoluteDeadline := absoluteDeadline
      finalIoDeadline := finalIoDeadline
      cleanupOnly := false
      quarantined := false
      identity := none
      transitions := [] } .reserved

def newProtectedAlpha (fence : Fence) (qualification : FullAlphaQualification) :
    Except SupervisionError (SupervisorLedger D) :=
  if fence.lobbyId ≠ qualification.lobbyId ∨ fence.generation ≠ qualification.networkGeneration
      ∨ fence.epoch ≠ qualification.initialEpoch then .error .staleFence
  else do
    let ledger ← new h fence qualification.receiptIdDigest qualification.receiptVerifier
      qualification.workerSha256 qualification.policyProfileDigest qualification.absoluteDeadline
      qualification.finalIoDeadline
    let ledger := { ledger with
      brokerSha256 := qualification.brokerSha256
      provenanceSha256 := qualification.provenanceSha256
      artifactSetSha256 := qualification.artifactSetSha256
      storeInstanceIdSha256 := qualification.storeInstanceIdSha256
      canonicalStatePathSha256 := qualification.canonicalStatePathSha256
      publicOriginDigest := qualification.publicOriginDigest
      internalListenerDigest := qualification.internalListenerDigest
      receiptExpiresAt := qualification.expiresAt
      protectedAlpha := true }
    ledger.validate h
    .ok ledger

end SupervisorLedger

/-! ## No receipt outlives its own deadline -/

variable {codec} {receiptBytes : List UInt8} {trustedKeys : String → Option Key}
  {context : ProtectedAlphaVerificationContext} {cleanupRecovery : Bool}
  {qualification : FullAlphaQualification}

/-- A verified receipt has been held to the lifetime rules. -/
theorem exists_claims_of_verified
    (hok : verifyProtectedAlphaInner codec receiptBytes trustedKeys context cleanupRecovery
      = .ok qualification) :
    ∃ claims : ProtectedAlphaClaims, claims.validLifetime context cleanupRecovery = true
      ∧ qualification = qualify codec claims context := by
  unfold verifyProtectedAlphaInner at hok
  cases hreceipt : codec.fromSlice receiptBytes with
  | none =>
    rw [hreceipt] at hok
    exact nomatch hok
  | some receipt =>
    rw [hreceipt] at hok
    dsimp only at hok
    cases hkey : trustedKeys receipt.claims.ownerKeyId with
    | none =>
      rw [hkey] at hok
      exact nomatch hok
    | some key =>
      rw [hkey] at hok
      dsimp only at hok
      split_ifs at hok with _ _ hlifetime
      cases hok
      exact ⟨receipt.claims, Bool.eq_true_of_not_eq_false hlifetime, rfl⟩

/-- **A receipt expires before its play window ends**, where that end is before the absolute
deadline. -/
theorem receipt_outlived {claims : ProtectedAlphaClaims}
    (hvalid : claims.validLifetime context cleanupRecovery = true)
    (hwindow : claims.finalIoDeadline < claims.absoluteDeadline) :
    claims.expiresAt < claims.finalIoDeadline := by
  unfold ProtectedAlphaClaims.validLifetime at hvalid
  cases hlifetime : claims.expiresAt.checkedSub claims.issuedAt with
  | none =>
    rw [hlifetime] at hvalid
    exact nomatch hvalid
  | some lifetime =>
    rw [hlifetime] at hvalid
    simp only [Bool.not_eq_true', Bool.or_eq_false_iff, decide_eq_false_iff_not,
      bne_eq_false_iff_eq] at hvalid
    obtain ⟨⟨⟨⟨⟨-, hshort⟩, -⟩, -⟩, hfinal⟩, habsolute⟩ := hvalid
    -- the lifetime is the exact difference, the window may be cut off
    have hexact : claims.expiresAt.toNat = claims.issuedAt.toNat + lifetime.toNat := by
      unfold UInt64.checkedSub at hlifetime
      split_ifs at hlifetime with hle
      rw [← Option.some.inj hlifetime, UInt64.toNat_sub_of_le _ _ hle]
      rw [UInt64.le_iff_toNat_le] at hle
      omega
    have hplay : claims.finalIoDeadline.toNat
        = min (claims.issuedAt.toNat + 2700000) (2 ^ 64 - 1) := by
      rw [hfinal, UInt64.toNat_satAdd]
      rfl
    have hshort' : lifetime.toNat ≤ 300000 := by
      rw [UInt64.lt_iff_toNat_lt, not_lt] at hshort
      exact hshort
    rw [UInt64.lt_iff_toNat_lt] at hwindow ⊢
    have hbound := claims.absoluteDeadline.toNat_lt
    omega

namespace SupervisorLedger

variable {D : Type} [DecidableEq D] {h : EntryHash D} {fence : Fence} {ledger : SupervisorLedger D}

/-- The sealed ledger of a qualification has a window before its deadline and a receipt past it. -/
theorem newProtectedAlpha_ok (hok : newProtectedAlpha h fence qualification = .ok ledger) :
    qualification.finalIoDeadline < qualification.absoluteDeadline
      ∧ qualification.absoluteDeadline ≤ qualification.expiresAt := by
  unfold newProtectedAlpha at hok
  split_ifs at hok
  cases hnew : new h fence qualification.receiptIdDigest qualification.receiptVerifier
      qualification.workerSha256 qualification.policyProfileDigest qualification.absoluteDeadline
      qualification.finalIoDeadline with
  | error error =>
    rw [hnew] at hok
    exact nomatch hok
  | ok first =>
    rw [hnew] at hok
    simp only [bind, Except.bind] at hok
    split at hok
    · exact nomatch hok
    rename_i hvalidate
    have halpha := (validate_iff.mp hvalidate).alpha
    unfold new at hnew
    split_ifs at hnew with hrefused
    simp only [not_or, UInt64.not_le] at hrefused
    obtain ⟨hcontinues, -⟩ := push_ok hnew
    have hdeadline : first.absoluteDeadline = qualification.absoluteDeadline :=
      (congrArg absoluteDeadline hcontinues.binding).symm
    simp only [alphaSealed, Bool.not_true, Bool.false_or, Bool.and_eq_true, Bool.not_eq_true',
      decide_eq_false_iff_not, UInt64.not_lt] at halpha
    rw [hdeadline] at halpha
    exact ⟨hrefused.2.2.2, halpha.2⟩

/-- **No verified receipt yields a supervisor ledger**, for any fence. -/
theorem alpha_ledger_refused
    (hverified : verifyProtectedAlphaReceipt codec receiptBytes trustedKeys context
      = .ok qualification) (fence : Fence) :
    ¬∃ ledger, newProtectedAlpha h fence qualification = .ok ledger
      ∧ ledger.validate h = .ok () := by
  rintro ⟨ledger, hok, -⟩
  obtain ⟨hwindow, hlater⟩ := newProtectedAlpha_ok hok
  obtain ⟨claims, hvalid, rfl⟩ := exists_claims_of_verified hverified
  have hearlier := receipt_outlived hvalid hwindow
  exact UInt64.not_lt.mpr hlater (UInt64.lt_trans hearlier hwindow)

/-! ### A receipt as the owner signs it -/

def artifactDigest : Digest := Vector.replicate 32 0xab

def imageDigest : String :=
  "sha256:abababababababababababababababababababababababababababababababab"

def alphaClaims : ProtectedAlphaClaims where
  audience := PROTECTED_ALPHA_AUDIENCE
  receiptId := "receipt-0000000000000000000000000001"
  sourceSha := "e89237ef04cdeb46eb9381d9766bbefeb3b458ee"
  runtimeImageDigest := imageDigest
  brokerImageDigest := imageDigest
  workerSha256 := hex artifactDigest
  brokerSha256 := hex artifactDigest
  provenanceSha256 := hex artifactDigest
  artifactSetSha256 := hex artifactDigest
  policyProfileSha256 := hex artifactDigest
  publicOrigin := "https://alpha.example"
  internalListener := "127.0.0.1:9443"
  lobbyId := ProtocolId.ofTail 1
  networkGeneration := 1
  installationId := "installation-0001"
  storeInstanceIdSha256 := hex artifactDigest
  canonicalStatePathSha256 := hex artifactDigest
  initialStateSha256 := hex artifactDigest
  leaseUid := "lease-uid"
  leaseResourceVersion := "41"
  leasePhase := "admission"
  supervisorRunId := "run-000000000001"
  initialEpoch := 1
  launchCodeSha256 := hex artifactDigest
  participantCap := 2
  issuedAt := 1000000
  expiresAt := 1300000
  finalIoDeadline := 3700000
  absoluteDeadline := 4600000
  provisioningMode := .tailnetPerLobby
  hosted := true
  purpose := PROTECTED_ALPHA_PURPOSE
  ownerKeyId := "owner"

def alphaContext : ProtectedAlphaVerificationContext where
  now := 1000001
  sourceSha := alphaClaims.sourceSha
  runtimeImageDigest := imageDigest
  brokerImageDigest := imageDigest
  workerSha256 := artifactDigest
  brokerSha256 := artifactDigest
  provenanceSha256 := artifactDigest
  artifactSetSha256 := artifactDigest
  policyProfileSha256 := artifactDigest
  publicOrigin := alphaClaims.publicOrigin
  internalListener := alphaClaims.internalListener
  installationId := alphaClaims.installationId
  storeInstanceIdSha256 := artifactDigest
  canonicalStatePathSha256 := artifactDigest
  initialStateSha256 := artifactDigest
  leaseUid := alphaClaims.leaseUid
  leaseResourceVersion := alphaClaims.leaseResourceVersion
  launchCodeSha256 := artifactDigest

/-- Every slice is the owner's receipt, and its signature verifies. -/
def ownerCodec : ReceiptCodec Unit where
  fromSlice := fun _ => some ⟨alphaClaims, List.replicate 64 1⟩
  toVec := fun claims => textBytes claims.receiptId
  verifyStrict := fun _ _ _ => true
  sha256 := Sha256.digest

def ownerKeys (keyId : String) : Option Unit := if keyId = "owner" then some () else none

theorem ownerReceipt_verified (receiptBytes : List UInt8) :
    verifyProtectedAlphaReceipt ownerCodec receiptBytes ownerKeys alphaContext
      = .ok (qualify ownerCodec alphaClaims alphaContext) := by
  have hlifetime : alphaClaims.validLifetime alphaContext false = true := by decide +kernel
  have hlistener : alphaClaims.validListener = true := by decide +kernel
  have hbinding : alphaClaims.validBinding alphaContext = true := by decide +kernel
  have hkey : ownerKeys alphaClaims.ownerKeyId = some () := by decide +kernel
  unfold verifyProtectedAlphaReceipt verifyProtectedAlphaInner
  simp only [ownerCodec, hkey, hlifetime, hlistener, hbinding, List.length_replicate, ne_eq,
    not_true_eq_false, Bool.true_eq_false, if_false]

def alphaFence : Fence :=
  ⟨"run-000000000001", ProtocolId.ofTail 1, 1, 1, ZERO_DIGEST⟩

/-- The owner's receipt is verified, and its ledger refused. -/
theorem alpha_ledger_refused_owner :
    verifyProtectedAlphaReceipt ownerCodec [] ownerKeys alphaContext
        = .ok (qualify ownerCodec alphaClaims alphaContext)
      ∧ ¬∃ ledger, newProtectedAlpha LedgerWorld.chainHash alphaFence
          (qualify ownerCodec alphaClaims alphaContext) = .ok ledger
        ∧ ledger.validate LedgerWorld.chainHash = .ok () :=
  ⟨ownerReceipt_verified [], alpha_ledger_refused (ownerReceipt_verified []) alphaFence⟩

/-- Every condition of the ledger is met but the one on the receipt's expiry. -/
theorem verified_receipt_refused :
    ¬∀ (receiptBytes : List UInt8) (qualification : FullAlphaQualification) (fence : Fence),
      verifyProtectedAlphaReceipt ownerCodec receiptBytes ownerKeys alphaContext
        = .ok qualification →
      fence.lobbyId = qualification.lobbyId →
      fence.generation = qualification.networkGeneration →
      fence.epoch = qualification.initialEpoch → 16 ≤ (textBytes fence.runId).length →
      ∃ ledger, newProtectedAlpha LedgerWorld.chainHash fence qualification = .ok ledger
        ∧ ledger.validate LedgerWorld.chainHash = .ok () := by
  intro hclaim
  obtain ⟨ledger, hok, -⟩ := hclaim [] _ alphaFence (ownerReceipt_verified []) rfl rfl rfl
    (by decide +kernel)
  exact absurd (newProtectedAlpha_ok hok).2 (by decide)

end SupervisorLedger

end Spurfire
