import Spurfire.Lib.Sha256
import Spurfire.Server.Ledger
import Spurfire.Server.Responses
import Spurfire.Server.Vault

/-!
# Read limits

The vault and the supervisor ledger are written whole and read up to a limit of one mebibyte
(`read_private_file`, `read_json_limited`).  This file follows their bytes:

* `SupervisorLedger.text` is, as `VaultImage.text`, the document that `serde_json` writes;
* `VaultDisk` and `LedgerDisk` are the two stores with the bytes of their files;
* `ReadsBack` is what is asked of the parser, which is outside this repository;
* **`persisted_loads_iff`**: after any calls, what was last persisted is loaded exactly when its text
  is within the limit;
* `vault_outgrows_its_reader`: no parser whatever loads all that successful puts persist.
-/

namespace Spurfire

open JsonScan

/-! ## Documents -/

def Digest.document (digest : Digest) : Document :=
  array (digest.toList.map fun byte => wireNumber byte.toNat)

def Fence.document (fence : Fence) : Document :=
  object [(name "run_id", wireText fence.runId), (name "lobby_id", textItem fence.lobbyId.wireName),
    (name "generation", wireNumber fence.generation.toNat),
    (name "epoch", wireNumber fence.epoch.toNat),
    (name "token_sha256", fence.tokenSha256.document)]

def SupervisedIdentity.document (identity : SupervisedIdentity) : Document :=
  object [(name "provider_stable_id", wireText identity.providerStableId),
    (name "fqdn", wireText identity.fqdn),
    (name "vault_version", wireNumber identity.vaultVersion.toNat)]

def Operation.wireName : Operation → List UInt8
  | create => name "create"
  | applyPolicy => name "apply_policy"
  | finalProviderIo => name "final_provider_io"
  | delete => name "delete"
  | observeAbsence => name "observe_absence"
  | vaultErase => name "vault_erase"
  | leaseRelease => name "lease_release"

def OperationOutcome.wireName : OperationOutcome → List UInt8
  | succeeded => name "succeeded"
  | failed => name "failed"
  | unknown => name "unknown"

namespace Transition

def kind : Transition → String
  | reserved => "reserved"
  | intent _ => "intent"
  | outcome _ _ => "outcome"
  | identityBound _ => "identity_bound"
  | cleanupOnly => "cleanup_only"
  | absenceObserved _ _ _ _ => "absence_observed"
  | vaultTombstoneReadback _ => "vault_tombstone_readback"
  | released => "released"
  | quarantined _ => "quarantined"

def members : Transition → List (List UInt8 × Document)
  | reserved | cleanupOnly | released => []
  | intent operation => [(name "operation", textItem operation.wireName)]
  | outcome operation result => [(name "operation", textItem operation.wireName),
      (name "outcome", textItem result.wireName)]
  | identityBound identity => [(name "identity", identity.document)]
  | absenceObserved ordinal providerStableId fullyPaginated uncached =>
    [(name "ordinal", wireNumber ordinal.toNat),
      (name "provider_stable_id", wireText providerStableId),
      (name "fully_paginated", wireBool fullyPaginated), (name "uncached", wireBool uncached)]
  | vaultTombstoneReadback version => [(name "version", wireNumber version.toNat)]
  | quarantined reason => [(name "reason", wireText reason)]

def document (transition : Transition) : Document :=
  object ((name "kind", wireText transition.kind) :: transition.members)

end Transition

/-- The digest of an entry, `hash(b"spurfire-supervisor-entry-v1\0", ..)` of a triple. -/
def entryHash : EntryHash Digest where
  zero := ZERO_DIGEST
  hash := fun (sequence, previous, transition) =>
    Sha256.digest (textBytes "spurfire-supervisor-entry-v1" ++ [0]
      ++ render (array [wireNumber sequence, previous.document, transition.document]))

def LedgerEntry.document (entry : LedgerEntry Digest) : Document :=
  object [(name "sequence", wireNumber entry.sequence),
    (name "previous_sha256", entry.previousSha256.document),
    (name "transition", entry.transition.document),
    (name "entry_sha256", entry.entrySha256.document)]

namespace SupervisorLedger

def LedgerHead.document (head : LedgerHead Digest) : Document :=
  object [(name "sequence", wireNumber head.sequence),
    (name "entry_sha256", head.entrySha256.document)]

def LedgerHead.text (head : LedgerHead Digest) : List UInt8 := render (LedgerHead.document head)

/-- The members before the entries. -/
def headMembers (ledger : SupervisorLedger Digest) : List (List UInt8 × Document) :=
  [(name "schema_version", wireNumber ledger.schemaVersion.toNat),
    (name "fence", ledger.fence.document),
    (name "receipt_id_digest", ledger.receiptIdDigest.document),
    (name "receipt_verifier", ledger.receiptVerifier.document),
    (name "worker_sha256", ledger.workerSha256.document),
    (name "broker_sha256", ledger.brokerSha256.document),
    (name "provenance_sha256", ledger.provenanceSha256.document),
    (name "artifact_set_sha256", ledger.artifactSetSha256.document),
    (name "store_instance_id_sha256", ledger.storeInstanceIdSha256.document),
    (name "canonical_state_path_sha256", ledger.canonicalStatePathSha256.document),
    (name "public_origin_digest", ledger.publicOriginDigest.document),
    (name "internal_listener_digest", ledger.internalListenerDigest.document),
    (name "receipt_expires_at", wireNumber ledger.receiptExpiresAt.toNat),
    (name "protected_alpha", wireBool ledger.protectedAlpha),
    (name "policy_profile_digest", ledger.policyProfileDigest.document),
    (name "absolute_deadline", wireNumber ledger.absoluteDeadline.toNat),
    (name "final_io_deadline", wireNumber ledger.finalIoDeadline.toNat),
    (name "cleanup_only", wireBool ledger.cleanupOnly),
    (name "quarantined", wireBool ledger.quarantined),
    (name "identity", wireOption SupervisedIdentity.document ledger.identity)]

def document (ledger : SupervisorLedger Digest) : Document :=
  object (ledger.headMembers
    ++ [(name "transitions", array (ledger.transitions.map LedgerEntry.document))])

def text (ledger : SupervisorLedger Digest) : List UInt8 := render ledger.document

end SupervisorLedger

/-! ## Reading -/

/-- `take(1024 * 1024).read_to_end`. -/
def readLimited (file : List UInt8) : List UInt8 := file.take READ_LIMIT

/-- The parser reads what was written, and refuses a document that breaks off. -/
structure ReadsBack {α : Type} (encode : α → List UInt8) (decode : List UInt8 → Option α)
    (value : α) : Prop where
  whole : decode (encode value) = some value
  broken : ∀ n < (encode value).length, decode ((encode value).take n) = none

theorem readLimited_of_le {file : List UInt8} (h : file.length ≤ READ_LIMIT) :
    readLimited file = file := List.take_of_length_le h

/-- A value is read back through the limit exactly when it is written within the limit. -/
theorem ReadsBack.limited_iff {α : Type} {encode : α → List UInt8} {decode : List UInt8 → Option α}
    {value : α} (h : ReadsBack encode decode value) :
    decode (readLimited (encode value)) = some value ↔ (encode value).length ≤ READ_LIMIT := by
  constructor
  · intro hread
    by_contra hlong
    exact nomatch (h.broken READ_LIMIT (not_le.mp hlong)).symm.trans hread
  · intro hfits
    rw [readLimited_of_le hfits]
    exact h.whole

/-! ## The vault -/

structure VaultDisk where
  /-- In memory. -/
  image : VaultImage
  file : Option (List UInt8)
  /-- Not of the program: the image that the file was last written from. -/
  persisted : Option VaultImage

inductive VaultMutation
  | put (identity : ChildVaultIdentity) (credentials : ChildOAuthCredentials) (nonce : List UInt8)
  | delete (identity : ChildVaultIdentity) (version : UInt64)

namespace VaultDisk

variable (cipher : VaultCipher) (decode : List UInt8 → Option VaultImage)

def created : VaultDisk := ⟨.empty, none, none⟩

/-- What `open` and `read_image_from_disk` make of the bytes of a file. -/
def parseImage (bytes : List UInt8) : Except VaultError VaultImage :=
  match decode bytes with
  | none => .error .invalid
  | some image => if image.schemaVersion ≠ VAULT_SCHEMA then .error .invalid else .ok image

def openImage (s : VaultDisk) : Except VaultError VaultImage :=
  match s.file with
  | none => .ok .empty
  | some bytes => parseImage decode (readLimited bytes)

def readImageFromDisk (s : VaultDisk) : Except VaultError VaultImage :=
  match s.file with
  | none => .error .missing
  | some bytes => parseImage decode (readLimited bytes)

def persist (s : VaultDisk) (next : VaultImage) : VaultDisk :=
  { s with file := some next.text, persisted := some next }

def putIfAbsent (s : VaultDisk) (identity : ChildVaultIdentity)
    (credentials : ChildOAuthCredentials) (nonce : List UInt8) : Except VaultError UInt64 × VaultDisk :=
  match EncryptedChildVault.sealedImage cipher ⟨s.image, none⟩ identity credentials nonce with
  | .error error => (.error error, s)
  | .ok none => (.ok ((s.image.records[identity.lobbyId]?).elim 1 (·.version)), s)
  | .ok (some next) => (.ok 1, { s.persist next with image := next })

def deleteCas (s : VaultDisk) (identity : ChildVaultIdentity) (version : UInt64) :
    Except VaultError Unit × VaultDisk :=
  match EncryptedChildVault.erasedImage ⟨s.image, none⟩ identity version with
  | .error error => (.error error, s)
  | .ok next =>
    match (s.persist next).readImageFromDisk decode with
    | .error error => (.error error, s.persist next)
    | .ok readback =>
      if readback.records.contains identity.lobbyId
          ∨ readback.erasures[identity.lobbyId]? ≠ some ⟨identity, version⟩ then
        (.error .conflict, s.persist next)
      else (.ok (), { s.persist next with image := readback })

def step (s : VaultDisk) : VaultMutation → Bool × VaultDisk
  | .put identity credentials nonce =>
    let stored := s.putIfAbsent cipher identity credentials nonce
    (stored.1.isOk, stored.2)
  | .delete identity version =>
    let erased := s.deleteCas decode identity version
    (erased.1.isOk, erased.2)

/-- The image a reopen should have. -/
def lastImage (s : VaultDisk) : VaultImage := s.persisted.getD .empty

end VaultDisk

/-! ## The ledger -/

structure LedgerDisk where
  ledgerFile : List UInt8
  headFile : List UInt8
  /-- Not of the program: the ledger that the files were last written from. -/
  persisted : Option (SupervisorLedger Digest)

namespace LedgerDisk

open SupervisorLedger

variable (h : EntryHash Digest) (decodeLedger : List UInt8 → Option (SupervisorLedger Digest))
  (decodeHead : List UInt8 → Option (LedgerHead Digest))

/-- The empty files that an installation starts with. -/
def created : LedgerDisk := ⟨[], [], none⟩

/-- A head file that is not empty accepts the new entry; it is read without a limit. -/
def acceptsEntry (s : LedgerDisk) (entry : LedgerEntry Digest) : Bool :=
  s.headFile.isEmpty || (decodeHead s.headFile).any fun current =>
    LedgerWorld.accepts current entry

def persist (s : LedgerDisk) (ledger : SupervisorLedger Digest) :
    Except SupervisionError Unit × LedgerDisk :=
  match ledger.validate h with
  | .error error => (.error error, s)
  | .ok () =>
    match ledger.transitions.getLast? with
    | none => (.error .invalidLedger, s)
    | some entry =>
      if s.acceptsEntry decodeHead entry then
        (.ok (), ⟨ledger.text, LedgerHead.text ⟨entry.sequence, entry.entrySha256⟩, some ledger⟩)
      else (.error .invalidLedger, s)

def load (s : LedgerDisk) : Except SupervisionError (SupervisorLedger Digest) × LedgerDisk :=
  match decodeLedger (readLimited s.ledgerFile) with
  | none => (.error .invalidLedger, s)
  | some ledger =>
    match ledger.validate h with
    | .error error => (.error error, s)
    | .ok () =>
      match decodeHead (readLimited s.headFile) with
      | none => (.error .invalidLedger, s)
      | some head =>
        if ledger.lastHead = some head then (.ok ledger, s)
        else
          match ledger.push h (.quarantined "ledger_rollback_or_incomplete_commit") with
          | .error error => (.error error, s)
          | .ok ledger =>
            match s.persist h decodeHead ledger with
            | (.error error, s) => (.error error, s)
            | (.ok (), s) => (.ok ledger, s)

def step (s : LedgerDisk) (ledger : SupervisorLedger Digest) : Bool × LedgerDisk :=
  let persisted := s.persist h decodeHead ledger
  (persisted.1.isOk, persisted.2)

end LedgerDisk

/-! ## What the vault persists -/

namespace VaultDisk

variable {cipher : VaultCipher} {decode : List UInt8 → Option VaultImage} {s : VaultDisk}

/-- The file has the text of the persisted image, and all images are of this schema. -/
structure Kept (s : VaultDisk) : Prop where
  file : s.file = s.persisted.map VaultImage.text
  memory : s.image.schemaVersion = VAULT_SCHEMA
  disk : ∀ image, s.persisted = some image → image.schemaVersion = VAULT_SCHEMA

theorem kept_created : created.Kept := ⟨rfl, rfl, nofun⟩

theorem Kept.persist (h : s.Kept) {next : VaultImage} (hnext : s.image.Follows next) :
    (s.persist next).Kept :=
  ⟨rfl, h.memory, fun _ himage => Option.some.inj himage ▸ hnext.schema.trans h.memory⟩

theorem schema_of_parseImage {bytes : List UInt8} {image : VaultImage}
    (h : parseImage decode bytes = .ok image) :
    decode bytes = some image ∧ image.schemaVersion = VAULT_SCHEMA := by
  unfold parseImage at h
  cases hdecode : decode bytes with
  | none =>
    rw [hdecode] at h
    exact nomatch h
  | some parsed =>
    rw [hdecode] at h
    dsimp only at h
    split_ifs at h with hschema
    cases h
    exact ⟨rfl, not_not.mp hschema⟩

theorem Kept.step (h : s.Kept) (a : VaultMutation) : (s.step cipher decode a).2.Kept := by
  cases a with
  | put identity credentials nonce =>
    unfold VaultDisk.step putIfAbsent
    dsimp only
    split
    next => exact h
    next => exact h
    next next hsealed =>
      have hfollows : s.image.Follows next := EncryptedChildVault.sealedImage_follows hsealed
      have hkept := h.persist hfollows
      exact ⟨hkept.file, hfollows.schema.trans h.memory, hkept.disk⟩
  | delete identity version =>
    unfold VaultDisk.step deleteCas
    dsimp only
    split
    next => exact h
    next next herased =>
      have hkept := h.persist (EncryptedChildVault.erasedImage_follows herased)
      split
      next => exact hkept
      next readback hread =>
        split_ifs
        · exact hkept
        · exact ⟨hkept.file, (schema_of_parseImage hread).2, hkept.disk⟩

/-- A reopen has the last persisted image exactly when its text is within the limit. -/
theorem Kept.loads_iff (h : s.Kept)
    (hserde : ∀ image, s.persisted = some image → ReadsBack VaultImage.text decode image) :
    s.openImage decode = .ok s.lastImage
      ↔ ∀ image, s.persisted = some image → image.text.length ≤ READ_LIMIT := by
  unfold openImage lastImage
  rw [h.file]
  cases hpersisted : s.persisted with
  | none => exact iff_of_true rfl nofun
  | some image =>
    have hread := hserde image hpersisted
    dsimp only [Option.map_some, Option.getD_some]
    constructor
    · rintro hok _ ⟨⟩
      exact hread.limited_iff.mp (schema_of_parseImage hok).1
    · intro hfits
      unfold parseImage
      rw [hread.limited_iff.mpr (hfits image rfl)]
      exact if_neg (not_not.mpr (h.disk image hpersisted))

end VaultDisk

/-! ## What the ledger persists -/

theorem length_render_literal (bytes : List UInt8) : (render (literal bytes)).length = bytes.length := by
  induction bytes with
  | nil => rfl
  | cons b bytes ih => exact congrArg (· + 1) ih

theorem Digest.length_document_le (digest : Digest) :
    (render (Digest.document digest)).length ≤ 130 := by
  have hitems : ∀ d ∈ digest.toList.map fun byte => wireNumber byte.toNat,
      (render d).length ≤ 3 := by
    intro d hd
    obtain ⟨byte, -, rfl⟩ := List.mem_map.mp hd
    rw [wireNumber, length_render_literal]
    exact Json.length_number_le (by decide) (lt_trans byte.toNat_lt (by decide))
  have hjoined := length_render_joined_le hitems
  rw [List.length_map, Vector.length_toList] at hjoined
  rw [Digest.document, array, List.cons_append, render, render_append, List.length_cons,
    List.length_append]
  exact Nat.add_le_add_right (Nat.add_le_add_right hjoined _) _

namespace LedgerDisk

open SupervisorLedger

variable {h : EntryHash Digest} {decodeLedger : List UInt8 → Option (SupervisorLedger Digest)}
  {decodeHead : List UInt8 → Option (LedgerHead Digest)} {s : LedgerDisk}

theorem length_headText_le {head : LedgerHead Digest} (hsequence : head.sequence < 10 ^ 8) :
    (LedgerHead.text head).length ≤ READ_LIMIT := by
  have hnumber : (render (wireNumber head.sequence)).length ≤ 8 := by
    rw [wireNumber, length_render_literal]
    exact Json.length_number_le (by decide) hsequence
  have hdigest := Digest.length_document_le head.entrySha256
  have hsequenceName : (renderText (name "sequence")).length = 10 := by decide
  have hdigestName : (renderText (name "entry_sha256")).length = 14 := by decide
  have hlimit : READ_LIMIT = 1048576 := rfl
  simp only [LedgerHead.text, LedgerHead.document, object, List.map_cons, List.map_nil, joined,
    member, List.cons_append, render, render_append, List.length_cons, List.length_append,
    List.length_nil]
  omega

/-- Every entry takes at least a byte of the text. -/
theorem length_transitions_le (ledger : SupervisorLedger Digest) :
    ledger.transitions.length ≤ ledger.text.length := by
  have hentries : ∀ d ∈ ledger.transitions.map LedgerEntry.document, 1 ≤ (render d).length := by
    intro d hd
    obtain ⟨entry, -, rfl⟩ := List.mem_map.mp hd
    exact Nat.succ_pos _
  have hjoined := le_length_render_joined hentries
  rw [List.length_map, Nat.mul_one] at hjoined
  have hmember : (name "transitions", array (ledger.transitions.map LedgerEntry.document))
      ∈ ledger.headMembers
        ++ [(name "transitions", array (ledger.transitions.map LedgerEntry.document))] :=
    List.mem_append_right _ (List.mem_singleton_self _)
  have hwhole := length_render_le_object hmember
  rw [array, List.cons_append, render, render_append, List.length_cons, List.length_append]
    at hwhole
  exact hjoined.trans ((Nat.le_add_right _ _).trans ((Nat.le_succ _).trans hwhole))

/-- The files have the texts of the persisted ledger, which is valid, and of its head. -/
structure Kept (h : EntryHash Digest) (s : LedgerDisk) (ledger : SupervisorLedger Digest) :
    Prop where
  valid : ledger.Valid h
  file : s.ledgerFile = ledger.text
  head : ∃ head, ledger.lastHead = some head ∧ s.headFile = LedgerHead.text head

theorem kept_step (hs : ∀ ledger, s.persisted = some ledger → Kept h s ledger)
    (next ledger : SupervisorLedger Digest)
    (hpersisted : (s.step h decodeHead next).2.persisted = some ledger) :
    Kept h (s.step h decodeHead next).2 ledger := by
  unfold step persist at hpersisted ⊢
  dsimp only at hpersisted ⊢
  cases hvalid : next.validate h with
  | error error =>
    rw [hvalid] at hpersisted
    exact hs ledger hpersisted
  | ok _ =>
    rw [hvalid] at hpersisted
    dsimp only at hpersisted ⊢
    cases hlast : next.transitions.getLast? with
    | none =>
      rw [hlast] at hpersisted
      exact hs ledger hpersisted
    | some entry =>
      rw [hlast] at hpersisted
      dsimp only at hpersisted ⊢
      split_ifs at hpersisted ⊢
      · cases hpersisted
        refine ⟨validate_iff.mp hvalid, rfl, _, ?_, rfl⟩
        unfold SupervisorLedger.lastHead
        rw [hlast]
        rfl
      · exact hs ledger hpersisted

/-- A load has the last persisted ledger exactly when its text is within the limit. -/
theorem Kept.loads_iff {ledger : SupervisorLedger Digest} (hs : Kept h s ledger)
    (hserde : ReadsBack SupervisorLedger.text decodeLedger ledger)
    (hhead : ∀ head, ledger.lastHead = some head → ReadsBack LedgerHead.text decodeHead head) :
    (s.load h decodeLedger decodeHead).1 = .ok ledger ↔ ledger.text.length ≤ READ_LIMIT := by
  unfold load
  rw [hs.file]
  constructor
  · intro hok
    by_contra hlong
    rw [readLimited, hserde.broken READ_LIMIT (not_le.mp hlong)] at hok
    exact nomatch hok
  · intro hfits
    obtain ⟨head, hlast, hfile⟩ := hs.head
    have hshort : (LedgerHead.text head).length ≤ READ_LIMIT := by
      have hcount := (length_transitions_le ledger).trans hfits
      have hlimit : READ_LIMIT = 1048576 := rfl
      refine length_headText_le ?_
      rw [hs.valid.lastHead] at hlast
      cases hlast
      exact lt_of_le_of_lt hcount (by decide)
    rw [hserde.limited_iff.mpr hfits]
    dsimp only
    rw [validate_iff.mpr hs.valid]
    dsimp only
    rw [hfile, (hhead head hlast).limited_iff.mpr hshort]
    dsimp only
    rw [if_pos hlast]

end LedgerDisk

/-! ## Every run -/

/-- **What was persisted is loaded exactly when it fits.**  After any mutations of the vault a reopen
has the last persisted image, and after any persists of the ledger a load has the last persisted
ledger, exactly when the text of it is no longer than the read limit. -/
theorem persisted_loads_iff (cipher : VaultCipher) (decodeImage : List UInt8 → Option VaultImage)
    (mutations : List VaultMutation)
    (himage : ∀ image, (Runs.run (VaultDisk.step cipher decodeImage) .created mutations).persisted
      = some image → ReadsBack VaultImage.text decodeImage image)
    (h : EntryHash Digest) (decodeLedger : List UInt8 → Option (SupervisorLedger Digest))
    (decodeHead : List UInt8 → Option (SupervisorLedger.LedgerHead Digest))
    (ledgers : List (SupervisorLedger Digest)) (ledger : SupervisorLedger Digest)
    (hledger : (Runs.run (LedgerDisk.step h decodeHead) .created ledgers).persisted = some ledger)
    (hserde : ReadsBack SupervisorLedger.text decodeLedger ledger)
    (hhead : ∀ head, ledger.lastHead = some head →
      ReadsBack SupervisorLedger.LedgerHead.text decodeHead head) :
    ((Runs.run (VaultDisk.step cipher decodeImage) .created mutations).openImage decodeImage
        = .ok (Runs.run (VaultDisk.step cipher decodeImage) .created mutations).lastImage
      ↔ ∀ image, (Runs.run (VaultDisk.step cipher decodeImage) .created mutations).persisted
        = some image → image.text.length ≤ READ_LIMIT)
    ∧ (((Runs.run (LedgerDisk.step h decodeHead) .created ledgers).load h decodeLedger
        decodeHead).1 = .ok ledger ↔ ledger.text.length ≤ READ_LIMIT) := by
  constructor
  · have hkept : (Runs.run (VaultDisk.step cipher decodeImage) .created mutations).Kept :=
      Runs.run_invariant (P := VaultDisk.Kept) (fun _ a hs => hs.step a) VaultDisk.kept_created
        mutations
    exact hkept.loads_iff himage
  · have hkept : ∀ ledger, (Runs.run (LedgerDisk.step h decodeHead) .created ledgers).persisted
        = some ledger → LedgerDisk.Kept h (Runs.run (LedgerDisk.step h decodeHead) .created ledgers)
          ledger :=
      Runs.run_invariant
        (P := fun s : LedgerDisk => ∀ ledger, s.persisted = some ledger → LedgerDisk.Kept h s ledger)
        (fun _ next hs ledger => LedgerDisk.kept_step hs next ledger)
        (fun ledger (hnone : none = some ledger) => nomatch hnone) ledgers
    exact (hkept ledger hledger).loads_iff hserde hhead

/-! ### One lobby, and a ledger that begins -/

/-- The parser, on one document. -/
def readOnly {α : Type} (encode : α → List UInt8) (value : α) (bytes : List UInt8) : Option α :=
  if bytes = encode value then some value else none

theorem readsBack_readOnly {α : Type} (encode : α → List UInt8) (value : α) :
    ReadsBack encode (readOnly encode value) value where
  whole := if_pos rfl
  broken n hn := by
    refine if_neg fun heq => ?_
    have hlength := congrArg List.length heq
    rw [List.length_take] at hlength
    omega

def oneIdentity : ChildVaultIdentity :=
  ⟨ProtocolId.ofTail 1, 1, "tailnet", ⟨"child.ts.net"⟩⟩

def onePut : List VaultMutation := [.put oneIdentity ⟨"client", "secret"⟩ []]

def oneImage : VaultImage :=
  ⟨VAULT_SCHEMA, (∅ : Std.ExtTreeMap LobbyId EncryptedRecord compare).insert oneIdentity.lobbyId
    ⟨oneIdentity, 1, [], [0, 0, 0, 6] ++ utf8 "client" ++ [0, 0, 0, 6] ++ utf8 "secret"⟩, ∅⟩

def begunLedger : SupervisorLedger Digest := LedgerWorld.begun entryHash

def begunHead : SupervisorLedger.LedgerHead Digest :=
  ⟨1, entryHash.hash (1, entryHash.zero, .reserved)⟩

theorem begunLedger_valid : begunLedger.Valid entryHash := LedgerWorld.begun_valid entryHash

theorem begunLedger_persisted (decodeHead : List UInt8 → Option (SupervisorLedger.LedgerHead Digest)) :
    (Runs.run (LedgerDisk.step entryHash decodeHead) .created [begunLedger]).persisted
      = some begunLedger := by
  rw [Runs.run_cons, Runs.run_nil]
  unfold LedgerDisk.step LedgerDisk.persist
  dsimp only
  rw [SupervisorLedger.validate_iff.mpr begunLedger_valid]
  rfl

theorem onePut_persisted (decode : List UInt8 → Option VaultImage) :
    (Runs.run (VaultDisk.step EncryptedChildVault.openCipher decode) .created onePut).persisted
      = some oneImage := by
  rfl

/-- A put and the first entry of a ledger. -/
theorem persisted_loads_iff_one :
    ((Runs.run (VaultDisk.step EncryptedChildVault.openCipher (readOnly VaultImage.text oneImage))
        .created onePut).openImage (readOnly VaultImage.text oneImage)
        = .ok (Runs.run (VaultDisk.step EncryptedChildVault.openCipher
          (readOnly VaultImage.text oneImage)) .created onePut).lastImage
      ↔ ∀ image, (Runs.run (VaultDisk.step EncryptedChildVault.openCipher
          (readOnly VaultImage.text oneImage)) .created onePut).persisted = some image →
        image.text.length ≤ READ_LIMIT)
    ∧ (((Runs.run (LedgerDisk.step entryHash (readOnly SupervisorLedger.LedgerHead.text begunHead))
        .created [begunLedger]).load entryHash (readOnly SupervisorLedger.text begunLedger)
          (readOnly SupervisorLedger.LedgerHead.text begunHead)).1 = .ok begunLedger
      ↔ begunLedger.text.length ≤ READ_LIMIT) := by
  refine persisted_loads_iff EncryptedChildVault.openCipher (readOnly VaultImage.text oneImage)
    onePut (fun image himage => ?_) entryHash (readOnly SupervisorLedger.text begunLedger)
    (readOnly SupervisorLedger.LedgerHead.text begunHead) [begunLedger] begunLedger
    (begunLedger_persisted _) (readsBack_readOnly _ _) fun head hhead => ?_
  · cases (onePut_persisted _).symm.trans himage
    exact readsBack_readOnly _ _
  · cases (show some begunHead = some head from hhead)
    exact readsBack_readOnly _ _

/-! ### A vault that has outgrown its reader -/

namespace VaultDisk

open EncryptedChildVault (openCipher)

def childCredentials : ChildOAuthCredentials := ⟨"client", "secret"⟩

def childPlaintext : List UInt8 :=
  [0, 0, 0, 6] ++ utf8 "client" ++ [0, 0, 0, 6] ++ utf8 "secret"

theorem encodePlaintext_childCredentials :
    encodePlaintext childCredentials = .ok childPlaintext := by decide +kernel

/-- The identity of one of many lobbies. -/
def childIdentity (n : ℕ) : ChildVaultIdentity :=
  ⟨ProtocolId.ofTail (n % 2 ^ 48) (Nat.blt_eq.mpr (Nat.mod_lt n (by decide))), 1, "tailnet", ⟨"child.ts.net"⟩⟩

def childRecord (n : ℕ) : EncryptedRecord := ⟨childIdentity n, 1, [], childPlaintext⟩

def childPut (n : ℕ) : VaultMutation := .put (childIdentity n) childCredentials []

/-- The records of the lobbies from 1 to `n`. -/
def childRecords : ℕ → Std.ExtTreeMap LobbyId EncryptedRecord compare
  | 0 => ∅
  | n + 1 => (childRecords n).insert (childIdentity (n + 1)).lobbyId (childRecord (n + 1))

theorem childIdentity_ne {m n : ℕ} (hm : m < 2 ^ 48) (hn : n < 2 ^ 48) (hne : m ≠ n) :
    ¬compare (childIdentity m).lobbyId (childIdentity n).lobbyId = .eq := by
  intro heq
  have hvalue := congrArg ProtocolId.value (Std.LawfulEqCmp.eq_of_compare heq)
  simp only [childIdentity, ProtocolId.ofTail, Nat.mod_eq_of_lt hm, Nat.mod_eq_of_lt hn] at hvalue
  omega

theorem childRecords_getElem? {m n : ℕ} (hmn : m < n) (hn : n < 2 ^ 48) :
    (childRecords m)[(childIdentity n).lobbyId]? = none := by
  induction m with
  | zero => rfl
  | succ m ih =>
    refine Std.ExtTreeMap.getElem?_insert.trans ?_
    rw [if_neg (childIdentity_ne (by omega) hn (by omega))]
    exact ih (by omega)

theorem size_childRecords {n : ℕ} (hn : n < 2 ^ 48) : (childRecords n).size = n := by
  induction n with
  | zero => rfl
  | succ n ih =>
    have hfresh : ¬(childRecords n).contains (childIdentity (n + 1)).lobbyId = true := by
      rw [Std.ExtTreeMap.contains_iff_mem, Std.ExtTreeMap.mem_iff_isSome_getElem?,
        childRecords_getElem? (Nat.lt_succ_self n) hn]
      exact nofun
    rw [childRecords, Std.ExtTreeMap.size_insert, if_neg hfresh, ih (by omega)]

theorem step_childPut (decode : List UInt8 → Option VaultImage) (s : VaultDisk) {n : ℕ}
    (hrecord : s.image.records[(childIdentity n).lobbyId]? = none)
    (herasure : s.image.erasures[(childIdentity n).lobbyId]? = none) :
    s.step openCipher decode (childPut n) = (true,
      let next := { s.image with
        records := s.image.records.insert (childIdentity n).lobbyId (childRecord n) }
      { s.persist next with image := next }) := by
  have hsealed : EncryptedChildVault.sealedImage openCipher ⟨s.image, none⟩ (childIdentity n)
      childCredentials [] = .ok (some { s.image with
        records := s.image.records.insert (childIdentity n).lobbyId (childRecord n) }) := by
    unfold EncryptedChildVault.sealedImage
    rw [encodePlaintext_childCredentials]
    dsimp only
    rw [hrecord]
    dsimp only
    rw [if_neg]
    · rfl
    · rw [Std.ExtTreeMap.contains_iff_mem, Std.ExtTreeMap.mem_iff_isSome_getElem?, herasure]
      exact nofun
  unfold step childPut putIfAbsent
  dsimp only
  rw [hsealed]
  rfl

/-- Puts of the lobbies from 1 to `n`. -/
def childPuts (n : ℕ) : List VaultMutation := (List.range n).map fun k => childPut (k + 1)

theorem childPuts_succ (n : ℕ) : childPuts (n + 1) = childPuts n ++ [childPut (n + 1)] := by
  rw [childPuts, List.range_succ, List.map_append]
  rfl

/-- Puts of new lobbies succeed, whatever has been erased of others. -/
theorem puts_succeed (decode : List UInt8 → Option VaultImage) (n : ℕ) (hn : n < 2 ^ 48)
    {s : VaultDisk} (hrecords : s.image.records = ∅)
    (herasures : ∀ k, 0 < k → k ≤ n → s.image.erasures[(childIdentity k).lobbyId]? = none) :
    Runs.Along (step openCipher decode) (fun s a => (s.step openCipher decode a).1 = true) s
        (childPuts n)
      ∧ (Runs.run (step openCipher decode) s (childPuts n)).image
        = { s.image with records := childRecords n }
      ∧ (0 < n → (Runs.run (step openCipher decode) s (childPuts n)).persisted
        = some { s.image with records := childRecords n }) := by
  induction n with
  | zero =>
    refine ⟨trivial, ?_, fun h => absurd h (lt_irrefl 0)⟩
    rw [childRecords, ← hrecords]
    rfl
  | succ n ih =>
    obtain ⟨halong, himage, -⟩ := ih (by omega) fun k hpos hk => herasures k hpos (by omega)
    rw [childPuts_succ, Runs.Along.append, Runs.run_append]
    generalize Runs.run (step openCipher decode) s (childPuts n) = t
      at himage ⊢
    have hstep := step_childPut decode t (n := n + 1)
      (by rw [himage]; exact childRecords_getElem? (Nat.lt_succ_self n) hn)
      (by rw [himage]; exact herasures (n + 1) (Nat.succ_pos n) le_rfl)
    rw [himage] at hstep
    rw [Runs.run_cons, Runs.run_nil, hstep]
    exact ⟨⟨halong, congrArg Prod.fst hstep, trivial⟩, rfl, fun _ => rfl⟩

/-- The text up to the end of the records. -/
def upToRecords (image : VaultImage) : List UInt8 :=
  render (.mark 123 :: (member (name "schema_version", wireNumber image.schemaVersion.toNat)
    ++ .mark 44 :: member (name "records", VaultImage.mapDocument VaultImage.recordDocument
      image.records)))

def afterRecords (image : VaultImage) : List UInt8 :=
  render (.mark 44 :: member (name "erasures", VaultImage.mapDocument VaultImage.receiptDocument
    image.erasures) ++ [.mark 125])

theorem text_eq (image : VaultImage) : image.text = upToRecords image ++ afterRecords image := by
  unfold VaultImage.text VaultImage.document upToRecords afterRecords
  rw [← render_append, object]
  simp only [List.map_cons, List.map_nil, joined, List.cons_append, List.append_assoc]

theorem le_length_recordDocument (record : EncryptedRecord) :
    64 ≤ (render (VaultImage.recordDocument record)).length := by
  have hidentity : (renderText (name "identity")).length = 10 := by decide
  have hgeneration : (renderText (name "network_generation")).length = 20 := by decide
  have hprovider : (renderText (name "provider_tailnet_id")).length = 21 := by decide
  have htailnet : (renderText (name "tailnet_dns_name")).length = 18 := by decide
  simp only [VaultImage.recordDocument, VaultImage.identityDocument, object, List.map_cons,
    List.map_nil, joined, member, List.cons_append, render, render_append, List.length_cons,
    List.length_append, List.length_nil]
  omega

theorem le_length_upToRecords {n : ℕ} (hn : n < 2 ^ 48) {image : VaultImage}
    (hrecords : image.records = childRecords n) : n * 64 ≤ (upToRecords image).length := by
  have hmembers : ∀ d ∈ ((childRecords n).toList.map fun entry =>
      (entry.1.wireName, VaultImage.recordDocument entry.2)).map member, 64 ≤ (render d).length := by
    intro d hd
    rw [List.map_map] at hd
    obtain ⟨entry, -, rfl⟩ := List.mem_map.mp hd
    have hrecord := le_length_recordDocument entry.2
    rw [Function.comp_apply, member, render, render, List.length_append, List.length_cons]
    exact hrecord.trans ((Nat.le_succ _).trans (Nat.le_add_left _ _))
  have hjoined := le_length_render_joined hmembers
  rw [List.length_map, List.length_map, Std.ExtTreeMap.length_toList, size_childRecords hn]
    at hjoined
  unfold upToRecords
  rw [hrecords]
  simp only [VaultImage.mapDocument, object, member, List.cons_append, render, render_append,
    List.length_cons, List.length_append] at hjoined ⊢
  omega

/-- A lobby that is put and erased before the others. -/
def erasedImage : VaultImage :=
  ⟨VAULT_SCHEMA, ∅, (∅ : Std.ExtTreeMap LobbyId ErasureReceipt compare).insert
    (childIdentity 0).lobbyId ⟨childIdentity 0, 1⟩⟩

def eraseFirst : List VaultMutation :=
  [childPut 0, .delete (childIdentity 0) 1]

theorem eraseFirst_succeeds {decode : List UInt8 → Option VaultImage}
    (hdecode : ∀ image : VaultImage, decode image.text = some image) :
    Runs.Along (step openCipher decode) (fun s a => (s.step openCipher decode a).1 = true) created
        eraseFirst
      ∧ (Runs.run (step openCipher decode) created eraseFirst).image = erasedImage := by
  have hput := step_childPut decode created (n := 0) rfl rfl
  have herased : EncryptedChildVault.erasedImage ⟨⟨VAULT_SCHEMA,
      (∅ : Std.ExtTreeMap LobbyId EncryptedRecord compare).insert (childIdentity 0).lobbyId
        (childRecord 0), ∅⟩, none⟩ (childIdentity 0) 1 = .ok erasedImage := by
    unfold EncryptedChildVault.erasedImage
    dsimp only
    rw [Std.ExtTreeMap.getElem?_insert_self]
    dsimp only
    rw [if_neg (by rintro (h | h) <;> exact h rfl)]
    have hgone : ((∅ : Std.ExtTreeMap LobbyId EncryptedRecord compare).insert
        (childIdentity 0).lobbyId (childRecord 0)).erase
          (childIdentity 0).lobbyId = ∅ := by
      refine Std.ExtTreeMap.ext_getElem? fun k => ?_
      rw [Std.ExtTreeMap.getElem?_erase, Std.ExtTreeMap.getElem?_insert]
      split_ifs
      · rfl
      · rfl
    rw [hgone]
    rfl
  have hshort : erasedImage.text.length ≤ READ_LIMIT := by decide +kernel
  obtain ⟨hnone, hreceipt⟩ := EncryptedChildVault.readback_of_erased herased
  have hdelete : ∀ s : VaultDisk, s.image = ⟨VAULT_SCHEMA,
      (∅ : Std.ExtTreeMap LobbyId EncryptedRecord compare).insert (childIdentity 0).lobbyId
        (childRecord 0), ∅⟩ →
      s.step openCipher decode (.delete (childIdentity 0) 1)
        = (true, { s.persist erasedImage with image := erasedImage }) := by
    intro s himage
    have hread : (s.persist erasedImage).readImageFromDisk decode = .ok erasedImage := by
      unfold readImageFromDisk persist parseImage
      dsimp only
      rw [readLimited_of_le hshort, hdecode]
      rfl
    unfold step deleteCas
    dsimp only
    rw [himage, herased]
    dsimp only
    rw [hread]
    dsimp only
    rw [if_neg]
    · rfl
    · rintro (h | h)
      · exact Bool.eq_false_iff.mp hnone h
      · exact h hreceipt
  have hsecond := hdelete _ (congrArg (·.2.image) hput)
  refine ⟨⟨congrArg Prod.fst hput, congrArg Prod.fst hsecond, trivial⟩, ?_⟩
  exact congrArg (·.2.image) hsecond

theorem readLimited_text {n : ℕ} (hn : n < 2 ^ 48) (hlong : READ_LIMIT ≤ n * 64) {image : VaultImage}
    (hrecords : image.records = childRecords n) :
    readLimited image.text = (upToRecords image).take READ_LIMIT := by
  rw [text_eq, readLimited,
    List.take_append_of_le_length (hlong.trans (le_length_upToRecords hn hrecords))]

/-- **Many lobbies in the vault.**  No parser loads everything that successful puts and erases
persist, not even one that reads back all that is written. -/
theorem vault_outgrows_its_reader : ¬∃ decode : List UInt8 → Option VaultImage,
    (∀ image : VaultImage, decode image.text = some image)
      ∧ ∀ mutations, Runs.Along (step openCipher decode)
          (fun s a => (s.step openCipher decode a).1 = true) created mutations →
        (Runs.run (step openCipher decode) created mutations).openImage decode
          = .ok (Runs.run (step openCipher decode) created mutations).lastImage := by
  rintro ⟨decode, hdecode, hloads⟩
  have hkept : ∀ mutations, (Runs.run (step openCipher decode) created mutations).Kept :=
    Runs.run_invariant (P := Kept) (fun _ a hs => hs.step a) kept_created
  obtain ⟨n, hn, hlong⟩ : ∃ n, n < 2 ^ 48 ∧ READ_LIMIT ≤ n * 64 := ⟨2 ^ 14, by decide, by decide⟩
  have hpos : 0 < n := by
    by_contra hzero
    rw [Nat.eq_zero_of_not_pos hzero] at hlong
    exact absurd hlong (by decide)
  -- the same records are put after the start, and after a lobby that has been erased
  obtain ⟨halong, -, hpersisted⟩ := puts_succeed decode n hn (s := created) rfl fun _ _ _ => rfl
  obtain ⟨hfirst, hfirstImage⟩ := eraseFirst_succeeds hdecode
  obtain ⟨halong', -, hpersisted'⟩ := puts_succeed decode n hn
    (s := Runs.run (step openCipher decode) created eraseFirst) (congrArg (·.records) hfirstImage)
    fun k hk hkn => by
      rw [hfirstImage]
      refine Std.ExtTreeMap.getElem?_insert.trans ?_
      rw [if_neg (childIdentity_ne (by decide) (lt_of_le_of_lt hkn hn) hk.ne)]
      rfl
  have hopen := hloads _ halong
  have hopen' := hloads _ (Runs.Along.append.mpr ⟨hfirst, halong'⟩)
  have hfile := (hkept (childPuts n)).file
  have hfile' := (hkept (eraseFirst ++ childPuts n)).file
  rw [Runs.run_append] at hopen' hfile'
  unfold openImage lastImage at hopen hopen'
  rw [hfile, hpersisted hpos] at hopen
  rw [hfile', hpersisted' hpos, hfirstImage] at hopen'
  dsimp only [Option.map_some, Option.getD_some] at hopen hopen'
  rw [readLimited_text hn hlong rfl] at hopen hopen'
  -- the reader has seen the same bytes of both
  have hsame := Except.ok.inj (hopen.symm.trans hopen')
  have hreceipt := congrArg (fun image : VaultImage =>
    image.erasures[(childIdentity 0).lobbyId]?) hsame
  exact nomatch hreceipt.trans Std.ExtTreeMap.getElem?_insert_self

end VaultDisk

end Spurfire
