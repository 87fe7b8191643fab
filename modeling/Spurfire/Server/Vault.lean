import Spurfire.Lib.AtomicFile
import Spurfire.Lib.Runs
import Spurfire.Server.Provider
import Spurfire.Server.Responses

/-!
# The vault of child credentials

The encrypted custody of child OAuth credentials (`vault.rs`), one image in memory and one on disk:

* `VaultImage` holds the sealed records and the receipts of erased ones, and `VaultImage.text` is the
  document that `serde_json` writes of it;
* `putIfAbsent`, `getExact`, `deleteCas`, `verifyErased` and `openImage` are the operations, each with
  the point where the file system may report an error; what is read of a file is a mebibyte at most;
* `VaultHost` is a process that may be closed and opened again;
* `erasure_permanent_iff`: memory, disk and receipts agree for good exactly when no error is
  reported after an image has been renamed into place, and no such image is too long to be read.

The cipher is outside this repository, and the image is its own JSON.
-/

namespace Spurfire

open Wire (beBytes)
open JsonScan

def VAULT_SCHEMA : UInt32 := 1

structure ChildOAuthCredentials where
  clientId : String
  clientSecret : String
deriving DecidableEq

structure ChildVaultIdentity where
  lobbyId : LobbyId
  networkGeneration : UInt64
  providerTailnetId : String
  tailnetDnsName : TailnetDnsName
deriving DecidableEq

structure EncryptedRecord where
  identity : ChildVaultIdentity
  version : UInt64
  nonce : List UInt8
  ciphertext : List UInt8
deriving DecidableEq

structure ErasureReceipt where
  identity : ChildVaultIdentity
  version : UInt64
deriving DecidableEq

structure VaultImage where
  schemaVersion : UInt32
  records : Std.ExtTreeMap LobbyId EncryptedRecord compare
  erasures : Std.ExtTreeMap LobbyId ErasureReceipt compare

namespace VaultImage

def empty : VaultImage := ⟨VAULT_SCHEMA, ∅, ∅⟩

def identityDocument (identity : ChildVaultIdentity) : Document :=
  object [(name "lobby_id", textItem identity.lobbyId.wireName),
    (name "network_generation", wireNumber identity.networkGeneration.toNat),
    (name "provider_tailnet_id", wireText identity.providerTailnetId),
    (name "tailnet_dns_name", wireText identity.tailnetDnsName.asStr)]

def recordDocument (record : EncryptedRecord) : Document :=
  object [(name "identity", identityDocument record.identity),
    (name "version", wireNumber record.version.toNat),
    (name "nonce", textItem (base64Url record.nonce)),
    (name "ciphertext", textItem (base64Url record.ciphertext))]

def receiptDocument (receipt : ErasureReceipt) : Document :=
  object [(name "identity", identityDocument receipt.identity),
    (name "version", wireNumber receipt.version.toNat)]

/-- A map by lobby, in the order of its keys. -/
def mapDocument {α : Type} (f : α → Document) (m : Std.ExtTreeMap LobbyId α compare) : Document :=
  object (m.toList.map fun entry => (entry.1.wireName, f entry.2))

def document (image : VaultImage) : Document :=
  object [(name "schema_version", wireNumber image.schemaVersion.toNat),
    (name "records", mapDocument recordDocument image.records),
    (name "erasures", mapDocument receiptDocument image.erasures)]

/-- `serde_json::to_vec`. -/
def text (image : VaultImage) : List UInt8 := render image.document

end VaultImage

def READ_LIMIT : ℕ := 1024 * 1024

inductive VaultError
  | io
  | invalid
  | conflict
  | missing
  | crypto
deriving DecidableEq

/-- The image of a file, of which `take(1024 * 1024)` reads the beginning: a document that breaks off
does not parse. -/
def VaultImage.parsed (image : VaultImage) : Except VaultError VaultImage :=
  if READ_LIMIT < image.text.length ∨ image.schemaVersion ≠ VAULT_SCHEMA then .error .invalid
  else .ok image

/-- The authenticated cipher under the vault key; the associated data are the identity and the
version. -/
structure VaultCipher where
  encrypt : List UInt8 → List UInt8 → ChildVaultIdentity × UInt64 → Option (List UInt8)
  decrypt : List UInt8 → List UInt8 → ChildVaultIdentity × UInt64 → Option (List UInt8)

/-! ## Plaintexts -/

def utf8 (s : String) : List UInt8 := s.toUTF8.data.toList

def encodePlaintext (credentials : ChildOAuthCredentials) : Except VaultError (List UInt8) :=
  let id := utf8 credentials.clientId
  let secret := utf8 credentials.clientSecret
  if 2 ^ 32 ≤ id.length ∨ 2 ^ 32 ≤ secret.length then .error .invalid
  else .ok (beBytes 4 id.length ++ id ++ beBytes 4 secret.length ++ secret)

/-- A big-endian number. -/
def ofBeBytes (bytes : List UInt8) : ℕ := bytes.foldl (fun n byte => n * 256 + byte.toNat) 0

def decodePlaintext (bytes : List UInt8) : Except VaultError ChildOAuthCredentials :=
  if bytes.length < 8 then .error .invalid
  else
    let idLen := ofBeBytes (bytes.take 4)
    if bytes.length < 4 + idLen + 4 then .error .invalid
    else
      let secretLen := ofBeBytes ((bytes.drop (4 + idLen)).take 4)
      if 4 + idLen + 4 + secretLen ≠ bytes.length then .error .invalid
      else
        match String.fromUTF8? ⟨((bytes.drop 4).take idLen).toArray⟩,
            String.fromUTF8? ⟨(bytes.drop (4 + idLen + 4)).toArray⟩ with
        | some id, some secret => .ok ⟨id, secret⟩
        | _, _ => .error .invalid

theorem ofBeBytes_append_singleton (bytes : List UInt8) (byte : UInt8) :
    ofBeBytes (bytes ++ [byte]) = ofBeBytes bytes * 256 + byte.toNat := by
  simp [ofBeBytes]

theorem ofBeBytes_beBytes {count n : ℕ} (h : n < 256 ^ count) :
    ofBeBytes (beBytes count n) = n := by
  induction count generalizing n with
  | zero =>
    have hzero : n = 0 := by simpa using h
    subst hzero
    rfl
  | succ count ih =>
    have hrest : n / 256 < 256 ^ count := Nat.div_lt_of_lt_mul (by rwa [pow_succ'] at h)
    have hbyte : (UInt8.ofNat (n % 256)).toNat = n % 256 := by simp
    unfold beBytes
    rw [ofBeBytes_append_singleton, ih hrest, hbyte]
    omega

theorem fromUTF8?_utf8 (s : String) : String.fromUTF8? ⟨(utf8 s).toArray⟩ = some s := by
  have hbytes : (⟨(utf8 s).toArray⟩ : ByteArray) = s.toUTF8 := by
    simp [utf8]
  rw [hbytes]
  unfold String.fromUTF8?
  rw [dif_pos]
  rfl

theorem decodePlaintext_of_encode {credentials : ChildOAuthCredentials} {plaintext : List UInt8}
    (h : encodePlaintext credentials = .ok plaintext) :
    decodePlaintext plaintext = .ok credentials := by
  obtain ⟨id, secret⟩ := credentials
  unfold encodePlaintext at h
  dsimp only at h
  split_ifs at h with hlong
  rw [not_or, not_le, not_le] at hlong
  cases h
  have hid : ofBeBytes (beBytes 4 (utf8 id).length) = (utf8 id).length :=
    ofBeBytes_beBytes (lt_of_lt_of_eq hlong.1 (by decide))
  have hsecret : ofBeBytes (beBytes 4 (utf8 secret).length) = (utf8 secret).length :=
    ofBeBytes_beBytes (lt_of_lt_of_eq hlong.2 (by decide))
  have hlength : ∀ n, (beBytes 4 n).length = 4 := fun n => Wire.length_beBytes 4 n
  have htake : (beBytes 4 (utf8 id).length ++ utf8 id ++ beBytes 4 (utf8 secret).length
      ++ utf8 secret).take 4 = beBytes 4 (utf8 id).length := by
    simp only [List.append_assoc]
    exact List.take_left' (hlength _)
  have hdrop : (beBytes 4 (utf8 id).length ++ utf8 id ++ beBytes 4 (utf8 secret).length
      ++ utf8 secret).drop 4 = utf8 id ++ (beBytes 4 (utf8 secret).length ++ utf8 secret) := by
    simp only [List.append_assoc]
    exact List.drop_left' (hlength _)
  have hskip : (beBytes 4 (utf8 id).length ++ utf8 id ++ beBytes 4 (utf8 secret).length
      ++ utf8 secret).drop (4 + (utf8 id).length)
      = beBytes 4 (utf8 secret).length ++ utf8 secret := by
    rw [← List.drop_drop, hdrop]
    exact List.drop_left' rfl
  unfold decodePlaintext
  simp only [htake, hdrop, hskip, hid]
  rw [if_neg (by simp; omega), if_neg (by simp; omega), List.take_left' (hlength _), hsecret,
    if_neg (by simp; omega), List.take_left' rfl, ← List.drop_drop, hskip,
    List.drop_left' (hlength _), fromUTF8?_utf8, fromUTF8?_utf8]

/-! ## Operations -/

structure EncryptedChildVault where
  /-- In memory. -/
  image : VaultImage
  /-- On disk, when there is one. -/
  file : Option VaultImage

namespace EncryptedChildVault

variable (cipher : VaultCipher) (vault : EncryptedChildVault)

/-- What the file was written from. -/
def onDisk : VaultImage := vault.file.getD .empty

/-- The image of `open`; `readable` is whether the file system lets it. -/
def openImage (readable : Bool) : Except VaultError VaultImage :=
  if readable = false then .error .io
  else
    match vault.file with
    | none => .ok .empty
    | some image => image.parsed

def fresh : EncryptedChildVault := ⟨.empty, none⟩

def persist (next : VaultImage) : ReplaceAnswer → Except VaultError Unit × EncryptedChildVault
  | .installed => (.ok (), { vault with file := some next })
  | .failed => (.error .io, vault)
  | .failedInstalled => (.error .io, { vault with file := some next })

/-- The image with the sealed credentials; `none` is a record that is there already. -/
def sealedImage (identity : ChildVaultIdentity) (credentials : ChildOAuthCredentials)
    (nonce : List UInt8) : Except VaultError (Option VaultImage) :=
  match encodePlaintext credentials with
  | .error error => .error error
  | .ok plaintext =>
    match vault.image.records[identity.lobbyId]? with
    | some existing => if existing.identity = identity then .ok none else .error .conflict
    | none =>
      if vault.image.erasures.contains identity.lobbyId then .error .conflict
      else
        match cipher.encrypt nonce plaintext (identity, 1) with
        | none => .error .crypto
        | some ciphertext =>
          .ok (some { vault.image with
            records := vault.image.records.insert identity.lobbyId
              ⟨identity, 1, nonce, ciphertext⟩ })

def putIfAbsent (identity : ChildVaultIdentity) (credentials : ChildOAuthCredentials)
    (nonce : List UInt8) (answer : ReplaceAnswer) : Except VaultError UInt64 × EncryptedChildVault :=
  match vault.sealedImage cipher identity credentials nonce with
  | .error error => (.error error, vault)
  | .ok none => (.ok ((vault.image.records[identity.lobbyId]?).elim 1 (·.version)), vault)
  | .ok (some next) =>
    match vault.persist next answer with
    | (.error error, vault) => (.error error, vault)
    | (.ok (), vault) => (.ok 1, { vault with image := next })

def getExact (identity : ChildVaultIdentity) :
    Except VaultError (ChildOAuthCredentials × UInt64) :=
  match vault.image.records[identity.lobbyId]? with
  | none => .error .missing
  | some record =>
    if record.identity ≠ identity then .error .conflict
    else
      match cipher.decrypt record.nonce record.ciphertext (identity, record.version) with
      | none => .error .crypto
      | some plaintext =>
        match decodePlaintext plaintext with
        | .error error => .error error
        | .ok credentials => .ok (credentials, record.version)

/-- `read_image_from_disk`; `readable` is whether the file system lets it. -/
def readImageFromDisk (readable : Bool) : Except VaultError VaultImage :=
  if readable = false then .error .io
  else
    match vault.file with
    | none => .error .missing
    | some image => image.parsed

def erasedImage (identity : ChildVaultIdentity) (version : UInt64) :
    Except VaultError VaultImage :=
  match vault.image.records[identity.lobbyId]? with
  | none => .error .missing
  | some record =>
    if record.identity ≠ identity ∨ record.version ≠ version then .error .conflict
    else .ok { vault.image with
      records := vault.image.records.erase identity.lobbyId
      erasures := vault.image.erasures.insert identity.lobbyId ⟨identity, version⟩ }

def deleteCas (identity : ChildVaultIdentity) (version : UInt64) (answer : ReplaceAnswer)
    (readable : Bool) : Except VaultError Unit × EncryptedChildVault :=
  match vault.erasedImage identity version with
  | .error error => (.error error, vault)
  | .ok next =>
    match vault.persist next answer with
    | (.error error, vault) => (.error error, vault)
    | (.ok (), vault) =>
      match vault.readImageFromDisk readable with
      | .error error => (.error error, vault)
      | .ok readback =>
        if readback.records.contains identity.lobbyId
            ∨ readback.erasures[identity.lobbyId]? ≠ some ⟨identity, version⟩ then
          (.error .conflict, vault)
        else (.ok (), { vault with image := readback })

/-- The erase of an earlier call is confirmed from the disk. -/
def verifyErased (identity : ChildVaultIdentity) (readable : Bool) :
    Except VaultError UInt64 × EncryptedChildVault :=
  match vault.readImageFromDisk readable with
  | .error error => (.error error, vault)
  | .ok readback =>
    if readback.records.contains identity.lobbyId then (.error .conflict, vault)
    else
      match (readback.erasures[identity.lobbyId]?).filter (·.identity = identity) with
      | none => (.error .missing, vault)
      | some receipt => (.ok receipt.version, { vault with image := readback })

end EncryptedChildVault

/-! ## Steps -/

inductive VaultStep
  | put (identity : ChildVaultIdentity) (credentials : ChildOAuthCredentials) (nonce : List UInt8)
      (answer : ReplaceAnswer)
  | get (identity : ChildVaultIdentity)
  | delete (identity : ChildVaultIdentity) (version : UInt64) (answer : ReplaceAnswer)
      (readable : Bool)
  | verifyErased (identity : ChildVaultIdentity) (readable : Bool)
  /-- The process ends, and the vault is opened again. -/
  | reopen (readable : Bool)

inductive VaultAnswer
  | put (result : Except VaultError UInt64)
  | got (result : Except VaultError (ChildOAuthCredentials × UInt64))
  | deleted (result : Except VaultError Unit)
  | verified (result : Except VaultError UInt64)
  | opened (result : Except VaultError Unit)
  /-- There is no process to answer. -/
  | closed

/-- A vault, and whether a process has it open. -/
structure VaultHost where
  vault : EncryptedChildVault
  running : Bool

namespace VaultHost

variable (cipher : VaultCipher) (host : VaultHost)

/-- The first open, without a file. -/
def fresh : VaultHost := ⟨.fresh, true⟩

/-- A call is made while a process runs. -/
def call (run : EncryptedChildVault → VaultAnswer × EncryptedChildVault) :
    VaultAnswer × VaultHost :=
  if host.running then ((run host.vault).1, { host with vault := (run host.vault).2 })
  else (.closed, host)

def step (host : VaultHost) : VaultStep → VaultAnswer × VaultHost
  | .put identity credentials nonce answer =>
    host.call fun vault => (vault.putIfAbsent cipher identity credentials nonce answer).map .put id
  | .get identity => host.call fun vault => (.got (vault.getExact cipher identity), vault)
  | .delete identity version answer readable =>
    host.call fun vault => (vault.deleteCas identity version answer readable).map .deleted id
  | .verifyErased identity readable =>
    host.call fun vault => (vault.verifyErased identity readable).map .verified id
  | .reopen readable =>
    match host.vault.openImage readable with
    | .error error => (.opened (.error error), { host with running := false })
    | .ok image => (.opened (.ok ()), ⟨{ host.vault with image := image }, true⟩)

/-- The image that the step gets as far as writing. -/
def replacement (host : VaultHost) : VaultStep → Option VaultImage
  | .put identity credentials nonce _ =>
    if host.running then
      ((host.vault.sealedImage cipher identity credentials nonce).toOption).join
    else none
  | .delete identity version _ _ =>
    if host.running then (host.vault.erasedImage identity version).toOption else none
  | _ => none

/-- No error is reported once the image has been renamed into place. -/
def reports : VaultStep → Bool
  | .put _ _ _ answer => answer ≠ .failedInstalled
  | .delete _ _ answer readable => answer = .failed || (answer = .installed && readable)
  | _ => true

/-- The image is renamed into place. -/
def installs : VaultStep → Bool
  | .put _ _ _ answer | .delete _ _ answer _ => answer.takesEffect
  | _ => false

/-- Where the step replaces the file, its report is true, and the new file can be read. -/
def Confirmed (host : VaultHost) (a : VaultStep) : Prop :=
  ∀ next, host.replacement cipher a = some next →
    reports a = true ∧ (installs a = true → next.text.length ≤ READ_LIMIT)

end VaultHost

/-! ## Images -/

namespace VaultImage

variable {image next : VaultImage}

def Disjoint (image : VaultImage) : Prop :=
  ∀ (lobby : LobbyId) (receipt : ErasureReceipt), image.erasures[lobby]? = some receipt →
    image.records[lobby]? = none

/-- The images that a mutation may write over `image`. -/
inductive Follows (image : VaultImage) : VaultImage → Prop
  | sealed (lobby : LobbyId) (record : EncryptedRecord) (hrecord : image.records[lobby]? = none)
      (herasure : image.erasures[lobby]? = none) :
      Follows image { image with records := image.records.insert lobby record }
  | erased (lobby : LobbyId) (record : EncryptedRecord) (receipt : ErasureReceipt)
      (hrecord : image.records[lobby]? = some record) :
      Follows image { image with
        records := image.records.erase lobby
        erasures := image.erasures.insert lobby receipt }

theorem Follows.ne (h : Follows image next) : image ≠ next := by
  intro heq
  cases h with
  | sealed lobby record hrecord herasure =>
    have hsame := congrArg (fun i : VaultImage => i.records[lobby]?) heq
    rw [hrecord] at hsame
    exact nomatch hsame.trans Std.ExtTreeMap.getElem?_insert_self
  | erased lobby record receipt hrecord =>
    have hsame := congrArg (fun i : VaultImage => i.records[lobby]?) heq
    rw [hrecord] at hsame
    exact nomatch hsame.trans Std.ExtTreeMap.getElem?_erase_self

theorem Follows.schema (h : Follows image next) : next.schemaVersion = image.schemaVersion := by
  cases h with
  | sealed => rfl
  | erased => rfl

/-- Receipts stay as they are. -/
theorem Follows.erasures (h : Follows image next) (hdisjoint : image.Disjoint) {lobby : LobbyId}
    {receipt : ErasureReceipt} (hreceipt : image.erasures[lobby]? = some receipt) :
    next.erasures[lobby]? = some receipt := by
  cases h with
  | sealed => exact hreceipt
  | erased other record receipt' hrecord =>
    have hother : ¬compare other lobby = .eq := by
      intro heq
      rw [Std.LawfulEqCmp.eq_of_compare heq, hdisjoint lobby receipt hreceipt] at hrecord
      exact nomatch hrecord
    exact Std.ExtTreeMap.getElem?_insert.trans ((if_neg hother).trans hreceipt)

theorem Follows.disjoint (h : Follows image next) (hdisjoint : image.Disjoint) :
    next.Disjoint := by
  intro lobby receipt hreceipt
  cases h with
  | sealed other record hrecord herasure =>
    have hother : ¬compare other lobby = .eq := by
      intro heq
      cases Std.LawfulEqCmp.eq_of_compare heq
      exact nomatch herasure.symm.trans hreceipt
    exact Std.ExtTreeMap.getElem?_insert.trans
      ((if_neg hother).trans (hdisjoint lobby receipt hreceipt))
  | erased other record receipt' hrecord =>
    refine Std.ExtTreeMap.getElem?_erase.trans ?_
    by_cases hother : compare other lobby = .eq
    · exact if_pos hother
    · rw [if_neg hother]
      have hkept := Std.ExtTreeMap.getElem?_insert.symm.trans hreceipt
      rw [if_neg hother] at hkept
      exact hdisjoint lobby receipt hkept

end VaultImage

/-! ## Runs -/

namespace EncryptedChildVault

variable {cipher : VaultCipher} {vault : EncryptedChildVault}

theorem sealedImage_follows {identity : ChildVaultIdentity} {credentials : ChildOAuthCredentials}
    {nonce : List UInt8} {next : VaultImage}
    (h : vault.sealedImage cipher identity credentials nonce = .ok (some next)) :
    vault.image.Follows next := by
  unfold sealedImage at h
  cases hplain : encodePlaintext credentials with
  | error error =>
    rw [hplain] at h
    exact nomatch h
  | ok plaintext =>
    rw [hplain] at h
    dsimp only at h
    cases hrecord : vault.image.records[identity.lobbyId]? with
    | some existing =>
      rw [hrecord] at h
      dsimp only at h
      split_ifs at h
      exact nomatch h
    | none =>
      rw [hrecord] at h
      dsimp only at h
      split_ifs at h with herasure
      cases hsealed : cipher.encrypt nonce plaintext (identity, 1) with
      | none =>
        rw [hsealed] at h
        exact nomatch h
      | some ciphertext =>
        rw [hsealed] at h
        cases h
        refine .sealed _ _ hrecord ?_
        rwa [Std.ExtTreeMap.contains_iff_mem, Std.ExtTreeMap.mem_iff_isSome_getElem?,
          Option.not_isSome_iff_eq_none] at herasure

theorem erasedImage_follows {identity : ChildVaultIdentity} {version : UInt64} {next : VaultImage}
    (h : vault.erasedImage identity version = .ok next) : vault.image.Follows next := by
  unfold erasedImage at h
  cases hrecord : vault.image.records[identity.lobbyId]? with
  | none =>
    rw [hrecord] at h
    exact nomatch h
  | some record =>
    rw [hrecord] at h
    dsimp only at h
    split_ifs at h
    cases h
    exact .erased _ record _ hrecord

theorem readback_of_erased {identity : ChildVaultIdentity} {version : UInt64} {next : VaultImage}
    (h : vault.erasedImage identity version = .ok next) :
    next.records.contains identity.lobbyId = false
      ∧ next.erasures[identity.lobbyId]? = some ⟨identity, version⟩ := by
  unfold erasedImage at h
  split at h
  · exact nomatch h
  · split_ifs at h
    cases h
    exact ⟨by simp [Std.ExtTreeMap.contains_erase], Std.ExtTreeMap.getElem?_insert_self⟩

theorem onDisk_of_open {readable : Bool} {image : VaultImage}
    (h : vault.openImage readable = .ok image) :
    image = vault.onDisk ∧ vault.openImage true = .ok image := by
  unfold openImage onDisk VaultImage.parsed at *
  cases readable with
  | false => exact nomatch h
  | true =>
    refine ⟨?_, h⟩
    cases hfile : vault.file with
    | none =>
      rw [hfile] at h
      cases h
      rfl
    | some written =>
      rw [hfile, if_neg Bool.true_eq_false.mp] at h
      dsimp only at h
      split_ifs at h
      cases h
      rfl

theorem readImageFromDisk_open {readable : Bool} {image : VaultImage}
    (h : vault.readImageFromDisk readable = .ok image) : vault.openImage true = .ok image := by
  unfold readImageFromDisk at h
  unfold openImage
  split_ifs at h
  cases hfile : vault.file with
  | none =>
    rw [hfile] at h
    exact nomatch h
  | some written =>
    rw [hfile] at h
    exact h

end EncryptedChildVault

namespace VaultHost

open EncryptedChildVault

variable {cipher : VaultCipher} {host : VaultHost}

/-- While a process runs, its image is the one a reopen would load. -/
def Settled (host : VaultHost) : Prop :=
  host.running = true → host.vault.openImage true = .ok host.vault.image

/-- Both images are disjoint, and of this schema. -/
structure Sound (host : VaultHost) : Prop where
  memory : host.vault.image.Disjoint ∧ host.vault.image.schemaVersion = VAULT_SCHEMA
  disk : host.vault.onDisk.Disjoint ∧ host.vault.onDisk.schemaVersion = VAULT_SCHEMA

/-- A step that writes no image leaves the host alone, stops it, or loads the file. -/
inductive Reads (host : VaultHost) : VaultHost → Prop
  | same : Reads host host
  | stopped : Reads host { host with running := false }
  | loaded (image : VaultImage) (h : host.vault.openImage true = .ok image) :
      Reads host ⟨{ host.vault with image := image }, true⟩

/-- What a step may do with the image `next` that it writes; only the first two are confirmed. -/
inductive Writes (host : VaultHost) (next : VaultImage) : Bool → VaultHost → Prop
  | stored (h : next.text.length ≤ READ_LIMIT) : Writes host next true ⟨⟨next, some next⟩, true⟩
  | dropped : Writes host next true host
  | parted : Writes host next false ⟨⟨host.vault.image, some next⟩, true⟩
  | outgrown (h : READ_LIMIT < next.text.length) : Writes host next false ⟨⟨next, some next⟩, true⟩

theorem call_of_running {run : EncryptedChildVault → VaultAnswer × EncryptedChildVault}
    (h : host.running = true) : (host.call run).2 = ⟨(run host.vault).2, true⟩ := by
  unfold call
  rw [if_pos h, h]

/-- What one step can do to the two images. -/
theorem step_cases (cipher : VaultCipher)
    (hschema : host.vault.image.schemaVersion = VAULT_SCHEMA) (a : VaultStep) :
    host.replacement cipher a = none ∧ host.Reads (host.step cipher a).2
      ∨ ∃ next, host.replacement cipher a = some next ∧ host.running = true
        ∧ host.vault.image.Follows next
        ∧ ∃ confirmed, host.Writes next confirmed (host.step cipher a).2
          ∧ (confirmed = true ↔ reports a = true
            ∧ (installs a = true → next.text.length ≤ READ_LIMIT)) := by
  obtain ⟨vault, running⟩ := host
  dsimp only at hschema
  cases a with
  | put identity credentials nonce answer =>
    cases running with
    | false => exact .inl ⟨rfl, .same⟩
    | true =>
      unfold step replacement
      rw [call_of_running rfl]
      unfold putIfAbsent
      dsimp only
      cases hsealed : vault.sealedImage cipher identity credentials nonce with
      | error error => exact .inl ⟨rfl, .same⟩
      | ok sealed =>
        cases sealed with
        | none => exact .inl ⟨rfl, .same⟩
        | some next =>
          refine .inr ⟨next, rfl, rfl, sealedImage_follows hsealed, ?_⟩
          cases answer with
          | installed =>
            by_cases hfits : next.text.length ≤ READ_LIMIT
            · exact ⟨true, .stored hfits, iff_of_true rfl ⟨rfl, fun _ => hfits⟩⟩
            · exact ⟨false, .outgrown (not_le.mp hfits), iff_of_false nofun fun h => hfits (h.2 rfl)⟩
          | failed => exact ⟨true, .dropped, iff_of_true rfl ⟨rfl, nofun⟩⟩
          | failedInstalled => exact ⟨false, .parted, iff_of_false nofun fun h => nomatch h.1⟩
  | get identity =>
    cases running with
    | false => exact .inl ⟨rfl, .same⟩
    | true => exact .inl ⟨rfl, .same⟩
  | delete identity version answer readable =>
    cases running with
    | false => exact .inl ⟨rfl, .same⟩
    | true =>
      unfold step replacement
      rw [call_of_running rfl]
      unfold deleteCas
      dsimp only
      cases herased : vault.erasedImage identity version with
      | error error => exact .inl ⟨rfl, .same⟩
      | ok next =>
        have hfollows := erasedImage_follows herased
        refine .inr ⟨next, rfl, rfl, hfollows, ?_⟩
        cases answer with
        | installed =>
          cases readable with
          | true =>
            unfold persist readImageFromDisk
            dsimp only
            rw [if_neg Bool.true_eq_false.mp]
            by_cases hfits : next.text.length ≤ READ_LIMIT
            · have hread : next.parsed = .ok next := if_neg
                (not_or.mpr ⟨not_lt.mpr hfits, not_not.mpr (hfollows.schema.trans hschema)⟩)
              obtain ⟨hgone, hreceipt⟩ := readback_of_erased herased
              rw [hread]
              dsimp only
              rw [if_neg (by simp [hgone, hreceipt])]
              exact ⟨true, .stored hfits, iff_of_true rfl ⟨rfl, fun _ => hfits⟩⟩
            · have hread : next.parsed = .error .invalid := if_pos (.inl (not_le.mp hfits))
              rw [hread]
              exact ⟨false, .parted, iff_of_false nofun fun h => hfits (h.2 rfl)⟩
          | false => exact ⟨false, .parted, iff_of_false nofun fun h => nomatch h.1⟩
        | failed => exact ⟨true, .dropped, iff_of_true rfl ⟨rfl, nofun⟩⟩
        | failedInstalled => exact ⟨false, .parted, iff_of_false nofun fun h => nomatch h.1⟩
  | verifyErased identity readable =>
    refine .inl ⟨rfl, ?_⟩
    cases running with
    | false => exact .same
    | true =>
      unfold step
      rw [call_of_running rfl]
      unfold verifyErased
      dsimp only
      cases hread : vault.readImageFromDisk readable with
      | error error => exact .same
      | ok readback =>
        dsimp only
        split_ifs
        · exact .same
        · split
          · exact .same
          · exact .loaded readback (readImageFromDisk_open hread)
  | reopen readable =>
    refine .inl ⟨rfl, ?_⟩
    unfold step
    dsimp only
    cases hopen : vault.openImage readable with
    | error error => exact .stopped
    | ok image => exact .loaded image (onDisk_of_open hopen).2

theorem sound_fresh : Sound fresh := by
  have hempty : VaultImage.empty.Disjoint := by
    intro lobby receipt h
    exact nomatch Std.ExtTreeMap.getElem?_empty.symm.trans h
  exact ⟨⟨hempty, rfl⟩, ⟨hempty, rfl⟩⟩

theorem sound_step (h : Sound host) (a : VaultStep) : Sound (host.step cipher a).2 := by
  rcases step_cases cipher h.memory.2 a with ⟨-, hreads⟩ | ⟨next, -, -, hfollows, _, hwrites, -⟩
  · generalize (host.step cipher a).2 = host' at hreads
    cases hreads with
    | same => exact h
    | stopped => exact ⟨h.memory, h.disk⟩
    | loaded image himage =>
      obtain ⟨rfl, -⟩ := onDisk_of_open himage
      exact ⟨h.disk, h.disk⟩
  · have hnext : next.Disjoint ∧ next.schemaVersion = VAULT_SCHEMA :=
      ⟨hfollows.disjoint h.memory.1, hfollows.schema.trans h.memory.2⟩
    generalize (host.step cipher a).2 = host' at hwrites
    cases hwrites with
    | stored => exact ⟨hnext, hnext⟩
    | dropped => exact h
    | parted => exact ⟨h.memory, hnext⟩
    | outgrown => exact ⟨hnext, hnext⟩

/-- A step leaves memory and disk alike exactly where it is confirmed. -/
theorem settled_step_iff (h : Sound host) (hsettled : host.Settled) (a : VaultStep) :
    (host.step cipher a).2.Settled ↔ host.Confirmed cipher a := by
  unfold Confirmed
  rcases step_cases cipher h.memory.2 a with
    ⟨hnone, hreads⟩ | ⟨next, hnext, hrunning, hfollows, confirmed, hwrites, hconfirmed⟩
  · rw [hnone]
    refine iff_of_true ?_ nofun
    generalize (host.step cipher a).2 = host' at hreads
    cases hreads with
    | same => exact hsettled
    | stopped => exact nofun
    | loaded image himage => exact fun _ => himage
  · have hall : (∀ written, host.replacement cipher a = some written → reports a = true
        ∧ (installs a = true → written.text.length ≤ READ_LIMIT)) ↔ confirmed = true := by
      rw [hnext, hconfirmed]
      exact ⟨fun hwritten => hwritten next rfl, fun hwritten _ heq => Option.some.inj heq ▸ hwritten⟩
    rw [hall]
    have hschema : next.schemaVersion = VAULT_SCHEMA := hfollows.schema.trans h.memory.2
    generalize (host.step cipher a).2 = host' at hwrites
    cases hwrites with
    | stored hfits => exact iff_of_true (fun _ => if_neg
        (not_or.mpr ⟨not_lt.mpr hfits, not_not.mpr hschema⟩)) rfl
    | dropped => exact iff_of_true hsettled rfl
    | parted =>
      refine iff_of_false (fun hsame => ?_) nofun
      exact hfollows.ne (onDisk_of_open (hsame rfl)).1
    | outgrown hlong =>
      refine iff_of_false (fun hsame => ?_) nofun
      have hinvalid : next.parsed = .error .invalid := if_pos (.inl hlong)
      exact nomatch hinvalid.symm.trans (hsame rfl)

/-- A receipt on disk stays there. -/
theorem receipt_step (h : Sound host) (hsettled : host.Settled) {a : VaultStep}
    (hconfirmed : host.Confirmed cipher a) {lobby : LobbyId} {receipt : ErasureReceipt}
    (hreceipt : host.vault.onDisk.erasures[lobby]? = some receipt) :
    (host.step cipher a).2.vault.onDisk.erasures[lobby]? = some receipt := by
  rcases step_cases cipher h.memory.2 a with
    ⟨-, hreads⟩ | ⟨next, hnext, hrunning, hfollows, confirmed, hwrites, hiff⟩
  · generalize (host.step cipher a).2 = host' at hreads
    cases hreads with
    | same => exact hreceipt
    | stopped => exact hreceipt
    | loaded image himage => exact hreceipt
  · cases hiff.mpr (hconfirmed next hnext)
    generalize (host.step cipher a).2 = host' at hwrites
    cases hwrites with
    | stored hfits =>
      rw [← (onDisk_of_open (hsettled hrunning)).1] at hreceipt
      exact hfollows.erasures h.memory.1 hreceipt
    | dropped => exact hreceipt

/-- What the vault promises of every run: memory and disk agree while a process runs, no lobby has a
record and a receipt, and an erased record is never read again while its receipt stays. -/
structure Keeps (cipher : VaultCipher) (steps : List VaultStep) : Prop where
  settled : ∀ before, before <+: steps → Settled (Runs.run (step cipher) fresh before)
  disjoint : ∀ before, before <+: steps →
    (Runs.run (step cipher) fresh before).vault.image.Disjoint
      ∧ (Runs.run (step cipher) fresh before).vault.onDisk.Disjoint
  permanent : ∀ before later, before ++ later <+: steps → ∀ (lobby : LobbyId) receipt,
    (Runs.run (step cipher) fresh before).vault.onDisk.erasures[lobby]? = some receipt →
    (Runs.run (step cipher) fresh (before ++ later)).vault.onDisk.erasures[lobby]? = some receipt
      ∧ (Runs.run (step cipher) fresh (before ++ later)).vault.onDisk.records[lobby]? = none
      ∧ ((Runs.run (step cipher) fresh (before ++ later)).running = true →
        ∀ identity : ChildVaultIdentity, identity.lobbyId = lobby →
          (Runs.run (step cipher) fresh (before ++ later)).vault.getExact cipher identity
            = .error .missing)

theorem receipt_run {steps : List VaultStep} (h : Sound host) (hsettled : host.Settled)
    (halong : Runs.Along (step cipher) (Confirmed cipher) host steps) {lobby : LobbyId}
    {receipt : ErasureReceipt} (hreceipt : host.vault.onDisk.erasures[lobby]? = some receipt) :
    (Runs.run (step cipher) host steps).vault.onDisk.erasures[lobby]? = some receipt := by
  induction steps generalizing host with
  | nil => exact hreceipt
  | cons a steps ih =>
    exact ih (sound_step h a) ((settled_step_iff h hsettled a).mpr halong.1) halong.2
      (receipt_step h hsettled halong.1 hreceipt)

theorem sound_run (cipher : VaultCipher) (steps : List VaultStep) :
    Sound (Runs.run (step cipher) fresh steps) := by
  have hstep : ∀ (host : VaultHost) (a : VaultStep), Sound host →
      Sound (host.step cipher a).2 := fun _ a h => sound_step h a
  exact Runs.run_invariant hstep sound_fresh steps

theorem settled_iff_along (cipher : VaultCipher) (steps : List VaultStep) :
    (∀ before, before <+: steps → Settled (Runs.run (step cipher) fresh before))
      ↔ Runs.Along (step cipher) (Confirmed cipher) fresh steps := by
  have hstep : ∀ (host : VaultHost) (a : VaultStep), Sound host →
      Sound (host.step cipher a).2 := fun _ a h => sound_step h a
  have hexact : ∀ (host : VaultHost) (a : VaultStep), Sound host → Settled host →
      (Settled (host.step cipher a).2 ↔ host.Confirmed cipher a) :=
    fun _ a h hsettled => settled_step_iff h hsettled a
  exact Runs.forall_prefix_iff_along hstep hexact sound_fresh (fun _ => rfl) steps

/-- **Erasure is permanent exactly when reports are true and files can be read**: over any run from an
empty vault, memory and disk agree, records and receipts stay apart and erased records stay erased,
if and only if no step reports an error after it has renamed an image into place, and no image is
longer than what is read of it. -/
theorem erasure_permanent_iff (cipher : VaultCipher) (steps : List VaultStep) :
    Keeps cipher steps ↔ Runs.Along (step cipher) (Confirmed cipher) fresh steps := by
  refine ⟨fun h => (settled_iff_along cipher steps).mp h.settled, fun halong => ?_⟩
  have hsettled := (settled_iff_along cipher steps).mpr halong
  refine ⟨hsettled, fun before _ => ?_, fun before later hpre lobby receipt hreceipt => ?_⟩
  · exact ⟨(sound_run cipher before).memory.1, (sound_run cipher before).disk.1⟩
  · obtain ⟨rest, rfl⟩ := hpre
    rw [List.append_assoc] at halong hsettled
    have hbefore := Runs.Along.append.mp halong
    have hlater := Runs.Along.append.mp hbefore.2
    have hkept := receipt_run (sound_run cipher before)
      (hsettled before (List.prefix_append before _)) hlater.1 hreceipt
    rw [← Runs.run_append] at hkept
    have hgone := (sound_run cipher (before ++ later)).disk.1 lobby receipt hkept
    refine ⟨hkept, hgone, fun hrunning identity hidentity => ?_⟩
    have hmemory := hsettled (before ++ later) ⟨rest, List.append_assoc _ _ _⟩ hrunning
    unfold getExact
    rw [(onDisk_of_open hmemory).1, hidentity, hgone]

end VaultHost

/-! ### A revived record -/

namespace EncryptedChildVault

def openCipher : VaultCipher := ⟨fun _ plaintext _ => some plaintext, fun _ text _ => some text⟩

def firstTailnet : ChildVaultIdentity :=
  ⟨ProtocolId.ofTail 1, 1, "tailnet-1", ⟨"one.ts.net"⟩⟩

def secondTailnet : ChildVaultIdentity :=
  ⟨ProtocolId.ofTail 2, 1, "tailnet-2", ⟨"two.ts.net"⟩⟩

end EncryptedChildVault

namespace VaultHost

open EncryptedChildVault

/-- The erase renames its image into place and then cannot sync the directory; the next put writes
the image of before. -/
def revivingSteps : List VaultStep :=
  [.put firstTailnet ⟨"client-1", "secret-1"⟩ [] .installed,
    .delete firstTailnet 1 .failedInstalled true,
    .put secondTailnet ⟨"client-2", "secret-2"⟩ [] .installed]

theorem erased_record_revived : ¬Keeps openCipher revivingSteps := by
  intro h
  have herased : (Runs.run (step openCipher) fresh (revivingSteps.take 2)).vault.onDisk.erasures[
      firstTailnet.lobbyId]? = some ⟨firstTailnet, 1⟩ := by decide +kernel
  have hrevived : (Runs.run (step openCipher) fresh (revivingSteps.take 2
      ++ revivingSteps.drop 2)).vault.onDisk.erasures[firstTailnet.lobbyId]? = none := by decide +kernel
  have hkept := (h.permanent (revivingSteps.take 2) (revivingSteps.drop 2)
    (List.prefix_rfl) firstTailnet.lobbyId ⟨firstTailnet, 1⟩ herased).1
  exact nomatch hrevived.symm.trans hkept

end VaultHost

end Spurfire
