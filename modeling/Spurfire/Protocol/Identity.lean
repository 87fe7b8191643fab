import Mathlib.Data.List.Sort
import Std.Data.ExtTreeMap
import Spurfire.Lib.Wire
import Spurfire.Lib.Word

/-!
# Identifiers, wire versions and the signed roster

The identity layer of the protocol crate (`id.rs`, `version.rs`, `session.rs`):

* `ProtocolId`, a UUIDv4 that carries its version and variant bits, so that no other identifier
  can be built;
* `WireVersion` and the two live versions of the wire;
* `RosterManifest` with its validation and canonical bytes;
* the preimage of every envelope signature, `canonicalEnvelopeBytes`.

Hashing and Ed25519 come from crates outside this repository and are the fields of `Crypto`.
-/

namespace Spurfire

open Wire (beBytes)

/-! ## Identifiers -/

inductive IdKind
  | lobby
  | player
deriving DecidableEq

/-- A UUIDv4 read as a big-endian 128-bit number.  The version nibble is the high half of byte 6
and the variant the two high bits of byte 8. -/
structure ProtocolId (k : IdKind) where
  value : ℕ
  value_lt : value < 2 ^ 128
  version : value / 2 ^ 76 % 16 = 4
  variant : value / 2 ^ 62 % 4 = 2
deriving DecidableEq

abbrev LobbyId := ProtocolId .lobby
abbrev PlayerId := ProtocolId .player

namespace ProtocolId

variable {k : IdKind}

theorem value_injective : Function.Injective (value : ProtocolId k → ℕ) := by
  rintro ⟨a, _, _, _⟩ ⟨b, _, _, _⟩ h
  simpa using h

/-- Identifiers compare byte by byte, which for big-endian bytes is the order of the numbers. -/
instance instLinearOrder : LinearOrder (ProtocolId k) := LinearOrder.lift' value value_injective

instance instTransCmp : Std.TransCmp (compare : ProtocolId k → ProtocolId k → Ordering) :=
  inferInstance

instance instLawfulEqCmp : Std.LawfulEqCmp (compare : ProtocolId k → ProtocolId k → Ordering) where
  eq_of_compare h := compare_eq_iff_eq.mp h

def asBytes (id : ProtocolId k) : List UInt8 := beBytes 16 id.value

theorem uniq_asBytes : Wire.Uniq (fun _ => True) (asBytes : ProtocolId k → List UInt8) :=
  ((Wire.uniq_beBytes 16).comap value_injective).mono fun id _ =>
    lt_of_lt_of_eq id.value_lt (by decide)

instance : LawfulBEq (ProtocolId k) := inferInstance

/-- The identifier `00000000-0000-4000-8000-xxxxxxxxxxxx` with the given last group. -/
def ofTail (n : ℕ) (h : Nat.blt n (2 ^ 48) = true := by exact Eq.refl true) : ProtocolId k where
  value := 4 * 2 ^ 76 + 2 * 2 ^ 62 + n
  value_lt := by have := Nat.blt_eq.mp h; omega
  version := by have := Nat.blt_eq.mp h; omega
  variant := by have := Nat.blt_eq.mp h; omega

end ProtocolId

/-- The lowest hexadecimal digits of a number, most significant first. -/
def hexText (count n : ℕ) : List Char :=
  (List.range count).reverse.map fun i => Nat.digitChar (n / 16 ^ i % 16)

@[simp] theorem length_hexText (count n : ℕ) : (hexText count n).length = count := by
  simp [hexText]

/-- The lowercase, hyphenated text of an identifier. -/
def ProtocolId.canonicalText {k : IdKind} (id : ProtocolId k) : List Char :=
  hexText 8 (id.value / 2 ^ 96) ++ ['-'] ++ hexText 4 (id.value / 2 ^ 80) ++ ['-']
    ++ hexText 4 (id.value / 2 ^ 64) ++ ['-'] ++ hexText 4 (id.value / 2 ^ 48) ++ ['-']
    ++ hexText 12 id.value

/-! ## Scalars -/

abbrev UnixMillis := UInt64
abbrev SimulationTick := UInt64
abbrev EntityId := UInt64

/-- `u64::try_from` of a scene integer. -/
def tryU64 (v : Int64) : Option UInt64 := if v < 0 then none else some v.toUInt64

structure WireVersion where
  major : UInt16
  minor : UInt16
deriving DecidableEq

namespace WireVersion

def isCompatibleWith (self other : WireVersion) : Bool := self.major == other.major

end WireVersion

/-- The retained proof wire. -/
def CURRENT_WIRE_VERSION : WireVersion := ⟨1, 2⟩

/-- The live gameplay wire. -/
def M3_WIRE_VERSION : WireVersion := ⟨2, 0⟩

/-! ## Keys, signatures and hashes -/

structure SessionPublicKey where
  bytes : Vector UInt8 32
deriving DecidableEq

structure SessionSignature where
  bytes : Vector UInt8 64
deriving DecidableEq

structure RosterHash where
  bytes : Vector UInt8 32
deriving DecidableEq

structure NodeKey where
  bytes : Vector UInt8 32
deriving DecidableEq

/-- An Ed25519 signing key, given by its seed. -/
structure SigningKey where
  seed : Vector UInt8 32
deriving DecidableEq

inductive SessionIdentityError
  | invalidPublicKey
  | badSignature
  | invalidNodeKey
  | emptyRoster
  | duplicateRosterIdentity
  | invalidEndpoint
deriving DecidableEq

/-- The cryptographic crates: SHA-256 and strict Ed25519.  `keyIsValid` is the decompression check
of a public key, `verifyStrict` the check of a signature under a valid key. -/
structure Crypto where
  sha256 : List UInt8 → Vector UInt8 32
  verifyingKey : SigningKey → SessionPublicKey
  sign : SigningKey → Vector UInt8 32 → SessionSignature
  keyIsValid : SessionPublicKey → Bool
  verifyStrict : SessionPublicKey → Vector UInt8 32 → SessionSignature → Bool

namespace Crypto

variable (X : Crypto)

def verifyDigest (key : SessionPublicKey) (digest : Vector UInt8 32)
    (signature : SessionSignature) : Except SessionIdentityError Unit :=
  if !X.keyIsValid key then .error .invalidPublicKey
  else if X.verifyStrict key digest signature then .ok ()
  else .error .badSignature

/-- What the signature scheme promises: a signature made with a key verifies under it. -/
def SignatureCorrect : Prop :=
  ∀ key digest, X.verifyDigest (X.verifyingKey key) digest (X.sign key digest) = .ok ()

end Crypto

/-! ## Roster manifest -/

inductive IpAddr
  | v4 (octets : Vector UInt8 4)
  | v6 (octets : Vector UInt8 16)
deriving DecidableEq

namespace IpAddr

def octets : IpAddr → List UInt8
  | v4 o => o.toList
  | v6 o => o.toList

end IpAddr

structure SocketAddr where
  ip : IpAddr
  port : UInt16
deriving DecidableEq

/-- Signed session binding of an envelope. -/
structure SessionBinding where
  networkGeneration : UInt64
  sessionGeneration : UInt64
  rosterHash : RosterHash
  signature : SessionSignature
deriving DecidableEq

structure RosterManifestEntry where
  playerId : PlayerId
  sessionPublicKey : SessionPublicKey
  tailnetAddress : IpAddr
  applicationPort : UInt16
  nodeKey : Option NodeKey
deriving DecidableEq

structure RosterManifest where
  lobbyId : LobbyId
  networkGeneration : UInt64
  sessionGeneration : UInt64
  rosterRevision : UInt64
  entries : List RosterManifestEntry
deriving DecidableEq

def ROSTER_DOMAIN : List UInt8 := "SPURFIRE-ROSTER\x00v1\x00".toByteArray.data.toList
def ENVELOPE_DOMAIN : List UInt8 := "SPURFIRE-ENV\x00v1\x00".toByteArray.data.toList
def MANIFEST_DOMAIN : List UInt8 := "SPURFIRE-MANIFEST\x00v1\x00".toByteArray.data.toList

namespace RosterManifest

/-- The identities seen so far by the validation loop. -/
structure Seen where
  players : List PlayerId
  ips : List IpAddr
  nodes : List NodeKey

def validateEntries : Seen → List RosterManifestEntry → Except SessionIdentityError Unit
  | _, [] => .ok ()
  | seen, entry :: entries =>
    if entry.applicationPort = 0 then .error .invalidEndpoint
    else if entry.playerId ∈ seen.players ∨ entry.tailnetAddress ∈ seen.ips
        ∨ (∃ node ∈ entry.nodeKey, node ∈ seen.nodes) then
      .error .duplicateRosterIdentity
    else
      validateEntries
        ⟨entry.playerId :: seen.players, entry.tailnetAddress :: seen.ips,
          entry.nodeKey.toList ++ seen.nodes⟩ entries

def validate (m : RosterManifest) : Except SessionIdentityError Unit :=
  if m.entries.isEmpty then .error .emptyRoster
  else validateEntries ⟨[], [], []⟩ m.entries

/-- The entry of a player, the first one when there are several. -/
def entry (m : RosterManifest) (player : PlayerId) : Option RosterManifestEntry :=
  m.entries.find? fun entry => entry.playerId = player

end RosterManifest

/-- `u32::try_from(len).unwrap_or(u32::MAX)` in big-endian bytes. -/
def lenU32 (n : ℕ) : List UInt8 := beBytes 4 (min n (2 ^ 32 - 1))

def canonicalRosterRow (entry : RosterManifestEntry) : List UInt8 :=
  entry.playerId.asBytes ++ entry.sessionPublicKey.bytes.toList ++ entry.tailnetAddress.octets
    ++ beBytes 2 entry.applicationPort.toNat
    ++ (entry.nodeKey.map fun key => key.bytes.toList).getD (List.replicate 32 0)

def canonicalRosterBytes (m : RosterManifest) : List UInt8 :=
  let rows := m.entries.insertionSort fun a b => a.playerId ≤ b.playerId
  ROSTER_DOMAIN ++ beBytes 8 m.networkGeneration.toNat ++ beBytes 8 m.sessionGeneration.toNat
    ++ beBytes 8 m.rosterRevision.toNat ++ lenU32 rows.length ++ rows.flatMap canonicalRosterRow

def rosterHash (X : Crypto) (m : RosterManifest) : RosterHash :=
  ⟨X.sha256 (canonicalRosterBytes m)⟩

/-- The bytes hashed by `canonical_manifest_digest`. -/
def canonicalManifestBytes (manifestPublicKey : SessionPublicKey) (m : RosterManifest) :
    List UInt8 :=
  MANIFEST_DOMAIN ++ manifestPublicKey.bytes.toList ++ canonicalRosterBytes m

def canonicalManifestDigest (X : Crypto) (manifestPublicKey : SessionPublicKey)
    (m : RosterManifest) : Vector UInt8 32 :=
  X.sha256 (canonicalManifestBytes manifestPublicKey m)

/-! ## Envelope signature preimage -/

/-- The signed header fields of an envelope. -/
structure EnvelopeHeader where
  wireVersion : WireVersion
  lobbyId : LobbyId
  networkGeneration : UInt64
  sessionGeneration : UInt64
  rosterHash : RosterHash
  sender : PlayerId
  authorityEpoch : UInt64
  sequence : UInt64
  simulationTick : UInt64
deriving DecidableEq

def canonicalEnvelopeBytes (h : EnvelopeHeader) (canonicalPayload : List UInt8) : List UInt8 :=
  ENVELOPE_DOMAIN ++ (beBytes 2 h.wireVersion.major.toNat ++ (beBytes 2 h.wireVersion.minor.toNat
    ++ (h.lobbyId.asBytes ++ (beBytes 8 h.networkGeneration.toNat
    ++ (beBytes 8 h.sessionGeneration.toNat ++ (h.rosterHash.bytes.toList ++ (h.sender.asBytes
    ++ (beBytes 8 h.authorityEpoch.toNat ++ (beBytes 8 h.sequence.toNat
    ++ (beBytes 8 h.simulationTick.toNat ++ (lenU32 canonicalPayload.length
    ++ canonicalPayload)))))))))))

def canonicalEnvelopeDigest (X : Crypto) (h : EnvelopeHeader) (canonicalPayload : List UInt8) :
    Vector UInt8 32 :=
  X.sha256 (canonicalEnvelopeBytes h canonicalPayload)

end Spurfire
