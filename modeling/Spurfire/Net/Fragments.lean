import Spurfire.Net.Messages

/-!
# Fragmentation and reassembly

Match states and migration checkpoints travel as hash-bound fragments.  `fragment*` cuts the JSON
document of a canonical value into numbered pieces; `reassemble*` accepts a complete set of pieces
in any order and only then exposes the document.  The two kinds differ in what their fragments
must agree on, so the collection loop takes that as a parameter.
-/

namespace Spurfire

open Std (ExtTreeMap)

section Collect

variable {κ : Type} [DecidableEq κ]

/-- What one payload contributes: the fields all fragments must share, its index and its bytes. -/
abbrev FragmentView (κ : Type) := M3PeerPayloadV2 → Option (κ × UInt16 × List UInt8)

/-- One round of the collection loop. -/
def collectFragment (view : FragmentView κ) (payload : M3PeerPayloadV2)
    (seen : Option κ × ExtTreeMap UInt16 (List UInt8)) :
    Except CodecError (Option κ × ExtTreeMap UInt16 (List UInt8)) :=
  match validatePayload payload with
  | .error error => .error error
  | .ok () =>
    match view payload with
    | none => .error noncanonicalPayload
    | some (shared, index, bytes) =>
      if seen.1.any (· ≠ shared) ∨ seen.2.contains index then .error noncanonicalPayload
      else .ok (some shared, seen.2.insert index bytes)

def collectFragments (view : FragmentView κ) :
    List M3PeerPayloadV2 → Option κ × ExtTreeMap UInt16 (List UInt8) →
      Except CodecError (Option κ × ExtTreeMap UInt16 (List UInt8))
  | [], seen => .ok seen
  | payload :: payloads, seen =>
    match collectFragment view payload seen with
    | .error error => .error error
    | .ok seen => collectFragments view payloads seen

/-- The shared fields and the concatenated bytes of a complete, hash-checked fragment set. -/
def reassembleBytes (X : Externals) (view : FragmentView κ) (maxFragments : ℕ)
    (countOf : κ → UInt16) (hashOf : κ → Vector UInt8 32) (fragments : List M3PeerPayloadV2) :
    Except CodecError (κ × List UInt8) :=
  if fragments.isEmpty ∨ fragments.length > maxFragments then .error noncanonicalPayload
  else
    match collectFragments view fragments (none, ∅) with
    | .error error => .error error
    | .ok (none, _) => .error noncanonicalPayload
    | .ok (some shared, ordered) =>
      if (countOf shared).toNat ≠ fragments.length
          ∨ ordered.keys ≠ (List.range (countOf shared).toNat).map UInt16.ofNat then
        .error noncanonicalPayload
      else
        let bytes := ordered.toList.flatMap (·.2)
        if X.sha256 bytes ≠ hashOf shared then .error noncanonicalPayload
        else .ok (shared, bytes)

end Collect

/-- Cuts a document into numbered fragments. -/
def fragmentBytes (X : Externals) (maxFragments fragmentBytes : ℕ) (bytes : List UInt8)
    (fragment : Vector UInt8 32 → UInt16 → UInt16 → List UInt8 → M3PeerPayloadV2) :
    Except CodecError (List M3PeerPayloadV2) :=
  let fragmentCount := (bytes.length + fragmentBytes - 1) / fragmentBytes
  if fragmentCount = 0 ∨ fragmentCount > maxFragments then .error noncanonicalPayload
  else
    .ok ((bytes.toChunks fragmentBytes).zipIdx.map fun piece =>
      fragment (X.sha256 bytes) (UInt16.ofNat piece.2) (UInt16.ofNat fragmentCount) piece.1)

/-! ## Match states -/

def fragmentM5MatchState (X : Externals) (state : M5MatchStateV2) :
    Except CodecError (List M3PeerPayloadV2) :=
  if !state.isCanonical then .error noncanonicalPayload
  else
    fragmentBytes X MAX_M5_MATCH_STATE_FRAGMENTS M5_MATCH_STATE_FRAGMENT_BYTES
      (X.matchStateToVec state) fun hash index count bytes =>
        .matchStateFragment hash index count bytes

def matchStateView : FragmentView (Vector UInt8 32 × UInt16)
  | .matchStateFragment hash index count bytes => some ((hash, count), index, bytes)
  | _ => none

def reassembleM5MatchState (X : Externals) (fragments : List M3PeerPayloadV2) :
    Except CodecError M5MatchStateV2 :=
  match reassembleBytes X matchStateView MAX_M5_MATCH_STATE_FRAGMENTS (·.2) (·.1) fragments with
  | .error error => .error error
  | .ok (_, bytes) =>
    match X.matchStateFromSlice bytes with
    | .error message => .error (.malformed message)
    | .ok state => if !state.isCanonical then .error noncanonicalPayload else .ok state

/-! ## Migration checkpoints -/

/-- The fields shared by all fragments of one migration. -/
structure MigrationShared where
  authority : PlayerId
  epoch : UInt64
  stateHash : Vector UInt8 32
  fragmentCount : UInt16
deriving DecidableEq

def migrationView : FragmentView MigrationShared
  | .migrationFragment authority epoch hash index count bytes =>
    some (⟨authority, epoch, hash, count⟩, index, bytes)
  | _ => none

/-- A checkpoint of the epoch before the claimed one, in which the claimed authority rides. -/
def checkpointFits (authority : PlayerId) (epoch : UInt64) (checkpoint : M3MatchCheckpointV2) :
    Bool :=
  checkpoint.combat.sourceEpoch.checkedAdd 1 == some epoch
    && checkpoint.isBoundedAndCanonical
    && checkpoint.combat.riders.any fun rider => rider.riderPlayerId == authority

def fragmentM3Checkpoint (X : Externals) (authority : PlayerId) (epoch : UInt64)
    (checkpoint : M3MatchCheckpointV2) : Except CodecError (List M3PeerPayloadV2) :=
  if !checkpointFits authority epoch checkpoint then .error noncanonicalPayload
  else
    fragmentBytes X MAX_M3_CHECKPOINT_FRAGMENTS M3_CHECKPOINT_FRAGMENT_BYTES
      (X.checkpointToVec checkpoint) fun hash index count bytes =>
        .migrationFragment authority epoch hash index count bytes

def reassembleM3Checkpoint (X : Externals) (fragments : List M3PeerPayloadV2) :
    Except CodecError (PlayerId × UInt64 × M3MatchCheckpointV2) :=
  match reassembleBytes X migrationView MAX_M3_CHECKPOINT_FRAGMENTS (·.fragmentCount)
      (·.stateHash) fragments with
  | .error error => .error error
  | .ok (shared, bytes) =>
    match X.checkpointFromSlice bytes with
    | .error message => .error (.malformed message)
    | .ok checkpoint =>
      if X.checkpointHash checkpoint ≠ shared.stateHash
          ∨ !checkpointFits shared.authority shared.epoch checkpoint then
        .error noncanonicalPayload
      else .ok (shared.authority, shared.epoch, checkpoint)

end Spurfire
