import Spurfire.Net.Preimage

/-!
# The signed bytes of the retained wire

`canonical_payload_bytes` and `envelope_digest` of wire 1.2 (`spurfire-net/src/lib.rs`), the checks
of its codec, and the injectivity of the bytes that a signature covers.

A checkpoint enters the bytes as the JSON text of `serde_json`, which is code outside; the stance of
a snapshot enters as one byte, so that only canonical stances are told apart.
-/

namespace Spurfire

open Wire

def RIDER_INPUT_JUMP_PRESSED : UInt16 := 1
def RIDER_INPUT_INTERACT_PRESSED : UInt16 := 2
def RIDER_INPUT_RESERVED_MASK : UInt16 :=
  ~~~(RIDER_INPUT_JUMP_PRESSED ||| RIDER_INPUT_INTERACT_PRESSED)

/-! ## Checks of the codec -/

def validateStance : PeerPayload → Except CodecError Unit
  | .riderSnapshot _ _ _ _ stance =>
    if !stance.isCanonical then
      .error (.malformed "rider snapshot contains a noncanonical stance")
    else .ok ()
  | _ => .ok ()

/-- The check of the button bits that both directions of the codec share. -/
def validateButtons : PeerPayload → Except CodecError Unit
  | .riderInput _ _ buttons =>
    if buttons &&& RIDER_INPUT_RESERVED_MASK ≠ 0 then
      .error (.malformed "rider input contains reserved button bits")
    else .ok ()
  | _ => .ok ()

def validateLocalPayload (payload : PeerPayload) : Except CodecError Unit := do
  validateStance payload
  validateButtons payload

/-- A newer sender of the same major version may assign the reserved bits. -/
def validateRemotePayload (payload : PeerPayload) (senderVersion : WireVersion) :
    Except CodecError Unit := do
  validateStance payload
  if senderVersion.minor ≤ CURRENT_WIRE_VERSION.minor then validateButtons payload

/-! ## Canonical bytes -/

def riderSnapshotBytes (riderPlayerId : PlayerId) (positionMm velocityMmps : Vector Int32 3)
    (yawMillidegrees : Int32) (stance : RiderStance) : List UInt8 :=
  riderPlayerId.asBytes ++ (i32Array positionMm ++ (i32Array velocityMmps
    ++ (i32be yawMillidegrees ++ [stance.asU8])))

def canonicalPayloadBytes (X : Externals) : PeerPayload → List UInt8
  | .hello hostname => 0 :: string hostname
  | .heartbeat => [1]
  | .probe nonce reply => 2 :: (u64be nonce ++ boolByte reply)
  | .riderInput throttleMilli steerMilli buttons =>
    3 :: (i16be throttleMilli ++ (i16be steerMilli ++ u16be buttons))
  | .riderSnapshot riderPlayerId positionMm velocityMmps yawMillidegrees stance =>
    4 :: riderSnapshotBytes riderPlayerId positionMm velocityMmps yawMillidegrees stance
  | .shotCommand command => shotCommandBytes command
  | .shotResult result => shotResultBytes result
  | .authority authority epoch => 7 :: (authority.asBytes ++ u64be epoch)
  | .migrationSnapshot authority epoch checkpoint stateHash =>
    8 :: (authority.asBytes ++ (u64be epoch ++ (u64be checkpoint.sourceEpoch
      ++ (u64be checkpoint.tick ++ (stateHash.toList ++ X.matchCheckpointToVec checkpoint)))))
  | .leave => [9]

namespace Envelope

/-- The signed header of a packet under given generations and roster hash. -/
def header (env : Envelope) (networkGeneration sessionGeneration : UInt64)
    (rosterHash : RosterHash) : EnvelopeHeader where
  wireVersion := env.wireVersion
  lobbyId := env.lobbyId
  networkGeneration := networkGeneration
  sessionGeneration := sessionGeneration
  rosterHash := rosterHash
  sender := env.sender
  authorityEpoch := env.authorityEpoch
  sequence := env.sequence
  simulationTick := env.simulationTick

def signedBytes (X : Externals) (env : Envelope) (networkGeneration sessionGeneration : UInt64)
    (rosterHash : RosterHash) : List UInt8 :=
  canonicalEnvelopeBytes (env.header networkGeneration sessionGeneration rosterHash)
    (canonicalPayloadBytes X env.payload)

def digest (X : Externals) (env : Envelope) (networkGeneration sessionGeneration : UInt64)
    (rosterHash : RosterHash) : Vector UInt8 32 :=
  X.sha256 (env.signedBytes X networkGeneration sessionGeneration rosterHash)

end Envelope

/-- Whether an envelope can come out of `decode`: a compatible version and a payload that passes the
checks of the codec. -/
def Envelope.isDecodable (env : Envelope) : Bool :=
  CURRENT_WIRE_VERSION.isCompatibleWith env.wireVersion
    && (validateRemotePayload env.payload env.wireVersion).isOk

def Envelope.unsigned (env : Envelope) : Envelope := { env with session := none }

/-- The signed bytes under a network generation, a session generation and a roster hash. -/
def Envelope.scopedBytes (X : Externals) (env : Envelope) (scope : UInt64 × UInt64 × RosterHash) :
    List UInt8 :=
  env.signedBytes X scope.1 scope.2.1 scope.2.2

/-! ## Injectivity -/

/-- Only an `unknown` that names a known stance shares its byte with another stance. -/
theorem RiderStance.asU8_inj {a b : RiderStance} (ha : a.isCanonical) (hb : b.isCanonical)
    (h : a.asU8 = b.asU8) : a = b := by
  have hread : ∀ c : RiderStance, c.isCanonical → RiderStance.fromU8 c.asU8 = c := by
    intro c hc
    cases c with
    | unknown value =>
      simp only [RiderStance.isCanonical, Bool.or_eq_true, decide_eq_true_eq] at hc
      simp only [RiderStance.asU8]
      unfold RiderStance.fromU8
      split <;> first | rfl | (exact absurd hc (by decide))
    | _ => rfl
  rw [← hread a ha, ← hread b hb, h]

theorem isCanonical_of_validateStance {riderPlayerId : PlayerId}
    {positionMm velocityMmps : Vector Int32 3} {yaw : Int32} {stance : RiderStance}
    (h : validateStance (.riderSnapshot riderPlayerId positionMm velocityMmps yaw stance)
      = .ok ()) : stance.isCanonical := by
  by_contra hnot
  simp [validateStance, hnot] at h

/-- **No two payloads that pass the stance check share canonical bytes.** -/
theorem canonicalPayloadBytes_injective {X : Externals}
    (hjson : Function.Injective X.matchCheckpointToVec) {p q : PeerPayload}
    (hp : validateStance p = .ok ()) (hq : validateStance q = .ok ())
    (h : canonicalPayloadBytes X p = canonicalPayloadBytes X q) : p = q := by
  -- the tag byte separates the variants; what is left is one variant against itself
  cases p <;> cases q <;> first | exact absurd (List.cons.inj h).1 (by decide) | skip
  case hello.hello => rw [string_injective (List.cons.inj h).2]
  case heartbeat.heartbeat => rfl
  case probe.probe =>
    obtain ⟨hnonce, h⟩ := delimits_u64be.split (List.cons.inj h).2
    rw [hnonce, delimits_boolByte.injective h]
  case riderInput.riderInput =>
    obtain ⟨hthrottle, h⟩ := delimits_i16be.split (List.cons.inj h).2
    obtain ⟨hsteer, h⟩ := delimits_i16be.split h
    rw [hthrottle, hsteer, delimits_u16be.injective h]
  case riderSnapshot.riderSnapshot =>
    obtain ⟨hrider, h⟩ := delimits_asBytes.split (List.cons.inj h).2
    obtain ⟨hposition, h⟩ := delimits_i32Array.split h
    obtain ⟨hvelocity, h⟩ := delimits_i32Array.split h
    obtain ⟨hyaw, h⟩ := delimits_i32be.split h
    have hstance := RiderStance.asU8_inj (isCanonical_of_validateStance hp)
      (isCanonical_of_validateStance hq) (List.cons.inj h).1
    rw [hrider, hposition, hvelocity, hyaw, hstance]
  case shotCommand.shotCommand => rw [shotCommandBytes_injective h]
  case shotResult.shotResult => rw [shotResultBytes_injective h]
  case authority.authority =>
    obtain ⟨hauthority, h⟩ := delimits_asBytes.split (List.cons.inj h).2
    rw [hauthority, delimits_u64be.injective h]
  case migrationSnapshot.migrationSnapshot =>
    obtain ⟨hauthority, h⟩ := delimits_asBytes.split (List.cons.inj h).2
    obtain ⟨hepoch, h⟩ := delimits_u64be.split h
    obtain ⟨-, h⟩ := delimits_u64be.split h
    obtain ⟨-, h⟩ := delimits_u64be.split h
    obtain ⟨hhash, h⟩ := (Delimits.bytes 32).split h
    rw [hauthority, hepoch, hhash, hjson h]
  case leave.leave => rfl

theorem validateStance_of_local {payload : PeerPayload}
    (h : (validateLocalPayload payload).isOk) : validateStance payload = .ok () := by
  cases hstance : validateStance payload with
  | ok => rfl
  | error error =>
    simp [validateLocalPayload, hstance, bind, Except.bind, Except.isOk, Except.toBool] at h

theorem validateStance_of_decodable {env : Envelope} (h : env.isDecodable) :
    validateStance env.payload = .ok () := by
  have hremote := (Bool.and_eq_true_iff.mp h).2
  cases hstance : validateStance env.payload with
  | ok => rfl
  | error error =>
    simp [validateRemotePayload, hstance, bind, Except.bind, Except.isOk, Except.toBool] at hremote

/-- **The signed bytes determine the packet** and the session it is for. -/
theorem scopedBytes_injective {X : Externals} (hjson : Function.Injective X.matchCheckpointToVec)
    {env env' : Envelope} {scope scope' : UInt64 × UInt64 × RosterHash}
    (hstance : validateStance env.payload = .ok ())
    (hstance' : validateStance env'.payload = .ok ())
    (h : env.scopedBytes X scope = env'.scopedBytes X scope') :
    env.unsigned = env'.unsigned ∧ scope = scope' := by
  obtain ⟨hheader, hpayload⟩ := canonicalEnvelopeBytes_injective h
  have hpayload := canonicalPayloadBytes_injective hjson hstance hstance' hpayload
  obtain ⟨network, session, roster⟩ := scope
  obtain ⟨network', session', roster'⟩ := scope'
  simp only [Envelope.header, EnvelopeHeader.mk.injEq] at hheader
  obtain ⟨hwire, hlobby, hnetwork, hsession, hroster, hsender, hepoch, hsequence, htick⟩ := hheader
  refine ⟨?_, by rw [hnetwork, hsession, hroster]⟩
  cases env
  cases env'
  simp_all [Envelope.unsigned]

end Spurfire
