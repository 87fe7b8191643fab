import Spurfire.Net.PacketBytes
import Spurfire.Server.Sessions

/-!
# What a session key signs

One key signs the packets of the retained wire, the datagrams of the gameplay wire and its own
registration.  `SignedStatement` is any of these, and `bytes_unambiguous` the result: the bytes that
are signed say which of them it is, and everything in it.
-/

namespace Spurfire

open Wire

/-- The three uses of a session key. -/
inductive SignedStatement
  | packet (env : Envelope) (scope : UInt64 × UInt64 × RosterHash)
  | datagram (env : M3EnvelopeV2) (scope : UInt64 × UInt64 × RosterHash)
  | registration (lobbyId : LobbyId) (playerId : PlayerId)
      (networkGeneration rosterRevision : UInt64) (tailnetAddress : IpAddr)
      (applicationPort : UInt16) (sessionPublicKey : SessionPublicKey)

namespace SignedStatement

def bytes (X : Externals) : SignedStatement → List UInt8
  | packet env scope => env.scopedBytes X scope
  | datagram env scope =>
    canonicalEnvelopeBytes (env.header scope.1 scope.2.1 scope.2.2)
      (canonicalM3PayloadBytes env.payload)
  | registration lobbyId playerId networkGeneration rosterRevision tailnetAddress port key =>
    canonicalKeyregBytes lobbyId playerId networkGeneration rosterRevision tailnetAddress port key

/-- What the codecs let onto the wire. -/
def IsEncodable : SignedStatement → Prop
  | packet env _ => env.isDecodable
  | datagram env _ => env.wireVersion = M3_WIRE_VERSION ∧ env.payload.isValid
  | registration .. => True

/-- The statement without the binding that its signature goes into. -/
def unsigned : SignedStatement → SignedStatement
  | packet env scope => packet env.unsigned scope
  | datagram env scope => datagram { env with session := none } scope
  | other => other

end SignedStatement

theorem octets_injective : Function.Injective IpAddr.octets := by
  intro a b h
  cases a with
  | v4 a =>
    cases b with
    | v4 b => rw [Vector.toList_inj.mp h]
    | v6 b => simpa [IpAddr.octets] using congrArg List.length h
  | v6 a =>
    cases b with
    | v4 b => simpa [IpAddr.octets] using congrArg List.length h
    | v6 b => rw [Vector.toList_inj.mp h]

/-- The address stands between fields of fixed width, so its family shows in the length. -/
theorem canonicalKeyregBytes_injective {lobbyId lobbyId' : LobbyId} {playerId playerId' : PlayerId}
    {network network' revision revision' : UInt64} {address address' : IpAddr}
    {port port' : UInt16} {key key' : SessionPublicKey}
    (h : canonicalKeyregBytes lobbyId playerId network revision address port key
      = canonicalKeyregBytes lobbyId' playerId' network' revision' address' port' key') :
    lobbyId = lobbyId' ∧ playerId = playerId' ∧ network = network' ∧ revision = revision'
      ∧ address = address' ∧ port = port' ∧ key = key' := by
  simp only [canonicalKeyregBytes, List.append_assoc] at h
  have h := List.append_cancel_left h
  obtain ⟨hlobby, h⟩ := delimits_asBytes.split h
  obtain ⟨hplayer, h⟩ := delimits_asBytes.split h
  obtain ⟨hnetwork, h⟩ := delimits_u64be.split h
  obtain ⟨hrevision, h⟩ := delimits_u64be.split h
  obtain ⟨haddress, h⟩ := List.append_inj' h (by simp)
  obtain ⟨hport, h⟩ := delimits_u16be.split h
  obtain ⟨key⟩ := key
  obtain ⟨key'⟩ := key'
  exact ⟨hlobby, hplayer, hnetwork, hrevision, octets_injective haddress, hport,
    congrArg SessionPublicKey.mk (Vector.toList_inj.mp h)⟩

/-- Envelopes begin with one domain, key registrations with another. -/
theorem envelope_ne_keyreg {header : EnvelopeHeader} {payload : List UInt8} {lobbyId : LobbyId}
    {playerId : PlayerId} {network revision : UInt64} {address : IpAddr} {port : UInt16}
    {key : SessionPublicKey} :
    canonicalEnvelopeBytes header payload
      ≠ canonicalKeyregBytes lobbyId playerId network revision address port key := by
  intro h
  have hdomain : ENVELOPE_DOMAIN.take 10 ≠ KEYREG_DOMAIN.take 10 := by decide
  simp only [canonicalEnvelopeBytes, canonicalKeyregBytes, List.append_assoc] at h
  have htake := congrArg (List.take 10) h
  rw [List.take_append_of_le_length (by decide), List.take_append_of_le_length (by decide)] at htake
  exact hdomain htake

theorem packet_ne_datagram {env : Envelope} {header : EnvelopeHeader}
    {X : Externals} {scope : UInt64 × UInt64 × RosterHash} {payload : List UInt8}
    (henv : env.isDecodable) (hversion : header.wireVersion = M3_WIRE_VERSION) :
    env.scopedBytes X scope ≠ canonicalEnvelopeBytes header payload := by
  intro h
  have hheader := (canonicalEnvelopeBytes_injective h).1
  have hwire : env.wireVersion = header.wireVersion := congrArg EnvelopeHeader.wireVersion hheader
  rw [Envelope.isDecodable, hwire, hversion] at henv
  exact absurd (Bool.and_eq_true_iff.mp henv).1 (by decide)

/-! ## A reference codec -/

/-- A list, each row behind a 1 and the end marked by a 0. -/
def referenceList {α : Type} (f : α → List UInt8) : List α → List UInt8
  | [] => [0]
  | a :: as => 1 :: (f a ++ referenceList f as)

theorem delimits_referenceList {α : Type} {f : α → List UInt8} (h : Delimits f) :
    Delimits (referenceList f) := by
  intro as bs s t _ _ e
  induction as generalizing bs with
  | nil =>
    cases bs with
    | nil => exact ⟨rfl, by simpa [referenceList] using e⟩
    | cons b bs => simp [referenceList] at e
  | cons a as ih =>
    cases bs with
    | nil => simp [referenceList] at e
    | cons b bs =>
      simp only [referenceList, List.cons_append, List.append_assoc, List.cons.injEq] at e
      obtain ⟨hab, hrest⟩ := h.split e.2
      obtain ⟨htail, hst⟩ := ih bs hrest
      exact ⟨by rw [hab, htail], hst⟩

/-- The byte of a stance behind whether this build knows it. -/
def referenceStance (stance : RiderStance) : List UInt8 := boolByte stance.isKnown ++ [stance.asU8]

theorem delimits_referenceStance : Delimits referenceStance := by
  refine Uniq.of_length 2 (fun _ _ => rfl) fun a b _ _ h => ?_
  cases a <;> cases b <;>
    simp_all [referenceStance, boolByte, RiderStance.isKnown, RiderStance.asU8]

def referenceRider (r : RiderCheckpoint) : List UInt8 :=
  r.riderPlayerId.asBytes ++ (i32Array r.positionMm ++ (i32Array r.velocityMmps
    ++ (i32be r.yawMillidegrees ++ (referenceStance r.stance ++ (u16be r.health ++ ([r.weaponId]
    ++ (u16be r.ammoMagazine ++ (u16be r.ammoReserve ++ (u64be r.lastInputTick
    ++ (option u64be r.lastShotTick ++ (option u64be r.lastCommandTick
    ++ u64be r.shotIndex)))))))))))

theorem delimits_referenceRider : Delimits referenceRider :=
  (delimits_asBytes.pair (delimits_i32Array.pair (delimits_i32Array.pair (delimits_i32be.pair
    (delimits_referenceStance.pair (delimits_u16be.pair ((Delimits.code Function.injective_id).pair
    (delimits_u16be.pair (delimits_u16be.pair (delimits_u64be.pair (delimits_u64be.option.pair
    (delimits_u64be.option.pair delimits_u64be)))))))))))).comp
    (k := fun r : RiderCheckpoint => (r.riderPlayerId, r.positionMm, r.velocityMmps,
      r.yawMillidegrees, r.stance, r.health, r.weaponId, r.ammoMagazine, r.ammoReserve,
      r.lastInputTick, r.lastShotTick, r.lastCommandTick, r.shotIndex)) fun a b h => by
      cases a
      cases b
      simpa using h

/-- Injective, as the JSON text of a checkpoint is. -/
def referenceCheckpoint (c : MatchCheckpoint) : List UInt8 :=
  u64be c.sourceEpoch ++ (u64be c.tick ++ (referenceList referenceRider c.riders
    ++ referenceList (fun shot => shot.1.asBytes ++ u64be shot.2) c.resolvedShots))

theorem referenceCheckpoint_injective : Function.Injective referenceCheckpoint := by
  intro a b h
  obtain ⟨hepoch, h⟩ := delimits_u64be.split h
  obtain ⟨htick, h⟩ := delimits_u64be.split h
  obtain ⟨hriders, h⟩ := (delimits_referenceList delimits_referenceRider).split h
  have hshots := (delimits_referenceList (delimits_asBytes.pair delimits_u64be)).injective h
  cases a
  cases b
  simp_all

/-- The reference crypto with a checkpoint codec that loses nothing. -/
def packetExternals : Externals :=
  { M3SecureSession.referenceExternals with matchCheckpointToVec := referenceCheckpoint }

open M3SecureSession (referenceLobby referencePlayer referenceManifest)

def referenceScope : UInt64 × UInt64 × RosterHash :=
  (3, 4, Spurfire.rosterHash packetExternals.toCrypto (referenceManifest [1, 2]))

/-- The first heartbeat of player 1, before it is signed. -/
def firstHeartbeat : Envelope where
  wireVersion := CURRENT_WIRE_VERSION
  lobbyId := referenceLobby
  sender := referencePlayer 1
  sequence := 1
  authorityEpoch := 1
  simulationTick := 7
  payload := .heartbeat
  session := none

/-- The heartbeat with its binding. -/
def signedHeartbeat : Envelope :=
  { firstHeartbeat with
    session := some
      { networkGeneration := referenceScope.1
        sessionGeneration := referenceScope.2.1
        rosterHash := referenceScope.2.2
        signature := packetExternals.sign (M3SecureSession.referenceKey 1)
          (firstHeartbeat.digest packetExternals referenceScope.1 referenceScope.2.1
            referenceScope.2.2) } }

/-! ## Unambiguity -/

namespace SignedStatement

/-- **Signed bytes are unambiguous.**  Whatever a session key signs of what the codecs let onto the
wire, the bytes tell a packet, a datagram and a registration apart and determine each, with the
generations and the roster it is for. -/
theorem bytes_unambiguous {X : Externals} (hjson : Function.Injective X.matchCheckpointToVec)
    {a b : SignedStatement} (ha : a.IsEncodable) (hb : b.IsEncodable)
    (h : a.bytes X = b.bytes X) : a.unsigned = b.unsigned := by
  cases a with
  | packet env scope =>
    cases b with
    | packet env' scope' =>
      obtain ⟨hunsigned, hscope⟩ := scopedBytes_injective hjson (validateStance_of_decodable ha)
        (validateStance_of_decodable hb) h
      rw [unsigned, unsigned, hunsigned, hscope]
    | datagram env' scope' => exact absurd h (packet_ne_datagram ha hb.1)
    | registration => exact absurd h envelope_ne_keyreg
  | datagram env scope =>
    cases b with
    | packet env' scope' => exact absurd h.symm (packet_ne_datagram hb ha.1)
    | datagram env' scope' =>
      obtain ⟨hheader, hpayload⟩ := canonicalEnvelopeBytes_injective h
      have hpayload := canonicalM3PayloadBytes_injective ha.2 hb.2 hpayload
      obtain ⟨network, session, roster⟩ := scope
      obtain ⟨network', session', roster'⟩ := scope'
      cases env
      cases env'
      simp_all [unsigned, M3EnvelopeV2.header]
    | registration => exact absurd h envelope_ne_keyreg
  | registration =>
    cases b with
    | packet => exact absurd h.symm envelope_ne_keyreg
    | datagram => exact absurd h.symm envelope_ne_keyreg
    | registration =>
      obtain ⟨hlobby, hplayer, hnetwork, hrevision, haddress, hport, hkey⟩ :=
        canonicalKeyregBytes_injective h
      simp only [unsigned, hlobby, hplayer, hnetwork, hrevision, haddress, hport, hkey]

end SignedStatement

/-- A rider with the given health is handed over, by a bound or an unbound packet. -/
def handOver (health : UInt16) (session : Option SessionBinding) : Envelope :=
  { firstHeartbeat with
    payload := .migrationSnapshot (referencePlayer 2) 2
      ⟨1, 7, [{ M3MatchCheckpointV2.freshRider (referencePlayer 1) with health }],
        [(referencePlayer 1, 5)]⟩ (Vector.replicate 32 6)
    session }

/-- The binding is not among the signed bytes, and the rider's health is. -/
theorem SignedStatement.bytes_unambiguous_handOver :
    (SignedStatement.packet (handOver 40 signedHeartbeat.session) referenceScope).unsigned
        = (SignedStatement.packet (handOver 40 none) referenceScope).unsigned
      ∧ (SignedStatement.packet (handOver 40 none) referenceScope).bytes packetExternals
        ≠ (SignedStatement.packet (handOver 90 none) referenceScope).bytes packetExternals := by
  have hencodable : ∀ health session,
      (SignedStatement.packet (handOver health session) referenceScope).IsEncodable :=
    fun _ _ => rfl
  constructor
  · exact SignedStatement.bytes_unambiguous (X := packetExternals) referenceCheckpoint_injective
      (hencodable 40 _) (hencodable 40 none) rfl
  · intro hsame
    have hunsigned := SignedStatement.bytes_unambiguous (X := packetExternals)
      referenceCheckpoint_injective (hencodable 40 none) (hencodable 90 none) hsame
    exact absurd hunsigned (by simp [SignedStatement.unsigned, Envelope.unsigned, handOver])

end Spurfire
