import Spurfire.Net.Admission

/-!
# The signed bytes determine the datagram

Injectivity of the preimage that application signatures cover.  Every field delimits itself
(`Wire.Delimits`), so the encoders are peeled field by field; the only parts that need a bound are
the rows of a match state, whose number is written on two bytes, and the fields that run to the end
of the payload, which nothing follows.
-/

namespace Spurfire

open Wire

/-! ## Scalars -/

theorem delimits_u16be : Delimits u16be := .word16

theorem delimits_u32be : Delimits u32be := .word32

theorem delimits_u64be : Delimits u64be := .word64

theorem delimits_i16be : Delimits i16be :=
  delimits_u16be.comp fun _ _ h => congrArg Int16.ofUInt16 h

theorem delimits_i32be : Delimits i32be :=
  delimits_u32be.comp fun _ _ h => congrArg Int32.ofUInt32 h

theorem delimits_boolByte : Delimits boolByte :=
  Delimits.code (k := fun b : Bool => if b then 1 else 0) fun a b h => by
    cases a <;> cases b <;> first | rfl | simp at h

theorem delimits_asBytes {k : IdKind} : Delimits (ProtocolId.asBytes : ProtocolId k → List UInt8) :=
  ProtocolId.uniq_asBytes

theorem delimits_i32Array : Delimits i32Array := delimits_i32be.vector 3

theorem delimits_direction : Delimits direction :=
  (delimits_i32be.pair (delimits_i32be.pair delimits_i32be)).comp
    (k := fun d : QuantizedDirection => (d.x, d.y, d.z)) fun a b h => by
      cases a
      cases b
      simpa using h

theorem stringBytes_injective : Function.Injective stringBytes := by
  intro a b h
  have hdata : a.toByteArray.data = b.toByteArray.data := Array.toList_inj.mp h
  exact String.toByteArray_inj.mp (ByteArray.ext hdata)

/-- Strings short enough for their length prefix. -/
theorem uniq_string : Uniq (fun s : String => (stringBytes s).length < 2 ^ 32 - 1) string := by
  intro a b s t ha hb e
  have hmin : ∀ c : String, (stringBytes c).length < 2 ^ 32 - 1 →
      string c = lengthPrefixed 4 (stringBytes c) := by
    intro c hc
    rw [string, lenU32, lengthPrefixed, min_eq_left hc.le]
  rw [hmin a ha, hmin b hb] at e
  obtain ⟨hbytes, hst⟩ := (uniq_lengthPrefixed 4).split (by omega) (by omega) e
  exact ⟨stringBytes_injective hbytes, hst⟩

/-! ## Enumerations -/

theorem horseClassCode_injective : Function.Injective horseClassCode := by
  intro a b h
  cases a <;> cases b <;> first | rfl | cases h

theorem horseStateCode_injective : Function.Injective horseStateCode := by
  intro a b h
  cases a <;> cases b <;> first | rfl | cases h

theorem recallStateCode_injective : Function.Injective recallStateCode := by
  intro a b h
  cases a <;> cases b <;> first | rfl | cases h

theorem objectiveKindCode_injective : Function.Injective objectiveKindCode := by
  intro a b h
  cases a <;> cases b <;> first | rfl | cases h

theorem stanceCode_injective : Function.Injective M3ActorStance.asU8 := by
  intro a b h
  cases a <;> cases b <;> first | rfl | cases h

/-- Enumerations that are written by name. -/
theorem delimits_name {α : Type} {name : α → String} (hinj : Function.Injective name)
    (hlen : ∀ a, (stringBytes (name a)).length < 2 ^ 32 - 1) : Delimits fun a => string (name a) :=
  (uniq_string.comap hinj).mono fun a _ => hlen a

theorem delimits_hitZone : Delimits fun zone : HitZone => string zone.asStr := by
  refine delimits_name ?_ ?_
  · intro a b h
    cases a <;> cases b <;> first | rfl | simp [HitZone.asStr] at h
  · intro a
    cases a <;> decide

theorem delimits_outcome : Delimits fun outcome : ShotOutcome => string outcome.asStr := by
  refine delimits_name ?_ ?_
  · intro a b h
    cases a <;> cases b <;> first | rfl | simp [ShotOutcome.asStr] at h
  · intro a
    cases a <;> decide

theorem delimits_rejectionReason :
    Delimits fun reason : ShotRejectionReason => string reason.asStr := by
  refine delimits_name ?_ ?_
  · intro a b h
    cases a <;> cases b <;> first | rfl | simp [ShotRejectionReason.asStr] at h
  · intro a
    cases a <;> decide

/-! ## Shots -/

theorem delimits_claimedTarget : Delimits claimedTargetBytes :=
  (delimits_u64be.pair (delimits_hitZone.option.pair (delimits_u16be.option.pair
    delimits_u32be.option))).comp
    (k := fun t : ClaimedTarget => (t.targetId, t.hitZone, t.damage, t.distanceMm)) fun a b h => by
      cases a
      cases b
      simpa using h

theorem shotCommandBytes_injective : Function.Injective shotCommandBytes := by
  intro a b h
  have h := (List.cons.inj h).2
  obtain ⟨htick, h⟩ := delimits_u64be.split h
  obtain ⟨hshooter, h⟩ := delimits_asBytes.split h
  obtain ⟨hweapon, h⟩ := List.cons.inj h
  obtain ⟨hx, h⟩ := delimits_i32be.split h
  obtain ⟨hy, h⟩ := delimits_i32be.split h
  obtain ⟨hz, h⟩ := delimits_i32be.split h
  obtain ⟨hdirection, h⟩ := delimits_direction.split h
  obtain ⟨hseed, h⟩ := delimits_u64be.split h
  have htarget := delimits_claimedTarget.option.injective h
  have hweapon := WeaponId.asU8_injective hweapon
  obtain ⟨_, _, _, ⟨_, _, _⟩, _, _, _⟩ := a
  obtain ⟨_, _, _, ⟨_, _, _⟩, _, _, _⟩ := b
  simp_all

theorem shotResultBytes_injective : Function.Injective shotResultBytes := by
  intro a b h
  have h := (List.cons.inj h).2
  obtain ⟨htick, h⟩ := delimits_u64be.split h
  obtain ⟨hshooter, h⟩ := delimits_asBytes.split h
  obtain ⟨hweapon, h⟩ := List.cons.inj h
  obtain ⟨houtcome, h⟩ := delimits_outcome.split h
  obtain ⟨hreason, h⟩ := delimits_rejectionReason.option.split h
  obtain ⟨hdirection, h⟩ := delimits_direction.option.split h
  obtain ⟨htarget, h⟩ := delimits_u64be.option.split h
  obtain ⟨hzone, h⟩ := delimits_hitZone.option.split h
  obtain ⟨hdamage, h⟩ := delimits_u16be.split h
  obtain ⟨hdistance, h⟩ := delimits_u32be.option.split h
  have heliminated := delimits_boolByte.injective h
  have hweapon := WeaponId.asU8_injective hweapon
  cases a
  cases b
  simp_all

/-! ## Actors -/

theorem actorInputBytes_injective : Function.Injective actorInputBytes := by
  intro a b h
  obtain ⟨hthrottle, h⟩ := delimits_i16be.split h
  obtain ⟨hsteer, h⟩ := delimits_i16be.split h
  obtain ⟨hx, h⟩ := delimits_i16be.split h
  obtain ⟨hz, h⟩ := delimits_i16be.split h
  have hbuttons := delimits_u16be.injective h
  cases a
  cases b
  simp_all

theorem delimits_horseSnapshot : Delimits horseSnapshotBytes :=
  (delimits_u64be.pair ((Delimits.code horseClassCode_injective).pair
    ((Delimits.code horseStateCode_injective).pair (delimits_i32Array.pair (delimits_i32Array.pair
    (delimits_i32be.pair (delimits_u16be.pair delimits_direction))))))).comp
    (k := fun h : M3HorseSnapshot => (h.entityId, h.horseClass, h.state, h.positionMm,
      h.velocityMmps, h.yawMillidegrees, h.health, h.boltAwayDirection)) fun a b h => by
      cases a
      cases b
      simpa using h

theorem actorSnapshotBytes_injective : Function.Injective actorSnapshotBytes := by
  intro a b h
  obtain ⟨hrider, h⟩ := delimits_asBytes.split h
  obtain ⟨hposition, h⟩ := delimits_i32Array.split h
  obtain ⟨hvelocity, h⟩ := delimits_i32Array.split h
  obtain ⟨hyaw, h⟩ := delimits_i32be.split h
  obtain ⟨hstance, h⟩ := List.cons.inj h
  obtain ⟨hhealth, h⟩ := delimits_u16be.split h
  obtain ⟨hstamina, h⟩ := delimits_u32be.split h
  obtain ⟨hhorse, h⟩ := delimits_horseSnapshot.split h
  obtain ⟨hrecall, h⟩ := List.cons.inj h
  obtain ⟨hready, h⟩ := delimits_u64be.option.split h
  obtain ⟨hspur, h⟩ := List.cons.inj h
  obtain ⟨hstart, h⟩ := delimits_u64be.option.split h
  have hend := delimits_u64be.option.injective h
  have hstance := stanceCode_injective hstance
  have hrecall := recallStateCode_injective hrecall
  cases a
  cases b
  simp_all

theorem delimits_optionCode {α : Type} {code : α → UInt8} (h : Function.Injective code) :
    Delimits (optionCode code) :=
  (Delimits.code h).option

theorem actorSnapshotDeltaBytes_injective : Function.Injective actorSnapshotDeltaBytes := by
  intro a b h
  obtain ⟨hrider, h⟩ := delimits_asBytes.split h
  obtain ⟨hbase, h⟩ := delimits_u64be.split h
  obtain ⟨hposition, h⟩ := delimits_i32Array.option.split h
  obtain ⟨hvelocity, h⟩ := delimits_i32Array.option.split h
  obtain ⟨hyaw, h⟩ := delimits_i32be.option.split h
  obtain ⟨hstance, h⟩ := (delimits_optionCode stanceCode_injective).split h
  obtain ⟨hhealth, h⟩ := delimits_u16be.option.split h
  obtain ⟨hstamina, h⟩ := delimits_u32be.option.split h
  obtain ⟨hentity, h⟩ := delimits_u64be.option.split h
  obtain ⟨hclass, h⟩ := (delimits_optionCode horseClassCode_injective).split h
  obtain ⟨hstate, h⟩ := (delimits_optionCode horseStateCode_injective).split h
  obtain ⟨hhorsePosition, h⟩ := delimits_i32Array.option.split h
  obtain ⟨hhorseVelocity, h⟩ := delimits_i32Array.option.split h
  obtain ⟨hhorseYaw, h⟩ := delimits_i32be.option.split h
  obtain ⟨hhorseHealth, h⟩ := delimits_u16be.option.split h
  obtain ⟨hbolt, h⟩ := delimits_direction.option.split h
  obtain ⟨hrecall, h⟩ := (delimits_optionCode recallStateCode_injective).split h
  obtain ⟨hreadyChanged, h⟩ := delimits_boolByte.split h
  obtain ⟨hready, h⟩ := delimits_u64be.option.split h
  obtain ⟨hspur, h⟩ := (delimits_optionCode Function.injective_id).split h
  obtain ⟨hstartChanged, h⟩ := delimits_boolByte.split h
  obtain ⟨hstart, h⟩ := delimits_u64be.option.split h
  obtain ⟨hendChanged, h⟩ := delimits_boolByte.split h
  have hend := delimits_u64be.option.injective h
  cases a
  cases b
  simp_all

/-! ## Match states -/

theorem delimits_scoreRow : Delimits scoreRowBytes :=
  (delimits_asBytes.pair (delimits_u32be.pair (delimits_u16be.pair (delimits_u16be.pair
    (delimits_u16be.pair (delimits_boolByte.pair (delimits_u64be.option.pair
    (delimits_u64be.option.pair (delimits_u64be.option.pair
    (delimits_u32be.vector 8).option))))))))).comp
    (k := fun r : M5ScoreRowV2 => (r.playerId, r.score, r.eliminations, r.assists, r.deaths,
      r.alive, r.respawnAtTick, r.respawnSpeedBuffEndTick, r.horseBuffEndTick,
      r.scoreBreakdown)) fun a b h => by
      cases a
      cases b
      simpa using h

theorem delimits_reveal : Delimits revealBytes :=
  (delimits_asBytes.pair (delimits_u64be.pair delimits_u64be)).comp
    (k := fun r : M5RevealV2 => (r.playerId, r.startedTick, r.endTick)) fun a b h => by
      cases a
      cases b
      simpa using h

theorem delimits_objective : Delimits objectiveBytes :=
  (delimits_u64be.pair ((Delimits.code objectiveKindCode_injective).pair (delimits_u64be.pair
    (delimits_u64be.pair (delimits_boolByte.pair (delimits_i32be.pair delimits_i32be)))))).comp
    (k := fun o : M5ObjectiveV2 => (o.objectiveId, o.kind, o.startedTick, o.endTick, o.completed,
      o.xMm, o.zMm)) fun a b h => by
      cases a
      cases b
      simpa using h

theorem players_length_le {m : M5MatchStateV2} (h : m.isCanonical) :
    m.players.length ≤ MAX_M3_AUTHORITY_ACTORS := by
  by_contra hlong
  simp [M5MatchStateV2.isCanonical, not_le.mp hlong] at h

/-- A canonical match state has few enough rows for its two-byte count. -/
theorem matchStateBytes_injective {a b : M5MatchStateV2} (ha : a.isCanonical) (hb : b.isCanonical)
    (h : matchStateBytes a = matchStateBytes b) : a = b := by
  have hlena : a.players.length ≤ 16 := players_length_le ha
  have hlenb : b.players.length ≤ 16 := players_length_le hb
  obtain ⟨hepoch, h⟩ := delimits_u64be.split h
  obtain ⟨hseed, h⟩ := delimits_u64be.split h
  obtain ⟨hcurrent, h⟩ := delimits_u64be.split h
  obtain ⟨hend, h⟩ := delimits_u64be.split h
  rw [min_eq_left (by omega), min_eq_left (by omega)] at h
  obtain ⟨hcount, h⟩ := (uniq_beBytes 2).split (by omega) (by omega) h
  obtain ⟨hplayers, h⟩ := rows_split delimits_scoreRow hcount (fun _ _ => trivial)
    (fun _ _ => trivial) h
  obtain ⟨hreveal, h⟩ := delimits_reveal.option.split h
  obtain ⟨hobjective, h⟩ := delimits_objective.option.split h
  obtain ⟨hfinished, h⟩ := delimits_boolByte.split h
  have hwinner := delimits_asBytes.option.injective h
  cases a
  cases b
  simp_all

/-! ## Payloads -/

/-- The length prefix of a string that ends the payload is not needed to read it. -/
theorem string_injective : Function.Injective string := by
  intro a b h
  exact stringBytes_injective (List.append_inj h (by simp [lenU32])).2

/-- The bytes behind the tag of a fragment. -/
theorem fragment_split {v w : Vector UInt8 32} {i j m n : UInt16} {s t : List UInt8}
    (h : v.toList ++ (u16be i ++ (u16be m ++ s)) = w.toList ++ (u16be j ++ (u16be n ++ t))) :
    v = w ∧ i = j ∧ m = n ∧ s = t := by
  obtain ⟨hhash, h⟩ := (Delimits.bytes 32).split h
  obtain ⟨hindex, h⟩ := delimits_u16be.split h
  obtain ⟨hcount, h⟩ := delimits_u16be.split h
  exact ⟨hhash, hindex, hcount, h⟩

/-- **No two valid payloads share canonical bytes.** -/
theorem canonicalM3PayloadBytes_injective {p q : M3PeerPayloadV2} (hp : p.isValid) (hq : q.isValid)
    (h : canonicalM3PayloadBytes p = canonicalM3PayloadBytes q) : p = q := by
  -- the tag byte separates the variants; what is left is one variant against itself
  cases p <;> cases q <;>
    first
    | exact absurd (List.cons.inj h).1 (by decide)
    | replace h := (List.cons.inj h).2
  case hello.hello => rw [string_injective h]
  case heartbeat.heartbeat => rfl
  case probe.probe =>
    obtain ⟨hnonce, h⟩ := delimits_u64be.split h
    rw [hnonce, delimits_boolByte.injective h]
  case actorLoadout.actorLoadout a b =>
    obtain ⟨hclass, h⟩ := List.cons.inj h
    have hclass := horseClassCode_injective hclass
    have hweapon := WeaponId.asU8_injective (List.cons.inj h).1
    cases a
    cases b
    simp_all
  case actorInput.actorInput => rw [actorInputBytes_injective h]
  case actorSnapshot.actorSnapshot => rw [actorSnapshotBytes_injective h]
  case actorSnapshotDelta.actorSnapshotDelta => rw [actorSnapshotDeltaBytes_injective h]
  case shotCommand.shotCommand => rw [shotCommandBytes_injective h]
  case shotResult.shotResult => rw [shotResultBytes_injective h]
  case matchState.matchState => rw [matchStateBytes_injective hp hq h]
  case matchStateFragment.matchStateFragment =>
    obtain ⟨hhash, hindex, hcount, hfragment⟩ := fragment_split h
    rw [hhash, hindex, hcount, hfragment]
  case authority.authority =>
    obtain ⟨hauthority, h⟩ := delimits_asBytes.split h
    rw [hauthority, delimits_u64be.injective h]
  case migrationFragment.migrationFragment =>
    obtain ⟨hauthority, h⟩ := delimits_asBytes.split h
    obtain ⟨hepoch, h⟩ := delimits_u64be.split h
    obtain ⟨hhash, hindex, hcount, hfragment⟩ := fragment_split h
    rw [hauthority, hepoch, hhash, hindex, hcount, hfragment]
  case leave.leave => rfl

/-! ## Envelopes -/

/-- The header is of fixed width, and the payload is what follows it. -/
theorem canonicalEnvelopeBytes_injective {h k : EnvelopeHeader} {s t : List UInt8}
    (e : canonicalEnvelopeBytes h s = canonicalEnvelopeBytes k t) : h = k ∧ s = t := by
  have e := List.append_cancel_left e
  obtain ⟨hmajor, e⟩ := delimits_u16be.split e
  obtain ⟨hminor, e⟩ := delimits_u16be.split e
  obtain ⟨hlobby, e⟩ := delimits_asBytes.split e
  obtain ⟨hnetwork, e⟩ := delimits_u64be.split e
  obtain ⟨hsession, e⟩ := delimits_u64be.split e
  obtain ⟨hroster, e⟩ := (Delimits.bytes 32).split e
  obtain ⟨hsender, e⟩ := delimits_asBytes.split e
  obtain ⟨hepoch, e⟩ := delimits_u64be.split e
  obtain ⟨hsequence, e⟩ := delimits_u64be.split e
  obtain ⟨htick, e⟩ := delimits_u64be.split e
  obtain ⟨-, hpayload⟩ := List.append_inj e (by simp [lenU32])
  refine ⟨?_, hpayload⟩
  obtain ⟨⟨_, _⟩, _, _, _, ⟨_⟩, _, _, _, _⟩ := h
  obtain ⟨⟨_, _⟩, _, _, _, ⟨_⟩, _, _, _, _⟩ := k
  simp_all

/-- **The signed bytes determine the datagram.**  Two envelopes with valid payloads whose signature
preimages agree have the same wire version, lobby, generations, roster hash, sender, epoch, sequence
and tick, and the same payload. -/
theorem signed_bytes_determine_datagram (env env' : M3EnvelopeV2)
    (networkGeneration networkGeneration' sessionGeneration sessionGeneration' : UInt64)
    (rosterHash rosterHash' : RosterHash) (hvalid : validatePayload env.payload = .ok ())
    (hvalid' : validatePayload env'.payload = .ok ())
    (h : canonicalEnvelopeBytes (env.header networkGeneration sessionGeneration rosterHash)
        (canonicalM3PayloadBytes env.payload)
      = canonicalEnvelopeBytes (env'.header networkGeneration' sessionGeneration' rosterHash')
        (canonicalM3PayloadBytes env'.payload)) :
    env.wireVersion = env'.wireVersion ∧ env.lobbyId = env'.lobbyId ∧
      networkGeneration = networkGeneration' ∧ sessionGeneration = sessionGeneration' ∧
      rosterHash = rosterHash' ∧ env.sender = env'.sender ∧
      env.authorityEpoch = env'.authorityEpoch ∧ env.sequence = env'.sequence ∧
      env.simulationTick = env'.simulationTick ∧ env.payload = env'.payload := by
  have hok : ∀ {payload : M3PeerPayloadV2}, validatePayload payload = .ok () → payload.isValid := by
    intro payload hpayload
    by_contra hnot
    simp [validatePayload, hnot] at hpayload
  obtain ⟨hheader, hpayload⟩ := canonicalEnvelopeBytes_injective h
  have hpayload := canonicalM3PayloadBytes_injective (hok hvalid) (hok hvalid') hpayload
  simp only [M3EnvelopeV2.header, EnvelopeHeader.mk.injEq] at hheader
  obtain ⟨hwire, hlobby, hnetwork, hsession, hroster, hsender, hepoch, hsequence, htick⟩ := hheader
  exact ⟨hwire, hlobby, hnetwork, hsession, hroster, hsender, hepoch, hsequence, htick, hpayload⟩

/-- A running match of two riders, the second of whom waits to respawn. -/
def runningState (score : UInt32) : M5MatchStateV2 where
  authorityEpoch := 1
  lobbySeed := 7
  currentTick := 600
  endTick := 54000
  players := [⟨M3SecureSession.referencePlayer 1, score, 1, 0, 0, true, none, none, some 900, none⟩,
    ⟨M3SecureSession.referencePlayer 2, 40, 0, 1, 1, false, some 780, none, none, none⟩]
  activeReveal := none
  activeObjective := none
  finished := false
  winner := none

/-- A keyframe of the match, with its binding. -/
def scoreEnvelope (score : UInt32) : M3EnvelopeV2 :=
  M3SecureSession.referenceEnvelope [1, 2] 1 1 1 7 (.matchState (runningState score))

/-- The preimage does not cover the binding itself, and determines everything else. -/
theorem signed_bytes_determine_datagram_score :
    (scoreEnvelope 100).payload = { scoreEnvelope 100 with session := none }.payload
      ∧ canonicalEnvelopeBytes ((scoreEnvelope 100).header 3 4 ⟨Vector.replicate 32 0⟩)
          (canonicalM3PayloadBytes (scoreEnvelope 100).payload)
        ≠ canonicalEnvelopeBytes ((scoreEnvelope 150).header 3 4 ⟨Vector.replicate 32 0⟩)
          (canonicalM3PayloadBytes (scoreEnvelope 150).payload) := by
  have hvalid : validatePayload (scoreEnvelope 100).payload = .ok () := by decide +kernel
  have hvalid' : validatePayload (scoreEnvelope 150).payload = .ok () := by decide +kernel
  constructor
  · obtain ⟨-, -, -, -, -, -, -, -, -, hpayload⟩ := signed_bytes_determine_datagram
      (scoreEnvelope 100) { scoreEnvelope 100 with session := none } 3 3 4 4
      ⟨Vector.replicate 32 0⟩ ⟨Vector.replicate 32 0⟩ hvalid hvalid rfl
    exact hpayload
  · intro hsame
    obtain ⟨-, -, -, -, -, -, -, -, -, hpayload⟩ := signed_bytes_determine_datagram
      (scoreEnvelope 100) (scoreEnvelope 150) 3 3 4 4 _ _ hvalid hvalid' hsame
    exact absurd hpayload (by decide)

end Spurfire
