import Spurfire.Net.Authority

/-!
# Delta replication of actor snapshots

The authority sends complete snapshots now and then, and deltas against the last complete one in
between.  Sender and receiver keep independent keyframe maps, cleared on different events, and a
delta names its base by rider and tick only.

* `between_apply`: a delta applied to its own base gives the current snapshot;
* `SenderInv`: what the keyframe map of the sender and its log of emissions have to do with each
  other along a run;
* `ReceiverInv`: the keyframes of a receiver are complete snapshots of the log;
* ticks grow per rider, so rider and tick determine the complete snapshot, and the base at the
  receiver is the base of the delta.
-/

namespace Spurfire

open Std (ExtTreeMap)

/-! ## Deltas -/

namespace M3ActorSnapshotDelta

theorem changed_getD {α : Type} [DecidableEq α] (base current : α) :
    (changed base current).getD base = current := by
  unfold changed
  split_ifs with h
  · exact h
  · rfl

/-- The flag of an optional field: `f` says that the field changed. -/
theorem changedOption_eq {α : Type} [DecidableEq α] {base current : Option α} {f : Bool}
    (h : f = true ↔ base ≠ current) :
    (if f then changedOption base current else base) = current ∧
      (!f && (changedOption base current).isSome) = false := by
  unfold changedOption
  by_cases heq : base = current
  · simp [heq, show f = false by simpa [heq] using h]
  · simp [heq, h.mpr heq]

/-- **A delta applied to the snapshot it was computed from gives the current snapshot.** -/
theorem between_apply (baseTick : UInt64) {base current : M3ActorSnapshot}
    (hrider : base.riderPlayerId = current.riderPlayerId) (hcanonical : current.isCanonical) :
    (between baseTick base current).apply base = some current := by
  obtain ⟨hready, hreadyFlag⟩ := changedOption_eq (f := (between baseTick base
    current).recallReadyChanged) decide_eq_true_iff
  obtain ⟨hstart, hstartFlag⟩ := changedOption_eq (f := (between baseTick base
    current).chargeStartedChanged) decide_eq_true_iff
  obtain ⟨hend, hendFlag⟩ := changedOption_eq (f := (between baseTick base
    current).chargeEndChanged) decide_eq_true_iff
  unfold apply
  simp only [between, changed_getD, hrider] at *
  rw [hready, hstart, hend, hreadyFlag, hstartFlag, hendFlag, if_neg (by simp)]
  exact if_pos hcanonical

end M3ActorSnapshotDelta

namespace M3SecureSession

variable {X : Externals} {s : M3SecureSession}

/-! ## The log of the sender -/

/-- A successful send: the tick and payload of the caller, and the envelope that goes out. -/
structure Emission where
  tick : UInt64
  payload : M3PeerPayloadV2
  env : M3EnvelopeV2

/-- What a call emits. -/
def emission (X : Externals) (s : M3SecureSession) : Call → List Emission
  | .envelope tick payload signingKey =>
    match (s.envelope X tick payload signingKey).1 with
    | .ok env => [⟨tick, payload, env⟩]
    | .error _ => []
  | _ => []

/-- What a run emits, in order. -/
def emissions (X : Externals) : M3SecureSession → List Call → List Emission
  | _, [] => []
  | s, c :: cs => emission X s c ++ emissions X (s.call X c).2 cs

/-- The rider a caller sends a snapshot of. -/
def Emission.rider (r : Emission) : Option PlayerId :=
  match r.payload with
  | .actorSnapshot snapshot => some snapshot.riderPlayerId
  | _ => none

/-- Ticks grow strictly per rider. -/
def TicksIncrease (log : List Emission) : Prop :=
  log.Pairwise fun r r' => r.rider.isSome → r.rider = r'.rider → r.tick < r'.tick

/-- An emission that goes out as the complete snapshot `snapshot`. -/
structure IsKeyframe (r : Emission) (tick : UInt64) (snapshot : M3ActorSnapshot) : Prop where
  tick_eq : r.tick = tick
  payload_eq : r.payload = .actorSnapshot snapshot
  env_eq : r.env.payload = .actorSnapshot snapshot

/-- An emission carries its caller's payload, or a delta against a keyframe of the log. -/
inductive Carries (log : List Emission) (r : Emission) : Prop
  | asIs (h : r.env.payload = r.payload) (hnot : ∀ delta, r.payload ≠ .actorSnapshotDelta delta)
  | delta {snapshot base baseTick} {keyframe : Emission} (hr : r.payload = .actorSnapshot snapshot)
      (henv : r.env.payload
        = .actorSnapshotDelta (M3ActorSnapshotDelta.between baseTick base snapshot))
      (hcanonical : snapshot.isCanonical) (hrider : base.riderPlayerId = snapshot.riderPlayerId)
      (hmem : keyframe ∈ log) (hkeyframe : IsKeyframe keyframe baseTick base)

theorem Carries.mono {log log' : List Emission} {r : Emission} (h : Carries log r)
    (hsub : ∀ r ∈ log, r ∈ log') : Carries log' r := by
  cases h with
  | asIs h hnot => exact .asIs h hnot
  | delta hr henv hcanonical hrider hmem hkeyframe =>
    exact .delta hr henv hcanonical hrider (hsub _ hmem) hkeyframe

/-- The keyframes a sender keeps are in its log, and so is the base of every delta. -/
structure SenderInv (log : List Emission) (s : M3SecureSession) : Prop where
  keyframes : ∀ (rider : PlayerId) tick base, s.sentActorKeyframes[rider]? = some (tick, base) →
    base.riderPlayerId = rider ∧ ∃ r ∈ log, IsKeyframe r tick base
  log : ∀ r ∈ log, r.env.simulationTick = r.tick ∧ Carries log r

theorem SenderInv.mono {log : List Emission} {t : M3SecureSession} (h : SenderInv log s)
    (hsent : ∀ (rider : PlayerId) (tick : UInt64) (base : M3ActorSnapshot),
      t.sentActorKeyframes[rider]? = some (tick, base) →
        s.sentActorKeyframes[rider]? = some (tick, base)) : SenderInv log t :=
  ⟨fun rider tick base hget => h.keyframes rider tick base (hsent rider tick base hget), h.log⟩

/-- Signing fills in the binding and nothing else. -/
theorem sign_ok {env signed : M3EnvelopeV2} {signingKey : SigningKey}
    (h : s.sign X env signingKey = .ok signed) :
    signed = { env with session := signed.session } := by
  unfold sign at h
  split_ifs at h
  split at h
  · cases h
  · split_ifs at h
    cases h
    rfl

/-- What goes out for a payload: itself, or the delta of a snapshot against the remembered
keyframe.  Callers cannot send deltas of their own. -/
theorem outgoingPayload_cases {tick : UInt64} {payload sent : M3PeerPayloadV2}
    (h : s.outgoingPayload tick payload = .ok sent) :
    (sent = payload ∧ ∀ delta, payload ≠ .actorSnapshotDelta delta) ∨
      ∃ snapshot baseTick base, payload = .actorSnapshot snapshot ∧
      snapshot.isCanonical ∧
      s.sentActorKeyframes[snapshot.riderPlayerId]? = some (baseTick, base) ∧
      sent = .actorSnapshotDelta (M3ActorSnapshotDelta.between baseTick base snapshot) := by
  unfold outgoingPayload at h
  split at h
  · next snapshot =>
    split_ifs at h with hcanonical
    split at h
    · next baseTick base hbase =>
      cases h
      refine .inr ⟨snapshot, baseTick, base, rfl, by simpa using hcanonical, ?_, rfl⟩
      exact (Option.filter_eq_some_iff.mp hbase).1
    · cases h
      exact .inl ⟨rfl, fun _ hdelta => by cases hdelta⟩
  · cases h
  · next hdelta =>
    cases h
    exact .inl ⟨rfl, fun delta heq => hdelta delta heq⟩

/-- The keyframe map after a send: the old one, with the snapshot that went out complete. -/
theorem sent_afterSend (tick : UInt64) (payload : M3PeerPayloadV2) :
    (∃ snapshot, payload = .actorSnapshot snapshot ∧ (s.afterSend tick payload).sentActorKeyframes
      = s.sentActorKeyframes.insert snapshot.riderPlayerId (tick, snapshot)) ∨
      (s.afterSend tick payload).sentActorKeyframes = s.sentActorKeyframes := by
  unfold afterSend rememberKeyframe
  split
  · exact .inl ⟨_, rfl, rfl⟩
  · exact .inr rfl

/-- One emission extends the log, and the keyframe map with it. -/
theorem SenderInv.send {log : List Emission} (h : SenderInv log s) {tick : UInt64}
    {payload sent : M3PeerPayloadV2} {env : M3EnvelopeV2} {signingKey : SigningKey}
    (hout : s.outgoingPayload tick payload = .ok sent)
    (hsign : s.sign X (s.unsigned tick sent) signingKey = .ok env) :
    SenderInv (log ++ [⟨tick, payload, env⟩]) (s.afterSend tick env.payload) := by
  have henv := sign_ok hsign
  have hpayload : env.payload = sent := by rw [henv]; rfl
  have htick : env.simulationTick = tick := by rw [henv]; rfl
  have hsub : ∀ r ∈ log, r ∈ log ++ [⟨tick, payload, env⟩] := fun r => List.mem_append_left _
  have hcases := outgoingPayload_cases hout
  constructor
  · intro rider baseTick base hget
    obtain ⟨snapshot, hsnapshot, hinsert⟩ | hkept := sent_afterSend (s := s) tick env.payload
    · rw [hinsert, ExtTreeMap.getElem?_insert] at hget
      split_ifs at hget with hrider
      · cases hget
        refine ⟨compare_eq_iff_eq.mp hrider, ⟨tick, payload, env⟩, by simp, rfl, ?_, hsnapshot⟩
        rcases hcases with ⟨rfl, -⟩ | ⟨_, _, _, -, -, -, rfl⟩
        · exact hpayload.symm.trans hsnapshot
        · cases hpayload.symm.trans hsnapshot
      · obtain ⟨hr, r, hmem, hkey⟩ := h.keyframes rider baseTick base hget
        exact ⟨hr, r, hsub r hmem, hkey⟩
    · rw [hkept] at hget
      obtain ⟨hr, r, hmem, hkey⟩ := h.keyframes rider baseTick base hget
      exact ⟨hr, r, hsub r hmem, hkey⟩
  · intro r hr
    rcases List.mem_append.mp hr with hold | hnew
    · obtain ⟨hrtick, hcarries⟩ := h.log r hold
      exact ⟨hrtick, hcarries.mono hsub⟩
    · obtain rfl := List.mem_singleton.mp hnew
      refine ⟨htick, ?_⟩
      rcases hcases with ⟨rfl, hnot⟩ | ⟨snapshot, baseTick, base, rfl, hcanonical, hbase, rfl⟩
      · exact .asIs hpayload hnot
      · obtain ⟨hrider, r, hmem, hkey⟩ := h.keyframes _ _ _ hbase
        exact .delta rfl hpayload hcanonical hrider (hsub r hmem) hkey

/-- Calls other than sends keep the keyframe map or clear it. -/
theorem sent_call_of_not_envelope (s : M3SecureSession) (c : Call)
    (hc : ∀ tick payload signingKey, c ≠ .envelope tick payload signingKey) :
    (s.call X c).2.sentActorKeyframes = s.sentActorKeyframes ∨
      (s.call X c).2.sentActorKeyframes = ∅ := by
  cases c with
  | envelope tick payload signingKey => exact absurd rfl (hc tick payload signingKey)
  | accept env source nodeKey nowMs installable =>
    change (s.acceptWithSourceValidated X env source nodeKey nowMs
      installable).2.sentActorKeyframes = _ ∨ (s.acceptWithSourceValidated X env source nodeKey
      nowMs installable).2.sentActorKeyframes = _
    by_cases h : (s.acceptWithSourceValidated X env source nodeKey nowMs installable).1 = .accepted
    · have hadm := (acceptWithSourceValidated_accepted h).2.2.2
      generalize (s.acceptWithSourceValidated X env source nodeKey nowMs installable).2 = u
        at hadm
      cases hadm with
      | direct =>
        unfold directCommit recordMatchState recordSnapshot installClaim
        repeat' split
        all_goals first | exact .inl rfl | exact .inr rfl
      | matchState => exact .inl rfl
      | migration => exact .inr rfl
    · rw [(acceptWithSourceValidated_rejected h).same]
      exact .inl rfl
  | expireAndMigrate nowMs =>
    change (s.expireAndMigrate nowMs).2.sentActorKeyframes = _ ∨
      (s.expireAndMigrate nowMs).2.sentActorKeyframes = _
    unfold expireAndMigrate
    simp only
    split_ifs
    · exact .inr rfl
    · exact .inl rfl
  | configureMigrationElection response =>
    change (s.configureMigrationElection response).2.sentActorKeyframes = _ ∨ _
    unfold configureMigrationElection
    simp only
    repeat' split
    all_goals exact .inl rfl
  | takeInstalledCheckpoint => exact .inl rfl

theorem SenderInv.call {log : List Emission} (h : SenderInv log s) (c : Call) :
    SenderInv (log ++ emission X s c) (s.call X c).2 := by
  by_cases hc : ∃ tick payload signingKey, c = .envelope tick payload signingKey
  · obtain ⟨tick, payload, signingKey, rfl⟩ := hc
    obtain ⟨error, heq⟩ | ⟨sent, env, hout, -, -, hsign, heq⟩ :=
      envelope_cases X s tick payload signingKey
    · simp only [M3SecureSession.call, emission, heq, List.append_nil]
      exact h
    · simp only [M3SecureSession.call, emission, heq]
      exact h.send hout hsign
  · have hne : ∀ tick payload signingKey, c ≠ .envelope tick payload signingKey :=
      fun tick payload signingKey heq => hc ⟨tick, payload, signingKey, heq⟩
    have hnothing : emission X s c = [] := by
      cases c with
      | envelope tick payload signingKey => exact absurd rfl (hne tick payload signingKey)
      | _ => rfl
    rw [hnothing, List.append_nil]
    rcases sent_call_of_not_envelope (X := X) s c hne with hkept | hcleared
    · exact h.mono fun rider tick base hget => hkept ▸ hget
    · refine h.mono fun rider tick base hget => ?_
      rw [hcleared] at hget
      simp at hget

/-- **Along every run of the sender its log accounts for its keyframes and deltas.** -/
theorem SenderInv.run {log : List Emission} (h : SenderInv log s) (cs : List Call) :
    SenderInv (log ++ emissions X s cs) (Runs.run (M3SecureSession.call X) s cs) := by
  induction cs generalizing s log with
  | nil => simpa [emissions] using h
  | cons c cs ih =>
    rw [emissions, ← List.append_assoc, Runs.run_cons]
    exact ih (h.call c)

theorem senderInv_start (h : s.sentActorKeyframes = ∅) : SenderInv [] s := by
  constructor
  · intro rider tick base hget
    rw [h] at hget
    simp at hget
  · intro r hr
    cases hr

/-- Rider and tick determine the complete snapshot. -/
theorem keyframe_unique {log : List Emission} (hticks : TicksIncrease log) {r r' : Emission}
    {tick : UInt64} {snapshot snapshot' : M3ActorSnapshot} (hr : r ∈ log) (hr' : r' ∈ log)
    (h : IsKeyframe r tick snapshot) (h' : IsKeyframe r' tick snapshot')
    (hrider : snapshot.riderPlayerId = snapshot'.riderPlayerId) : snapshot = snapshot' := by
  have hsame : r.rider = r'.rider := by
    simp only [Emission.rider, h.payload_eq, h'.payload_eq, hrider]
  have hsome : r.rider.isSome := by simp [Emission.rider, h.payload_eq]
  -- two different emissions of one rider would have different ticks
  obtain ⟨i, hi, rfl⟩ := List.getElem_of_mem hr
  obtain ⟨j, hj, rfl⟩ := List.getElem_of_mem hr'
  have hpairs := List.pairwise_iff_getElem.mp hticks
  have hsameTick : log[i].tick = log[j].tick := h.tick_eq.trans h'.tick_eq.symm
  obtain rfl : i = j := by
    rcases Nat.lt_trichotomy i j with hij | hij | hij
    · exact absurd hsameTick (UInt64.ne_of_lt (hpairs i j hi hj hij hsome hsame))
    · exact hij
    · exact absurd hsameTick.symm
        (UInt64.ne_of_lt (hpairs j i hj hi hij (hsame ▸ hsome) hsame.symm))
  exact M3PeerPayloadV2.actorSnapshot.inj (h.payload_eq.symm.trans h'.payload_eq)

/-! ## The receiver -/

/-- While `p` is its authority, the keyframes of a receiver are complete snapshots of the log. -/
def ReceiverInv (p : PlayerId) (log : List Emission) (s : M3SecureSession) : Prop :=
  s.state.authority = p → ∀ (rider : PlayerId) tick snapshot,
    s.receivedActorKeyframes[rider]? = some (tick, snapshot) →
      snapshot.riderPlayerId = rider ∧ ∃ r ∈ log, IsKeyframe r tick snapshot

/-- What reaches the receiver in the name of `p` is from the log. -/
def Delivered (p : PlayerId) (log : List Emission) (_ : M3SecureSession) (c : Call) : Prop :=
  ∀ env source nodeKey nowMs installable, c = .accept env source nodeKey nowMs installable →
    env.sender = p → ∃ r ∈ log, r.env = env

theorem isKeyframe_of_log {log : List Emission} {sender : M3SecureSession}
    (hlog : SenderInv log sender) {r : Emission} (hr : r ∈ log) {snapshot : M3ActorSnapshot}
    (h : r.env.payload = .actorSnapshot snapshot) :
    IsKeyframe r r.env.simulationTick snapshot := by
  obtain ⟨htick, hcarries⟩ := hlog.log r hr
  cases hcarries with
  | asIs hsame => exact ⟨htick.symm, hsame.symm.trans h, h⟩
  | delta _ hdelta => cases hdelta.symm.trans h

theorem received_directCommit {env : M3EnvelopeV2} {nowMs : UInt64}
    {snapshot : Option M3ActorSnapshot} (h : DirectGuards s env nowMs snapshot) :
    (∃ complete, env.payload = .actorSnapshot complete ∧
      (s.directCommit env nowMs snapshot).receivedActorKeyframes
        = s.receivedActorKeyframes.insert complete.riderPlayerId (env.simulationTick, complete) ∧
      (s.directCommit env nowMs snapshot).state.authority = s.state.authority) ∨
      ((s.directCommit env nowMs snapshot).receivedActorKeyframes = s.receivedActorKeyframes ∧
        (s.directCommit env nowMs snapshot).state.authority = s.state.authority) ∨
      (s.directCommit env nowMs snapshot).receivedActorKeyframes = ∅ := by
  have hre := h.reconstructed
  unfold directCommit recordMatchState recordSnapshot installClaim
  cases hp : env.payload with
  | actorSnapshot complete =>
    simp only [reconstruct, hp, Option.some.injEq] at hre
    subst hre
    exact .inl ⟨complete, rfl, rfl, authority_touchDirect⟩
  | authority claimed epoch =>
    simp only [reconstruct, hp, Option.some.injEq] at hre
    subst hre
    simp only
    split_ifs
    · exact .inr (.inr rfl)
    · exact .inr (.inl ⟨rfl, authority_touchDirect⟩)
  | _ =>
    refine .inr (.inl ?_)
    cases snapshot <;> exact ⟨rfl, authority_touchDirect⟩

theorem ReceiverInv.directCommit {p : PlayerId} {log : List Emission} {sender : M3SecureSession}
    (hlog : SenderInv log sender) {env : M3EnvelopeV2} {nowMs : UInt64}
    {snapshot : Option M3ActorSnapshot} (hs : ReceiverInv p log s)
    (hdelivered : env.sender = p → ∃ r ∈ log, r.env = env)
    (h : DirectGuards s env nowMs snapshot) :
    ReceiverInv p log (s.directCommit env nowMs snapshot) := by
  intro hauthority rider tick keyframe hget
  obtain ⟨complete, hpayload, hinsert, hsame⟩ | ⟨hkept, hsame⟩ | hcleared := received_directCommit h
  · rw [hinsert, ExtTreeMap.getElem?_insert] at hget
    rw [hsame] at hauthority
    split_ifs at hget with hrider
    · cases hget
      have hsender : env.sender = p :=
        (h.role (by rw [hpayload]; rfl)).trans hauthority
      obtain ⟨r, hr, rfl⟩ := hdelivered hsender
      exact ⟨compare_eq_iff_eq.mp hrider, r, hr, isKeyframe_of_log hlog hr hpayload⟩
    · exact hs hauthority rider tick keyframe hget
  · rw [hkept] at hget
    rw [hsame] at hauthority
    exact hs hauthority rider tick keyframe hget
  · rw [hcleared] at hget
    simp at hget

theorem ReceiverInv.of_kept {p : PlayerId} {log : List Emission} {t : M3SecureSession}
    (hs : ReceiverInv p log s) (hkept : t.receivedActorKeyframes = s.receivedActorKeyframes)
    (hsame : t.state.authority = s.state.authority) : ReceiverInv p log t := by
  intro hauthority rider tick keyframe hget
  rw [hkept] at hget
  exact hs (hsame ▸ hauthority) rider tick keyframe hget

theorem receiverInv_of_empty {p : PlayerId} {log : List Emission}
    (h : s.receivedActorKeyframes = ∅) : ReceiverInv p log s := by
  intro _ rider tick keyframe hget
  rw [h] at hget
  simp at hget

theorem ReceiverInv.call {p : PlayerId} {log : List Emission} {sender : M3SecureSession}
    (hlog : SenderInv log sender) {c : Call} (hdelivered : Delivered p log s c)
    (hs : ReceiverInv p log s) : ReceiverInv p log (s.call X c).2 := by
  cases c with
  | envelope tick payload signingKey =>
    obtain ⟨error, heq⟩ | ⟨sent, env, -, -, -, -, heq⟩ :=
      envelope_cases X s tick payload signingKey
    · simp only [M3SecureSession.call, heq]
      exact hs
    · simp only [M3SecureSession.call, heq]
      refine hs.of_kept ?_ rfl
      unfold afterSend rememberKeyframe
      dsimp only [Prod.map_snd, id_eq]
      split <;> rfl
  | accept env source nodeKey nowMs installable =>
    change ReceiverInv p log (s.acceptWithSourceValidated X env source nodeKey nowMs installable).2
    by_cases h : (s.acceptWithSourceValidated X env source nodeKey nowMs installable).1 = .accepted
    · have hadm := (acceptWithSourceValidated_accepted h).2.2.2
      generalize (s.acceptWithSourceValidated X env source nodeKey nowMs installable).2 = u
        at hadm
      cases hadm with
      | direct _ _ gate =>
        exact hs.directCommit hlog (hdelivered env source nodeKey nowMs installable rfl)
          (directGate_ok gate)
      | matchState => exact hs.of_kept rfl rfl
      | migration => exact receiverInv_of_empty rfl
    · rw [(acceptWithSourceValidated_rejected h).same]
      exact hs.of_kept rfl rfl
  | expireAndMigrate nowMs =>
    change ReceiverInv p log (s.expireAndMigrate nowMs).2
    unfold expireAndMigrate
    simp only
    split_ifs with hmigrated
    · exact receiverInv_of_empty rfl
    · exact hs.of_kept rfl
        (SessionState.authority_expireAndMigrate (Option.not_isSome_iff_eq_none.mp hmigrated))
  | configureMigrationElection response =>
    obtain ⟨preference, hstate⟩ := configure_frame (s := s) response
    change ReceiverInv p log (s.configureMigrationElection response).2
    refine hs.of_kept ?_ (by rw [hstate])
    unfold configureMigrationElection
    simp only
    repeat' split
    all_goals rfl
  | takeInstalledCheckpoint => exact hs.of_kept rfl rfl

/-! ## Reconstruction -/

def isActorPacket : M3PeerPayloadV2 → Bool
  | .actorSnapshot _ | .actorSnapshotDelta _ => true
  | _ => false

/-- The accessor reads what a direct commit has recorded. -/
theorem acceptedActorSnapshotFor_directCommit {env : M3EnvelopeV2} {nowMs : UInt64}
    {snapshot : M3ActorSnapshot} :
    (s.directCommit env nowMs (some snapshot)).acceptedActorSnapshotFor env.sequence
      = some snapshot := by
  have hrecord : (s.directCommit env nowMs (some snapshot)).acceptedActorSnapshot
      = some (env.sequence, snapshot) := by
    unfold directCommit recordMatchState recordSnapshot
    cases env.payload <;> rfl
  simp [acceptedActorSnapshotFor, hrecord]

/-- An actor packet of the log is reconstructed to the snapshot its caller passed. -/
theorem reconstruct_of_log {p : PlayerId} {log : List Emission} {sender : M3SecureSession}
    (hlog : SenderInv log sender) (hticks : TicksIncrease log) (hs : ReceiverInv p log s)
    (hauthority : s.state.authority = p) {r : Emission} (hr : r ∈ log)
    (hpacket : isActorPacket r.env.payload) {snapshot : Option M3ActorSnapshot}
    (hre : s.reconstruct r.env.payload = some snapshot) :
    ∃ passed, r.payload = .actorSnapshot passed ∧ snapshot = some passed := by
  obtain ⟨-, hcarries⟩ := hlog.log r hr
  cases hcarries with
  | asIs hsame hnot =>
    cases hp : r.env.payload with
    | actorSnapshot complete =>
      rw [hp] at hre
      cases hre
      exact ⟨complete, hsame.symm.trans hp, rfl⟩
    | actorSnapshotDelta delta => exact absurd (hsame.symm.trans hp) (hnot delta)
    | _ => rw [hp] at hpacket; cases hpacket
  | @delta passed base baseTick keyframe hpayload henv hcanonical hrider hmem hkeyframe =>
    refine ⟨passed, hpayload, ?_⟩
    rw [henv] at hre
    simp only [reconstruct] at hre
    split at hre
    · cases hre
    · next tick received hget =>
      split_ifs at hre with htick
      obtain ⟨hriderReceived, r', hmem', hkeyframe'⟩ := hs hauthority _ _ _ hget
      -- the receiver's keyframe has the rider and the tick of the base, so it is the base
      have htick : tick = baseTick := not_not.mp htick
      subst htick
      obtain rfl : received = base :=
        keyframe_unique hticks hmem' hmem hkeyframe' hkeyframe (hriderReceived.trans hrider.symm)
      rw [M3ActorSnapshotDelta.between_apply tick hrider hcanonical] at hre
      exact (Option.some.inj hre).symm

/-- **Delta replication reconstructs the truth.**  A sender whose snapshots have increasing ticks per
rider emits a log; a receiver gets datagrams in any order, with any losses and duplicates, among
them in the name of the sender only those of the log.  Then every actor packet it accepts from the
sender as its authority yields, through `acceptedActorSnapshotFor`, the complete snapshot that was
passed to the send that produced the packet.  And the delta between two snapshots of one rider
applied to the first gives the second. -/
theorem delta_replication_reconstructs (X : Externals) (sender receiver : M3SecureSession)
    (hsent : sender.sentActorKeyframes = ∅) (hreceived : receiver.receivedActorKeyframes = ∅)
    (sends : List Call) (hticks : TicksIncrease (emissions X sender sends)) (before : List Call)
    (env : M3EnvelopeV2) (source : SocketAddr) (nodeKey : Option NodeKey) (nowMs : UInt64)
    (installable : M3MatchCheckpointV2 → Bool)
    (hdelivered : Runs.Along (call X)
      (Delivered sender.state.localPlayer (emissions X sender sends)) receiver
      (before ++ [.accept env source nodeKey nowMs installable]))
    (hauthority : (Runs.run (call X) receiver before).state.authority = sender.state.localPlayer)
    (hpacket : isActorPacket env.payload)
    (haccepted : ((Runs.run (call X) receiver before).acceptWithSourceValidated X env source
      nodeKey nowMs installable).1 = .accepted) :
    (∃ r ∈ emissions X sender sends, ∃ passed, r.env = env ∧ r.payload = .actorSnapshot passed ∧
      ((Runs.run (call X) receiver before).acceptWithSourceValidated X env source nodeKey nowMs
        installable).2.acceptedActorSnapshotFor env.sequence = some passed) ∧
    ∀ (baseTick : UInt64) (base current : M3ActorSnapshot), base.isCanonical →
      current.isCanonical → base.riderPlayerId = current.riderPlayerId →
        (M3ActorSnapshotDelta.between baseTick base current).apply base = some current := by
  refine ⟨?_, fun baseTick base current _ hcurrent hrider =>
    M3ActorSnapshotDelta.between_apply baseTick hrider hcurrent⟩
  have hlog : SenderInv (emissions X sender sends) (Runs.run (call X) sender sends) := by
    simpa using (senderInv_start hsent).run (X := X) sends
  obtain ⟨hbefore, hlast, -⟩ := Runs.Along.append.mp hdelivered
  have hreceiver : ReceiverInv sender.state.localPlayer (emissions X sender sends)
      (Runs.run (call X) receiver before) :=
    Runs.run_invariant_along (fun _ _ hc ht => ht.call hlog hc) (receiverInv_of_empty hreceived)
      hbefore
  generalize Runs.run (call X) receiver before = s at *
  have hadm := (acceptWithSourceValidated_accepted haccepted).2.2.2
  generalize (s.acceptWithSourceValidated X env source nodeKey nowMs installable).2 = t at hadm
  cases hadm with
  | @direct snapshot _ _ gate =>
    have hguards := directGate_ok gate
    have hrole : isAuthorityOnly env.payload := by
      cases hp : env.payload <;> first | rfl | (rw [hp] at hpacket; cases hpacket)
    obtain ⟨r, hr, rfl⟩ := hlast _ _ _ _ _ rfl ((hguards.role hrole).trans hauthority)
    obtain ⟨passed, hpayload, rfl⟩ :=
      reconstruct_of_log hlog hticks hreceiver hauthority hr hpacket hguards.reconstructed
    exact ⟨r, hr, passed, rfl, hpayload, acceptedActorSnapshotFor_directCommit⟩
  | matchState hpayload => rw [hpayload] at hpacket; cases hpacket
  | migration hpayload => rw [hpayload] at hpacket; cases hpacket

/-- Player 2 mounted at rest, with the given health. -/
def snapshotOfTwo (health : UInt16) : M3ActorSnapshot where
  riderPlayerId := referencePlayer 2
  riderPositionMm := Vector.replicate 3 0
  riderVelocityMmps := Vector.replicate 3 0
  riderYawMillidegrees := 0
  stance := .mounted
  riderHealth := health
  staminaTicks := 0
  horse :=
    { entityId := 9
      horseClass := .courser
      state := .available
      positionMm := Vector.replicate 3 0
      velocityMmps := Vector.replicate 3 0
      yawMillidegrees := 0
      health := 1
      boltAwayDirection := ⟨1000000, 0, 0⟩ }
  recallState := .horsePresent
  recallReadyTick := none
  spurMeter := 0
  chargeStartedTick := none
  chargeEndTick := none

/-- Player 1 sends a complete snapshot at tick 7, and at tick 8 the loss of health as a delta. -/
def sendsOfOne : List Call :=
  [.envelope 7 (.actorSnapshot (snapshotOfTwo 100)) (referenceKey 1),
   .envelope 8 (.actorSnapshot (snapshotOfTwo 60)) (referenceKey 1)]

def keyframeOfTwo : M3PeerPayloadV2 := .actorSnapshot (snapshotOfTwo 100)

def deltaOfTwo : M3PeerPayloadV2 :=
  .actorSnapshotDelta (M3ActorSnapshotDelta.between 7 (snapshotOfTwo 100) (snapshotOfTwo 60))

theorem emissions_sendsOfOne :
    emissions referenceExternals (referenceSession [1, 2] 1) sendsOfOne
      = [⟨7, keyframeOfTwo, referenceEnvelope [1, 2] 1 1 1 7 keyframeOfTwo⟩,
         ⟨8, .actorSnapshot (snapshotOfTwo 60), referenceEnvelope [1, 2] 1 2 1 8 deltaOfTwo⟩] := by
  have hfirst : (referenceSession [1, 2] 1).envelope referenceExternals 7
      (.actorSnapshot (snapshotOfTwo 100)) (referenceKey 1)
      = (.ok (referenceEnvelope [1, 2] 1 1 1 7 keyframeOfTwo),
        (referenceSession [1, 2] 1).afterSend 7 keyframeOfTwo) :=
    envelope_reference rfl rfl rfl (by decide) (by decide +kernel) (by decide +kernel)
      (by decide +kernel)
  have hsecond : ((referenceSession [1, 2] 1).afterSend 7 keyframeOfTwo).envelope
      referenceExternals 8 (.actorSnapshot (snapshotOfTwo 60)) (referenceKey 1)
      = (.ok (referenceEnvelope [1, 2] 1 2 1 8 deltaOfTwo),
        ((referenceSession [1, 2] 1).afterSend 7 keyframeOfTwo).afterSend 8 deltaOfTwo) :=
    envelope_reference rfl rfl rfl (by decide) (by decide +kernel) (by decide +kernel)
      (by decide +kernel)
  simp only [sendsOfOne, emissions, emission, call, hfirst, Prod.map_snd, id_eq, hsecond]
  rfl

/-- Player 2 after the keyframe has arrived. -/
def sessionWithKeyframe : M3SecureSession :=
  ((referenceSession [1, 2] 2).acceptAuthenticated referenceExternals
    (referenceEnvelope [1, 2] 1 1 1 7 keyframeOfTwo) 10 fun _ => true).2

theorem run_to_keyframe :
    Runs.run (call referenceExternals) (referenceSession [1, 2] 2)
      [referenceDelivery [1, 2] 1 1 1 7 keyframeOfTwo 10] = sessionWithKeyframe := by
  have hfirst : call referenceExternals (referenceSession [1, 2] 2)
      (referenceDelivery [1, 2] 1 1 1 7 keyframeOfTwo 10) = _ :=
    call_reference rfl (by decide) (by decide +kernel)
  rw [Runs.run_cons, Runs.run_nil, hfirst]
  rfl

theorem delta_accepted :
    (sessionWithKeyframe.acceptWithSourceValidated referenceExternals
      (referenceEnvelope [1, 2] 1 2 1 8 deltaOfTwo) (referenceAddress 1) none 20
      fun _ => true).1 = .accepted := by
  rw [acceptWithSourceValidated, referenceEnvelope_authentic ?_ (by decide) (by decide +kernel)]
  · decide +kernel
  · rw [← run_to_keyframe]
    exact roster_run ..

/-- Player 2 reconstructs the second snapshot from the delta. -/
theorem delta_replication_reconstructs_two :
    ∃ r ∈ emissions referenceExternals (referenceSession [1, 2] 1) sendsOfOne, ∃ passed,
      r.env = referenceEnvelope [1, 2] 1 2 1 8 deltaOfTwo ∧ r.payload = .actorSnapshot passed ∧
      ((Runs.run (call referenceExternals) (referenceSession [1, 2] 2)
        [referenceDelivery [1, 2] 1 1 1 7 keyframeOfTwo 10]).acceptWithSourceValidated
          referenceExternals (referenceEnvelope [1, 2] 1 2 1 8 deltaOfTwo) (referenceAddress 1) none
          20 fun _ => true).2.acceptedActorSnapshotFor 2 = some passed := by
  have hticks : TicksIncrease
      (emissions referenceExternals (referenceSession [1, 2] 1) sendsOfOne) := by
    rw [emissions_sendsOfOne]
    refine List.pairwise_pair.mpr fun _ _ => ?_
    exact (by decide : (7 : UInt64) < 8)
  have hdelivered : Runs.Along (call referenceExternals) (Delivered (referencePlayer 1)
      (emissions referenceExternals (referenceSession [1, 2] 1) sendsOfOne))
      (referenceSession [1, 2] 2)
      ([referenceDelivery [1, 2] 1 1 1 7 keyframeOfTwo 10] ++ [.accept
        (referenceEnvelope [1, 2] 1 2 1 8 deltaOfTwo) (referenceAddress 1) none 20 fun _ => true]) := by
    rw [emissions_sendsOfOne]
    refine ⟨?_, ?_, trivial⟩
    · rintro env source nodeKey nowMs installable hcall -
      cases hcall
      exact ⟨_, List.mem_cons_self, rfl⟩
    · rintro env source nodeKey nowMs installable hcall -
      cases hcall
      exact ⟨_, List.mem_cons_of_mem _ List.mem_cons_self, rfl⟩
  have haccepted : ((Runs.run (call referenceExternals) (referenceSession [1, 2] 2)
      [referenceDelivery [1, 2] 1 1 1 7 keyframeOfTwo 10]).acceptWithSourceValidated
        referenceExternals (referenceEnvelope [1, 2] 1 2 1 8 deltaOfTwo) (referenceAddress 1) none
        20 fun _ => true).1 = .accepted := by
    rw [run_to_keyframe]
    exact delta_accepted
  have hauthority : (Runs.run (call referenceExternals) (referenceSession [1, 2] 2)
      [referenceDelivery [1, 2] 1 1 1 7 keyframeOfTwo 10]).state.authority = referencePlayer 1 := by
    rw [run_to_keyframe]
    decide +kernel
  exact (delta_replication_reconstructs referenceExternals (referenceSession [1, 2] 1)
    (referenceSession [1, 2] 2) rfl rfl sendsOfOne hticks _ _ _ _ _ _ hdelivered hauthority rfl
    haccepted).1

end M3SecureSession

end Spurfire
