import Spurfire.Net.Authority

/-!
# Local and remote succession

A peer learns of a new authority in two ways: it expires the old one itself, or it accepts the
claim of the successor.  This file compares the two on every reachable state.  They agree except
in the two seconds after the authority has announced `Leave`: local expiry reads the stored
connected flag, the claim check reads the clock only.

`Reachable` closes the constructor under the operations of both wires; the one fact it has to
carry is that the local player and the authority stay members (`Reachable.members`).
-/

namespace Spurfire

open Std (ExtTreeMap)

namespace SessionState

variable {X : Externals} {s : SessionState} {nowMs epoch : UInt64} {p : PlayerId}

/-! ## Reachable states -/

/-- The states that the public operations of wire 1.2 and wire 2 reach from a constructor. -/
inductive Reachable (X : Externals) : SessionState → Prop
  | new (lobbyId : LobbyId) (localPlayer authority : PlayerId) (nowMs : UInt64) :
      Reachable X (SessionState.new lobbyId localPlayer authority nowMs)
  | addPeer {s : SessionState} (h : Reachable X s) (player : PlayerId) (nowMs : UInt64) :
      Reachable X (s.addPeer player nowMs)
  | configureMigrationPreference {s : SessionState} (h : Reachable X s) (preference : List PlayerId) :
      Reachable X (s.configureMigrationPreference preference).2
  | envelope {s : SessionState} (h : Reachable X s) (tick : UInt64) (payload : PeerPayload) :
      Reachable X (s.envelope tick payload).2
  | accept {s : SessionState} (h : Reachable X s) (env : Envelope) (nowMs : UInt64) :
      Reachable X (s.accept X env nowMs).2
  | expireAndMigrate {s : SessionState} (h : Reachable X s) (nowMs : UInt64) :
      Reachable X (s.expireAndMigrate nowMs).2
  | secure {session : M3SecureSession} (h : Reachable X session.state)
      (c : M3SecureSession.Call) : Reachable X (session.call X c).2.state

/-- The local player and the authority have a row. -/
structure Members (s : SessionState) : Prop where
  local_mem : s.localPlayer ∈ s.peers
  authority_mem : s.authority ∈ s.peers

theorem members_new (lobbyId : LobbyId) (localPlayer authority : PlayerId) (nowMs : UInt64) :
    (SessionState.new lobbyId localPlayer authority nowMs).Members := by
  constructor <;> simp [SessionState.new]

/-- Members stay members when rows are only added and the authority stays one. -/
theorem Members.mono {t : SessionState} (h : s.Members) (hlocal : t.localPlayer = s.localPlayer)
    (hpeers : ∀ q, q ∈ s.peers → q ∈ t.peers) (hauthority : t.authority ∈ s.peers) : t.Members :=
  ⟨hlocal ▸ hpeers _ h.local_mem, hpeers _ hauthority⟩

theorem ite_some_eq_none {α : Type*} {c : Prop} [Decidable c] {a : α} {rest : Option α} :
    (if c then some a else rest) = none ↔ ¬ c ∧ rest = none := by
  split_ifs with h <;> simp [h]

/-- An envelope that passes the gate is from a member, and a claim in it is coherent. -/
theorem acceptGate_none {env : Envelope} (h : s.acceptGate X env nowMs = none) :
    env.sender ∈ s.peers ∧ ∀ claim, claimOf env.payload = some claim →
      s.authorityClaimIsCoherent env.sender claim.1 claim.2 nowMs := by
  simp only [acceptGate, ite_some_eq_none] at h
  obtain ⟨-, -, hmember, -, -, -, -, -, -, hclaim, -⟩ := h
  refine ⟨by simpa using hmember, ?_⟩
  intro claim hof
  simpa [hof] using hclaim

theorem recordPayload_frame (s : SessionState) (env : Envelope) :
    (s.recordPayload env).localPlayer = s.localPlayer ∧
      (s.recordPayload env).peers = s.peers ∧ (s.recordPayload env).authority = s.authority := by
  unfold recordPayload
  split <;> exact ⟨rfl, rfl, rfl⟩

theorem installClaim_frame (s : SessionState) (authority : PlayerId) (epoch : UInt64) :
    (s.installClaim authority epoch).localPlayer = s.localPlayer ∧
      (s.installClaim authority epoch).peers = s.peers ∧
      ((s.installClaim authority epoch).authority = s.authority ∨
        (s.installClaim authority epoch).authority = authority) := by
  unfold installClaim
  split_ifs
  · exact ⟨rfl, rfl, .inr rfl⟩
  · exact ⟨rfl, rfl, .inl rfl⟩

theorem Members.accept (h : s.Members) (env : Envelope) (nowMs : UInt64) :
    (s.accept X env nowMs).2.Members := by
  unfold SessionState.accept
  split
  · exact h
  · next hgate =>
    obtain ⟨hsender, hcoherent⟩ := acceptGate_none hgate
    obtain ⟨hlocal, hpeers, hauthority⟩ := recordPayload_frame
      (s.touch env.sender env.sequence nowMs (env.payload ≠ .leave)) env
    have hgrow : ∀ q, q ∈ s.peers → q ∈ ((s.touch env.sender env.sequence nowMs
        (env.payload ≠ .leave)).recordPayload env).peers := by
      intro q hq
      rw [hpeers, peers_touch]
      exact M3SecureSession.mem_insert_of_mem hq
    unfold acceptCommit
    split
    · next claim hof =>
      obtain ⟨hlocal', hpeers', hauthority'⟩ := installClaim_frame
        ((s.touch env.sender env.sequence nowMs (env.payload ≠ .leave)).recordPayload env)
        claim.1 claim.2
      refine h.mono (hlocal'.trans hlocal) (fun q hq => hpeers' ▸ hgrow q hq) ?_
      rcases hauthority' with hsame | hclaimed
      · rw [hsame, hauthority]
        exact h.authority_mem
      · rw [hclaimed, (coherent_cases (hcoherent claim hof)).1]
        exact hsender
    · refine h.mono hlocal hgrow ?_
      rw [hauthority]
      exact h.authority_mem

theorem Members.expireAndMigrate (h : s.Members) (nowMs : UInt64) :
    (s.expireAndMigrate nowMs).2.Members := by
  have hgrow : ∀ q, q ∈ s.peers → q ∈ (s.expirePeers nowMs).peers :=
    fun _ => M3SecureSession.mem_expirePeers
  rw [expireAndMigrate_eq]
  split_ifs
  · exact h.mono rfl hgrow h.authority_mem
  · split
    · next hsucc _ => exact h.mono rfl hgrow (mem_peers_of_successor hsucc)
    · exact h.mono rfl hgrow h.authority_mem

/-- **In every reachable state the local player and the authority are members.** -/
theorem Reachable.members (h : Reachable X s) : s.Members := by
  induction h with
  | new lobbyId localPlayer authority nowMs => exact members_new ..
  | addPeer _ player nowMs ih =>
    exact ih.mono rfl (fun _ => M3SecureSession.mem_insert_of_mem) ih.authority_mem
  | configureMigrationPreference _ preference ih =>
    unfold SessionState.configureMigrationPreference
    split_ifs <;> exact ih.mono rfl (fun _ hq => hq) ih.authority_mem
  | envelope _ tick payload ih => exact ih.mono rfl (fun _ hq => hq) ih.authority_mem
  | accept _ env nowMs ih => exact ih.accept env nowMs
  | expireAndMigrate _ nowMs ih => exact ih.expireAndMigrate nowMs
  | @secure session _ c ih =>
    obtain ⟨hpeers, hmove⟩ := M3SecureSession.call_move (X := X) session c
    exact ih.mono hpeers.1 hpeers.2 (hmove.mem_peers ih.authority_mem)

/-! ## The two decisions -/

/-- A claim of the next epoch by `p`, fresh for the receiver `s`. -/
structure FreshClaim (s : SessionState) (p : PlayerId) (epoch : UInt64) (env : Envelope) : Prop where
  lobby : env.lobbyId = s.lobbyId
  sender : env.sender = p
  envelopeEpoch : env.authorityEpoch = epoch
  payload : env.payload = .authority p epoch
  sequence : s.lastSequence p < env.sequence

/-- A fresh claim is decided by the coherence check. -/
theorem FreshClaim.accepted_iff {env : Envelope} (h : s.FreshClaim p epoch env) (hp : p ∈ s.peers)
    (hnext : s.authorityEpoch.checkedAdd 1 = some epoch) :
    (s.accept X env nowMs).1 = .accepted ↔ s.authorityClaimIsCoherent p p epoch nowMs := by
  obtain ⟨hlobby, rfl, rfl, hpayload, hsequence⟩ := h
  have hlt := UInt64.lt_of_checkedAdd_one hnext
  have hcontains : s.peers.contains env.sender := ExtTreeMap.mem_iff_contains.mp hp
  have hgate : s.acceptGate X env nowMs
      = if !s.authorityClaimIsCoherent env.sender env.sender env.authorityEpoch nowMs then
          some .invalidAuthorityClaim else none := by
    simp [acceptGate, hlobby, hpayload, hcontains, claimOf, isAuthorityOnly, subjectIsInvalid,
      isDuplicateShotResult, checkpointIsInvalid, UInt64.not_le.mpr hsequence,
      UInt64.not_lt.mpr (UInt64.le_of_lt hlt)]
  unfold SessionState.accept
  rw [hgate]
  cases s.authorityClaimIsCoherent env.sender env.sender env.authorityEpoch nowMs <;> simp

/-- A claim of the next epoch is coherent for the successor of a silent authority. -/
theorem coherent_next_iff (hnext : s.authorityEpoch.checkedAdd 1 = some epoch) :
    s.authorityClaimIsCoherent p p epoch nowMs ↔
      s.currentAuthorityIsSilent nowMs ∧ s.deterministicSuccessor nowMs = some p := by
  have hne : epoch ≠ s.authorityEpoch :=
    (UInt64.ne_of_lt (UInt64.lt_of_checkedAdd_one hnext)).symm
  cases hsilent : s.currentAuthorityIsSilent nowMs <;>
    simp [authorityClaimIsCoherent, hne, hnext, hsilent]

/-- Local expiry moves to the successor of an authority that is not live. -/
theorem expireAndMigrate_eq_some_iff (hnext : s.authorityEpoch.checkedAdd 1 = some epoch) :
    (s.expireAndMigrate nowMs).1 = some (p, epoch) ↔
      ¬ s.isLiveAt nowMs s.authority ∧ s.deterministicSuccessor nowMs = some p := by
  rw [expireAndMigrate_eq, hnext]
  split_ifs with hlive
  · simp [hlive]
  · cases s.deterministicSuccessor nowMs <;> simp [hlive]

/-- The authority is another player whose stored flag says that it has left, while its last
packet is not yet a heartbeat timeout ago. -/
def AuthorityJustLeft (s : SessionState) (nowMs : UInt64) : Prop :=
  s.authority ≠ s.localPlayer ∧
    ∃ peer, s.peers[s.authority]? = some peer ∧ peer.connected = false ∧
      nowMs.satSub peer.lastSeenMs < HEARTBEAT_TIMEOUT_MS

/-- Silence and loss of the authority differ exactly when it has just left. -/
theorem silent_iff_lost_iff (hmem : s.authority ∈ s.peers) :
    (s.currentAuthorityIsSilent nowMs ↔ ¬ s.isLiveAt nowMs s.authority) ↔
      ¬ s.AuthorityJustLeft nowMs := by
  obtain ⟨peer, hpeer⟩ := Option.isSome_iff_exists.mp (ExtTreeMap.mem_iff_isSome_getElem?.mp hmem)
  simp only [currentAuthorityIsSilent, isLiveAt, AuthorityJustLeft, hpeer, Option.all_some,
    Option.any_some, Option.some.injEq, exists_eq_left', timedOut]
  by_cases hlocal : s.authority = s.localPlayer
  · simp [hlocal]
  · cases hconnected : peer.connected <;> simp [hlocal]

/-- **Local and remote succession agree exactly when the authority has not just left or the
claimant is not its successor.** -/
theorem claim_accepted_iff_expiry_elects_iff (X : Externals) (s : SessionState)
    (hs : Reachable X s) (nowMs epoch : UInt64) (p : PlayerId) (hp : p ∈ s.peers)
    (hnext : s.authorityEpoch.checkedAdd 1 = some epoch)
    (env : Envelope) (henv : s.FreshClaim p epoch env) :
    ((s.accept X env nowMs).1 = .accepted ↔ (s.expireAndMigrate nowMs).1 = some (p, epoch)) ↔
      ¬ (s.AuthorityJustLeft nowMs ∧ s.deterministicSuccessor nowMs = some p) := by
  rw [henv.accepted_iff hp hnext, coherent_next_iff hnext, expireAndMigrate_eq_some_iff hnext,
    and_congr_left_iff, silent_iff_lost_iff hs.members.authority_mem]
  tauto

/-! ## After `Leave` -/

/-- Player 1, the authority, leaves at 100 ms in the view of player 3. -/
def leaveOfOne : Envelope where
  wireVersion := CURRENT_WIRE_VERSION
  lobbyId := M3SecureSession.referenceLobby
  sender := M3SecureSession.referencePlayer 1
  sequence := 1
  authorityEpoch := 1
  simulationTick := 7
  payload := .leave
  session := none

/-- Player 2 is there. -/
def heartbeatAfterLeave : Envelope :=
  { leaveOfOne with sender := M3SecureSession.referencePlayer 2, payload := .heartbeat }

/-- Player 2 claims the next epoch. -/
def claimAfterLeave : Envelope :=
  { heartbeatAfterLeave with
    sequence := 2
    authorityEpoch := 2
    payload := .authority (M3SecureSession.referencePlayer 2) 2 }

/-- Player 3 hears the departure of player 1 at 100 ms and player 2 at 150 ms. -/
def stateAfterLeave : SessionState :=
  (((M3SecureSession.referenceState [1, 2, 3] 3).accept M3SecureSession.referenceExternals
    leaveOfOne 100).2.accept M3SecureSession.referenceExternals heartbeatAfterLeave 150).2

theorem reachable_stateAfterLeave :
    Reachable M3SecureSession.referenceExternals stateAfterLeave :=
  ((((Reachable.new ..).addPeer ..).addPeer ..).addPeer ..).accept .. |>.accept ..

theorem freshClaim_claimAfterLeave :
    stateAfterLeave.FreshClaim (M3SecureSession.referencePlayer 2) 2 claimAfterLeave :=
  ⟨rfl, rfl, rfl, rfl, by decide +kernel⟩

/-- At 200 ms player 3 elects player 2 itself, and rejects the fresh claim of player 2. -/
theorem claim_rejected_where_expiry_elects :
    Reachable M3SecureSession.referenceExternals stateAfterLeave ∧
      M3SecureSession.referencePlayer 2 ∈ stateAfterLeave.peers ∧
      M3SecureSession.referencePlayer 2 ≠ stateAfterLeave.localPlayer ∧
      stateAfterLeave.authorityEpoch.checkedAdd 1 = some 2 ∧
      stateAfterLeave.FreshClaim (M3SecureSession.referencePlayer 2) 2 claimAfterLeave ∧
      ¬ ((stateAfterLeave.accept M3SecureSession.referenceExternals claimAfterLeave 200).1
          = .accepted ↔
        (stateAfterLeave.expireAndMigrate 200).1 = some (M3SecureSession.referencePlayer 2, 2)) := by
  refine ⟨reachable_stateAfterLeave, by decide +kernel, by decide +kernel, rfl,
    freshClaim_claimAfterLeave, ?_⟩
  have helects : (stateAfterLeave.expireAndMigrate 200).1
      = some (M3SecureSession.referencePlayer 2, 2) := by decide +kernel
  have hrejects : (stateAfterLeave.accept M3SecureSession.referenceExternals claimAfterLeave 200).1
      = .invalidAuthorityClaim := by decide +kernel
  simp [helects, hrejects]

/-- At 2100 ms the departure is a heartbeat timeout ago, and the two agree again. -/
theorem claim_accepted_iff_expiry_elects_iff_late :
    ((stateAfterLeave.accept M3SecureSession.referenceExternals claimAfterLeave 2100).1 = .accepted ↔
      (stateAfterLeave.expireAndMigrate 2100).1 = some (M3SecureSession.referencePlayer 2, 2)) ∧
      (stateAfterLeave.expireAndMigrate 2100).1 = some (M3SecureSession.referencePlayer 2, 2) := by
  refine ⟨(claim_accepted_iff_expiry_elects_iff _ _ reachable_stateAfterLeave 2100 2 _ ?_ rfl _
    freshClaim_claimAfterLeave).mpr ?_, by decide +kernel⟩
  · decide +kernel
  · rintro ⟨⟨-, peer, hpeer, -, hrecent⟩, -⟩
    have hrow : stateAfterLeave.peers[stateAfterLeave.authority]? = some ⟨1, 100, false⟩ := by
      decide +kernel
    obtain rfl : (⟨1, 100, false⟩ : PeerState) = peer := Option.some.inj (hrow.symm.trans hpeer)
    exact absurd hrecent (by decide)

end SessionState

end Spurfire
