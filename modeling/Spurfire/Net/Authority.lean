import Spurfire.Net.Admission
import Spurfire.Net.Succession

/-!
# Authority and epoch over whole runs

Three code paths write the authority: an `Authority` claim, a completed migration checkpoint and
local expiry.  `AuthorityMove` lists what one call can do to the pair of authority and epoch, with
the guard of each path, and `call_move` shows that the list is complete.  Everything said about
runs is read off it.
-/

namespace Spurfire

open Std (ExtTreeMap)

/-- The player a payload puts forward as authority. -/
def M3PeerPayloadV2.nominee : M3PeerPayloadV2 → Option PlayerId
  | .authority player _ => some player
  | .migrationFragment player _ _ _ _ _ => some player
  | _ => none

namespace M3SecureSession

variable {X : Externals} {s : M3SecureSession}

/-- The clock a call is made at. -/
def Call.nowMs? : Call → Option UInt64
  | .accept _ _ _ nowMs _ => some nowMs
  | .expireAndMigrate nowMs => some nowMs
  | _ => none

/-- What one call can do to the authority and the epoch. -/
inductive AuthorityMove (s : SessionState) : Call → PlayerId → UInt64 → Prop
  | kept (c : Call) : AuthorityMove s c s.authority s.authorityEpoch
  | yielded {env source nodeKey nowMs installable} (member : env.sender ∈ s.peers)
      (smaller : env.sender < s.authority) (silent : s.currentAuthorityIsSilent nowMs) :
      AuthorityMove s (.accept env source nodeKey nowMs installable) env.sender s.authorityEpoch
  | claimed {env source nodeKey nowMs installable epoch}
      (nominee : env.payload.nominee = some env.sender)
      (next : s.authorityEpoch.checkedAdd 1 = some epoch)
      (silent : s.currentAuthorityIsSilent nowMs)
      (successor : s.deterministicSuccessor nowMs = some env.sender) :
      AuthorityMove s (.accept env source nodeKey nowMs installable) env.sender epoch
  | expired {nowMs successor epoch} (lost : ¬ s.isLiveAt nowMs s.authority)
      (elected : s.deterministicSuccessor nowMs = some successor)
      (next : s.authorityEpoch.checkedAdd 1 = some epoch) :
      AuthorityMove s (.expireAndMigrate nowMs) successor epoch

/-- A coherent claim by the sender of a nomination is one of the moves. -/
theorem AuthorityMove.of_coherent {env : M3EnvelopeV2} {source : SocketAddr}
    {nodeKey : Option NodeKey} {nowMs : UInt64} {installable : M3MatchCheckpointV2 → Bool}
    {s : SessionState} {authority : PlayerId} {epoch : UInt64} (member : env.sender ∈ s.peers)
    (nominee : env.payload.nominee = some env.sender)
    (h : s.authorityClaimIsCoherent env.sender authority epoch nowMs) :
    AuthorityMove s (.accept env source nodeKey nowMs installable) authority epoch := by
  obtain ⟨rfl, ⟨rfl, same⟩ | ⟨rfl, smaller, silent⟩ | ⟨next, silent, successor⟩⟩ :=
    SessionState.coherent_cases h
  · rw [same]
    exact .kept _
  · exact .yielded member smaller silent
  · exact .claimed nominee next silent successor

/-- The local player is the same and no member has gone. -/
def KeepsMembers (s t : SessionState) : Prop :=
  t.localPlayer = s.localPlayer ∧ ∀ p, p ∈ s.peers → p ∈ t.peers

theorem mem_insert_of_mem {m : ExtTreeMap PlayerId PeerState} {p q : PlayerId} {peer : PeerState}
    (h : p ∈ m) : p ∈ m.insert q peer := by
  rw [ExtTreeMap.mem_insert]
  exact .inr h

/-! ## The move of each call -/

theorem directCommit_move {env : M3EnvelopeV2} {source : SocketAddr} {nodeKey : Option NodeKey}
    {nowMs : UInt64} {installable : M3MatchCheckpointV2 → Bool} {snapshot : Option M3ActorSnapshot}
    (member : env.sender ∈ s.state.peers) (h : DirectGuards s env nowMs snapshot) :
    AuthorityMove s.state (.accept env source nodeKey nowMs installable)
      (s.directCommit env nowMs snapshot).state.authority
      (s.directCommit env nowMs snapshot).state.authorityEpoch := by
  rw [state_directCommit]
  unfold installClaim
  split
  · next authority epoch payload =>
    have hcoherent : s.state.authorityClaimIsCoherent env.sender authority epoch nowMs := by
      simpa [claimIsIncoherent, payload] using h.coherent
    obtain ⟨rfl, -⟩ := SessionState.coherent_cases hcoherent
    split_ifs
    · exact .of_coherent member (by rw [payload]; rfl) hcoherent
    · rw [authority_touchDirect, authorityEpoch_touchDirect]
      exact .kept _
  · rw [authority_touchDirect, authorityEpoch_touchDirect]
    exact .kept _

theorem admitted_move {env : M3EnvelopeV2} {source : SocketAddr} {nodeKey : Option NodeKey}
    {nowMs : UInt64} {installable : M3MatchCheckpointV2 → Bool} {t : M3SecureSession}
    (member : env.sender ∈ s.state.peers) (h : Admitted X s env nowMs installable t) :
    AuthorityMove s.state (.accept env source nodeKey nowMs installable) t.state.authority
      t.state.authorityEpoch := by
  cases h with
  | direct _ _ gate => exact directCommit_move member (directGate_ok gate)
  | matchState => exact .kept _
  | migration payload _ _ _ coherent =>
    exact .of_coherent member (by rw [payload]; rfl) coherent

theorem localPlayer_directCommit {env : M3EnvelopeV2} {nowMs : UInt64}
    (snapshot : Option M3ActorSnapshot) :
    (s.directCommit env nowMs snapshot).state.localPlayer = s.state.localPlayer := by
  rw [state_directCommit]
  unfold installClaim touchDirect
  repeat' split
  all_goals rfl

theorem admitted_members {env : M3EnvelopeV2} {nowMs : UInt64}
    {installable : M3MatchCheckpointV2 → Bool} {t : M3SecureSession}
    (h : Admitted X s env nowMs installable t) : KeepsMembers s.state t.state := by
  cases h with
  | direct =>
    refine ⟨localPlayer_directCommit _, ?_⟩
    intro p hp
    rw [peers_directCommit]
    exact mem_insert_of_mem hp
  | matchState => exact ⟨rfl, fun _ => mem_insert_of_mem⟩
  | migration => exact ⟨rfl, fun _ => mem_insert_of_mem⟩

theorem SameUpToBuffers.state_eq {t : M3SecureSession} (h : s.SameUpToBuffers t) :
    t.state = s.state := by
  rw [h]

theorem accept_move (env : M3EnvelopeV2) (source : SocketAddr) (nodeKey : Option NodeKey)
    (nowMs : UInt64) (installable : M3MatchCheckpointV2 → Bool) :
    let t := (s.acceptWithSourceValidated X env source nodeKey nowMs installable).2
    KeepsMembers s.state t.state ∧
      AuthorityMove s.state (.accept env source nodeKey nowMs installable) t.state.authority
        t.state.authorityEpoch := by
  by_cases h : (s.acceptWithSourceValidated X env source nodeKey nowMs installable).1 = .accepted
  · obtain ⟨-, -, member, hadm⟩ := acceptWithSourceValidated_accepted h
    exact ⟨admitted_members hadm, admitted_move member hadm⟩
  · have hsame := (acceptWithSourceValidated_rejected h).same.state_eq
    simp only [hsame]
    exact ⟨⟨rfl, fun _ hp => hp⟩, .kept _⟩

theorem state_expireAndMigrate (nowMs : UInt64) :
    (s.expireAndMigrate nowMs).2.state = (s.state.expireAndMigrate nowMs).2 := by
  unfold expireAndMigrate
  simp only
  split_ifs <;> rfl

theorem mem_expirePeers {s : SessionState} {nowMs : UInt64} {p : PlayerId} (h : p ∈ s.peers) :
    p ∈ (s.expirePeers nowMs).peers := by
  rw [ExtTreeMap.mem_iff_isSome_getElem?] at h ⊢
  rw [SessionState.getElem?_expirePeers]
  simpa using h

theorem expire_move (nowMs : UInt64) :
    let t := (s.expireAndMigrate nowMs).2
    KeepsMembers s.state t.state ∧
      AuthorityMove s.state (.expireAndMigrate nowMs) t.state.authority t.state.authorityEpoch := by
  simp only [state_expireAndMigrate, SessionState.expireAndMigrate_eq]
  split_ifs with hlive
  · exact ⟨⟨rfl, fun _ => mem_expirePeers⟩, .kept _⟩
  · split
    · next hsucc hnext => exact ⟨⟨rfl, fun _ => mem_expirePeers⟩, .expired hlive hsucc hnext⟩
    · exact ⟨⟨rfl, fun _ => mem_expirePeers⟩, .kept _⟩

theorem envelope_frame (tick : UInt64) (payload : M3PeerPayloadV2) (signingKey : SigningKey) :
    ∃ next, (s.envelope X tick payload signingKey).2.state
      = { s.state with nextSequence := next } := by
  obtain ⟨error, h⟩ | ⟨sent, env, -, -, -, -, h⟩ := envelope_cases X s tick payload signingKey
  · exact ⟨s.state.nextSequence, by rw [h]⟩
  · exact ⟨s.state.nextSequence.satAdd 1, by rw [h]; rfl⟩

theorem configure_frame (response : AuthorityResponse) :
    ∃ preference, (s.configureMigrationElection response).2.state
      = { s.state with migrationPreference := preference } := by
  unfold configureMigrationElection SessionState.configureMigrationPreference
  simp only
  repeat' split
  all_goals exact ⟨_, rfl⟩

/-- **Every call makes one of the listed moves and keeps every member.** -/
theorem call_move (s : M3SecureSession) (c : Call) :
    KeepsMembers s.state (s.call X c).2.state ∧
      AuthorityMove s.state c (s.call X c).2.state.authority (s.call X c).2.state.authorityEpoch := by
  cases c with
  | envelope tick payload signingKey =>
    obtain ⟨next, h⟩ := envelope_frame (X := X) (s := s) tick payload signingKey
    simp only [call, Prod.map_snd, id_eq, h]
    exact ⟨⟨rfl, fun _ hp => hp⟩, .kept _⟩
  | accept env source nodeKey nowMs installable => exact accept_move ..
  | expireAndMigrate nowMs => exact expire_move nowMs
  | configureMigrationElection response =>
    obtain ⟨preference, h⟩ := configure_frame (s := s) response
    simp only [call, Prod.map_snd, id_eq, h]
    exact ⟨⟨rfl, fun _ hp => hp⟩, .kept _⟩
  | takeInstalledCheckpoint => exact ⟨⟨rfl, fun _ hp => hp⟩, .kept _⟩

/-! ## Safety of runs -/

section Safety

variable {s : SessionState} {c : Call} {authority : PlayerId} {epoch : UInt64}

theorem AuthorityMove.mem_peers (h : AuthorityMove s c authority epoch)
    (hmem : s.authority ∈ s.peers) : authority ∈ s.peers := by
  cases h with
  | kept => exact hmem
  | yielded member => exact member
  | claimed _ _ _ successor => exact SessionState.mem_peers_of_successor successor
  | expired _ elected => exact SessionState.mem_peers_of_successor elected

theorem AuthorityMove.epoch_eq_or_succ (h : AuthorityMove s c authority epoch) :
    epoch = s.authorityEpoch ∨ epoch.toNat = s.authorityEpoch.toNat + 1 := by
  cases h with
  | kept => exact .inl rfl
  | yielded => exact .inl rfl
  | claimed _ next => exact .inr (UInt64.checkedAdd_eq_some.mp next)
  | expired _ _ next => exact .inr (UInt64.checkedAdd_eq_some.mp next)

theorem AuthorityMove.eq_of_local (h : AuthorityMove s c authority epoch)
    (hmem : s.authority ∈ s.peers) (hlocal : s.localPlayer = s.authority) :
    authority = s.authority ∧ epoch = s.authorityEpoch := by
  cases h with
  | kept => exact ⟨rfl, rfl⟩
  | yielded _ _ silent =>
    exact absurd hlocal.symm (SessionState.unseen_of_silent silent hmem).1
  | claimed _ _ silent =>
    exact absurd hlocal.symm (SessionState.unseen_of_silent silent hmem).1
  | expired lost =>
    rw [← hlocal] at lost hmem
    exact absurd (SessionState.isLiveAt_local hmem) lost

/-- At an unchanged epoch the authority moves only down, and only away from a silent player. -/
theorem AuthorityMove.smaller_of_same_epoch (h : AuthorityMove s c authority epoch)
    (hmem : s.authority ∈ s.peers) (hepoch : epoch = s.authorityEpoch)
    (hne : authority ≠ s.authority) :
    authority < s.authority ∧ ∃ nowMs, c.nowMs? = some nowMs ∧ s.Unseen nowMs s.authority := by
  cases h with
  | kept => exact absurd rfl hne
  | yielded _ smaller silent =>
    exact ⟨smaller, _, rfl, (SessionState.unseen_of_silent silent hmem).2⟩
  | claimed _ next => exact absurd hepoch (UInt64.ne_of_lt (UInt64.lt_of_checkedAdd_one next)).symm
  | expired _ _ next => exact absurd hepoch (UInt64.ne_of_lt (UInt64.lt_of_checkedAdd_one next)).symm

/-- A received message raises the epoch only as the self-nomination of the successor of a silent
authority. -/
theorem AuthorityMove.claim_of_raised (h : AuthorityMove s c authority epoch)
    (hmem : s.authority ∈ s.peers) (hraised : s.authorityEpoch < epoch) {env : M3EnvelopeV2}
    {source : SocketAddr} {nodeKey : Option NodeKey} {nowMs : UInt64}
    {installable : M3MatchCheckpointV2 → Bool}
    (hc : c = .accept env source nodeKey nowMs installable) :
    env.payload.nominee = some env.sender ∧ s.Unseen nowMs s.authority ∧
      s.deterministicSuccessor nowMs = some env.sender := by
  cases h with
  | kept => exact absurd hraised (UInt64.lt_irrefl _)
  | yielded => exact absurd hraised (UInt64.lt_irrefl _)
  | claimed nominee _ silent successor =>
    cases hc
    exact ⟨nominee, (SessionState.unseen_of_silent silent hmem).2, successor⟩
  | expired => cases hc

end Safety

theorem call_authority_mem (h : s.state.authority ∈ s.state.peers) (c : Call) :
    (s.call X c).2.state.authority ∈ (s.call X c).2.state.peers := by
  obtain ⟨hmembers, hmove⟩ := call_move (X := X) s c
  exact hmembers.2 _ (hmove.mem_peers h)

/-- **Authority and epoch along every run.**  From a session whose authority is a member, after any
calls `before` and one more call `c`: the epoch is kept or grows by one; the authority is a member
before and after; a local authority is kept; at an unchanged epoch the authority changes only to a
smaller player, away from one unseen for the heartbeat timeout; and a received datagram raises the
epoch only when its sender nominates itself, the authority has been unseen for the heartbeat
timeout and the sender is the deterministic successor at that time. -/
theorem authority_safe_along_runs (X : Externals) (s₀ : M3SecureSession)
    (h : s₀.state.authority ∈ s₀.state.peers) (before : List Call) (c : Call) :
    let s := (Runs.run (call X) s₀ before).state
    let t := (Runs.run (call X) s₀ (before ++ [c])).state
    (t.authorityEpoch = s.authorityEpoch ∨ t.authorityEpoch.toNat = s.authorityEpoch.toNat + 1) ∧
      s.authority ∈ s.peers ∧ t.authority ∈ t.peers ∧
      (s.localPlayer = s.authority →
        t.authority = s.authority ∧ t.authorityEpoch = s.authorityEpoch) ∧
      (t.authorityEpoch = s.authorityEpoch → t.authority ≠ s.authority →
        t.authority < s.authority ∧
          ∃ nowMs, c.nowMs? = some nowMs ∧ s.Unseen nowMs s.authority) ∧
      (s.authorityEpoch < t.authorityEpoch →
        ∀ env source nodeKey nowMs installable, c = .accept env source nodeKey nowMs installable →
          env.payload.nominee = some env.sender ∧ s.Unseen nowMs s.authority ∧
            s.deterministicSuccessor nowMs = some env.sender) := by
  intro s t
  have hmem : s.authority ∈ s.peers :=
    Runs.run_invariant (P := fun s : M3SecureSession => s.state.authority ∈ s.state.peers)
      (fun _ c hs => call_authority_mem hs c) h before
  have ht : t = ((Runs.run (call X) s₀ before).call X c).2.state := by
    simp only [t, Runs.run_append, Runs.run_cons, Runs.run_nil]
  obtain ⟨hmembers, hmove⟩ := call_move (X := X) (Runs.run (call X) s₀ before) c
  rw [← ht] at hmembers hmove
  exact ⟨hmove.epoch_eq_or_succ, hmem, hmembers.2 _ (hmove.mem_peers hmem), hmove.eq_of_local hmem,
    hmove.smaller_of_same_epoch hmem,
    fun hraised _ _ _ _ _ hc => hmove.claim_of_raised hmem hraised hc⟩

/-- Player 2 tells player 3 after 1500 ms that it is there. -/
def heartbeatOfTwo : Call := referenceDelivery [1, 2, 3] 2 1 1 7 .heartbeat 1500

/-- Player 2 claims the next epoch when player 1 has been silent for 2000 ms. -/
def claimOfTwo : Call :=
  referenceDelivery [1, 2, 3] 2 2 2 7 (.authority (referencePlayer 2) 2) 2000

theorem claimOfTwo_raises :
    (Runs.run (call referenceExternals) (referenceSession [1, 2, 3] 3)
        [heartbeatOfTwo]).state.authorityEpoch
      < (Runs.run (call referenceExternals) (referenceSession [1, 2, 3] 3)
        ([heartbeatOfTwo] ++ [claimOfTwo])).state.authorityEpoch := by
  have hfirst : call referenceExternals (referenceSession [1, 2, 3] 3) heartbeatOfTwo = _ :=
    call_reference rfl (by decide) rfl
  have hsecond : call referenceExternals (call referenceExternals (referenceSession [1, 2, 3] 3)
      heartbeatOfTwo).2 claimOfTwo = _ := call_reference (roster_call ..) (by decide) rfl
  rw [Runs.run_append, Runs.run_cons, Runs.run_cons, Runs.run_nil, Runs.run_nil, hsecond, hfirst]
  decide +kernel

theorem authority_safe_along_runs_claim :
    let s := (Runs.run (call referenceExternals) (referenceSession [1, 2, 3] 3)
      [heartbeatOfTwo]).state
    s.Unseen 2000 s.authority ∧ s.deterministicSuccessor 2000 = some (referencePlayer 2) :=
  ((authority_safe_along_runs referenceExternals (referenceSession [1, 2, 3] 3) (by decide)
    [heartbeatOfTwo] claimOfTwo).2.2.2.2.2 claimOfTwo_raises _ _ _ _ _ rfl).2

end M3SecureSession

end Spurfire
