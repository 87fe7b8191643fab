import Spurfire.Net.Authority

/-!
# The presented match state along a run

An accepted match state reaches `acceptedMatchState` on two paths (`v2.rs`).  The fragment path
refuses a tick at or below the stored one; the path of a whole `MatchState` payload does not, and a
checkpoint of the installed authority clears what is stored.

* `storedBy`: the match state a call stores;
* `Forward`: the calls that use neither of the two gaps;
* `call_matchState`: what such a call does to the stored state while authority and epoch stay;
* **`matchState_forward_along_runs`**: along such calls the stored ticks strictly increase between
  two changes of authority or epoch.
-/

namespace Spurfire

/-- The payload is a match state, whole or in part. -/
def M3PeerPayloadV2.carriesMatchState : M3PeerPayloadV2 → Bool
  | .matchState _ | .matchStateFragment .. => true
  | _ => false

namespace M3SecureSession

variable {X : Externals} {s : M3SecureSession} {env : M3EnvelopeV2} {nowMs : UInt64}
  {installable : M3MatchCheckpointV2 → Bool}

def storedBy (X : Externals) (s : M3SecureSession) : Call → Option M5MatchStateV2
  | .accept env source nodeKey nowMs installable =>
    let answer := s.acceptWithSourceValidated X env source nodeKey nowMs installable
    if answer.1 = .accepted ∧ env.payload.carriesMatchState then
      answer.2.acceptedMatchState.map (·.2) else none
  | _ => none

/-- The pair that a change of authority or epoch changes. -/
def installed (s : M3SecureSession) : PlayerId × UInt64 := (s.state.authority, s.state.authorityEpoch)

def StoredBefore (s : M3SecureSession) (tick : SimulationTick) : Prop :=
  ∀ row, s.acceptedMatchState = some row → row.2.currentTick < tick

/-- A datagram of the installed authority that passes authentication and is no replay carries a
whole match state only when that is newer than the stored one, and completes a checkpoint only while
no match state is stored. -/
def Forward (X : Externals) (s : M3SecureSession) : Call → Prop
  | .accept env source nodeKey nowMs _ =>
    s.authenticate X env source nodeKey = none → env.sender = s.state.authority →
      s.state.lastSequence env.sender < env.sequence →
      match env.payload with
      | .matchState state => s.StoredBefore state.currentTick
      | .migrationFragment authority epoch hash index count _ =>
        ((s.openMigration nowMs authority epoch hash count).add index env).envelopes.size
          = count.toNat → s.acceptedMatchState = none
      | _ => True
  | _ => True

/-! ## The three admissions -/

/-- A direct payload stores its match state, changes the installed pair, or leaves what is stored. -/
theorem directCommit_matchState (s : M3SecureSession) (env : M3EnvelopeV2) (nowMs : UInt64)
    (snapshot : Option M3ActorSnapshot) :
    (∃ state, env.payload = .matchState state
        ∧ (s.directCommit env nowMs snapshot).acceptedMatchState = some (env.sequence, state))
      ∨ (s.directCommit env nowMs snapshot).installed ≠ s.installed
      ∨ (env.payload.carriesMatchState → env.payload.isMatchStateFragment)
        ∧ (s.directCommit env nowMs snapshot).acceptedMatchState = s.acceptedMatchState := by
  have hsnapshot (t : M3SecureSession) :
      (t.recordSnapshot env snapshot).acceptedMatchState = t.acceptedMatchState := by
    cases snapshot <;> rfl
  cases hpayload : env.payload with
  | matchState state =>
    refine .inl ⟨state, rfl, ?_⟩
    unfold directCommit recordMatchState
    rw [hpayload]
  | authority player epoch =>
    by_cases hwins : epoch > (s.touchDirect env nowMs).state.authorityEpoch
        ∨ (epoch = (s.touchDirect env nowMs).state.authorityEpoch
          ∧ player < (s.touchDirect env nowMs).state.authority)
    · refine .inr (.inl fun hpair => ?_)
      have hinstalled : (s.directCommit env nowMs snapshot).installed = (player, epoch) := by
        rw [installed, state_directCommit, hpayload, installClaim, if_pos hwins]
      rw [authority_touchDirect, authorityEpoch_touchDirect] at hwins
      obtain ⟨rfl, rfl⟩ := Prod.mk.inj (hinstalled.symm.trans hpair)
      rcases hwins with hlater | ⟨-, hsmaller⟩
      · exact UInt64.lt_irrefl _ hlater
      · exact lt_irrefl _ hsmaller
    · refine .inr (.inr ⟨fun h => absurd h Bool.false_ne_true, ?_⟩)
      unfold directCommit recordMatchState
      rw [hpayload, installClaim, if_neg hwins]
      exact hsnapshot _
  | matchStateFragment hash index count fragment =>
    refine .inr (.inr ⟨fun _ => rfl, ?_⟩)
    unfold directCommit recordMatchState installClaim
    rw [hpayload]
    exact hsnapshot _
  | _ =>
    refine .inr (.inr ⟨fun h => absurd h Bool.false_ne_true, ?_⟩)
    unfold directCommit recordMatchState installClaim
    rw [hpayload]
    exact hsnapshot _

/-- A completed fragment set stores a state of the tick of its envelopes, newer than the stored one. -/
theorem acceptMatchStateFragment_stores {hash : Vector UInt8 32} {index count : UInt16}
    (h : (s.acceptMatchStateFragment X env nowMs hash index count).1 = .accepted) :
    ∃ state, (s.acceptMatchStateFragment X env nowMs hash index count).2.acceptedMatchState
        = some (env.sequence, state) ∧ s.StoredBefore state.currentTick := by
  unfold acceptMatchStateFragment at h ⊢
  split_ifs at h ⊢ with hrole hold
  split
  · next hopen => simp [hopen] at h
  · next p hopen =>
    simp only [hopen] at h
    unfold bufferMatchState at h ⊢
    split_ifs at h ⊢ with hdup hsize
    unfold completeMatchState at h ⊢
    split
    · next hre => simp [hre] at h
    · next state hre =>
      simp only [hre] at h
      split_ifs at h ⊢ with hforeign hseq
      refine ⟨state, rfl, fun row hrow => ?_⟩
      have htick : state.currentTick = env.simulationTick := by
        by_contra hne
        exact hforeign (by simp [matchStateIsForeign, hne])
      rw [hrow, Option.any_some, decide_eq_true_iff, ge_iff_le, UInt64.not_le] at hold
      exact htick ▸ hold

/-- A completed checkpoint filled its buffer. -/
theorem acceptMigrationFragment_completes {authority : PlayerId} {epoch : UInt64}
    {hash : Vector UInt8 32} {index count : UInt16}
    (h : (s.acceptMigrationFragment X env nowMs installable authority epoch hash index
      count).1 = .accepted) :
    s.state.lastSequence env.sender < env.sequence
      ∧ ((s.openMigration nowMs authority epoch hash count).add index env).envelopes.size
        = count.toNat := by
  unfold acceptMigrationFragment at h
  split_ifs at h with hclaim hseq hconflict
  unfold bufferMigration at h
  split_ifs at h with hdup hsize
  exact ⟨UInt64.not_le.mp hseq, not_not.mp hsize⟩

/-! ## One call -/

/-- What a call did to a stored match state: nothing, or it stored a newer one. -/
structure MovedForward (X : Externals) (s : M3SecureSession) (c : Call) (tick : SimulationTick) :
    Prop where
  kept : ∃ row, (s.call X c).2.acceptedMatchState = some row ∧ tick ≤ row.2.currentTick
  newer : ∀ state, storedBy X s c = some state → tick < state.currentTick

theorem MovedForward.of_stored {c : Call} {tick : SimulationTick} {sequence : UInt64}
    {state : M5MatchStateV2}
    (hstored : (s.call X c).2.acceptedMatchState = some (sequence, state))
    (hnewer : tick < state.currentTick) (hwhich : ∀ st, storedBy X s c = some st → st = state) :
    MovedForward X s c tick where
  kept := ⟨_, hstored, UInt64.le_of_lt hnewer⟩
  newer := fun st hst => hwhich st hst ▸ hnewer

theorem MovedForward.of_kept {c : Call} {row : UInt64 × M5MatchStateV2}
    (hrow : s.acceptedMatchState = some row)
    (hkept : (s.call X c).2.acceptedMatchState = s.acceptedMatchState)
    (hnone : storedBy X s c = none) : MovedForward X s c row.2.currentTick where
  kept := ⟨row, hkept.trans hrow, UInt64.le_refl _⟩
  newer := by
    intro state hstate
    rw [hnone] at hstate
    cases hstate

theorem storedBy_accept {source : SocketAddr} {nodeKey : Option NodeKey} {state : M5MatchStateV2}
    (h : storedBy X s (.accept env source nodeKey nowMs installable) = some state) :
    (s.acceptWithSourceValidated X env source nodeKey nowMs installable).1 = .accepted
      ∧ env.payload.carriesMatchState
      ∧ ∃ sequence, (s.acceptWithSourceValidated X env source nodeKey nowMs
          installable).2.acceptedMatchState = some (sequence, state) := by
  unfold storedBy at h
  dsimp only at h
  split_ifs at h with hstores
  obtain ⟨⟨sequence, state'⟩, hrow, rfl⟩ := Option.map_eq_some_iff.mp h
  exact ⟨hstores.1, hstores.2, sequence, hrow⟩

theorem stored_after {c : Call} {state : M5MatchStateV2} (h : storedBy X s c = some state) :
    ∃ sequence, (s.call X c).2.acceptedMatchState = some (sequence, state) := by
  cases c with
  | accept =>
    obtain ⟨-, -, sequence, hrow⟩ := storedBy_accept h
    exact ⟨sequence, hrow⟩
  | _ => cases h

/-- The path an accepted datagram took. -/
theorem acceptAuthenticated_path
    (h : (s.acceptAuthenticated X env nowMs installable).1 = .accepted) :
    (∃ authority epoch hash index count fragment,
        env.payload = .migrationFragment authority epoch hash index count fragment
        ∧ s.acceptAuthenticated X env nowMs installable
          = s.acceptMigrationFragment X env nowMs installable authority epoch hash index count)
      ∨ (∃ hash index count fragment,
        env.payload = .matchStateFragment hash index count fragment
        ∧ s.acceptAuthenticated X env nowMs installable
          = s.acceptMatchStateFragment X env nowMs hash index count)
      ∨ (¬env.payload.isMatchStateFragment
        ∧ s.acceptAuthenticated X env nowMs installable = s.acceptDirect env nowMs) := by
  unfold acceptAuthenticated at h ⊢
  split_ifs at h ⊢
  cases hpayload : env.payload with
  | migrationFragment authority epoch hash index count fragment =>
    exact .inl ⟨_, _, _, _, _, _, rfl, rfl⟩
  | matchStateFragment hash index count fragment =>
    exact .inr (.inl ⟨_, _, _, _, rfl, rfl⟩)
  | _ => exact .inr (.inr ⟨Bool.false_ne_true, rfl⟩)

/-- A datagram that is not accepted stores nothing and leaves what is stored. -/
theorem movedForward_rejected {source : SocketAddr} {nodeKey : Option NodeKey}
    {row : UInt64 × M5MatchStateV2}
    (hrejected :
      (s.acceptWithSourceValidated X env source nodeKey nowMs installable).1 ≠ .accepted)
    (hrow : s.acceptedMatchState = some row) :
    MovedForward X s (.accept env source nodeKey nowMs installable) row.2.currentTick := by
  refine .of_kept hrow ?_ ?_
  · change (s.acceptWithSourceValidated X env source nodeKey nowMs
      installable).2.acceptedMatchState = s.acceptedMatchState
    rw [(acceptWithSourceValidated_rejected hrejected).same]
  · unfold storedBy
    exact if_neg fun hstores => hrejected hstores.1

/-- A datagram that stores `state` over an older one moves forward. -/
theorem movedForward_stored {source : SocketAddr} {nodeKey : Option NodeKey}
    {row : UInt64 × M5MatchStateV2} {sequence : UInt64} {state : M5MatchStateV2}
    (hstored : (s.acceptWithSourceValidated X env source nodeKey nowMs
      installable).2.acceptedMatchState = some (sequence, state))
    (hbefore : s.StoredBefore state.currentTick) (hrow : s.acceptedMatchState = some row) :
    MovedForward X s (.accept env source nodeKey nowMs installable) row.2.currentTick := by
  refine .of_stored hstored (hbefore row hrow) fun st hst => ?_
  obtain ⟨-, -, sequence', hst'⟩ := storedBy_accept hst
  rw [hstored] at hst'
  exact (Prod.mk.inj (Option.some.inj hst')).2.symm

/-- A checkpoint that keeps the installed pair is one of the installed authority. -/
theorem sender_of_reinstalled {t : M3SecureSession} (h : Admitted X s env nowMs installable t)
    (hfragment : env.payload.isMigrationFragment) (hpair : t.installed = s.installed) :
    env.sender = s.state.authority := by
  cases h with
  | direct _ hdirect => exact absurd hfragment hdirect
  | matchState hpayload =>
    rw [hpayload] at hfragment
    exact absurd hfragment Bool.false_ne_true
  | migration _ _ _ _ hcoherent =>
    obtain ⟨rfl, -⟩ := SessionState.coherent_cases hcoherent
    exact (Prod.mk.inj hpair).1

theorem movedForward_accept {source : SocketAddr} {nodeKey : Option NodeKey}
    {row : UInt64 × M5MatchStateV2}
    (hforward : Forward X s (.accept env source nodeKey nowMs installable))
    (hpair : (s.call X (.accept env source nodeKey nowMs installable)).2.installed = s.installed)
    (hrow : s.acceptedMatchState = some row) :
    MovedForward X s (.accept env source nodeKey nowMs installable) row.2.currentTick := by
  by_cases haccepted :
      (s.acceptWithSourceValidated X env source nodeKey nowMs installable).1 = .accepted
  swap
  · exact movedForward_rejected haccepted hrow
  obtain ⟨hauth, -, -, hadmitted⟩ := acceptWithSourceValidated_accepted haccepted
  have hsplit : s.acceptWithSourceValidated X env source nodeKey nowMs installable
      = s.acceptAuthenticated X env nowMs installable := by
    rw [acceptWithSourceValidated, hauth]
  have hforward := hforward hauth
  rw [hsplit] at haccepted
  rcases acceptAuthenticated_path haccepted with
    ⟨authority, epoch, hash, index, count, fragment, hpayload, hpath⟩
    | ⟨hash, index, count, fragment, hpayload, hpath⟩ | ⟨hfragment, hpath⟩
  · -- a completed checkpoint of the installed authority finds no stored match state
    rw [hpath] at haccepted
    obtain ⟨hsequence, hfull⟩ := acceptMigrationFragment_completes haccepted
    have hsender := sender_of_reinstalled hadmitted (by rw [hpayload]; rfl) hpair
    have hnone := hforward hsender hsequence
    rw [hpayload] at hnone
    rw [hnone hfull] at hrow
    cases hrow
  · rw [hpath] at haccepted
    obtain ⟨state, hstored, hbefore⟩ := acceptMatchStateFragment_stores haccepted
    exact movedForward_stored (by rw [hsplit, hpath]; exact hstored) hbefore hrow
  · rw [hpath] at haccepted
    unfold acceptDirect at haccepted hpath
    cases hgate : s.directGate env nowMs with
    | error outcome =>
      rw [hgate] at haccepted
      obtain rfl : outcome = .accepted := haccepted
      exact absurd hgate directGate_ne_accepted
    | ok snapshot =>
      rw [hgate] at hpath
      have hguards := directGate_ok hgate
      rcases directCommit_matchState s env nowMs snapshot with
        ⟨state, hpayload, hstored⟩ | hchanged | ⟨hcarries, hkept⟩
      · have hbefore := hforward (hguards.role (by rw [hpayload]; rfl)) hguards.sequence
        rw [hpayload] at hbefore
        exact movedForward_stored (by rw [hsplit, hpath]; exact hstored) hbefore hrow
      · refine absurd ?_ hchanged
        rw [← hpair]
        change _ = (s.acceptWithSourceValidated X env source nodeKey nowMs installable).2.installed
        rw [hsplit, hpath]
      · refine .of_kept hrow ?_ ?_
        · change (s.acceptWithSourceValidated X env source nodeKey nowMs
            installable).2.acceptedMatchState = s.acceptedMatchState
          rw [hsplit, hpath]
          exact hkept
        · unfold storedBy
          exact if_neg fun hstores => hfragment (hcarries hstores.2)

/-- **One call of a forward run** over a stored match state, while authority and epoch stay. -/
theorem call_matchState {c : Call} {row : UInt64 × M5MatchStateV2} (hforward : Forward X s c)
    (hpair : (s.call X c).2.installed = s.installed) (hrow : s.acceptedMatchState = some row) :
    MovedForward X s c row.2.currentTick := by
  cases c with
  | envelope tick payload signingKey =>
    refine .of_kept hrow ?_ rfl
    change (s.envelope X tick payload signingKey).2.acceptedMatchState = s.acceptedMatchState
    obtain ⟨error, h⟩ | ⟨sent, env, -, -, -, -, h⟩ := envelope_cases X s tick payload signingKey
    · rw [h]
    · rw [h]
      unfold afterSend rememberKeyframe
      split <;> rfl
  | accept env source nodeKey nowMs installable => exact movedForward_accept hforward hpair hrow
  | expireAndMigrate nowMs =>
    refine .of_kept hrow ?_ rfl
    change (s.expireAndMigrate nowMs).2.acceptedMatchState = s.acceptedMatchState
    change (s.expireAndMigrate nowMs).2.installed = s.installed at hpair
    rw [installed, state_expireAndMigrate] at hpair
    unfold expireAndMigrate
    dsimp only
    by_cases hmigrated : (s.state.expireAndMigrate nowMs).1.isSome
    · -- a succession raises the epoch
      have hnext := SessionState.next_of_migrated hmigrated
      rw [(Prod.mk.inj hpair).2] at hnext
      exact absurd (UInt64.lt_of_checkedAdd_one hnext) (UInt64.lt_irrefl _)
    · rw [if_neg hmigrated]
  | configureMigrationElection response =>
    refine .of_kept hrow ?_ rfl
    change (s.configureMigrationElection response).2.acceptedMatchState = s.acceptedMatchState
    unfold configureMigrationElection
    dsimp only
    repeat' split
    all_goals rfl
  | takeInstalledCheckpoint => exact .of_kept hrow rfl rfl

/-! ## Along runs -/

/-- From a stored match state, later stores are newer while authority and epoch stay. -/
theorem forward_to {tick : SimulationTick} {b : M5MatchStateV2} {mid : List Call} {d : Call}
    (hstored : ∃ row, s.acceptedMatchState = some row ∧ tick ≤ row.2.currentTick)
    (hforward : Runs.Along (call X) (Forward X) s (mid ++ [d]))
    (hpair : ∀ part, part <+: mid ++ [d] → (Runs.run (call X) s part).installed = s.installed)
    (hb : storedBy X (Runs.run (call X) s mid) d = some b) : tick < b.currentTick := by
  induction mid generalizing s with
  | nil =>
    obtain ⟨row, hrow, htick⟩ := hstored
    have hmoved := call_matchState hforward.1 (hpair [d] List.prefix_rfl) hrow
    exact UInt64.lt_of_le_of_lt htick (hmoved.newer b hb)
  | cons c mid ih =>
    obtain ⟨row, hrow, htick⟩ := hstored
    have hstep : (s.call X c).2.installed = s.installed :=
      hpair [c] (List.prefix_append [c] (mid ++ [d]))
    have hmoved := call_matchState hforward.1 hstep hrow
    obtain ⟨row', hrow', htick'⟩ := hmoved.kept
    refine ih ⟨row', hrow', UInt64.le_trans htick htick'⟩ hforward.2 (fun part hpart => ?_) hb
    have hlater := hpair (c :: part) (List.cons_prefix_cons.mpr ⟨rfl, hpart⟩)
    exact hlater.trans hstep.symm

/-- **The presented match state never runs backwards inside an epoch.**  Along calls which use
neither gap, a state stored later, with no change of authority or epoch between, has a later tick. -/
theorem matchState_forward_along_runs (X : Externals) (s₀ : M3SecureSession)
    (before : List Call) (c : Call) (mid : List Call) (d : Call)
    (hforward : Runs.Along (call X) (Forward X) s₀ (before ++ c :: (mid ++ [d])))
    {a b : M5MatchStateV2} (ha : storedBy X (Runs.run (call X) s₀ before) c = some a)
    (hb : storedBy X (Runs.run (call X) s₀ (before ++ c :: mid)) d = some b)
    (hpair : ∀ part, part <+: mid ++ [d] →
      (Runs.run (call X) s₀ (before ++ c :: part)).installed
        = (Runs.run (call X) s₀ (before ++ [c])).installed) :
    a.currentTick < b.currentTick := by
  simp only [Runs.run_append, Runs.run_cons, Runs.run_nil] at hb hpair
  have hstored : ∃ row, ((Runs.run (call X) s₀ before).call X c).2.acceptedMatchState = some row
      ∧ a.currentTick ≤ row.2.currentTick := by
    obtain ⟨sequence, hrow⟩ := stored_after ha
    exact ⟨_, hrow, UInt64.le_refl _⟩
  exact forward_to hstored (Runs.Along.append.mp hforward).2.2 hpair hb

/-! ### Two keyframes of one authority -/

/-- A running match of one player at `tick`. -/
def keyframeAt (tick : SimulationTick) : M5MatchStateV2 where
  authorityEpoch := 1
  lobbySeed := 7
  currentTick := tick
  endTick := 54000
  players := [{ playerId := referencePlayer 1, score := 0, eliminations := 0, assists := 0,
                deaths := 0, alive := true, respawnAtTick := none,
                respawnSpeedBuffEndTick := none, horseBuffEndTick := none,
                scoreBreakdown := none }]
  activeReveal := none
  activeObjective := none
  finished := false
  winner := none

/-- Player 1, the authority, tells player 2 the whole match state at `tick`. -/
def keyframeDelivery (sequence : UInt64) (tick : SimulationTick) : Call :=
  referenceDelivery [1, 2] 1 sequence 1 tick (.matchState (keyframeAt tick)) 50

theorem storedBy_reference {sequence : UInt64} {tick : SimulationTick}
    (hs : s.roster = referenceRoster [1, 2])
    (hvalid : (M3PeerPayloadV2.matchState (keyframeAt tick)).isValid) :
    storedBy referenceExternals s (keyframeDelivery sequence tick)
      = if (s.acceptAuthenticated referenceExternals (referenceEnvelope [1, 2] 1 sequence 1 tick
            (.matchState (keyframeAt tick))) 50 fun _ => true).1 = .accepted then
          (s.acceptAuthenticated referenceExternals (referenceEnvelope [1, 2] 1 sequence 1 tick
            (.matchState (keyframeAt tick))) 50 fun _ => true).2.acceptedMatchState.map (·.2)
        else none := by
  have hauth : s.authenticate referenceExternals (referenceEnvelope [1, 2] 1 sequence 1 tick
      (.matchState (keyframeAt tick))) (referenceAddress 1) none = none :=
    referenceEnvelope_authentic hs (by decide) hvalid
  simp only [keyframeDelivery, referenceDelivery, storedBy, acceptWithSourceValidated, hauth]
  exact if_congr (and_iff_left rfl) rfl rfl

/-- Two keyframes delivered one after the other, in either order, are both stored under the same
pair. -/
theorem keyframes_stored {first second : SimulationTick}
    (hticks : first = 5 ∧ second = 10 ∨ first = 10 ∧ second = 5) :
    storedBy referenceExternals (referenceSession [1, 2] 2) (keyframeDelivery 1 first)
        = some (keyframeAt first)
      ∧ storedBy referenceExternals
          ((referenceSession [1, 2] 2).call referenceExternals (keyframeDelivery 1 first)).2
          (keyframeDelivery 2 second) = some (keyframeAt second)
      ∧ (((referenceSession [1, 2] 2).call referenceExternals (keyframeDelivery 1 first)).2.call
          referenceExternals (keyframeDelivery 2 second)).2.installed
        = ((referenceSession [1, 2] 2).call referenceExternals
          (keyframeDelivery 1 first)).2.installed := by
  obtain ⟨hleft, hright⟩ : (M3PeerPayloadV2.matchState (keyframeAt first)).isValid
      ∧ (M3PeerPayloadV2.matchState (keyframeAt second)).isValid := by
    rcases hticks with ⟨rfl, rfl⟩ | ⟨rfl, rfl⟩ <;> decide +kernel
  have hfirst : call referenceExternals (referenceSession [1, 2] 2) (keyframeDelivery 1 first) = _ :=
    call_reference rfl (by decide) hleft
  have hsecond : call referenceExternals (call referenceExternals (referenceSession [1, 2] 2)
      (keyframeDelivery 1 first)).2 (keyframeDelivery 2 second) = _ :=
    call_reference (roster_call ..) (by decide) hright
  refine ⟨?_, ?_, ?_⟩
  · rw [storedBy_reference rfl hleft]
    rcases hticks with ⟨rfl, rfl⟩ | ⟨rfl, rfl⟩ <;> decide +kernel
  · rw [storedBy_reference (roster_call ..) hright, hfirst]
    rcases hticks with ⟨rfl, rfl⟩ | ⟨rfl, rfl⟩ <;> decide +kernel
  · rw [hsecond, hfirst]
    rcases hticks with ⟨rfl, rfl⟩ | ⟨rfl, rfl⟩ <;> decide +kernel

/-- The pair stays over every part of a run of one call that keeps it. -/
theorem installed_before {X : Externals} {s : M3SecureSession} {d : Call}
    (h : (s.call X d).2.installed = s.installed) (part : List Call) (hpart : part <+: [d]) :
    (Runs.run (call X) s part).installed = s.installed := by
  rw [List.prefix_cons_iff] at hpart
  rcases hpart with rfl | ⟨rest, rfl, hrest⟩
  · rfl
  · rw [List.prefix_nil.mp hrest]
    exact h

/-- The two keyframes in the order of their ticks. -/
theorem matchState_forward_keyframes : (keyframeAt 5).currentTick < (keyframeAt 10).currentTick := by
  obtain ⟨hfirst, hsecond, hinstalled⟩ := keyframes_stored (.inl ⟨rfl, rfl⟩)
  have hbefore : ((referenceSession [1, 2] 2).call referenceExternals
      (keyframeDelivery 1 5)).2.StoredBefore (keyframeAt 10).currentTick := by
    intro row hrow
    obtain ⟨sequence, hstored⟩ := stored_after hfirst
    have hsame : row = (sequence, keyframeAt 5) := Option.some.inj (hrow.symm.trans hstored)
    rw [hsame]
    exact (by decide : (keyframeAt 5).currentTick < (keyframeAt 10).currentTick)
  have hforward : Runs.Along (call referenceExternals) (Forward referenceExternals)
      (referenceSession [1, 2] 2) [keyframeDelivery 1 5, keyframeDelivery 2 10] :=
    ⟨fun _ _ _ row hrow => (nomatch hrow), fun _ _ _ => hbefore, trivial⟩
  have hrule (s : M3SecureSession) (c d : Call) {a b : M5MatchStateV2}
      (hcalls : Runs.Along (call referenceExternals) (Forward referenceExternals) s [c, d])
      (ha : storedBy referenceExternals s c = some a)
      (hb : storedBy referenceExternals (s.call referenceExternals c).2 d = some b)
      (hpair : ((s.call referenceExternals c).2.call referenceExternals d).2.installed
        = (s.call referenceExternals c).2.installed) : a.currentTick < b.currentTick :=
    matchState_forward_along_runs referenceExternals s [] c [] d hcalls ha hb
      (installed_before hpair)
  exact hrule _ _ _ hforward hfirst hsecond hinstalled

/-- In every run, what is stored later under the same authority and epoch is newer. -/
def PresentsForward (X : Externals) (s₀ : M3SecureSession) : Prop :=
  ∀ (before : List Call) (c : Call) (mid : List Call) (d : Call) (a b : M5MatchStateV2),
    storedBy X (Runs.run (call X) s₀ before) c = some a →
    storedBy X (Runs.run (call X) s₀ (before ++ c :: mid)) d = some b →
    (∀ part, part <+: mid ++ [d] → (Runs.run (call X) s₀ (before ++ c :: part)).installed
      = (Runs.run (call X) s₀ (before ++ [c])).installed) →
    a.currentTick < b.currentTick

theorem PresentsForward.two {X : Externals} {s : M3SecureSession} (h : PresentsForward X s)
    {c d : Call} {a b : M5MatchStateV2} (ha : storedBy X s c = some a)
    (hb : storedBy X (s.call X c).2 d = some b)
    (hpair : ((s.call X c).2.call X d).2.installed = (s.call X c).2.installed) :
    a.currentTick < b.currentTick :=
  h [] c [] d a b ha hb (installed_before hpair)

/-- A whole keyframe of an older tick replaces a newer one at the same authority and epoch. -/
theorem matchState_not_always_forward :
    ¬∀ (X : Externals) (manifest : RosterManifest) (key : SessionPublicKey)
      (signature : SessionSignature) (state : SessionState) (s₀ : M3SecureSession),
      new X manifest key signature state = .ok s₀ → PresentsForward X s₀ := by
  intro hall
  obtain ⟨hfirst, hsecond, hinstalled⟩ := keyframes_stored (.inr ⟨rfl, rfl⟩)
  have hvalid : (referenceManifest [1, 2]).validate = .ok () := by decide +kernel
  have hforward := hall _ _ _ _ _ _ (new_reference 2 hvalid)
  have hless := hforward.two hfirst hsecond hinstalled
  exact absurd hless (by decide : ¬(keyframeAt 10).currentTick < (keyframeAt 5).currentTick)

end M3SecureSession

end Spurfire
