import Spurfire.Net.Replay

/-!
# Shot results and their receipts

A shot result is applied once per receipt, and a receipt is keyed by the epoch of the envelope, the
shooter and the tick.  A receipt that a migration checkpoint brings along is stored under the epoch
before the migration, but results are looked up under the current one.  So at-most-once for
`(shooter, tick)` holds in exactly those runs in which no deliverable result meets a receipt of its
shot under other epochs only (`ReceiptsLineUp`), and fails across a migration otherwise.
-/

namespace Spurfire

namespace M3SecureSession

variable {X : Externals} {s t : M3SecureSession} {env : M3EnvelopeV2} {nowMs : UInt64}
  {installable : M3MatchCheckpointV2 → Bool}

/-! ## The receipt set only grows -/

theorem applied_directCommit (snapshot : Option M3ActorSnapshot) :
    (s.directCommit env nowMs snapshot).state.appliedShotResults
      = (s.touchDirect env nowMs).state.appliedShotResults := by
  rw [state_directCommit]
  unfold installClaim
  split
  · split_ifs <;> rfl
  · rfl

theorem subset_applied_touchDirect :
    s.state.appliedShotResults ⊆ (s.touchDirect env nowMs).state.appliedShotResults := by
  unfold touchDirect
  cases receiptOf env with
  | none => exact subset_rfl
  | some receipt => exact Finset.subset_insert _ _

theorem mem_applied_touchDirect {receipt : UInt64 × PlayerId × UInt64}
    (h : receiptOf env = some receipt) :
    receipt ∈ (s.touchDirect env nowMs).state.appliedShotResults := by
  unfold touchDirect
  rw [h]
  exact Finset.mem_insert_self _ _

theorem subset_applied_admitted (h : Admitted X s env nowMs installable t) :
    s.state.appliedShotResults ⊆ t.state.appliedShotResults := by
  cases h with
  | direct =>
    rw [applied_directCommit]
    exact subset_applied_touchDirect
  | matchState => exact subset_rfl
  | migration => exact Finset.subset_union_left

theorem subset_applied_call (s : M3SecureSession) (c : Call) :
    s.state.appliedShotResults ⊆ (s.call X c).2.state.appliedShotResults := by
  rcases call_kept (X := X) s c with ⟨env, source, nodeKey, nowMs, installable, rfl, h⟩ | ⟨h, -⟩
  · exact subset_applied_admitted (acceptWithSourceValidated_accepted h).2.2.2
  · rw [h]

/-! ## Applying a result, installing a checkpoint -/

/-- The call applies a result of the shot `(shooter, tick)`. -/
inductive Applies (X : Externals) (s : M3SecureSession) : Call → PlayerId × UInt64 → Prop
  | intro {env result source nodeKey nowMs installable}
      (accepted : (s.acceptWithSourceValidated X env source nodeKey nowMs installable).1
        = .accepted)
      (payload : env.payload = .shotResult result) :
      Applies X s (.accept env source nodeKey nowMs installable)
        (result.shooterPeerId, result.tick)

/-- The call installs a migration checkpoint that lists the shot `(shooter, tick)`. -/
inductive InstallsReceipt (X : Externals) (s : M3SecureSession) : Call → PlayerId × UInt64 → Prop
  | intro {env source nodeKey nowMs installable checkpoint shot}
      (accepted : (s.acceptWithSourceValidated X env source nodeKey nowMs installable).1
        = .accepted)
      (isFragment : env.payload.isMigrationFragment)
      (installed : (s.acceptWithSourceValidated X env source nodeKey nowMs
        installable).2.installedCheckpoint = some checkpoint)
      (listed : shot ∈ checkpoint.combat.resolvedShots) :
      InstallsReceipt X s (.accept env source nodeKey nowMs installable) shot

/-- A receipt of the shot is stored, under whatever epoch. -/
def Receipted (s : M3SecureSession) (shot : PlayerId × UInt64) : Prop :=
  ∃ epoch, (epoch, shot.1, shot.2) ∈ s.state.appliedShotResults

/-- A shot result that passes every check but the one for duplicates: authentic, from the current
authority at the current epoch, about a member's shot of its own tick, and above the window. -/
structure Deliverable (X : Externals) (s : M3SecureSession) (env : M3EnvelopeV2)
    (result : ShotResult) (source : SocketAddr) (nodeKey : Option NodeKey) : Prop where
  authentic : s.authenticate X env source nodeKey = none
  lobby : env.lobbyId = s.state.lobbyId
  epoch : env.authorityEpoch = s.state.authorityEpoch
  member : env.sender ∈ s.state.peers
  sender : env.sender = s.state.authority
  tick : result.tick = env.simulationTick
  shooter : result.shooterPeerId ∈ s.state.peers
  sequence : s.state.lastSequence env.sender < env.sequence

/-- When the call delivers a result of a shot that has a receipt, there is one under the epoch of
the envelope. -/
def ReceiptsLineUp (X : Externals) (s : M3SecureSession) (c : Call) : Prop :=
  ∀ env source nodeKey nowMs installable result,
    c = .accept env source nodeKey nowMs installable → env.payload = .shotResult result →
      Deliverable X s env result source nodeKey →
        s.Receipted (result.shooterPeerId, result.tick) →
          (env.authorityEpoch, result.shooterPeerId, result.tick) ∈ s.state.appliedShotResults

/-- A shot result is accepted when it is deliverable and has no receipt under its own epoch. -/
theorem accepted_shotResult_iff {result : ShotResult} {source : SocketAddr}
    {nodeKey : Option NodeKey} (payload : env.payload = .shotResult result) :
    (s.acceptWithSourceValidated X env source nodeKey nowMs installable).1 = .accepted ↔
      Deliverable X s env result source nodeKey ∧
        (env.authorityEpoch, result.shooterPeerId, result.tick) ∉ s.state.appliedShotResults := by
  constructor
  · intro accepted
    obtain ⟨hauth, -, hmember, hadm⟩ := acceptWithSourceValidated_accepted accepted
    have hlobby := lobby_of_accepted accepted
    generalize (s.acceptWithSourceValidated X env source nodeKey nowMs installable).2 = u at hadm
    cases hadm with
    | direct _ _ gate =>
      have hguards := directGate_ok gate
      have hepoch : env.authorityEpoch = s.state.authorityEpoch := by
        simpa [payload, isAuthorityClaim] using hguards.epoch
      have hsubject := hguards.subject
      simp only [subjectIsInvalid, payload, Bool.or_eq_true, bne_iff_ne, ne_eq, Bool.not_eq_true',
        not_or, not_not, Bool.not_eq_false] at hsubject
      exact ⟨⟨hauth, hlobby, hepoch, hmember, hguards.role (by simp [payload, isAuthorityOnly]),
        hsubject.1, hsubject.2, hguards.sequence⟩, hguards.receipt _ (by simp [receiptOf, payload])⟩
    | matchState hpayload => cases payload.symm.trans hpayload
    | migration hpayload => cases payload.symm.trans hpayload
  · rintro ⟨⟨hauth, hlobby, hepoch, hmember, hsender, htick, hshooter, hsequence⟩, hreceipt⟩
    rw [Std.ExtTreeMap.mem_iff_contains] at hmember hshooter
    rw [hsender] at hsequence
    rw [hepoch, htick] at hreceipt
    have hgate : s.directGate env nowMs = .ok none := by
      simp [directGate, payload, hepoch, isAuthorityClaim, isAuthorityOnly, hsender,
        subjectIsInvalid, htick, hshooter, reconstruct, receiptOf, hreceipt, claimIsIncoherent,
        UInt64.not_le.mpr hsequence]
    simp [acceptWithSourceValidated, hauth, acceptAuthenticated, hlobby, hepoch, hmember, payload,
      acceptDirect, hgate, UInt64.lt_irrefl]

theorem Receipted.call {shot : PlayerId × UInt64} (h : s.Receipted shot) (c : Call) :
    (s.call X c).2.Receipted shot := by
  obtain ⟨epoch, hmem⟩ := h
  exact ⟨epoch, subset_applied_call s c hmem⟩

theorem not_receipted_of_applies {c : Call} {shot : PlayerId × UInt64}
    (hc : ReceiptsLineUp X s c) (h : Applies X s c shot) : ¬ s.Receipted shot := by
  cases h with
  | intro accepted payload =>
    obtain ⟨hdeliverable, hreceipt⟩ := (accepted_shotResult_iff payload).mp accepted
    intro hreceipted
    exact hreceipt (hc _ _ _ _ _ _ rfl payload hdeliverable hreceipted)

theorem receipted_of_applies {c : Call} {shot : PlayerId × UInt64} (h : Applies X s c shot) :
    (s.call X c).2.Receipted shot := by
  cases h with
  | @intro env result source nodeKey nowMs installable accepted payload =>
    obtain ⟨-, -, -, hadm⟩ := acceptWithSourceValidated_accepted accepted
    refine ⟨env.authorityEpoch, ?_⟩
    change _ ∈ (s.acceptWithSourceValidated X env source nodeKey nowMs
      installable).2.state.appliedShotResults
    generalize (s.acceptWithSourceValidated X env source nodeKey nowMs installable).2 = u at hadm ⊢
    cases hadm with
    | direct _ _ gate =>
      rw [applied_directCommit]
      exact mem_applied_touchDirect (by simp [receiptOf, payload])
    | matchState hpayload => cases payload.symm.trans hpayload
    | migration hpayload => cases payload.symm.trans hpayload

theorem applies_of_mem_touchDirect {source : SocketAddr} {nodeKey : Option NodeKey} {epoch : UInt64}
    {shot : PlayerId × UInt64}
    (accepted : (s.acceptWithSourceValidated X env source nodeKey nowMs installable).1 = .accepted)
    (hold : (epoch, shot.1, shot.2) ∉ s.state.appliedShotResults)
    (h : (epoch, shot.1, shot.2) ∈ (s.touchDirect env nowMs).state.appliedShotResults) :
    Applies X s (.accept env source nodeKey nowMs installable) shot := by
  unfold touchDirect at h
  cases hof : receiptOf env with
  | none =>
    simp only [hof] at h
    exact absurd h hold
  | some receipt =>
    simp only [hof] at h
    rcases Finset.mem_insert.mp h with rfl | h
    · unfold receiptOf at hof
      split at hof
      · next result payload =>
        obtain ⟨-, rfl⟩ : env.authorityEpoch = epoch ∧ (result.shooterPeerId, result.tick) = shot := by
          simpa using hof
        exact .intro accepted payload
      · cases hof
    · exact absurd h hold

theorem receipted_of_installs {c : Call} {shot : PlayerId × UInt64}
    (h : InstallsReceipt X s c shot) : (s.call X c).2.Receipted shot := by
  cases h with
  | @intro env source nodeKey nowMs installable checkpoint shot accepted isFragment installed listed =>
    obtain ⟨-, -, -, hadm⟩ := acceptWithSourceValidated_accepted accepted
    refine ⟨checkpoint.combat.sourceEpoch, ?_⟩
    change _ ∈ (s.acceptWithSourceValidated X env source nodeKey nowMs
      installable).2.state.appliedShotResults
    generalize (s.acceptWithSourceValidated X env source nodeKey nowMs installable).2 = u
      at hadm installed ⊢
    cases hadm with
    | direct _ hnot => exact absurd isFragment hnot
    | matchState hpayload => rw [hpayload] at isFragment; cases isFragment
    | migration =>
      cases installed
      refine Finset.mem_union_right _ ?_
      rw [List.mem_toFinset]
      exact List.mem_map.mpr ⟨shot, listed, rfl⟩

/-- A receipt that a call adds comes from a result it applies or a checkpoint it installs. -/
theorem applies_or_installs {c : Call} {shot : PlayerId × UInt64} (hnot : ¬ s.Receipted shot)
    (h : (s.call X c).2.Receipted shot) : Applies X s c shot ∨ InstallsReceipt X s c shot := by
  obtain ⟨epoch, hmem⟩ := h
  have hold : (epoch, shot.1, shot.2) ∉ s.state.appliedShotResults := fun hm => hnot ⟨epoch, hm⟩
  rcases call_kept (X := X) s c with ⟨env, source, nodeKey, nowMs, installable, rfl, h⟩ | ⟨h, -⟩
  · change _ ∈ (s.acceptWithSourceValidated X env source nodeKey nowMs
      installable).2.state.appliedShotResults at hmem
    have hadm := (acceptWithSourceValidated_accepted h).2.2.2
    generalize hu : (s.acceptWithSourceValidated X env source nodeKey nowMs installable).2 = u
      at hadm hmem
    cases hadm with
    | direct =>
      rw [applied_directCommit] at hmem
      exact .inl (applies_of_mem_touchDirect h hold hmem)
    | matchState => exact absurd hmem hold
    | @migration hash index count fragment p authority checkpoint _ _ _ payload =>
      rcases Finset.mem_union.mp hmem with hmem | hmem
      · exact absurd hmem hold
      · obtain ⟨listed, hlisted, heq⟩ := List.mem_map.mp (List.mem_toFinset.mp hmem)
        obtain rfl : listed = shot := Prod.ext (congrArg (·.2.1) heq) (congrArg (·.2.2) heq)
        refine .inr (.intro h (by rw [payload]; rfl) ?_ hlisted)
        rw [hu]
  · rw [h] at hmem
    exact absurd hmem hold

/-- From a session without receipts, every receipt goes back to a call of the run. -/
theorem receipted_run {s₀ : M3SecureSession} (hs : s₀.state.appliedShotResults = ∅)
    (cs : List Call) {shot : PlayerId × UInt64} (h : (Runs.run (call X) s₀ cs).Receipted shot) :
    ∃ before a after, cs = before ++ a :: after ∧
      (Applies X (Runs.run (call X) s₀ before) a shot ∨
        InstallsReceipt X (Runs.run (call X) s₀ before) a shot) := by
  induction cs using List.reverseRecOn with
  | nil =>
    obtain ⟨epoch, hmem⟩ := h
    simp [hs] at hmem
  | append_singleton cs c ih =>
    by_cases hbefore : (Runs.run (call X) s₀ cs).Receipted shot
    · obtain ⟨before, a, after, rfl, hfirst⟩ := ih hbefore
      exact ⟨before, a, after ++ [c], by simp, hfirst⟩
    · rw [Runs.run_append] at h
      exact ⟨cs, c, [], rfl, applies_or_installs hbefore h⟩

/-- In this run no shot is applied after it has been applied or listed by an installed
checkpoint. -/
def AppliesOnce (X : Externals) (s₀ : M3SecureSession) (cs : List Call) : Prop :=
  ∀ before a mid b after, cs = before ++ (a :: mid ++ [b]) ++ after →
    ∀ shot, Applies X (Runs.run (call X) s₀ before) a shot ∨
        InstallsReceipt X (Runs.run (call X) s₀ before) a shot →
      ¬ Applies X (Runs.run (call X) ((Runs.run (call X) s₀ before).call X a).2 mid) b shot

theorem appliesOnce_of_lineUp {s₀ : M3SecureSession} {cs : List Call}
    (h : Runs.Along (call X) (ReceiptsLineUp X) s₀ cs) : AppliesOnce X s₀ cs := by
  rintro before a mid b after rfl shot hfirst
  obtain ⟨-, -, hrest⟩ := Runs.Along.append.mp (Runs.Along.append.mp h).1
  have hspent : ((Runs.run (call X) s₀ before).call X a).2.Receipted shot :=
    hfirst.elim receipted_of_applies receipted_of_installs
  exact Runs.not_used_of_spent (I := fun _ => True) (U := Applies X) (S := Receipted)
    (fun _ _ _ _ => trivial) (fun _ c _ _ _ hx => hx.call c)
    (fun _ _ _ hc _ huse => not_receipted_of_applies hc huse) trivial hspent hrest

theorem lineUp_of_appliesOnce {s₀ : M3SecureSession} (hs : s₀.state.appliedShotResults = ∅)
    {cs : List Call} (h : AppliesOnce X s₀ cs) :
    Runs.Along (call X) (ReceiptsLineUp X) s₀ cs := by
  induction cs using List.reverseRecOn with
  | nil => trivial
  | append_singleton cs c ih =>
    refine Runs.Along.append.mpr ⟨ih ?_, ?_, trivial⟩
    · rintro before a mid b after rfl
      exact h before a mid b (after ++ [c]) (by simp)
    · rintro env source nodeKey nowMs installable result rfl payload hdeliverable hreceipted
      by_contra hmissing
      -- the receipt under another epoch goes back to an earlier call, and `c` applies the shot again
      obtain ⟨before, a, mid, rfl, hfirst⟩ := receipted_run hs cs hreceipted
      refine h before a mid (.accept env source nodeKey nowMs installable) [] (by simp) _ hfirst ?_
      rw [Runs.run_append] at hdeliverable hmissing
      exact .intro ((accepted_shotResult_iff payload).mpr ⟨hdeliverable, hmissing⟩) payload

/-- **Shot results are applied at most once in a run if and only if its receipts line up**: in a
run from a session without receipts, no shot is applied after it has been applied or listed by an
installed checkpoint, exactly when every deliverable result of a receipted shot finds a receipt
under its own epoch. -/
theorem shot_applied_once_iff (X : Externals) (s₀ : M3SecureSession)
    (hs : s₀.state.appliedShotResults = ∅) (cs : List Call) :
    AppliesOnce X s₀ cs ↔ Runs.Along (call X) (ReceiptsLineUp X) s₀ cs :=
  ⟨lineUp_of_appliesOnce hs, appliesOnce_of_lineUp⟩

/-! ## One shot in two epochs -/

def missOfThree : ShotResult where
  tick := 7
  shooterPeerId := referencePlayer 3
  weaponId := .dustwalker
  outcome := .miss
  rejectionReason := none
  resolvedDirection := none
  targetId := none
  hitZone := none
  damage := 0
  distanceMm := none
  eliminated := false

/-- Player 1 announces the miss under epoch 1. -/
def missUnderFirstEpoch : Call := referenceDelivery [1, 2, 3] 1 1 1 7 (.shotResult missOfThree) 100

def heartbeatBeforeClaim : Call := referenceDelivery [1, 2, 3] 2 1 1 8 .heartbeat 1500

/-- Player 2 takes over when player 1 has been silent for 2000 ms. -/
def claimOfSecondEpoch : Call :=
  referenceDelivery [1, 2, 3] 2 2 2 8 (.authority (referencePlayer 2) 2) 2100

/-- Player 2 announces the same miss under epoch 2. -/
def missUnderSecondEpoch : Call :=
  referenceDelivery [1, 2, 3] 2 3 2 7 (.shotResult missOfThree) 2200

theorem missUnderFirstEpoch_accepted :
    ((referenceSession [1, 2, 3] 3).acceptAuthenticated referenceExternals
      (referenceEnvelope [1, 2, 3] 1 1 1 7 (.shotResult missOfThree)) 100 fun _ => true).1
        = .accepted := by
  decide +kernel

/-- The session of player 3 after the first miss and the migration, on the session state alone. -/
def sessionAfterMigration : M3SecureSession :=
  let s := ((referenceSession [1, 2, 3] 3).acceptAuthenticated referenceExternals
    (referenceEnvelope [1, 2, 3] 1 1 1 7 (.shotResult missOfThree)) 100 fun _ => true).2
  let s := (s.acceptAuthenticated referenceExternals
    (referenceEnvelope [1, 2, 3] 2 1 1 8 .heartbeat) 1500 fun _ => true).2
  (s.acceptAuthenticated referenceExternals
    (referenceEnvelope [1, 2, 3] 2 2 2 8 (.authority (referencePlayer 2) 2)) 2100 fun _ => true).2

theorem run_to_migration :
    Runs.run (call referenceExternals) (call referenceExternals (referenceSession [1, 2, 3] 3)
      missUnderFirstEpoch).2 [heartbeatBeforeClaim, claimOfSecondEpoch] = sessionAfterMigration := by
  have hfirst : call referenceExternals (referenceSession [1, 2, 3] 3) missUnderFirstEpoch = _ :=
    call_reference rfl (by decide) rfl
  have hsecond : call referenceExternals (call referenceExternals (referenceSession [1, 2, 3] 3)
      missUnderFirstEpoch).2 heartbeatBeforeClaim = _ :=
    call_reference (roster_call ..) (by decide) rfl
  have hthird : call referenceExternals (call referenceExternals (call referenceExternals
      (referenceSession [1, 2, 3] 3) missUnderFirstEpoch).2 heartbeatBeforeClaim).2
      claimOfSecondEpoch = _ :=
    call_reference ((roster_call ..).trans (roster_call ..)) (by decide) rfl
  rw [Runs.run_cons, Runs.run_cons, Runs.run_nil, hthird, hsecond, hfirst]
  rfl

theorem missUnderSecondEpoch_accepted :
    (sessionAfterMigration.acceptAuthenticated referenceExternals
      (referenceEnvelope [1, 2, 3] 2 3 2 7 (.shotResult missOfThree)) 2200 fun _ => true).1
        = .accepted := by
  decide +kernel

/-- **The same shot is applied under both epochs.** -/
theorem shot_applied_in_two_epochs :
    let s := referenceSession [1, 2, 3] 3
    Applies referenceExternals s missUnderFirstEpoch (referencePlayer 3, 7) ∧
      Applies referenceExternals (Runs.run (call referenceExternals)
        (call referenceExternals s missUnderFirstEpoch).2 [heartbeatBeforeClaim, claimOfSecondEpoch])
        missUnderSecondEpoch (referencePlayer 3, 7) := by
  constructor
  · change Applies _ _ _ (missOfThree.shooterPeerId, missOfThree.tick)
    refine .intro ?_ rfl
    rw [acceptWithSourceValidated, referenceEnvelope_authentic rfl (by decide) rfl]
    exact missUnderFirstEpoch_accepted
  · change Applies _ _ _ (missOfThree.shooterPeerId, missOfThree.tick)
    refine .intro ?_ rfl
    rw [run_to_migration, acceptWithSourceValidated,
      referenceEnvelope_authentic ?_ (by decide) rfl]
    · exact missUnderSecondEpoch_accepted
    · rw [← run_to_migration]
      exact (roster_run ..).trans (roster_call ..)

/-- Player 1 announces the miss once more, under the same epoch. -/
def missAnnouncedAgain : Call := referenceDelivery [1, 2, 3] 1 2 1 7 (.shotResult missOfThree) 150

/-- Within one epoch the receipts line up, and the repeated announcement is not applied. -/
theorem shot_applied_once_iff_same_epoch :
    AppliesOnce referenceExternals (referenceSession [1, 2, 3] 3)
      [missUnderFirstEpoch, missAnnouncedAgain] := by
  refine (shot_applied_once_iff referenceExternals _ rfl _).mpr ⟨?_, ?_, trivial⟩
  · rintro env source nodeKey nowMs installable result - - - ⟨epoch, hmem⟩
    exact absurd hmem (Finset.notMem_empty _)
  · rintro env source nodeKey nowMs installable result hcall payload - -
    cases hcall
    cases payload
    have hfirst : call referenceExternals (referenceSession [1, 2, 3] 3) missUnderFirstEpoch = _ :=
      call_reference rfl (by decide) rfl
    rw [hfirst]
    decide +kernel

end M3SecureSession

end Spurfire
