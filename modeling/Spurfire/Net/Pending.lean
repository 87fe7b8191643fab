import Spurfire.Net.Authority

/-!
# The partial migration against the installed authority

A session holds at most one partial migration (`v2.rs`).  A fragment opens it only for a coherent
nomination, a completed checkpoint and a local succession take it away, and an `Authority` claim may
change the authority under it.

* `Fits`: a partial migration that may still replace the installed pair;
* `accept_pending`: what a datagram can leave in the buffer;
* `Current`: no accepted claim installs a pair that the held partial migration does not fit;
* **`pendingMigration_fits_along_runs`**: along such runs the held partial migration fits.
-/

namespace Spurfire

namespace M3SecureSession

variable {X : Externals} {s : M3SecureSession} {env : M3EnvelopeV2} {nowMs : UInt64}
  {installable : M3MatchCheckpointV2 → Bool}

/-- A partial migration of the next epoch, of the installed authority at its own epoch, or of a
smaller player who challenges it there. -/
def Fits (authority : PlayerId) (epoch : UInt64) (pending : PendingMigration) : Prop :=
  epoch.checkedAdd 1 = some pending.epoch
    ∨ (pending.epoch = epoch ∧ (pending.authority = authority ∨ pending.authority < authority))

instance (authority : PlayerId) (epoch : UInt64) (pending : PendingMigration) :
    Decidable (Fits authority epoch pending) :=
  inferInstanceAs (Decidable (_ ∨ _))

/-- What is held fits the installed pair. -/
def PendingFits (s : M3SecureSession) : Prop :=
  ∀ pending, s.pendingMigration = some pending → Fits s.state.authority s.state.authorityEpoch pending

theorem fits_of_coherent {pending : PendingMigration}
    (h : s.state.authorityClaimIsCoherent env.sender pending.authority pending.epoch nowMs) :
    Fits s.state.authority s.state.authorityEpoch pending := by
  obtain ⟨-, ⟨hepoch, hsame⟩ | ⟨hepoch, hsmaller, -⟩ | ⟨hnext, -, -⟩⟩ :=
    SessionState.coherent_cases h
  · exact .inr ⟨hepoch, .inl hsame⟩
  · exact .inr ⟨hepoch, .inr hsmaller⟩
  · exact .inl hnext

/-! ## What a datagram leaves in the buffer -/

/-- The buffer is the held one, perhaps with more fragments, or belongs to a coherent nomination. -/
def HeldOrCoherent (s : M3SecureSession) (env : M3EnvelopeV2) (nowMs : UInt64)
    (pending : PendingMigration) : Prop :=
  (∃ held, s.pendingMigration = some held ∧ pending.authority = held.authority
      ∧ pending.epoch = held.epoch)
    ∨ s.state.authorityClaimIsCoherent env.sender pending.authority pending.epoch nowMs

theorem heldOrCoherent_of_held {pending : PendingMigration}
    (h : s.pendingMigration = some pending) : HeldOrCoherent s env nowMs pending :=
  .inl ⟨pending, h, rfl, rfl⟩

/-- Adding a fragment keeps whose buffer it is. -/
theorem HeldOrCoherent.add {pending : PendingMigration} (h : HeldOrCoherent s env nowMs pending)
    (index : UInt16) : HeldOrCoherent s env nowMs (pending.add index env) := h

theorem openMigration_heldOrCoherent {authority : PlayerId} {epoch : UInt64}
    (hash : Vector UInt8 32) (count : UInt16)
    (h : s.state.authorityClaimIsCoherent env.sender authority epoch nowMs) :
    HeldOrCoherent s env nowMs (s.openMigration nowMs authority epoch hash count) := by
  unfold openMigration
  cases hlive : s.pendingMigration.filter fun pending =>
      !SessionState.timedOut nowMs pending.startedMs with
  | none => exact .inr h
  | some held =>
    rw [Option.filter_eq_some_iff] at hlive
    exact heldOrCoherent_of_held hlive.1

theorem completeMigration_pending {held : PendingMigration}
    (hnone : s.pendingMigration = none) :
    (completeMigration X s held env nowMs installable).2.pendingMigration = none := by
  unfold completeMigration
  split
  · exact hnone
  · split_ifs
    · exact hnone
    · exact hnone
    · exact hnone
    · exact hnone

theorem acceptMigrationFragment_pending {authority : PlayerId} {epoch : UInt64}
    {hash : Vector UInt8 32} {index count : UInt16} {pending : PendingMigration}
    (h : (s.acceptMigrationFragment X env nowMs installable authority epoch hash index
      count).2.pendingMigration = some pending) : HeldOrCoherent s env nowMs pending := by
  unfold acceptMigrationFragment at h
  by_cases hclaim : authority ≠ env.sender ∨ epoch ≠ env.authorityEpoch
      ∨ !s.state.authorityClaimIsCoherent env.sender authority epoch nowMs
  · rw [if_pos hclaim] at h
    exact heldOrCoherent_of_held h
  have hcoherent : s.state.authorityClaimIsCoherent env.sender authority epoch nowMs := by
    by_contra hincoherent
    exact hclaim (.inr (.inr (by simpa using hincoherent)))
  have hopen := openMigration_heldOrCoherent hash count hcoherent
  rw [if_neg hclaim] at h
  split_ifs at h with hreplay hconflict
  · exact heldOrCoherent_of_held h
  · exact Option.some.inj h ▸ hopen
  · unfold bufferMigration at h
    split_ifs at h with hbuffered hsize
    · exact Option.some.inj h ▸ hopen
    · exact Option.some.inj h ▸ hopen.add index
    · rw [completeMigration_pending rfl] at h
      cases h

/-- The other two paths leave the partial migration alone. -/
theorem acceptMatchStateFragment_pending {hash : Vector UInt8 32} {index count : UInt16} :
    (s.acceptMatchStateFragment X env nowMs hash index count).2.pendingMigration
      = s.pendingMigration := by
  unfold acceptMatchStateFragment
  split_ifs
  · rfl
  · rfl
  · split
    · rfl
    · unfold bufferMatchState completeMatchState
      repeat' split
      all_goals rfl

theorem directCommit_pending (snapshot : Option M3ActorSnapshot) :
    (s.directCommit env nowMs snapshot).pendingMigration = s.pendingMigration := by
  unfold directCommit recordMatchState recordSnapshot installClaim forgetEpoch touchDirect
  repeat' split
  all_goals rfl

theorem acceptDirect_pending :
    (s.acceptDirect env nowMs).2.pendingMigration = s.pendingMigration := by
  unfold acceptDirect
  split
  · rfl
  · exact directCommit_pending _

/-- **What a datagram leaves in the buffer** was there before or belongs to a coherent nomination. -/
theorem accept_pending {source : SocketAddr} {nodeKey : Option NodeKey} {pending : PendingMigration}
    (h : (s.acceptWithSourceValidated X env source nodeKey nowMs installable).2.pendingMigration
      = some pending) : HeldOrCoherent s env nowMs pending := by
  unfold acceptWithSourceValidated acceptAuthenticated at h
  split at h
  · exact heldOrCoherent_of_held h
  · split_ifs at h
    · exact heldOrCoherent_of_held h
    · exact heldOrCoherent_of_held h
    · exact heldOrCoherent_of_held h
    · split at h
      · exact acceptMigrationFragment_pending h
      · rw [acceptMatchStateFragment_pending] at h
        exact heldOrCoherent_of_held h
      · rw [acceptDirect_pending] at h
        exact heldOrCoherent_of_held h

/-! ## Along runs -/

/-- An `Authority` claim that this call accepts installs no pair which the held partial migration
does not fit. -/
def Current (X : Externals) (s : M3SecureSession) (c : Call) : Prop :=
  ∀ env source nodeKey nowMs installable player epoch pending,
    c = .accept env source nodeKey nowMs installable →
    (s.acceptWithSourceValidated X env source nodeKey nowMs installable).1 = .accepted →
    env.payload = .authority player epoch →
    epoch > s.state.authorityEpoch ∨ (epoch = s.state.authorityEpoch ∧ player < s.state.authority) →
    s.pendingMigration = some pending → Fits player epoch pending

/-- The direct path installs the pair of its claim or keeps the pair it found. -/
theorem directCommit_pair (s : M3SecureSession) (env : M3EnvelopeV2) (nowMs : UInt64)
    (snapshot : Option M3ActorSnapshot) :
    (∃ player epoch, env.payload = .authority player epoch
        ∧ (epoch > s.state.authorityEpoch
          ∨ (epoch = s.state.authorityEpoch ∧ player < s.state.authority))
        ∧ (s.directCommit env nowMs snapshot).state.authority = player
        ∧ (s.directCommit env nowMs snapshot).state.authorityEpoch = epoch)
      ∨ ((s.directCommit env nowMs snapshot).state.authority = s.state.authority
        ∧ (s.directCommit env nowMs snapshot).state.authorityEpoch = s.state.authorityEpoch) := by
  rw [state_directCommit]
  unfold installClaim
  split
  · next player epoch hpayload =>
    split_ifs with hwins
    · rw [authority_touchDirect, authorityEpoch_touchDirect] at hwins
      exact .inl ⟨player, epoch, hpayload, hwins, rfl, rfl⟩
    · exact .inr ⟨authority_touchDirect, authorityEpoch_touchDirect⟩
  · exact .inr ⟨authority_touchDirect, authorityEpoch_touchDirect⟩

/-- What was held before fits, and so does what a coherent nomination opened. -/
theorem HeldOrCoherent.fits {pending : PendingMigration} (h : HeldOrCoherent s env nowMs pending)
    (hfits : s.PendingFits) : Fits s.state.authority s.state.authorityEpoch pending := by
  rcases h with ⟨held, hheld, hauthority, hepoch⟩ | hcoherent
  · have hold := hfits held hheld
    unfold Fits at hold ⊢
    rwa [hauthority, hepoch]
  · exact fits_of_coherent hcoherent

/-- A session with the same pair and the same buffer. -/
theorem PendingFits.of_same {t : M3SecureSession} (hfits : s.PendingFits)
    (hauthority : t.state.authority = s.state.authority)
    (hepoch : t.state.authorityEpoch = s.state.authorityEpoch)
    (hpending : t.pendingMigration = s.pendingMigration) : t.PendingFits := by
  intro pending h
  rw [hauthority, hepoch]
  exact hfits pending (hpending ▸ h)

theorem pendingFits_accept {source : SocketAddr} {nodeKey : Option NodeKey}
    (hfits : s.PendingFits)
    (hcurrent : Current X s (.accept env source nodeKey nowMs installable)) :
    (s.acceptWithSourceValidated X env source nodeKey nowMs installable).2.PendingFits := by
  by_cases haccepted :
      (s.acceptWithSourceValidated X env source nodeKey nowMs installable).1 = .accepted
  · obtain ⟨-, -, -, hadmitted⟩ := acceptWithSourceValidated_accepted haccepted
    generalize (s.acceptWithSourceValidated X env source nodeKey nowMs installable).2 = t
      at hadmitted
    cases hadmitted with
    | @direct snapshot =>
      rcases directCommit_pair s env nowMs snapshot with
        ⟨player, epoch, hpayload, hwins, hauthority, hepoch⟩ | ⟨hauthority, hepoch⟩
      · intro pending hpending
        rw [directCommit_pending] at hpending
        rw [hauthority, hepoch]
        exact hcurrent _ _ _ _ _ _ _ _ rfl haccepted hpayload hwins hpending
      · exact hfits.of_same hauthority hepoch (directCommit_pending _)
    | matchState => exact hfits.of_same rfl rfl rfl
    | migration =>
      intro pending hpending
      cases hpending
  · have hstate := (acceptWithSourceValidated_rejected haccepted).same.state_eq
    intro pending hpending
    rw [hstate]
    exact (accept_pending hpending).fits hfits

/-- A local succession drops the buffer, and without one the pair stays. -/
theorem pendingFits_expire (hfits : s.PendingFits) (nowMs : UInt64) :
    (s.expireAndMigrate nowMs).2.PendingFits := by
  unfold expireAndMigrate
  dsimp only
  split_ifs with hmigrated
  · intro pending hpending
    cases hpending
  · have hnone : (s.state.expireAndMigrate nowMs).1 = none := by simpa using hmigrated
    exact hfits.of_same (SessionState.authority_expireAndMigrate hnone)
      (SessionState.authorityEpoch_expireAndMigrate hnone) rfl

theorem pendingFits_call (hfits : s.PendingFits) {c : Call} (hcurrent : Current X s c) :
    (s.call X c).2.PendingFits := by
  cases c with
  | envelope tick payload signingKey =>
    change (s.envelope X tick payload signingKey).2.PendingFits
    obtain ⟨error, h⟩ | ⟨sent, env, -, -, -, -, h⟩ := envelope_cases X s tick payload signingKey
    · rw [h]
      exact hfits
    · rw [h]
      refine hfits.of_same rfl rfl ?_
      unfold afterSend rememberKeyframe
      split <;> rfl
  | accept env source nodeKey nowMs installable => exact pendingFits_accept hfits hcurrent
  | expireAndMigrate nowMs => exact pendingFits_expire hfits nowMs
  | configureMigrationElection response =>
    change (s.configureMigrationElection response).2.PendingFits
    obtain ⟨preference, h⟩ := configure_frame (s := s) response
    refine hfits.of_same (by rw [h]) (by rw [h]) ?_
    unfold configureMigrationElection
    dsimp only
    repeat' split
    all_goals rfl
  | takeInstalledCheckpoint => exact hfits.of_same rfl rfl rfl

theorem new_pendingMigration {manifest : RosterManifest} {key : SessionPublicKey}
    {signature : SessionSignature} {state : SessionState} {s₀ : M3SecureSession}
    (h : new X manifest key signature state = .ok s₀) : s₀.pendingMigration = none := by
  unfold new at h
  repeat' split at h
  all_goals first | (cases h; rfl) | cases h

/-- **A held partial migration fits the installed authority.**  From a new session, along calls
whose accepted `Authority` claims install no pair that the held partial migration does not fit: what
is held is of the next epoch, or of the installed epoch and then of the installed authority or of a
smaller player who challenges it. -/
theorem pendingMigration_fits_along_runs (X : Externals) {manifest : RosterManifest}
    {key : SessionPublicKey} {signature : SessionSignature} {state : SessionState}
    {s₀ : M3SecureSession} (hnew : new X manifest key signature state = .ok s₀) (calls : List Call)
    (hcurrent : Runs.Along (call X) (Current X) s₀ calls) :
    (Runs.run (call X) s₀ calls).PendingFits := by
  have hstart : s₀.PendingFits := by
    intro pending hpending
    rw [new_pendingMigration hnew] at hpending
    cases hpending
  exact Runs.run_invariant_along (C := Current X) (P := PendingFits)
    (fun _ _ hc hfits => pendingFits_call hfits hc) hstart hcurrent

/-- Player 2 nominates itself for epoch 2 with the first of two fragments. -/
def successionOfTwo : Call :=
  referenceDelivery [1, 2, 3] 2 2 2 7
    (.migrationFragment (referencePlayer 2) 2 (Vector.replicate 32 0) 0 2 [0]) 2000

theorem pendingMigration_fits_successionOfTwo :
    (Runs.run (call referenceExternals) (referenceSession [1, 2, 3] 3)
      [heartbeatOfTwo, successionOfTwo]).PendingFits := by
  refine pendingMigration_fits_along_runs referenceExternals (new_reference 3 (by decide +kernel)) _
    ⟨?_, ?_, trivial⟩
  · intro env source nodeKey nowMs installable player epoch pending hcall _ hpayload
    cases hcall
    cases hpayload
  · intro env source nodeKey nowMs installable player epoch pending hcall _ hpayload
    cases hcall
    cases hpayload

/-- The session of player 3 in a match that starts with player 2 as authority. -/
def challengedSession : M3SecureSession :=
  { referenceSession [1, 2, 3] 3 with
    state := [1, 2, 3].foldl (fun state player => state.addPeer (referencePlayer player) 0)
      (SessionState.new referenceLobby (referencePlayer 3) (referencePlayer 2) 0) }

/-- Player 1 challenges the silent player 2 at epoch 1 with the first of two fragments. -/
def challengeOfOne : Call :=
  referenceDelivery [1, 2, 3] 1 1 1 7
    (.migrationFragment (referencePlayer 1) 1 (Vector.replicate 32 0) 0 2 [0]) 2000

theorem new_challengedSession :
    new referenceExternals (referenceManifest [1, 2, 3])
        (referenceExternals.verifyingKey (referenceKey 1))
        (referenceExternals.sign (referenceKey 1) (canonicalManifestDigest
          referenceExternals.toCrypto (referenceExternals.verifyingKey (referenceKey 1))
          (referenceManifest [1, 2, 3]))) challengedSession.state = .ok challengedSession := by
  have hvalid : (referenceManifest [1, 2, 3]).validate = .ok () := by decide +kernel
  simp only [new, hvalid]
  rw [referenceExternals_correct]
  rfl

/-- A smaller challenger of the installed authority holds the buffer at the installed epoch. -/
theorem pendingMigration_of_challenger :
    let s := (challengedSession.call referenceExternals challengeOfOne).2
    (s.pendingMigration.map fun pending => (pending.authority, pending.epoch))
        = some (referencePlayer 1, 1)
      ∧ s.state.authority = referencePlayer 2 ∧ s.state.authorityEpoch = 1 := by
  have hstep : call referenceExternals challengedSession challengeOfOne = _ :=
    call_reference rfl (by decide) rfl
  rw [hstep]
  decide +kernel

/-- Not every held partial migration is of the next epoch or of the installed authority. -/
theorem pendingMigration_not_always_installed :
    ¬∀ (X : Externals) (manifest : RosterManifest) (key : SessionPublicKey)
      (signature : SessionSignature) (state : SessionState) (s₀ : M3SecureSession),
      new X manifest key signature state = .ok s₀ → ∀ (calls : List Call) (pending : PendingMigration),
        (Runs.run (call X) s₀ calls).pendingMigration = some pending →
        (Runs.run (call X) s₀ calls).state.authorityEpoch.checkedAdd 1 = some pending.epoch
          ∨ (pending.epoch = (Runs.run (call X) s₀ calls).state.authorityEpoch
            ∧ pending.authority = (Runs.run (call X) s₀ calls).state.authority) := by
  intro hall
  obtain ⟨hheld, hauthority, hinstalled⟩ := pendingMigration_of_challenger
  obtain ⟨pending, hpending, hpair⟩ := Option.map_eq_some_iff.mp hheld
  obtain ⟨hplayer, hepoch⟩ := Prod.mk.inj hpair
  have hcase := hall _ _ _ _ _ _ new_challengedSession [challengeOfOne] pending
  rw [Runs.run_cons, Runs.run_nil] at hcase
  rcases hcase hpending with hnext | ⟨-, hsame⟩
  · rw [hepoch] at hnext
    exact absurd (hinstalled ▸ hnext) (by decide)
  · rw [hplayer] at hsame
    exact absurd (hsame.trans hauthority) (by decide)

end M3SecureSession

end Spurfire
