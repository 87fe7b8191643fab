import Spurfire.Lib.Runs
import Spurfire.Net.Session

/-!
# What a received datagram can do

Inversion of the receive path, once, for everything that is proved about runs:

* a datagram that is not `accepted` leaves the session as it is up to the two reassembly buffers
  (`acceptWithSourceValidated_rejected`), and `BufferStep` says what it can do to those;
* an accepted datagram is one of three `Admitted` cases, each with the guards that let it through
  and the exact session it leaves behind.
-/

namespace Spurfire

open Std (ExtTreeMap)

namespace M3PeerPayloadV2

def isMatchStateFragment : M3PeerPayloadV2 → Bool
  | matchStateFragment .. => true
  | _ => false

def isMigrationFragment : M3PeerPayloadV2 → Bool
  | migrationFragment .. => true
  | _ => false

end M3PeerPayloadV2

namespace M3SecureSession

variable {X : Externals} {s : M3SecureSession} {env : M3EnvelopeV2} {nowMs : UInt64}
  {installable : M3MatchCheckpointV2 → Bool}

def SameUpToBuffers (s t : M3SecureSession) : Prop :=
  t = { s with pendingMigration := t.pendingMigration, pendingMatchState := t.pendingMatchState }

@[refl] theorem SameUpToBuffers.refl (s : M3SecureSession) : s.SameUpToBuffers s := rfl

/-! ## Rejections -/

theorem acceptDirect_rejected (h : (s.acceptDirect env nowMs).1 ≠ .accepted) :
    (s.acceptDirect env nowMs).2 = s := by
  unfold acceptDirect at h ⊢
  split
  · rfl
  · next heq => simp [heq] at h

theorem completeMatchState_rejected {p : PendingMatchState}
    (h : (completeMatchState X s p env nowMs).1 ≠ .accepted) :
    (completeMatchState X s p env nowMs).2 = s := by
  unfold completeMatchState at h ⊢
  split
  · rfl
  · next heq =>
    simp only [heq] at h
    split_ifs at h ⊢ <;> first | rfl | exact absurd rfl h

theorem completeMigration_rejected {p : PendingMigration}
    (h : (completeMigration X s p env nowMs installable).1 ≠ .accepted) :
    (completeMigration X s p env nowMs installable).2 = s := by
  unfold completeMigration at h ⊢
  split
  · rfl
  · next heq =>
    simp only [heq] at h
    split_ifs at h ⊢ <;> first | rfl | exact absurd rfl h

/-- What a datagram that is not accepted can do to the match-state buffer: leave it, drop it, open
one, or open one and add the fragment. -/
inductive MatchStateBufferStep (s : M3SecureSession) (env : M3EnvelopeV2) (nowMs : UInt64) :
    Option PendingMatchState → Prop
  | kept : MatchStateBufferStep s env nowMs s.pendingMatchState
  | dropped : MatchStateBufferStep s env nowMs none
  | opened {hash count p} (isFragment : env.payload.isMatchStateFragment)
      (hopen : s.openMatchState env nowMs hash count = some p) :
      MatchStateBufferStep s env nowMs (some p)
  | added {hash index count p} (isFragment : env.payload.isMatchStateFragment)
      (hopen : s.openMatchState env nowMs hash count = some p)
      (hfloor : p.replayFloor < env.sequence) :
      MatchStateBufferStep s env nowMs
        (some (p.add index env))

/-- What a datagram that is not accepted can do to the migration buffer. -/
inductive MigrationBufferStep (s : M3SecureSession) (env : M3EnvelopeV2) (nowMs : UInt64) :
    Option PendingMigration → Prop
  | kept : MigrationBufferStep s env nowMs s.pendingMigration
  | dropped : MigrationBufferStep s env nowMs none
  | opened {authority epoch hash count} :
      MigrationBufferStep s env nowMs (some (s.openMigration nowMs authority epoch hash count))
  | added {epoch hash index count p} (isFragment : env.payload.isMigrationFragment)
      (hopen : p = s.openMigration nowMs env.sender epoch hash count)
      (hauthority : p.authority = env.sender) :
      MigrationBufferStep s env nowMs
        (some (p.add index env))

/-- A datagram that is not accepted touches nothing but the buffers. -/
structure BufferStep (s : M3SecureSession) (env : M3EnvelopeV2) (nowMs : UInt64)
    (t : M3SecureSession) : Prop where
  same : s.SameUpToBuffers t
  matchState : MatchStateBufferStep s env nowMs t.pendingMatchState
  migration : MigrationBufferStep s env nowMs t.pendingMigration

theorem BufferStep.refl : BufferStep s env nowMs s where
  same := rfl
  matchState := .kept
  migration := .kept

theorem acceptMatchStateFragment_rejected {hash : Vector UInt8 32} {index count : UInt16}
    (hfrag : env.payload.isMatchStateFragment)
    (h : (s.acceptMatchStateFragment X env nowMs hash index count).1 ≠ .accepted) :
    BufferStep s env nowMs (s.acceptMatchStateFragment X env nowMs hash index count).2 := by
  unfold acceptMatchStateFragment at h ⊢
  split_ifs at h ⊢
  · exact .refl
  · exact .refl
  · split
    · exact .refl
    · next p hopen =>
      simp only [hopen] at h
      unfold bufferMatchState at h ⊢
      split_ifs at h ⊢ with hdup hsize
      · exact ⟨rfl, .opened hfrag hopen, .kept⟩
      · exact ⟨rfl, .added hfrag hopen (UInt64.not_le.mp (not_or.mp hdup).1), .kept⟩
      · rw [completeMatchState_rejected h]
        exact ⟨rfl, .dropped, .kept⟩

theorem acceptMigrationFragment_rejected {authority : PlayerId} {epoch : UInt64}
    {hash : Vector UInt8 32} {index count : UInt16} (hfrag : env.payload.isMigrationFragment)
    (h : (s.acceptMigrationFragment X env nowMs installable authority epoch hash index
      count).1 ≠ .accepted) :
    BufferStep s env nowMs
      (s.acceptMigrationFragment X env nowMs installable authority epoch hash index count).2 := by
  unfold acceptMigrationFragment at h ⊢
  split_ifs at h ⊢ with hclaim hseq hconflict
  · exact .refl
  · exact .refl
  · exact ⟨rfl, .kept, .opened⟩
  · obtain rfl : authority = env.sender := by
      by_contra hne
      exact hclaim (.inl hne)
    unfold bufferMigration at h ⊢
    split_ifs at h ⊢ with hdup hsize
    · exact ⟨rfl, .kept, .opened⟩
    · refine ⟨rfl, .kept, .added hfrag rfl ?_⟩
      by_contra hne
      exact hconflict (by simp [migrationConflicts, hne])
    · rw [completeMigration_rejected h]
      exact ⟨rfl, .kept, .dropped⟩

theorem acceptAuthenticated_rejected
    (h : (s.acceptAuthenticated X env nowMs installable).1 ≠ .accepted) :
    BufferStep s env nowMs (s.acceptAuthenticated X env nowMs installable).2 := by
  unfold acceptAuthenticated at h ⊢
  split_ifs at h ⊢
  · exact .refl
  · exact .refl
  · exact .refl
  · split
    · next hp =>
      simp only [hp] at h
      exact acceptMigrationFragment_rejected (by simp [hp, M3PeerPayloadV2.isMigrationFragment]) h
    · next hp =>
      simp only [hp] at h
      exact acceptMatchStateFragment_rejected
        (by simp [hp, M3PeerPayloadV2.isMatchStateFragment]) h
    · next hmig hms =>
      have hdirect : (s.acceptDirect env nowMs).1 ≠ .accepted := by
        split at h
        · next hp => exact absurd hp (hmig _ _ _ _ _ _)
        · next hp => exact absurd hp (hms _ _ _ _)
        · exact h
      rw [acceptDirect_rejected hdirect]
      exact .refl

/-- **A datagram that is not accepted is a buffer step.** -/
theorem acceptWithSourceValidated_rejected {source : SocketAddr} {nodeKey : Option NodeKey}
    (h : (s.acceptWithSourceValidated X env source nodeKey nowMs installable).1 ≠ .accepted) :
    BufferStep s env nowMs
      (s.acceptWithSourceValidated X env source nodeKey nowMs installable).2 := by
  unfold acceptWithSourceValidated at h ⊢
  split
  · exact .refl
  · next heq =>
    simp only [heq] at h
    exact acceptAuthenticated_rejected h

/-! ## Sequences of a buffer -/

section Sequences

variable {envelopes : ExtTreeMap UInt16 M3EnvelopeV2} {e : M3EnvelopeV2}

theorem sequence_mem (he : e ∈ fragmentRows envelopes) : e.sequence ∈ sequencesOf envelopes :=
  List.mem_map_of_mem he

theorem floor_lt_of_not_sequencesBelow {floor : UInt64} (h : ¬ sequencesBelow envelopes floor)
    (he : e ∈ fragmentRows envelopes) : floor < e.sequence := by
  simp only [sequencesBelow, Bool.or_eq_true, not_or] at h
  obtain ⟨-, hmin⟩ := h
  cases hm : (sequencesOf envelopes).min? with
  | none => simp [hm] at hmin
  | some least =>
    have hle := (List.min?_eq_some_iff.mp hm).2 _ (sequence_mem he)
    have hlt : floor < least := by simpa [hm] using hmin
    grind

theorem sequence_le_max {last : UInt64} (h : (sequencesOf envelopes).max? = some last)
    (he : e ∈ fragmentRows envelopes) : e.sequence ≤ last :=
  (List.max?_eq_some_iff.mp h).2 _ (sequence_mem he)

theorem max?_isSome (he : e ∈ fragmentRows envelopes) :
    ∃ last, (sequencesOf envelopes).max? = some last := by
  cases hm : (sequencesOf envelopes).max? with
  | some last => exact ⟨last, rfl⟩
  | none =>
    have hmem := sequence_mem he
    rw [List.max?_eq_none_iff.mp hm] at hmem
    simp at hmem

theorem mem_fragmentRows_insert (envelopes : ExtTreeMap UInt16 M3EnvelopeV2) (index : UInt16)
    (env : M3EnvelopeV2) : env ∈ fragmentRows (envelopes.insert index env) := by
  refine List.mem_map.mpr ⟨(index, env), ?_, rfl⟩
  rw [ExtTreeMap.mem_toList_iff_getElem?_eq_some, ExtTreeMap.getElem?_insert_self]

theorem mem_fragmentRows_of_insert {index : UInt16}
    (he : e ∈ fragmentRows (envelopes.insert index env)) : e = env ∨ e ∈ fragmentRows envelopes := by
  obtain ⟨⟨i, e⟩, hrow, rfl⟩ := List.mem_map.mp he
  rw [ExtTreeMap.mem_toList_iff_getElem?_eq_some, ExtTreeMap.getElem?_insert] at hrow
  split_ifs at hrow
  · exact .inl (Option.some.inj hrow).symm
  · exact .inr (List.mem_map.mpr ⟨(i, e), ExtTreeMap.mem_toList_iff_getElem?_eq_some.mpr hrow, rfl⟩)

end Sequences

/-! ## Admissions -/

/-- The three ways a datagram is accepted, with the session each leaves behind. -/
inductive Admitted (X : Externals) (s : M3SecureSession) (env : M3EnvelopeV2) (nowMs : UInt64)
    (installable : M3MatchCheckpointV2 → Bool) : M3SecureSession → Prop
  | direct {snapshot} (notMatchState : ¬ env.payload.isMatchStateFragment)
      (notMigration : ¬ env.payload.isMigrationFragment)
      (gate : s.directGate env nowMs = .ok snapshot) :
      Admitted X s env nowMs installable (s.directCommit env nowMs snapshot)
  | matchState {hash index count fragment p state last}
      (payload : env.payload = .matchStateFragment hash index count fragment)
      (sender : env.sender = s.state.authority)
      (hopen : s.openMatchState env nowMs hash count = some p)
      (floor : p.replayFloor < env.sequence)
      (sameSender : ∀ e ∈ fragmentRows (p.add index env).envelopes, e.sender = env.sender)
      (reassembled : reassembleM5MatchState X
        ((fragmentRows (p.add index env).envelopes).map (·.payload)) = .ok state)
      (hlast : (sequencesOf (p.add index env).envelopes).max? = some last)
      (fresh : s.state.lastSequence env.sender < last) :
      Admitted X s env nowMs installable
        { s with
          pendingMatchState := none
          state := s.state.touch env.sender last nowMs true
          acceptedMatchState := some (env.sequence, state) }
  | migration {hash index count fragment p authority checkpoint last} {epoch epoch' : UInt64}
      (payload : env.payload = .migrationFragment env.sender epoch hash index count fragment)
      (hopen : p = s.openMigration nowMs env.sender epoch hash count)
      (pendingAuthority : p.authority = env.sender)
      (reassembled : reassembleM3Checkpoint X
        ((fragmentRows (p.add index env).envelopes).map (·.payload)) = .ok (authority, epoch',
          checkpoint))
      (coherent : s.state.authorityClaimIsCoherent env.sender authority epoch' nowMs)
      (allowed : installable checkpoint)
      (above : ∀ e ∈ fragmentRows (p.add index env).envelopes,
        s.state.lastSequence env.sender < e.sequence)
      (hlast : (sequencesOf (p.add index env).envelopes).max? = some last) :
      Admitted X s env nowMs installable
        { s.forgetEpoch with
          pendingMigration := none
          state :=
            { s.state.touch env.sender last nowMs true with
              appliedShotResults := s.state.appliedShotResults ∪
                (checkpoint.combat.resolvedShots.map fun shot =>
                  (checkpoint.combat.sourceEpoch, shot.1, shot.2)).toFinset
              authority := authority
              authorityEpoch := epoch' }
          installedCheckpoint := some checkpoint }

/-- The guards of a direct payload. -/
structure DirectGuards (s : M3SecureSession) (env : M3EnvelopeV2) (nowMs : UInt64)
    (snapshot : Option M3ActorSnapshot) : Prop where
  epoch : isAuthorityClaim env.payload ∨ env.authorityEpoch = s.state.authorityEpoch
  role : isAuthorityOnly env.payload → env.sender = s.state.authority
  subject : ¬ s.subjectIsInvalid env
  reconstructed : s.reconstruct env.payload = some snapshot
  receipt : ∀ receipt, receiptOf env = some receipt → receipt ∉ s.state.appliedShotResults
  sequence : s.state.lastSequence env.sender < env.sequence
  coherent : ¬ s.claimIsIncoherent env nowMs

theorem directGate_ok {snapshot : Option M3ActorSnapshot}
    (h : s.directGate env nowMs = .ok snapshot) : DirectGuards s env nowMs snapshot := by
  unfold directGate at h
  cases hre : s.reconstruct env.payload with
  | none =>
    simp only [hre] at h
    split_ifs at h
  | some reconstructed =>
    simp only [hre] at h
    split_ifs at h with hepoch hrole hsubject hreceipt hseq hclaim
    cases h
    refine ⟨?_, ?_, hsubject, hre, ?_, UInt64.not_le.mp hseq, hclaim⟩
    · by_contra hno
      obtain ⟨hkind, hne⟩ := not_or.mp hno
      exact hepoch ⟨hne, by simpa using hkind⟩
    · intro hkind
      by_contra hne
      exact hrole ⟨hkind, hne⟩
    · intro receipt hof hmem
      exact hreceipt (by simp [hof, hmem])

/-! ## Frame of the direct commit -/

@[simp] theorem state_recordSnapshot (s : M3SecureSession) (env : M3EnvelopeV2)
    (snapshot : Option M3ActorSnapshot) : (s.recordSnapshot env snapshot).state = s.state := by
  cases snapshot <;> rfl

@[simp] theorem state_recordMatchState (s : M3SecureSession) (env : M3EnvelopeV2) :
    (s.recordMatchState env).state = s.state := by
  unfold recordMatchState
  split <;> rfl

theorem state_directCommit (snapshot : Option M3ActorSnapshot) :
    (s.directCommit env nowMs snapshot).state
      = ((s.touchDirect env nowMs).installClaim env.payload).state := by
  simp [directCommit]

@[simp] theorem peers_touchDirect : (s.touchDirect env nowMs).state.peers
    = s.state.peers.insert env.sender ⟨env.sequence, nowMs, env.payload ≠ .leave⟩ := by
  unfold touchDirect
  cases receiptOf env <;> rfl

@[simp] theorem authority_touchDirect :
    (s.touchDirect env nowMs).state.authority = s.state.authority := by
  unfold touchDirect
  cases receiptOf env <;> rfl

@[simp] theorem authorityEpoch_touchDirect :
    (s.touchDirect env nowMs).state.authorityEpoch = s.state.authorityEpoch := by
  unfold touchDirect
  cases receiptOf env <;> rfl

@[simp] theorem peers_installClaim (s : M3SecureSession) (payload : M3PeerPayloadV2) :
    (s.installClaim payload).state.peers = s.state.peers := by
  unfold installClaim
  split
  · split_ifs <;> rfl
  · rfl

theorem peers_directCommit (snapshot : Option M3ActorSnapshot) :
    (s.directCommit env nowMs snapshot).state.peers
      = s.state.peers.insert env.sender ⟨env.sequence, nowMs, env.payload ≠ .leave⟩ := by
  rw [state_directCommit, peers_installClaim, peers_touchDirect]

theorem directGate_ne_accepted : s.directGate env nowMs ≠ .error .accepted := by
  unfold directGate
  repeat' split
  all_goals simp

theorem authenticate_ne_accepted {source : SocketAddr} {nodeKey : Option NodeKey} :
    s.authenticate X env source nodeKey ≠ some .accepted := by
  unfold authenticate
  repeat' split
  all_goals simp

theorem acceptDirect_accepted (h : (s.acceptDirect env nowMs).1 = .accepted)
    (hms : ¬ env.payload.isMatchStateFragment) (hmig : ¬ env.payload.isMigrationFragment) :
    Admitted X s env nowMs installable (s.acceptDirect env nowMs).2 := by
  unfold acceptDirect at h ⊢
  split
  · next outcome hgate =>
    simp only [hgate] at h
    exact absurd (h ▸ hgate) directGate_ne_accepted
  · next snapshot hgate => exact .direct hms hmig hgate

theorem acceptMatchStateFragment_accepted {hash : Vector UInt8 32} {index count : UInt16}
    {fragment : List UInt8} (payload : env.payload = .matchStateFragment hash index count fragment)
    (h : (s.acceptMatchStateFragment X env nowMs hash index count).1 = .accepted) :
    Admitted X s env nowMs installable
      (s.acceptMatchStateFragment X env nowMs hash index count).2 := by
  unfold acceptMatchStateFragment at h ⊢
  split_ifs at h ⊢ with hrole
  obtain ⟨-, hsender⟩ := not_or.mp hrole
  split
  · next hopen => simp [hopen] at h
  · next p hopen =>
    simp only [hopen] at h
    unfold bufferMatchState at h ⊢
    split_ifs at h ⊢ with hdup hsize
    unfold completeMatchState at h ⊢
    split
    · next hre => simp [hre] at h
    · next state hre =>
      simp only [hre] at h
      split_ifs at h ⊢ with hforeign hseq
      obtain ⟨-, hlast⟩ := not_or.mp hseq
      obtain ⟨last, hmax⟩ := max?_isSome (mem_fragmentRows_insert p.envelopes index env)
      change (sequencesOf (p.add index env).envelopes).max? = some last at hmax
      rw [hmax, Option.getD_some]
      have hfloor : p.replayFloor < env.sequence := UInt64.not_le.mp (not_or.mp hdup).1
      refine .matchState payload (not_not.mp hsender) hopen hfloor ?_ hre hmax ?_
      · intro e he
        by_contra hne
        refine hforeign ?_
        simp only [matchStateIsForeign, Bool.or_eq_true, List.any_eq_true]
        exact .inr ⟨e, he, by simp [hne]⟩
      · simpa [hmax] using hlast

theorem acceptMigrationFragment_accepted {authority : PlayerId} {epoch : UInt64}
    {hash : Vector UInt8 32} {index count : UInt16} {fragment : List UInt8}
    (payload : env.payload = .migrationFragment authority epoch hash index count fragment)
    (h : (s.acceptMigrationFragment X env nowMs installable authority epoch hash index
      count).1 = .accepted) :
    Admitted X s env nowMs installable
      (s.acceptMigrationFragment X env nowMs installable authority epoch hash index count).2 := by
  unfold acceptMigrationFragment at h ⊢
  split_ifs at h ⊢ with hclaim hseq hconflict
  obtain rfl : authority = env.sender := by
    by_contra hne
    exact hclaim (.inl hne)
  have hauthority : (s.openMigration nowMs env.sender epoch hash count).authority = env.sender := by
    by_contra hne
    exact hconflict (by simp [migrationConflicts, hne])
  unfold bufferMigration at h ⊢
  split_ifs at h ⊢ with hdup hsize
  unfold completeMigration at h ⊢
  split
  · next hre => simp [hre] at h
  · next claimed epoch' checkpoint hre =>
    simp only [hre] at h
    split_ifs at h ⊢ with hcoherent hinstall hbelow
    obtain ⟨last, hmax⟩ := max?_isSome (mem_fragmentRows_insert
      (s.openMigration nowMs env.sender epoch hash count).envelopes index env)
    change (sequencesOf (PendingMigration.add _ index env).envelopes).max? = some last at hmax
    rw [hmax, Option.getD_some]
    refine .migration payload rfl hauthority hre ?_ (by simpa using hinstall)
      (fun e he => floor_lt_of_not_sequencesBelow hbelow he) hmax
    simpa using (not_or.mp hcoherent).2

theorem acceptAuthenticated_accepted
    (h : (s.acceptAuthenticated X env nowMs installable).1 = .accepted) :
    s.state.authorityEpoch ≤ env.authorityEpoch ∧ env.sender ∈ s.state.peers ∧
      Admitted X s env nowMs installable (s.acceptAuthenticated X env nowMs installable).2 := by
  unfold acceptAuthenticated at h ⊢
  split_ifs at h ⊢ with hlobby hepoch hmember
  refine ⟨UInt64.not_lt.mp hepoch, by simpa using hmember, ?_⟩
  split
  · next payload =>
    simp only [payload] at h
    exact acceptMigrationFragment_accepted payload h
  · next payload =>
    simp only [payload] at h
    exact acceptMatchStateFragment_accepted payload h
  · next hmig hms =>
    have hdirect : (s.acceptDirect env nowMs).1 = .accepted := by
      split at h
      · next hp => exact absurd hp (hmig _ _ _ _ _ _)
      · next hp => exact absurd hp (hms _ _ _ _)
      · exact h
    refine acceptDirect_accepted hdirect ?_ ?_
    · unfold M3PeerPayloadV2.isMatchStateFragment
      split
      · next hp => exact absurd hp (hms _ _ _ _)
      · simp
    · unfold M3PeerPayloadV2.isMigrationFragment
      split
      · next hp => exact absurd hp (hmig _ _ _ _ _ _)
      · simp

/-- **An accepted datagram is authentic, from a member, of no older epoch, and one of the three
admissions.** -/
theorem acceptWithSourceValidated_accepted {source : SocketAddr} {nodeKey : Option NodeKey}
    (h : (s.acceptWithSourceValidated X env source nodeKey nowMs installable).1 = .accepted) :
    s.authenticate X env source nodeKey = none ∧ s.state.authorityEpoch ≤ env.authorityEpoch ∧
      env.sender ∈ s.state.peers ∧ Admitted X s env nowMs installable
        (s.acceptWithSourceValidated X env source nodeKey nowMs installable).2 := by
  unfold acceptWithSourceValidated at h ⊢
  split
  · next outcome hauth =>
    simp only [hauth] at h
    exact absurd (h ▸ hauth) authenticate_ne_accepted
  · next hauth =>
    simp only [hauth] at h
    exact ⟨hauth, acceptAuthenticated_accepted h⟩

theorem lobby_of_accepted {source : SocketAddr} {nodeKey : Option NodeKey}
    (h : (s.acceptWithSourceValidated X env source nodeKey nowMs installable).1 = .accepted) :
    env.lobbyId = s.state.lobbyId := by
  unfold acceptWithSourceValidated at h
  split at h
  · next outcome hauth =>
    cases h
    exact absurd hauth authenticate_ne_accepted
  · unfold acceptAuthenticated at h
    by_contra hne
    simp [hne] at h

/-! ## Sending -/

/-- A send either fails and changes nothing, or signs the next envelope. -/
theorem envelope_cases (X : Externals) (s : M3SecureSession) (tick : UInt64)
    (payload : M3PeerPayloadV2) (signingKey : SigningKey) :
    (∃ error, s.envelope X tick payload signingKey = (.error error, s)) ∨
      ∃ sent env, s.outgoingPayload tick payload = .ok sent ∧ sent.isValid ∧
        s.subjectIsValid tick sent ∧ s.sign X (s.unsigned tick sent) signingKey = .ok env ∧
        s.envelope X tick payload signingKey = (.ok env, s.afterSend tick env.payload) := by
  unfold envelope
  cases hout : s.outgoingPayload tick payload with
  | error error => exact .inl ⟨error, rfl⟩
  | ok sent =>
    simp only
    split_ifs with hvalid hsubject
    · exact .inl ⟨_, rfl⟩
    · exact .inl ⟨_, rfl⟩
    · cases hsign : s.sign X (s.unsigned tick sent) signingKey with
      | error error => exact .inl ⟨error, rfl⟩
      | ok env =>
        exact .inr ⟨sent, env, rfl, by simpa using hvalid, by simpa using hsubject, hsign, rfl⟩

/-! ## The roster is fixed -/

def roster (s : M3SecureSession) : RosterManifest × RosterHash := (s.manifest, s.rosterHash)

theorem roster_directCommit (snapshot : Option M3ActorSnapshot) :
    (s.directCommit env nowMs snapshot).roster = s.roster := by
  unfold directCommit recordMatchState recordSnapshot installClaim
  repeat' split
  all_goals rfl

theorem roster_admitted {t : M3SecureSession} (h : Admitted X s env nowMs installable t) :
    t.roster = s.roster := by
  cases h with
  | direct => exact roster_directCommit _
  | matchState => rfl
  | migration => rfl

theorem roster_accept {source : SocketAddr} {nodeKey : Option NodeKey} :
    (s.acceptWithSourceValidated X env source nodeKey nowMs installable).2.roster = s.roster := by
  by_cases h : (s.acceptWithSourceValidated X env source nodeKey nowMs installable).1 = .accepted
  · exact roster_admitted (acceptWithSourceValidated_accepted h).2.2.2
  · rw [(acceptWithSourceValidated_rejected h).same]
    rfl

theorem roster_envelope (tick : UInt64) (payload : M3PeerPayloadV2) (signingKey : SigningKey) :
    (s.envelope X tick payload signingKey).2.roster = s.roster := by
  obtain ⟨error, h⟩ | ⟨sent, env, -, -, -, -, h⟩ := envelope_cases X s tick payload signingKey
  · rw [h]
  · rw [h]
    unfold afterSend rememberKeyframe
    split <;> rfl

theorem roster_call (s : M3SecureSession) (c : Call) : (s.call X c).2.roster = s.roster := by
  cases c with
  | envelope tick payload signingKey => exact roster_envelope tick payload signingKey
  | accept => exact roster_accept
  | expireAndMigrate nowMs =>
    change (s.expireAndMigrate nowMs).2.roster = _
    unfold expireAndMigrate
    simp only
    split_ifs <;> rfl
  | configureMigrationElection response =>
    change (s.configureMigrationElection response).2.roster = _
    unfold configureMigrationElection
    simp only
    repeat' split
    all_goals rfl
  | takeInstalledCheckpoint => rfl

theorem roster_run (s : M3SecureSession) (cs : List Call) :
    (Runs.run (call X) s cs).roster = s.roster :=
  Runs.run_invariant (P := fun t : M3SecureSession => t.roster = s.roster)
    (fun t c ht => (roster_call t c).trans ht) rfl cs

/-! ## A reference roster

Concrete sessions for the theorems below and in the following modules: SHA-256 from `Sha256`, and
a stand-in signature that writes the key and the digest next to each other. -/

/-- A signature scheme that is correct but not secure, over real SHA-256.  The JSON codecs reject
everything. -/
def referenceExternals : Externals where
  sha256 := Sha256.digest
  verifyingKey key := ⟨key.seed⟩
  sign key digest := ⟨(key.seed ++ digest).cast rfl⟩
  keyIsValid _ := true
  verifyStrict key digest signature := signature.bytes = (key.bytes ++ digest).cast rfl
  matchCheckpointToVec _ := []
  checkpointToVec _ := []
  checkpointFromSlice _ := .error "EOF while parsing a value"
  matchStateToVec _ := []
  matchStateFromSlice _ := .error "EOF while parsing a value"

def referencePlayer (n : UInt8) : PlayerId :=
  .ofTail n.toNat (Nat.blt_eq.mpr (by have := n.toNat_lt; omega))

def referenceLobby : LobbyId := .ofTail 1

def referenceKey (n : UInt8) : SigningKey := ⟨Vector.replicate 32 n⟩

def referenceAddress (n : UInt8) : SocketAddr := ⟨.v4 #v[100, 64, 0, n], 7777⟩

def referenceEntry (n : UInt8) : RosterManifestEntry where
  playerId := referencePlayer n
  sessionPublicKey := referenceExternals.verifyingKey (referenceKey n)
  tailnetAddress := (referenceAddress n).ip
  applicationPort := (referenceAddress n).port
  nodeKey := none

def referenceManifest (players : List (UInt8)) : RosterManifest where
  lobbyId := referenceLobby
  networkGeneration := 3
  sessionGeneration := 4
  rosterRevision := 5
  entries := players.map referenceEntry

def referenceRoster (players : List (UInt8)) : RosterManifest × RosterHash :=
  (referenceManifest players, Spurfire.rosterHash referenceExternals.toCrypto
    (referenceManifest players))

/-- The replay state of `n` in a match of `players` with authority 1, everyone seen at time 0. -/
def referenceState (players : List (UInt8)) (n : UInt8) : SessionState :=
  players.foldl (fun state player => state.addPeer (referencePlayer player) 0)
    (SessionState.new referenceLobby (referencePlayer n) (referencePlayer 1) 0)

def referenceSession (players : List (UInt8)) (n : UInt8) : M3SecureSession where
  manifest := referenceManifest players
  rosterHash := Spurfire.rosterHash referenceExternals.toCrypto (referenceManifest players)
  state := referenceState players n
  pendingMigration := none
  pendingMatchState := none
  installedCheckpoint := none
  sentActorKeyframes := ∅
  receivedActorKeyframes := ∅
  acceptedActorSnapshot := none
  acceptedMatchState := none

/-- An envelope of `n` as its own session signs it. -/
def referenceEnvelope (players : List (UInt8)) (n : UInt8) (sequence epoch tick : UInt64)
    (payload : M3PeerPayloadV2) : M3EnvelopeV2 :=
  let env : M3EnvelopeV2 :=
    { wireVersion := M3_WIRE_VERSION
      lobbyId := referenceLobby
      sender := referencePlayer n
      sequence := sequence
      authorityEpoch := epoch
      simulationTick := tick
      payload := payload
      session := none }
  let manifest := referenceManifest players
  let hash := Spurfire.rosterHash referenceExternals.toCrypto manifest
  { env with
    session := some
      { networkGeneration := manifest.networkGeneration
        sessionGeneration := manifest.sessionGeneration
        rosterHash := hash
        signature := referenceExternals.sign (referenceKey n)
          (env.digest referenceExternals.toCrypto manifest.networkGeneration
            manifest.sessionGeneration hash) } }

theorem referenceExternals_correct : referenceExternals.SignatureCorrect := by
  intro key digest
  simp [Crypto.verifyDigest, referenceExternals]

/-- What a member signs passes the authentication of every session of the same roster. -/
theorem referenceEnvelope_authentic {players : List (UInt8)} {n : UInt8}
    {sequence epoch tick : UInt64} {payload : M3PeerPayloadV2}
    (hs : s.roster = referenceRoster players)
    (hentry : (referenceManifest players).entry (referencePlayer n) = some (referenceEntry n))
    (hvalid : payload.isValid) :
    s.authenticate referenceExternals (referenceEnvelope players n sequence epoch tick payload)
      (referenceAddress n) none = none := by
  have hsign := referenceExternals_correct (referenceKey n)
  have hmanifest : s.manifest = referenceManifest players := congrArg Prod.fst hs
  have hhash : s.rosterHash = Spurfire.rosterHash referenceExternals.toCrypto
      (referenceManifest players) := congrArg Prod.snd hs
  simp only [authenticate, hmanifest, hhash]
  simp only [referenceEnvelope, hentry, M3EnvelopeV2.digest, M3EnvelopeV2.header] at hsign ⊢
  simp [referenceEntry, referenceManifest, hsign, hvalid, Except.isOk, Except.toBool]

def referenceDelivery (players : List (UInt8)) (n : UInt8) (sequence epoch tick : UInt64)
    (payload : M3PeerPayloadV2) (nowMs : UInt64) : Call :=
  .accept (referenceEnvelope players n sequence epoch tick payload) (referenceAddress n) none nowMs
    fun _ => true

/-- The delivery of what a member signs is decided by the session state alone. -/
theorem call_reference {players : List (UInt8)} {n : UInt8} {sequence epoch tick : UInt64}
    {payload : M3PeerPayloadV2} (hs : s.roster = referenceRoster players)
    (hentry : (referenceManifest players).entry (referencePlayer n) = some (referenceEntry n))
    (hvalid : payload.isValid) :
    s.call referenceExternals (referenceDelivery players n sequence epoch tick payload nowMs)
      = (s.acceptAuthenticated referenceExternals
          (referenceEnvelope players n sequence epoch tick payload) nowMs fun _ => true).map
        .accept id := by
  simp only [referenceDelivery, call, acceptWithSourceValidated,
    referenceEnvelope_authentic hs hentry hvalid]

/-- What a session of the reference roster sends is a reference envelope. -/
theorem envelope_reference {players : List UInt8} {n : UInt8} {tick : UInt64}
    {payload sent : M3PeerPayloadV2} (hs : s.roster = referenceRoster players)
    (hlobby : s.state.lobbyId = referenceLobby) (hlocal : s.state.localPlayer = referencePlayer n)
    (hentry : (referenceManifest players).entry (referencePlayer n) = some (referenceEntry n))
    (hout : s.outgoingPayload tick payload = .ok sent) (hvalid : sent.isValid)
    (hsubject : s.subjectIsValid tick sent) :
    s.envelope referenceExternals tick payload (referenceKey n)
      = (.ok (referenceEnvelope players n s.state.nextSequence s.state.authorityEpoch tick sent),
        s.afterSend tick sent) := by
  have hmanifest : s.manifest = referenceManifest players := congrArg Prod.fst hs
  have hhash : s.rosterHash = Spurfire.rosterHash referenceExternals.toCrypto
      (referenceManifest players) := congrArg Prod.snd hs
  have hkey : (referenceEntry n).sessionPublicKey = referenceExternals.verifyingKey (referenceKey n) :=
    rfl
  simp only [envelope, hout, hvalid, hsubject, sign, unsigned, hmanifest, hhash, hlobby, hlocal,
    hentry, hkey, Bool.not_true, Bool.false_eq_true, if_false, ne_eq, not_true_eq_false]
  rfl

/-- The host of the lobby signs the roster, and the session of `n` starts from it. -/
theorem new_reference {players : List UInt8} (n : UInt8)
    (hvalid : (referenceManifest players).validate = .ok ()) :
    M3SecureSession.new referenceExternals (referenceManifest players)
        (referenceExternals.verifyingKey (referenceKey 1))
        (referenceExternals.sign (referenceKey 1) (canonicalManifestDigest
          referenceExternals.toCrypto (referenceExternals.verifyingKey (referenceKey 1))
          (referenceManifest players))) (referenceState players n)
      = .ok (referenceSession players n) := by
  simp only [M3SecureSession.new, hvalid]
  rw [referenceExternals_correct]
  rfl

/-! ## Rejected datagrams are inert -/

/-- **A datagram with any outcome but `accepted` changes only the two reassembly buffers.**
Authority, epoch, every peer row, receipts, installed checkpoint, keyframes, accepted snapshot and
accepted match state are those of before. -/
theorem rejected_datagram_is_inert (X : Externals) (s : M3SecureSession) (env : M3EnvelopeV2)
    (source : SocketAddr) (nodeKey : Option NodeKey) (nowMs : UInt64)
    (installable : M3MatchCheckpointV2 → Bool) (outcome : AcceptOutcome) (t : M3SecureSession)
    (h : s.acceptWithSourceValidated X env source nodeKey nowMs installable = (outcome, t))
    (hne : outcome ≠ .accepted) :
    t.state = s.state ∧ t.installedCheckpoint = s.installedCheckpoint ∧
      t.sentActorKeyframes = s.sentActorKeyframes ∧
      t.receivedActorKeyframes = s.receivedActorKeyframes ∧
      t.acceptedActorSnapshot = s.acceptedActorSnapshot ∧
      t.acceptedMatchState = s.acceptedMatchState ∧
      t.manifest = s.manifest ∧ t.rosterHash = s.rosterHash := by
  have hstep : BufferStep s env nowMs
      (s.acceptWithSourceValidated X env source nodeKey nowMs installable).2 :=
    acceptWithSourceValidated_rejected (by rw [h]; exact hne)
  rw [h] at hstep
  have hsame : t = { s with
      pendingMigration := t.pendingMigration
      pendingMatchState := t.pendingMatchState } := hstep.same
  rw [hsame]
  exact ⟨rfl, rfl, rfl, rfl, rfl, rfl, rfl, rfl⟩

theorem rejected_datagram_is_inert_replayed_heartbeat :
    ∃ outcome t, (referenceSession [1, 2] 2).acceptWithSourceValidated referenceExternals
        (referenceEnvelope [1, 2] 1 0 1 7 .heartbeat) (referenceAddress 1) none 50 (fun _ => true)
        = (outcome, t) ∧
      outcome = .duplicateOrReplay ∧ t.state = (referenceSession [1, 2] 2).state := by
  have hauth : (referenceSession [1, 2] 2).authenticate referenceExternals
      (referenceEnvelope [1, 2] 1 0 1 7 .heartbeat) (referenceAddress 1) none = none :=
    referenceEnvelope_authentic rfl (by decide) rfl
  have hout : ((referenceSession [1, 2] 2).acceptAuthenticated referenceExternals
      (referenceEnvelope [1, 2] 1 0 1 7 .heartbeat) 50 fun _ => true).1 = .duplicateOrReplay := by
    decide +kernel
  have hstep : (referenceSession [1, 2] 2).acceptWithSourceValidated referenceExternals
      (referenceEnvelope [1, 2] 1 0 1 7 .heartbeat) (referenceAddress 1) none 50 (fun _ => true)
      = (.duplicateOrReplay, ((referenceSession [1, 2] 2).acceptAuthenticated referenceExternals
        (referenceEnvelope [1, 2] 1 0 1 7 .heartbeat) 50 fun _ => true).2) := by
    rw [acceptWithSourceValidated, hauth]
    exact Prod.ext hout rfl
  exact ⟨_, _, hstep, rfl,
    (rejected_datagram_is_inert _ _ _ _ _ _ _ _ _ hstep (by decide)).1⟩

end M3SecureSession

end Spurfire
