import Spurfire.Net.Authority

/-!
# Exactly-once admission

Fragments are buffered without advancing the replay window of their sender, and other packets of
the same sender advance it meanwhile.  So a match-state fragment may be admitted below the window:
what protects it is the replay floor of its buffer, the window at the time the buffer was opened.

* `Buffers` is the invariant of the two reassembly buffers;
* `lastSequence_admitted` says what an admission does to the windows;
* `Spent` says why an envelope can never be admitted again, and the at-most-once rule of `Runs`
  carries it over whole runs.
-/

namespace Spurfire

open Std (ExtTreeMap)

namespace M3SecureSession

variable {X : Externals} {s t : M3SecureSession} {env e : M3EnvelopeV2} {nowMs : UInt64}
  {installable : M3MatchCheckpointV2 → Bool}

/-! ## The reassembly buffers -/

/-- The rows of a match-state buffer are fragments of its sender above its replay floor. -/
def MatchStateOk (p : PendingMatchState) : Prop :=
  ∀ e ∈ fragmentRows p.envelopes,
    e.payload.isMatchStateFragment ∧ e.sender = p.sender ∧ p.replayFloor < e.sequence

/-- The rows of a migration buffer are fragments of the player it nominates. -/
def MigrationOk (p : PendingMigration) : Prop :=
  ∀ e ∈ fragmentRows p.envelopes, e.payload.isMigrationFragment ∧ e.sender = p.authority

structure Buffers (s : M3SecureSession) : Prop where
  matchState : ∀ p, s.pendingMatchState = some p → MatchStateOk p
  migration : ∀ p, s.pendingMigration = some p → MigrationOk p

@[simp] theorem fragmentRows_empty : fragmentRows ∅ = [] := by
  simp [fragmentRows]

/-- A fragment goes to the live buffer of its sender or to an empty one at the current window. -/
theorem openMatchState_cases {hash : Vector UInt8 32} {count : UInt16} {p : PendingMatchState}
    (h : s.openMatchState env nowMs hash count = some p) :
    p.sender = env.sender ∧ (s.pendingMatchState = some p ∨
      (p.envelopes = ∅ ∧ p.replayFloor = s.state.lastSequence env.sender)) := by
  unfold openMatchState at h
  simp only at h
  split at h
  · cases h
    exact ⟨rfl, .inr ⟨rfl, rfl⟩⟩
  · next q hq =>
    obtain ⟨hlive, -⟩ := Option.filter_eq_some_iff.mp hq
    split_ifs at h with hconflict hold
    · cases h
      exact ⟨rfl, .inr ⟨rfl, rfl⟩⟩
    · cases h
      refine ⟨?_, .inl hlive⟩
      by_contra hne
      exact hconflict (by simp [matchStateConflicts, hne])

theorem openMigration_cases (s : M3SecureSession) (nowMs : UInt64) (authority : PlayerId)
    (epoch : UInt64) (hash : Vector UInt8 32) (count : UInt16) :
    s.pendingMigration = some (s.openMigration nowMs authority epoch hash count) ∨
      (s.openMigration nowMs authority epoch hash count).envelopes = ∅ := by
  unfold openMigration
  cases hq : s.pendingMigration.filter fun p => !SessionState.timedOut nowMs p.startedMs with
  | none => exact .inr rfl
  | some q => exact .inl (Option.filter_eq_some_iff.mp hq).1

theorem MatchStateOk.open (hs : s.Buffers) {hash : Vector UInt8 32} {count : UInt16}
    {p : PendingMatchState} (h : s.openMatchState env nowMs hash count = some p) :
    MatchStateOk p := by
  obtain ⟨-, hlive | ⟨hempty, -⟩⟩ := openMatchState_cases h
  · exact hs.matchState p hlive
  · intro e he
    rw [hempty, fragmentRows_empty] at he
    cases he

theorem MigrationOk.open (hs : s.Buffers) (nowMs : UInt64) (authority : PlayerId) (epoch : UInt64)
    (hash : Vector UInt8 32) (count : UInt16) :
    MigrationOk (s.openMigration nowMs authority epoch hash count) := by
  obtain hlive | hempty := openMigration_cases s nowMs authority epoch hash count
  · exact hs.migration _ hlive
  · intro e he
    rw [hempty, fragmentRows_empty] at he
    cases he

theorem MatchStateOk.add {p : PendingMatchState} (h : MatchStateOk p) {index : UInt16}
    (hfrag : env.payload.isMatchStateFragment) (hsender : p.sender = env.sender)
    (hfloor : p.replayFloor < env.sequence) : MatchStateOk (p.add index env) := by
  intro e he
  rcases mem_fragmentRows_of_insert he with rfl | hold
  · exact ⟨hfrag, hsender.symm, hfloor⟩
  · exact h e hold

theorem MigrationOk.add {p : PendingMigration} (h : MigrationOk p) {index : UInt16}
    (hfrag : env.payload.isMigrationFragment) (hauthority : p.authority = env.sender) :
    MigrationOk (p.add index env) := by
  intro e he
  rcases mem_fragmentRows_of_insert he with rfl | hold
  · exact ⟨hfrag, hauthority.symm⟩
  · exact h e hold

/-! ## What a call does to the buffers -/

/-- A buffer is kept, emptied, or filled by a rejected datagram. -/
structure BufferMove (s : M3SecureSession) (c : Call) (t : M3SecureSession) : Prop where
  matchState : t.pendingMatchState = s.pendingMatchState ∨ t.pendingMatchState = none ∨
    ∃ env source nodeKey nowMs installable, c = .accept env source nodeKey nowMs installable ∧
      MatchStateBufferStep s env nowMs t.pendingMatchState
  migration : t.pendingMigration = s.pendingMigration ∨ t.pendingMigration = none ∨
    ∃ env source nodeKey nowMs installable, c = .accept env source nodeKey nowMs installable ∧
      MigrationBufferStep s env nowMs t.pendingMigration

theorem pending_directCommit (snapshot : Option M3ActorSnapshot) :
    ((s.directCommit env nowMs snapshot).pendingMatchState = s.pendingMatchState ∨
      (s.directCommit env nowMs snapshot).pendingMatchState = none) ∧
      (s.directCommit env nowMs snapshot).pendingMigration = s.pendingMigration := by
  unfold directCommit recordMatchState recordSnapshot installClaim
  repeat' split
  all_goals first | exact ⟨.inl rfl, rfl⟩ | exact ⟨.inr rfl, rfl⟩

theorem bufferMove_call (s : M3SecureSession) (c : Call) : BufferMove s c (s.call X c).2 := by
  cases c with
  | envelope tick payload signingKey =>
    obtain ⟨error, h⟩ | ⟨sent, env, -, -, -, -, h⟩ := envelope_cases X s tick payload signingKey
    · simp only [call, h]
      exact ⟨.inl rfl, .inl rfl⟩
    · simp only [call, h, afterSend, rememberKeyframe]
      constructor <;> split <;> exact .inl rfl
  | accept env source nodeKey nowMs installable =>
    change BufferMove s _ (s.acceptWithSourceValidated X env source nodeKey nowMs installable).2
    by_cases h : (s.acceptWithSourceValidated X env source nodeKey nowMs installable).1 = .accepted
    · generalize hu : (s.acceptWithSourceValidated X env source nodeKey nowMs installable).2 = u
      have hadm := (acceptWithSourceValidated_accepted h).2.2.2
      rw [hu] at hadm
      cases hadm with
      | direct =>
        obtain ⟨hms, hmig⟩ := pending_directCommit _
        exact ⟨hms.imp_right .inl, .inl hmig⟩
      | matchState => exact ⟨.inr (.inl rfl), .inl rfl⟩
      | migration => exact ⟨.inr (.inl rfl), .inr (.inl rfl)⟩
    · have hstep := acceptWithSourceValidated_rejected h
      exact ⟨.inr (.inr ⟨_, _, _, _, _, rfl, hstep.matchState⟩),
        .inr (.inr ⟨_, _, _, _, _, rfl, hstep.migration⟩)⟩
  | expireAndMigrate nowMs =>
    change BufferMove s _ (s.expireAndMigrate nowMs).2
    unfold expireAndMigrate
    simp only
    split_ifs
    · exact ⟨.inr (.inl rfl), .inr (.inl rfl)⟩
    · exact ⟨.inl rfl, .inl rfl⟩
  | configureMigrationElection response =>
    change BufferMove s _ (s.configureMigrationElection response).2
    unfold configureMigrationElection
    simp only
    repeat' split
    all_goals exact ⟨.inl rfl, .inl rfl⟩
  | takeInstalledCheckpoint => exact ⟨.inl rfl, .inl rfl⟩

theorem Buffers.call (hs : s.Buffers) (c : Call) : (s.call X c).2.Buffers := by
  have hmove := bufferMove_call (X := X) s c
  constructor
  · rcases hmove.matchState with h | h | ⟨env, _, _, nowMs, _, -, hstep⟩
    · rw [h]
      exact hs.matchState
    · rw [h]
      intro p hp
      cases hp
    · intro p hp
      rw [hp] at hstep
      generalize hq : some p = q at hstep
      cases hstep with
      | kept => exact hs.matchState p hq.symm
      | dropped => cases hq
      | opened _ hopen =>
        cases hq
        exact .open hs hopen
      | added hfrag hopen hfloor =>
        cases hq
        exact (MatchStateOk.open hs hopen).add hfrag (openMatchState_cases hopen).1 hfloor
  · rcases hmove.migration with h | h | ⟨env, _, _, nowMs, _, -, hstep⟩
    · rw [h]
      exact hs.migration
    · rw [h]
      intro p hp
      cases hp
    · intro p hp
      rw [hp] at hstep
      generalize hq : some p = q at hstep
      cases hstep with
      | kept => exact hs.migration p hq.symm
      | dropped => cases hq
      | opened =>
        cases hq
        exact .open hs _ _ _ _ _
      | added hfrag hopen hauthority =>
        cases hq
        subst hopen
        exact (MigrationOk.open hs _ _ _ _ _).add hfrag hauthority

/-! ## Replay windows -/

/-- An admission moves the window of its sender up, and no other. -/
theorem lastSequence_admitted (h : Admitted X s env nowMs installable t) :
    ∃ last, s.state.lastSequence env.sender < last ∧
      ∀ q, t.state.lastSequence q = if env.sender = q then last else s.state.lastSequence q := by
  cases h with
  | direct _ _ gate =>
    refine ⟨env.sequence, (directGate_ok gate).sequence, ?_⟩
    intro q
    have htouch := s.state.lastSequence_touch env.sender q env.sequence nowMs (env.payload ≠ .leave)
    rw [← htouch]
    unfold SessionState.lastSequence
    rw [peers_directCommit, SessionState.peers_touch]
  | @matchState _ _ _ _ _ _ last _ _ _ _ _ _ _ fresh =>
    exact ⟨last, fresh, fun q => SessionState.lastSequence_touch _ _ q last _ true⟩
  | @migration _ index _ _ p _ _ last _ _ _ _ _ _ _ _ above hlast =>
    have henv := mem_fragmentRows_insert p.envelopes index env
    have hlt := above env henv
    have hle := sequence_le_max hlast henv
    exact ⟨last, by grind, fun q => SessionState.lastSequence_touch _ _ q last _ true⟩

/-- Only an accepted datagram changes what has been seen of the members and what has been applied. -/
theorem call_kept (s : M3SecureSession) (c : Call) :
    (∃ env source nodeKey nowMs installable, c = .accept env source nodeKey nowMs installable
      ∧ (s.acceptWithSourceValidated X env source nodeKey nowMs installable).1 = .accepted)
    ∨ ((s.call X c).2.state.appliedShotResults = s.state.appliedShotResults
      ∧ ∀ q, (s.call X c).2.state.lastSequence q = s.state.lastSequence q) := by
  cases c with
  | envelope tick payload signingKey =>
    obtain ⟨next, h⟩ := envelope_frame (X := X) (s := s) tick payload signingKey
    exact .inr ⟨congrArg (·.appliedShotResults) h, fun q => congrArg (·.lastSequence q) h⟩
  | accept env source nodeKey nowMs installable =>
    by_cases h : (s.acceptWithSourceValidated X env source nodeKey nowMs installable).1 = .accepted
    · exact .inl ⟨env, source, nodeKey, nowMs, installable, rfl, h⟩
    · right
      have hstate := (acceptWithSourceValidated_rejected h).same.state_eq
      exact ⟨congrArg (·.appliedShotResults) hstate, fun q => congrArg (·.lastSequence q) hstate⟩
  | expireAndMigrate nowMs =>
    simp only [call, Prod.map_snd, id_eq, state_expireAndMigrate, SessionState.expireAndMigrate_eq]
    repeat' split
    all_goals exact .inr ⟨rfl, SessionState.lastSequence_expirePeers⟩
  | configureMigrationElection response =>
    obtain ⟨preference, h⟩ := configure_frame (s := s) response
    exact .inr ⟨congrArg (·.appliedShotResults) h, fun q => congrArg (·.lastSequence q) h⟩
  | takeInstalledCheckpoint => exact .inr ⟨rfl, fun _ => rfl⟩

/-- **No call moves a replay window down.** -/
theorem lastSequence_le_call (s : M3SecureSession) (c : Call) (q : PlayerId) :
    s.state.lastSequence q ≤ (s.call X c).2.state.lastSequence q := by
  rcases call_kept (X := X) s c with ⟨env, source, nodeKey, nowMs, installable, rfl, h⟩ | ⟨-, h⟩
  · change _ ≤ (s.acceptWithSourceValidated X env source nodeKey nowMs
      installable).2.state.lastSequence q
    obtain ⟨last, hlt, hall⟩ :=
      lastSequence_admitted (acceptWithSourceValidated_accepted h).2.2.2
    rw [hall q]
    split_ifs with hq
    · exact hq ▸ UInt64.le_of_lt hlt
    · exact UInt64.le_refl _
  · rw [h q]
    exact UInt64.le_refl _

/-! ## Contributions -/

/-- The envelopes an accepted datagram puts into effect: itself, or the fragments of its buffer. -/
def contributions (s : M3SecureSession) (env : M3EnvelopeV2) (nowMs : UInt64) :
    List M3EnvelopeV2 :=
  match env.payload with
  | .matchStateFragment hash index count _ =>
    match s.openMatchState env nowMs hash count with
    | none => []
    | some p => fragmentRows (p.add index env).envelopes
  | .migrationFragment authority epoch hash index count _ =>
    fragmentRows ((s.openMigration nowMs authority epoch hash count).add index env).envelopes
  | _ => [env]

/-- The envelope `e` contributes to the accepted outcome of a call. -/
inductive Contributes (X : Externals) (s : M3SecureSession) : Call → M3EnvelopeV2 → Prop
  | intro {env e source nodeKey nowMs installable}
      (accepted : (s.acceptWithSourceValidated X env source nodeKey nowMs installable).1
        = .accepted)
      (mem : e ∈ s.contributions env nowMs) :
      Contributes X s (.accept env source nodeKey nowMs installable) e

/-- What tells signed envelopes apart here: sender, sequence, and whether it is a match-state
fragment.  The kind matters because match-state fragments have a window of their own. -/
def slot (e : M3EnvelopeV2) : PlayerId × UInt64 × Bool :=
  (e.sender, e.sequence, e.payload.isMatchStateFragment)

/-- A slot below the window of its sender that, if it is of a match-state fragment, no live buffer
of its sender would take. -/
def Spent (s : M3SecureSession) (x : PlayerId × UInt64 × Bool) : Prop :=
  x.2.1 ≤ s.state.lastSequence x.1 ∧
    (x.2.2 → ∀ p, s.pendingMatchState = some p → p.sender = x.1 → x.2.1 ≤ p.replayFloor)

theorem contributions_direct (hms : ¬ env.payload.isMatchStateFragment)
    (hmig : ¬ env.payload.isMigrationFragment) : s.contributions env nowMs = [env] := by
  unfold contributions
  split
  · next hp => exact absurd (by rw [hp]; rfl) hms
  · next hp => exact absurd (by rw [hp]; rfl) hmig
  · rfl

/-- What contributes is fresh: it was not spent before. -/
theorem not_spent_of_admitted (hs : s.Buffers) (h : Admitted X s env nowMs installable t)
    (he : e ∈ s.contributions env nowMs) : ¬ s.Spent (slot e) := by
  rintro ⟨hbelow, hfloor⟩
  cases h with
  | direct hms hmig gate =>
    rw [contributions_direct hms hmig, List.mem_singleton] at he
    subst he
    exact absurd hbelow (UInt64.not_le.mpr (directGate_ok gate).sequence)
  | @matchState hash index count fragment p _ _ payload _ hopen floor =>
    simp only [contributions, payload, hopen] at he
    obtain ⟨hsender, hp⟩ := openMatchState_cases hopen
    have hok : MatchStateOk (p.add index env) :=
      (MatchStateOk.open hs hopen).add (by rw [payload]; rfl) hsender floor
    obtain ⟨hfrag, hrow, habove⟩ := hok e he
    change p.replayFloor < e.sequence at habove
    rcases hp with hlive | ⟨-, hfresh⟩
    · exact absurd (hfloor hfrag p hlive hrow.symm) (UInt64.not_le.mpr habove)
    · -- a buffer opened now has the window itself as its floor
      have hsame : e.sender = env.sender := hrow.trans hsender
      simp only [slot, hsame] at hbelow
      rw [hfresh] at habove
      exact absurd hbelow (UInt64.not_le.mpr habove)
  | @migration hash index count fragment p _ _ _ epoch _ payload hopen hauthority _ _ _ above =>
    simp only [contributions, payload, ← hopen] at he
    have hok : MigrationOk (p.add index env) := by
      subst hopen
      exact (MigrationOk.open hs _ _ _ _ _).add (by rw [payload]; rfl) hauthority
    have hsame : e.sender = env.sender := (hok e he).2.trans hauthority
    simp only [slot, hsame] at hbelow
    exact absurd hbelow (UInt64.not_le.mpr (above e he))

theorem spent_of_admitted (hs : s.Buffers) (h : Admitted X s env nowMs installable t)
    (he : e ∈ s.contributions env nowMs) : t.Spent (slot e) := by
  cases h with
  | @direct snapshot hms hmig gate =>
    rw [contributions_direct hms hmig, List.mem_singleton] at he
    subst he
    refine ⟨?_, fun hfrag => absurd hfrag hms⟩
    have hwindow : (s.directCommit e nowMs snapshot).state.lastSequence e.sender = e.sequence := by
      unfold SessionState.lastSequence
      rw [peers_directCommit, ExtTreeMap.getElem?_insert_self]
      rfl
    rw [slot, hwindow]
    exact UInt64.le_refl _
  | @matchState hash index count fragment p _ last payload _ hopen floor sameSender _ hlast =>
    simp only [contributions, payload, hopen] at he
    refine ⟨?_, fun _ p hp => by cases hp⟩
    rw [slot, SessionState.lastSequence_touch, if_pos (sameSender e he).symm]
    exact sequence_le_max hlast he
  | @migration hash index count fragment p _ _ last epoch _ payload hopen hauthority _ _ _ _ hlast =>
    simp only [contributions, payload, ← hopen] at he
    have hok : MigrationOk (p.add index env) := by
      subst hopen
      exact (MigrationOk.open hs _ _ _ _ _).add (by rw [payload]; rfl) hauthority
    have hsame : env.sender = e.sender := ((hok e he).2.trans hauthority).symm
    refine ⟨?_, fun _ p hp => by cases hp⟩
    change e.sequence ≤ (s.state.touch env.sender last nowMs true).lastSequence e.sender
    rw [SessionState.lastSequence_touch, if_pos hsame]
    exact sequence_le_max hlast he

/-- Spent slots stay spent: the windows only grow, and a buffer opened later starts at one. -/
theorem Spent.call {x : PlayerId × UInt64 × Bool} (h : s.Spent x) (c : Call) :
    (s.call X c).2.Spent x := by
  obtain ⟨hbelow, hfloor⟩ := h
  refine ⟨UInt64.le_trans hbelow (lastSequence_le_call s c x.1), ?_⟩
  intro hfrag p hp hsender
  rcases (bufferMove_call (X := X) s c).matchState with hkept | hnone | ⟨env, _, _, _, _, -, hstep⟩
  · exact hfloor hfrag p (hkept ▸ hp) hsender
  · cases hnone.symm.trans hp
  · rw [hp] at hstep
    -- the buffer `p` comes from: the floor of `q` is an old one, or the window now
    have hopened : ∀ {hash count q}, s.openMatchState env ‹UInt64› hash count = some q →
        q.sender = x.1 → x.2.1 ≤ q.replayFloor := by
      intro hash count q hopen hq
      obtain ⟨henv, hlive | ⟨-, hfresh⟩⟩ := openMatchState_cases hopen
      · exact hfloor hfrag q hlive hq
      · rw [hfresh, ← henv, hq]
        exact hbelow
    generalize hq : some p = q at hstep
    cases hstep with
    | kept => exact hfloor hfrag p hq.symm hsender
    | dropped => cases hq
    | opened _ hopen =>
      cases hq
      exact hopened hopen hsender
    | @added _ index _ q _ hopen =>
      cases hq
      change q.sender = x.1 at hsender
      exact hopened (q := q) hopen hsender

/-! ## Runs -/

theorem Contributes.admitted {c : Call} (h : Contributes X s c e) :
    ∃ env source nodeKey nowMs installable, c = .accept env source nodeKey nowMs installable ∧
      e ∈ s.contributions env nowMs ∧ Admitted X s env nowMs installable (s.call X c).2 := by
  cases h with
  | intro accepted mem =>
    exact ⟨_, _, _, _, _, rfl, mem, (acceptWithSourceValidated_accepted accepted).2.2.2⟩

theorem buffers_new {manifest : RosterManifest} {key : SessionPublicKey}
    {signature : SessionSignature} {state : SessionState}
    (h : M3SecureSession.new X manifest key signature state = .ok s) : s.Buffers := by
  unfold M3SecureSession.new at h
  split at h
  · cases h
  · split at h
    · cases h
    · cases h
      exact ⟨fun _ hp => (nomatch hp), fun _ hp => (nomatch hp)⟩

/-- **Exactly-once admission.**  In every run of a session: an accepted datagram moves the replay
window of its sender up, no call moves a window down, and two envelopes that contribute to two
accepted outcomes are different signed envelopes.  They even differ in sender or sequence, unless
their sender signed a match-state fragment and something else under one sequence. -/
theorem admitted_exactly_once (X : Externals) (manifest : RosterManifest) (key : SessionPublicKey)
    (signature : SessionSignature) (state : SessionState) (s₀ : M3SecureSession)
    (h : M3SecureSession.new X manifest key signature state = .ok s₀) (before : List Call) :
    let s := Runs.run (call X) s₀ before
    (∀ env source nodeKey nowMs installable,
      (s.acceptWithSourceValidated X env source nodeKey nowMs installable).1 = .accepted →
        s.state.lastSequence env.sender
          < (s.acceptWithSourceValidated X env source nodeKey nowMs
              installable).2.state.lastSequence env.sender) ∧
      (∀ c q, s.state.lastSequence q ≤ (s.call X c).2.state.lastSequence q) ∧
      ∀ a mid b e e', Contributes X s a e →
        Contributes X (Runs.run (call X) (s.call X a).2 mid) b e' →
          e ≠ e' ∧ (e.sender = e'.sender → e.sequence = e'.sequence →
            e.payload.isMatchStateFragment ≠ e'.payload.isMatchStateFragment) := by
  intro s
  have hbuffers : s.Buffers :=
    Runs.run_invariant (P := Buffers) (fun _ c ht => ht.call c) (buffers_new h) before
  refine ⟨?_, lastSequence_le_call s, ?_⟩
  · intro env source nodeKey nowMs installable hacc
    obtain ⟨last, hlt, hall⟩ := lastSequence_admitted (acceptWithSourceValidated_accepted hacc).2.2.2
    rw [hall, if_pos rfl]
    exact hlt
  · intro a mid b e e' ha hb
    have hslots : slot e ≠ slot e' := by
      intro heq
      have halong : Runs.Along (call X) (fun _ _ => True) s (a :: mid ++ [b]) :=
        Runs.along_true _ _
      refine Runs.spent_once (I := Buffers) (S := Spent)
        (U := fun s c x => ∃ e, Contributes X s c e ∧ slot e = x) ?_ ?_ ?_ ?_ hbuffers halong
        ⟨e, ha, rfl⟩ ⟨e', hb, heq.symm⟩
      · intro t c _ ht
        exact ht.call c
      · intro t c x _ _ hx
        exact hx.call c
      · rintro t c _ _ ht ⟨d, hd, rfl⟩
        obtain ⟨env, _, _, nowMs, _, rfl, hmem, hadm⟩ := hd.admitted
        exact not_spent_of_admitted ht hadm hmem
      · rintro t c _ _ ht ⟨d, hd, rfl⟩
        obtain ⟨env, _, _, nowMs, _, rfl, hmem, hadm⟩ := hd.admitted
        exact spent_of_admitted ht hadm hmem
    refine ⟨fun heq => hslots (heq ▸ rfl), ?_⟩
    intro hsender hsequence hkind
    exact hslots (by simp only [slot, hsender, hsequence, hkind])

/-- A heartbeat of player 2 reaches player 3. -/
def heartbeatToThree : Call := referenceDelivery [1, 2, 3] 2 1 1 7 .heartbeat 100

theorem contributes_heartbeatToThree :
    Contributes referenceExternals (referenceSession [1, 2, 3] 3) heartbeatToThree
      (referenceEnvelope [1, 2, 3] 2 1 1 7 .heartbeat) := by
  refine .intro ?_ List.mem_cons_self
  rw [acceptWithSourceValidated, referenceEnvelope_authentic rfl (by decide) rfl]
  decide +kernel

/-- It is admitted, and whatever comes in between, its copies are not admitted again. -/
theorem admitted_exactly_once_heartbeat :
    Contributes referenceExternals (referenceSession [1, 2, 3] 3) heartbeatToThree
        (referenceEnvelope [1, 2, 3] 2 1 1 7 .heartbeat) ∧
      ∀ mid, ¬ Contributes referenceExternals
        (Runs.run (call referenceExternals)
          (call referenceExternals (referenceSession [1, 2, 3] 3) heartbeatToThree).2 mid)
        heartbeatToThree (referenceEnvelope [1, 2, 3] 2 1 1 7 .heartbeat) := by
  refine ⟨contributes_heartbeatToThree, ?_⟩
  intro mid hagain
  have hvalid : (referenceManifest [1, 2, 3]).validate = .ok () := by decide +kernel
  obtain ⟨-, -, honce⟩ := admitted_exactly_once referenceExternals _ _ _ _ _
    (new_reference 3 hvalid) []
  exact (honce _ mid _ _ _ contributes_heartbeatToThree hagain).1 rfl

end M3SecureSession

end Spurfire
