import Spurfire.Server.StandingAuthority

/-!
# The declared state machine of a lobby

Every change of a record moves the state of its lobby along declared edges and leaves a valid lobby,
with two exceptions: the launcher closes a lobby whatever its state is, and a failed lobby whose
tailnet has been proven absent loses the reason of its failure.

* `StoredLobby.Valid` is what `Lobby::validate` checks;
* `Change.leads`, `Change.valid`: the single changes;
* `ServiceStep.Orderly`: neither exception is taken, and no persist fails once its image is in place;
* `state_machine_along` is the result for every run of orderly steps, with restarts from the file.
-/

namespace Spurfire

open Interrupt

theorem LobbyState.canTransitionTo_closing {state : LobbyState} (h : state.isClosed = false) :
    state.canTransitionTo .closing = true := by
  cases state with
  | provisioning => rfl
  | forming => rfl
  | ready => rfl
  | starting => rfl
  | inMatch => rfl
  | _ => exact absurd h.symm Bool.false_ne_true

/-! ## Valid lobbies -/

def Lobby.Explained (lobby : Lobby) : Prop :=
  ∃ reason, lobby.stateReason = some reason ∧ isBlank reason = false

namespace StoredLobby

variable {w w' : StoredLobby} {now : UnixMillis}

/-- Capacity, roster and reason are as `Lobby::validate` wants them. -/
structure Valid (w : StoredLobby) : Prop where
  capacity : w.lobby.maxPlayers ≠ 0 ∧ w.lobby.maxPlayers ≤ MAX_PLAYERS
  room : w.lobby.roster.length ≤ w.lobby.maxPlayers.toNat
  reason : w.lobby.state = .failed → w.lobby.Explained

theorem Valid.validate (h : w.Valid) : w.lobby.validate = .ok () := by
  unfold Lobby.validate
  rw [if_neg, if_neg (not_lt.mpr h.room), if_neg]
  · intro hmissing
    obtain ⟨hrequires, hblank⟩ := Bool.and_eq_true_iff.mp hmissing
    have hfailed : w.lobby.state = .failed := by
      cases hstate : w.lobby.state with
      | failed => rfl
      | _ =>
        rw [hstate] at hrequires
        exact absurd hrequires Bool.false_ne_true
    obtain ⟨reason, hreason, htext⟩ := h.reason hfailed
    rw [hreason, Option.all_some, htext] at hblank
    exact absurd hblank Bool.false_ne_true
  · rintro (hzero | hlarge)
    · exact h.capacity.1 hzero
    · exact UInt8.not_le.mpr hlarge h.capacity.2

/-- The state has moved along declared edges, a failure is explained, and the roster has not
outgrown the capacity. -/
structure Advances (w w' : StoredLobby) : Prop where
  leads : w.lobby.state.Leads w'.lobby.state
  reason : w'.lobby.state = .failed → w'.lobby.Explained
  roster : w'.lobby.roster.length ≤ max w.lobby.roster.length w.lobby.maxPlayers.toNat

theorem Advances.valid (h : Advances w w') (hw : w.Valid) (hfixed : w'.fixed = w.fixed) :
    w'.Valid := by
  have hmax : w'.lobby.maxPlayers = w.lobby.maxPlayers := congrArg FixedPart.maxPlayers hfixed
  refine ⟨hmax ▸ hw.capacity, ?_, h.reason⟩
  rw [hmax]
  exact h.roster.trans (max_le hw.room le_rfl)

/-- Nothing but a reason is new. -/
theorem Advances.explained (hstate : w'.lobby.state = w.lobby.state)
    (hreason : w.lobby.state = .failed → w'.lobby.Explained)
    (hroster : w'.lobby.roster.length ≤ w.lobby.roster.length) : Advances w w' :=
  ⟨hstate ▸ .refl _, fun hfailed => hreason (hstate ▸ hfailed), hroster.trans (le_max_left _ _)⟩

theorem Valid.same (hw : w.Valid) (hstate : w'.lobby.state = w.lobby.state)
    (hreason : w'.lobby.stateReason = w.lobby.stateReason)
    (hroster : w'.lobby.roster.length ≤ w.lobby.roster.length) : Advances w w' :=
  .explained hstate (fun hfailed => by
    obtain ⟨reason, htext, hblank⟩ := hw.reason hfailed
    exact ⟨reason, hreason.trans htext, hblank⟩) hroster

/-- One declared edge, to a state that needs no reason. -/
theorem Advances.edge (hedge : w.lobby.state.canTransitionTo w'.lobby.state = true)
    (hnext : w'.lobby.state ≠ .failed)
    (hroster : w'.lobby.roster.length ≤ max w.lobby.roster.length w.lobby.maxPlayers.toNat) :
    Advances w w' :=
  ⟨.edge hedge, fun hfailed => absurd hfailed hnext, hroster⟩

theorem Advances.failed (hedge : w.lobby.state.canTransitionTo .failed = true)
    (hstate : w'.lobby.state = .failed) (hreason : w'.lobby.Explained)
    (hroster : w'.lobby.roster.length ≤ w.lobby.roster.length) : Advances w w' :=
  ⟨hstate ▸ .edge hedge, fun _ => hreason, hroster.trans (le_max_left _ _)⟩

theorem Advances.trans {u : StoredLobby} (h : Advances u w) (h' : Advances w w')
    (hmax : w.lobby.maxPlayers = u.lobby.maxPlayers) : Advances u w' :=
  ⟨h.leads.trans h'.leads, h'.reason, h'.roster.trans (max_le h.roster (hmax ▸ le_max_right _ _))⟩

/-! ## The single updates -/

theorem advances_applyCleanupResult {result : Except ProviderError CleanupOutcome} {full : Bool}
    (hw : w.Valid) (h : w.applyCleanupResult now result full = some w') : Advances w w' := by
  have hsettled : Advances w (w.settledBy now full result) := by
    cases result with
    | error error =>
      unfold settledBy
      dsimp only
      split_ifs
      · exact .explained rfl (fun _ => ⟨_, rfl, error.stateReason_not_blank⟩) le_rfl
      · exact hw.same rfl rfl le_rfl
    | ok outcome => exact hw.same rfl rfl le_rfl
  have hmarked : (w.settledAndMarked now full result).lobby
      = (w.settledBy now full result).lobby := by
    unfold settledAndMarked markPendingCredential
    split
    · rfl
    · rfl
  obtain ⟨lifecycle, pending, rfl, -⟩ := applyCleanupResult_some h
  refine ⟨?_, fun hfailed => ?_, ?_⟩
  · change w.lobby.state.Leads (w.settledAndMarked now full result).lobby.state
    rw [hmarked]
    exact hsettled.leads
  · change (w.settledAndMarked now full result).lobby.state = _ at hfailed
    change Lobby.Explained (w.settledAndMarked now full result).lobby
    rw [hmarked] at hfailed ⊢
    exact hsettled.reason hfailed
  · have hlength : ∀ u : StoredLobby, u.markRoster.lobby.roster.length = u.lobby.roster.length :=
      fun u => List.length_map _
    rw [hlength]
    change (w.settledAndMarked now full result).lobby.roster.length ≤ _
    rw [hmarked]
    exact hsettled.roster

theorem advances_finalizeLobbyCleanup (hw : w.Valid) (hclosed : w.lobby.state.isClosed = true)
    (finalize : Bool) : Advances w (w.finalizeLobbyCleanup now finalize) := by
  rcases w.finalizeLobbyCleanup_cases now finalize with heq | ⟨-, hopen, heq⟩
  · rw [heq]
    exact hw.same rfl rfl le_rfl
  · have hlegal : w.lobby.state.canTransitionTo .destroyed = true := by
      cases hstate : w.lobby.state with
      | closing => rfl
      | failed => rfl
      | expired => rfl
      | destroyed => exact absurd hstate hopen
      | _ =>
        rw [hstate] at hclosed
        exact absurd hclosed Bool.false_ne_true
    rw [heq, if_pos hlegal]
    exact .edge hlegal LobbyState.noConfusion (le_max_left _ _)

theorem advances_accessDenied (w : StoredLobby) (error : ProviderError) (now : UnixMillis) :
    Advances w (w.accessDenied error now) := by
  have hreason : (w.accessDenied error now).lobby.Explained :=
    ⟨_, rfl, error.stateReason_not_blank⟩
  by_cases hfails :
      (!w.lobby.state.isTerminal && w.lobby.state.canTransitionTo .failed) = true
  · refine .failed (Bool.and_eq_true_iff.mp hfails).2 ?_ hreason le_rfl
    unfold accessDenied
    exact if_pos hfails
  · refine .explained ?_ (fun _ => hreason) le_rfl
    unfold accessDenied
    exact if_neg hfails

/-- Any state but `READY` is left alone, and `READY` goes back to `FORMING`. -/
theorem leads_unready (w : StoredLobby) :
    w.lobby.state.Leads (if w.lobby.state = .ready then .forming else w.lobby.state) := by
  split_ifs with hready
  · rw [hready]
    exact .edge rfl
  · exact .refl _

/-- An update that only takes a ready lobby back. -/
theorem Valid.unready (hw : w.Valid)
    (hstate : w'.lobby.state = if w.lobby.state = .ready then .forming else w.lobby.state)
    (hreason : w'.lobby.stateReason = w.lobby.stateReason)
    (hroster : w'.lobby.roster.length ≤ max w.lobby.roster.length w.lobby.maxPlayers.toNat) :
    Advances w w' := by
  refine ⟨hstate ▸ w.leads_unready, fun hfailed => ?_, hroster⟩
  rw [hstate] at hfailed
  split_ifs at hfailed
  obtain ⟨reason, htext, hblank⟩ := hw.reason hfailed
  exact ⟨reason, hreason.trans htext, hblank⟩

theorem stateReason_unready (w : StoredLobby) :
    w.unready.lobby.stateReason = w.lobby.stateReason
      ∧ w.unready.lobby.roster = w.lobby.roster := by
  unfold StoredLobby.unready
  split_ifs
  · exact ⟨rfl, rfl⟩
  · exact ⟨rfl, rfl⟩

theorem advances_enrolled (hw : w.Valid) {request : JoinLobbyRequest} {minted : MintedCredential}
    {key : String} {fingerprint : List UInt8} {token : Digest} {expiresAt : UnixMillis}
    (hroom : w.hasPlayer request.playerId = true
      ∨ w.lobby.roster.length < w.lobby.maxPlayers.toNat) :
    Advances w (w.enrolled request minted key fingerprint token expiresAt now) := by
  have hfreed : (w.withoutReservation request.playerId).unready.lobby.stateReason
        = w.lobby.stateReason
      ∧ (w.withoutReservation request.playerId).unready.lobby.roster = w.lobby.roster :=
    (w.withoutReservation request.playerId).stateReason_unready
  have hseated : ((w.withoutReservation request.playerId).seated request now).lobby.stateReason
        = w.lobby.stateReason
      ∧ ((w.withoutReservation request.playerId).seated request now).lobby.roster.length
        ≤ max w.lobby.roster.length w.lobby.maxPlayers.toNat := by
    unfold seated
    dsimp only
    by_cases hmember : (!(w.withoutReservation request.playerId).hasPlayer request.playerId) = true
    · rw [if_pos hmember]
      refine ⟨hfreed.1, ?_⟩
      have hspace : w.lobby.roster.length < w.lobby.maxPlayers.toNat := by
        refine hroom.resolve_left fun hplayer => ?_
        have : (!w.hasPlayer request.playerId) = true := hmember
        rw [hplayer] at this
        exact absurd this Bool.false_ne_true
      refine le_trans (le_of_eq ?_) (le_max_of_le_right (Nat.succ_le_of_lt hspace))
      rw [List.length_insertionSort, List.length_append, List.length_singleton]
      exact congrArg (fun l : List Player => l.length + 1) hfreed.2
    · rw [if_neg hmember]
      refine ⟨hfreed.1, le_max_of_le_left (le_of_eq ?_)⟩
      rw [List.length_map]
      exact congrArg List.length hfreed.2
  refine hw.unready ?_ hseated.1 hseated.2
  change (StoredLobby.seated _ _ _).lobby.state = _
  rw [state_seated, state_unready]
  rfl

theorem lobby_cleanupOwed (w : StoredLobby) (error : ProviderError) (dryRun : Bool) :
    (w.cleanupOwed error dryRun).lobby = w.lobby := by
  unfold cleanupOwed
  dsimp only
  split_ifs
  all_goals rfl

theorem lobby_gateRecorded (w : StoredLobby) (error : ProviderError) (now : UnixMillis) :
    (w.gateRecorded error now).lobby = w.lobby := by
  cases error with
  | childPolicyGate identity digest status deleteAcknowledged =>
    cases deleteAcknowledged with
    | true => rfl
    | false => rfl
  | _ => rfl

theorem advances_mintFailed (w : StoredLobby) (player : PlayerId) (error : ProviderError)
    (now : UnixMillis) (dryRun : Bool)
    (hstate : w.lobby.state = .forming ∨ w.lobby.state = .ready) :
    Advances w (w.mintFailed player error now dryRun) := by
  have hfreed : (if error.isUnavailable then w else w.withoutReservation player).lobby
      = w.lobby := by
    split_ifs
    · rfl
    · rfl
  have hlobby : (w.mintFailed player error now dryRun).lobby = { w.lobby with
      state := .failed, stateReason := some error.stateReason, authority := none } := by
    unfold mintFailed
    dsimp only
    rw [lobby_cleanupOwed]
    unfold forgetAuthority
    dsimp only
    rw [lobby_gateRecorded]
    unfold failedByMint
    rw [hfreed, if_pos hstate]
    unfold explained withState
    dsimp only
    rw [hfreed]
  refine .failed ?_ ?_ ?_ ?_
  · rcases hstate with hforming | hready
    · rw [hforming]
      rfl
    · rw [hready]
      rfl
  · rw [hlobby]
  · rw [hlobby]
    exact ⟨_, rfl, error.stateReason_not_blank⟩
  · rw [hlobby]

theorem advances_applyElection (hw : w.Valid) (election : AuthorityElection) (now : UnixMillis) :
    Advances w (w.applyElection election now) := by
  unfold applyElection
  dsimp only
  split_ifs with hready
  · exact .edge (by rw [hready.1]; rfl) LobbyState.noConfusion (le_max_left _ _)
  · exact hw.same rfl rfl le_rfl

theorem advances_heartbeatAccepted (hw : w.Valid) (actor : PlayerId)
    (election : AuthorityElection) (now : UnixMillis) :
    Advances w (w.heartbeatAccepted actor election now) := by
  unfold heartbeatAccepted
  dsimp only
  split_ifs with hstarting
  · exact .edge (by rw [hstarting]; rfl) LobbyState.noConfusion (le_max_left _ _)
  · exact hw.same rfl rfl le_rfl

theorem advances_left (hw : w.Valid) (player : PlayerId) (dryRun : Bool) :
    Advances w (w.left player now dryRun) := by
  have hunready := (w.departed player).forgetAuthority.stateReason_unready
  refine hw.unready (w.state_left player now dryRun) hunready.1 (le_max_of_le_left ?_)
  change (StoredLobby.unready _).lobby.roster.length ≤ _
  rw [hunready.2]
  exact List.length_filter_le _ _

theorem lobby_sameReason_spendInvitation {limited : StoredLobby} {player : PlayerId}
    {invitation : Option Digest} (hlimited : w.enforceJoinRateLimit player now = some limited)
    (hspent : Service.spendInvitation limited invitation now = .ok w') : w'.lobby = w.lobby := by
  have hlobby : limited.lobby = w.lobby := by
    unfold enforceJoinRateLimit at hlimited
    dsimp only at hlimited
    split_ifs at hlimited
    cases hlimited
    rfl
  exact (lobby_spendInvitation hspent).trans hlobby

end StoredLobby

/-! ## The changes -/

/-- The launcher closes only a lobby that may be closed, the reaper proves no failed lobby's tailnet
absent, and no persist fails after the rename. -/
structure Course.Orderly (c : Course) : Prop where
  protect : ∀ generation r, c.request = .beginProtectedCleanup generation →
    c.start.record c.id = some r → r.dryRun = false → r.networkGeneration = generation →
    r.lobby.state.Leads .closing
  absent : ∀ r, c.request = .cleanupExpired → c.start.record c.id = some r →
    r.networkLifecycle = .verifyingAbsence → r.lobby.state = .failed →
    ∀ a ∈ c.answers, a.erased ≠ some (.ok ())
  renames : ∀ a ∈ c.answers, a.renames = false

section Changes

variable {c : Course} {s : World} {stage stage' : Stage} {w w' : StoredLobby}

/-- Purges leave what the guards of a change ask of a loaded record. -/
theorem Course.Loads.purged (h : c.Loads w) : ∃ r, c.start.record c.id = some r
    ∧ w.lobby = r.lobby ∧ w.dryRun = r.dryRun ∧ w.networkGeneration = r.networkGeneration
    ∧ w.networkLifecycle = r.networkLifecycle := by
  obtain ⟨r, hr, times, rfl⟩ := h
  refine ⟨r, hr, ?_⟩
  induction times using List.reverseRecOn with
  | nil => exact ⟨rfl, rfl, rfl, rfl⟩
  | append_singleton times t ih =>
    rw [List.foldl_append]
    exact ih

theorem roster_provisionFailed (w : StoredLobby) (error : ProviderError) (mode : ProvisioningMode)
    (now : UnixMillis) :
    (Service.provisionFailed w error mode now).lobby.roster.length = w.lobby.roster.length := by
  cases error with
  | childPolicyGate identity digest status deleteAcknowledged =>
    cases deleteAcknowledged with
    | true => rfl
    | false => rfl
  | _ => rfl

theorem explained_provisionFailed (w : StoredLobby) (error : ProviderError)
    (mode : ProvisioningMode) (now : UnixMillis) :
    (Service.provisionFailed w error mode now).lobby.Explained := by
  have hblank : isBlank (if mode == .tailnetPerLobby && error.isUnavailable then
      "tailnet_create_outcome_unknown_manual_remediation" else error.stateReason) = false := by
    split_ifs
    · decide +kernel
    · exact error.stateReason_not_blank
  cases error with
  | childPolicyGate identity digest status deleteAcknowledged =>
    have hreason := (ProviderError.childPolicyGate identity digest status
      deleteAcknowledged).stateReason_not_blank
    cases deleteAcknowledged with
    | true => exact ⟨_, rfl, hreason⟩
    | false => exact ⟨_, rfl, hreason⟩
  | _ => exact ⟨_, rfl, hblank⟩

theorem startupVerdict_not_blank {denied custody : Option ProviderError}
    {digest : Option String} {reason : String}
    (h : Service.startupVerdict w denied custody digest = some reason) :
    isBlank reason = false := by
  unfold Service.startupVerdict at h
  split at h
  · cases h
    exact ProviderError.stateReason_not_blank _
  · split_ifs at h
    · cases h
      decide +kernel
    · cases h
      decide +kernel

theorem LobbyChange.advances (hw : w.Valid) (h : LobbyChange c s stage w stage' w') :
    StoredLobby.Advances w w' := by
  cases h with
  | deadline w now =>
    rcases w.applyTimeTransitions_cases now with heq | ⟨next, reason, hlegal, hnext, heq⟩
    · rw [heq]
      exact hw.same rfl rfl le_rfl
    · rw [heq]
      rcases hnext with ⟨rfl, hreason⟩ | rfl
      · obtain ⟨text, htext, hblank⟩ := (Option.any_eq_true _ _).mp hreason
        exact .failed hlegal rfl ⟨text, htext, by simpa using hblank⟩ le_rfl
      · exact .edge hlegal LobbyState.noConfusion (le_max_left _ _)
  | stale w now =>
    rcases w.refreshFreshnessState_cases now with heq | ⟨hready, heq⟩
    · rw [heq]
      exact hw.same rfl rfl le_rfl
    · rw [heq]
      exact .edge (by rw [hready]; rfl) LobbyState.noConfusion (le_max_left _ _)
  | reserve w key fingerprint hread hstate hreuse hopen hlimited hspent =>
    have hlobby := StoredLobby.lobby_sameReason_spendInvitation hlimited hspent
    exact hw.same (congrArg Lobby.state hlobby) (congrArg Lobby.stateReason hlobby)
      (congrArg (fun l : Lobby => l.roster.length) hlobby).le
  | enrolled w key fingerprint token now hstate hroom => exact w.advances_enrolled hw hroom
  | left w dryRun hrequest hstate hplayer ha hread hheard hresult =>
    have hcleaned := StoredLobby.advances_applyCleanupResult hw hresult
    have hfixed := (StoredLobby.kept_applyCleanupResult hresult).fixed
    refine hcleaned.trans (StoredLobby.advances_left (hcleaned.valid hw hfixed) _ dryRun) ?_
    exact congrArg FixedPart.maxPlayers hfixed
  | measured w player sample now hstate =>
    refine hw.unready ?_ ?_ ?_
    · rw [StoredLobby.state_measured, StoredLobby.state_unready]
    · exact w.stateReason_unready.1
    · refine le_max_of_le_left (le_of_eq ?_)
      change (List.map _ _).length = _
      rw [List.length_map]
      exact congrArg List.length w.stateReason_unready.2
  | recomputed w hstate helected =>
    rcases StoredLobby.recomputeAuthority_cases helected with rfl | ⟨election, rfl, -⟩
    · exact hw.same rfl rfl le_rfl
    · exact StoredLobby.advances_applyElection hw election _
  | unstarted w hstate =>
    exact .edge (by rw [hstate]; rfl) LobbyState.noConfusion (le_max_left _ _)
  | started w key replay seed now hstate =>
    exact .edge (by rw [hstate]; rfl) LobbyState.noConfusion (le_max_left _ _)
  | @heartbeat w headers request actor current election claimed now dryRun hrequest hstate hsynced
      hcurrent hclaim helection =>
    obtain ⟨-, -, rfl⟩ | ⟨_, successor, -, -, -, -, -, rfl⟩ := acceptClaim_ok hclaim
    · exact StoredLobby.advances_heartbeatAccepted hw _ _ _
    · have hclaimed := StoredLobby.advances_applyElection hw successor now
      have hfixed := (StoredLobby.undisturbed_applyElection w successor now).fixed
      refine hclaimed.trans
        (StoredLobby.advances_heartbeatAccepted (hclaimed.valid hw hfixed) _ _ _) ?_
      exact congrArg FixedPart.maxPlayers hfixed
  | resulted w hstate =>
    exact .edge (by rw [hstate]; rfl) LobbyState.noConfusion (le_max_left _ _)
  | closed w hopen =>
    refine .edge ?_ LobbyState.noConfusion (le_max_left _ _)
    exact LobbyState.canTransitionTo_closing hopen
  | _ => exact hw.same rfl rfl le_rfl

theorem NetworkChange.advances (hc : c.Orderly) (hfiled : w.Filed c.id) (hw : w.Valid)
    (h : NetworkChange c s stage w stage' w') : StoredLobby.Advances w w' := by
  cases h with
  | provisioned w hstate hprovisioned =>
    obtain ⟨u, hnetworked, rfl | rfl⟩ := provisioned_ok hprovisioned
    · obtain ⟨_, _, _, _, rfl, -⟩ := networked_ok hnetworked
      exact .edge (by rw [hstate]; rfl) LobbyState.noConfusion (le_max_left _ _)
    · obtain ⟨_, _, _, _, rfl, -⟩ := networked_ok hnetworked
      exact .failed (by rw [hstate]; rfl) rfl
        ⟨_, rfl, ProviderCapabilities.blockedStateReason_not_blank _ _⟩ le_rfl
  | provisionFailed w now hstate hheard =>
    exact .failed (by rw [hstate]; rfl) (state_provisionFailed _ _ _ _)
      (explained_provisionFailed _ _ _ _) (le_of_eq (roster_provisionFailed _ _ _ _))
  | denied w hload ha hdenied hrequires => exact w.advances_accessDenied _ _
  | verdict w hrequest hload hreal ha hverdict =>
    exact .explained rfl (fun _ => ⟨_, rfl, startupVerdict_not_blank hverdict⟩) le_rfl
  | protect w hrequest hload hreal hgeneration =>
    obtain ⟨r, hr, hlobby, hdry, hsame, -⟩ := hload.purged
    refine ⟨?_, fun hfailed => LobbyState.noConfusion hfailed, le_max_left _ _⟩
    rw [hlobby]
    exact hc.protect _ r hrequest hr (hdry ▸ hreal) (hsame ▸ hgeneration)
  | mintFailed w now hstate hheard => exact w.advances_mintFailed _ _ _ _ hstate
  | forgotten w hclosed =>
    unfold StoredLobby.forgetMeasurements
    split_ifs
    · exact hw.same rfl rfl (le_of_eq (List.length_map _))
    · exact hw.same rfl rfl le_rfl
  | explained w hclosed hheld hreason => exact .explained rfl (fun _ => ⟨_, rfl, hreason⟩) le_rfl
  | settled w hclosed hopen hread hheard hresult =>
    exact StoredLobby.advances_applyCleanupResult hw hresult
  | finalized w now finalize hclosed =>
    exact StoredLobby.advances_finalizeLobbyCleanup hw hclosed finalize
  | absent w completedAt now hverifying hdedicated hconfirmed hidentity hheard ha herased hfinal =>
    have hclosed := hfiled.closed hverifying
    by_cases hfailed : w.lobby.state = .failed
    · rcases hfinal with rfl | ⟨hrequest, r, hload, hwaits, hsame⟩
      · unfold StoredLobby.finalizeLobbyCleanup StoredLobby.dedicatedAbsent
        dsimp only
        rw [hfailed, if_pos ⟨rfl, LobbyState.noConfusion⟩]
        exact .edge (by rw [hfailed]; rfl) LobbyState.noConfusion (le_max_left _ _)
      · obtain ⟨r₀, hr₀, hlobby, -, -, hlifecycle⟩ := hload.purged
        exact absurd herased (hc.absent r₀ hrequest hr₀ (hlifecycle ▸ hwaits)
          (by rw [← hlobby, hsame, hfailed]) _ ha)
    · have hproven : StoredLobby.Advances w (w.dedicatedAbsent completedAt) :=
        .explained rfl (fun h => absurd h hfailed) le_rfl
      exact hproven.trans (StoredLobby.advances_finalizeLobbyCleanup (hproven.valid hw rfl) hclosed
        _) rfl
  | _ => exact hw.same rfl rfl le_rfl

theorem Change.advances (hc : c.Orderly) (hfiled : w.Filed c.id) (hw : w.Valid)
    (h : Change c s stage w stage' w') : StoredLobby.Advances w w' := by
  cases h with
  | lobby h => exact h.advances hw
  | network h => exact h.advances hc hfiled hw

end Changes

/-! ## Runs -/

/-- The step takes neither exception. -/
def ServiceStep.Orderly (id : LobbyId) (s : World) : ServiceStep → Prop
  | .handle config request answers => Course.Orderly ⟨id, s, config, request, answers⟩
  | _ => True

/-- The file is the image of the memory, the record of the lobby is valid, and every replace so far
has followed the state machine. -/
structure World.Lawful (id : LobbyId) (s : World) : Prop where
  file : s.file = none
  valid : ∀ r, s.record id = some r → r.Valid
  wrote : ∀ before after quarantines, .wrote before after quarantines ∈ s.trace →
    before.lobby.state.Leads after.lobby.state

theorem World.fileUnless_none {s : World} (h : s.file = none) (persisted : Bool) :
    s.fileUnless persisted = none := by
  unfold World.fileUnless
  rw [h, ite_self]

theorem World.file_elsewhere {id : LobbyId} {s : World} (h : s.file = none) (step : StoreStep) :
    (s.elsewhere id step).file = none := by
  unfold World.elsewhere
  split_ifs
  · exact World.fileUnless_none h _
  · exact h

theorem World.file_create {s : World} (h : s.file = none) (call : CreateCall) :
    (s.create call).2.file = none := by
  unfold World.create
  dsimp only
  split
  · rfl
  · exact World.fileUnless_none h _

/-- Only a persist that fails after the rename parts the file from the memory. -/
theorem Move.file {c : Course} (hc : c.Orderly) {f f' : Flight} (h : Move c f f')
    (hfile : f.world.file = none) : f'.world.file = none := by
  cases h with
  | elsewhere held s step => exact World.file_elsewhere hfile step
  | created s hnew hread hcreated => exact World.file_create hfile _
  | refused s hread hrefused => exact World.file_create hfile _
  | granted held s verifier expiresAt => exact World.fileUnless_none hfile _
  | write stage w s hstored => rfl
  | lost held s ha next =>
    change (if _ && next.1.toBool then some next.2 else s.file) = none
    rw [hc.renames _ ha, Bool.false_and, if_neg Bool.false_ne_true]
    exact hfile
  | _ => exact hfile

theorem Course.IsNew.valid {c : Course} {r : StoredLobby} {now : UnixMillis} (h : c.IsNew r now) :
    r.Valid := by
  obtain ⟨request, mode, actor, token, tag, dryRun, localOperator, hvalid, rfl⟩ := h
  unfold CreateLobbyRequest.isValid at hvalid
  simp only [Bool.and_eq_true, bne_iff_ne, decide_eq_true_eq] at hvalid
  obtain ⟨⟨-, hpositive⟩, hbounded⟩ := hvalid
  unfold Service.newRecord
  dsimp only
  split
  · exact ⟨⟨hpositive, hbounded⟩, Nat.zero_le _, fun hfailed => LobbyState.noConfusion hfailed⟩
  · exact ⟨⟨hpositive, hbounded⟩, Nat.zero_le _, fun hfailed => LobbyState.noConfusion hfailed⟩

theorem StoredLobby.lobby_normalizeRecord (w : StoredLobby) :
    (StoreData.normalizeRecord w).1.lobby = w.lobby := by
  unfold StoreData.normalizeRecord
  dsimp only
  split_ifs
  all_goals rfl

theorem StoredLobby.Valid.of_lobby {w w' : StoredLobby} (hw : w.Valid) (h : w'.lobby = w.lobby) :
    w'.Valid :=
  ⟨h ▸ hw.capacity, h ▸ hw.room, h ▸ hw.reason⟩

namespace World.Lawful

variable {id : LobbyId} {s : World}

theorem handle (h : s.Lawful id) (htended : s.Tended id) {config : ServiceConfig}
    {request : LobbyRequest} {answers : List Answer}
    (horderly : Course.Orderly ⟨id, s, config, request, answers⟩) :
    ((request.program id config).exec s answers).Lawful id := by
  obtain ⟨held, hmoves⟩ :=
    handle_moves (c := ⟨id, s, config, request, answers⟩) htended.filed
  have hall : Flight.All id (fun w => w.Filed id ∧ w.Valid) ⟨none, s⟩ :=
    ⟨fun r hr => ⟨htended.filed r hr, h.valid r hr⟩, fun _ _ heq => nomatch heq⟩
  have hfollows : Flight.Follows id (fun u v => u.lobby.state.Leads v.lobby.state) ⟨none, s⟩ :=
    ⟨fun _ _ _ _ heq => (nomatch heq), h.wrote⟩
  have hend := Moves.follows
    (fun r now hr => ⟨⟨hr.1.named, hr.1.closed⟩, hr.2.of_lobby rfl⟩)
    (fun r now hnew => ⟨hnew.filed, hnew.valid⟩)
    (fun _ _ _ _ _ hw hchange => ⟨hchange.filed hw.1,
      (hchange.advances horderly hw.1 hw.2).valid hw.2 hchange.fixed⟩)
    (fun w => .refl _) (fun _ _ _ h => h)
    (fun _ _ _ _ _ _ hw _ hleads hchange =>
      hleads.trans (hchange.advances horderly hw.1 hw.2).leads) hmoves hall hfollows
  refine ⟨?_, fun r hr => (hend.1.stored r hr).2, hend.2.wrote⟩
  have hfiles : ∀ {f : Flight}, Moves ⟨id, s, config, request, answers⟩ ⟨none, s⟩ f →
      f.world.file = none := by
    intro f hmoves
    induction hmoves with
    | refl => exact h.file
    | tail _ hmove ih => exact hmove.file horderly ih
  exact hfiles hmoves

theorem elsewhere (h : s.Lawful id) (step : StoreStep) : (s.elsewhere id step).Lawful id := by
  refine ⟨World.file_elsewhere h.file step, fun r' hr' => ?_, fun before after quarantines hwrote => ?_⟩
  · obtain ⟨r, hr, rfl | ⟨now, -, rfl⟩⟩ := World.elsewhere_record hr'
    · exact h.valid r' hr
    · exact (h.valid r hr).of_lobby rfl
  · obtain ⟨new, htrace, hnew⟩ := @World.elsewhere_trace id s step
    rw [htrace] at hwrote
    rcases List.mem_append.mp hwrote with hclock | hold
    · exact absurd (hnew _ hclock) Bool.false_ne_true
    · exact h.wrote _ _ _ hold

theorem restarted (h : s.Lawful id) : s.restarted.Lawful id := by
  refine ⟨rfl, fun r' hr' => ?_, fun before after quarantines hwrote => ?_⟩
  · rw [World.record_restarted id h.file] at hr'
    obtain ⟨r, hr, rfl⟩ := Option.map_eq_some_iff.mp hr'
    exact (h.valid r hr).of_lobby r.lobby_normalizeRecord
  · rcases List.mem_cons.mp hwrote with hrestart | hold
    · exact Event.noConfusion hrestart
    · exact h.wrote _ _ _ hold

end World.Lawful

/-- **The persisted lobby follows its state machine along orderly steps**: where the launcher closes
only lobbies that may be closed, the reaper finishes no failed lobby's absence proof, and no persist
fails after its rename, the file is the image of the memory, every replace moves the state along
declared edges, none leaves `DESTROYED`, and the record is valid. -/
theorem state_machine_along (id : LobbyId) (i p : Digest) (steps : List ServiceStep)
    (h : Runs.Along (World.fileStep id) (fun s step => step.Orderly id s) (World.empty i p) steps) :
    let s := Runs.run (World.fileStep id) (World.empty i p) steps
    s.file = none ∧ (∀ before after quarantines, .wrote before after quarantines ∈ s.trace →
      before.lobby.state.Leads after.lobby.state
        ∧ (before.lobby.state = .destroyed → after.lobby.state = .destroyed))
      ∧ ∀ r, s.record id = some r → r.lobby.validate = .ok () := by
  have hnone : (World.empty i p).record id = none := Std.ExtTreeMap.getElem?_empty
  have hempty : (World.empty i p).Tended id ∧ (World.empty i p).Lawful id :=
    ⟨World.Tended.empty id i p, rfl, fun r hr => absurd (hnone.symm.trans hr) nofun,
      fun _ _ _ hwrote => absurd hwrote List.not_mem_nil⟩
  have hend := (Runs.run_invariant_along (P := fun s => s.Tended id ∧ s.Lawful id)
    (fun s step horderly hs => ?_) hempty h).2
  · refine ⟨hend.file, fun before after quarantines hwrote => ?_,
      fun r hr => (hend.valid r hr).validate⟩
    have hleads := hend.wrote before after quarantines hwrote
    exact ⟨hleads, fun hdestroyed => LobbyState.Leads.of_destroyed (hdestroyed ▸ hleads)⟩
  · obtain ⟨htended, hlawful⟩ := hs
    cases step with
    | handle config request answers =>
      exact ⟨htended.handle config request answers, hlawful.handle htended horderly⟩
    | elsewhere step => exact ⟨htended.elsewhere step, hlawful.elsewhere step⟩
    | restart => exact ⟨htended.restarted hlawful.file, hlawful.restarted⟩

/-! ### A lobby that failed at its policy -/

section Failed

open ProtocolId

/-- The child's policy reads back differently, and its deletion is acknowledged. -/
def gated : Answer where
  prepared := .error (.childPolicyGate ⟨some "tailnet-1", ⟨"tail.example.ts.net"⟩⟩ "digest"
    .mismatch true)

/-- Six seconds later the tailnet is gone, and its secret is erased. -/
def gone : Answer where
  elapsed := 6000
  now := 10000
  present := some (.ok false)
  erased := some (.ok ())

/-- The local operator creates a lobby, which fails at its policy. -/
def gatedSteps : List ServiceStep :=
  [.elsewhere (.installProtectedAlphaReceipt secondReceipt),
    .handle alphaConfig (.create creatorHeaders ⟨"alpha", 2, .tailnetPerLobby⟩ [1] "tag" true)
      (List.replicate 9 gated)]

/-- The world once the lobby has failed. -/
def gatedWorld : World :=
  Runs.run (World.fileStep (.ofTail 7))
    (World.empty (Vector.replicate 32 0) (Vector.replicate 32 0)) gatedSteps

theorem state_machine_along_gated : gatedWorld.file = none
    ∧ (∀ before after quarantines, .wrote before after quarantines ∈ gatedWorld.trace →
      before.lobby.state.Leads after.lobby.state
        ∧ (before.lobby.state = .destroyed → after.lobby.state = .destroyed))
      ∧ ∀ r, gatedWorld.record (.ofTail 7) = some r → r.lobby.validate = .ok () :=
  state_machine_along (.ofTail 7) (Vector.replicate 32 0) (Vector.replicate 32 0)
    gatedSteps ⟨trivial, ⟨fun _ _ h => LobbyRequest.noConfusion h,
      fun _ h => LobbyRequest.noConfusion h, fun a ha => List.eq_of_mem_replicate ha ▸ rfl⟩, trivial⟩

/-- Two passes of the reaper prove the absence, and the launcher comes twice. -/
def reapedSteps : List ServiceStep :=
  gatedSteps ++ [.handle alphaConfig .cleanupExpired (List.replicate 9 gone),
    .handle alphaConfig .cleanupExpired (List.replicate 9 gone)]

/-- The reaped lobby has failed without a reason, and the launcher takes it, destroyed by its first
visit, back to `CLOSING`. -/
theorem reason_lost_and_destroyed_left :
    ((Runs.run (World.fileStep (.ofTail 7))
      (World.empty (Vector.replicate 32 0) (Vector.replicate 32 0)) reapedSteps).record
        (.ofTail 7)).any
      (fun r => decide (r.lobby.validate = .error .missingStateReason)) = true
    ∧ (Runs.run (World.fileStep (.ofTail 7))
      (World.empty (Vector.replicate 32 0) (Vector.replicate 32 0)) (reapedSteps ++
        List.replicate 2 (.handle alphaConfig (.beginProtectedCleanup 2)
          (List.replicate 9 gone)))).trace.any (fun
      | .wrote before after _ =>
        before.lobby.state == .destroyed && after.lobby.state == .closing
      | _ => false) = true := by
  decide +kernel

end Failed

end Spurfire
