import Spurfire.Server.StateMachine

/-!
# Epochs and authorities at the service

A heartbeat is accepted for the epoch and the election that are installed, or it installs the next
epoch with the election of the survivors.  So an epoch stands for one authority and one input:

* `Reign`: what a change does to epoch, election and match, said once for all of them;
* `Agreed`: the accepted heartbeats of the installed epoch name the installed election;
* `Succession`: how a match changes its authority;
* `epoch_determines_authority` is the result for every run.
-/

namespace Spurfire

open Interrupt

/-! ## What the changes do to the reign -/

/-- Epoch, election, heartbeats and locked election are the same, and the match is not begun. -/
structure StoredLobby.SameReign (w w' : StoredLobby) : Prop where
  epoch : w'.authorityEpoch = w.authorityEpoch
  election : w'.lastElection = w.lastElection
  accepted : w'.lastAcceptedHeartbeat = w.lastAcceptedHeartbeat
  beat : w'.lastAuthorityHeartbeatAt = w.lastAuthorityHeartbeatAt
  locked : w'.matchStartElection = w.matchStartElection
  inMatch : w'.lobby.state = .inMatch → w.lobby.state = .inMatch

/-- The changes, as far as the reign of an authority goes. -/
inductive Reign (c : Course) (s : World) (w : StoredLobby) : StoredLobby → Prop
  | same {w' : StoredLobby} (h : w.SameReign w') : Reign c s w w'
  | vacated {w' : StoredLobby} (h : ({ w with lastElection := none } : StoredLobby).SameReign w') :
      Reign c s w w'
  | elected (election : AuthorityElection) (now : UnixMillis)
      (hstate : w.lobby.state = .forming ∨ w.lobby.state = .ready) :
      Reign c s w (w.applyElection election now)
  | started {w' : StoredLobby} (hready : w.lobby.state = .ready)
      (h : ({ w with matchStartElection := w.lastElection, lastAuthorityHeartbeatAt := none } :
        StoredLobby).SameReign w') : Reign c s w w'
  | heartbeat {request : AuthorityHeartbeatRequest} {actor : PlayerId}
      {current election : AuthorityElection} {claimed : StoredLobby} {now : UnixMillis}
      {dryRun : Bool} (hstate : w.lobby.state = .starting ∨ w.lobby.state = .inMatch)
      (hsynced : s.Synced c.id w) (hcurrent : w.lastElection = some current)
      (hclaim : Service.acceptClaim w current actor request now dryRun = .ok claimed)
      (helection : claimed.lastElection = some election) :
      Reign c s w (claimed.heartbeatAccepted actor election now)

namespace StoredLobby

variable {w w' u : StoredLobby} {now : UnixMillis}

theorem SameReign.refl (w : StoredLobby) : w.SameReign w := ⟨rfl, rfl, rfl, rfl, rfl, id⟩

theorem SameReign.trans (h : u.SameReign w) (h' : w.SameReign w') : u.SameReign w' :=
  ⟨h'.epoch.trans h.epoch, h'.election.trans h.election, h'.accepted.trans h.accepted,
    h'.beat.trans h.beat, h'.locked.trans h.locked, fun hmatch => h.inMatch (h'.inMatch hmatch)⟩

theorem sameReign_unready (w : StoredLobby) : w.SameReign w.unready := by
  unfold unready
  split_ifs
  · exact ⟨rfl, rfl, rfl, rfl, rfl, fun hmatch => LobbyState.noConfusion hmatch⟩
  · exact .refl w

theorem sameReign_forgetMeasurements (w : StoredLobby) : w.SameReign w.forgetMeasurements := by
  unfold forgetMeasurements
  split_ifs
  · exact ⟨rfl, rfl, rfl, rfl, rfl, id⟩
  · exact .refl w

theorem sameReign_applyCleanupResult {result : Except ProviderError CleanupOutcome} {full : Bool}
    (h : w.applyCleanupResult now result full = some w') : w.SameReign w' := by
  have hsettled : w.SameReign (w.settledBy now full result) := by
    cases result with
    | error error =>
      unfold settledBy
      dsimp only
      split_ifs
      · exact ⟨rfl, rfl, rfl, rfl, rfl, id⟩
      · exact .refl w
    | ok outcome => exact ⟨rfl, rfl, rfl, rfl, rfl, id⟩
  have hmarked : (w.settledBy now full result).SameReign (w.settledAndMarked now full result) := by
    unfold settledAndMarked markPendingCredential
    split
    · exact ⟨rfl, rfl, rfl, rfl, rfl, id⟩
    · exact ⟨rfl, rfl, rfl, rfl, rfl, id⟩
  obtain ⟨lifecycle, pending, rfl, -⟩ := applyCleanupResult_some h
  exact (hsettled.trans hmarked).trans ⟨rfl, rfl, rfl, rfl, rfl, id⟩

theorem sameReign_finalizeLobbyCleanup (w : StoredLobby) (now : UnixMillis) (finalize : Bool) :
    w.SameReign (w.finalizeLobbyCleanup now finalize) := by
  rcases w.finalizeLobbyCleanup_cases now finalize with heq | ⟨-, -, heq⟩
  · rw [heq]
    exact .refl w
  · rw [heq]
    refine ⟨rfl, rfl, rfl, rfl, rfl, fun hmatch => ?_⟩
    dsimp only at hmatch
    split_ifs at hmatch
    exact hmatch

theorem sameReign_spent {limited : StoredLobby} {player : PlayerId} {invitation : Option Digest}
    (hlimited : w.enforceJoinRateLimit player now = some limited)
    (hspent : Service.spendInvitation limited invitation now = .ok w') : w.SameReign w' := by
  have hfirst : w.SameReign limited := by
    unfold enforceJoinRateLimit at hlimited
    dsimp only at hlimited
    split_ifs at hlimited
    cases hlimited
    exact ⟨rfl, rfl, rfl, rfl, rfl, id⟩
  refine hfirst.trans ?_
  unfold Service.spendInvitation at hspent
  split at hspent
  · cases hspent
    exact .refl _
  · split at hspent
    · rename_i hconsumed
      cases hspent
      obtain ⟨i, -, rfl⟩ := Option.map_eq_some_iff.mp hconsumed
      exact ⟨rfl, rfl, rfl, rfl, rfl, id⟩
    · exact nomatch hspent

theorem vacated_enrolled (w : StoredLobby) (request : JoinLobbyRequest)
    (minted : MintedCredential) (key : String) (fingerprint : List UInt8) (token : Digest)
    (expiresAt now : UnixMillis) : ({ w with lastElection := none } : StoredLobby).SameReign
      (w.enrolled request minted key fingerprint token expiresAt now) := by
  have hunready := (w.withoutReservation request.playerId).sameReign_unready
  have hseated : ({ w with lastElection := none } : StoredLobby).SameReign
      ((w.withoutReservation request.playerId).seated request now) := by
    unfold seated
    split_ifs
    · exact ⟨hunready.epoch, rfl, hunready.accepted, hunready.beat, hunready.locked,
        hunready.inMatch⟩
    · exact ⟨hunready.epoch, rfl, hunready.accepted, hunready.beat, hunready.locked,
        hunready.inMatch⟩
  exact hseated.trans ⟨rfl, rfl, rfl, rfl, rfl, id⟩

theorem vacated_left (w : StoredLobby) (player : PlayerId) (now : UnixMillis) (dryRun : Bool) :
    ({ w with lastElection := none } : StoredLobby).SameReign (w.left player now dryRun) := by
  have hunready := (w.departed player).forgetAuthority.sameReign_unready
  exact ⟨hunready.epoch, hunready.election, hunready.accepted, hunready.beat, hunready.locked,
    hunready.inMatch⟩

theorem sameReign_provisionFailed (w : StoredLobby) (error : ProviderError)
    (mode : ProvisioningMode) (now : UnixMillis) :
    w.SameReign (Service.provisionFailed w error mode now) := by
  have hstate := state_provisionFailed w error mode now
  have hmatch : (Service.provisionFailed w error mode now).lobby.state = .inMatch →
      w.lobby.state = .inMatch := fun h => LobbyState.noConfusion (hstate.symm.trans h)
  cases error with
  | childPolicyGate identity digest status deleteAcknowledged =>
    cases deleteAcknowledged with
    | true => exact ⟨rfl, rfl, rfl, rfl, rfl, hmatch⟩
    | false => exact ⟨rfl, rfl, rfl, rfl, rfl, hmatch⟩
  | _ => exact ⟨rfl, rfl, rfl, rfl, rfl, hmatch⟩

theorem sameReign_cleanupOwed (w : StoredLobby) (error : ProviderError) (dryRun : Bool) :
    w.SameReign (w.cleanupOwed error dryRun) := by
  unfold cleanupOwed
  dsimp only
  split_ifs
  all_goals exact ⟨rfl, rfl, rfl, rfl, rfl, id⟩

theorem sameReign_gateRecorded (w : StoredLobby) (error : ProviderError) (now : UnixMillis) :
    w.SameReign (w.gateRecorded error now) := by
  cases error with
  | childPolicyGate identity digest status deleteAcknowledged =>
    cases deleteAcknowledged with
    | true => exact ⟨rfl, rfl, rfl, rfl, rfl, id⟩
    | false => exact ⟨rfl, rfl, rfl, rfl, rfl, id⟩
  | _ => exact .refl w

theorem sameReign_failedByMint (w : StoredLobby) (error : ProviderError) :
    w.SameReign (w.failedByMint error) := by
  unfold failedByMint
  split_ifs
  · exact ⟨rfl, rfl, rfl, rfl, rfl, fun hmatch => LobbyState.noConfusion hmatch⟩
  · exact ⟨rfl, rfl, rfl, rfl, rfl, id⟩

theorem vacated_mintFailed (w : StoredLobby) (player : PlayerId) (error : ProviderError)
    (now : UnixMillis) (dryRun : Bool) : ({ w with lastElection := none } : StoredLobby).SameReign
      (w.mintFailed player error now dryRun) := by
  have hfreed : w.SameReign (if error.isUnavailable then w else w.withoutReservation player) := by
    split_ifs
    · exact .refl w
    · exact ⟨rfl, rfl, rfl, rfl, rfl, id⟩
  have hgated := (hfreed.trans (sameReign_failedByMint _ error)).trans
    (sameReign_gateRecorded _ error now)
  refine SameReign.trans ?_ (sameReign_cleanupOwed _ error dryRun)
  exact ⟨hgated.epoch, rfl, hgated.accepted, hgated.beat, hgated.locked, hgated.inMatch⟩

end StoredLobby

section Changes

variable {c : Course} {s : World} {stage stage' : Stage} {w w' : StoredLobby}

theorem LobbyChange.reign (h : LobbyChange c s stage w stage' w') : Reign c s w w' := by
  cases h with
  | deadline w now =>
    rcases w.applyTimeTransitions_cases now with heq | ⟨next, reason, -, hnext, heq⟩
    · rw [heq]
      exact .same (.refl w)
    · rw [heq]
      refine .vacated ⟨rfl, rfl, rfl, rfl, rfl, fun hmatch => ?_⟩
      dsimp only at hmatch
      rw [hmatch] at hnext
      rcases hnext with ⟨hfailed, -⟩ | hexpired
      · exact LobbyState.noConfusion hfailed
      · exact LobbyState.noConfusion hexpired
  | stale w now =>
    rcases w.refreshFreshnessState_cases now with heq | ⟨-, heq⟩
    · rw [heq]
      exact .same (.refl w)
    · rw [heq]
      exact .vacated ⟨rfl, rfl, rfl, rfl, rfl, fun hmatch => LobbyState.noConfusion hmatch⟩
  | reserve w key fingerprint hread hstate hreuse hopen hlimited hspent =>
    exact .same ((StoredLobby.sameReign_spent hlimited hspent).trans
      ⟨rfl, rfl, rfl, rfl, rfl, id⟩)
  | enrolled w key fingerprint token now hstate hroom =>
    exact .vacated (w.vacated_enrolled _ _ _ _ _ _ _)
  | left w dryRun hrequest hstate hplayer ha hread hheard hresult =>
    have hsame := StoredLobby.sameReign_applyCleanupResult hresult
    refine .vacated (StoredLobby.SameReign.trans ?_ (StoredLobby.vacated_left _ _ _ dryRun))
    exact ⟨hsame.epoch, rfl, hsame.accepted, hsame.beat, hsame.locked, hsame.inMatch⟩
  | measured w player sample now hstate =>
    exact .same (w.sameReign_unready.trans ⟨rfl, rfl, rfl, rfl, rfl, id⟩)
  | recomputed w hstate helected =>
    rcases StoredLobby.recomputeAuthority_cases helected with rfl | ⟨election, rfl, -⟩
    · exact .vacated ⟨rfl, rfl, rfl, rfl, rfl, id⟩
    · exact .elected election _ (hstate.imp_right And.left)
  | unstarted w hstate =>
    exact .vacated ⟨rfl, rfl, rfl, rfl, rfl, fun hmatch => LobbyState.noConfusion hmatch⟩
  | started w key replay seed now hstate =>
    exact .started hstate ⟨rfl, rfl, rfl, rfl, rfl, fun hmatch => LobbyState.noConfusion hmatch⟩
  | heartbeat w hrequest hstate hsynced hcurrent hclaim helection =>
    exact .heartbeat hstate hsynced hcurrent hclaim helection
  | resulted w hstate =>
    exact .same ⟨rfl, rfl, rfl, rfl, rfl, fun hmatch => LobbyState.noConfusion hmatch⟩
  | closed w hopen =>
    exact .same ⟨rfl, rfl, rfl, rfl, rfl, fun hmatch => LobbyState.noConfusion hmatch⟩
  | _ => exact .same ⟨rfl, rfl, rfl, rfl, rfl, id⟩

theorem NetworkChange.reign (h : NetworkChange c s stage w stage' w') : Reign c s w w' := by
  cases h with
  | provisioned w hstate hprovisioned =>
    obtain ⟨u, hnetworked, rfl | rfl⟩ := provisioned_ok hprovisioned
    · obtain ⟨_, _, _, _, rfl, -⟩ := networked_ok hnetworked
      exact .same ⟨rfl, rfl, rfl, rfl, rfl, fun hmatch => LobbyState.noConfusion hmatch⟩
    · obtain ⟨_, _, _, _, rfl, -⟩ := networked_ok hnetworked
      exact .same ⟨rfl, rfl, rfl, rfl, rfl, fun hmatch => LobbyState.noConfusion hmatch⟩
  | provisionFailed w now hstate hheard => exact .same (w.sameReign_provisionFailed _ _ _)
  | denied w hload ha hdenied hrequires =>
    refine .vacated ⟨rfl, rfl, rfl, rfl, rfl, fun hmatch => ?_⟩
    have hopen := congrArg LobbyState.isClosed hmatch
    rw [StoredLobby.closed_accessDenied] at hopen
    exact Bool.noConfusion hopen
  | protect w hrequest hload hreal hgeneration =>
    exact .same ⟨rfl, rfl, rfl, rfl, rfl, fun hmatch => LobbyState.noConfusion hmatch⟩
  | mintFailed w now hstate hheard => exact .vacated (w.vacated_mintFailed _ _ _ _)
  | forgotten w hclosed => exact .same w.sameReign_forgetMeasurements
  | settled w hclosed hopen hread hheard hresult =>
    exact .same (StoredLobby.sameReign_applyCleanupResult hresult)
  | finalized w now finalize hclosed => exact .same (w.sameReign_finalizeLobbyCleanup now finalize)
  | absent w completedAt now hverifying hdedicated hconfirmed hidentity hheard ha herased hfinal =>
    refine .same (StoredLobby.SameReign.trans ?_ (StoredLobby.sameReign_finalizeLobbyCleanup _ _ _))
    exact ⟨rfl, rfl, rfl, rfl, rfl, id⟩
  | _ => exact .same ⟨rfl, rfl, rfl, rfl, rfl, id⟩

theorem Change.reign (h : Change c s stage w stage' w') : Reign c s w w' := by
  cases h with
  | lobby h => exact h.reign
  | network h => exact h.reign

end Changes

/-! ## Accepted heartbeats -/

/-- The heartbeat that a replace has made durable. -/
def Event.accepted : Event → Option StoredAcceptedHeartbeat
  | .wrote _ after _ => after.lastAcceptedHeartbeat
  | _ => none

/-- The heartbeats accepted since the lobby was last created. -/
def World.heartbeats (s : World) : List StoredAcceptedHeartbeat :=
  s.lifetime.filterMap Event.accepted

/-- Heartbeats of one epoch, short of the last, are of one player and one election input. -/
def Paired (heartbeats : List StoredAcceptedHeartbeat) : Prop :=
  ∀ beat ∈ heartbeats, ∀ beat' ∈ heartbeats, beat.epoch = beat'.epoch →
    beat.epoch.toNat < 2 ^ 64 - 1 →
    beat.playerId = beat'.playerId ∧ beat.inputHash = beat'.inputHash

/-- The heartbeat is of the list, or the record is about to make it durable. -/
def StoredLobby.Accepts (w : StoredLobby) (heartbeats : List StoredAcceptedHeartbeat)
    (heartbeat : StoredAcceptedHeartbeat) : Prop :=
  heartbeat ∈ heartbeats ∨ w.lastAcceptedHeartbeat = some heartbeat

/-- No heartbeat is of a later epoch, those of one epoch agree, and those of the installed epoch
name the installed election.  The last epoch is the one that cannot be left. -/
structure StoredLobby.Agreed (w : StoredLobby) (heartbeats : List StoredAcceptedHeartbeat) :
    Prop where
  bound : ∀ beat, w.Accepts heartbeats beat → beat.epoch.toNat ≤ w.authorityEpoch.toNat
  current : ∀ beat, w.Accepts heartbeats beat → beat.epoch = w.authorityEpoch →
    beat.epoch.toNat < 2 ^ 64 - 1 → ∀ election, w.lastElection = some election →
      election.winnerPlayerId = beat.playerId ∧ election.inputHash = beat.inputHash
  pair : ∀ beat beat', w.Accepts heartbeats beat → w.Accepts heartbeats beat' →
    beat.epoch = beat'.epoch → beat.epoch.toNat < 2 ^ 64 - 1 →
      beat.playerId = beat'.playerId ∧ beat.inputHash = beat'.inputHash

namespace StoredLobby

variable {w w' : StoredLobby} {heartbeats : List StoredAcceptedHeartbeat}

theorem Accepts.same {beat : StoredAcceptedHeartbeat} (h : w'.Accepts heartbeats beat)
    (haccepted : w'.lastAcceptedHeartbeat = w.lastAcceptedHeartbeat) :
    w.Accepts heartbeats beat :=
  h.imp_right fun hbeat => haccepted ▸ hbeat

/-- Neither epoch nor heartbeats move, and the election stays or goes. -/
theorem Agreed.same (h : w.Agreed heartbeats) (hepoch : w'.authorityEpoch = w.authorityEpoch)
    (haccepted : w'.lastAcceptedHeartbeat = w.lastAcceptedHeartbeat)
    (helection : w'.lastElection = w.lastElection ∨ w'.lastElection = none) :
    w'.Agreed heartbeats := by
  refine ⟨fun beat hbeat => ?_, fun beat hbeat hcurrent hlast election helected => ?_,
    fun beat beat' hbeat hbeat' => h.pair beat beat' (hbeat.same haccepted) (hbeat'.same haccepted)⟩
  · rw [hepoch]
    exact h.bound beat (hbeat.same haccepted)
  · rcases helection with hsame | hnone
    · exact h.current beat (hbeat.same haccepted) (hcurrent.trans hepoch) hlast election
        (hsame ▸ helected)
    · rw [hnone] at helected
      exact absurd helected nofun

/-- The epoch of an installed election is new, or the election is the one that was installed. -/
theorem electedEpoch_cases (w : StoredLobby) (election : AuthorityElection) :
    (∃ previous, w.lastElection = some previous
        ∧ previous.winnerPlayerId = election.winnerPlayerId
        ∧ previous.inputHash = election.inputHash ∧ w.electedEpoch election = w.authorityEpoch)
      ∨ w.authorityEpoch.toNat < (w.electedEpoch election).toNat
      ∨ w.authorityEpoch = w.electedEpoch election ∧ 2 ^ 64 - 1 ≤ w.authorityEpoch.toNat := by
  have hnext : w.authorityEpoch.toNat < (max (w.authorityEpoch.satAdd 1) 1).toNat
      ∨ w.authorityEpoch = max (w.authorityEpoch.satAdd 1) 1
        ∧ 2 ^ 64 - 1 ≤ w.authorityEpoch.toNat := by
    have hmax : (max (w.authorityEpoch.satAdd 1) 1).toNat
        = max (min (w.authorityEpoch.toNat + 1) (2 ^ 64 - 1)) 1 := by
      rw [UInt64.toNat_max, UInt64.toNat_satAdd]
      rfl
    have hword := w.authorityEpoch.toNat_lt
    rw [← UInt64.toNat_inj, hmax]
    omega
  unfold electedEpoch
  dsimp only
  cases hlast : w.lastElection with
  | none =>
    rw [Option.all_none, if_pos rfl]
    exact Or.inr hnext
  | some previous =>
    rw [Option.all_some]
    by_cases hchanged : (previous.winnerPlayerId != election.winnerPlayerId
        || previous.inputHash != election.inputHash) = true
    · rw [if_pos hchanged]
      exact Or.inr hnext
    · rw [if_neg hchanged]
      rw [Bool.not_eq_true, Bool.or_eq_false_iff, bne_eq_false_iff_eq, bne_eq_false_iff_eq]
        at hchanged
      exact Or.inl ⟨previous, rfl, hchanged.1, hchanged.2, rfl⟩

/-- The parts of a record an election installs. -/
theorem applyElection_parts (w : StoredLobby) (election : AuthorityElection) (now : UnixMillis) :
    (w.applyElection election now).authorityEpoch = w.electedEpoch election
      ∧ (w.applyElection election now).lastElection = some election
      ∧ (w.applyElection election now).lastAcceptedHeartbeat = w.lastAcceptedHeartbeat
      ∧ (w.applyElection election now).matchStartElection = w.matchStartElection
      ∧ (w.applyElection election now).lastAuthorityHeartbeatAt = w.lastAuthorityHeartbeatAt := by
  unfold applyElection
  dsimp only
  split_ifs
  · exact ⟨rfl, rfl, rfl, rfl, rfl⟩
  · exact ⟨rfl, rfl, rfl, rfl, rfl⟩

theorem le_applyElection (w : StoredLobby) (election : AuthorityElection) (now : UnixMillis) :
    w.authorityEpoch ≤ (w.applyElection election now).authorityEpoch := by
  rw [(w.applyElection_parts election now).1, UInt64.le_iff_toNat_le]
  rcases w.electedEpoch_cases election with ⟨_, -, -, -, hsame⟩ | hlater | ⟨hsame, -⟩
  · rw [hsame]
  · exact hlater.le
  · rw [← hsame]

/-- An election of a lobby that is not started leaves it so. -/
theorem not_inMatch_applyElection (w : StoredLobby) {election : AuthorityElection}
    {now : UnixMillis} (h : w.lobby.state = .forming ∨ w.lobby.state = .ready) :
    (w.applyElection election now).lobby.state ≠ .inMatch := by
  intro hmatch
  unfold applyElection at hmatch
  dsimp only at hmatch
  split_ifs at hmatch
  · exact LobbyState.noConfusion hmatch
  · rcases h with hforming | hready
    · exact LobbyState.noConfusion (hforming.symm.trans hmatch)
    · exact LobbyState.noConfusion (hready.symm.trans hmatch)

theorem Agreed.applyElection (h : w.Agreed heartbeats) (election : AuthorityElection)
    (now : UnixMillis) : (w.applyElection election now).Agreed heartbeats := by
  obtain ⟨hepoch, helected, haccepted, -, -⟩ := w.applyElection_parts election now
  have hpair : ∀ beat beat', (w.applyElection election now).Accepts heartbeats beat →
      (w.applyElection election now).Accepts heartbeats beat' → beat.epoch = beat'.epoch →
      beat.epoch.toNat < 2 ^ 64 - 1 →
      beat.playerId = beat'.playerId ∧ beat.inputHash = beat'.inputHash :=
    fun beat beat' hbeat hbeat' => h.pair beat beat' (hbeat.same haccepted) (hbeat'.same haccepted)
  rcases w.electedEpoch_cases election with
    ⟨previous, hprevious, hwinner, hhash, hsame⟩ | hlater | ⟨hsame, hlast⟩
  · refine ⟨fun beat hbeat => ?_, fun beat hbeat hcurrent hfree e he => ?_, hpair⟩
    · rw [hepoch, hsame]
      exact h.bound beat (hbeat.same haccepted)
    · rw [helected, Option.some.injEq] at he
      subst he
      have hnamed := h.current beat (hbeat.same haccepted) (hcurrent.trans (hepoch.trans hsame))
        hfree previous hprevious
      exact ⟨hwinner ▸ hnamed.1, hhash ▸ hnamed.2⟩
  · refine ⟨fun beat hbeat => ?_, fun beat hbeat hcurrent hfree e he => ?_, hpair⟩
    · rw [hepoch]
      exact (h.bound beat (hbeat.same haccepted)).trans hlater.le
    · -- the epoch is later than that of any accepted heartbeat
      have hbound := h.bound beat (hbeat.same haccepted)
      rw [hcurrent, hepoch] at hbound
      exact absurd hlater (not_lt.mpr hbound)
  · refine ⟨fun beat hbeat => ?_, fun beat hbeat hcurrent hfree e he => ?_, hpair⟩
    · rw [hepoch, ← hsame]
      exact h.bound beat (hbeat.same haccepted)
    · rw [hcurrent, hepoch, ← hsame] at hfree
      exact absurd hlast (not_le.mpr hfree)

theorem heartbeatAccepted_parts (w : StoredLobby) (actor : PlayerId)
    (election : AuthorityElection) (now : UnixMillis) :
    (w.heartbeatAccepted actor election now).authorityEpoch = w.authorityEpoch
      ∧ (w.heartbeatAccepted actor election now).lastElection = w.lastElection
      ∧ (w.heartbeatAccepted actor election now).lastAcceptedHeartbeat
        = some ⟨actor, w.authorityEpoch, election.inputHash, now⟩
      ∧ (w.heartbeatAccepted actor election now).matchStartElection = w.matchStartElection
      ∧ (w.heartbeatAccepted actor election now).lastAuthorityHeartbeatAt = some now := by
  unfold heartbeatAccepted
  dsimp only
  split_ifs
  · exact ⟨rfl, rfl, rfl, rfl, rfl⟩
  · exact ⟨rfl, rfl, rfl, rfl, rfl⟩

/-- A heartbeat of the installed authority agrees with those of its epoch. -/
theorem Agreed.heartbeat (h : w.Agreed heartbeats) {actor : PlayerId}
    {election : AuthorityElection} (helection : w.lastElection = some election)
    (hactor : election.winnerPlayerId = actor) (now : UnixMillis) :
    (w.heartbeatAccepted actor election now).Agreed heartbeats := by
  obtain ⟨hepoch, helected, haccepted, -, -⟩ := w.heartbeatAccepted_parts actor election now
  have hcases : ∀ beat, (w.heartbeatAccepted actor election now).Accepts heartbeats beat →
      w.Accepts heartbeats beat
        ∨ beat = ⟨actor, w.authorityEpoch, election.inputHash, now⟩ := by
    rintro beat (hmem | hlast)
    · exact Or.inl (Or.inl hmem)
    · exact Or.inr (Option.some.inj (hlast.symm.trans haccepted))
  have hnamed : ∀ beat, w.Accepts heartbeats beat → beat.epoch = w.authorityEpoch →
      beat.epoch.toNat < 2 ^ 64 - 1 →
      beat.playerId = actor ∧ beat.inputHash = election.inputHash := by
    intro beat hbeat hcurrent hfree
    obtain ⟨hwinner, hhash⟩ := h.current beat hbeat hcurrent hfree election helection
    exact ⟨hwinner.symm.trans hactor, hhash.symm⟩
  refine ⟨fun beat hbeat => ?_, fun beat hbeat hcurrent hfree e he => ?_,
    fun beat beat' hbeat hbeat' hsame hfree => ?_⟩
  · rw [hepoch]
    rcases hcases beat hbeat with hold | rfl
    · exact h.bound beat hold
    · exact le_rfl
  · rw [helected, helection, Option.some.injEq] at he
    subst he
    rcases hcases beat hbeat with hold | rfl
    · obtain ⟨hplayer, hhash⟩ := hnamed beat hold (hcurrent.trans hepoch) hfree
      exact ⟨hactor.trans hplayer.symm, hhash.symm⟩
    · exact ⟨hactor, rfl⟩
  · rcases hcases beat hbeat with hold | rfl
    · rcases hcases beat' hbeat' with hold' | rfl
      · exact h.pair beat beat' hold hold' hsame hfree
      · exact hnamed beat hold hsame hfree
    · rcases hcases beat' hbeat' with hold' | rfl
      · obtain ⟨hplayer, hhash⟩ := hnamed beat' hold' hsame.symm (hsame ▸ hfree)
        exact ⟨hplayer.symm, hhash.symm⟩
      · exact ⟨rfl, rfl⟩

end StoredLobby

/-- Every change keeps the heartbeats and the installed election in agreement. -/
theorem Reign.agreed {c : Course} {s : World} {w w' : StoredLobby}
    {heartbeats : List StoredAcceptedHeartbeat} (h : Reign c s w w') (hw : w.Agreed heartbeats) :
    w'.Agreed heartbeats := by
  cases h with
  | same h => exact hw.same h.epoch h.accepted (Or.inl h.election)
  | vacated h => exact hw.same h.epoch h.accepted (Or.inr h.election)
  | elected election now hstate => exact hw.applyElection election now
  | started hready h => exact hw.same h.epoch h.accepted (Or.inl h.election)
  | @heartbeat request actor current election claimed now dryRun hstate hsynced hcurrent hclaim
      helection =>
    obtain ⟨hclaimed, -, rfl⟩ | ⟨locked, successor, -, -, -, hwinner, -, rfl⟩ :=
      acceptClaim_ok hclaim
    · cases hcurrent.symm.trans helection
      unfold StoredLobby.currentClaim at hclaimed
      have hactor := beq_iff_eq.mp (Bool.and_eq_true_iff.mp hclaimed).1
      exact hw.heartbeat helection hactor now
    · have helected := (w.applyElection_parts successor now).2.1.symm.trans helection
      cases helected
      exact (hw.applyElection election now).heartbeat helection hwinner now

/-! ## Successions -/

/-- How a match changes its authority: by the next epoch, after two seconds without a heartbeat, and
to the player who wins the election of the survivors over the matrix locked at the match start.  The
survivors are those the heartbeat names: members without the old authority. -/
structure StoredLobby.Succession (w w' : StoredLobby) (old election : AuthorityElection) :
    Prop where
  epoch : w'.authorityEpoch.toNat = w.authorityEpoch.toNat + 1
  silent : ∃ last now, w.lastAcceptedHeartbeat = some last
    ∧ w'.lastAcceptedHeartbeat
      = some ⟨election.winnerPlayerId, w'.authorityEpoch, election.inputHash, now⟩
    ∧ last.receivedAt.toNat + 2000 ≤ now.toNat
  won : ∃ locked survivors, w.matchStartElection = some locked
    ∧ StoredLobby.survivorElection locked survivors = .ok election
    ∧ survivors.Pairwise (· < ·) ∧ (∀ player ∈ survivors, w.hasPlayer player = true)
    ∧ election.winnerPlayerId ∈ survivors ∧ old.winnerPlayerId ∉ survivors

/-- Epochs do not go back, the locked election stays while the match is on, and a running match
changes its authority by a succession only, and finds none once it has lost it. -/
structure StoredLobby.Reigns (w w' : StoredLobby) : Prop where
  epoch : w.authorityEpoch ≤ w'.authorityEpoch
  locked : w.lobby.state = .inMatch → w'.lobby.state = .inMatch →
    w'.matchStartElection = w.matchStartElection
  vacant : w.lobby.state = .inMatch → w'.lobby.state = .inMatch → w.lastElection = none →
    w'.lastElection = none
  succession : w.lobby.state = .inMatch → w'.lobby.state = .inMatch → ∀ old election,
    w.lastElection = some old → w'.lastElection = some election →
    old.winnerPlayerId ≠ election.winnerPlayerId → w.Succession w' old election

def StoredLobby.Heard (w : StoredLobby) : Prop :=
  w.lobby.state = .inMatch → ∃ last, w.lastAcceptedHeartbeat = some last
    ∧ w.lastAuthorityHeartbeatAt = some last.receivedAt

theorem Reign.heard {c : Course} {s : World} {w w' : StoredLobby} (h : Reign c s w w')
    (hw : w.Heard) : w'.Heard := by
  intro hmatch
  cases h with
  | same h =>
    rw [h.accepted, h.beat]
    exact hw (h.inMatch hmatch)
  | vacated h =>
    rw [h.accepted, h.beat]
    exact hw (h.inMatch hmatch)
  | elected election now hstate => exact absurd hmatch (w.not_inMatch_applyElection hstate)
  | started hready h =>
    have hmatch' := h.inMatch hmatch
    exact LobbyState.noConfusion (hready.symm.trans hmatch')
  | heartbeat hstate hsynced hcurrent hclaim helection =>
    obtain ⟨-, -, haccepted, -, hbeat⟩ :=
      StoredLobby.heartbeatAccepted_parts _ _ _ _
    exact ⟨_, haccepted, hbeat⟩

theorem StoredLobby.Reigns.refl (w : StoredLobby) : w.Reigns w :=
  ⟨UInt64.le_refl _, fun _ _ => rfl, fun _ _ hnone => hnone, fun _ _ _ _ hold helection hne =>
    absurd (congrArg _ (Option.some.inj (hold.symm.trans helection))) hne⟩

theorem StoredLobby.Reigns.purge {r w : StoredLobby} {now : UnixMillis} (h : r.Reigns w) :
    (r.purgeRecord now).Reigns w := by
  refine ⟨h.epoch, h.locked, h.vacant, fun hr hmatch old election hold hnew hne => ?_⟩
  obtain ⟨hnext, hsilent, hwon⟩ := h.succession hr hmatch old election hold hnew hne
  exact ⟨hnext, hsilent, hwon⟩

/-- A change that leaves epoch, heartbeats and lock alone, and the election or drops it. -/
theorem StoredLobby.Reigns.same {r w w' : StoredLobby} (h : r.Reigns w)
    (hepoch : w'.authorityEpoch = w.authorityEpoch)
    (haccepted : w'.lastAcceptedHeartbeat = w.lastAcceptedHeartbeat)
    (hlocked : w'.lobby.state = .inMatch →
      w.lobby.state = .inMatch ∧ w'.matchStartElection = w.matchStartElection)
    (helection : w'.lastElection = w.lastElection ∨ w'.lastElection = none) : r.Reigns w' := by
  refine ⟨hepoch ▸ h.epoch, fun hr hmatch => ?_, fun hr hmatch hnone => ?_,
    fun hr hmatch old election hold hnew hne => ?_⟩
  · obtain ⟨hw, hsame⟩ := hlocked hmatch
    exact hsame.trans (h.locked hr hw)
  · obtain ⟨hw, -⟩ := hlocked hmatch
    exact helection.elim (fun hsame => hsame.trans (h.vacant hr hw hnone)) id
  · obtain ⟨hw, -⟩ := hlocked hmatch
    rcases helection with hsame | hnone
    · obtain ⟨hnext, hsilent, hwon⟩ := h.succession hr hw old election hold (hsame ▸ hnew) hne
      rw [← hepoch] at hnext
      rw [← hepoch, ← haccepted] at hsilent
      exact ⟨hnext, hsilent, hwon⟩
    · rw [hnone] at hnew
      exact absurd hnew nofun

/-- Purges leave the reign alone. -/
theorem World.Aged.reign {s : World} {r w : StoredLobby} (h : s.Aged w r) :
    r.lobby = w.lobby ∧ r.SameReign w := by
  obtain ⟨times, -, rfl⟩ := h
  induction times using List.reverseRecOn with
  | nil => exact ⟨rfl, .refl _⟩
  | append_singleton times t ih =>
    rw [List.foldl_append]
    exact ⟨ih.1, ⟨ih.2.epoch, ih.2.election, ih.2.accepted, ih.2.beat, ih.2.locked, ih.2.inMatch⟩⟩

theorem succession_of_claim {w : StoredLobby} {current : AuthorityElection} {actor : PlayerId}
    {request : AuthorityHeartbeatRequest} {now : UnixMillis} (hheard : w.Heard)
    (haccepts : w.acceptsSuccessor current actor request now = true)
    {locked successor : AuthorityElection} (hlocked : w.matchStartElection = some locked)
    (hwon : StoredLobby.survivorElection locked request.survivors = .ok successor)
    (hwinner : successor.winnerPlayerId = actor)
    (hepoch : (w.applyElection successor now).authorityEpoch = w.requestedEpoch request) :
    w.Succession ((w.applyElection successor now).heartbeatAccepted actor successor now) current
      successor := by
  obtain ⟨hnext, -, haccepted, -, -⟩ :=
    (w.applyElection successor now).heartbeatAccepted_parts actor successor now
  unfold StoredLobby.acceptsSuccessor at haccepts
  simp only [Bool.and_eq_true, beq_iff_eq, decide_eq_true_eq, List.all_eq_true,
    Bool.not_eq_true', List.contains_eq_mem, decide_eq_false_iff_not] at haccepts
  obtain ⟨⟨⟨⟨⟨⟨⟨⟨hmatch, hsilent⟩, hadd⟩, -⟩, hsorted⟩, -⟩, hmembers⟩, hactor⟩, hold⟩ := haccepts
  obtain ⟨last, hlast, hbeat⟩ := hheard hmatch
  refine ⟨?_, ⟨last, now, hlast, ?_, ?_⟩, ⟨locked, request.survivors, hlocked, hwon,
    hsorted, hmembers, hwinner ▸ hactor, hold⟩⟩
  · rw [hnext, hepoch]
    exact UInt64.checkedAdd_eq_some.mp hadd
  · rw [haccepted, hnext, hwinner]
  · unfold StoredLobby.authoritySilent at hsilent
    rw [hbeat] at hsilent
    exact StoredLobby.ageAtLeast_iff.mp hsilent

theorem Reign.reigns {c : Course} {s : World} {r w w' : StoredLobby} (h : Reign c s w w')
    (hrecord : s.record c.id = some r) (hheard : w.Heard) (hw : r.Reigns w) : r.Reigns w' := by
  cases h with
  | same h =>
    exact hw.same h.epoch h.accepted (fun hmatch => ⟨h.inMatch hmatch, h.locked⟩)
      (Or.inl h.election)
  | vacated h =>
    exact hw.same h.epoch h.accepted (fun hmatch => ⟨h.inMatch hmatch, h.locked⟩)
      (Or.inr h.election)
  | elected election now hstate =>
    have hidle : (w.applyElection election now).lobby.state ≠ .inMatch :=
      w.not_inMatch_applyElection hstate
    refine ⟨?_, fun _ hmatch => absurd hmatch hidle, fun _ hmatch => absurd hmatch hidle,
      fun _ hmatch => absurd hmatch hidle⟩
    exact UInt64.le_trans hw.epoch (w.le_applyElection election now)
  | started hready h =>
    have hidle : w'.lobby.state ≠ .inMatch := fun hmatch =>
      LobbyState.noConfusion (hready.symm.trans (h.inMatch hmatch))
    exact hw.same h.epoch h.accepted (fun hmatch => absurd hmatch hidle) (Or.inl h.election)
  | @heartbeat request actor current election claimed now dryRun hstate hsynced hcurrent hclaim
      helection =>
    obtain ⟨hlobby, hsame⟩ := World.Aged.reign (hsynced r hrecord)
    have helected : r.lastElection = some current := hsame.election ▸ hcurrent
    obtain ⟨-, -, rfl⟩ | ⟨locked, successor, haccepts, hlocked, hwon, hwinner, hinstalled, rfl⟩ :=
      acceptClaim_ok hclaim
    · obtain ⟨hepoch, hinstalls, -, hkept, -⟩ := claimed.heartbeatAccepted_parts actor election now
      refine ⟨?_, fun _ _ => hkept.trans hsame.locked,
        fun _ _ hnone => absurd (hnone.symm.trans helected) nofun,
        fun _ _ old installed hold hnew hne => ?_⟩
      · rw [hepoch, hsame.epoch]
        exact UInt64.le_refl _
      · rw [hinstalls, hsame.election, hold, Option.some.injEq] at hnew
        exact absurd (congrArg _ hnew) hne
    · obtain ⟨hepoch, hkeeps, -, hkept, -⟩ :=
        (w.applyElection successor now).heartbeatAccepted_parts actor election now
      obtain ⟨-, hinstalls, -, hkept', -⟩ := w.applyElection_parts successor now
      cases hinstalls.symm.trans helection
      refine ⟨?_, fun _ _ => (hkept.trans hkept').trans hsame.locked,
        fun _ _ hnone => absurd (hnone.symm.trans helected) nofun,
        fun _ _ old installed hold hnew hne => ?_⟩
      · rw [hepoch]
        refine UInt64.le_trans ?_ (w.le_applyElection election now)
        rw [hsame.epoch]
        exact UInt64.le_refl _
      · rw [hkeeps, hinstalls, Option.some.injEq] at hnew
        subst hnew
        cases helected.symm.trans hold
        obtain ⟨hnext, ⟨last, now', hlast, hlater, hsilent⟩, ⟨start, survivors, hstart, hwon',
          hsorted, hmembers, hrest⟩⟩ :=
            succession_of_claim hheard haccepts hlocked hwon hwinner hinstalled
        refine ⟨?_, ⟨last, now', ?_, hlater, hsilent⟩, ⟨start, survivors, ?_, hwon',
          hsorted, ?_, hrest⟩⟩
        · rw [hnext, hsame.epoch]
        · rw [← hsame.accepted, hlast]
        · rw [← hsame.locked, hstart]
        · unfold StoredLobby.hasPlayer at hmembers ⊢
          rw [hlobby]
          exact hmembers

/-! ## Requests -/

namespace World

variable {s s' : World} {id : LobbyId}

theorem heartbeats_same (new : List Event) (htrace : s'.trace = new ++ s.trace)
    (hnew : ∀ e ∈ new, e.isCreated = false ∧ e.accepted = none) :
    s'.heartbeats = s.heartbeats := by
  unfold heartbeats lifetime
  rw [htrace]
  clear htrace
  induction new with
  | nil => rfl
  | cons e new ih =>
    obtain ⟨hcreated, haccepted⟩ := hnew e List.mem_cons_self
    rw [List.cons_append, List.takeWhile_cons_of_pos (by rw [hcreated]; rfl),
      List.filterMap_cons_none haccepted]
    exact ih fun e he => hnew e (List.mem_cons_of_mem _ he)

/-- An event that is neither a create nor a write. -/
theorem heartbeats_note {e : Event} (hcreated : e.isCreated = false)
    (haccepted : e.accepted = none) (htrace : s'.trace = e :: s.trace) :
    s'.heartbeats = s.heartbeats := by
  refine heartbeats_same [e] htrace fun e' he => ?_
  cases List.mem_singleton.mp he
  exact ⟨hcreated, haccepted⟩

theorem heartbeats_clocks (new : List Event) (htrace : s'.trace = new ++ s.trace)
    (hnew : ∀ e ∈ new, e.isClock = true) : s'.heartbeats = s.heartbeats := by
  refine heartbeats_same new htrace fun e he => ?_
  cases e with
  | clock at_ => exact ⟨rfl, rfl⟩
  | _ => exact absurd (hnew _ he) Bool.false_ne_true

theorem mem_heartbeats_write {w : StoredLobby} {beat : StoredAcceptedHeartbeat}
    (h : beat ∈ (s.write id w).heartbeats) :
    beat ∈ s.heartbeats ∨ w.lastAcceptedHeartbeat = some beat := by
  cases hr : s.record id with
  | none =>
    unfold heartbeats lifetime at h
    rw [trace_write_of_none hr] at h
    exact Or.inl h
  | some r =>
    unfold heartbeats lifetime at h
    rw [trace_write hr, List.takeWhile_cons_of_pos rfl] at h
    obtain ⟨e, he, haccepted⟩ := List.mem_filterMap.mp h
    rcases List.mem_cons.mp he with rfl | he
    · exact Or.inr haccepted
    · exact Or.inl (List.mem_filterMap.mpr ⟨e, he, haccepted⟩)

theorem heartbeats_create {call : CreateCall} :
    ((s.create call).2.heartbeats = []
        ∧ ∃ lobby, (s.create call).1 = .ok (.created lobby))
      ∨ (s.create call).2.heartbeats = s.heartbeats
        ∧ ∀ lobby, (s.create call).1 ≠ .ok (.created lobby) := by
  unfold heartbeats lifetime
  rcases trace_create s call with ⟨lobby, hcreated, htrace⟩ | ⟨hrefused, htrace⟩
  · rw [htrace, List.takeWhile_cons_of_neg (by exact Bool.false_ne_true)]
    exact Or.inl ⟨rfl, lobby, hcreated⟩
  · rw [htrace]
    exact Or.inr ⟨rfl, hrefused⟩

end World

theorem StoredLobby.Agreed.mono {w w' : StoredLobby} {heartbeats heartbeats' :
    List StoredAcceptedHeartbeat} (h : w.Agreed heartbeats)
    (haccepts : ∀ beat, w'.Accepts heartbeats' beat → w.Accepts heartbeats beat)
    (hepoch : w'.authorityEpoch = w.authorityEpoch) (helection : w'.lastElection = w.lastElection) :
    w'.Agreed heartbeats' := by
  refine ⟨fun beat hbeat => ?_, fun beat hbeat hcurrent hfree election helected => ?_,
    fun beat beat' hbeat hbeat' => h.pair beat beat' (haccepts beat hbeat) (haccepts beat' hbeat')⟩
  · rw [hepoch]
    exact h.bound beat (haccepts beat hbeat)
  · exact h.current beat (haccepts beat hbeat) (hcurrent.trans hepoch) hfree election
      (helection ▸ helected)

/-- What the durable record and the held one agree with are the heartbeats of the trace. -/
structure Flight.Agreed (id : LobbyId) (f : Flight) : Prop where
  stored : ∀ r, f.world.record id = some r → r.Agreed f.world.heartbeats
  held : ∀ stage w, f.held = some (stage, w) → w.Agreed f.world.heartbeats
  paired : Paired f.world.heartbeats

section Flights

variable {c : Course} {f f' : Flight}

/-- A move that neither replaces nor creates. -/
theorem Flight.Agreed.quiet {held : Option (Stage × StoredLobby)} {s s' : World} {id : LobbyId}
    (h : Flight.Agreed id ⟨held, s⟩)
    (hrecord : ∀ r', s'.record id = some r' → ∃ r, s.record id = some r
      ∧ (r' = r ∨ ∃ now, r' = r.purgeRecord now))
    (hbeats : s'.heartbeats = s.heartbeats) : Flight.Agreed id ⟨held, s'⟩ := by
  refine ⟨fun r' hr' => ?_, fun stage w hw => ?_, hbeats.symm ▸ h.paired⟩
  · dsimp only
    rw [hbeats]
    obtain ⟨r, hr, rfl | ⟨now, rfl⟩⟩ := hrecord r' hr'
    · exact h.stored r' hr
    · exact (h.stored r hr).same rfl rfl (Or.inl rfl)
  · dsimp only
    rw [hbeats]
    exact h.held stage w hw

theorem StoredLobby.agreed_new {w : StoredLobby} (h : w.lastAcceptedHeartbeat = none) :
    w.Agreed [] := by
  have hnone : ∀ beat, ¬w.Accepts [] beat := by
    rintro beat (hmem | hlast)
    · exact absurd hmem List.not_mem_nil
    · rw [h] at hlast
      exact absurd hlast nofun
  exact ⟨fun beat hbeat => absurd hbeat (hnone beat), fun beat hbeat => absurd hbeat (hnone beat),
    fun beat _ hbeat => absurd hbeat (hnone beat)⟩

theorem Course.IsNew.unheard {r : StoredLobby} {now : UnixMillis} (h : c.IsNew r now) :
    r.lastAcceptedHeartbeat = none := by
  obtain ⟨request, mode, actor, token, tag, dryRun, localOperator, -, rfl⟩ := h
  unfold Service.newRecord
  dsimp only
  split
  · rfl
  · rfl

theorem Move.agreed (hfiled : f.All c.id (StoredLobby.Filed c.id)) (h : Move c f f')
    (hf : f.Agreed c.id) : f'.Agreed c.id := by
  have hsame : ∀ {s s' : World}, s'.record c.id = s.record c.id → ∀ r', s'.record c.id = some r' →
      ∃ r, s.record c.id = some r ∧ (r' = r ∨ ∃ now, r' = r.purgeRecord now) :=
    fun hrecord r' hr' => ⟨r', hrecord ▸ hr', Or.inl rfl⟩
  cases h with
  | elsewhere held s step =>
    obtain ⟨new, htrace, hnew⟩ := @World.elsewhere_trace c.id s step
    refine hf.quiet (fun r' hr' => ?_) (World.heartbeats_clocks new htrace hnew)
    obtain ⟨r, hr, rfl | ⟨now, -, rfl⟩⟩ := World.elsewhere_record hr'
    · exact ⟨r', hr, Or.inl rfl⟩
    · exact ⟨r, hr, Or.inr ⟨now, rfl⟩⟩
  | elapse held s elapsed => exact hf.quiet (hsame rfl) rfl
  | clock held s now =>
    exact hf.quiet (hsame rfl) (World.heartbeats_note rfl rfl rfl)
  | load s hload hrecord =>
    refine ⟨hf.stored, fun stage w hw => ?_, hf.paired⟩
    cases hw
    exact hf.stored _ hrecord
  | change s h =>
    refine ⟨hf.stored, fun stage w hw => ?_, hf.paired⟩
    cases hw
    exact h.reign.agreed (hf.held _ _ rfl)
  | write stage w s hcontains =>
    have hnamed := (hfiled.held stage w rfl).named
    have hw := hf.held stage w rfl
    have hkeep : w.Agreed (s.write c.id w).heartbeats :=
      hw.mono (fun beat hbeat => hbeat.elim World.mem_heartbeats_write Or.inr) rfl rfl
    refine ⟨fun r hr => ?_, fun stage' w' hw' => ?_,
      fun beat hbeat beat' hbeat' => hkeep.pair beat beat' (Or.inl hbeat) (Or.inl hbeat')⟩
    · dsimp only at hr ⊢
      rw [World.record_write hcontains, if_pos hnamed] at hr
      cases hr
      exact hkeep
    · cases hw'
      exact hkeep
  | created s hnew hread hcreated =>
    rcases World.heartbeats_create with ⟨hbeats, -⟩ | ⟨-, hrefused⟩
    · have hfresh := StoredLobby.agreed_new hnew.unheard
      refine ⟨fun r hr => ?_, fun stage w hw => ?_, hbeats.symm ▸ nofun⟩
      · cases (World.record_created hnew.lobbyId hcreated).symm.trans hr
        exact hbeats ▸ hfresh
      · cases hw
        exact hbeats ▸ hfresh
    · exact absurd hcreated (hrefused _)
  | refused s hread hrefused =>
    rcases World.heartbeats_create with ⟨-, lobby, hcreated⟩ | ⟨hbeats, -⟩
    · exact absurd hcreated (hrefused lobby)
    · refine hf.quiet (fun r' hr' => ?_) hbeats
      rcases World.record_create hr' with ⟨hcreated, -⟩ | ⟨r, hr, rfl⟩
      · exact absurd hcreated (hrefused _)
      · exact ⟨r, hr, Or.inr ⟨_, rfl⟩⟩
  | granted held s verifier expiresAt =>
    exact hf.quiet (hsame (World.record_granted verifier expiresAt)) rfl
  | prepared held s request ha =>
    exact hf.quiet (hsame rfl) (World.heartbeats_note rfl rfl rfl)
  | cleaned held s request ha =>
    exact hf.quiet (hsame rfl) (World.heartbeats_note rfl rfl rfl)
  | erased held s request ha =>
    exact hf.quiet (hsame rfl) (World.heartbeats_note rfl rfl rfl)
  | minted w s ha hsynced =>
    refine Flight.Agreed.quiet ⟨hf.stored, fun stage w' hw' => ?_, hf.paired⟩ (hsame rfl)
      (World.heartbeats_note rfl rfl rfl)
    cases hw'
    exact hf.held _ _ rfl
  | observed held s request ha =>
    exact hf.quiet (hsame rfl) (World.heartbeats_note rfl rfl rfl)
  | anchored w s hfirst hobserved hat => exact hf.quiet (hsame rfl) rfl
  | unanchored held s => exact hf.quiet (hsame rfl) rfl
  | lost held s ha next => exact hf.quiet (hsame rfl) rfl

end Flights


theorem Moves.agreed {c : Course} {f f' : Flight} (h : Moves c f f')
    (hfiled : f.All c.id (StoredLobby.Filed c.id)) (hf : f.Agreed c.id) : f'.Agreed c.id := by
  induction h with
  | refl => exact hf
  | tail hmoves hmove ih =>
    have hfiled' := Moves.all (fun r now hr => ⟨hr.named, hr.closed⟩) (fun r now hnew => hnew.filed)
      (fun _ _ _ _ _ hw hchange => hchange.filed hw) hmoves hfiled
    exact hmove.agreed hfiled' ih

/-! ## Runs -/

theorem StoredLobby.sameReign_normalizeRecord (w : StoredLobby) :
    w.SameReign (StoreData.normalizeRecord w).1 := by
  unfold StoreData.normalizeRecord
  dsimp only
  split_ifs
  all_goals exact ⟨rfl, rfl, rfl, rfl, rfl, id⟩

theorem StoredLobby.Heard.same {w w' : StoredLobby} (h : w.Heard) (hsame : w.SameReign w') :
    w'.Heard := by
  intro hmatch
  rw [hsame.accepted, hsame.beat]
  exact h (hsame.inMatch hmatch)

/-- The record of the lobby agrees with the heartbeats of its lifetime, and every replace so far has
kept the reign. -/
structure World.Reigned (id : LobbyId) (s : World) : Prop where
  heard : ∀ r, s.record id = some r → r.Heard
  agreed : ∀ r, s.record id = some r → r.Agreed s.heartbeats
  paired : Paired s.heartbeats
  wrote : ∀ before after quarantines, .wrote before after quarantines ∈ s.trace →
    before.Reigns after

namespace World.Reigned

variable {id : LobbyId} {s : World}

theorem handle (h : s.Reigned id) (htended : s.Tended id) (config : ServiceConfig)
    (request : LobbyRequest) (answers : List Answer) :
    ((request.program id config).exec s answers).Reigned id := by
  obtain ⟨held, hmoves⟩ :=
    handle_moves (c := ⟨id, s, config, request, answers⟩) htended.filed
  have hfiled : Flight.All id (StoredLobby.Filed id) ⟨none, s⟩ :=
    ⟨htended.filed, fun _ _ heq => nomatch heq⟩
  have hagreed := hmoves.agreed hfiled ⟨h.agreed, fun _ _ heq => (nomatch heq), h.paired⟩
  have hend := Moves.follows (P := StoredLobby.Heard) (T := StoredLobby.Reigns)
    (fun r now hr => hr) (fun r now hnew hmatch =>
      LobbyState.noConfusion (hnew.provisioning.symm.trans hmatch))
    (fun _ _ _ _ _ hw hchange => hchange.reign.heard hw)
    StoredLobby.Reigns.refl (fun _ _ _ hreigns => hreigns.purge)
    (fun _ _ _ _ _ _ hw hrecord hreigns hchange => hchange.reign.reigns hrecord hw hreigns) hmoves
    ⟨h.heard, fun _ _ heq => nomatch heq⟩ ⟨fun _ _ _ _ heq => (nomatch heq), h.wrote⟩
  exact ⟨hend.1.stored, hagreed.stored, hagreed.paired, hend.2.wrote⟩

theorem elsewhere (h : s.Reigned id) (step : StoreStep) : (s.elsewhere id step).Reigned id := by
  obtain ⟨new, htrace, hnew⟩ := @World.elsewhere_trace id s step
  have hbeats := World.heartbeats_clocks new htrace hnew
  have haged : ∀ r', (s.elsewhere id step).record id = some r' →
      ∃ r, s.record id = some r ∧ r.SameReign r' := by
    intro r' hr'
    obtain ⟨r, hr, rfl | ⟨now, -, rfl⟩⟩ := World.elsewhere_record hr'
    · exact ⟨r', hr, .refl r'⟩
    · exact ⟨r, hr, rfl, rfl, rfl, rfl, rfl, fun hmatch => hmatch⟩
  refine ⟨fun r' hr' => ?_, fun r' hr' => ?_, hbeats.symm ▸ h.paired,
    fun before after quarantines hwrote => ?_⟩
  · obtain ⟨r, hr, hsame⟩ := haged r' hr'
    exact (h.heard r hr).same hsame
  · obtain ⟨r, hr, hsame⟩ := haged r' hr'
    rw [hbeats]
    exact (h.agreed r hr).same hsame.epoch hsame.accepted (Or.inl hsame.election)
  · rw [htrace] at hwrote
    rcases List.mem_append.mp hwrote with hclock | hold
    · exact absurd (hnew _ hclock) Bool.false_ne_true
    · exact h.wrote _ _ _ hold

theorem restarted (h : s.Reigned id) (hfile : s.file = none) : s.restarted.Reigned id := by
  have hbeats : s.restarted.heartbeats = s.heartbeats :=
    World.heartbeats_note rfl rfl rfl
  have hkept : ∀ r', s.restarted.record id = some r' →
      ∃ r, s.record id = some r ∧ r.SameReign r' := by
    intro r' hr'
    rw [World.record_restarted id hfile] at hr'
    obtain ⟨r, hr, rfl⟩ := Option.map_eq_some_iff.mp hr'
    exact ⟨r, hr, r.sameReign_normalizeRecord⟩
  refine ⟨fun r' hr' => ?_, fun r' hr' => ?_, hbeats.symm ▸ h.paired,
    fun before after quarantines hwrote => ?_⟩
  · obtain ⟨r, hr, hsame⟩ := hkept r' hr'
    exact (h.heard r hr).same hsame
  · obtain ⟨r, hr, hsame⟩ := hkept r' hr'
    rw [hbeats]
    exact (h.agreed r hr).same hsame.epoch hsame.accepted (Or.inl hsame.election)
  · rcases List.mem_cons.mp hwrote with hrestart | hold
    · exact Event.noConfusion hrestart
    · exact h.wrote _ _ _ hold

end World.Reigned

/-- **At the service an epoch determines the authority.**  In every run of the lobby, accepted
heartbeats of one epoch, short of the last, are of one player and one election input; and every
replace of the record keeps the reign: the epoch does not go back, and while the match is on only a
succession installs another winner, over the matrix that was locked when it started. -/
theorem epoch_determines_authority (id : LobbyId) (i p : Digest) (steps : List ServiceStep) :
    let s := Runs.run (World.step id) (World.empty i p) steps
    Paired s.heartbeats
      ∧ ∀ before after quarantines, .wrote before after quarantines ∈ s.trace →
        before.Reigns after := by
  have hnone : (World.empty i p).record id = none := Std.ExtTreeMap.getElem?_empty
  have hempty : (World.empty i p).Tended id ∧ (World.empty i p).Reigned id :=
    ⟨World.Tended.empty id i p, fun r hr => absurd (hnone.symm.trans hr) nofun,
      fun r hr => absurd (hnone.symm.trans hr) nofun, nofun,
      fun _ _ _ hwrote => absurd hwrote List.not_mem_nil⟩
  have hstep : ∀ (s : World) (step : ServiceStep), s.Tended id ∧ s.Reigned id →
      World.Tended id (World.step id s step).2 ∧ World.Reigned id (World.step id s step).2 := by
    rintro s step ⟨htended, hreigned⟩
    cases step with
    | handle config request answers =>
      exact ⟨htended.handle config request answers, hreigned.handle htended config request answers⟩
    | elsewhere step => exact ⟨htended.elsewhere step, hreigned.elsewhere step⟩
    | restart =>
      exact World.step_restart (P := fun s => s.Tended id ∧ s.Reigned id)
        ⟨htended, hreigned⟩ fun hfile => ⟨htended.restarted hfile, hreigned.restarted hfile⟩
  have hend := (Runs.run_invariant hstep hempty steps).2
  exact ⟨hend.paired, hend.wrote⟩

end Spurfire
