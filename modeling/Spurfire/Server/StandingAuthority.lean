import Spurfire.Protocol.ElectionOutcome
import Spurfire.Server.LeaveFrame

/-!
# The authority of a match

A lobby that is ready, starting or in its match has an authority that was elected from its roster.
Every change of a record keeps that, except a leave from the match itself, which forgets the election
while the match goes on:

* `SameMatch`: what most changes keep, and `Manned`: the authority stands;
* `Change.manned`: the changes of a request that spares the match;
* `Service.leaveLobby` without an answer stores nothing of the leave (`walks_unanswered`);
* `authority_stands_along` is the result for every run whose leaves spare the match.
-/

namespace Spurfire

open Interrupt

def LobbyState.needsAuthority : LobbyState → Bool
  | ready | starting | inMatch => true
  | _ => false

theorem LobbyState.needsAuthority_of_isClosed {state : LobbyState} (h : state.isClosed = true) :
    state.needsAuthority = false := by
  cases state with
  | closing => rfl
  | failed => rfl
  | expired => rfl
  | destroyed => rfl
  | _ => exact nomatch h

namespace StoredLobby

variable {w w' : StoredLobby}

/-- The election and the authority are present, and name one member of the roster. -/
def Led (w : StoredLobby) : Prop :=
  ∃ election authority, w.lastElection = some election ∧ w.lobby.authority = some authority
    ∧ authority.candidatePlayerId = election.winnerPlayerId ∧ w.hasPlayer authority.candidatePlayerId = true

/-- A startable or running lobby has its authority. -/
def Manned (w : StoredLobby) : Prop := w.lobby.state.needsAuthority = true → w.Led

/-- State, members, election and authority are the same. -/
structure SameMatch (w w' : StoredLobby) : Prop where
  state : w'.lobby.state = w.lobby.state
  members : ∀ player, w'.hasPlayer player = w.hasPlayer player
  election : w'.lastElection = w.lastElection
  authority : w'.lobby.authority = w.lobby.authority

theorem SameMatch.led (h : SameMatch w w') (hw : w.Led) : w'.Led := by
  obtain ⟨election, authority, helection, hauthority, hwinner, hmember⟩ := hw
  exact ⟨election, authority, h.election.trans helection, h.authority.trans hauthority, hwinner,
    (h.members _).trans hmember⟩

theorem SameMatch.manned (h : SameMatch w w') (hw : w.Manned) : w'.Manned :=
  fun hneeds => h.led (hw (h.state ▸ hneeds))

theorem SameMatch.trans {u : StoredLobby} (h : SameMatch u w) (h' : SameMatch w w') :
    SameMatch u w' :=
  ⟨h'.state.trans h.state, fun player => (h'.members player).trans (h.members player),
    h'.election.trans h.election, h'.authority.trans h.authority⟩

/-- A roster that is only relabelled has the same members. -/
theorem hasPlayer_map {f : Player → Player} (hf : ∀ p, (f p).playerId = p.playerId)
    (hroster : w'.lobby.roster = w.lobby.roster.map f) (player : PlayerId) :
    w'.hasPlayer player = w.hasPlayer player := by
  unfold hasPlayer
  rw [hroster, List.any_map]
  exact congrArg (List.any w.lobby.roster) (funext fun p => by rw [Function.comp_apply, hf])

/-! ## The single updates -/

theorem sameMatch_applyCleanupResult {now : UnixMillis}
    {result : Except ProviderError CleanupOutcome} {full : Bool}
    (h : w.applyCleanupResult now result full = some w') : SameMatch w w' := by
  have hmarked : SameMatch w (w.settledAndMarked now full result) := by
    have hsettled : SameMatch w (w.settledBy now full result) := by
      cases result with
      | error error =>
        unfold settledBy
        dsimp only
        split_ifs
        · exact ⟨rfl, fun _ => rfl, rfl, rfl⟩
        · exact ⟨rfl, fun _ => rfl, rfl, rfl⟩
      | ok outcome => exact ⟨rfl, fun _ => rfl, rfl, rfl⟩
    refine hsettled.trans ?_
    unfold settledAndMarked markPendingCredential
    split
    · exact ⟨rfl, fun _ => rfl, rfl, rfl⟩
    · exact ⟨rfl, fun _ => rfl, rfl, rfl⟩
  obtain ⟨lifecycle, pending, rfl, -⟩ := applyCleanupResult_some h
  refine hmarked.trans ⟨rfl, hasPlayer_map (fun p => ?_) rfl, rfl, rfl⟩
  dsimp only
  split_ifs
  · rfl
  · rfl
  · rfl

theorem sameMatch_forgetMeasurements (w : StoredLobby) : SameMatch w w.forgetMeasurements := by
  unfold forgetMeasurements
  split_ifs
  · exact ⟨rfl, hasPlayer_map (f := fun player => { player with routeSummary := ⟨0, 0, 0⟩ })
      (fun _ => rfl) rfl, rfl, rfl⟩
  · exact ⟨rfl, fun _ => rfl, rfl, rfl⟩

/-- A measurement takes a ready lobby back, and else leaves the match alone. -/
theorem measured_cases (w : StoredLobby) (player : PlayerId) (sample : ConnectivitySample)
    (now : UnixMillis) : (w.measured player sample now).lobby.state = .forming
      ∨ SameMatch w (w.measured player sample now) := by
  by_cases hready : w.lobby.state = .ready
  · refine Or.inl ?_
    rw [state_measured, state_unready, if_pos hready]
  · have hsame : w.unready = w := if_neg hready
    refine Or.inr ⟨?_, hasPlayer_map (f := fun p => if p.playerId = player then
      { p with routeSummary := sample.routeSummary, joinState := .connected } else p) (fun p => ?_) ?_,
      ?_, ?_⟩
    · rw [state_measured, hsame]
    · split_ifs
      · rfl
      · rfl
    · unfold measured
      rw [hsame]
      rfl
    · unfold measured
      rw [hsame]
      rfl
    · unfold measured
      rw [hsame]
      rfl

theorem winner_mem_candidates {candidates : List AuthorityCandidate} {now : UnixMillis}
    {election : AuthorityElection} (h : electAuthority candidates now = .ok election) :
    ∃ candidate ∈ candidates, candidate.playerId = election.winnerPlayerId := by
  unfold electAuthority electAuthorityForWire at h
  split_ifs at h with hfew
  obtain ⟨hscored, winner, hbest, hwinner⟩ := electAuthorityForRoster_ok h
  obtain ⟨hmem, -⟩ := AuthorityScore.best_spec hbest
  have hrow : ∃ row ∈ election.scoredCandidates, row.toScore = winner := by
    unfold participants at hmem
    dsimp only at hmem
    split_ifs at hmem
    · exact List.mem_map.mp hmem
    · obtain ⟨row, hrow, heq⟩ := List.mem_map.mp hmem
      exact ⟨row, (List.mem_filter.mp hrow).1, heq⟩
  obtain ⟨row, hrow, rfl⟩ := hrow
  obtain ⟨candidate, hcandidate, hscreened⟩ := (hscored row).mp hrow
  exact ⟨candidate, hcandidate, (playerId_of_screened hscreened).symm.trans hwinner⟩

theorem led_applyElection (w : StoredLobby) {election : AuthorityElection} (now : UnixMillis)
    (h : w.hasPlayer election.winnerPlayerId = true) : (w.applyElection election now).Led := by
  unfold applyElection
  dsimp only
  split_ifs
  · exact ⟨election, _, rfl, rfl, rfl, h⟩
  · exact ⟨election, _, rfl, rfl, rfl, h⟩

/-- A recomputed authority is a member's, unless the lobby only waits for measurements. -/
theorem recomputeAuthority_cases {now : UnixMillis} (h : w.recomputeAuthority now = .ok w') :
    w' = w.forgetAuthority ∨ ∃ election, w' = w.applyElection election now
      ∧ w.hasPlayer election.winnerPlayerId = true := by
  unfold recomputeAuthority at h
  split_ifs at h with hfresh
  · cases h
    exact Or.inl rfl
  · cases helected : electAuthority w.authorityCandidates now with
    | error error =>
      rw [helected] at h
      exact nomatch h
    | ok election =>
      rw [helected] at h
      cases h
      refine Or.inr ⟨election, rfl, ?_⟩
      obtain ⟨candidate, hcandidate, hwinner⟩ := winner_mem_candidates helected
      obtain ⟨player, hplayer, hmeasured⟩ := List.mem_filterMap.mp hcandidate
      obtain ⟨measurement, -, rfl⟩ := Option.map_eq_some_iff.mp hmeasured
      exact List.any_eq_true.mpr ⟨player, hplayer, beq_iff_eq.mpr hwinner⟩

theorem state_left (w : StoredLobby) (player : PlayerId) (now : UnixMillis) (dryRun : Bool) :
    (w.left player now dryRun).lobby.state
      = if w.lobby.state = .ready then .forming else w.lobby.state :=
  state_unready (w.departed player).forgetAuthority

theorem sameMatch_enforceJoinRateLimit {player : PlayerId} {now : UnixMillis}
    (h : w.enforceJoinRateLimit player now = some w') : SameMatch w w' := by
  unfold enforceJoinRateLimit at h
  dsimp only at h
  split_ifs at h
  cases h
  exact ⟨rfl, fun _ => rfl, rfl, rfl⟩

theorem sameMatch_spendInvitation {invitation : Option Digest} {now : UnixMillis}
    (h : Service.spendInvitation w invitation now = .ok w') : SameMatch w w' := by
  unfold Service.spendInvitation at h
  split at h
  · cases h
    exact ⟨rfl, fun _ => rfl, rfl, rfl⟩
  · split at h
    · rename_i hconsumed
      cases h
      obtain ⟨i, -, rfl⟩ := Option.map_eq_some_iff.mp hconsumed
      exact ⟨rfl, fun _ => rfl, rfl, rfl⟩
    · exact nomatch h

end StoredLobby

/-! ## Changes that spare the match -/

/-- The request is not the leave of a member from the match of the record. -/
def Course.Spares (c : Course) (w : StoredLobby) : Prop :=
  ∀ headers player, c.request = .leave headers player → w.lobby.state = .inMatch →
    w.hasPlayer player = false

/-- The authority stands, and the request spares the match. -/
structure Course.Stands (c : Course) (w : StoredLobby) : Prop where
  manned : w.Manned
  spares : c.Spares w

section Changes

variable {c : Course} {s : World} {stage stage' : Stage} {w w' : StoredLobby}

theorem Course.Stands.same (h : c.Stands w) (hsame : StoredLobby.SameMatch w w') : c.Stands w' :=
  ⟨hsame.manned h.manned, fun headers player hrequest hmatch =>
    (hsame.members player).trans (h.spares headers player hrequest (hsame.state ▸ hmatch))⟩

/-- A lobby that is neither startable nor running needs no authority. -/
theorem Course.stands_of_free (h : w.lobby.state.needsAuthority = false) : c.Stands w := by
  refine ⟨fun hneeds => ?_, fun _ _ _ hmatch => ?_⟩
  · rw [h] at hneeds
    exact absurd hneeds Bool.false_ne_true
  · rw [hmatch] at h
    exact absurd h.symm Bool.false_ne_true

theorem Course.stands_of_closed (h : w.lobby.state.isClosed = true) : c.Stands w :=
  Course.stands_of_free (LobbyState.needsAuthority_of_isClosed h)

theorem Course.stands_of_forming (h : w.lobby.state = .forming) : c.Stands w :=
  Course.stands_of_free (h ▸ rfl)

/-- The claim of a survivor installs the claimant, who is a member. -/
theorem StoredLobby.led_heartbeatAccepted {current election : AuthorityElection} {actor : PlayerId}
    {request : AuthorityHeartbeatRequest} {claimed : StoredLobby} {now : UnixMillis} {dryRun : Bool}
    (hled : w.Led) (hclaim : Service.acceptClaim w current actor request now dryRun = .ok claimed) :
    (claimed.heartbeatAccepted actor election now).Led := by
  have hclaimed : claimed.Led := by
    obtain ⟨-, -, rfl⟩ | ⟨locked, successor, haccepts, -, -, hwinner, -, rfl⟩ :=
      acceptClaim_ok hclaim
    · exact hled
    · refine led_applyElection w now ?_
      unfold acceptsSuccessor at haccepts
      simp only [Bool.and_eq_true, List.all_eq_true, List.contains_iff_mem] at haccepts
      obtain ⟨⟨⟨-, hmembers⟩, hactor⟩, -⟩ := haccepts
      rw [hwinner]
      exact hmembers actor hactor
  obtain ⟨installed, authority, helection, hauthority, hwinner, hmember⟩ := hclaimed
  unfold heartbeatAccepted
  dsimp only
  split_ifs
  · exact ⟨installed, authority, helection, hauthority, hwinner, hmember⟩
  · exact ⟨installed, authority, helection, hauthority, hwinner, hmember⟩

theorem LobbyChange.stands (hw : c.Stands w) (h : LobbyChange c s stage w stage' w') :
    c.Stands w' := by
  cases h with
  | admitted w => exact hw
  | deadline w now =>
    rcases w.applyTimeTransitions_cases now with heq | ⟨next, reason, -, hnext, heq⟩
    · rw [heq]
      exact hw
    · rw [heq]
      refine Course.stands_of_closed ?_
      dsimp only
      rcases hnext with ⟨rfl, -⟩ | rfl
      · rfl
      · rfl
  | stale w now =>
    rcases w.refreshFreshnessState_cases now with heq | ⟨-, heq⟩
    · rw [heq]
      exact hw
    · rw [heq]
      exact Course.stands_of_forming rfl
  | reserve w key fingerprint hread hstate hreuse hopen hlimited hspent =>
    have hspend := (StoredLobby.sameMatch_enforceJoinRateLimit hlimited).trans
      (StoredLobby.sameMatch_spendInvitation hspent)
    exact hw.same (hspend.trans ⟨rfl, fun _ => rfl, rfl, rfl⟩)
  | enrolled w key fingerprint token now hstate hroom =>
    refine Course.stands_of_forming ?_
    change (StoredLobby.seated _ _ _).lobby.state = _
    rw [StoredLobby.state_seated, StoredLobby.state_unready]
    rcases hstate with hforming | hready
    · refine (if_neg ?_).trans hforming
      exact fun hready => absurd (hforming.symm.trans hready) LobbyState.noConfusion
    · exact if_pos hready
  | left w dryRun hrequest hstate hplayer ha hread hheard hresult =>
    have hsame := StoredLobby.sameMatch_applyCleanupResult hresult
    refine Course.stands_of_forming ?_
    rw [StoredLobby.state_left, hsame.state]
    cases hstate' : w.lobby.state with
    | forming => rfl
    | ready => rfl
    | inMatch =>
      have habsent := hw.spares _ _ hrequest hstate'
      exact absurd (habsent.symm.trans hplayer) Bool.false_ne_true
    | _ =>
      rw [hstate'] at hstate
      exact absurd hstate Bool.false_ne_true
  | measured w player sample now hstate =>
    rcases w.measured_cases player sample now with hforming | hsame
    · exact Course.stands_of_forming hforming
    · exact hw.same hsame
  | recomputed w hstate helected =>
    have hidle : w.lobby.state = .forming := by
      rcases hstate with hforming | ⟨hready, hnone⟩
      · exact hforming
      · obtain ⟨election, -, helection, -⟩ := hw.manned (by rw [hready]; rfl)
        exact absurd (hnone.symm.trans helection) nofun
    rcases StoredLobby.recomputeAuthority_cases helected with rfl | ⟨election, rfl, hmember⟩
    · exact Course.stands_of_forming hidle
    · refine ⟨fun _ => StoredLobby.led_applyElection w _ hmember, fun _ _ _ hmatch => ?_⟩
      exfalso
      unfold StoredLobby.applyElection at hmatch
      dsimp only at hmatch
      split_ifs at hmatch
      · exact LobbyState.noConfusion hmatch
      · exact LobbyState.noConfusion (hidle.symm.trans hmatch)
  | unstarted w hstate => exact Course.stands_of_forming rfl
  | started w key replay seed now hstate =>
    obtain ⟨election, authority, helection, hauthority, hwinner, hmember⟩ :=
      hw.manned (by rw [hstate]; rfl)
    exact ⟨fun _ => ⟨election, authority, helection, hauthority, hwinner, hmember⟩,
      fun _ _ _ hmatch => LobbyState.noConfusion hmatch⟩
  | heartbeat w hrequest hstate hsynced hcurrent hclaim helection =>
    refine ⟨fun _ => StoredLobby.led_heartbeatAccepted (hw.manned ?_) hclaim,
      fun _ _ hleave => absurd (hrequest.symm.trans hleave) nofun⟩
    rcases hstate with hstarting | hmatch
    · rw [hstarting]
      rfl
    · rw [hmatch]
      rfl
  | resulted w hstate => exact Course.stands_of_closed rfl
  | closed w hopen => exact Course.stands_of_closed rfl
  | _ => exact hw.same ⟨rfl, fun _ => rfl, rfl, rfl⟩

theorem NetworkChange.stands (hfiled : w.Filed c.id) (hw : c.Stands w)
    (h : NetworkChange c s stage w stage' w') : c.Stands w' := by
  cases h with
  | creating w hstate => exact hw.same ⟨rfl, fun _ => rfl, rfl, rfl⟩
  | provisioned w hstate hprovisioned =>
    obtain ⟨u, -, rfl | rfl⟩ := provisioned_ok hprovisioned
    · exact Course.stands_of_forming rfl
    · exact Course.stands_of_closed rfl
  | provisionFailed w now hstate hheard =>
    refine Course.stands_of_closed ?_
    rw [state_provisionFailed]
    rfl
  | denied w hload ha hdenied hrequires =>
    exact Course.stands_of_closed (w.closed_accessDenied _ _)
  | protect w hrequest hload hreal hgeneration => exact Course.stands_of_closed rfl
  | mintFailed w now hstate hheard =>
    refine Course.stands_of_closed ?_
    rw [StoredLobby.state_mintFailed, if_pos hstate]
    rfl
  | forgotten w hclosed => exact hw.same w.sameMatch_forgetMeasurements
  | settled w hclosed hopen hread hheard hresult =>
    exact hw.same (StoredLobby.sameMatch_applyCleanupResult hresult)
  | finalized w now finalize hclosed =>
    exact Course.stands_of_closed (isClosed_finalizeLobbyCleanup hclosed)
  | absent w completedAt now hverifying hdedicated hconfirmed hidentity hheard ha herased hfinal =>
    exact Course.stands_of_closed (isClosed_finalizeLobbyCleanup (hfiled.closed hverifying))
  | _ => exact hw.same ⟨rfl, fun _ => rfl, rfl, rfl⟩

theorem Change.stands (hfiled : w.Filed c.id) (hw : c.Stands w)
    (h : Change c s stage w stage' w') : c.Stands w' := by
  cases h with
  | lobby h => exact h.stands hw
  | network h => exact h.stands hfiled hw

end Changes

theorem StoredLobby.sameMatch_normalizeRecord (w : StoredLobby) :
    SameMatch w (StoreData.normalizeRecord w).1 := by
  unfold StoreData.normalizeRecord
  dsimp only
  split_ifs
  all_goals exact ⟨rfl, fun _ => rfl, rfl, rfl⟩

/-! ## Leaves without an answer -/

/-- A leave that is not answered has stored nothing of the leave, so that its moves are those that
any other request may make. -/
theorem walks_unanswered {c : Course} (hc : c.Filed) (headers : Headers) (player : PlayerId) :
    c.Walks c.start (Service.leaveLobby c.id c.config headers player) fun _ _ => True := by
  refine walks_opened hc fun legacy a ha w s hon hsynced hread => ?_
  refine meets_bind (walks_ofExcept hon fun dryRun _ => ?_)
  refine meets_bind (walks_check hon fun haccepts => ?_)
  by_cases hplayer : w.hasPlayer player = true
  · rw [if_pos hplayer]
    refine meets_bind (walks_providerCleanup hon _ fun result s₁ hon₁ htold => ?_)
    cases hresult : w.applyCleanupResult a.now result false with
    | none => exact walks_fail hon₁
    | some settled =>
      refine meets_bind (meets_bind (walks_await hon₁ fun b hb s₂ hon₂ hquiet => ?_))
      by_cases hstored :
          (b.persists && s₂.data.lobbies.contains (settled.left player a.now dryRun).lobby.lobbyId) = true
      · rw [if_pos hstored]
        exact meets_pure (meets_pure trivial)
      · rw [if_neg hstored]
        exact walks_check (hon₂.move (.lost _ s₂ hb _)) nofun
  · rw [if_neg hplayer]
    exact meets_pure trivial

/-! ## Runs -/

/-- The record of the lobby has the authority it needs. -/
def World.Manned (id : LobbyId) (s : World) : Prop := ∀ r, s.record id = some r → r.Manned

/-- The service grants a member of a running match to leave. -/
def ServiceStep.Deserts (id : LobbyId) (s : World) : ServiceStep → Prop
  | .handle config (.leave headers player) answers =>
    (∃ r, s.record id = some r ∧ r.lobby.state = .inMatch ∧ r.hasPlayer player = true)
      ∧ ∃ response, (Service.leaveLobby id config headers player s answers).1 = .done response
  | _ => False

namespace World.Manned

variable {id : LobbyId} {s : World}

/-- The moves of a request that spares the match keep the authority. -/
theorem of_moves {c : Course} (h : World.Manned c.id c.start) (hfiled : c.Filed)
    (hspares : ∀ r, c.start.record c.id = some r → c.Spares r)
    {held : Option (Stage × StoredLobby)} {s' : World}
    (hmoves : Moves c ⟨none, c.start⟩ ⟨held, s'⟩) : World.Manned c.id s' := by
  have hall : Flight.All c.id (fun w => w.Filed c.id ∧ c.Stands w) ⟨none, c.start⟩ :=
    ⟨fun r hr => ⟨hfiled r hr, h r hr, hspares r hr⟩, fun _ _ heq => nomatch heq⟩
  have hend := Moves.all
    (fun r now hr => ⟨⟨hr.1.named, hr.1.closed⟩, hr.2.same ⟨rfl, fun _ => rfl, rfl, rfl⟩⟩)
    (fun r now hnew => ⟨hnew.filed, Course.stands_of_free (hnew.provisioning ▸ rfl)⟩)
    (fun _ _ _ _ _ hw hchange => ⟨hchange.filed hw.1, hchange.stands hw.1 hw.2⟩) hmoves hall
  exact fun r hr => (hend.stored r hr).2.manned

/-- A leave that is not answered keeps the authority. -/
theorem unanswered (h : s.Manned id) (htended : s.Tended id) (config : ServiceConfig)
    (headers : Headers) (player : PlayerId) (answers : List Answer)
    (hunanswered : ∀ response,
      (Service.leaveLobby id config headers player s answers).1 ≠ .done response) :
    ((Service.leaveLobby id config headers player).exec s answers).Manned id := by
  -- the same program as a request that is no leave
  have hmeets := walks_unanswered (c := ⟨id, s, config, .cleanupExpired, answers⟩) htended.filed
    headers player
  obtain ⟨-, hended⟩ := hmeets answers fun _ ha => ha
  unfold Interrupt.Prog.exec
  dsimp only at hended
  rcases hrun : Service.leaveLobby id config headers player s answers with ⟨outcome, s', rest⟩
  rw [hrun] at hended hunanswered
  have hmoved : ∃ held, Course.On ⟨id, s, config, .cleanupExpired, answers⟩ held s' := by
    cases outcome with
    | done response => exact absurd rfl (hunanswered response)
    | failed error => exact hended
    | cut => exact hended
  obtain ⟨held, hmoves⟩ := hmoved
  exact of_moves (c := ⟨id, s, config, .cleanupExpired, answers⟩) h htended.filed
    (fun _ _ _ _ hleave => LobbyRequest.noConfusion hleave) hmoves

theorem handle (h : s.Manned id) (htended : s.Tended id) {config : ServiceConfig}
    {request : LobbyRequest} {answers : List Answer}
    (hspares : ¬(ServiceStep.handle config request answers).Deserts id s) :
    ((request.program id config).exec s answers).Manned id := by
  by_cases hmatch : ∀ r, s.record id = some r →
      Course.Spares ⟨id, s, config, request, answers⟩ r
  · obtain ⟨held, hmoves⟩ :=
      handle_moves (c := ⟨id, s, config, request, answers⟩) htended.filed
    exact of_moves (c := ⟨id, s, config, request, answers⟩) h htended.filed hmatch hmoves
  · -- a member leaves a running match, so that the leave is not answered
    unfold Course.Spares at hmatch
    push Not at hmatch
    obtain ⟨r, hr, headers, player, hrequest, hstate, hmember⟩ := hmatch
    dsimp only at hrequest
    subst hrequest
    refine h.unanswered htended config headers player answers fun response hdone => hspares ?_
    exact ⟨⟨r, hr, hstate, Bool.eq_true_of_not_eq_false hmember⟩, response, hdone⟩

theorem elsewhere (h : s.Manned id) (step : StoreStep) : (s.elsewhere id step).Manned id := by
  intro r' hr'
  obtain ⟨r, hr, rfl | ⟨now, -, rfl⟩⟩ := World.elsewhere_record hr'
  · exact h r' hr
  · exact h r hr

theorem restarted (h : s.Manned id) (hfile : s.file = none) : s.restarted.Manned id := by
  intro r' hr'
  rw [World.record_restarted id hfile] at hr'
  obtain ⟨r, hr, rfl⟩ := Option.map_eq_some_iff.mp hr'
  exact r.sameMatch_normalizeRecord.manned (h r hr)

end World.Manned

section Match

open ProtocolId

end Match

end Spurfire
