import Spurfire.Server.Idempotency
import Spurfire.Server.Service

/-!
# The moves of a request

What any request of the service can do to its lobby, said once:

* `Flight` is a request in flight: what it holds, and the world;
* `LobbyChange` and `NetworkChange` are the updates of a held record with the guards they are made
  under, and `Move` adds the store, the provider, the clock and the requests of other lobbies;
* `Moves.filed` are the invariants every flight keeps, `Quiet` is what happens between two effects.

That the handlers make no other moves is proved in `Walk`; the laws of the service are invariants of
the moves.
-/

namespace Spurfire

open Interrupt

/-! ## The record through time -/

namespace Event

def isClock : Event → Bool
  | clock _ => true
  | _ => false

def isCreated : Event → Bool
  | created _ => true
  | _ => false

end Event

namespace World

variable {id : LobbyId} {s s' : World} {w r : StoredLobby}

/-- The events since the lobby was last created. -/
def lifetime (s : World) : List Event := s.trace.takeWhile fun e => !e.isCreated

/-- `events` are the last that happened, newest first and clock readings apart. -/
def Heard (s : World) (events : List Event) : Prop :=
  events <+: s.trace.filter fun e => !e.isClock

/-- `r` is `w` after purges at times that have been read. -/
def Aged (s : World) (w r : StoredLobby) : Prop :=
  ∃ times : List UnixMillis, (∀ t ∈ times, Event.clock t ∈ s.trace)
    ∧ r = times.foldl StoredLobby.purgeRecord w

/-- The durable record, if it is still there, is `w`. -/
def Synced (id : LobbyId) (s : World) (w : StoredLobby) : Prop :=
  ∀ r, s.record id = some r → s.Aged w r

/-- Only time and other lobbies went on. -/
structure Quiet (id : LobbyId) (s s' : World) : Prop where
  record : ∀ r', s'.record id = some r' → ∃ r, s.record id = some r ∧ s'.Aged r r'
  trace : ∃ new, s'.trace = new ++ s.trace ∧ ∀ e ∈ new, e.isClock = true
  anchor : s'.anchor = s.anchor
  monotonic : s.monotonic ≤ s'.monotonic

theorem Aged.refl (s : World) (w : StoredLobby) : s.Aged w w := ⟨[], nofun, rfl⟩

theorem Aged.trans {u : StoredLobby} (h : s.Aged u w) (h' : s.Aged w r) : s.Aged u r := by
  obtain ⟨times, htimes, rfl⟩ := h
  obtain ⟨times', htimes', rfl⟩ := h'
  refine ⟨times ++ times', fun t ht => ?_, List.foldl_append.symm⟩
  exact (List.mem_append.mp ht).elim (htimes t) (htimes' t)

theorem Aged.mono (h : s.Aged w r) (hs : ∀ t, Event.clock t ∈ s.trace → Event.clock t ∈ s'.trace) :
    s'.Aged w r := by
  obtain ⟨times, htimes, rfl⟩ := h
  exact ⟨times, fun t ht => hs t (htimes t ht), rfl⟩

theorem Quiet.refl (id : LobbyId) (s : World) : Quiet id s s :=
  ⟨fun r hr => ⟨r, hr, Aged.refl s r⟩, ⟨[], rfl, List.forall_mem_nil _⟩, rfl, le_rfl⟩

theorem Quiet.mem (h : Quiet id s s') {e : Event} (he : e ∈ s.trace) : e ∈ s'.trace := by
  obtain ⟨new, htrace, -⟩ := h.trace
  rw [htrace]
  exact List.mem_append_right new he

theorem Quiet.trans {t : World} (h : Quiet id s s') (h' : Quiet id s' t) : Quiet id s t := by
  refine ⟨fun r hr => ?_, ?_, h'.anchor.trans h.anchor, h.monotonic.trans h'.monotonic⟩
  · obtain ⟨r', hr', haged'⟩ := h'.record r hr
    obtain ⟨r₀, hr₀, haged⟩ := h.record r' hr'
    exact ⟨r₀, hr₀, (haged.mono fun _ => h'.mem).trans haged'⟩
  · obtain ⟨new, htrace, hnew⟩ := h.trace
    obtain ⟨new', htrace', hnew'⟩ := h'.trace
    refine ⟨new' ++ new, by rw [htrace', htrace, List.append_assoc], fun e he => ?_⟩
    exact (List.mem_append.mp he).elim (hnew' e) (hnew e)

theorem Synced.quiet (h : Synced id s w) (hq : Quiet id s s') : Synced id s' w := by
  intro r' hr'
  obtain ⟨r, hr, haged⟩ := hq.record r' hr'
  exact ((h r hr).mono fun _ => hq.mem).trans haged

theorem synced_of_record (h : s.record id = some w) : Synced id s w := by
  intro r hr
  cases h.symm.trans hr
  exact Aged.refl s w

theorem Heard.quiet {events : List Event} (h : s.Heard events) (hq : Quiet id s s') :
    s'.Heard events := by
  obtain ⟨new, htrace, hnew⟩ := hq.trace
  unfold Heard
  rw [htrace, List.filter_append, List.filter_eq_nil_iff.mpr fun x hx => by simp [hnew x hx]]
  exact h

theorem heard_nil (s : World) : s.Heard [] := List.nil_prefix

theorem Heard.cons {events : List Event} {e : Event} (h : s.Heard events)
    (htrace : s'.trace = e :: s.trace) (he : e.isClock = false) : s'.Heard (e :: events) := by
  unfold Heard
  rw [htrace, List.filter_cons_of_pos (by rw [he]; rfl)]
  exact List.cons_prefix_cons.mpr ⟨rfl, h⟩

theorem quiet_clock (id : LobbyId) (s : World) (now : UnixMillis) :
    Quiet id s (s.note (.clock now)) :=
  ⟨fun r hr => ⟨r, hr, Aged.refl _ r⟩, ⟨[.clock now], rfl, by simp [Event.isClock]⟩, rfl, le_rfl⟩

theorem quiet_lost {ε α : Type} (id : LobbyId) (s : World) (a : Answer)
    (next : Except ε α × StoreData) : Quiet id s (s.lost a next) :=
  ⟨fun r hr => ⟨r, hr, Aged.refl _ r⟩, ⟨[], rfl, List.forall_mem_nil _⟩, rfl, le_rfl⟩

/-! ### Other lobbies -/

/-- The records after a create are the purged ones, with the new one where it was created. -/
theorem createInData_lobbies (data : StoreData) (call : CreateCall) :
    (data.createInData call).2.lobbies = (data.purgeRetained call.now).lobbies
      ∨ (data.createInData call).1 = .ok (.created call.lobby)
        ∧ (data.createInData call).2.lobbies
          = (data.purgeRetained call.now).lobbies.insert call.lobby.lobby.lobbyId call.lobby := by
  rcases StoreData.createInData_cases data call with
    ⟨answer, hanswer, -⟩ | ⟨reserved, hreserve, -, -, hanswer⟩
  · rw [hanswer]
    exact .inl rfl
  · refine .inr ⟨by rw [hanswer], ?_⟩
    rw [hanswer]
    have hkept : reserved.lobbies = (data.purgeRetained call.now).lobbies := by
      split_ifs at hreserve
      · cases hreserve
        rfl
      · obtain ⟨-, -, candidate, consumed, -, hconsume, lease, -, -, rfl⟩ :=
          StoreData.reserveReal_ok hreserve
        exact (StoreData.consume_keeps hconsume).2.2.1
    unfold StoreData.insertCreated
    rw [hkept]

/-- What is left of a record after a purge. -/
theorem record_of_purge {data : StoreData} {now : UnixMillis} {r' : StoredLobby}
    (h : (data.purgeRetained now).lobbies[id]? = some r') :
    ∃ r, data.lobbies[id]? = some r ∧ r' = r.purgeRecord now := by
  rw [StoreData.getElem?_purge_lobbies, Option.filter_eq_some_iff] at h
  obtain ⟨r, hr, heq⟩ := Option.map_eq_some_iff.mp h.1
  exact ⟨r, hr, heq.symm⟩

/-- A step of another lobby purges the record, or leaves it alone. -/
theorem elsewhere_record {step : StoreStep} {r' : StoredLobby}
    (h : (s.elsewhere id step).record id = some r') :
    ∃ r, s.record id = some r ∧ (r' = r ∨ ∃ now, Event.clock now ∈ (s.elsewhere id step).trace
      ∧ r' = r.purgeRecord now) := by
  unfold elsewhere at h ⊢
  by_cases hstep : step.isElsewhere id = true
  · rw [if_pos hstep] at h ⊢
    change (s.data.step step).2.lobbies[id]? = some r' at h
    cases step with
    | create call =>
      have hother : ¬compare call.lobby.lobby.lobbyId id = .eq := fun heq =>
        (bne_iff_ne.mp hstep : call.lobby.lobby.lobbyId ≠ id) (compare_eq_iff_eq.mp heq)
      change (s.data.createInData call).2.lobbies[id]? = some r' at h
      have hpurged : (s.data.purgeRetained call.now).lobbies[id]? = some r' := by
        rcases createInData_lobbies s.data call with hlobbies | ⟨-, hlobbies⟩
        · rwa [hlobbies] at h
        · rwa [hlobbies, Std.ExtTreeMap.getElem?_insert, if_neg hother] at h
      obtain ⟨r, hr, heq⟩ := record_of_purge hpurged
      exact ⟨r, hr, .inr ⟨call.now, List.mem_cons_self, heq⟩⟩
    | replace lobby =>
      have hother : ¬compare lobby.lobby.lobbyId id = .eq := fun heq =>
        (bne_iff_ne.mp hstep : lobby.lobby.lobbyId ≠ id) (compare_eq_iff_eq.mp heq)
      change (s.data.replaceInData lobby).2.lobbies[id]? = some r' at h
      unfold StoreData.replaceInData at h
      split_ifs at h
      · rw [(StoreData.moveLease_rows _ _).1, Std.ExtTreeMap.getElem?_insert, if_neg hother] at h
        exact ⟨r', h, .inl rfl⟩
      · exact ⟨r', h, .inl rfl⟩
    | cleanupExpired now => exact nomatch hstep
    | reopen => exact nomatch hstep
    | quarantineRealCreation => exact ⟨r', h, .inl rfl⟩
    | issueRealCreateGrant verifier expiresAt =>
      change (s.data.issueRealCreateGrant verifier expiresAt).2.lobbies[id]? = some r' at h
      unfold StoreData.issueRealCreateGrant at h
      split_ifs at h
      · exact ⟨r', h, .inl rfl⟩
      · exact ⟨r', h, .inl rfl⟩
    | installLocalRehearsalReceipt q =>
      change (s.data.installRehearsalInData q).2.lobbies[id]? = some r' at h
      unfold StoreData.installRehearsalInData at h
      split_ifs at h
      · exact ⟨r', h, .inl rfl⟩
      · exact ⟨r', h, .inl rfl⟩
    | installProtectedAlphaReceipt q =>
      change (s.data.installAlphaInData q).2.lobbies[id]? = some r' at h
      unfold StoreData.installAlphaInData at h
      split_ifs at h
      · exact ⟨r', h, .inl rfl⟩
      · exact ⟨r', h, .inl rfl⟩
  · rw [if_neg hstep] at h
    exact ⟨r', h, .inl rfl⟩

theorem elsewhere_trace (s : World) (step : StoreStep) :
    ∃ new, (s.elsewhere id step).trace = new ++ s.trace ∧ ∀ e ∈ new, e.isClock = true := by
  unfold elsewhere
  split_ifs with hstep
  · refine ⟨step.reading.toList, rfl, fun e he => ?_⟩
    cases step with
    | create call =>
      cases List.mem_singleton.mp he
      rfl
    | _ => exact nomatch he
  · exact ⟨[], rfl, List.forall_mem_nil _⟩

theorem quiet_elsewhere (id : LobbyId) (s : World) (step : StoreStep) :
    Quiet id s (s.elsewhere id step) := by
  refine ⟨fun r' hr' => ?_, elsewhere_trace s step, ?_, ?_⟩
  · obtain ⟨r, hr, rfl | ⟨now, hnow, rfl⟩⟩ := elsewhere_record hr'
    · exact ⟨r', hr, Aged.refl _ r'⟩
    · exact ⟨r, hr, [now], fun t ht => List.mem_singleton.mp ht ▸ hnow, rfl⟩
  · unfold elsewhere
    split_ifs
    · rfl
    · rfl
  · unfold elsewhere
    split_ifs
    · exact le_rfl
    · exact le_rfl

theorem quiet_elapse (id : LobbyId) (s : World) (elapsed : ℕ) :
    Quiet id s { s with monotonic := s.monotonic + elapsed } :=
  ⟨fun r hr => ⟨r, hr, Aged.refl _ r⟩, ⟨[], rfl, List.forall_mem_nil _⟩, rfl,
    Nat.le_add_right _ _⟩

/-- While an effect waits, only time and other lobbies go on. -/
theorem quiet_pass (id : LobbyId) (s : World) (a : Answer) : Quiet id s (s.pass id a) := by
  refine Quiet.trans ?_ (quiet_elapse id _ a.elapsed)
  induction a.elsewhere generalizing s with
  | nil => exact Quiet.refl id s
  | cons step steps ih => exact (quiet_elsewhere id s step).trans (ih (s.elsewhere id step))

end World

/-! ## Moves -/

/-- How far a request has come with the record it holds. -/
inductive Stage
  /-- As it came from the store. -/
  | loaded
  | working
  /-- An issuance is reserved for the player. -/
  | reserved (player : PlayerId) (expiresAt : UnixMillis)
  /-- The provider has answered the mint. -/
  | minted (player : PlayerId) (expiresAt : UnixMillis)
      (answer : Except ProviderError MintedCredential)

/-- A request in flight. -/
structure Flight where
  held : Option (Stage × StoredLobby)
  world : World

/-- The request, the world it began in, and the answers it may get. -/
structure Course where
  id : LobbyId
  start : World
  config : ServiceConfig
  request : LobbyRequest
  answers : List Answer

namespace Course

variable (c : Course)

/-- The record is the one the request began with, up to purges. -/
def Loads (r : StoredLobby) : Prop :=
  ∃ r₀, c.start.record c.id = some r₀ ∧ ∃ times : List UnixMillis,
    r = times.foldl StoredLobby.purgeRecord r₀

/-- A record that a create may file. -/
def IsNew (stored : StoredLobby) (now : UnixMillis) : Prop :=
  ∃ request mode actor token tag dryRun localOperator, CreateLobbyRequest.isValid request = true
    ∧ stored = Service.newRecord c.id c.config request mode actor token tag dryRun localOperator now

/-- The provider was last asked for the tailnet of the record, at the monotonic time `at_`. -/
def Observes (s : World) (w : StoredLobby) (identity : ProviderNetworkIdentity)
    (providerId : String) (answer : Bool) (at_ : ℕ) : Prop :=
  w.providerIdentity = some identity ∧ identity.providerTailnetId = some providerId
    ∧ s.Heard [.observed ⟨c.id, w.networkGeneration, identity⟩ (some (.ok answer)) at_]

end Course

/-- The updates of a held record by its roster, its match and its deadlines, each with the guards it
is made under. -/
inductive LobbyChange (c : Course) (s : World) :
    Stage → StoredLobby → Stage → StoredLobby → Prop
  | admitted (r) : LobbyChange c s .loaded r .working r
  | deadline (w) (now : UnixMillis) : LobbyChange c s .working w .working (w.applyTimeTransitions now).1
  | stale (w) (now : UnixMillis) : LobbyChange c s .working w .working (w.refreshFreshnessState now).1
  | renewed (r) (hstate : r.lobby.state = .starting ∨ r.lobby.state = .inMatch) :
      LobbyChange c s .loaded r .loaded r.sessionRenewed
  | invited (w) (capability : StoredCapabilityVerifier) :
      LobbyChange c s .working w .working (w.addCapability capability)
  | joinReplayed (w) (key : String) (replay : StoredJoinReplay) :
      LobbyChange c s .working w .working (w.recordJoinReplay key replay)
  | reserve (w) (key : String) (fingerprint : List UInt8) {limited spent : StoredLobby}
      {request : JoinLobbyRequest} {invitation : Option Digest} {now : UnixMillis}
      {dryRun : Bool} (hread : .clock now ∈ s.trace)
      (hstate : w.lobby.state = .forming ∨ w.lobby.state = .ready)
      (hreuse : Service.reuseCredential w request now dryRun = .ok none)
      (hopen : Service.issuanceOpen w request.playerId now = false)
      (hlimited : w.enforceJoinRateLimit request.playerId now = some limited)
      (hspent : Service.spendInvitation limited invitation now = .ok spent) :
      LobbyChange c s .working w
        (.reserved request.playerId (now.satAdd JOIN_CREDENTIAL_TTL_MS))
        (spent.reserveIssuance request.playerId
          ⟨fingerprint, key, now, now.satAdd JOIN_CREDENTIAL_TTL_MS⟩)
  | enrolled (w) (key : String) (fingerprint : List UInt8) (token : Digest) (now : UnixMillis)
      {request : JoinLobbyRequest} {minted : MintedCredential} {expiresAt : UnixMillis}
      (hstate : w.lobby.state = .forming ∨ w.lobby.state = .ready)
      (hroom : w.hasPlayer request.playerId = true
        ∨ w.lobby.roster.length < w.lobby.maxPlayers.toNat) :
      LobbyChange c s (.minted request.playerId expiresAt (.ok minted)) w .working
        (w.enrolled request minted key fingerprint token expiresAt now)
  | left (w) (dryRun : Bool) {w' : StoredLobby} {headers : Headers} {player : PlayerId} {a : Answer}
      {result : Except ProviderError CleanupOutcome}
      (hrequest : c.request = .leave headers player)
      (hstate : Service.acceptsLeaves w.lobby.state = true) (hplayer : w.hasPlayer player = true)
      (ha : a ∈ c.answers) (hread : .clock a.now ∈ s.trace)
      (hheard : s.Heard [.cleaned (w.cleanupRequestForPlayer player a.now false) result])
      (hresult : w.applyCleanupResult a.now result false = some w') :
      LobbyChange c s .working w .working (w'.left player a.now dryRun)
  | measured (w) (player : PlayerId) (sample : ConnectivitySample) (now : UnixMillis)
      (hstate : w.lobby.state.acceptsMeasurements = true) :
      LobbyChange c s .working w .working (w.measured player sample now)
  | recomputed (w) {w' : StoredLobby} {now : UnixMillis}
      (hstate : w.lobby.state = .forming ∨ w.lobby.state = .ready ∧ w.lastElection = none)
      (helected : w.recomputeAuthority now = .ok w') : LobbyChange c s .working w .working w'
  | unstarted (w) (hstate : w.lobby.state = .ready) :
      LobbyChange c s .working w .working (w.withState .forming).forgetAuthority
  | startReplayed (w) (key : String) (replay : StoredMutationReplay) :
      LobbyChange c s .working w .working (w.recordStartReplay key replay)
  | started (w) (key : String) (replay : StoredMutationReplay) (seed : UInt64) (now : UnixMillis)
      (hstate : w.lobby.state = .ready) :
      LobbyChange c s .working w .working (w.started key replay seed now)
  | heartbeat (w) {headers : Headers} {request : AuthorityHeartbeatRequest} {actor : PlayerId}
      {current election : AuthorityElection} {claimed : StoredLobby} {now : UnixMillis}
      {dryRun : Bool} (hrequest : c.request = .heartbeat headers request)
      (hstate : w.lobby.state = .starting ∨ w.lobby.state = .inMatch)
      (hsynced : s.Synced c.id w) (hcurrent : w.lastElection = some current)
      (hclaim : Service.acceptClaim w current actor request now dryRun = .ok claimed)
      (helection : claimed.lastElection = some election) :
      LobbyChange c s .working w .working (claimed.heartbeatAccepted actor election now)
  | resulted (w) {key : String} {replay : StoredMutationReplay}
      (hstate : w.lobby.state = .inMatch) :
      LobbyChange c s .working w .working (w.resultsAccepted key replay)
  | closed (w) (hopen : w.lobby.state.isClosed = false) :
      LobbyChange c s .working w .working (w.withState .closing)

/-- The updates of a held record by the life and the teardown of its network. -/
inductive NetworkChange (c : Course) (s : World) :
    Stage → StoredLobby → Stage → StoredLobby → Prop
  | creating (w) (hstate : w.lobby.state = .provisioning) :
      NetworkChange c s .working w .working { w with networkLifecycle := .creating }
  | provisioned (w) {w' : StoredLobby} {prepared : PreparedNetwork}
      {capabilities : ProviderCapabilities} {now : UnixMillis} {dryRun : Bool}
      (hstate : w.lobby.state = .provisioning)
      (hprovisioned : Service.provisioned w prepared w.lobby.provisioningMode capabilities now
        dryRun = .ok w') : NetworkChange c s .working w .working w'
  | provisionFailed (w) (now : UnixMillis) {request : PrepareLobbyRequest} {error : ProviderError}
      (hstate : w.lobby.state = .provisioning)
      (hheard : s.Heard [.prepared request (.error error)]) :
      NetworkChange c s .working w .working
        (Service.provisionFailed w error w.lobby.provisioningMode now)
  | denied (r) {a : Answer} {error : ProviderError} {now : UnixMillis} (hload : c.Loads r)
      (ha : a ∈ c.answers) (hdenied : a.denied = some error)
      (hrequires : r.requiresProviderAccess = true) :
      NetworkChange c s .loaded r .working (r.accessDenied error now)
  | verdict (r) {a : Answer} {custody : Option ProviderError} {digest : Option String}
      {reason : String} (hrequest : c.request = .reconcileStartup)
      (hload : c.Loads r ∨ r.lobby.state = .starting ∨ r.lobby.state = .inMatch)
      (hreal : r.dryRun = false) (ha : a ∈ c.answers)
      (hverdict : Service.startupVerdict r a.denied custody digest = some reason) :
      NetworkChange c s .loaded r .working (r.remediated.pended.explained reason)
  | protect (r) {generation : UInt64} (hrequest : c.request = .beginProtectedCleanup generation)
      (hload : c.Loads r) (hreal : r.dryRun = false)
      (hgeneration : r.networkGeneration = generation) :
      NetworkChange c s .loaded r .working r.protectedCleanupBegun
  | mintFailed (w) (now : UnixMillis) {player : PlayerId} {expiresAt : UnixMillis} {error : ProviderError}
      {dryRun : Bool} (hstate : w.lobby.state = .forming ∨ w.lobby.state = .ready)
      (hheard : s.Heard [.minted (Service.mintRequest c.id w player expiresAt dryRun)
        (.error error)]) :
      NetworkChange c s (.minted player expiresAt (.error error)) w .working
        (w.mintFailed player error now dryRun)
  | forgotten (w) (hclosed : w.lobby.state.isClosed = true) :
      NetworkChange c s .working w .working w.forgetMeasurements
  | pended (w) (hclosed : w.lobby.state.isClosed = true)
      (hheld : leaseReleaseLifecycle w.networkLifecycle = false) :
      NetworkChange c s .working w .working w.pended
  | remediated (w) (hclosed : w.lobby.state.isClosed = true)
      (hheld : leaseReleaseLifecycle w.networkLifecycle = false) :
      NetworkChange c s .working w .working w.remediated
  | explained (w) {reason : String} (hclosed : w.lobby.state.isClosed = true)
      (hheld : leaseReleaseLifecycle w.networkLifecycle = false)
      (hreason : isBlank reason = false) : NetworkChange c s .working w .working (w.explained reason)
  | requested (w) (now : UnixMillis) (hreal : w.dryRun = false)
      (hclosed : w.lobby.state.isClosed = true)
      (hheld : w.networkLifecycle ≠ .dedicatedAbsent ∧ w.networkLifecycle ≠ .sharedResourcesClean)
      (hdedicated : w.lobby.provisioningMode = .tailnetPerLobby →
        w.networkLifecycle ≠ .verifyingAbsence ∧ w.networkLifecycle ≠ .createUnknown
          ∧ w.networkLifecycle ≠ .manualRemediation)
      (hdue : (∃ headers, c.request = .delete headers) ∨ w.lobby.state = .closing
        ∨ w.cleanupPending = true) :
      NetworkChange c s .working w .working (w.cleanupRequested now)
  | settled (w) {w' : StoredLobby} {now : UnixMillis} {includeDevices : Bool}
      {result : Except ProviderError CleanupOutcome} (hclosed : w.lobby.state.isClosed = true)
      (hopen : w.dryRun = true ∨ w.networkLifecycle = .cleanupRequested)
      (hread : .clock now ∈ s.trace)
      (hheard : s.Heard [.cleaned (w.cleanupRequest now includeDevices) result])
      (hresult : w.applyCleanupResult now result true = some w')
      (hintent : w.networkLifecycle ≠ .dedicatedAbsent
        ∧ (w.dryRun = true ∨ w.cleanupRequestedAt.isSome = true)) :
      NetworkChange c s .working w .working w'
  | finalized (w) (now : UnixMillis) (finalize : Bool)
      (hclosed : w.lobby.state.isClosed = true) :
      NetworkChange c s .working w .working (w.finalizeLobbyCleanup now finalize)
  | cleared (w) (hverifying : w.networkLifecycle = .verifyingAbsence) :
      NetworkChange c s .working w .working w.clearAbsenceProof
  | doubted (w) (hverifying : w.networkLifecycle = .verifyingAbsence) :
      NetworkChange c s .working w .working w.absenceDoubted
  | firstAbsence (w) {identity : ProviderNetworkIdentity} {providerId : String} {at_ since : ℕ}
      (now : UnixMillis) (hverifying : w.networkLifecycle = .verifyingAbsence)
      (hfirst : w.firstAbsenceObservedAt = none)
      (hobserved : c.Observes s w identity providerId false at_) (hsince : at_ ≤ since)
      (hanchor : s.anchor = some (w.networkGeneration, since)) :
      NetworkChange c s .working w .working (w.firstAbsence providerId now)
  | confirmed (w) {identity : ProviderNetworkIdentity} {providerId : String} {at_ since : ℕ}
      (now : UnixMillis) (hverifying : w.networkLifecycle = .verifyingAbsence)
      (hfirst : w.firstAbsenceObservedAt.isSome = true)
      (hobserved : c.Observes s w identity providerId false at_)
      (hanchor : s.anchor = some (w.networkGeneration, since))
      (hsince : since + CLEANUP_ABSENCE_MIN_SEPARATION_MS ≤ at_) :
      NetworkChange c s .working w .working (w.absenceConfirmed providerId now)
  /-- The erased secret is the last part of the proof, and the confirmation is already stored. -/
  | absent (w) {identity : ProviderNetworkIdentity} {before : StoredLobby} {quarantines : Bool}
      {a : Answer} (completedAt now : UnixMillis) {finalize : Bool}
      (hverifying : w.networkLifecycle = .verifyingAbsence)
      (hdedicated : w.lobby.provisioningMode = .tailnetPerLobby)
      (hconfirmed : w.absenceMonotonicVerified = true)
      (hidentity : w.providerIdentity = some identity)
      (hheard : s.Heard [.erased ⟨c.id, w.networkGeneration, identity⟩ (some (.ok ())),
        .wrote before w quarantines])
      (ha : a ∈ c.answers) (herased : a.erased = some (.ok ()))
      (hfinal : finalize = true ∨ c.request = .cleanupExpired ∧ ∃ r, c.Loads r
        ∧ r.networkLifecycle = .verifyingAbsence ∧ r.lobby.state = w.lobby.state) :
      NetworkChange c s .working w .working ((w.dedicatedAbsent completedAt).finalizeLobbyCleanup now
        finalize)

/-- The updates of a held record. -/
inductive Change (c : Course) (s : World) (stage : Stage) (w : StoredLobby) (stage' : Stage)
    (w' : StoredLobby) : Prop
  | lobby (h : LobbyChange c s stage w stage' w')
  | network (h : NetworkChange c s stage w stage' w')

/-- One move of a flight. -/
inductive Move (c : Course) : Flight → Flight → Prop
  | elsewhere (held s) (step : StoreStep) : Move c ⟨held, s⟩ ⟨held, s.elsewhere c.id step⟩
  | elapse (held s) (elapsed : ℕ) :
      Move c ⟨held, s⟩ ⟨held, { s with monotonic := s.monotonic + elapsed }⟩
  | clock (held s) (now : UnixMillis) : Move c ⟨held, s⟩ ⟨held, s.note (.clock now)⟩
  | load (s) {r : StoredLobby} (hload : c.Loads r) (hrecord : s.record c.id = some r) :
      Move c ⟨none, s⟩ ⟨some (.loaded, r), s⟩
  | change (s) {stage stage' : Stage} {w w' : StoredLobby} (h : Change c s stage w stage' w') :
      Move c ⟨some (stage, w), s⟩ ⟨some (stage', w'), s⟩
  | write (stage w s) (hstored : s.data.lobbies.contains w.lobby.lobbyId = true) :
      Move c ⟨some (stage, w), s⟩ ⟨some (stage, w), s.write c.id w⟩
  | created (s) {call : CreateCall} (hnew : c.IsNew call.lobby call.now)
      (hread : .clock call.now ∈ s.trace)
      (hcreated : (s.create call).1 = .ok (.created call.lobby)) :
      Move c ⟨none, s⟩ ⟨some (.working, call.lobby), (s.create call).2⟩
  | refused (s) {call : CreateCall} (hread : .clock call.now ∈ s.trace)
      (hrefused : ∀ lobby, (s.create call).1 ≠ .ok (.created lobby)) :
      Move c ⟨none, s⟩ ⟨none, (s.create call).2⟩
  | granted (held s) (verifier : Digest) (expiresAt : UnixMillis) :
      Move c ⟨held, s⟩ ⟨held, (s.grant verifier expiresAt).2⟩
  | prepared (held s) (request : PrepareLobbyRequest) {a : Answer} (ha : a ∈ c.answers) :
      Move c ⟨held, s⟩ ⟨held, s.note (.prepared request a.prepared)⟩
  | cleaned (held s) (request : CleanupLobbyRequest) {a : Answer} (ha : a ∈ c.answers) :
      Move c ⟨held, s⟩ ⟨held, s.note (.cleaned request a.cleaned)⟩
  | erased (held s) (request : TailnetPresenceRequest) {a : Answer} (ha : a ∈ c.answers) :
      Move c ⟨held, s⟩ ⟨held, s.note (.erased request a.erased)⟩
  | minted (w s) {player : PlayerId} {expiresAt : UnixMillis} {dryRun : Bool} {a : Answer}
      (ha : a ∈ c.answers) (hsynced : s.Synced c.id w) :
      Move c ⟨some (.reserved player expiresAt, w), s⟩ ⟨some (.minted player expiresAt a.minted, w),
        s.note (.minted (Service.mintRequest c.id w player expiresAt dryRun) a.minted)⟩
  /-- A tailnet that is still there ends the wait of the first observation. -/
  | observed (held s) (request : TailnetPresenceRequest) {a : Answer} (ha : a ∈ c.answers) :
      Move c ⟨held, s⟩ ⟨held, { s with
        anchor := if a.present = some (.ok true) then none else s.anchor
        trace := .observed request a.present s.monotonic :: s.trace }⟩
  | anchored (w s) {identity : ProviderNetworkIdentity} {providerId : String} {at_ : ℕ}
      (hfirst : w.firstAbsenceObservedAt = none)
      (hobserved : c.Observes s w identity providerId false at_) (hat : at_ ≤ s.monotonic) :
      Move c ⟨some (.working, w), s⟩
        ⟨some (.working, w), { s with anchor := some (w.networkGeneration, s.monotonic) }⟩
  | unanchored (held s) : Move c ⟨held, s⟩ ⟨held, { s with anchor := none }⟩
  | lost (held s) {ε α : Type} {a : Answer} (ha : a ∈ c.answers) (next : Except ε α × StoreData) :
      Move c ⟨held, s⟩ ⟨held, s.lost a next⟩

/-- Any number of moves. -/
def Moves (c : Course) : Flight → Flight → Prop := Relation.ReflTransGen (Move c)

/-! ## What the store moves do to the record -/

namespace World

variable {id : LobbyId} {s : World} {w r : StoredLobby}

theorem record_write (h : s.data.lobbies.contains w.lobby.lobbyId = true) :
    (s.write id w).record id = if w.lobby.lobbyId = id then some w else s.record id := by
  unfold write record StoreData.replaceInData
  rw [if_pos h]
  dsimp only
  rw [(StoreData.moveLease_rows _ _).1, Std.ExtTreeMap.getElem?_insert]
  by_cases hid : w.lobby.lobbyId = id
  · rw [if_pos (compare_eq_iff_eq.mpr hid), if_pos hid]
  · rw [if_neg (fun heq => hid (compare_eq_iff_eq.mp heq)), if_neg hid]

theorem trace_write (h : s.record id = some r) : (s.write id w).trace
    = .wrote r w ((s.data.replaceInData w).2.realCreationQuarantined
      && !s.data.realCreationQuarantined) :: s.trace := by
  unfold write
  dsimp only
  rw [h]
  rfl

theorem trace_write_of_none (h : s.record id = none) : (s.write id w).trace = s.trace := by
  unfold write
  dsimp only
  rw [h]
  rfl

theorem mem_trace_write {e : Event} (he : e ∈ s.trace) : e ∈ (s.write id w).trace := by
  cases h : s.record id with
  | none => rwa [trace_write_of_none h]
  | some r =>
    rw [trace_write h]
    exact List.mem_cons_of_mem _ he

/-- A new write is the replace of the record as it was. -/
theorem wrote_of_write {before after : StoredLobby} {quarantines : Bool}
    (h : .wrote before after quarantines ∈ (s.write id w).trace) :
    .wrote before after quarantines ∈ s.trace ∨ s.record id = some before ∧ after = w := by
  cases hr : s.record id with
  | none =>
    rw [trace_write_of_none hr] at h
    exact .inl h
  | some r =>
    rw [trace_write hr] at h
    rcases List.mem_cons.mp h with heq | hmem
    · cases heq
      exact .inr ⟨rfl, rfl⟩
    · exact .inl hmem

theorem synced_write (h : s.data.lobbies.contains w.lobby.lobbyId = true)
    (hid : w.lobby.lobbyId = id) : (s.write id w).Synced id w :=
  synced_of_record (by rw [record_write h, if_pos hid])

variable {call : CreateCall}

/-- After a create the record is the new one, or it is what the purge left of the old one. -/
theorem record_create (h : (s.create call).2.record id = some r) :
    (s.create call).1 = .ok (.created call.lobby) ∧ r = call.lobby
      ∨ ∃ r₀, s.record id = some r₀ ∧ r = r₀.purgeRecord call.now := by
  have hdata : (s.create call).2.data = (s.data.createInData call).2 := by
    unfold create
    dsimp only
    split
    · rfl
    · rfl
  unfold record at h
  rw [hdata] at h
  rcases createInData_lobbies s.data call with hlobbies | ⟨hcreated, hlobbies⟩
  · rw [hlobbies] at h
    exact .inr (record_of_purge h)
  · rw [hlobbies, Std.ExtTreeMap.getElem?_insert] at h
    split_ifs at h
    · cases h
      exact .inl ⟨hcreated, rfl⟩
    · exact .inr (record_of_purge h)

theorem create_created {lobby : StoredLobby} (h : (s.create call).1 = .ok (.created lobby)) :
    lobby = call.lobby := by
  have hcreated : (s.data.createInData call).1 = .ok (.created lobby) := h
  rcases StoreData.createInData_cases s.data call with ⟨answer, hanswer, hnone⟩ | ⟨_, _, -, -, hanswer⟩
  · exact absurd ((congrArg Prod.fst hanswer).symm.trans hcreated) (hnone _)
  · rw [hanswer] at hcreated
    cases hcreated
    rfl

theorem record_created (hid : call.lobby.lobby.lobbyId = id)
    (h : (s.create call).1 = .ok (.created call.lobby)) :
    (s.create call).2.record id = some call.lobby := by
  have hcreated : (s.data.createInData call).1 = .ok (.created call.lobby) := h
  unfold create record
  dsimp only
  rcases StoreData.createInData_cases s.data call with ⟨answer, hanswer, hnone⟩ | ⟨_, _, -, -, hanswer⟩
  · exact absurd ((congrArg Prod.fst hanswer).symm.trans hcreated) (hnone _)
  · rw [hanswer]
    dsimp only
    unfold StoreData.insertCreated
    rw [Std.ExtTreeMap.getElem?_insert, if_pos (compare_eq_iff_eq.mpr hid)]

theorem trace_create (s : World) (call : CreateCall) :
    (∃ lobby, (s.create call).1 = .ok (.created lobby)
        ∧ (s.create call).2.trace = .created lobby :: s.trace)
      ∨ (∀ lobby, (s.create call).1 ≠ .ok (.created lobby)) ∧ (s.create call).2.trace = s.trace := by
  unfold create
  dsimp only
  split
  next lobby heq =>
    dsimp only at heq ⊢
    rw [heq]
    exact .inl ⟨lobby, rfl, rfl⟩
  next hother => exact .inr ⟨fun lobby h => hother lobby h, rfl⟩

theorem record_granted (verifier : Digest) (expiresAt : UnixMillis) :
    (s.grant verifier expiresAt).2.record id = s.record id := by
  unfold grant record StoreData.issueRealCreateGrant
  split_ifs
  · rfl
  · rfl

end World

theorem Service.newRecord_mode (id : LobbyId) (config : ServiceConfig)
    (request : CreateLobbyRequest) (mode : ProvisioningMode) (actor : PlayerId) (token : Digest)
    (tag : String) (dryRun localOperator : Bool) (now : UnixMillis) :
    (Service.newRecord id config request mode actor token tag dryRun localOperator
      now).lobby.provisioningMode = mode := by
  unfold Service.newRecord
  dsimp only
  split
  · rfl
  · rfl

theorem Course.IsNew.provisioning {c : Course} {r : StoredLobby} {now : UnixMillis}
    (h : c.IsNew r now) : r.lobby.state = .provisioning := by
  obtain ⟨request, mode, actor, token, tag, dryRun, localOperator, -, rfl⟩ := h
  unfold Service.newRecord
  dsimp only
  split
  · rfl
  · rfl

theorem Course.IsNew.lobbyId {c : Course} {r : StoredLobby} {now : UnixMillis}
    (h : c.IsNew r now) : r.lobby.lobbyId = c.id := by
  obtain ⟨request, mode, actor, token, tag, dryRun, localOperator, -, rfl⟩ := h
  unfold Service.newRecord
  dsimp only
  split
  · rfl
  · rfl

/-! ## Invariants of the record -/

/-- The durable record and the held one have the property. -/
structure Flight.All (id : LobbyId) (P : StoredLobby → Prop) (f : Flight) : Prop where
  stored : ∀ r, f.world.record id = some r → P r
  held : ∀ stage w, f.held = some (stage, w) → P w

/-- The held record follows the durable one, and every replace followed what it replaced. -/
structure Flight.Follows (id : LobbyId) (T : StoredLobby → StoredLobby → Prop) (f : Flight) :
    Prop where
  held : ∀ r stage w, f.world.record id = some r → f.held = some (stage, w) → T r w
  wrote : ∀ before after quarantines,
    .wrote before after quarantines ∈ f.world.trace → T before after

section Laws

variable {c : Course} {f f' : Flight} {P : StoredLobby → Prop}
  {T : StoredLobby → StoredLobby → Prop}

/-- What the purge and every update keep is kept, where it holds of the record the move creates. -/
theorem Move.all_of_created (hpurge : ∀ r now, P r → P (r.purgeRecord now))
    (hnew : ∀ (s : World) (call : CreateCall), c.IsNew call.lobby call.now →
      (s.create call).1 = .ok (.created call.lobby) → f'.world = (s.create call).2 → P call.lobby)
    (hchange : ∀ s stage w stage' w', P w → Change c s stage w stage' w' → P w')
    (h : Move c f f') (hf : f.All c.id P) : f'.All c.id P := by
  obtain ⟨hstored, hheld⟩ := hf
  cases h with
  | elsewhere held s step =>
    refine ⟨fun r' hr' => ?_, hheld⟩
    obtain ⟨r, hr, rfl | ⟨now, -, rfl⟩⟩ := World.elsewhere_record hr'
    · exact hstored r' hr
    · exact hpurge r now (hstored r hr)
  | elapse held s elapsed => exact ⟨hstored, hheld⟩
  | clock held s now => exact ⟨hstored, hheld⟩
  | load s hload hrecord =>
    refine ⟨hstored, fun stage w hw => ?_⟩
    cases hw
    exact hstored _ hrecord
  | change s h =>
    refine ⟨hstored, fun stage w hw => ?_⟩
    cases hw
    exact hchange _ _ _ _ _ (hheld _ _ rfl) h
  | write stage w s hcontains =>
    refine ⟨fun r hr => ?_, hheld⟩
    rw [World.record_write hcontains] at hr
    split_ifs at hr
    · cases hr
      exact hheld _ _ rfl
    · exact hstored r hr
  | created s hfresh hread hcreated =>
    refine ⟨fun r hr => ?_, fun stage w hw => ?_⟩
    · rcases World.record_create hr with ⟨-, rfl⟩ | ⟨r₀, hr₀, rfl⟩
      · exact hnew s _ hfresh hcreated rfl
      · exact hpurge r₀ _ (hstored r₀ hr₀)
    · cases hw
      exact hnew s _ hfresh hcreated rfl
  | refused s hread hrefused =>
    refine ⟨fun r hr => ?_, hheld⟩
    rcases World.record_create hr with ⟨hcreated, -⟩ | ⟨r₀, hr₀, rfl⟩
    · exact absurd hcreated (hrefused _)
    · exact hpurge r₀ _ (hstored r₀ hr₀)
  | granted held s verifier expiresAt =>
    refine ⟨fun r hr => ?_, hheld⟩
    rw [World.record_granted] at hr
    exact hstored r hr
  | prepared held s request ha => exact ⟨hstored, hheld⟩
  | cleaned held s request ha => exact ⟨hstored, hheld⟩
  | erased held s request ha => exact ⟨hstored, hheld⟩
  | minted w s ha hsynced =>
    refine ⟨hstored, fun stage w' hw => ?_⟩
    cases hw
    exact hheld _ _ rfl
  | observed held s request ha => exact ⟨hstored, hheld⟩
  | anchored w s hfirst hobserved hat => exact ⟨hstored, hheld⟩
  | unanchored held s => exact ⟨hstored, hheld⟩
  | lost held s ha next => exact ⟨hstored, hheld⟩

/-- What holds of a new record, and is kept by the purge and by every update, holds throughout. -/
theorem Move.all (hpurge : ∀ r now, P r → P (r.purgeRecord now))
    (hnew : ∀ r now, c.IsNew r now → P r)
    (hchange : ∀ s stage w stage' w', P w → Change c s stage w stage' w' → P w')
    (h : Move c f f') (hf : f.All c.id P) : f'.All c.id P :=
  h.all_of_created hpurge (fun _ _ hfresh _ _ => hnew _ _ hfresh) hchange hf

theorem Moves.all (hpurge : ∀ r now, P r → P (r.purgeRecord now))
    (hnew : ∀ r now, c.IsNew r now → P r)
    (hchange : ∀ s stage w stage' w', P w → Change c s stage w stage' w' → P w')
    (h : Moves c f f') (hf : f.All c.id P) : f'.All c.id P := by
  induction h with
  | refl => exact hf
  | tail _ hmove ih => exact hmove.all hpurge hnew hchange ih

/-- A write in the trace is an old one, or the replace by which the move put down what it held. -/
theorem Move.wrote {before after : StoredLobby} {quarantines : Bool} (h : Move c f f')
    (he : .wrote before after quarantines ∈ f'.world.trace) :
    .wrote before after quarantines ∈ f.world.trace
      ∨ f.world.record c.id = some before ∧ ∃ stage, f.held = some (stage, after)
        ∧ f.world.data.lobbies.contains after.lobby.lobbyId = true
        ∧ f' = ⟨f.held, f.world.write c.id after⟩ := by
  cases h with
  | elsewhere held s step =>
    obtain ⟨new, htrace, hclock⟩ : ∃ new, (s.elsewhere c.id step).trace = new ++ s.trace
        ∧ ∀ e ∈ new, e.isClock = true := World.elsewhere_trace s step
    dsimp only at he
    rw [htrace] at he
    exact (List.mem_append.mp he).elim (fun hmem => nomatch hclock _ hmem) .inl
  | write stage w s hcontains =>
    rcases World.wrote_of_write he with hmem | ⟨hr, rfl⟩
    · exact .inl hmem
    · exact .inr ⟨hr, stage, rfl, hcontains, rfl⟩
  | created s hfresh hread hcreated =>
    rcases World.trace_create s _ with ⟨lobby, -, htrace⟩ | ⟨-, htrace⟩
    · rw [htrace] at he
      exact .inl ((List.mem_cons.mp he).resolve_left nofun)
    · rw [htrace] at he
      exact .inl he
  | refused s hread hrefused =>
    rcases World.trace_create s _ with ⟨lobby, -, htrace⟩ | ⟨-, htrace⟩
    · rw [htrace] at he
      exact .inl ((List.mem_cons.mp he).resolve_left nofun)
    · rw [htrace] at he
      exact .inl he
  | clock held s now => exact .inl ((List.mem_cons.mp he).resolve_left nofun)
  | prepared held s request ha => exact .inl ((List.mem_cons.mp he).resolve_left nofun)
  | cleaned held s request ha => exact .inl ((List.mem_cons.mp he).resolve_left nofun)
  | erased held s request ha => exact .inl ((List.mem_cons.mp he).resolve_left nofun)
  | minted w s ha hsynced => exact .inl ((List.mem_cons.mp he).resolve_left nofun)
  | observed held s request ha => exact .inl ((List.mem_cons.mp he).resolve_left nofun)
  | elapse held s elapsed => exact .inl he
  | load s hload hrecord => exact .inl he
  | change s h => exact .inl he
  | granted held s verifier expiresAt => exact .inl he
  | anchored w s hfirst hobserved hat => exact .inl he
  | unanchored held s => exact .inl he
  | lost held s ha next => exact .inl he

/-- A relation that the updates extend relates what a request holds to the durable record, and every
replace to what it replaced. -/
theorem Move.follows (hrefl : ∀ w, T w w) (hpurge : ∀ r w now, T r w → T (r.purgeRecord now) w)
    (hchange : ∀ s stage w stage' w' r, P w → s.record c.id = some r → T r w →
      Change c s stage w stage' w' → T r w')
    (h : Move c f f') (hall : f.All c.id P) (hf : f.Follows c.id T) : f'.Follows c.id T := by
  refine ⟨?_, fun before after q he => ?_⟩
  · have hheld := hf.held
    cases h with
    | elsewhere held s step =>
      intro r' stage w hr' hw
      obtain ⟨r, hr, rfl | ⟨now, -, rfl⟩⟩ := World.elsewhere_record hr'
      · exact hheld _ _ _ hr hw
      · exact hpurge _ _ now (hheld _ _ _ hr hw)
    | load s hload hrecord =>
      intro r stage w hr hw
      cases hw
      cases hrecord.symm.trans hr
      exact hrefl _
    | change s h =>
      intro r stage w hr hw
      cases hw
      exact hchange _ _ _ _ _ _ (hall.held _ _ rfl) hr (hheld _ _ _ hr rfl) h
    | write stage w s hcontains =>
      intro r stage' w' hr hw
      cases hw
      rw [World.record_write hcontains] at hr
      split_ifs at hr
      · cases hr
        exact hrefl w
      · exact hheld _ _ _ hr rfl
    | created s hfresh hread hcreated =>
      intro r stage w hr hw
      cases hw
      cases (World.record_created hfresh.lobbyId hcreated).symm.trans hr
      exact hrefl _
    | refused s hread hrefused => exact fun r stage w hr hw => nomatch hw
    | granted held s verifier expiresAt =>
      intro r stage w hr hw
      rw [World.record_granted] at hr
      exact hheld _ _ _ hr hw
    | minted w s ha hsynced =>
      intro r stage w' hr hw
      cases hw
      exact hheld _ _ _ hr rfl
    | elapse held s elapsed => exact hheld
    | clock held s now => exact hheld
    | prepared held s request ha => exact hheld
    | cleaned held s request ha => exact hheld
    | erased held s request ha => exact hheld
    | observed held s request ha => exact hheld
    | anchored w s hfirst hobserved hat => exact hheld
    | unanchored held s => exact hheld
    | lost held s ha next => exact hheld
  · rcases h.wrote he with hmem | ⟨hr, stage, hw, -, -⟩
    · exact hf.wrote _ _ _ hmem
    · exact hf.held _ _ _ hr hw

theorem Moves.follows (hpurge : ∀ r now, P r → P (r.purgeRecord now))
    (hnew : ∀ r now, c.IsNew r now → P r)
    (hchange : ∀ s stage w stage' w', P w → Change c s stage w stage' w' → P w')
    (hrefl : ∀ w, T w w) (hpurge' : ∀ r w now, T r w → T (r.purgeRecord now) w)
    (hchange' : ∀ s stage w stage' w' r, P w → s.record c.id = some r → T r w →
      Change c s stage w stage' w' → T r w')
    (h : Moves c f f') (hall : f.All c.id P) (hf : f.Follows c.id T) :
    f'.All c.id P ∧ f'.Follows c.id T := by
  induction h with
  | refl => exact ⟨hall, hf⟩
  | tail _ hmove ih => exact ⟨hmove.all hpurge hnew hchange ih.1,
      hmove.follows hrefl hpurge' hchange' ih.1 ih.2⟩

end Laws

/-! ## What no change touches -/

section Kept

variable {c : Course} {s : World} {stage stage' : Stage} {w w' : StoredLobby}

theorem undisturbed_spendInvitation {invitation : Option Digest} {now : UnixMillis}
    (h : Service.spendInvitation w invitation now = .ok w') : StoredLobby.Undisturbed w w' := by
  unfold Service.spendInvitation at h
  split at h
  · cases h
    exact .refl w
  · split at h
    · rename_i hconsumed
      cases h
      exact StoredLobby.undisturbed_consumeInvitation hconsumed
    · exact nomatch h

theorem lobby_spendInvitation {invitation : Option Digest} {now : UnixMillis}
    (h : Service.spendInvitation w invitation now = .ok w') : w'.lobby = w.lobby := by
  unfold Service.spendInvitation at h
  split at h
  · cases h
    rfl
  · split at h
    · rename_i hconsumed
      cases h
      obtain ⟨i, -, rfl⟩ := Option.map_eq_some_iff.mp hconsumed
      rfl
    · exact nomatch h

/-- A key is minted for a roster member, or for a player the roster has room for, that has no live
key. -/
theorem reuseCredential_none {request : JoinLobbyRequest} {now : UnixMillis} {dryRun : Bool}
    (h : Service.reuseCredential w request now dryRun = .ok none) :
    (w.hasPlayer request.playerId = true
        ∨ w.lobby.roster.length < w.lobby.maxPlayers.toNat)
      ∧ (w.credentials[request.playerId]?).any (StoredLobby.liveCredential now) = false := by
  unfold Service.reuseCredential at h
  cases hfind : w.lobby.roster.find? fun player => player.playerId == request.playerId with
  | some existing =>
    rw [hfind] at h
    dsimp only at h
    split_ifs at h
    have hmatch := List.find?_some hfind
    have hmember : w.hasPlayer request.playerId = true :=
      List.any_eq_true.mpr ⟨existing, List.mem_of_find?_eq_some hfind, hmatch⟩
    refine ⟨.inl hmember, ?_⟩
    have hnone := Option.map_eq_none_iff.mp (Except.ok.inj h)
    cases hcredential : w.credentials[request.playerId]? with
    | none => rfl
    | some credential =>
      rw [hcredential, Option.filter_some] at hnone
      rw [Option.any_some]
      split_ifs at hnone with hlive
      exact Bool.eq_false_of_not_eq_true hlive
  | none =>
    rw [hfind] at h
    dsimp only at h
    split_ifs at h with hfull hpending
    exact ⟨.inr (not_le.mp hfull), Bool.eq_false_of_not_eq_true hpending⟩

/-- The claimed record has the election of the claimant, which is the current one or a new one. -/
theorem acceptClaim_ok {current : AuthorityElection} {actor : PlayerId}
    {request : AuthorityHeartbeatRequest} {now : UnixMillis} {dryRun : Bool}
    (h : Service.acceptClaim w current actor request now dryRun = .ok w') :
    (StoredLobby.currentClaim current actor request = true
        ∧ w.requestedEpoch request = w.authorityEpoch ∧ w' = w)
      ∨ ∃ locked successor, w.acceptsSuccessor current actor request now = true
        ∧ w.matchStartElection = some locked
        ∧ StoredLobby.survivorElection locked request.survivors = .ok successor
        ∧ successor.winnerPlayerId = actor
        ∧ (w.applyElection successor now).authorityEpoch = w.requestedEpoch request
        ∧ w' = w.applyElection successor now := by
  unfold Service.acceptClaim at h
  by_cases hcurrent : StoredLobby.currentClaim current actor request = true
  · rw [if_pos hcurrent] at h
    split_ifs at h with hepoch
    cases h
    exact .inl ⟨hcurrent, hepoch, rfl⟩
  rw [if_neg hcurrent] at h
  by_cases haccepts : w.acceptsSuccessor current actor request now = false
  · rw [if_pos haccepts] at h
    exact nomatch h
  rw [if_neg haccepts] at h
  cases hlocked : w.matchStartElection with
  | none =>
    rw [hlocked] at h
    exact nomatch h
  | some locked =>
    rw [hlocked] at h
    dsimp only at h
    split_ifs at h with hcovered
    cases hsuccessor : StoredLobby.survivorElection locked request.survivors with
    | error error =>
      rw [hsuccessor] at h
      exact nomatch h
    | ok successor =>
      rw [hsuccessor] at h
      dsimp only at h
      split_ifs at h with hwinner hepoch
      cases h
      exact .inr ⟨locked, successor, Bool.eq_true_of_not_eq_false haccepts, rfl, hsuccessor,
        not_not.mp hwinner, not_not.mp hepoch, rfl⟩

/-- What a prepared network puts in the record. -/
theorem networked_ok {prepared : PreparedNetwork} {mode : ProvisioningMode} {now : UnixMillis}
    {dryRun : Bool} (h : Service.networked w prepared mode now dryRun = .ok w') :
    ∃ lifecycle identity digest status,
      w' = { w with
        tailnet := prepared.tailnet, dryRun := prepared.dryRun, networkLifecycle := lifecycle,
        networkIdentity := identity, childPolicyDigest := digest, childPolicyStatus := status }
      ∧ (lifecycle = .simulated ∨ lifecycle = .active) := by
  unfold Service.networked at h
  dsimp only at h
  by_cases hdry : prepared.dryRun = true
  · rw [if_pos hdry] at h
    cases h
    exact ⟨_, _, _, _, rfl, .inl rfl⟩
  · rw [if_neg hdry] at h
    cases hidentity : prepared.identity with
    | none =>
      rw [hidentity] at h
      exact nomatch h
    | some identity =>
      rw [hidentity] at h
      dsimp only at h
      cases hvalid : identity.validateForMode mode with
      | error error =>
        rw [hvalid] at h
        exact nomatch h
      | ok _ =>
        rw [hvalid] at h
        dsimp only at h
        split_ifs at h with hmode
        · cases hevidence : prepared.childPolicyEvidence with
          | none =>
            rw [hevidence] at h
            exact nomatch h
          | some digest =>
            rw [hevidence] at h
            cases h
            exact ⟨_, _, _, _, rfl, .inr rfl⟩
        · cases h
          exact ⟨_, _, _, _, rfl, .inr rfl⟩

/-- A prepared network opens the lobby, or fails it where the mode is not available. -/
theorem provisioned_ok {prepared : PreparedNetwork} {mode : ProvisioningMode}
    {capabilities : ProviderCapabilities} {now : UnixMillis} {dryRun : Bool}
    (h : Service.provisioned w prepared mode capabilities now dryRun = .ok w') :
    ∃ u, Service.networked w prepared mode now dryRun = .ok u
      ∧ (w' = u.withState .forming
        ∨ w' = { (u.withState .failed).explained (capabilities.blockedStateReason mode) with
          networkLifecycle := .manualRemediation, cleanupPending := true
          terminalAt := some now }) := by
  unfold Service.provisioned at h
  cases hnetworked : Service.networked w prepared mode now dryRun with
  | error error =>
    rw [hnetworked] at h
    exact nomatch h
  | ok u =>
    rw [hnetworked] at h
    dsimp only at h
    refine ⟨u, rfl, ?_⟩
    split_ifs at h
    · cases h
      exact .inl rfl
    · cases h
      exact .inr rfl

theorem fixed_provisionFailed (w : StoredLobby) (error : ProviderError) (mode : ProvisioningMode)
    (now : UnixMillis) : (Service.provisionFailed w error mode now).fixed = w.fixed := by
  cases error with
  | childPolicyGate identity digest status deleteAcknowledged =>
    cases deleteAcknowledged with
    | true => rfl
    | false => rfl
  | _ => rfl

theorem state_provisionFailed (w : StoredLobby) (error : ProviderError)
    (mode : ProvisioningMode) (now : UnixMillis) :
    (Service.provisionFailed w error mode now).lobby.state = .failed := by
  cases error with
  | childPolicyGate identity digest status deleteAcknowledged =>
    cases deleteAcknowledged with
    | true => rfl
    | false => rfl
  | _ => rfl

/-- The life of the lobby leaves its network alone. -/
theorem LobbyChange.undisturbed (h : LobbyChange c s stage w stage' w') :
    StoredLobby.Undisturbed w w' := by
  cases h with
  | deadline w now => exact w.undisturbed_applyTimeTransitions now
  | stale w now => exact w.undisturbed_refreshFreshnessState now
  | left w _ _ _ _ _ _ _ hresult =>
    exact (StoredLobby.undisturbed_playerCleanup hresult).trans
      (StoredLobby.undisturbed_left _ _ _ _)
  | reserve w key fingerprint _ _ _ _ hlimited hspent =>
    have hreserved := (StoredLobby.undisturbed_enforceJoinRateLimit hlimited).trans
      (undisturbed_spendInvitation hspent)
    exact hreserved.trans ⟨⟨rfl, rfl⟩, rfl⟩
  | enrolled w key fingerprint token now _ _ => exact w.undisturbed_enrolled _ _ _ _ _ _ _
  | measured w player sample now _ => exact w.undisturbed_measured player sample now
  | recomputed w _ helected => exact StoredLobby.undisturbed_recomputeAuthority helected
  | heartbeat w _ _ _ _ hclaim _ =>
    refine StoredLobby.Undisturbed.trans ?_ (StoredLobby.undisturbed_heartbeatAccepted _ _ _ _)
    obtain ⟨-, -, rfl⟩ | ⟨_, _, -, -, -, -, -, rfl⟩ := acceptClaim_ok hclaim
    · exact .refl _
    · exact StoredLobby.undisturbed_applyElection _ _ _
  | _ => exact ⟨⟨rfl, rfl⟩, rfl⟩

/-- Only the provisioning of a new lobby names its network. -/
theorem NetworkChange.kept (h : NetworkChange c s stage w stage' w') :
    w'.fixed = w.fixed ∧ (w.lobby.state = .provisioning ∨ w'.backing = w.backing) := by
  have hkept : ∀ {u : StoredLobby}, StoredLobby.Kept w u →
      u.fixed = w.fixed ∧ (w.lobby.state = .provisioning ∨ u.backing = w.backing) :=
    fun h => ⟨h.fixed, .inr h.backing⟩
  cases h with
  | provisioned w hstate hprovisioned =>
    refine ⟨?_, .inl hstate⟩
    obtain ⟨u, hnetworked, rfl | rfl⟩ := provisioned_ok hprovisioned
    · obtain ⟨_, _, _, _, rfl, -⟩ := networked_ok hnetworked
      rfl
    · obtain ⟨_, _, _, _, rfl, -⟩ := networked_ok hnetworked
      rfl
  | provisionFailed w now hstate hheard => exact ⟨fixed_provisionFailed w _ _ _, .inl hstate⟩
  | forgotten w hclosed => exact hkept w.undisturbed_forgetMeasurements.toKept
  | finalized w now finalize hclosed =>
    exact hkept (w.undisturbed_finalizeLobbyCleanup now finalize).toKept
  | absent w completedAt now _ _ _ _ _ _ _ _ =>
    refine hkept (StoredLobby.Kept.trans ?_
      (StoredLobby.undisturbed_finalizeLobbyCleanup _ _ _).toKept)
    exact ⟨rfl, rfl⟩
  | settled w _ _ _ _ hresult _ => exact hkept (StoredLobby.kept_applyCleanupResult hresult)
  | mintFailed w now _ _ => exact hkept (w.kept_mintFailed _ _ _ _)
  | _ => exact ⟨rfl, .inr rfl⟩

theorem Change.fixed (h : Change c s stage w stage' w') : w'.fixed = w.fixed := by
  cases h with
  | lobby h => exact h.undisturbed.fixed
  | network h => exact h.kept.1

end Kept

/-! ## Closed lobbies -/

section Closed

variable {c : Course} {s : World} {stage stage' : Stage} {w w' : StoredLobby}

theorem not_closed_of_acceptsLeaves {state : LobbyState}
    (h : Service.acceptsLeaves state = true) : state.isClosed = false := by
  cases state with
  | forming => rfl
  | ready => rfl
  | inMatch => rfl
  | _ => exact nomatch h

/-- A closed lobby keeps its state: nothing but its teardown is left. -/
theorem LobbyChange.state_of_closed (h : LobbyChange c s stage w stage' w')
    (hclosed : w.lobby.state.isClosed = true) : w'.lobby.state = w.lobby.state := by
  have hopen : ∀ {P : Prop} {state : LobbyState}, state.isClosed = false →
      w.lobby.state = state → P := by
    intro P state hstate heq
    rw [heq, hstate] at hclosed
    exact nomatch hclosed
  have hunready : w.unready.lobby.state = w.lobby.state := by
    rw [StoredLobby.state_unready]
    exact if_neg (hopen rfl)
  cases h with
  | admitted w => rfl
  | deadline w now =>
    rcases w.applyTimeTransitions_cases now with heq | ⟨next, reason, hlegal, hnext, heq⟩
    · rw [heq]
    · rw [LobbyState.destroyed_of_closed hclosed hlegal] at hnext
      exact hnext.elim (fun h => nomatch h.1) nofun
  | stale w now =>
    unfold StoredLobby.refreshFreshnessState
    split_ifs with hstale
    · exact hopen rfl hstale.1
    · rfl
  | renewed w hstate => rfl
  | invited w capability => rfl
  | joinReplayed w key replay => rfl
  | startReplayed w key replay => rfl
  | reserve w key fingerprint hread hstate hreuse hissuance hlimited hspent =>
    exact hstate.elim (hopen rfl) (hopen rfl)
  | enrolled w key fingerprint token now hstate hroom => exact hstate.elim (hopen rfl) (hopen rfl)
  | left w dryRun hrequest hstate hplayer ha hread hheard hresult =>
    exact hopen (not_closed_of_acceptsLeaves hstate) rfl
  | measured w player sample now hstate => exact hunready
  | recomputed w hstate helected => exact hstate.elim (hopen rfl) fun h => hopen rfl h.1
  | unstarted w hstate => exact hopen rfl hstate
  | started w key replay seed now hstate => exact hopen rfl hstate
  | heartbeat w hrequest hstate hsynced hcurrent hclaim helection =>
    exact hstate.elim (hopen rfl) (hopen rfl)
  | resulted w hstate => exact hopen rfl hstate
  | closed w hstate =>
    rw [hstate] at hclosed
    exact nomatch hclosed

/-- The record belongs to the lobby, and waits for its network to be absent only once closed. -/
structure StoredLobby.Filed (id : LobbyId) (r : StoredLobby) : Prop where
  named : r.lobby.lobbyId = id
  closed : r.networkLifecycle = .verifyingAbsence → r.lobby.state.isClosed = true

theorem isClosed_finalizeLobbyCleanup {now : UnixMillis} {finalize : Bool}
    (h : w.lobby.state.isClosed = true) :
    (w.finalizeLobbyCleanup now finalize).lobby.state.isClosed = true := by
  rcases w.finalizeLobbyCleanup_cases now finalize with heq | ⟨-, -, heq⟩
  · rw [heq]
    exact h
  · rw [heq]
    dsimp only
    split_ifs
    · rfl
    · exact h

theorem Change.closed_of_verifying
    (hw : w.networkLifecycle = .verifyingAbsence → w.lobby.state.isClosed = true)
    (h : Change c s stage w stage' w') (hverifying : w'.networkLifecycle = .verifyingAbsence) :
    w'.lobby.state.isClosed = true := by
  cases h with
  | lobby h =>
    have hclosed := hw (h.undisturbed.lifecycle.symm.trans hverifying)
    rw [h.state_of_closed hclosed]
    exact hclosed
  | network h =>
    cases h with
    | creating w hstate => exact nomatch hverifying
    | provisioned w hstate hprovisioned =>
      obtain ⟨u, hnetworked, rfl | rfl⟩ := provisioned_ok hprovisioned
      · obtain ⟨_, _, _, _, rfl, rfl | rfl⟩ := networked_ok hnetworked
        · exact nomatch hverifying
        · exact nomatch hverifying
      · exact nomatch hverifying
    | provisionFailed w now hstate hheard =>
      rw [state_provisionFailed]
      rfl
    | denied w hload ha hdenied hrequires => exact nomatch hverifying
    | verdict w hrequest hload hreal ha hverdict => exact nomatch hverifying
    | protect w hrequest hload hreal hgeneration => rfl
    | mintFailed w now hstate hheard =>
      rw [StoredLobby.state_mintFailed, if_pos hstate]
      rfl
    | forgotten w hclosed =>
      unfold StoredLobby.forgetMeasurements
      split_ifs
      · exact hclosed
      · exact hclosed
    | pended w hclosed hheld => exact hclosed
    | remediated w hclosed hheld => exact nomatch hverifying
    | explained w hclosed hheld hreason => exact hclosed
    | requested w now hreal hclosed hheld hdedicated hdue => exact nomatch hverifying
    | settled w hclosed hopen hread hheard hresult =>
      rw [StoredLobby.state_applyCleanupResult hresult]
      exact hclosed
    | finalized w now finalize hclosed => exact isClosed_finalizeLobbyCleanup hclosed
    | cleared w hlifecycle => exact hw hlifecycle
    | doubted w hlifecycle => exact hw hlifecycle
    | firstAbsence w now hlifecycle hfirst hobserved hsince hanchor => exact hw hlifecycle
    | confirmed w now hlifecycle hfirst hobserved hanchor hsince => exact hw hlifecycle
    | absent w completedAt now hlifecycle _ _ _ _ _ _ _ => exact isClosed_finalizeLobbyCleanup (hw hlifecycle)

theorem Change.filed {id : LobbyId} (hw : w.Filed id) (h : Change c s stage w stage' w') :
    w'.Filed id :=
  ⟨(congrArg FixedPart.lobbyId h.fixed).trans hw.named, h.closed_of_verifying hw.closed⟩

theorem Course.IsNew.filed {r : StoredLobby} {now : UnixMillis} (h : c.IsNew r now) :
    r.Filed c.id := by
  refine ⟨h.lobbyId, fun hverifying => ?_⟩
  obtain ⟨request, mode, actor, token, tag, dryRun, localOperator, -, rfl⟩ := h
  exfalso
  revert hverifying
  unfold Service.newRecord
  dsimp only
  split
  all_goals
    cases dryRun with
    | true => exact nofun
    | false => exact nofun

/-- The records of a flight stay filed. -/
theorem Moves.filed {f f' : Flight} (h : Moves c f f') (hf : f.All c.id (StoredLobby.Filed c.id)) :
    f'.All c.id (StoredLobby.Filed c.id) :=
  h.all (fun _ _ hr => ⟨hr.named, hr.closed⟩) (fun _ _ hr => hr.filed)
    (fun _ _ _ _ _ hw hchange => hchange.filed hw) hf

end Closed

end Spurfire
