import Spurfire.Lib.Runs
import Spurfire.Server.Idempotency
import Spurfire.Server.Walk

/-!
# The creator's capability

A create hands out one capability, which its record keeps as a verifier bound to generation 1, while
a protected receipt may give the lobby another generation:

* `Honours`: the record authorizes every scope of a capability until it expires;
* `Retains`: what every update of a record keeps of the record the lobby was created with
  (`Change.retains`), and `Move.since`, the rule that carries it through requests;
* `creator_capability_iff` is the result for a create and every run after it.
-/

namespace Spurfire

open Interrupt

/-! ## Capabilities -/

/-- A capability as a response hands it out. -/
structure HandedCapability where
  verifier : Digest
  scopes : List LobbyCapabilityScope
  expiresAt : UnixMillis

/-- The capability a create hands out with the record it stores. -/
def Service.creatorCapability (config : ServiceConfig) (token : Digest) (dryRun : Bool)
    (now : UnixMillis) : HandedCapability :=
  let absoluteTtlMs := if dryRun then config.dryRunTtlMs else ABSOLUTE_TTL_MS
  ⟨token, [.lobbyRead, .lobbyInvite, .lobbyManage, .lobbyDestroy],
    now.satAdd (absoluteTtlMs.satAdd CREATOR_CAPABILITY_CLEANUP_GRACE_MS)⟩

/-- The record authorizes every scope of the capability until it expires. -/
def StoredLobby.Honours (r : StoredLobby) (capability : HandedCapability) : Prop :=
  ∀ scope ∈ capability.scopes, ∀ now < capability.expiresAt,
    (r.authorize capability.verifier scope none now).isSome = true

/-- The create is not a protected one, or its receipt is of the first generation. -/
def ServiceConfig.firstGeneration (config : ServiceConfig) (localOperator : Bool) : Bool :=
  (config.protectedAlpha.filter fun _ => localOperator).all (·.networkGeneration == 1)

/-- The verifier that the record of a create keeps. -/
def HandedCapability.kept (capability : HandedCapability) (id : LobbyId) :
    StoredCapabilityVerifier :=
  .new capability.verifier capability.scopes id none 1 capability.expiresAt

section Create

variable {id : LobbyId} {config : ServiceConfig} {request : CreateLobbyRequest}
  {mode : ProvisioningMode} {actor : PlayerId} {token : Digest} {tag : String}
  {dryRun localOperator : Bool} {now : UnixMillis} {r : StoredLobby}
  {capability : HandedCapability}

theorem Service.capabilities_newRecord : (Service.newRecord id config request mode actor token tag
    dryRun localOperator now).capabilities
      = [(Service.creatorCapability config token dryRun now).kept id] := by
  unfold Service.newRecord HandedCapability.kept Service.creatorCapability
    StoredLobby.addCapability StoredLobby.new
  dsimp only
  split
  · exact List.nil_append _
  · exact List.nil_append _

theorem Service.lobbyId_newRecord : (Service.newRecord id config request mode actor token tag
    dryRun localOperator now).lobby.lobbyId = id := by
  unfold Service.newRecord
  dsimp only
  split
  · rfl
  · rfl

theorem Service.generation_newRecord (id : LobbyId) : (Service.newRecord id config request mode actor token tag
    dryRun localOperator now).networkGeneration
      = (config.protectedAlpha.filter fun _ => localOperator).elim 1 (·.networkGeneration) := by
  unfold Service.newRecord
  dsimp only
  split
  next heq =>
    rw [heq]
    rfl
  next alpha heq =>
    rw [heq]
    rfl

theorem ServiceConfig.firstGeneration_iff : config.firstGeneration localOperator = true ↔
    (config.protectedAlpha.filter fun _ => localOperator).elim (1 : UInt64) (·.networkGeneration)
      = 1 := by
  unfold ServiceConfig.firstGeneration
  cases config.protectedAlpha.filter fun _ => localOperator with
  | none => exact iff_of_true rfl rfl
  | some alpha => exact beq_iff_eq

/-- A record of the first generation honours the capability whose verifier it keeps. -/
theorem StoredLobby.honours_of_mem (hc : capability.kept id ∈ r.capabilities)
    (hid : r.lobby.lobbyId = id) (hgeneration : r.networkGeneration = 1) :
    r.Honours capability := by
  intro scope hscope now hnow
  unfold authorize
  rw [Option.isSome_map, List.find?_isSome]
  refine ⟨_, hc, ?_⟩
  unfold HandedCapability.kept StoredCapabilityVerifier.new StoredCapabilityVerifier.authorizes
  simp [hid, hgeneration, hnow, hscope]

theorem creatorCapability_pos :
    0 < (Service.creatorCapability config token dryRun now).expiresAt := by
  unfold Service.creatorCapability
  dsimp only
  generalize (if dryRun = true then config.dryRunTtlMs else ABSOLUTE_TTL_MS) = ttl
  have hgrace : (0 : ℕ) < CREATOR_CAPABILITY_CLEANUP_GRACE_MS.toNat := by decide
  rw [UInt64.lt_iff_toNat_lt, UInt64.toNat_satAdd, UInt64.toNat_satAdd]
  have hzero : (0 : UInt64).toNat = 0 := rfl
  omega

/-- What a create stores honours the capability it hands out exactly in the first generation. -/
theorem honours_newRecord_iff : (Service.newRecord id config request mode actor token tag dryRun
    localOperator now).Honours (Service.creatorCapability config token dryRun now)
      ↔ config.firstGeneration localOperator = true := by
  rw [ServiceConfig.firstGeneration_iff, ← Service.generation_newRecord id]
  refine ⟨fun h => ?_, StoredLobby.honours_of_mem ?_ Service.lobbyId_newRecord⟩
  · have hread := h .lobbyRead List.mem_cons_self 0 creatorCapability_pos
    unfold StoredLobby.authorize at hread
    rw [Service.capabilities_newRecord, Option.isSome_map, List.find?_isSome] at hread
    obtain ⟨c, hc, hauthorizes⟩ := hread
    cases List.mem_singleton.mp hc
    unfold StoredCapabilityVerifier.authorizes at hauthorizes
    simp only [Bool.and_eq_true, beq_iff_eq] at hauthorizes
    exact hauthorizes.1.1.1.2.symm
  · rw [Service.capabilities_newRecord]
    exact List.mem_singleton.mpr rfl

end Create

/-! ## What the updates keep of the capabilities -/

namespace StoredLobby

variable {w w' : StoredLobby} {now : UnixMillis}

theorem capabilities_applyTimeTransitions :
    (w.applyTimeTransitions now).1.capabilities = w.capabilities := by
  rcases w.applyTimeTransitions_cases now with heq | ⟨_, _, -, -, heq⟩
  · rw [heq]
  · rw [heq]

theorem capabilities_refreshFreshnessState :
    (w.refreshFreshnessState now).1.capabilities = w.capabilities := by
  rcases w.refreshFreshnessState_cases now with heq | ⟨-, heq⟩
  · rw [heq]
  · rw [heq]
    rfl

theorem capabilities_unready : w.unready.capabilities = w.capabilities := by
  rw [unready_eq]
  rfl

theorem capabilities_applyElection (election : AuthorityElection) :
    (w.applyElection election now).capabilities = w.capabilities := by
  unfold applyElection
  dsimp only
  split_ifs
  · rfl
  · rfl

theorem capabilities_recomputeAuthority (h : w.recomputeAuthority now = .ok w') :
    w'.capabilities = w.capabilities := by
  unfold recomputeAuthority at h
  split_ifs at h
  · cases h
    rfl
  · split at h
    · exact nomatch h
    · cases h
      exact capabilities_applyElection _

theorem capabilities_heartbeatAccepted (actor : PlayerId) (election : AuthorityElection) :
    (w.heartbeatAccepted actor election now).capabilities = w.capabilities := by
  unfold heartbeatAccepted
  dsimp only
  split_ifs
  · rfl
  · rfl

theorem capabilities_forgetMeasurements : w.forgetMeasurements.capabilities = w.capabilities := by
  unfold forgetMeasurements
  split_ifs
  · rfl
  · rfl

theorem capabilities_finalizeLobbyCleanup (finalize : Bool) :
    (w.finalizeLobbyCleanup now finalize).capabilities = w.capabilities := by
  rcases w.finalizeLobbyCleanup_cases now finalize with heq | ⟨-, -, heq⟩
  · rw [heq]
  · rw [heq]

theorem capabilities_settledAndMarked {result : Except ProviderError CleanupOutcome}
    {full : Bool} : (w.settledAndMarked now full result).capabilities = w.capabilities := by
  have hsettled : (w.settledBy now full result).capabilities = w.capabilities := by
    cases result with
    | error error =>
      unfold settledBy
      dsimp only
      split_ifs
      · rfl
      · rfl
    | ok outcome => rfl
  unfold settledAndMarked markPendingCredential
  split
  · exact hsettled
  · exact hsettled

theorem capabilities_applyCleanupResult {result : Except ProviderError CleanupOutcome}
    {full : Bool} (h : w.applyCleanupResult now result full = some w') :
    w'.capabilities = w.capabilities := by
  obtain ⟨lifecycle, pending, rfl, -⟩ := applyCleanupResult_some h
  exact capabilities_settledAndMarked

theorem capabilities_seated (request : JoinLobbyRequest) :
    (w.seated request now).capabilities = w.capabilities := by
  unfold seated
  split_ifs
  · exact capabilities_unready
  · exact capabilities_unready

theorem capabilities_left (player : PlayerId) (dryRun : Bool) :
    (w.left player now dryRun).capabilities
      = w.capabilities.map fun c => if c.playerId = some player then { c with revoked := true }
        else c :=
  capabilities_unready

theorem capabilities_mintFailed (player : PlayerId) (error : ProviderError) (dryRun : Bool) :
    (w.mintFailed player error now dryRun).capabilities = w.capabilities := by
  have howed : ∀ u : StoredLobby, (u.cleanupOwed error dryRun).capabilities = u.capabilities := by
    intro u
    unfold cleanupOwed
    dsimp only
    split_ifs
    all_goals rfl
  have hgate : ∀ u : StoredLobby, (u.gateRecorded error now).capabilities = u.capabilities := by
    intro u
    unfold gateRecorded
    split
    · dsimp only
      split_ifs
      · rfl
      · rfl
    · rfl
  have hfailed : ∀ u : StoredLobby, (u.failedByMint error).capabilities = u.capabilities := by
    intro u
    unfold failedByMint
    split_ifs
    · rfl
    · rfl
  refine (howed _).trans ((hgate _).trans ((hfailed _).trans ?_))
  split_ifs
  · rfl
  · rfl

end StoredLobby

theorem capabilities_networked {w w' : StoredLobby} {prepared : PreparedNetwork}
    {mode : ProvisioningMode} {now : UnixMillis} {dryRun : Bool}
    (h : Service.networked w prepared mode now dryRun = .ok w') :
    w'.capabilities = w.capabilities := by
  obtain ⟨_, _, _, _, rfl, -⟩ := networked_ok h
  rfl

theorem capabilities_provisionFailed (w : StoredLobby) (error : ProviderError)
    (mode : ProvisioningMode) (now : UnixMillis) :
    (Service.provisionFailed w error mode now).capabilities = w.capabilities := by
  cases error with
  | childPolicyGate identity digest status deleteAcknowledged =>
    cases deleteAcknowledged with
    | true => rfl
    | false => rfl
  | _ => rfl

def StoredCapabilityVerifier.Standing (capability : StoredCapabilityVerifier) : Prop :=
  capability.playerId = none ∧ .lobbyJoin ∉ capability.scopes

theorem mem_spendInvitation {w w' : StoredLobby} {invitation : Option Digest} {now : UnixMillis}
    {capability : StoredCapabilityVerifier} (hstanding : capability.Standing)
    (h : Service.spendInvitation w invitation now = .ok w') (hc : capability ∈ w.capabilities) :
    capability ∈ w'.capabilities := by
  unfold Service.spendInvitation at h
  split at h
  · cases h
    exact hc
  · split at h
    · rename_i verifier _ hconsumed
      cases h
      obtain ⟨i, hi, rfl⟩ := Option.map_eq_some_iff.mp hconsumed
      obtain ⟨j, hj⟩ := List.mem_iff_getElem?.mp hc
      refine List.mem_iff_getElem?.mpr ⟨j, ?_⟩
      dsimp only
      rw [List.getElem?_modify]
      split_ifs with hij
      · subst hij
        obtain ⟨hlt, hauthorizes, -⟩ := List.findIdx?_eq_some_iff_getElem.mp hi
        rw [List.getElem?_eq_getElem hlt] at hj
        rw [Option.some.inj hj] at hauthorizes
        unfold StoredCapabilityVerifier.authorizes at hauthorizes
        simp only [Bool.and_eq_true, List.contains_iff_mem] at hauthorizes
        exact absurd hauthorizes.1.1.1.1.1.2 hstanding.2
      · rw [hj]
        rfl
    · exact nomatch h

section Changes

variable {c : Course} {s : World} {stage stage' : Stage} {w w' : StoredLobby}
  {capability : StoredCapabilityVerifier}

theorem LobbyChange.mem_capabilities (hstanding : capability.Standing)
    (hc : capability ∈ w.capabilities) (h : LobbyChange c s stage w stage' w') :
    capability ∈ w'.capabilities := by
  have hsame : ∀ {u : StoredLobby}, u.capabilities = w.capabilities →
      capability ∈ u.capabilities := fun heq => heq ▸ hc
  cases h with
  | deadline w now => exact hsame StoredLobby.capabilities_applyTimeTransitions
  | stale w now => exact hsame StoredLobby.capabilities_refreshFreshnessState
  | invited w invitation => exact List.mem_append_left _ hc
  | reserve w key fingerprint hread hstate hreuse hopen hlimited hspent =>
    refine (mem_spendInvitation hstanding hspent ?_ :)
    unfold StoredLobby.enforceJoinRateLimit at hlimited
    dsimp only at hlimited
    split_ifs at hlimited
    cases hlimited
    exact hc
  | enrolled w key fingerprint token now hstate hroom =>
    refine List.mem_append_left _ ?_
    change capability ∈ ((w.withoutReservation _).seated _ now).capabilities
    rw [StoredLobby.capabilities_seated]
    exact hc
  | left w dryRun _ _ _ _ _ _ hresult =>
    rw [StoredLobby.capabilities_left, StoredLobby.capabilities_applyCleanupResult hresult]
    refine List.mem_map.mpr ⟨capability, hc, if_neg ?_⟩
    rw [hstanding.1]
    exact nofun
  | measured w player sample now hstate => exact hsame StoredLobby.capabilities_unready
  | recomputed w hstate helected =>
    exact hsame (StoredLobby.capabilities_recomputeAuthority helected)
  | heartbeat w _ _ _ _ hclaim _ =>
    rw [StoredLobby.capabilities_heartbeatAccepted]
    obtain ⟨-, -, rfl⟩ | ⟨_, _, -, -, -, -, -, rfl⟩ := acceptClaim_ok hclaim
    · exact hc
    · exact hsame (StoredLobby.capabilities_applyElection _)
  | _ => exact hc

theorem NetworkChange.capabilities (h : NetworkChange c s stage w stage' w') :
    w'.capabilities = w.capabilities := by
  cases h with
  | provisioned w hstate hprovisioned =>
    obtain ⟨u, hnetworked, rfl | rfl⟩ := provisioned_ok hprovisioned
    · exact (capabilities_networked hnetworked :)
    · exact (capabilities_networked hnetworked :)
  | provisionFailed w now hstate hheard => exact capabilities_provisionFailed w _ _ now
  | mintFailed w now hstate hheard => exact StoredLobby.capabilities_mintFailed _ _ _
  | forgotten w hclosed => exact StoredLobby.capabilities_forgetMeasurements
  | settled w hclosed hopen hread hheard hresult =>
    exact StoredLobby.capabilities_applyCleanupResult hresult
  | finalized w now finalize hclosed => exact StoredLobby.capabilities_finalizeLobbyCleanup _
  | absent w completedAt now _ _ _ _ _ _ _ _ =>
    exact StoredLobby.capabilities_finalizeLobbyCleanup _
  | _ => rfl

/-- What a lobby keeps of the record it was created with. -/
structure StoredLobby.Retains (u w : StoredLobby) : Prop where
  lobbyId : w.lobby.lobbyId = u.lobby.lobbyId
  /-- The restart migration numbers the generation 0 anew. -/
  generation : u.networkGeneration ≠ 0 → w.networkGeneration = u.networkGeneration
  capabilities : ∀ c ∈ u.capabilities, c.Standing → c ∈ w.capabilities

theorem StoredLobby.Retains.refl (w : StoredLobby) : Retains w w :=
  ⟨rfl, fun _ => rfl, fun _ hc _ => hc⟩

theorem Change.retains {u : StoredLobby} (hw : StoredLobby.Retains u w)
    (h : Change c s stage w stage' w') : StoredLobby.Retains u w' := by
  refine ⟨(congrArg FixedPart.lobbyId h.fixed).trans hw.lobbyId, fun hpos =>
    (congrArg FixedPart.generation h.fixed).trans (hw.generation hpos), fun c hc hstanding => ?_⟩
  have hkept := hw.capabilities c hc hstanding
  cases h with
  | lobby h => exact h.mem_capabilities hstanding hkept
  | network h => exact h.capabilities ▸ hkept

/-- The restart migration numbers the generation 0 anew, and leaves the capabilities alone. -/
theorem normalizeRecord_kept (w : StoredLobby) :
    (w.networkGeneration ≠ 0 →
        (StoreData.normalizeRecord w).1.networkGeneration = w.networkGeneration)
      ∧ (StoreData.normalizeRecord w).1.capabilities = w.capabilities := by
  unfold StoreData.normalizeRecord
  by_cases hactive : StoreData.activeReal w = true
  · rw [if_pos hactive]
    by_cases hzero : w.networkGeneration = 0
    · rw [if_pos hzero]
      dsimp only
      split_ifs
      · exact ⟨fun h => absurd hzero h, rfl⟩
      · exact ⟨fun h => absurd hzero h, rfl⟩
    · rw [if_neg hzero]
      dsimp only
      split_ifs
      · exact ⟨fun _ => rfl, rfl⟩
      · exact ⟨fun _ => rfl, rfl⟩
  · rw [if_neg hactive]
    exact ⟨fun _ => rfl, rfl⟩

theorem StoredLobby.Retains.normalizeRecord {u : StoredLobby} (hw : Retains u w) :
    Retains u (StoreData.normalizeRecord w).1 := by
  obtain ⟨hgeneration, hcapabilities⟩ := normalizeRecord_kept w
  refine ⟨(StoreData.normalizeRecord_lobbyId w).trans hw.lobbyId, fun hpos => ?_,
    fun c hc hstanding => hcapabilities ▸ hw.capabilities c hc hstanding⟩
  exact (hgeneration (hw.generation hpos ▸ hpos)).trans (hw.generation hpos)

end Changes

/-! ## Since the creation -/

def Event.creation : Event → Option StoredLobby
  | .created lobby => some lobby
  | _ => none

theorem Event.creation_of_isClock {e : Event} (h : e.isClock = true) : e.creation = none := by
  cases e with
  | clock at_ => rfl
  | _ => exact nomatch h

namespace World

/-- The records the lobby was created with, newest first. -/
def creations (s : World) : List StoredLobby := s.trace.filterMap Event.creation

/-- The record is related to the one the lobby was last created with. -/
def Since (id : LobbyId) (T : StoredLobby → StoredLobby → Prop) (s : World) : Prop :=
  ∀ u, s.creations.head? = some u → ∀ r, s.record id = some r → T u r

variable {s s' : World} {id : LobbyId}

theorem creations_append (new : List Event) (htrace : s'.trace = new ++ s.trace) :
    s'.creations = new.filterMap Event.creation ++ s.creations := by
  unfold creations
  rw [htrace, List.filterMap_append]

theorem creations_same (new : List Event) (htrace : s'.trace = new ++ s.trace)
    (hnew : ∀ e ∈ new, e.creation = none) : s'.creations = s.creations := by
  rw [creations_append new htrace, List.filterMap_eq_nil_iff.mpr hnew, List.nil_append]

theorem creations_note {e : Event} (he : e.creation = none) :
    (s.note e).creations = s.creations :=
  creations_same [e] rfl fun _ hx => List.mem_singleton.mp hx ▸ he

theorem creations_elsewhere (s : World) (step : StoreStep) :
    (s.elsewhere id step).creations = s.creations := by
  obtain ⟨new, htrace, hclock⟩ : ∃ new, (s.elsewhere id step).trace = new ++ s.trace
      ∧ ∀ e ∈ new, e.isClock = true := elsewhere_trace s step
  exact creations_same new htrace fun e he => Event.creation_of_isClock (hclock e he)

theorem creations_write (s : World) (w : StoredLobby) :
    (s.write id w).creations = s.creations := by
  cases hrecord : s.record id with
  | none => exact creations_same [] (trace_write_of_none hrecord) (List.forall_mem_nil _)
  | some r =>
    refine creations_same [_] (trace_write hrecord) fun e he => ?_
    cases List.mem_singleton.mp he
    rfl

theorem creations_create (s : World) (call : CreateCall) :
    (s.create call).1 = .ok (.created call.lobby)
        ∧ (s.create call).2.creations = call.lobby :: s.creations
      ∨ (∀ lobby, (s.create call).1 ≠ .ok (.created lobby))
        ∧ (s.create call).2.creations = s.creations := by
  rcases trace_create s call with ⟨lobby, hcreated, htrace⟩ | ⟨hrefused, htrace⟩
  · cases create_created hcreated
    exact .inl ⟨hcreated, creations_append [_] htrace⟩
  · exact .inr ⟨hrefused, creations_same [] htrace (List.forall_mem_nil _)⟩

end World

/-- Both records of a flight are related to the one the lobby was last created with. -/
def Flight.Since (id : LobbyId) (T : StoredLobby → StoredLobby → Prop) (f : Flight) : Prop :=
  ∀ u, f.world.creations.head? = some u → f.All id (T u)

section Law

variable {c : Course} {f f' : Flight} {T : StoredLobby → StoredLobby → Prop}

/-- What the purge and every update keep of the created record is kept since the creation. -/
theorem Move.since (hrefl : ∀ w, T w w) (hpurge : ∀ u r now, T u r → T u (r.purgeRecord now))
    (hchange : ∀ u s stage w stage' w', T u w → Change c s stage w stage' w' → T u w')
    (h : Move c f f') (hf : f.Since c.id T) : f'.Since c.id T := by
  have hsame : f'.world.creations = f.world.creations → f'.Since c.id T := by
    intro hlast u hu
    refine h.all_of_created (hpurge u) (fun s call _ hcreated hworld => ?_) (hchange u)
      (hf u (hlast ▸ hu))
    rcases s.creations_create call with ⟨-, hlast'⟩ | ⟨hrefused, -⟩
    · rw [hworld, hlast'] at hu
      cases hu
      exact hrefl _
    · exact absurd hcreated (hrefused _)
  cases h with
  | elsewhere held s step => exact hsame (World.creations_elsewhere s step)
  | elapse held s elapsed => exact hsame rfl
  | clock held s now => exact hsame (World.creations_note rfl)
  | load s hload hrecord => exact hsame rfl
  | change s h => exact hsame rfl
  | write stage w s hcontains => exact hsame (World.creations_write s w)
  | created s hfresh hread hcreated =>
    intro u hu
    rcases s.creations_create _ with ⟨-, hlast⟩ | ⟨hrefused, -⟩
    · dsimp only at hu
      rw [hlast] at hu
      cases hu
      refine ⟨fun r hr => ?_, fun stage w hw => ?_⟩
      · cases (World.record_created hfresh.lobbyId hcreated).symm.trans hr
        exact hrefl _
      · cases hw
        exact hrefl _
    · exact absurd hcreated (hrefused _)
  | refused s hread hrefused =>
    rcases s.creations_create _ with ⟨hcreated, -⟩ | ⟨-, hlast⟩
    · exact absurd hcreated (hrefused _)
    · exact hsame hlast
  | granted held s verifier expiresAt => exact hsame rfl
  | prepared held s request ha => exact hsame (World.creations_note rfl)
  | cleaned held s request ha => exact hsame (World.creations_note rfl)
  | erased held s request ha => exact hsame (World.creations_note rfl)
  | minted w s ha hsynced => exact hsame (World.creations_note rfl)
  | observed held s request ha => exact hsame (World.creations_note rfl)
  | anchored w s hfirst hobserved hat => exact hsame rfl
  | unanchored held s => exact hsame rfl
  | lost held s ha next => exact hsame rfl

theorem Moves.since (hrefl : ∀ w, T w w) (hpurge : ∀ u r now, T u r → T u (r.purgeRecord now))
    (hchange : ∀ u s stage w stage' w', T u w → Change c s stage w stage' w' → T u w')
    (h : Moves c f f') (hf : f.Since c.id T) : f'.Since c.id T := by
  induction h with
  | refl => exact hf
  | tail _ hmove ih => exact hmove.since hrefl hpurge hchange ih

end Law

/-! ### Runs -/

/-- The record is filed, and retains what its lobby was created with. -/
structure World.Tended (id : LobbyId) (s : World) : Prop where
  filed : ∀ r, s.record id = some r → r.Filed id
  retained : s.Since id StoredLobby.Retains

theorem World.record_restarted (id : LobbyId) {s : World} (hfile : s.file = none) :
    s.restarted.record id = (s.record id).map fun r => (StoreData.normalizeRecord r).1 := by
  change (s.file.getD s.data).normalizeLoadedStore.2.lobbies[id]? = _
  rw [hfile, Option.getD_none, (StoreData.normalizeLoadedStore_rows s.data).1]
  exact Std.ExtTreeMap.getElem?_map

/-- What a restart with the image of the memory keeps, the step keeps. -/
theorem World.step_restart {P : World → Prop} {id : LobbyId} {s : World} (hs : P s)
    (h : s.file = none → P s.restarted) : P (World.step id s .restart).2 := by
  change P (if s.file.isSome then s else s.restarted)
  split_ifs with hfile
  · exact hs
  · exact h (Option.not_isSome_iff_eq_none.mp hfile)

namespace World.Tended

variable {id : LobbyId} {s : World}

theorem handle (h : s.Tended id) (config : ServiceConfig) (request : LobbyRequest)
    (answers : List Answer) : ((request.program id config).exec s answers).Tended id := by
  obtain ⟨held, hmoves⟩ := handle_moves (c := ⟨id, s, config, request, answers⟩) h.filed
  have hall := Moves.filed hmoves ⟨h.filed, fun _ _ heq => nomatch heq⟩
  have hstart : Flight.Since id StoredLobby.Retains ⟨none, s⟩ :=
    fun u hu => ⟨h.retained u hu, fun _ _ heq => nomatch heq⟩
  have hsince := Moves.since StoredLobby.Retains.refl
    (fun _ _ _ hr => ⟨hr.lobbyId, hr.generation, hr.capabilities⟩)
    (fun _ _ _ _ _ _ hw hchange => hchange.retains hw) hmoves hstart
  exact ⟨hall.stored, fun u hu => (hsince u hu).stored⟩

theorem elsewhere (h : s.Tended id) (step : StoreStep) : (s.elsewhere id step).Tended id := by
  refine ⟨fun r' hr' => ?_, fun u hu r' hr' => ?_⟩
  · obtain ⟨r, hr, rfl | ⟨now, -, rfl⟩⟩ := World.elsewhere_record hr'
    · exact h.filed _ hr
    · exact ⟨(h.filed r hr).named, (h.filed r hr).closed⟩
  · rw [World.creations_elsewhere] at hu
    obtain ⟨r, hr, rfl | ⟨now, -, rfl⟩⟩ := World.elsewhere_record hr'
    · exact h.retained u hu _ hr
    · have hkept := h.retained u hu r hr
      exact ⟨hkept.lobbyId, hkept.generation, hkept.capabilities⟩

/-- The restart migration moves a lifecycle to manual remediation, if at all. -/
theorem lifecycle_normalizeRecord {r : StoredLobby}
    (h : (StoreData.normalizeRecord r).1.networkLifecycle = .verifyingAbsence) :
    r.networkLifecycle = .verifyingAbsence
      ∧ (StoreData.normalizeRecord r).1.lobby.state = r.lobby.state := by
  unfold StoreData.normalizeRecord at h ⊢
  by_cases hactive : StoreData.activeReal r = true
  · rw [if_pos hactive] at h ⊢
    by_cases hzero : r.networkGeneration = 0
    · rw [if_pos hzero] at h ⊢
      dsimp only at h ⊢
      split_ifs at h ⊢ with hsimulated
      exact ⟨h, rfl⟩
    · rw [if_neg hzero] at h ⊢
      dsimp only at h ⊢
      split_ifs at h ⊢ with hsimulated
      exact ⟨h, rfl⟩
  · rw [if_neg hactive] at h ⊢
    exact ⟨h, rfl⟩

theorem restarted (h : s.Tended id) (hfile : s.file = none) : s.restarted.Tended id := by
  refine ⟨fun r' hr' => ?_, fun u hu r' hr' => ?_⟩
  · rw [record_restarted id hfile] at hr'
    obtain ⟨r, hr, rfl⟩ := Option.map_eq_some_iff.mp hr'
    refine ⟨(StoreData.normalizeRecord_lobbyId r).trans (h.filed r hr).named, fun hverifying => ?_⟩
    obtain ⟨hbefore, hstate⟩ := lifecycle_normalizeRecord hverifying
    exact hstate ▸ (h.filed r hr).closed hbefore
  · rw [record_restarted id hfile] at hr'
    obtain ⟨r, hr, rfl⟩ := Option.map_eq_some_iff.mp hr'
    exact (h.retained u hu r hr).normalizeRecord

theorem run (h : s.Tended id) (steps : List ServiceStep) :
    (Runs.run (World.step id) s steps).Tended id := by
  refine Runs.run_invariant (fun s step hs => ?_) h steps
  cases step with
  | handle config request answers => exact hs.handle config request answers
  | elsewhere step => exact hs.elsewhere step
  | restart => exact World.step_restart hs hs.restarted

theorem empty (id : LobbyId) (i p : Digest) : (World.empty i p).Tended id := by
  have hnone : (World.empty i p).record id = none := Std.ExtTreeMap.getElem?_empty
  exact ⟨fun r hr => absurd (hnone.symm.trans hr) nofun, fun u hu => nomatch hu⟩

end World.Tended

/-! ## What a create stores -/

def World.Bears (s₀ : World) (B : StoredLobby → Prop) (s : World) : Prop :=
  ∃ new, s.creations = new ++ s₀.creations ∧ ∀ lobby ∈ new, B lobby

section Bears

variable {id : LobbyId} {s₀ s : World} {B : StoredLobby → Prop} {α β : Type}

/-- Wherever the program stops, the creations since `s₀` have the property. -/
def Service.Bears (s₀ : World) (B : StoredLobby → Prop) (p : Service α) : Prop :=
  ∀ s, s₀.Bears B s → Meets (fun _ => True) (s₀.Bears B) s p fun _ => s₀.Bears B

theorem bears_pure (a : α) : Service.Bears s₀ B (pure a) := fun _ hs => meets_pure hs

theorem bears_fail (error : ApiError) : Service.Bears s₀ B (Prog.fail error : Service α) :=
  fun _ hs => meets_fail hs

theorem bears_bind {p : Service α} {f : α → Service β} (hp : Service.Bears s₀ B p)
    (hf : ∀ a, Service.Bears s₀ B (f a)) : Service.Bears s₀ B (p >>= f) :=
  fun s hs => meets_bind ((hp s hs).mono fun a s' hs' => hf a s' hs')

theorem bears_check (b : Bool) (error : ApiError) : Service.Bears s₀ B (Prog.check b error) :=
  fun _ hs => meets_check hs fun _ => hs

theorem bears_ofExcept (x : Except ApiError α) : Service.Bears s₀ B (Prog.ofExcept x) :=
  fun _ hs => meets_ofExcept hs fun _ _ => hs

theorem bears_await {act : World → Answer → α × World}
    (h : ∀ s a, s₀.Bears B s → s₀.Bears B (act s a).2) :
    Service.Bears s₀ B (Service.await id act) := by
  refine fun s hs => meets_effect hs fun a _ => h _ a ?_
  obtain ⟨clocks, htrace, hclock⟩ := (World.quiet_pass id s a).trace
  unfold World.Bears
  rwa [World.creations_same _ htrace fun e he => Event.creation_of_isClock (hclock e he)]

theorem bears_ask (read : Answer → α) : Service.Bears s₀ B (Service.ask id read) :=
  bears_await fun _ _ hs => hs

theorem bears_clockNow : Service.Bears s₀ B (Service.clockNow id) := by
  refine bears_await fun s a hs => ?_
  unfold World.Bears
  rwa [World.creations_note rfl]

theorem bears_prepareLobby (request : PrepareLobbyRequest) :
    Service.Bears s₀ B (Service.prepareLobby id request) := by
  refine bears_await fun s a hs => ?_
  unfold World.Bears
  rwa [World.creations_note rfl]

theorem bears_persist (w : StoredLobby) (dryRun : Bool) :
    Service.Bears s₀ B (Service.persist id w dryRun) := by
  refine bears_bind (bears_await fun s a hs => ?_) fun stored => bears_check stored _
  split_ifs
  · unfold World.Bears
    rwa [World.creations_write]
  · exact hs

theorem bears_storeIssueGrant (verifier : Digest) (expiresAt : UnixMillis) :
    Service.Bears s₀ B (Service.storeIssueGrant id verifier expiresAt) := by
  refine bears_await fun s a hs => ?_
  split_ifs
  · exact hs
  · exact hs

theorem bears_realCreateGrant (config : ServiceConfig) (headers : Headers)
    (dryRun localOperator : Bool) (now : UnixMillis) :
    Service.Bears s₀ B (Service.realCreateGrant id config headers dryRun localOperator now) := by
  unfold Service.realCreateGrant
  split_ifs
  · exact bears_pure none
  · refine bears_bind (bears_ask _) fun token => bears_bind (bears_storeIssueGrant _ _) ?_
    rintro (_ | _ | _)
    · exact bears_fail _
    · exact bears_fail _
    · exact bears_pure _
  · split
    · exact bears_pure _
    · exact bears_pure _
    · exact bears_fail _
  · split
    · exact bears_pure _
    · exact bears_fail _

/-- The one step of a create that files a record. -/
theorem bears_storeCreate {call : CreateCall} (hcall : B call.lobby) :
    Service.Bears s₀ B (Service.storeCreate id call) := by
  refine bears_await fun s a hs => ?_
  split_ifs
  · rcases s.creations_create call with ⟨-, hcreations⟩ | ⟨-, hcreations⟩
    · obtain ⟨new, hnew, hall⟩ := hs
      refine ⟨call.lobby :: new, by rw [hcreations, hnew]; rfl, fun lobby hlobby => ?_⟩
      exact (List.mem_cons.mp hlobby).elim (fun heq => heq ▸ hcall) (hall lobby)
    · unfold World.Bears
      rwa [hcreations]
  · exact hs

theorem bears_provision (w : StoredLobby) (mode : ProvisioningMode) (now : UnixMillis)
    (dryRun : Bool) : Service.Bears s₀ B (Service.provision id w mode now dryRun) := by
  refine bears_bind (bears_prepareLobby _) fun prepared => ?_
  cases prepared with
  | ok prepared =>
    refine bears_bind (bears_ask _) fun capabilities => ?_
    refine bears_bind (bears_ofExcept _) fun advanced => ?_
    exact bears_bind (bears_persist _ _) fun _ => bears_pure _
  | error error => exact bears_bind (bears_persist _ _) fun _ => bears_pure _

theorem bears_createAndProvision {call : CreateCall} (hcall : B call.lobby)
    (mode : ProvisioningMode) (dryRun : Bool) :
    Service.Bears s₀ B (Service.createAndProvision id call mode dryRun) := by
  refine bears_bind (bears_storeCreate hcall) ?_
  rintro (_ | error | outcome)
  · exact bears_fail _
  · exact bears_fail _
  · cases outcome with
    | conflict => exact bears_fail _
    | replay stored => exact bears_pure _
    | created stored =>
      dsimp only
      split_ifs
      · exact bears_provision _ _ _ _
      · exact bears_bind (bears_persist _ _) fun _ => bears_provision _ _ _ _

/-- **Every record a create stores is its own new record.** -/
theorem bears_createLobby (s₀ : World) (config : ServiceConfig) (headers : Headers)
    (request : CreateLobbyRequest) (fingerprint : List UInt8) (tag : String)
    (localOperator : Bool) :
    Service.Bears s₀ (fun stored => ∃ mode actor token dryRun now, stored
        = Service.newRecord id config request mode actor token tag dryRun localOperator now)
      (Service.createLobby id config headers request fingerprint tag localOperator) := by
  refine bears_bind (bears_bind (bears_ask _) bears_ofExcept) fun _ => ?_
  refine bears_bind (bears_ofExcept _) fun actor => bears_bind (bears_ofExcept _) fun key => ?_
  refine bears_bind (bears_check _ _) fun _ => bears_bind (bears_check _ _) fun _ => ?_
  refine bears_bind (bears_check _ _) fun _ => bears_bind (bears_ask _) fun admitted => ?_
  refine bears_bind (bears_ofExcept _) fun mode => bears_bind bears_clockNow fun now => ?_
  refine bears_bind (bears_realCreateGrant _ _ _ _ _) fun grant => ?_
  refine bears_bind (bears_ask _) fun token => ?_
  exact bears_createAndProvision ⟨mode, actor, token, _, now, rfl⟩ _ _

end Bears

/-! ## The creator's capability -/

/-- A record that retains one of the first generation honours what that was created with. -/
theorem StoredLobby.Retains.honours {u w : StoredLobby} {capability : HandedCapability}
    {id : LobbyId} (h : Retains u w) (hc : capability.kept id ∈ u.capabilities)
    (hjoin : .lobbyJoin ∉ capability.scopes) (hid : u.lobby.lobbyId = id)
    (hgeneration : u.networkGeneration = 1) : w.Honours capability := by
  refine honours_of_mem (h.capabilities _ hc ⟨rfl, hjoin⟩) (h.lobbyId.trans hid) ?_
  exact (h.generation (hgeneration ▸ by decide)).trans hgeneration

/-- **The creator's capability works in the first generation only**: a create from any reachable
state that stores a record stores its new record, and the record and all that later requests make of
it honour the capability handed out, if and only if the create is not a protected one or its receipt
is of the generation 1. -/
theorem creator_capability_iff (id : LobbyId) (i p : Digest) (before : List ServiceStep)
    (config : ServiceConfig) (headers : Headers) (request : CreateLobbyRequest)
    (fingerprint : List UInt8) (tag : String) (localOperator : Bool) (answers : List Answer)
    (stored : StoredLobby) :
    let s₀ := Runs.run (World.step id) (World.empty i p) before
    let s₁ := (s₀.step id (.handle config
      (.create headers request fingerprint tag localOperator) answers)).2
    s₁.creations = stored :: s₀.creations →
    ∃ mode actor token dryRun now,
      stored = Service.newRecord id config request mode actor token tag dryRun localOperator now
      ∧ ((stored.Honours (Service.creatorCapability config token dryRun now)
          ∧ ∀ after r, let s := Runs.run (World.step id) s₁ after
            s.creations = stored :: s₀.creations → s.record id = some r →
              r.Honours (Service.creatorCapability config token dryRun now))
        ↔ config.firstGeneration localOperator = true) := by
  intro s₀ s₁ hcreated
  have hbears : s₀.Bears _ s₁ := (bears_createLobby s₀ config headers request fingerprint tag
    localOperator s₀ ⟨[], rfl, List.forall_mem_nil _⟩).exec (fun _ _ h => h) fun _ _ => trivial
  obtain ⟨new, hnew, hall⟩ := hbears
  have hsingle : [stored] = new := List.append_cancel_right (hcreated.symm.trans hnew)
  obtain ⟨mode, actor, token, dryRun, now, rfl⟩ :=
    hall stored (hsingle ▸ List.mem_singleton_self stored)
  refine ⟨mode, actor, token, dryRun, now, rfl, fun h => honours_newRecord_iff.mp h.1,
    fun hfirst => ⟨honours_newRecord_iff.mpr hfirst, fun after r => ?_⟩⟩
  intro s hlast hr
  have htended : s.Tended id := ((World.Tended.empty id i p).run before).handle config _ answers
    |>.run after
  have hretains := htended.retained _ (by rw [hlast]; rfl) r hr
  refine hretains.honours ?_ ?_ Service.lobbyId_newRecord ?_
  · rw [Service.capabilities_newRecord]
    exact List.mem_singleton_self _
  · exact of_decide_eq_true rfl
  · exact (Service.generation_newRecord _).trans (ServiceConfig.firstGeneration_iff.mp hfirst)

/-! ### Two creates -/

section Runs

open ProtocolId

def creatorHeaders : Headers := ⟨false, some "key", none, some (.ofTail 1)⟩

def dryConfig : ServiceConfig := ⟨true, false, false, false, 8, 600000, none, none⟩

def dryRequest : CreateLobbyRequest := ⟨"solo", 2, .dryRun⟩

/-- A dry run is of the first generation. -/
theorem creator_capability_iff_dryRun :
    ∃ mode actor token dryRun now, ∃ stored, stored = Service.newRecord (.ofTail 7)
      dryConfig dryRequest mode actor token "tag" dryRun false now
        ∧ stored.Honours (Service.creatorCapability dryConfig token dryRun now) := by
  obtain ⟨mode, actor, token, dryRun, now, hstored, hiff⟩ := creator_capability_iff
    (.ofTail 7) (Vector.replicate 32 0) (Vector.replicate 32 0) [] dryConfig
    creatorHeaders dryRequest [1] "tag" false (List.replicate 7 {})
    (Service.newRecord (.ofTail 7) dryConfig dryRequest .dryRun
      (.ofTail 1) (Vector.replicate 32 0) "tag" true false 0) rfl
  exact ⟨mode, actor, token, dryRun, now, _, hstored, (hiff.mpr rfl).1⟩

def alphaConfig : ServiceConfig where
  forceDryRun := false
  allowLegacyClientAssertions := false
  testOnlyAllowLegacyRealMutations := false
  realMutationsEnabled := true
  maxPlayers := 8
  dryRunTtlMs := 600000
  protectedAlpha := some ⟨.ofTail 7, 2, 3600000, Vector.replicate 32 9⟩
  localRehearsal := none

def secondReceipt : StoredProtectedAlphaReceipt where
  lobbyId := .ofTail 7
  networkGeneration := 2
  storeInstanceIdSha256 :=
    (StoreData.empty (Vector.replicate 32 0) (Vector.replicate 32 0)).boundInstance
  canonicalStatePathSha256 := Vector.replicate 32 0
  launchCodeSha256 := Vector.replicate 32 9
  expiresAt := 60000
  finalIoDeadline := 1800000
  absoluteDeadline := 3600000
  participantCap := 8
  consumedAt := none

/-- The receipt is installed, and the local operator creates the lobby. -/
def alphaCreated : World :=
  Runs.run (World.step (.ofTail 7))
    (World.empty (Vector.replicate 32 0) (Vector.replicate 32 0))
    [.elsewhere (.installProtectedAlphaReceipt secondReceipt),
      .handle alphaConfig (.create creatorHeaders ⟨"alpha", 2, .tailnetPerLobby⟩ [1] "tag" true)
        (List.replicate 9 {})]

/-- The creator of a lobby of the second generation cannot even read it. -/
theorem locked_out_of_second_generation :
    alphaCreated.creations.length = 1
      ∧ ∃ r, alphaCreated.record (.ofTail 7) = some r
        ∧ ¬r.Honours (Service.creatorCapability alphaConfig (Vector.replicate 32 0) false 0) := by
  have hlocked : (alphaCreated.record (.ofTail 7)).any (fun r =>
      (r.authorize (Vector.replicate 32 0) .lobbyRead none 0).isNone) = true := by decide +kernel
  obtain ⟨r, hr, hnone⟩ := (Option.any_eq_true _ _).mp hlocked
  refine ⟨by decide +kernel, r, hr, fun h => ?_⟩
  have hread : (r.authorize (Vector.replicate 32 0) .lobbyRead none 0).isSome = true :=
    h .lobbyRead List.mem_cons_self 0 creatorCapability_pos
  rw [Option.isNone_iff_eq_none.mp hnone] at hread
  exact nomatch hread

end Runs

end Spurfire
