import Spurfire.Lib.Runs
import Spurfire.Server.Store

/-!
# The singleton real lobby

What the transactions of the store do to the lease, the quarantine and the one-use authorities of a
real create:

* `createInData_cases` and `reserveReal_ok` say once what a create can do;
* `lease_kept` is the lease invariant: only a proven release of the holder at the leased generation
  clears it;
* `quarantine_kept`: no step lifts the quarantine.
-/

namespace Spurfire

namespace StoreData

variable {data data' : StoreData} {call : CreateCall} {now : UnixMillis}

/-! ## What a create does -/

theorem createFresh_cases (data : StoreData) (call : CreateCall) :
    (∃ error, data.createFresh call = (.error error, data))
      ∨ ∃ reserved, (if call.lobby.dryRun then .ok data else data.reserveReal call) = .ok reserved
        ∧ data.lobbies.contains call.lobby.lobby.lobbyId = false
        ∧ data.createFresh call = (.ok (.created call.lobby), reserved.insertCreated call) := by
  unfold createFresh
  by_cases hfull : MAX_STORED_LOBBIES ≤ data.lobbies.size
      ∨ MAX_CREATE_REPLAYS ≤ data.createReplays.size
  · exact .inl ⟨.capacity, if_pos hfull⟩
  rw [if_neg hfull]
  by_cases hknown : data.lobbies.contains call.lobby.lobby.lobbyId = true
  · exact .inl ⟨.duplicateLobby, if_pos hknown⟩
  rw [if_neg hknown]
  cases hreserve : (if call.lobby.dryRun then Except.ok data else data.reserveReal call) with
  | error error => exact .inl ⟨error, rfl⟩
  | ok reserved => exact .inr ⟨reserved, rfl, Bool.eq_false_of_not_eq_true hknown, rfl⟩

/-- A create answers from the purged image, or reserves and files a new record. -/
theorem createInData_cases (data : StoreData) (call : CreateCall) :
    (∃ answer, data.createInData call = (answer, data.purgeRetained call.now)
        ∧ ∀ lobby, answer ≠ .ok (.created lobby))
      ∨ ∃ reserved, (if call.lobby.dryRun then .ok (data.purgeRetained call.now)
            else (data.purgeRetained call.now).reserveReal call) = .ok reserved
          ∧ (data.purgeRetained call.now).createReplays[call.idempotencyKey]? = none
          ∧ (data.purgeRetained call.now).lobbies.contains call.lobby.lobby.lobbyId = false
          ∧ data.createInData call = (.ok (.created call.lobby), reserved.insertCreated call) := by
  unfold createInData
  dsimp only
  generalize data.purgeRetained call.now = purged
  cases hreplay : purged.createReplays[call.idempotencyKey]? with
  | some replay =>
    dsimp only
    by_cases hconflict : replay.fingerprint ≠ call.fingerprint ∨ replay.actor ≠ call.actor
    · rw [if_pos hconflict]
      exact .inl ⟨.ok .conflict, rfl, fun _ h => nomatch h⟩
    rw [if_neg hconflict]
    cases purged.lobbies[replay.lobbyId]? with
    | some lobby => exact .inl ⟨.ok (.replay lobby), rfl, fun _ h => nomatch h⟩
    | none => exact .inl ⟨.error .inconsistentIdempotency, rfl, fun _ h => nomatch h⟩
  | none =>
    dsimp only
    rcases createFresh_cases purged call with ⟨error, hfresh⟩ | ⟨reserved, hreserve, hknown, hfresh⟩
    · exact .inl ⟨.error error, hfresh, fun _ h => nomatch h⟩
    · exact .inr ⟨reserved, hreserve, rfl, hknown, hfresh⟩

/-- What a successful reservation went through. -/
theorem reserveReal_ok (h : data.reserveReal call = .ok data') :
    data.realCreationQuarantined = false ∧ data.realLobbyLease = none
      ∧ ∃ candidate consumed, call.realCreateGrant = some candidate
        ∧ data.consumeCreateAuthority call candidate = .ok consumed
        ∧ ∃ lease, lease.holderLobbyId = call.lobby.lobby.lobbyId
          ∧ lease.networkGeneration = call.lobby.networkGeneration
          ∧ data' = { consumed with realLobbyLease := some lease } := by
  unfold reserveReal at h
  split_ifs at h with hallow hheld
  simp only [Bool.or_eq_true, not_or, Bool.not_eq_true, Option.isSome_eq_false_iff,
    Option.isNone_iff_eq_none] at hheld
  cases hgrant : call.realCreateGrant with
  | none => rw [hgrant] at h; exact nomatch h
  | some candidate =>
    rw [hgrant] at h
    dsimp only at h
    cases hconsume : data.consumeCreateAuthority call candidate with
    | error error => rw [hconsume] at h; exact nomatch h
    | ok consumed =>
      rw [hconsume] at h
      cases h
      exact ⟨hheld.1, hheld.2, candidate, consumed, rfl, hconsume, _, rfl, rfl, rfl⟩

/-- The authority a real create spends, with the fields it leaves alone. -/
theorem consumeCreateAuthority_ok {candidate : Digest}
    (h : data.consumeCreateAuthority call candidate = .ok data') :
    (∃ receipt, data.protectedAlphaReceipt = some receipt ∧ receipt.consumedAt = none
        ∧ data' = { data with
          protectedAlphaReceipt := some { receipt with consumedAt := some call.now } })
      ∨ (data.protectedAlphaReceipt = none ∧ ∃ receipt, data.localRehearsalReceipt = some receipt
        ∧ receipt.consumedAt = none ∧ data' = { data with
          localRehearsalReceipt := some { receipt with consumedAt := some call.now } })
      ∨ (data.protectedAlphaReceipt = none ∧ data.localRehearsalReceipt = none
        ∧ ∃ i, data.realCreateGrants.findIdx? (grantUsable call.now candidate) = some i
          ∧ data' = { data with realCreateGrants := data.realCreateGrants.modify i fun grant =>
            { grant with consumedAt := some call.now } }) := by
  unfold consumeCreateAuthority at h
  cases halpha : data.protectedAlphaReceipt with
  | some receipt =>
    rw [halpha] at h
    dsimp only at h
    split_ifs at h with hrefused
    simp only [Bool.or_eq_true, not_or, Bool.not_eq_true, Option.isSome_eq_false_iff,
      Option.isNone_iff_eq_none] at hrefused
    cases h
    exact .inl ⟨receipt, rfl, hrefused.1.1.1.1.1.1.1.1.1.1, rfl⟩
  | none =>
    rw [halpha] at h
    dsimp only at h
    cases hrehearsal : data.localRehearsalReceipt with
    | some receipt =>
      rw [hrehearsal] at h
      dsimp only at h
      split_ifs at h with hrefused
      simp only [Bool.or_eq_true, not_or, Bool.not_eq_true, Option.isSome_eq_false_iff,
        Option.isNone_iff_eq_none] at hrefused
      cases h
      exact .inr (.inl ⟨rfl, receipt, rfl, hrefused.1.1.1.1.1.1, rfl⟩)
    | none =>
      rw [hrehearsal] at h
      dsimp only at h
      cases hfind : data.realCreateGrants.findIdx? (grantUsable call.now candidate) with
      | none => rw [hfind] at h; exact nomatch h
      | some i =>
        rw [hfind] at h
        cases h
        exact .inr (.inr ⟨rfl, rfl, i, rfl, rfl⟩)

/-! ## The lease -/

theorem consume_keeps {candidate : Digest}
    (h : data.consumeCreateAuthority call candidate = .ok data') :
    data'.realLobbyLease = data.realLobbyLease
      ∧ data'.realCreationQuarantined = data.realCreationQuarantined
      ∧ data'.lobbies = data.lobbies ∧ data'.createReplays = data.createReplays
      ∧ data'.realCreateGrants.length = data.realCreateGrants.length := by
  obtain ⟨_, _, _, rfl⟩ | ⟨_, _, _, _, rfl⟩ | ⟨_, _, _, _, rfl⟩ := consumeCreateAuthority_ok h
  · exact ⟨rfl, rfl, rfl, rfl, rfl⟩
  · exact ⟨rfl, rfl, rfl, rfl, rfl⟩
  · exact ⟨rfl, rfl, rfl, rfl, List.length_modify ..⟩

/-- The lease is held by this lobby at this generation. -/
def Leased (data : StoreData) (holder : LobbyId) (generation : UInt64) : Prop :=
  ∃ lease, data.realLobbyLease = some lease ∧ lease.holderLobbyId = holder
    ∧ lease.networkGeneration = generation

/-- A create under a lease, or under the quarantine, files no real lobby. -/
theorem no_real_created (h : data.realLobbyLease.isSome ∨ data.realCreationQuarantined = true)
    {lobby : StoredLobby} (hcreated : (data.createInData call).1 = .ok (.created lobby)) :
    lobby.dryRun = true := by
  rcases createInData_cases data call with ⟨answer, hanswer, hnone⟩ | ⟨reserved, hreserve, -, -, hanswer⟩
  · exact absurd ((congrArg Prod.fst hanswer).symm.trans hcreated) (hnone lobby)
  · rw [hanswer] at hcreated
    cases hcreated
    by_contra hreal
    rw [if_neg hreal] at hreserve
    obtain ⟨hquarantined, hlease, -⟩ := reserveReal_ok hreserve
    -- the purge touches neither
    have hlease : data.realLobbyLease = none := hlease
    have hquarantined : data.realCreationQuarantined = false := hquarantined
    simp [hlease, hquarantined] at h

end StoreData

/-- A replace of the holder at the leased generation, with a released lifecycle and its proof. -/
def StoreStep.ReleasesLease (holder : LobbyId) (generation : UInt64) : StoreStep → Prop
  | .replace lobby => lobby.lobby.lobbyId = holder ∧ lobby.networkGeneration = generation
      ∧ leaseReleaseLifecycle lobby.networkLifecycle = true ∧ lobby.hasReleaseProof = true
  | _ => False

/-- The step files this record as a new real lobby. -/
def StoreData.CreatesReal (data : StoreData) (step : StoreStep) (lobby : StoredLobby) : Prop :=
  (data.step step).1 = .create (.ok (.created lobby)) ∧ lobby.dryRun = false

namespace StoreData

variable {data : StoreData} {step : StoreStep} {holder : LobbyId} {generation : UInt64}

theorem moveLease_kept {lobby : StoredLobby} (h : data.Leased holder generation)
    (hkeep : ¬(StoreStep.replace lobby).ReleasesLease holder generation) :
    (data.moveLease lobby).Leased holder generation := by
  obtain ⟨lease, hlease, hholder, hgeneration⟩ := h
  unfold moveLease
  dsimp only
  rw [hlease, Option.filter_some]
  by_cases hsame : lease.holderLobbyId = lobby.lobby.lobbyId
  · rw [if_pos (beq_iff_eq.mpr hsame)]
    dsimp only
    by_cases hother : lease.networkGeneration ≠ lobby.networkGeneration
    · rw [if_pos hother]
      exact ⟨lease, rfl, hholder, hgeneration⟩
    · rw [if_neg hother]
      by_cases hrelease : lobby.releases = true
      · -- the one way out: a proven release at the leased generation
        obtain ⟨hlifecycle, hproof⟩ := Bool.and_eq_true_iff.mp hrelease
        exact absurd ⟨hsame.symm.trans hholder, (not_not.mp hother).symm.trans hgeneration,
          hlifecycle, hproof⟩ hkeep
      · rw [if_neg hrelease]
        exact ⟨_, rfl, hholder, hgeneration⟩
  · rw [if_neg (by simpa using hsame)]
    dsimp only
    split_ifs
    · exact ⟨lease, rfl, hholder, hgeneration⟩
    · exact ⟨lease, hlease, hholder, hgeneration⟩

theorem normalizeLoadedStore_kept (h : data.Leased holder generation) :
    data.normalizeLoadedStore.2.Leased holder generation := by
  obtain ⟨lease, hlease, hholder, hgeneration⟩ := h
  unfold normalizeLoadedStore
  dsimp only
  rw [hlease]
  dsimp only
  split_ifs
  · exact ⟨lease, rfl, hholder, hgeneration⟩
  · exact ⟨lease, rfl, hholder, hgeneration⟩

/-- **Only a proven release clears the lease.** -/
theorem lease_kept (h : data.Leased holder generation)
    (hkeep : ¬(step.ReleasesLease holder generation ∧ (data.step step).1 = .done (.ok ()))) :
    (data.step step).2.Leased holder generation := by
  cases step with
  | create call =>
    change (data.createInData call).2.Leased holder generation
    rcases createInData_cases data call with ⟨_, hanswer, -⟩ | ⟨reserved, hreserve, -, -, hanswer⟩
    · rw [hanswer]
      exact h
    · have hcreated : (data.createInData call).1 = .ok (.created call.lobby) := by rw [hanswer]
      obtain ⟨lease, hlease, -⟩ := id h
      have hdry := no_real_created (.inl (by rw [hlease]; rfl)) hcreated
      rw [if_pos hdry] at hreserve
      cases hreserve
      rw [hanswer]
      exact h
  | replace lobby =>
    change (data.replaceInData lobby).2.Leased holder generation
    have hanswer : (data.step (.replace lobby)).1 = .done (data.replaceInData lobby).1 := rfl
    rw [hanswer] at hkeep
    unfold replaceInData at hkeep ⊢
    by_cases hknown : data.lobbies.contains lobby.lobby.lobbyId = true
    · rw [if_pos hknown] at hkeep ⊢
      exact moveLease_kept h fun hrelease => hkeep ⟨hrelease, rfl⟩
    · rw [if_neg hknown]
      exact h
  | reopen => exact normalizeLoadedStore_kept h
  | cleanupExpired now => exact h
  | quarantineRealCreation => exact h
  | issueRealCreateGrant verifier expiresAt =>
    change (data.issueRealCreateGrant verifier expiresAt).2.Leased holder generation
    unfold issueRealCreateGrant
    split_ifs
    · exact h
    · exact h
  | installLocalRehearsalReceipt q =>
    change (data.installRehearsalInData q).2.Leased holder generation
    unfold installRehearsalInData
    split_ifs
    · exact h
    · exact h
  | installProtectedAlphaReceipt q =>
    change (data.installAlphaInData q).2.Leased holder generation
    unfold installAlphaInData
    split_ifs
    · exact h
    · exact h

theorem CreatesReal.leased {lobby : StoredLobby} (h : data.CreatesReal step lobby) :
    (data.step step).2.Leased lobby.lobby.lobbyId lobby.networkGeneration := by
  obtain ⟨hcreated, hreal⟩ := h
  cases step with
  | create call =>
    have hcreated : (data.createInData call).1 = .ok (.created lobby) := by injection hcreated
    change (data.createInData call).2.Leased _ _
    rcases createInData_cases data call with ⟨answer, hanswer, hnone⟩ | ⟨reserved, hreserve, -, -, hanswer⟩
    · exact absurd ((congrArg Prod.fst hanswer).symm.trans hcreated) (hnone lobby)
    · rw [hanswer] at hcreated
      cases hcreated
      rw [if_neg (by rw [hreal]; exact Bool.false_ne_true)] at hreserve
      obtain ⟨-, -, candidate, consumed, -, -, lease, hholder, hgeneration, rfl⟩ :=
        reserveReal_ok hreserve
      rw [hanswer]
      exact ⟨lease, rfl, hholder, hgeneration⟩
  | _ => exact nomatch hcreated

theorem not_createsReal (h : data.realLobbyLease.isSome ∨ data.realCreationQuarantined = true)
    (lobby : StoredLobby) : ¬data.CreatesReal step lobby := by
  rintro ⟨hcreated, hreal⟩
  cases step with
  | create call =>
    have hcreated : (data.createInData call).1 = .ok (.created lobby) := by injection hcreated
    exact Bool.false_ne_true (hreal.symm.trans (no_real_created h hcreated))
  | _ => exact nomatch hcreated

theorem moveLease_quarantine {lobby : StoredLobby} (h : data.realCreationQuarantined = true) :
    (data.moveLease lobby).realCreationQuarantined = true := by
  unfold moveLease
  dsimp only
  cases data.realLobbyLease.filter (·.holderLobbyId == lobby.lobby.lobbyId) with
  | some lease =>
    dsimp only
    split_ifs
    · rfl
    · exact h
    · exact Bool.or_eq_true_iff.mpr (.inl h)
  | none =>
    dsimp only
    split_ifs
    · rfl
    · exact h

theorem normalizeLoadedStore_quarantine (h : data.realCreationQuarantined = true) :
    data.normalizeLoadedStore.2.realCreationQuarantined = true := by
  unfold normalizeLoadedStore
  dsimp only
  split
  · exact h
  · split
    · exact h
    · split_ifs
      · exact h
      · rfl
  · split_ifs
    · exact h
    · rfl

/-- **The quarantine is never lifted.** -/
theorem quarantine_kept (h : data.realCreationQuarantined = true) :
    (data.step step).2.realCreationQuarantined = true := by
  cases step with
  | create call =>
    change (data.createInData call).2.realCreationQuarantined = true
    rcases createInData_cases data call with ⟨_, hanswer, -⟩ | ⟨reserved, hreserve, -, -, hanswer⟩
    · rw [hanswer]
      exact h
    · have hcreated : (data.createInData call).1 = .ok (.created call.lobby) := by rw [hanswer]
      rw [if_pos (no_real_created (.inr h) hcreated)] at hreserve
      cases hreserve
      rw [hanswer]
      exact h
  | replace lobby =>
    change (data.replaceInData lobby).2.realCreationQuarantined = true
    unfold replaceInData
    split_ifs
    · exact moveLease_quarantine h
    · exact h
  | reopen => exact normalizeLoadedStore_quarantine h
  | cleanupExpired now => exact h
  | quarantineRealCreation => rfl
  | issueRealCreateGrant verifier expiresAt =>
    change (data.issueRealCreateGrant verifier expiresAt).2.realCreationQuarantined = true
    unfold issueRealCreateGrant
    split_ifs
    · exact h
    · exact h
  | installLocalRehearsalReceipt q =>
    change (data.installRehearsalInData q).2.realCreationQuarantined = true
    unfold installRehearsalInData
    split_ifs
    · exact h
    · exact h
  | installProtectedAlphaReceipt q =>
    change (data.installAlphaInData q).2.realCreationQuarantined = true
    unfold installAlphaInData
    split_ifs
    · exact h
    · exact h

end StoreData

end Spurfire
