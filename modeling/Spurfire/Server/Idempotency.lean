import Spurfire.Server.Lease

/-!
# Create idempotency

A replay row answers retries of its create for 24 hours, as long as its lobby is still stored:

* `keepsYoungRows` says when a purge keeps the lobbies of the rows inside the window;
* `Answers` is a row that can still answer, kept by every step of a run on a clock that does not
  run back (`answers_kept`);
* `purge_consistent` is why a row never outlives its lobby;
* `create_idempotent` is the run result, `created_twice_within_the_window` the run that breaks it.
-/

namespace Spurfire

namespace StoreData

/-- A purge at `now` keeps the lobby of every replay row younger than the retention window: the
lobby holds the lease, or its own retention is not over. -/
def keepsYoungRows (data : StoreData) (now : UnixMillis) : Bool :=
  data.createReplays.toList.all fun (_, replay) =>
    StoredLobby.ageAtLeast now replay.createdAt IDEMPOTENCY_RETENTION_MS
      || (data.lobbies[replay.lobbyId]?).all fun record =>
        data.holdsLease replay.lobbyId || !record.retentionOver now

/-- The row is stored with its lobby. -/
structure Answers (data : StoreData) (key : String) (replay : CreateReplay) : Prop where
  row : data.createReplays[key]? = some replay
  stored : replay.lobbyId ∈ data.lobbies

/-- Every record is filed under its own identifier. -/
def Keyed (data : StoreData) : Prop :=
  ∀ (id : LobbyId) (record : StoredLobby), data.lobbies[id]? = some record →
    record.lobby.lobbyId = id

end StoreData

/-- The service time a step carries. -/
def StoreStep.time : StoreStep → Option UnixMillis
  | .create call => some call.now
  | .cleanupExpired now => some now
  | _ => none

/-- The purge of the step, if it has one, keeps the lobbies of young rows. -/
def StoreStep.KeepsYoungRows (data : StoreData) (s : StoreStep) : Prop :=
  s.time.all data.keepsYoungRows = true

instance (data : StoreData) (s : StoreStep) : Decidable (StoreStep.KeepsYoungRows data s) :=
  inferInstanceAs (Decidable (_ = true))

namespace StoreData

variable {data : StoreData} {key : String} {replay : CreateReplay} {now : UnixMillis}

/-! ## The purge -/

theorem getElem?_purge_lobbies (id : LobbyId) : (data.purgeRetained now).lobbies[id]?
    = (data.lobbies[id]?.map fun record => record.purgeRecord now).filter fun record =>
        data.holdsLease id || !record.retentionOver now := by
  change ((data.lobbies.map fun _ record => record.purgeRecord now).filter _)[id]? = _
  rw [Std.ExtTreeMap.getElem?_filter', Std.ExtTreeMap.getElem?_map]

/-- The purge of a record leaves its own retention alone. -/
theorem retentionOver_purgeRecord (record : StoredLobby) :
    (record.purgeRecord now).retentionOver now = record.retentionOver now := rfl

theorem mem_purge_lobbies {id : LobbyId} : id ∈ (data.purgeRetained now).lobbies
    ↔ ∃ record, data.lobbies[id]? = some record
      ∧ (data.holdsLease id || !record.retentionOver now) = true := by
  rw [Std.ExtTreeMap.mem_iff_isSome_getElem?, getElem?_purge_lobbies]
  cases data.lobbies[id]? with
  | none => simp
  | some record =>
    rw [Option.map_some, Option.filter_some, retentionOver_purgeRecord]
    by_cases hkeep : (data.holdsLease id || !record.retentionOver now) = true
    · rw [if_pos hkeep]
      exact iff_of_true rfl ⟨record, rfl, hkeep⟩
    · rw [if_neg hkeep]
      refine iff_of_false nofun ?_
      rintro ⟨_, hrecord, hkept⟩
      cases hrecord
      exact hkeep hkept

theorem getElem?_purge_replays (key : String) : (data.purgeRetained now).createReplays[key]?
    = (data.createReplays[key]?).filter fun replay =>
        !StoredLobby.ageAtLeast now replay.createdAt IDEMPOTENCY_RETENTION_MS
          && (data.purgeRetained now).lobbies.contains replay.lobbyId :=
  Std.ExtTreeMap.getElem?_filter'

/-- No row outlives its lobby in a purge. -/
theorem purge_consistent (h : (data.purgeRetained now).createReplays[key]? = some replay) :
    ∃ record, (data.purgeRetained now).lobbies[replay.lobbyId]? = some record := by
  rw [getElem?_purge_replays, Option.filter_eq_some_iff, Bool.and_eq_true] at h
  exact Option.isSome_iff_exists.mp (Std.ExtTreeMap.mem_iff_isSome_getElem?.mp
    (Std.ExtTreeMap.mem_iff_contains.mpr h.2.2))

theorem Answers.purge (h : data.Answers key replay)
    (hyoung : StoredLobby.ageAtLeast now replay.createdAt IDEMPOTENCY_RETENTION_MS = false)
    (hkeep : data.keepsYoungRows now = true) : (data.purgeRetained now).Answers key replay := by
  obtain ⟨record, hrecord⟩ := Option.isSome_iff_exists.mp
    (Std.ExtTreeMap.mem_iff_isSome_getElem?.mp h.stored)
  have hrow := List.all_eq_true.mp hkeep (key, replay)
    (Std.ExtTreeMap.mem_toList_iff_getElem?_eq_some.mpr h.row)
  dsimp only at hrow
  rw [hyoung, Bool.false_or, hrecord, Option.all_some] at hrow
  have hstored : replay.lobbyId ∈ (data.purgeRetained now).lobbies :=
    mem_purge_lobbies.mpr ⟨record, hrecord, hrow⟩
  refine ⟨?_, hstored⟩
  rw [getElem?_purge_replays, h.row, Option.filter_some, hyoung,
    Std.ExtTreeMap.mem_iff_contains.mp hstored]
  rfl

theorem Keyed.purge (h : data.Keyed) : (data.purgeRetained now).Keyed := by
  intro id record hrecord
  rw [getElem?_purge_lobbies, Option.filter_eq_some_iff] at hrecord
  obtain ⟨old, hold, rfl⟩ := Option.map_eq_some_iff.mp hrecord.1
  exact h id old hold

/-! ## Every step -/

theorem applyTimeTransitions_lobbyId (record : StoredLobby) :
    (record.applyTimeTransitions now).1.lobby.lobbyId = record.lobby.lobbyId := by
  unfold StoredLobby.applyTimeTransitions
  split
  · rfl
  · split
    · rfl
    · rfl

theorem normalizeRecord_lobbyId (record : StoredLobby) :
    (normalizeRecord record).1.lobby.lobbyId = record.lobby.lobbyId := by
  unfold normalizeRecord
  by_cases hactive : activeReal record = true
  · rw [if_pos hactive]
    by_cases hzero : record.networkGeneration = 0
    · rw [if_pos hzero]
      dsimp only
      split_ifs
      · rfl
      · rfl
    · rw [if_neg hzero]
      dsimp only
      split_ifs
      · rfl
      · rfl
  · rw [if_neg hactive]

theorem moveLease_rows (data : StoreData) (lobby : StoredLobby) :
    (data.moveLease lobby).lobbies = data.lobbies
      ∧ (data.moveLease lobby).createReplays = data.createReplays := by
  unfold moveLease
  dsimp only
  cases data.realLobbyLease.filter (·.holderLobbyId == lobby.lobby.lobbyId) with
  | some lease =>
    dsimp only
    split_ifs
    · exact ⟨rfl, rfl⟩
    · exact ⟨rfl, rfl⟩
    · exact ⟨rfl, rfl⟩
  | none =>
    dsimp only
    split_ifs
    · exact ⟨rfl, rfl⟩
    · exact ⟨rfl, rfl⟩

theorem normalizeLoadedStore_rows (data : StoreData) :
    data.normalizeLoadedStore.2.lobbies = data.lobbies.map (fun _ r => (normalizeRecord r).1)
      ∧ data.normalizeLoadedStore.2.createReplays = data.createReplays := by
  unfold normalizeLoadedStore
  dsimp only
  split
  · exact ⟨rfl, rfl⟩
  · split
    · exact ⟨rfl, rfl⟩
    · split_ifs
      · exact ⟨rfl, rfl⟩
      · exact ⟨rfl, rfl⟩
  · split_ifs
    · exact ⟨rfl, rfl⟩
    · exact ⟨rfl, rfl⟩

/-- The image a step works on: purged where the step carries a time. -/
def started (data : StoreData) (s : StoreStep) : StoreData :=
  s.time.elim data data.purgeRetained

/-- The records after a step come one by one from those before, and the rows are the same. -/
def RewritesRecords (data data' : StoreData) : Prop :=
  data'.createReplays = data.createReplays
    ∧ ∃ f : StoredLobby → StoredLobby, (∀ r, (f r).lobby.lobbyId = r.lobby.lobbyId)
      ∧ ∀ id : LobbyId, data'.lobbies[id]? = data.lobbies[id]?.map f

theorem RewritesRecords.refl (data : StoreData) : data.RewritesRecords data :=
  ⟨rfl, id, fun _ => rfl, fun _ => (Option.map_id_fun ▸ rfl)⟩

/-- A step rewrites records in place, replaces one, or files a new one under a new row. -/
theorem step_rows (data : StoreData) (s : StoreStep) :
    (data.started s).RewritesRecords (data.step s).2
      ∨ (∃ lobby, s = .replace lobby ∧ lobby.lobby.lobbyId ∈ data.lobbies
        ∧ (data.step s).2.createReplays = data.createReplays
        ∧ (data.step s).2.lobbies = data.lobbies.insert lobby.lobby.lobbyId lobby)
      ∨ ∃ call, s = .create call
        ∧ (data.purgeRetained call.now).createReplays[call.idempotencyKey]? = none
        ∧ (data.step s).2.createReplays
          = (data.purgeRetained call.now).createReplays.insert call.idempotencyKey
            ⟨call.fingerprint, call.lobby.lobby.lobbyId, call.actor, call.now⟩
        ∧ (data.step s).2.lobbies
          = (data.purgeRetained call.now).lobbies.insert call.lobby.lobby.lobbyId call.lobby := by
  cases s with
  | create call =>
    change (data.purgeRetained call.now).RewritesRecords (data.createInData call).2 ∨ _
    rcases createInData_cases data call with
      ⟨answer, hanswer, -⟩ | ⟨reserved, hreserve, hfresh, -, hanswer⟩
    · rw [hanswer]
      exact .inl (RewritesRecords.refl _)
    · refine .inr (.inr ⟨call, rfl, hfresh, ?_⟩)
      change (data.createInData call).2.createReplays = _ ∧ (data.createInData call).2.lobbies = _
      rw [hanswer]
      have hkept : reserved.lobbies = (data.purgeRetained call.now).lobbies
          ∧ reserved.createReplays = (data.purgeRetained call.now).createReplays := by
        split_ifs at hreserve
        · cases hreserve
          exact ⟨rfl, rfl⟩
        · obtain ⟨-, -, candidate, consumed, -, hconsume, lease, -, -, rfl⟩ :=
            reserveReal_ok hreserve
          obtain ⟨-, -, hlobbies, hreplays, -⟩ := consume_keeps hconsume
          exact ⟨hlobbies, hreplays⟩
      unfold insertCreated
      dsimp only
      rw [hkept.1, hkept.2]
      exact ⟨rfl, rfl⟩
  | replace lobby =>
    change data.RewritesRecords (data.replaceInData lobby).2 ∨ _
    by_cases hknown : data.lobbies.contains lobby.lobby.lobbyId = true
    · refine .inr (.inl ⟨lobby, rfl, Std.ExtTreeMap.mem_iff_contains.mpr hknown, ?_⟩)
      change (data.replaceInData lobby).2.createReplays = _
        ∧ (data.replaceInData lobby).2.lobbies = _
      unfold replaceInData
      rw [if_pos hknown]
      obtain ⟨hlobbies, hreplays⟩ := moveLease_rows
        { data with lobbies := data.lobbies.insert lobby.lobby.lobbyId lobby } lobby
      exact ⟨hreplays, hlobbies⟩
    · unfold replaceInData
      rw [if_neg hknown]
      exact .inl (RewritesRecords.refl data)
  | cleanupExpired now =>
    exact .inl ⟨rfl, fun r => (r.applyTimeTransitions now).1, applyTimeTransitions_lobbyId,
      fun id => Std.ExtTreeMap.getElem?_map⟩
  | reopen =>
    obtain ⟨hlobbies, hreplays⟩ := normalizeLoadedStore_rows data
    refine .inl ⟨hreplays, fun r => (normalizeRecord r).1, normalizeRecord_lobbyId, fun id => ?_⟩
    change data.normalizeLoadedStore.2.lobbies[id]? = _
    rw [hlobbies]
    exact Std.ExtTreeMap.getElem?_map
  | quarantineRealCreation => exact .inl (RewritesRecords.refl data)
  | issueRealCreateGrant verifier expiresAt =>
    change data.RewritesRecords (data.issueRealCreateGrant verifier expiresAt).2 ∨ _
    unfold issueRealCreateGrant
    split_ifs
    · exact .inl (RewritesRecords.refl data)
    · exact .inl (RewritesRecords.refl data)
  | installLocalRehearsalReceipt q =>
    change data.RewritesRecords (data.installRehearsalInData q).2 ∨ _
    unfold installRehearsalInData
    split_ifs
    · exact .inl (RewritesRecords.refl data)
    · exact .inl (RewritesRecords.refl data)
  | installProtectedAlphaReceipt q =>
    change data.RewritesRecords (data.installAlphaInData q).2 ∨ _
    unfold installAlphaInData
    split_ifs
    · exact .inl (RewritesRecords.refl data)
    · exact .inl (RewritesRecords.refl data)

/-! ## Records under their own identifiers -/

theorem keyed_insert (h : data.Keyed) {data' : StoreData} {lobby : StoredLobby}
    (hlobbies : data'.lobbies = data.lobbies.insert lobby.lobby.lobbyId lobby) : data'.Keyed := by
  intro id record hrecord
  rw [hlobbies, Std.ExtTreeMap.getElem?_insert] at hrecord
  split_ifs at hrecord with heq
  · cases hrecord
    exact compare_eq_iff_eq.mp heq
  · exact h id record hrecord

theorem Keyed.started (h : data.Keyed) (s : StoreStep) : (data.started s).Keyed := by
  unfold StoreData.started
  cases s.time with
  | none => exact h
  | some now => exact h.purge

theorem Keyed.step (h : data.Keyed) (s : StoreStep) : (data.step s).2.Keyed := by
  rcases step_rows data s with
    ⟨-, f, hf, hlobbies⟩ | ⟨lobby, -, -, -, hlobbies⟩ | ⟨call, -, -, -, hlobbies⟩
  · intro id record hrecord
    rw [hlobbies] at hrecord
    obtain ⟨old, hold, rfl⟩ := Option.map_eq_some_iff.mp hrecord
    exact (hf old).trans (h.started s id old hold)
  · exact keyed_insert h hlobbies
  · exact keyed_insert h.purge hlobbies

theorem keyed_empty (instanceId path : Digest) : (empty instanceId path).Keyed := by
  intro id record hrecord
  change (∅ : Std.ExtTreeMap LobbyId StoredLobby)[id]? = some record at hrecord
  rw [Std.ExtTreeMap.getElem?_empty] at hrecord
  exact nomatch hrecord

/-! ## Rows that answer -/

theorem Answers.started (h : data.Answers key replay) {s : StoreStep}
    (hkeep : s.KeepsYoungRows data) (hyoung : ∀ now, s.time = some now →
      StoredLobby.ageAtLeast now replay.createdAt IDEMPOTENCY_RETENTION_MS = false) :
    (data.started s).Answers key replay := by
  unfold StoreData.started
  unfold StoreStep.KeepsYoungRows at hkeep
  cases htime : s.time with
  | none => exact h
  | some now =>
    rw [htime] at hkeep
    exact h.purge (hyoung now htime) hkeep

/-- A row inside the window keeps answering. -/
theorem Answers.step (h : data.Answers key replay) {s : StoreStep}
    (hkeep : s.KeepsYoungRows data) (hyoung : ∀ now, s.time = some now →
      StoredLobby.ageAtLeast now replay.createdAt IDEMPOTENCY_RETENTION_MS = false) :
    (data.step s).2.Answers key replay := by
  have hstart := h.started hkeep hyoung
  rcases step_rows data s with ⟨hreplays, f, -, hlobbies⟩
    | ⟨lobby, rfl, -, hreplays, hlobbies⟩ | ⟨call, rfl, hfresh, hreplays, hlobbies⟩
  · refine ⟨hreplays ▸ hstart.row, ?_⟩
    rw [Std.ExtTreeMap.mem_iff_isSome_getElem?, hlobbies, Option.isSome_map]
    exact Std.ExtTreeMap.mem_iff_isSome_getElem?.mp hstart.stored
  · refine ⟨hreplays ▸ h.row, ?_⟩
    rw [hlobbies]
    exact Std.ExtTreeMap.mem_insert.mpr (.inr h.stored)
  · have hstart : (data.purgeRetained call.now).Answers key replay := hstart
    refine ⟨?_, ?_⟩
    · rw [hreplays, Std.ExtTreeMap.getElem?_insert, if_neg, hstart.row]
      -- the new row's key had no row
      intro heq
      rw [Std.LawfulEqCmp.eq_of_compare heq] at hfresh
      exact nomatch hstart.row.symm.trans hfresh
    · rw [hlobbies]
      exact Std.ExtTreeMap.mem_insert.mpr (.inr hstart.stored)

theorem answers_kept (h : data.Answers key replay) {steps : List StoreStep} {last : UnixMillis}
    (hkeep : Runs.Along step StoreStep.KeepsYoungRows data steps)
    (hclock : ∀ s ∈ steps, ∀ now, s.time = some now → now ≤ last)
    (hyoung : StoredLobby.ageAtLeast last replay.createdAt IDEMPOTENCY_RETENTION_MS = false) :
    (Runs.run step data steps).Answers key replay :=
  Runs.run_invariant_along (P := fun d => d.Answers key replay)
    (fun _ _ hs h => h.step hs.1 fun now htime =>
      StoredLobby.ageAtLeast_mono (hs.2 now htime) hyoung) h (hkeep.and_forall hclock)

/-- What a create leaves behind is a row that answers. -/
theorem answers_of_created {call : CreateCall} {lobby : StoredLobby}
    (h : (data.createInData call).1 = .ok (.created lobby)) : lobby = call.lobby ∧
      (data.createInData call).2.Answers call.idempotencyKey
        ⟨call.fingerprint, lobby.lobby.lobbyId, call.actor, call.now⟩ := by
  rcases createInData_cases data call with ⟨answer, hanswer, hnone⟩ | ⟨reserved, -, -, -, hanswer⟩
  · exact absurd ((congrArg Prod.fst hanswer).symm.trans h) (hnone lobby)
  · rw [hanswer] at h ⊢
    cases h
    exact ⟨rfl, Std.ExtTreeMap.getElem?_insert_self, Std.ExtTreeMap.mem_insert_self⟩

/-- A row that still answers after the purge answers its create. -/
theorem Answers.replayed {call : CreateCall}
    (h : (data.purgeRetained call.now).Answers call.idempotencyKey replay) (hdata : data.Keyed)
    (hfingerprint : replay.fingerprint = call.fingerprint) (hactor : replay.actor = call.actor) :
    ∃ record, record.lobby.lobbyId = replay.lobbyId
      ∧ (data.createInData call).1 = .ok (.replay record) := by
  obtain ⟨record, hrecord⟩ := Option.isSome_iff_exists.mp
    (Std.ExtTreeMap.mem_iff_isSome_getElem?.mp h.stored)
  have hkeyed : (data.purgeRetained call.now).Keyed := hdata.purge
  refine ⟨record, hkeyed _ record hrecord, ?_⟩
  unfold createInData
  dsimp only
  rw [h.row]
  dsimp only
  rw [if_neg (by rw [hfingerprint, hactor]; simp), hrecord]

theorem consumeCreateAuthority_error {call : CreateCall} {candidate : Digest} {error : StoreError}
    (h : data.consumeCreateAuthority call candidate = .error error) :
    error = .invalidRehearsalReceipt ∨ error = .invalidCreateGrant := by
  unfold consumeCreateAuthority at h
  dsimp only at h
  split at h
  · split_ifs at h
    cases h
    exact .inl rfl
  · split at h
    · split_ifs at h
      cases h
      exact .inl rfl
    · split at h
      · cases h
        exact .inr rfl
      · exact nomatch h

/-- A refused reservation names its own reasons. -/
theorem reserveReal_error {call : CreateCall} {error : StoreError}
    (h : data.reserveReal call = .error error) : error ≠ .inconsistentIdempotency := by
  unfold reserveReal at h
  split_ifs at h
  · cases h
    exact nofun
  · cases h
    exact nofun
  · split at h
    · cases h
      exact nofun
    · split at h
      · next hconsume =>
        cases h
        rcases consumeCreateAuthority_error hconsume with rfl | rfl
        · exact nofun
        · exact nofun
      · exact nomatch h

theorem createFresh_consistent (data : StoreData) (call : CreateCall) :
    (data.createFresh call).1 ≠ .error .inconsistentIdempotency := by
  unfold createFresh
  by_cases hfull : MAX_STORED_LOBBIES ≤ data.lobbies.size
      ∨ MAX_CREATE_REPLAYS ≤ data.createReplays.size
  · rw [if_pos hfull]
    exact fun h => nomatch h
  rw [if_neg hfull]
  by_cases hknown : data.lobbies.contains call.lobby.lobby.lobbyId = true
  · rw [if_pos hknown]
    exact fun h => nomatch h
  rw [if_neg hknown]
  cases hreserve : (if call.lobby.dryRun then Except.ok data else data.reserveReal call) with
  | ok reserved => exact fun h => nomatch h
  | error error =>
    intro h
    have herror : error = .inconsistentIdempotency := by injection h
    split_ifs at hreserve
    exact reserveReal_error hreserve herror

/-- Replay resolution always finds the lobby of its row. -/
theorem createInData_consistent (data : StoreData) (call : CreateCall) :
    (data.createInData call).1 ≠ .error .inconsistentIdempotency := by
  unfold createInData
  dsimp only
  cases hrow : (data.purgeRetained call.now).createReplays[call.idempotencyKey]? with
  | none => exact createFresh_consistent _ call
  | some replay =>
    obtain ⟨record, hrecord⟩ := purge_consistent hrow
    dsimp only
    rw [hrecord]
    split_ifs
    · exact fun h => nomatch h
    · exact fun h => nomatch h

end StoreData

/-! ## Every run -/

open StoreData (step)

/-- **One lobby per create.**  In every run of an empty store whose clock does not run back, and
whose purges keep the lobbies of the rows inside the window, a create that is retried within
`IDEMPOTENCY_RETENTION_MS` is answered by a replay of its lobby; no create finds a row without its
lobby. -/
theorem create_idempotent (instanceId path : Digest) (steps : List StoreStep)
    (clock : (steps.filterMap StoreStep.time).Pairwise (· ≤ ·))
    (keeps : Runs.Along step StoreStep.KeepsYoungRows (.empty instanceId path) steps) :
    (∀ before call mid retry after first,
        steps = before ++ .create call :: (mid ++ .create retry :: after) →
        ((Runs.run step (.empty instanceId path) before).createInData call).1
          = .ok (.created first) →
        retry.idempotencyKey = call.idempotencyKey → retry.fingerprint = call.fingerprint →
        retry.actor = call.actor →
        retry.now.toNat < call.now.toNat + IDEMPOTENCY_RETENTION_MS.toNat →
        ∃ record, record.lobby.lobbyId = first.lobby.lobbyId
          ∧ ((Runs.run step (.empty instanceId path)
              (before ++ .create call :: mid)).createInData retry).1 = .ok (.replay record))
      ∧ ∀ before call after, steps = before ++ .create call :: after →
        ((Runs.run step (.empty instanceId path) before).createInData call).1
          ≠ .error .inconsistentIdempotency := by
  refine ⟨?_, fun before call after _ => StoreData.createInData_consistent _ call⟩
  rintro before call mid retry after first rfl hcreated hkey hfingerprint hactor hwithin
  -- inside the window at the retry, hence at every step before it
  have hyoung : StoredLobby.ageAtLeast retry.now call.now IDEMPOTENCY_RETENTION_MS = false := by
    rw [← Bool.not_eq_true, StoredLobby.ageAtLeast_iff]
    exact hwithin.not_ge
  have hclock : ∀ s ∈ mid, ∀ now, s.time = some now → now ≤ retry.now := by
    intro s hs now hnow
    have hhead : StoreStep.time (.create call) = some call.now := rfl
    rw [List.filterMap_append, List.pairwise_append, List.filterMap_cons_some hhead,
      List.pairwise_cons, List.filterMap_append, List.pairwise_append] at clock
    exact clock.2.1.2.2.2 now (List.mem_filterMap.mpr ⟨s, hs, hnow⟩) retry.now
      (List.mem_filterMap.mpr ⟨_, List.mem_cons_self, rfl⟩)
  obtain ⟨-, -, hrest⟩ := Runs.Along.append.mp keeps
  obtain ⟨hmid, hretry, -⟩ := Runs.Along.append.mp hrest
  obtain ⟨-, hanswers⟩ := StoreData.answers_of_created hcreated
  have hkept := StoreData.answers_kept hanswers hmid hclock hyoung
  have hkeyed := Runs.run_invariant (P := StoreData.Keyed) (fun _ s h => h.step s)
    (StoreData.keyed_empty instanceId path) (before ++ .create call :: mid)
  rw [Runs.run_append, Runs.run_cons] at hkeyed ⊢
  have hpurged := hkept.purge hyoung hretry
  rw [← hkey] at hpurged
  exact hpurged.replayed hkeyed hfingerprint.symm hactor.symm

/-! ## A failed lobby -/

/-- A dry-run create of the lobby `id` at `now`, under one key and by one creator. -/
def dryRunCreate (id : LobbyId) (now : UnixMillis) : CreateCall where
  idempotencyKey := "create-1"
  fingerprint := [1]
  actor := .ofTail 1
  now := now
  lobby := .new {
    lobbyId := id
    state := .provisioning
    stateReason := none
    roster := []
    maxPlayers := 2
    mapSeed := none
    authority := none
    ttl := ⟨now + IDLE_TTL_MS, now + ABSOLUTE_TTL_MS⟩
    provisioningMode := .dryRun
    createdAt := now } (.ofTail 1) "tailnet" "tag" true IDLE_TTL_MS
  realCreateGrant := none
  allowNewReal := false

/-- The record of `dryRunCreate` once its provisioning has failed. -/
def dryRunFailed (id : LobbyId) (now : UnixMillis) : StoredLobby :=
  let stored := (dryRunCreate id now).lobby
  { stored with
    lobby := { stored.lobby with state := .failed, stateReason := some "provider_unavailable" }
    terminalAt := some now }

/-- A retry one hour after the create, with a purge in between. -/
theorem create_idempotent_replay :
    ∃ record, record.lobby.lobbyId = .ofTail 7
      ∧ ((Runs.run step (.empty (Vector.replicate 32 0) (Vector.replicate 32 0))
          [.create (dryRunCreate (.ofTail 7) 0), .cleanupExpired 1800000]).createInData
            (dryRunCreate (.ofTail 8) 3600000)).1 = .ok (.replay record) :=
  (create_idempotent (Vector.replicate 32 0) (Vector.replicate 32 0)
    [.create (dryRunCreate (.ofTail 7) 0), .cleanupExpired 1800000,
      .create (dryRunCreate (.ofTail 8) 3600000)]
    (by decide +kernel) (by decide +kernel)).1 [] (dryRunCreate (.ofTail 7) 0)
    [.cleanupExpired 1800000] (dryRunCreate (.ofTail 8) 3600000) [] _ rfl rfl rfl rfl rfl
    (by decide)

def filed : Except StoreError CreateStoreOutcome → Option StoredLobby
  | .ok (.created lobby) => some lobby
  | _ => none

theorem filed_isSome {answer : Except StoreError CreateStoreOutcome}
    (h : (filed answer).isSome = true) : ∃ lobby, answer = .ok (.created lobby) := by
  rcases answer with error | lobby | lobby | _
  · exact nomatch h
  · exact ⟨lobby, rfl⟩
  · exact nomatch h
  · exact nomatch h

/-- A lobby that fails at once leaves after 15 minutes with its row, and the retry creates again. -/
theorem created_twice_within_the_window :
    let steps : List StoreStep :=
      [.create (dryRunCreate (.ofTail 7) 0),
        .replace (dryRunFailed (.ofTail 7) 0)]
    (steps.filterMap StoreStep.time).Pairwise (· ≤ ·)
      ∧ (∃ first, ((StoreData.empty (Vector.replicate 32 0) (Vector.replicate 32 0)).createInData
          (dryRunCreate (.ofTail 7) 0)).1 = .ok (.created first))
      ∧ (∃ second, ((Runs.run step (.empty (Vector.replicate 32 0) (Vector.replicate 32 0))
          steps).createInData (dryRunCreate (.ofTail 8) 900000)).1
        = .ok (.created second))
      ∧ (900000 : UInt64) < IDEMPOTENCY_RETENTION_MS :=
  ⟨by decide, filed_isSome (by decide +kernel), filed_isSome (by decide +kernel), by decide⟩

end Spurfire
