import Spurfire.Server.CreatorAccess

/-!
# Leaving

A leave runs the cleanup of the leaver's key and then takes the leaver out of the record.  The cleanup
also marks a live key and the whole roster:

* `OthersKept`: the entries of every other player are as they were;
* `settledAndMarked_credentials`: what the provider's answer and the marking do to the keys;
* `leave_frame_iff` is the result for every leave that a lobby answers.
-/

namespace Spurfire

open Interrupt

namespace StoredLobby

/-- What the record keeps of every player but one, keys that have expired apart. -/
structure OthersKept (w w' : StoredLobby) (player : PlayerId) (now : UnixMillis) : Prop where
  roster : w'.lobby.roster = w.lobby.roster.filter (·.playerId != player)
  credentials : ∀ p ≠ player, (w'.credentials[p]?).filter (fun c => now < c.expiresAt)
    = (w.credentials[p]?).filter fun c => now < c.expiresAt
  pendingIssuances : ∀ p ≠ player, w'.pendingIssuances[p]? = w.pendingIssuances[p]?
  joinReplays : w'.joinReplays = w.joinReplays.filter fun _ replay => replay.playerId != player
  capabilities : w'.capabilities.filter (·.playerId != some player)
    = w.capabilities.filter (·.playerId != some player)

/-- The answer revokes the key. -/
def revokes (result : Except ProviderError CleanupOutcome) (credential : StoredCredential) : Bool :=
  match result with
  | .ok outcome => outcome.revokedCredentialIds.contains credential.credentialId
  | .error _ => false

def answersPending (result : Except ProviderError CleanupOutcome) : Bool :=
  match result with
  | .ok outcome => outcome.cleanupPending
  | .error _ => true

/-- The first key, in the order of the players, that the answer leaves live. -/
def firstLive (w : StoredLobby) (now : UnixMillis) (result : Except ProviderError CleanupOutcome) :
    Option (PlayerId × StoredCredential) :=
  w.credentials.toList.find? fun row => liveCredential now row.2 && !revokes result row.2

def pendingAfter (w : StoredLobby) (now : UnixMillis)
    (result : Except ProviderError CleanupOutcome) : Bool :=
  answersPending result || (w.firstLive now result).isSome

/-- The leave has nothing to change at another player: the answer revokes only keys that were
settled, the live key it stops at is the leaver's or was marked, and the roster is marked as it
would be. -/
structure SparesOthers (w : StoredLobby) (player : PlayerId) (now : UnixMillis)
    (result : Except ProviderError CleanupOutcome) : Prop where
  revoked : ∀ p c, p ≠ player → w.credentials[p]? = some c → now < c.expiresAt →
    revokes result c = true → c.revoked = true ∧ c.cleanupPending = false
  live : ∀ p c, w.firstLive now result = some (p, c) → p ≠ player → c.cleanupPending = true
  roster : ∀ p ∈ w.lobby.roster, p.playerId ≠ player →
    if w.pendingAfter now result then p.cleanupPending = true ∧ p.joinState = .cleanupPending
    else p.cleanupPending = false

/-! ## The keys -/

/-- What the answer makes of a key. -/
def settledKey (now : UnixMillis) (result : Except ProviderError CleanupOutcome)
    (credential : StoredCredential) : StoredCredential :=
  match result with
  | .ok outcome =>
    if settles outcome now credential then
      { credential with revoked := true, cleanupPending := false } else credential
  | .error _ => credential

variable {w w' : StoredLobby} {player : PlayerId} {now : UnixMillis}
  {result : Except ProviderError CleanupOutcome} {full : Bool}

theorem credentials_settledBy : (w.settledBy now full result).credentials
    = w.credentials.map fun _ => settledKey now result := by
  cases result with
  | ok outcome => rfl
  | error error =>
    have hsame : (w.settledBy now full (.error error)).credentials = w.credentials := by
      unfold settledBy
      dsimp only
      split_ifs
      · rfl
      · rfl
    rw [hsame]
    refine Std.ExtTreeMap.ext_getElem? fun p => ?_
    rw [Std.ExtTreeMap.getElem?_map]
    exact Option.map_id'.symm

theorem live_settledKey (c : StoredCredential) : liveCredential now (settledKey now result c)
    = (liveCredential now c && !revokes result c) := by
  cases result with
  | error error => exact (Bool.and_true _).symm
  | ok outcome =>
    by_cases hsettled : settles outcome now c = true
    · have hkey : settledKey now (.ok outcome) c
          = { c with revoked := true, cleanupPending := false } := if_pos hsettled
      rw [hkey]
      rcases Bool.or_eq_true_iff.mp hsettled with hexpired | hrevoked
      · have hdead : ¬now < c.expiresAt := UInt64.not_lt.mpr (of_decide_eq_true hexpired)
        unfold liveCredential
        simp [hdead]
      · have hrevokes : revokes (.ok outcome) c = true := hrevoked
        unfold liveCredential
        simp [hrevokes]
    · have hkey : settledKey now (.ok outcome) c = c := if_neg hsettled
      have hrevokes : revokes (.ok outcome) c = false :=
        (Bool.or_eq_false_iff.mp (Bool.eq_false_of_not_eq_true hsettled)).2
      rw [hkey, hrevokes, Bool.not_false, Bool.and_true]

theorem settledKey_of_live {c : StoredCredential}
    (h : (liveCredential now c && !revokes result c) = true) : settledKey now result c = c := by
  cases result with
  | error error => rfl
  | ok outcome =>
    refine if_neg fun hsettled => ?_
    rw [← live_settledKey] at h
    have hkey : settledKey now (.ok outcome) c
        = { c with revoked := true, cleanupPending := false } := if_pos hsettled
    rw [hkey] at h
    exact nomatch h

theorem find?_settled : (w.settledBy now full result).credentials.toList.find?
    (fun row => liveCredential now row.2) = w.firstLive now result := by
  rw [credentials_settledBy, Std.ExtTreeMap.toList_map, List.find?_map]
  unfold firstLive
  have hrows : (fun row : PlayerId × StoredCredential => liveCredential now row.2)
      ∘ (fun row : PlayerId × StoredCredential => (row.1, settledKey now result row.2))
      = fun row => liveCredential now row.2 && !revokes result row.2 :=
    funext fun row => live_settledKey row.2
  rw [hrows]
  cases hfind : w.credentials.toList.find? fun row =>
      liveCredential now row.2 && !revokes result row.2 with
  | none => rfl
  | some row =>
    rw [Option.map_some, settledKey_of_live (c := row.2)
      (List.find?_some (p := fun row : PlayerId × StoredCredential =>
        liveCredential now row.2 && !revokes result row.2) hfind)]

/-- The answer settles what it settles, and the first key that stays live is marked. -/
theorem settledAndMarked_credentials (p : PlayerId) :
    (w.settledAndMarked now full result).credentials[p]?
      = match w.firstLive now result with
        | some (q, c) =>
          if q = p then some { c with cleanupPending := true }
          else (w.credentials[p]?).map (settledKey now result)
        | none => (w.credentials[p]?).map (settledKey now result) := by
  have hsettled : (w.settledBy now full result).credentials[p]?
      = (w.credentials[p]?).map (settledKey now result) := by
    rw [credentials_settledBy, Std.ExtTreeMap.getElem?_map]
  unfold settledAndMarked markPendingCredential
  rw [find?_settled]
  cases w.firstLive now result with
  | none => exact hsettled
  | some row =>
    obtain ⟨q, c⟩ := row
    dsimp only
    rw [Std.ExtTreeMap.getElem?_insert, hsettled]
    by_cases hqp : q = p
    · rw [if_pos hqp, if_pos (compare_eq_iff_eq.mpr hqp)]
    · rw [if_neg hqp, if_neg fun h => hqp (compare_eq_iff_eq.mp h)]

theorem firstLive_some {p : PlayerId} {c : StoredCredential}
    (h : w.firstLive now result = some (p, c)) : w.credentials[p]? = some c
      ∧ now < c.expiresAt ∧ revokes result c = false := by
  have hlive : (liveCredential now c && !revokes result c) = true := List.find?_some
    (p := fun row : PlayerId × StoredCredential => liveCredential now row.2 && !revokes result row.2) h
  unfold liveCredential at hlive
  simp only [Bool.and_eq_true, Bool.not_eq_true', decide_eq_true_eq] at hlive
  exact ⟨Std.ExtTreeMap.mem_toList_iff_getElem?_eq_some.mp (List.mem_of_find?_eq_some h),
    hlive.1.2, hlive.2⟩

/-! ## The record -/

/-- A roster entry while the lobby is open, as the cleanup marks it. -/
def markedPlayer (pending : Bool) (p : Player) : Player :=
  if pending then { p with cleanupPending := true, joinState := .cleanupPending }
  else { p with cleanupPending := false }

theorem applyCleanupResult_player (w : StoredLobby) (now : UnixMillis)
    (result : Except ProviderError CleanupOutcome) : w.applyCleanupResult now result false
      = some { w.settledAndMarked now false result with
          cleanupPending := w.pendingAfter now result }.markRoster := by
  have hmarked : ((w.settledBy now false result).markPendingCredential now).2
      = (w.firstLive now result).isSome := by
    unfold markPendingCredential
    rw [find?_settled]
    cases w.firstLive now result with
    | none => rfl
    | some row => rfl
  unfold applyCleanupResult pendingAfter settledAndMarked answersPending
  rw [← hmarked]
  rfl

theorem lobby_settledAndMarked (w : StoredLobby) (now : UnixMillis) (full : Bool)
    (result : Except ProviderError CleanupOutcome) :
    (w.settledAndMarked now full result).lobby.roster = w.lobby.roster
    ∧ (w.settledAndMarked now full result).pendingIssuances = w.pendingIssuances
    ∧ (w.settledAndMarked now full result).joinReplays = w.joinReplays
    ∧ (w.settledAndMarked now full result).capabilities = w.capabilities := by
  have hsettled : (w.settledBy now full result).lobby.roster = w.lobby.roster
      ∧ (w.settledBy now full result).pendingIssuances = w.pendingIssuances
      ∧ (w.settledBy now full result).joinReplays = w.joinReplays
      ∧ (w.settledBy now full result).capabilities = w.capabilities := by
    cases result with
    | ok outcome => exact ⟨rfl, rfl, rfl, rfl⟩
    | error error =>
      unfold settledBy
      dsimp only
      split_ifs
      · exact ⟨rfl, rfl, rfl, rfl⟩
      · exact ⟨rfl, rfl, rfl, rfl⟩
  unfold settledAndMarked markPendingCredential
  split
  · exact hsettled
  · exact hsettled

theorem roster_markRoster (hopen : w.lobby.state.isClosed = false) :
    w.markRoster.lobby.roster = w.lobby.roster.map (markedPlayer w.cleanupPending) := by
  unfold markRoster
  dsimp only
  rw [hopen]
  refine List.map_congr_left fun p _ => ?_
  unfold markedPlayer
  cases w.cleanupPending with
  | true => rfl
  | false => rfl

/-- What is left of a record once the player has gone. -/
theorem left_parts (w : StoredLobby) (player : PlayerId) (now : UnixMillis) (dryRun : Bool) :
    (w.left player now dryRun).lobby.roster = w.lobby.roster.filter (·.playerId != player)
      ∧ (w.left player now dryRun).credentials = w.credentials
      ∧ (w.left player now dryRun).pendingIssuances = w.pendingIssuances.erase player
      ∧ (w.left player now dryRun).joinReplays
        = w.joinReplays.filter (fun _ replay => replay.playerId != player)
      ∧ (w.left player now dryRun).capabilities = w.capabilities.map fun c =>
        if c.playerId = some player then { c with revoked := true } else c := by
  unfold left
  rw [unready_eq]
  exact ⟨rfl, rfl, rfl, rfl, rfl⟩

theorem markedPlayer_eq_iff (pending : Bool) (p : Player) : markedPlayer pending p = p
    ↔ if pending then p.cleanupPending = true ∧ p.joinState = .cleanupPending
      else p.cleanupPending = false := by
  unfold markedPlayer
  cases pending with
  | true =>
    rw [if_pos rfl, if_pos rfl]
    refine ⟨fun h => ⟨(congrArg Player.cleanupPending h).symm, (congrArg Player.joinState h).symm⟩,
      fun h => ?_⟩
    rw [← h.1, ← h.2]
  | false =>
    rw [if_neg Bool.false_ne_true, if_neg Bool.false_ne_true]
    refine ⟨fun h => (congrArg Player.cleanupPending h).symm, fun h => ?_⟩
    rw [← h]

/-- The roster entries of the others are kept where they are marked as they would be. -/
theorem roster_kept_iff (pending : Bool) :
    (w.lobby.roster.map (markedPlayer pending)).filter (·.playerId != player)
        = w.lobby.roster.filter (·.playerId != player)
      ↔ ∀ p ∈ w.lobby.roster, p.playerId ≠ player →
        if pending then p.cleanupPending = true ∧ p.joinState = .cleanupPending
        else p.cleanupPending = false := by
  have hsame : (fun p : Player => p.playerId != player) ∘ markedPlayer pending
      = fun p => p.playerId != player := by
    funext p
    unfold markedPlayer
    cases pending with
    | true => rfl
    | false => rfl
  rw [List.filter_map, hsame]
  constructor
  · intro h p hp hother
    rw [← markedPlayer_eq_iff]
    refine List.map_inj_left.mp (h.trans (List.map_id _).symm) p ?_
    exact List.mem_filter.mpr ⟨hp, bne_iff_ne.mpr hother⟩
  · intro h
    refine (List.map_inj_left.mpr fun p hp => ?_).trans (List.map_id _)
    obtain ⟨hmem, hother⟩ := List.mem_filter.mp hp
    exact (markedPlayer_eq_iff pending p).mpr (h p hmem (bne_iff_ne.mp hother))

/-- An unexpired key is as it was where the answer does not revoke it, or it was settled. -/
theorem filter_settledKey_iff (c : StoredCredential) :
    (some (settledKey now result c)).filter (fun c => now < c.expiresAt)
        = (some c).filter (fun c => now < c.expiresAt)
      ↔ (now < c.expiresAt → revokes result c = true →
        c.revoked = true ∧ c.cleanupPending = false) := by
  cases result with
  | error error => exact iff_of_true rfl fun _ h => nomatch h
  | ok outcome =>
    by_cases hlive : now < c.expiresAt
    · by_cases hrevoked : revokes (.ok outcome) c = true
      · have hkey : settledKey now (.ok outcome) c
            = { c with revoked := true, cleanupPending := false } :=
          if_pos (Bool.or_eq_true_iff.mpr (.inr hrevoked))
        rw [hkey, Option.filter_some, Option.filter_some, if_pos (decide_eq_true hlive),
          if_pos (decide_eq_true hlive)]
        refine ⟨fun h _ _ => ?_, fun h => ?_⟩
        · have heq := Option.some.inj h
          exact ⟨(congrArg StoredCredential.revoked heq).symm,
            (congrArg StoredCredential.cleanupPending heq).symm⟩
        · obtain ⟨hwas, hmark⟩ := h hlive hrevoked
          rw [← hwas, ← hmark]
      · have hkey : settledKey now (.ok outcome) c = c := by
          refine if_neg fun hsettles => ?_
          rcases Bool.or_eq_true_iff.mp hsettles with hdead | hin
          · exact UInt64.not_lt.mpr (of_decide_eq_true hdead) hlive
          · exact hrevoked hin
        rw [hkey]
        exact iff_of_true rfl fun _ h => absurd h hrevoked
    · have hexpires : (settledKey now (.ok outcome) c).expiresAt = c.expiresAt := by
        unfold settledKey
        dsimp only
        split_ifs
        · rfl
        · rfl
      rw [Option.filter_some, Option.filter_some, hexpires, if_neg (by simpa using hlive),
        if_neg (by simpa using hlive)]
      exact iff_of_true rfl fun h => absurd h hlive

theorem credentials_kept_iff : (∀ p ≠ player,
      ((w.settledAndMarked now full result).credentials[p]?).filter (fun c => now < c.expiresAt)
        = (w.credentials[p]?).filter fun c => now < c.expiresAt)
    ↔ (∀ p c, p ≠ player → w.credentials[p]? = some c → now < c.expiresAt →
        revokes result c = true → c.revoked = true ∧ c.cleanupPending = false)
      ∧ ∀ p c, w.firstLive now result = some (p, c) → p ≠ player → c.cleanupPending = true := by
  have hother : ∀ p, (∀ c, w.firstLive now result ≠ some (p, c)) →
      (w.settledAndMarked now full result).credentials[p]?
        = (w.credentials[p]?).map (settledKey now result) := by
    intro p hnot
    rw [settledAndMarked_credentials]
    split
    next q c hfirst =>
      refine if_neg fun hqp => ?_
      subst hqp
      exact hnot c hfirst
    next => rfl
  have hmarked : ∀ p c, w.firstLive now result = some (p, c) →
      (w.settledAndMarked now full result).credentials[p]?
        = some { c with cleanupPending := true } := by
    intro p c hfirst
    rw [settledAndMarked_credentials, hfirst]
    exact if_pos rfl
  constructor
  · intro h
    refine ⟨fun p c hp hc hlive hrevokes => ?_, fun p c hfirst hp => ?_⟩
    · have hnot : ∀ c', w.firstLive now result ≠ some (p, c') := by
        intro c' hfirst
        obtain ⟨hc', -, hkept⟩ := firstLive_some hfirst
        cases hc.symm.trans hc'
        rw [hrevokes] at hkept
        exact nomatch hkept
      have hsame := h p hp
      rw [hother p hnot, hc, Option.map_some] at hsame
      exact (filter_settledKey_iff c).mp hsame hlive hrevokes
    · obtain ⟨hc, hlive, -⟩ := firstLive_some hfirst
      have hsame := h p hp
      rw [hmarked p c hfirst, hc, Option.filter_some, Option.filter_some,
        if_pos (decide_eq_true hlive), if_pos (decide_eq_true hlive)] at hsame
      exact (congrArg StoredCredential.cleanupPending (Option.some.inj hsame)).symm
  · rintro ⟨hrevoked, hlive⟩ p hp
    by_cases hfirst : ∃ c, w.firstLive now result = some (p, c)
    · obtain ⟨c, hfirst⟩ := hfirst
      rw [hmarked p c hfirst, (firstLive_some hfirst).1, ← hlive p c hfirst hp]
    · rw [hother p (not_exists.mp hfirst)]
      cases hc : w.credentials[p]? with
      | none => rfl
      | some c => exact (filter_settledKey_iff c).mpr (hrevoked p c hp hc)

/-- Revoking the capabilities of the leaver touches no other. -/
theorem filter_revokePlayer (l : List StoredCapabilityVerifier) (player : PlayerId) :
    (l.map fun c => if c.playerId = some player then { c with revoked := true } else c).filter
        (·.playerId != some player) = l.filter (·.playerId != some player) := by
  induction l with
  | nil => rfl
  | cons c l ih =>
    rw [List.map_cons]
    by_cases hplayer : c.playerId = some player
    · rw [if_pos hplayer, List.filter_cons_of_neg (by simp [hplayer]),
        List.filter_cons_of_neg (by simp [hplayer])]
      exact ih
    · rw [if_neg hplayer, List.filter_cons_of_pos (by simpa using hplayer),
        List.filter_cons_of_pos (by simpa using hplayer), ih]

/-- The record a leave stores keeps the others exactly where the leave spares them. -/
theorem othersKept_iff {settled : StoredLobby} (hopen : w.lobby.state.isClosed = false)
    (hsettled : w.applyCleanupResult now result false = some settled) (dryRun : Bool) :
    w.OthersKept (settled.left player now dryRun) player now ↔ w.SparesOthers player now result := by
  rw [applyCleanupResult_player] at hsettled
  cases hsettled
  obtain ⟨hroster, hpending, hreplays, hcapabilities⟩ :=
    lobby_settledAndMarked w now false result
  generalize hu : ({ w.settledAndMarked now false result with
    cleanupPending := w.pendingAfter now result } : StoredLobby) = u
  have huroster : u.lobby.roster = w.lobby.roster := hu ▸ hroster
  have hustate : u.lobby.state.isClosed = false := by
    rw [← hu]
    exact (congrArg LobbyState.isClosed (state_settledAndMarked w now false result).1).trans hopen
  have hupending : u.cleanupPending = w.pendingAfter now result := hu ▸ rfl
  have hcredentials : u.markRoster.credentials
      = (w.settledAndMarked now false result).credentials := hu ▸ rfl
  obtain ⟨hlroster, hlcredentials, hlpending, hlreplays, hlcapabilities⟩ :=
    left_parts u.markRoster player now dryRun
  rw [roster_markRoster hustate, huroster, hupending] at hlroster
  constructor
  · intro h
    have hkept := h.credentials
    rw [hlcredentials, hcredentials] at hkept
    obtain ⟨hrevoked, hlive⟩ := credentials_kept_iff.mp hkept
    exact ⟨hrevoked, hlive, (roster_kept_iff _).mp (hlroster.symm.trans h.roster)⟩
  · intro h
    refine ⟨hlroster.trans ((roster_kept_iff _).mpr h.roster), ?_, fun p hp => ?_, ?_, ?_⟩
    · rw [hlcredentials, hcredentials]
      exact credentials_kept_iff.mpr ⟨h.revoked, h.live⟩
    · rw [hlpending, Std.ExtTreeMap.getElem?_erase,
        if_neg fun heq => hp (compare_eq_iff_eq.mp heq).symm, ← hpending, ← hu]
      rfl
    · rw [hlreplays, ← hreplays, ← hu]
      rfl
    · rw [hlcapabilities, filter_revokePlayer, ← hcapabilities, ← hu]
      rfl

end StoredLobby

/-! ## Every leave -/

/-- What a leave loads: the time and the maintained record. -/
def Service.leaveOpened (id : LobbyId) (config : ServiceConfig) (headers : Headers) :
    Service (UnixMillis × StoredLobby) := do
  let _ ← authorizeScope id
  let now ← clockNow id
  let stored ← loadMaintainedLobby id now (config.forceDryRun || headers.dryRun)
  pure (now, stored)

/-- From the loaded record `w` of the world `s₁`, the leave of a player that is not on the roster
writes nothing; that of a member replaces `w`, purged since by other lobbies at most, and keeps the
others if and only if the provider's answer spares them. -/
structure World.LeftFrom (s₁ : World) (id : LobbyId) (player : PlayerId) (now : UnixMillis)
    (w : StoredLobby) (s' : World) : Prop where
  loaded : ∀ r, s₁.record id = some r → s₁.Aged w r
  absent : w.hasPlayer player = false → s' = s₁
  member : w.hasPlayer player = true → ∃ result before after quarantines,
    s'.Heard [.wrote before after quarantines,
      .cleaned (w.cleanupRequestForPlayer player now false) result]
    ∧ s'.Aged w before ∧ s'.record id = some after
    ∧ (w.OthersKept after player now ↔ w.SparesOthers player now result)

theorem walks_leaveOpened {c : Course} (hc : c.Filed) {headers : Headers} : c.Walks c.start
    (Service.leaveOpened c.id c.config headers) fun loaded s₁ => c.On (some (.working, loaded.2)) s₁
      ∧ s₁.Synced c.id loaded.2 ∧ .clock loaded.1 ∈ s₁.trace ∧ ∃ a ∈ c.answers, a.now = loaded.1 :=
  walks_opened hc fun _ a ha _ _ hon hsynced hread =>
    meets_pure ⟨hon, hsynced, hread, a, ha, rfl⟩

theorem walks_leaveLoaded {c : Course} (hc : c.Filed) {headers : Headers} {player : PlayerId}
    (hrequest : c.request = .leave headers player) {a : Answer} (ha : a ∈ c.answers)
    {w : StoredLobby} {s : World} (hon : c.On (some (.working, w)) s)
    (hsynced : s.Synced c.id w) (hread : .clock a.now ∈ s.trace) : c.Walks s
    (Service.leaveLoaded c.id c.config headers player a.now w) fun _ s' =>
      s.LeftFrom c.id player a.now w s' := by
  refine meets_bind (walks_ofExcept hon fun dryRun _ => ?_)
  refine meets_bind (walks_check hon fun haccepts => ?_)
  by_cases hplayer : w.hasPlayer player = true
  · rw [if_pos hplayer]
    refine meets_bind (walks_providerCleanup hon _ fun result s₁ hon₁ htold => ?_)
    cases hresult : w.applyCleanupResult a.now result false with
    | none => exact walks_fail hon₁
    | some settled =>
      have hleft := hon₁.lobby (.left w dryRun hrequest haccepts hplayer ha
        (htold.grows _ hread) (htold.heard [] (World.heard_nil s)) hresult)
      have hnamed := (hleft.filed hc).named
      refine meets_bind (meets_bind (walks_await hleft fun b hb s₂ hon₂ hquiet => ?_))
      by_cases hstored :
          (b.persists && s₂.data.lobbies.contains (settled.left player a.now dryRun).lobby.lobbyId) = true
      · rw [if_pos hstored]
        have hcontains := (Bool.and_eq_true_iff.mp hstored).2
        have hwritten := hon₂.move (.write .working _ s₂ hcontains)
        have hsome : ∃ r, s₂.record c.id = some r := by
          rw [hnamed] at hcontains
          exact Option.isSome_iff_exists.mp (Std.ExtTreeMap.mem_iff_isSome_getElem?.mp
            (Std.ExtTreeMap.mem_iff_contains.mpr hcontains))
        obtain ⟨r, hr⟩ := hsome
        have hheard := (htold.heard [] (World.heard_nil s)).quiet hquiet
        have haged := ((htold.synced hsynced).quiet hquiet) r hr
        refine walks_check hwritten fun _ => meets_pure ⟨hsynced,
          fun habsent => absurd (hplayer.symm.trans habsent) nofun, fun _ => ⟨result, r, _, _,
          hheard.cons (World.trace_write hr) rfl, haged.mono fun _ => World.mem_trace_write, ?_,
          StoredLobby.othersKept_iff ?_ hresult dryRun⟩⟩
        · rw [World.record_write hcontains, if_pos hnamed]
        · exact not_closed_of_acceptsLeaves haccepts
      · rw [if_neg hstored]
        exact walks_check (hon₂.move (.lost _ s₂ hb _)) nofun
  · rw [if_neg hplayer]
    exact meets_pure ⟨hsynced, fun _ => rfl, fun hmember => absurd hmember hplayer⟩

/-- A leave that is done has loaded, and gone on from there. -/
theorem Service.leaveLobby_done {id : LobbyId} {config : ServiceConfig} {headers : Headers}
    {player : PlayerId} {s : World} {answers : List Answer} {response : Response}
    (h : (leaveLobby id config headers player s answers).1 = .done response) :
    ∃ now w s₁ rest, leaveOpened id config headers s answers = (.done (now, w), s₁, rest)
      ∧ leaveLobby id config headers player s answers
        = leaveLoaded id config headers player now w s₁ rest := by
  have hsplit : leaveLobby id config headers player
      = leaveOpened id config headers >>= fun loaded =>
        leaveLoaded id config headers player loaded.1 loaded.2 := by
    unfold leaveOpened
    rw [Prog.bind_bind]
    refine congrArg _ (funext fun _ => ?_)
    rw [Prog.bind_bind]
    refine congrArg _ (funext fun _ => ?_)
    rw [Prog.bind_bind]
    rfl
  rw [hsplit] at h ⊢
  obtain ⟨⟨now, w⟩, s₁, rest, hopened, hgone⟩ := Prog.done_bind h
  exact ⟨now, w, s₁, rest, hopened, hgone⟩

/-- **Leaving affects others exactly where it does not spare them**: a leave that a reachable lobby
answers has loaded a record `w`; it writes nothing for a player that is not on the roster of `w`, and
else it has replaced `w` by a record that keeps the entries of every other player as they were, if
and only if the provider's answer revokes only their settled keys, the first key it leaves live is
the leaver's or was marked before, and their roster entries were marked before as the cleanup marks
them. -/
theorem leave_frame_iff (id : LobbyId) (i p : Digest) (steps : List ServiceStep)
    (config : ServiceConfig) (headers : Headers) (player : PlayerId) (answers : List Answer)
    (response : Response) :
    let s := Runs.run (World.step id) (World.empty i p) steps
    let left := Service.leaveLobby id config headers player s answers
    left.1 = .done response →
    ∃ now w s₁ rest,
      Service.leaveOpened id config headers s answers = (.done (now, w), s₁, rest)
        ∧ s₁.LeftFrom id player now w left.2.1 := by
  intro s left hdone
  have hfiled : Course.Filed ⟨id, s, config, .leave headers player, answers⟩ :=
    ((World.Tended.empty id i p).run steps).filed
  obtain ⟨now, w, s₁, rest, hopened, hgone⟩ := Service.leaveLobby_done hdone
  refine ⟨now, w, s₁, rest, hopened, ?_⟩
  obtain ⟨hrest, hloaded⟩ := walks_leaveOpened hfiled answers fun _ ha => ha
  dsimp only at hrest hloaded
  rw [hopened] at hrest hloaded
  obtain ⟨hon, hsynced, hread, a, ha, rfl⟩ := hloaded
  obtain ⟨-, hleft⟩ := walks_leaveLoaded hfiled rfl ha hon hsynced hread rest hrest
  change s₁.LeftFrom id player a.now w (Service.leaveLobby id config headers player s answers).2.1
  have hended : (Service.leaveLobby id config headers player s answers).1 = .done response := hdone
  rw [hgone] at hended ⊢
  rcases hrun : Service.leaveLoaded id config headers player a.now w s₁ rest with ⟨outcome, s', os⟩
  dsimp only at hleft
  rw [hrun] at hleft hended
  cases hended
  exact hleft

/-! ### A pair of riders -/

section Pair

open ProtocolId

def invitedHeaders (key : String) : Headers := ⟨false, some key, some (Vector.replicate 32 0), none⟩

def riderJoin (player : PlayerId) : JoinLobbyRequest where
  playerId := player
  displayName := "rider"
  clientWireVersion := M3_WIRE_VERSION
  authorityFormulaVersion := "election_v1"
  horseSelection := none

/-- A simulated provider that mints and revokes the key. -/
def simulated (credentialId : String) : Answer where
  now := 1000
  prepared := .ok ⟨"tailnet", none, none, true⟩
  minted := .ok ⟨credentialId, "tailnet", true⟩
  cleaned := .ok ⟨false, false, false, [credentialId]⟩

/-- Two riders join a dry-run lobby by invitation. -/
def pairSteps : List ServiceStep :=
  [.handle dryConfig (.create creatorHeaders dryRequest [1] "tag" false)
      (List.replicate 8 (simulated "")),
    .handle dryConfig .invite (List.replicate 8 (simulated "")),
    .handle dryConfig (.join (invitedHeaders "one") (riderJoin (.ofTail 1)) [2])
      (List.replicate 12 (simulated "key-1")),
    .handle dryConfig .invite (List.replicate 8 (simulated "")),
    .handle dryConfig (.join (invitedHeaders "two") (riderJoin (.ofTail 2)) [3])
      (List.replicate 12 (simulated "key-2"))]

def pairJoined : World :=
  Runs.run (World.step (.ofTail 7))
    (World.empty (Vector.replicate 32 0) (Vector.replicate 32 0)) pairSteps

/-- The first rider leaves, and its key is revoked. -/
def pairLeft : World :=
  (pairJoined.step (.ofTail 7) (.handle dryConfig
    (.leave creatorHeaders (.ofTail 1)) (List.replicate 8 (simulated "key-1")))).2

/-- The player has left, and nothing stays to clean up. -/
def hasLeft : Outcome ApiError Response → Bool
  | .done (.left false) => true
  | _ => false

theorem eq_of_hasLeft {o : Outcome ApiError Response} (h : hasLeft o = true) :
    o = .done (.left false) := by
  unfold hasLeft at h
  split at h
  · rfl
  · cases h

/-- The player is on the roster of the record that was loaded. -/
def loadsMember (player : PlayerId) : Outcome ApiError (UnixMillis × StoredLobby) → Bool
  | .done loaded => loaded.2.hasPlayer player
  | _ => false

theorem pairLeft_done :
    (Service.leaveLobby (.ofTail 7) dryConfig creatorHeaders (.ofTail 1) pairJoined
      (List.replicate 8 (simulated "key-1"))).1 = .done (.left false) :=
  eq_of_hasLeft (by decide +kernel)

/-- The first rider was on the roster that its leave loaded. -/
theorem leave_frame_iff_pair : ∃ (now : UnixMillis) (w : StoredLobby)
    (result : Except ProviderError CleanupOutcome) (after : StoredLobby),
    w.hasPlayer (.ofTail 1) = true
      ∧ pairLeft.record (.ofTail 7) = some after
      ∧ (w.OthersKept after (.ofTail 1) now
        ↔ w.SparesOthers (.ofTail 1) now result) := by
  obtain ⟨now, w, s₁, rest, hopened, hleft⟩ := leave_frame_iff (.ofTail 7)
    (Vector.replicate 32 0) (Vector.replicate 32 0) pairSteps dryConfig creatorHeaders
    (.ofTail 1) (List.replicate 8 (simulated "key-1")) (.left false) pairLeft_done
  have hmember : loadsMember (.ofTail 1) (Service.leaveOpened (.ofTail 7) dryConfig creatorHeaders
      pairJoined (List.replicate 8 (simulated "key-1"))).1 = true := by decide +kernel
  have hsame : Service.leaveOpened (.ofTail 7) dryConfig creatorHeaders pairJoined
      (List.replicate 8 (simulated "key-1")) = (.done (now, w), s₁, rest) := hopened
  rw [hsame] at hmember
  obtain ⟨result, before, after, quarantines, -, -, hafter, hiff⟩ := hleft.member hmember
  exact ⟨now, w, result, after, hmember, hafter, hiff⟩

/-- The rider who stays is marked as the one to clean up after. -/
theorem leave_marks_the_other : ∃ w w' : StoredLobby,
    pairJoined.record (.ofTail 7) = some w
      ∧ (Service.leaveLobby (.ofTail 7) dryConfig creatorHeaders
        (.ofTail 1) pairJoined (List.replicate 8 (simulated "key-1"))).1
          = .done (.left false)
      ∧ pairLeft.record (.ofTail 7) = some w'
      ∧ ¬w.OthersKept w' (.ofTail 1) 1000 := by
  have hbefore : (pairJoined.record (.ofTail 7)).any (fun r =>
      r.lobby.roster.all fun p => p.joinState == .credentialIssued) = true := by decide +kernel
  have hafter : (pairLeft.record (.ofTail 7)).any (fun r =>
      r.lobby.roster.any fun p => p.joinState == .cleanupPending) = true := by decide +kernel
  obtain ⟨w, hw, hissued⟩ := (Option.any_eq_true _ _).mp hbefore
  obtain ⟨w', hw', hmarked⟩ := (Option.any_eq_true _ _).mp hafter
  refine ⟨w, w', hw, pairLeft_done, hw', fun h => ?_⟩
  obtain ⟨p, hp, hpending⟩ := List.any_eq_true.mp hmarked
  rw [h.roster] at hp
  have hwas := List.all_eq_true.mp hissued p (List.mem_filter.mp hp).1
  rw [beq_iff_eq.mp hwas] at hpending
  exact nomatch hpending

end Pair

end Spurfire
