import Spurfire.Net.State

/-!
# Succession

Local expiry and remote claims compute liveness by different code.  This file brings both to one
form: `expireAndMigrate_eq` rewrites local expiry with `isLiveAt` and `deterministicSuccessor`,
the predicates of the remote claim check, and `coherent_cases` inverts that check.
-/

namespace Spurfire

open Std (ExtTreeMap)

namespace SessionState

variable {s : SessionState} {nowMs : UInt64} {p : PlayerId}

/-! ## Frame of the small writes -/

@[simp] theorem peers_touch (s : SessionState) (p : PlayerId) (sequence nowMs : UInt64) (b : Bool) :
    (s.touch p sequence nowMs b).peers = s.peers.insert p ⟨sequence, nowMs, b⟩ := rfl

theorem lastSequence_touch (s : SessionState) (p q : PlayerId) (sequence nowMs : UInt64) (b : Bool) :
    (s.touch p sequence nowMs b).lastSequence q = if p = q then sequence else s.lastSequence q := by
  unfold lastSequence
  rw [peers_touch, ExtTreeMap.getElem?_insert]
  simp only [compare_eq_iff_eq]
  split_ifs <;> rfl

/-! ## Local expiry -/

theorem getElem?_expirePeers (q : PlayerId) :
    (s.expirePeers nowMs).peers[q]? = (s.peers[q]?).map fun peer =>
      if q = s.localPlayer then { peer with connected := true }
      else if timedOut nowMs peer.lastSeenMs then { peer with connected := false }
      else peer :=
  ExtTreeMap.getElem?_map

/-- After the expiry loop the stored flag of a player is its liveness. -/
theorem isConnected_expirePeers (q : PlayerId) :
    (s.expirePeers nowMs).isConnected q = s.isLiveAt nowMs q := by
  unfold isConnected isLiveAt
  rw [getElem?_expirePeers]
  cases s.peers[q]? with
  | none => rfl
  | some peer =>
    by_cases hlocal : q = s.localPlayer
    · simp [hlocal]
    · cases hout : timedOut nowMs peer.lastSeenMs <;> simp [hlocal, hout]

theorem lastSequence_expirePeers (q : PlayerId) :
    (s.expirePeers nowMs).lastSequence q = s.lastSequence q := by
  unfold lastSequence
  rw [getElem?_expirePeers]
  cases s.peers[q]? with
  | none => rfl
  | some peer => simp only [Option.map_some, Option.getD_some]; split_ifs <;> rfl

/-- The search of the expiry loop is the deterministic successor. -/
theorem successor_expirePeers :
    ((s.expirePeers nowMs).migrationPreference.find? (s.expirePeers nowMs).isConnected).or
        ((s.expirePeers nowMs).peers.toList.findSome? fun row =>
          if row.2.connected then some row.1 else none)
      = s.deterministicSuccessor nowMs := by
  rw [ExtTreeMap.findSome?_toList_eq_find?_keys]
  have hkeys : (s.expirePeers nowMs).peers.keys = s.peers.keys := ExtTreeMap.keys_map
  have hlive : (s.expirePeers nowMs).isConnected = s.isLiveAt nowMs :=
    funext isConnected_expirePeers
  change ((s.expirePeers nowMs).migrationPreference.find? (s.expirePeers nowMs).isConnected).or
    ((s.expirePeers nowMs).peers.keys.find? (s.expirePeers nowMs).isConnected) = _
  rw [hkeys, hlive]
  rfl

/-- **Local expiry in terms of the claim check's own predicates.** -/
theorem expireAndMigrate_eq (s : SessionState) (nowMs : UInt64) :
    s.expireAndMigrate nowMs =
      if s.isLiveAt nowMs s.authority then (none, s.expirePeers nowMs)
      else match s.deterministicSuccessor nowMs, s.authorityEpoch.checkedAdd 1 with
        | some successor, some nextEpoch =>
          (some (successor, nextEpoch),
            { s.expirePeers nowMs with authority := successor, authorityEpoch := nextEpoch })
        | _, _ => (none, s.expirePeers nowMs) := by
  unfold expireAndMigrate
  dsimp only
  rw [successor_expirePeers, isConnected_expirePeers]
  rfl

/-- Without a migration local expiry keeps the authority. -/
theorem authority_expireAndMigrate (h : (s.expireAndMigrate nowMs).1 = none) :
    (s.expireAndMigrate nowMs).2.authority = s.authority := by
  rw [expireAndMigrate_eq] at h ⊢
  split_ifs at h ⊢ with hlive
  · rfl
  · cases hsucc : s.deterministicSuccessor nowMs with
    | none => rfl
    | some successor =>
      cases hnext : s.authorityEpoch.checkedAdd 1 with
      | none => rfl
      | some nextEpoch => simp [hsucc, hnext] at h

/-- Without a migration local expiry keeps the epoch. -/
theorem authorityEpoch_expireAndMigrate (h : (s.expireAndMigrate nowMs).1 = none) :
    (s.expireAndMigrate nowMs).2.authorityEpoch = s.authorityEpoch := by
  rw [expireAndMigrate_eq] at h ⊢
  split_ifs at h ⊢ with hlive
  · rfl
  · cases hsucc : s.deterministicSuccessor nowMs with
    | none => rfl
    | some successor =>
      cases hnext : s.authorityEpoch.checkedAdd 1 with
      | none => rfl
      | some nextEpoch => simp [hsucc, hnext] at h

theorem next_of_migrated (h : (s.expireAndMigrate nowMs).1.isSome) :
    s.authorityEpoch.checkedAdd 1 = some (s.expireAndMigrate nowMs).2.authorityEpoch := by
  rw [expireAndMigrate_eq] at h ⊢
  split_ifs at h ⊢ with hlive
  · cases h
  · cases hsucc : s.deterministicSuccessor nowMs with
    | none => simp [hsucc] at h
    | some successor =>
      cases hnext : s.authorityEpoch.checkedAdd 1 with
      | none => simp [hsucc, hnext] at h
      | some nextEpoch => rfl

theorem mem_peers_of_isLiveAt (h : s.isLiveAt nowMs p) : p ∈ s.peers := by
  rw [ExtTreeMap.mem_iff_isSome_getElem?]
  cases hp : s.peers[p]? with
  | none => simp [isLiveAt, hp] at h
  | some peer => rfl

theorem isLiveAt_of_successor (h : s.deterministicSuccessor nowMs = some p) :
    s.isLiveAt nowMs p := by
  rcases Option.or_eq_some_iff.mp h with hpref | ⟨-, hkeys⟩
  · exact List.find?_some hpref
  · exact List.find?_some hkeys

theorem mem_peers_of_successor (h : s.deterministicSuccessor nowMs = some p) : p ∈ s.peers :=
  mem_peers_of_isLiveAt (isLiveAt_of_successor h)

theorem isLiveAt_local (h : s.localPlayer ∈ s.peers) : s.isLiveAt nowMs s.localPlayer := by
  obtain ⟨peer, hpeer⟩ := Option.isSome_iff_exists.mp (ExtTreeMap.mem_iff_isSome_getElem?.mp h)
  simp [isLiveAt, hpeer]

/-! ## Remote claims -/

/-- The player is a member whose last accepted packet is at least the timeout ago. -/
def Unseen (s : SessionState) (nowMs : UInt64) (p : PlayerId) : Prop :=
  ∃ peer, s.peers[p]? = some peer ∧ HEARTBEAT_TIMEOUT_MS ≤ nowMs.satSub peer.lastSeenMs

theorem unseen_of_silent (h : s.currentAuthorityIsSilent nowMs) (hmem : s.authority ∈ s.peers) :
    s.authority ≠ s.localPlayer ∧ s.Unseen nowMs s.authority := by
  obtain ⟨peer, hpeer⟩ := Option.isSome_iff_exists.mp (ExtTreeMap.mem_iff_isSome_getElem?.mp hmem)
  simp only [currentAuthorityIsSilent, hpeer, Option.all_some, timedOut, Bool.and_eq_true,
    bne_iff_ne, decide_eq_true_eq] at h
  exact ⟨h.1, peer, hpeer, h.2⟩

/-- The three kinds of claims that pass the check. -/
theorem coherent_cases {sender authority : PlayerId} {epoch : UInt64}
    (h : s.authorityClaimIsCoherent sender authority epoch nowMs) :
    authority = sender ∧
      ((epoch = s.authorityEpoch ∧ authority = s.authority) ∨
       (epoch = s.authorityEpoch ∧ authority < s.authority ∧ s.currentAuthorityIsSilent nowMs) ∨
       (s.authorityEpoch.checkedAdd 1 = some epoch ∧ s.currentAuthorityIsSilent nowMs ∧
         s.deterministicSuccessor nowMs = some authority)) := by
  unfold authorityClaimIsCoherent at h
  split_ifs at h with hsender hepoch hnext
  · refine ⟨not_not.mp hsender, ?_⟩
    simp only [Bool.or_eq_true, beq_iff_eq, Bool.and_eq_true, decide_eq_true_eq] at h
    rcases h with hsame | ⟨hlt, hsilent⟩
    · exact .inl ⟨hepoch, hsame⟩
    · exact .inr (.inl ⟨hepoch, hlt, hsilent⟩)
  · refine ⟨not_not.mp hsender, .inr (.inr ?_)⟩
    obtain ⟨hstep, hsilent⟩ := not_or.mp hnext
    exact ⟨not_not.mp hstep, by simpa using hsilent, by simpa using h⟩

end SessionState

end Spurfire
