import Spurfire.Lib.OrderedSet
import Spurfire.Protocol.Election

/-!
# The outcome of an election

What `electAuthorityForRoster` answers, for any list of candidates in any order.

* `best_spec`: the winner is a least element of a total order on the scores.
* `electAuthorityForRoster_perm`: the order of the candidates does not matter, not even for the
  player that a duplicate error names.
* `electAuthorityForRoster_fails_iff` lists the ways to fail; `election_outcome` puts the answers
  together.
-/

namespace Spurfire

/-! ## The order of the scores -/

namespace AuthorityScore

variable {a b c : AuthorityScore}

theorem precedes_iff : a.precedes b ↔ b.scoreMilli < a.scoreMilli ∨
    (a.scoreMilli = b.scoreMilli ∧ a.playerId ≤ b.playerId) := by
  simp [precedes]

theorem precedes_total (a b : AuthorityScore) : a.precedes b ∨ b.precedes a := by
  rw [precedes_iff, precedes_iff]
  rcases le_total a.playerId b.playerId with hid | hid <;> grind

theorem precedes_trans (hab : a.precedes b) (hbc : b.precedes c) : a.precedes c := by
  rw [precedes_iff] at *
  rcases hab with hab | ⟨hab, hid⟩ <;> rcases hbc with hbc | ⟨hbc, hid'⟩
  · exact .inl (by grind)
  · exact .inl (by grind)
  · exact .inl (by grind)
  · exact .inr ⟨hab.trans hbc, hid.trans hid'⟩

theorem playerId_eq_of_precedes (hab : a.precedes b) (hba : b.precedes a) :
    a.playerId = b.playerId := by
  rw [precedes_iff] at *
  rcases hab with hab | ⟨hab, hid⟩ <;> rcases hba with hba | ⟨hba, hid'⟩
  · exact absurd hab (by grind)
  · exact absurd hab (by grind)
  · exact absurd hba (by grind)
  · exact le_antisymm hid hid'

theorem best_spec {l : List AuthorityScore} {w : AuthorityScore} (h : best l = some w) :
    w ∈ l ∧ ∀ r ∈ l, w.precedes r := by
  cases l with
  | nil => cases h
  | cons a rest =>
    simp only [best, Option.some.injEq] at h
    subst h
    induction rest generalizing a with
    | nil =>
      refine ⟨List.mem_cons_self, ?_⟩
      intro r hr
      obtain rfl := List.mem_singleton.mp hr
      exact (precedes_total r r).elim id id
    | cons b rest ih =>
      rw [List.foldl_cons]
      split_ifs with hab
      · obtain ⟨hmem, hall⟩ := ih a
        refine ⟨List.mem_cons.mpr ((List.mem_cons.mp hmem).imp_right (List.mem_cons_of_mem b)), ?_⟩
        intro r hr
        rcases List.mem_cons.mp hr with rfl | hr
        · exact hall r List.mem_cons_self
        · rcases List.mem_cons.mp hr with rfl | hr
          · exact precedes_trans (hall a List.mem_cons_self) hab
          · exact hall r (List.mem_cons_of_mem _ hr)
      · obtain ⟨hmem, hall⟩ := ih b
        refine ⟨List.mem_cons_of_mem _ hmem, ?_⟩
        intro r hr
        rcases List.mem_cons.mp hr with rfl | hr
        · exact precedes_trans (hall b List.mem_cons_self)
            ((precedes_total _ _).resolve_left hab)
        · exact hall r hr

end AuthorityScore

/-! ## Scored rows -/

/-- The scored rows of an election and its winner. -/
theorem electAuthorityForRoster_ok {candidates : List AuthorityCandidate} {now : UnixMillis}
    {wire : WireVersion} {n : ℕ} {e : AuthorityElection}
    (h : electAuthorityForRoster candidates now wire n = .ok e) :
    (∀ r, r ∈ e.scoredCandidates ↔ ∃ c ∈ candidates, screenCandidate now wire n c = .ok r) ∧
      ∃ w, AuthorityScore.best (participants e.scoredCandidates) = some w ∧
        w.playerId = e.winnerPlayerId := by
  unfold electAuthorityForRoster at h
  split_ifs at h
  split at h
  · cases h
  · next sorted hsorted =>
    have hmem : ∀ c, c ∈ sorted ↔ c ∈ candidates := by
      intro c
      unfold sortedCandidates at hsorted
      simp only at hsorted
      split at hsorted
      · cases hsorted
      · cases hsorted
        exact List.mem_insertionSort _
    simp only at h
    split at h
    · cases h
    · split at h
      · cases h
      · next w hbest =>
        cases h
        refine ⟨?_, w, hbest, rfl⟩
        intro r
        simp only [List.mem_filterMap, List.mem_map, hmem]
        constructor
        · rintro ⟨row, ⟨c, hc, rfl⟩, hr⟩
          refine ⟨c, hc, ?_⟩
          split at hr
          · next heq => rw [heq, Option.some.inj hr]
          · cases hr
        · rintro ⟨c, hc, hr⟩
          exact ⟨_, ⟨c, hc, rfl⟩, by rw [hr]⟩

theorem playerId_of_screened {now : UnixMillis} {wire : WireVersion} {n : ℕ}
    {c : AuthorityCandidate} {r : ScoredAuthorityCandidate}
    (h : screenCandidate now wire n c = .ok r) : r.playerId = c.playerId := by
  unfold screenCandidate at h
  repeat' split at h
  all_goals first | cases h; rfl | cases h

/-! ## Sorting the candidates -/

theorem firstDuplicate_congr {l l' : List AuthorityCandidate}
    (h : l.map (·.playerId) = l'.map (·.playerId)) : firstDuplicate l = firstDuplicate l' := by
  induction l generalizing l' with
  | nil => rw [List.map_eq_nil_iff.mp h.symm]
  | cons a l ih =>
    obtain ⟨a', l', rfl, ha, hl⟩ := List.map_eq_cons_iff.mp h.symm
    cases l with
    | nil =>
      rw [List.map_eq_nil_iff.mp hl]
      rfl
    | cons b l =>
      obtain ⟨b', l', rfl, hb, hl'⟩ := List.map_eq_cons_iff.mp hl
      unfold firstDuplicate
      rw [ha, hb, ih hl.symm]

/-- Neighbours in order differ throughout exactly when no two rows share a player. -/
theorem firstDuplicate_eq_none_iff {l : List AuthorityCandidate}
    (h : l.Pairwise fun a b => a.playerId ≤ b.playerId) :
    firstDuplicate l = none ↔ (l.map (·.playerId)).Nodup := by
  induction l with
  | nil => exact iff_of_true rfl List.nodup_nil
  | cons a l ih =>
    cases l with
    | nil => exact iff_of_true rfl (List.nodup_singleton _)
    | cons b l =>
      obtain ⟨hfirst, hrest⟩ := List.pairwise_cons.mp h
      unfold firstDuplicate
      rw [List.map_cons, List.nodup_cons]
      by_cases hab : a.playerId = b.playerId
      · rw [if_pos hab]
        refine iff_of_false nofun fun hnodup => hnodup.1 ?_
        rw [hab]
        exact List.mem_map_of_mem List.mem_cons_self
      · rw [if_neg hab, ih hrest]
        refine (and_iff_right fun hmem => ?_).symm
        -- what comes later is at or above `b`, so `a` would be `b`
        obtain ⟨c, hc, hca⟩ := List.mem_map.mp hmem
        rcases List.mem_cons.mp hc with rfl | hc
        · exact hab hca.symm
        · have hbc := (List.pairwise_cons.mp hrest).1 c hc
          exact hab (le_antisymm (hfirst b List.mem_cons_self) (hca ▸ hbc))

def byPlayer (candidates : List AuthorityCandidate) : List AuthorityCandidate :=
  candidates.insertionSort fun a b => a.playerId ≤ b.playerId

theorem map_playerId_byPlayer (candidates : List AuthorityCandidate) :
    (byPlayer candidates).map (·.playerId)
      = (candidates.map (·.playerId)).insertionSort (· ≤ ·) :=
  List.map_insertionSort _ _ _ _ fun _ _ _ _ => .rfl

theorem perm_byPlayer (candidates : List AuthorityCandidate) :
    (byPlayer candidates).Perm candidates :=
  List.perm_insertionSort _ candidates

theorem firstDuplicate_byPlayer_iff (candidates : List AuthorityCandidate) :
    firstDuplicate (byPlayer candidates) = none ↔ (candidates.map (·.playerId)).Nodup := by
  rw [← ((perm_byPlayer candidates).map (·.playerId)).nodup_iff]
  exact firstDuplicate_eq_none_iff
    (List.pairwise_insertionSort_key AuthorityCandidate.playerId candidates)

theorem sortedCandidates_of_nodup {candidates : List AuthorityCandidate}
    (h : (candidates.map (·.playerId)).Nodup) :
    sortedCandidates candidates = .ok (byPlayer candidates) := by
  have hnone := (firstDuplicate_byPlayer_iff candidates).mpr h
  unfold byPlayer at *
  unfold sortedCandidates
  dsimp only
  rw [hnone]

theorem sortedCandidates_of_not_nodup {candidates : List AuthorityCandidate}
    (h : ¬(candidates.map (·.playerId)).Nodup) :
    ∃ player, sortedCandidates candidates = .error (.duplicatePlayer player) := by
  obtain ⟨player, hplayer⟩ := Option.ne_none_iff_exists'.mp
    (mt (firstDuplicate_byPlayer_iff candidates).mp h)
  refine ⟨player, ?_⟩
  unfold byPlayer at hplayer
  unfold sortedCandidates
  dsimp only
  rw [hplayer]

/-- A permutation sorts to the same rows, or to the same duplicate. -/
theorem sortedCandidates_perm {candidates candidates' : List AuthorityCandidate}
    (h : candidates.Perm candidates') :
    sortedCandidates candidates = sortedCandidates candidates' := by
  by_cases hnodup : (candidates.map (·.playerId)).Nodup
  · have hnodup' := (h.map (·.playerId)).nodup_iff.mp hnodup
    rw [sortedCandidates_of_nodup hnodup, sortedCandidates_of_nodup hnodup']
    exact congrArg _ (List.insertionSort_key_perm AuthorityCandidate.playerId hnodup h)
  · -- both name the first duplicate of the same sorted keys
    have hsame : firstDuplicate (byPlayer candidates) = firstDuplicate (byPlayer candidates') := by
      refine firstDuplicate_congr ?_
      rw [map_playerId_byPlayer, map_playerId_byPlayer]
      exact ((List.perm_insertionSort _ _).trans ((h.map _).trans
        (List.perm_insertionSort _ _).symm)).eq_of_pairwise' (List.pairwise_insertionSort _ _)
          (List.pairwise_insertionSort _ _)
    obtain ⟨player, hplayer⟩ := Option.ne_none_iff_exists'.mp
      (mt (firstDuplicate_byPlayer_iff candidates).mp hnodup)
    have hplayer' := hsame ▸ hplayer
    unfold byPlayer at hplayer hplayer'
    unfold sortedCandidates
    dsimp only
    rw [hplayer, hplayer']

/-- **The order of the candidates does not matter.** -/
theorem electAuthorityForRoster_perm {candidates candidates' : List AuthorityCandidate}
    (h : candidates.Perm candidates') (now : UnixMillis) (wire : WireVersion) (rosterSize : ℕ) :
    electAuthorityForRoster candidates now wire rosterSize
      = electAuthorityForRoster candidates' now wire rosterSize := by
  unfold electAuthorityForRoster
  rw [sortedCandidates_perm h, h.length_eq, h.isEmpty_eq]

/-! ## Screening -/

section Screening

variable {now : UnixMillis} {wire : WireVersion} {rosterSize : ℕ}

/-- Invalid, from the future, or at least as old as the freshness limit. -/
def Unusable (now : UnixMillis) (rosterSize : ℕ) (c : AuthorityCandidate) : Prop :=
  c.measurement.validateForRoster rosterSize ≠ .ok () ∨ now < c.measurement.measuredAt
    ∨ c.measurement.measuredAt.toNat + 60000 ≤ now.toNat

variable (now wire rosterSize) in
theorem screenCandidate_ok_iff (c : AuthorityCandidate) :
    (∃ row, screenCandidate now wire rosterSize c = .ok row) ↔ ¬Unusable now rosterSize c := by
  unfold screenCandidate Unusable UInt64.checkedSub
  cases hvalid : c.measurement.validateForRoster rosterSize with
  | error error => exact iff_of_false nofun fun h => h (.inl nofun)
  | ok _ =>
    dsimp only
    by_cases hfuture : c.measurement.measuredAt ≤ now
    · rw [if_pos hfuture]
      have hage : now - c.measurement.measuredAt ≥ MEASUREMENT_FRESHNESS_MS
          ↔ c.measurement.measuredAt.toNat + 60000 ≤ now.toNat := by
        rw [ge_iff_le, UInt64.le_iff_toNat_le, UInt64.toNat_sub_of_le _ _ hfuture,
          show MEASUREMENT_FRESHNESS_MS.toNat = 60000 from rfl]
        rw [UInt64.le_iff_toNat_le] at hfuture
        omega
      dsimp only
      split_ifs with hstale
      · exact iff_of_false nofun fun h => h (.inr (.inr (hage.mp hstale)))
      · refine iff_of_true ⟨_, rfl⟩ ?_
        rintro (hinvalid | hlater | hold)
        · exact hinvalid rfl
        · exact UInt64.not_le.mpr hlater hfuture
        · exact hstale (hage.mpr hold)
    · rw [if_neg hfuture]
      exact iff_of_false nofun fun h => h (.inr (.inl (UInt64.not_le.mp hfuture)))

theorem playerId_of_rejected {c : AuthorityCandidate} {row : RejectedAuthorityCandidate}
    (h : screenCandidate now wire rosterSize c = .error row) : row.playerId = c.playerId := by
  unfold screenCandidate at h
  repeat' split at h
  all_goals first | cases h; rfl | cases h

variable (now wire rosterSize) in
def scoredRows (candidates : List AuthorityCandidate) : List ScoredAuthorityCandidate :=
  (candidates.map (screenCandidate now wire rosterSize)).filterMap fun
    | .ok row => some row
    | .error _ => none

variable (now wire rosterSize) in
def rejectedRows (candidates : List AuthorityCandidate) : List RejectedAuthorityCandidate :=
  (candidates.map (screenCandidate now wire rosterSize)).filterMap fun
    | .ok _ => none
    | .error row => some row

variable (now wire rosterSize) in
/-- Screening splits the candidates: each is scored or rejected, in the order they come. -/
theorem screening_split (candidates : List AuthorityCandidate) :
    ((scoredRows now wire rosterSize candidates).map (·.playerId)
        ++ (rejectedRows now wire rosterSize candidates).map (·.playerId)).Perm
        (candidates.map (·.playerId))
      ∧ ((scoredRows now wire rosterSize candidates).map (·.playerId)).Sublist
        (candidates.map (·.playerId))
      ∧ ((rejectedRows now wire rosterSize candidates).map (·.playerId)).Sublist
        (candidates.map (·.playerId)) := by
  induction candidates with
  | nil => exact ⟨.refl _, .refl _, .refl _⟩
  | cons c candidates ih =>
    obtain ⟨hperm, hscored, hrejected⟩ := ih
    unfold scoredRows rejectedRows at *
    rw [List.map_cons, List.map_cons]
    cases hrow : screenCandidate now wire rosterSize c with
    | ok row =>
      rw [List.filterMap_cons, List.filterMap_cons]
      dsimp only
      rw [List.map_cons, playerId_of_screened hrow, List.cons_append]
      exact ⟨hperm.cons _, hscored.cons_cons _, hrejected.cons _⟩
    | error row =>
      rw [List.filterMap_cons, List.filterMap_cons]
      dsimp only
      rw [List.map_cons, playerId_of_rejected hrow]
      exact ⟨List.perm_middle.trans (hperm.cons _), hscored.cons _, hrejected.cons_cons _⟩

variable (now wire rosterSize) in
theorem scoredRows_eq_nil_iff {candidates : List AuthorityCandidate} :
    scoredRows now wire rosterSize candidates = []
      ↔ ∀ c ∈ candidates, Unusable now rosterSize c := by
  unfold scoredRows
  rw [List.filterMap_eq_nil_iff, List.forall_mem_map]
  refine forall₂_congr fun c _ => ?_
  have hiff := screenCandidate_ok_iff now wire rosterSize c
  cases hrow : screenCandidate now wire rosterSize c with
  | ok row => exact iff_of_false nofun (hiff.mp ⟨row, hrow⟩)
  | error row =>
    rw [hrow] at hiff
    exact iff_of_true rfl (not_not.mp (mt hiff.mpr nofun))

theorem best_eq_none_iff {scored : List ScoredAuthorityCandidate} :
    AuthorityScore.best (participants scored) = none ↔ scored = [] := by
  have hbest : ∀ scores, AuthorityScore.best scores = none ↔ scores = [] := by
    intro scores
    cases scores with
    | nil => exact iff_of_true rfl rfl
    | cons a rest => exact iff_of_false nofun nofun
  rw [hbest]
  unfold participants
  dsimp only
  split_ifs with hempty
  · rw [List.map_eq_nil_iff]
  · refine iff_of_false (fun h => hempty (h ▸ rfl)) fun h => hempty ?_
    rw [h]
    rfl

end Screening

/-! ## Every answer -/

section Outcome

variable {candidates : List AuthorityCandidate} {now : UnixMillis} {wire : WireVersion}
  {rosterSize : ℕ}

variable (now wire) in
/-- Past the checks of the roster the input always has a fingerprint. -/
theorem authorityInputHash_ok (hsize : 2 ≤ rosterSize ∧ candidates.length ≤ rosterSize
    ∧ rosterSize < 2 ^ 32) (hnodup : (candidates.map (·.playerId)).Nodup) :
    ∃ hash, authorityInputHash ⟨AUTHORITY_FORMULA_VERSION, now, wire, UInt32.ofNat rosterSize,
      byPlayer candidates⟩ = .ok hash := by
  have hnodup' : ((byPlayer candidates).map (·.playerId)).Nodup :=
    ((perm_byPlayer candidates).map _).nodup_iff.mpr hnodup
  have hroster : (UInt32.ofNat rosterSize).toNat = rosterSize :=
    UInt32.toNat_ofNat_of_lt' hsize.2.2
  have hguard : ¬(UInt32.ofNat rosterSize < 2
      ∨ (UInt32.ofNat rosterSize).toNat < (byPlayer candidates).length) := by
    rw [UInt32.lt_iff_toNat_lt, hroster, (perm_byPlayer candidates).length_eq,
      show (2 : UInt32).toNat = 2 from rfl]
    omega
  unfold authorityInputHash canonicalElectionInput canonicalMeasurementMatrix
  rw [if_neg hguard]
  dsimp only
  rw [sortedCandidates_of_nodup hnodup']
  exact ⟨_, rfl⟩

/-- The candidates, the roster size and the duplicates, as the election checks them. -/
def RosterRefused (candidates : List AuthorityCandidate) (rosterSize : ℕ) : Prop :=
  candidates = [] ∨ rosterSize < 2 ∨ rosterSize < candidates.length ∨ 2 ^ 32 ≤ rosterSize
    ∨ ¬(candidates.map (·.playerId)).Nodup

variable (now wire) in
theorem electAuthorityForRoster_of_refused (h : RosterRefused candidates rosterSize) :
    ∃ error, electAuthorityForRoster candidates now wire rosterSize = .error error := by
  unfold electAuthorityForRoster
  split_ifs with hempty hsize
  · exact ⟨_, rfl⟩
  · exact ⟨_, rfl⟩
  · rcases h with hnil | hsmall | hshort | hlarge | hduplicate
    · exact absurd (List.isEmpty_iff.mpr hnil) hempty
    · exact absurd (.inl hsmall) hsize
    · exact absurd (.inr (.inl hshort)) hsize
    · exact absurd (.inr (.inr hlarge)) hsize
    · obtain ⟨player, hplayer⟩ := sortedCandidates_of_not_nodup hduplicate
      rw [hplayer]
      exact ⟨_, rfl⟩

variable (now wire) in
theorem electAuthorityForRoster_of_accepted (h : ¬RosterRefused candidates rosterSize) :
    ∃ hash, electAuthorityForRoster candidates now wire rosterSize
      = match AuthorityScore.best (participants
          (scoredRows now wire rosterSize (byPlayer candidates))) with
        | none => .error .noFreshCompleteCandidates
        | some winner => .ok {
            formulaVersion := AUTHORITY_FORMULA_VERSION
            eligible := participants (scoredRows now wire rosterSize (byPlayer candidates))
            winnerPlayerId := winner.playerId
            inputHash := hash
            input := ⟨AUTHORITY_FORMULA_VERSION, now, wire, UInt32.ofNat rosterSize,
              byPlayer candidates⟩
            degraded := (((scoredRows now wire rosterSize (byPlayer candidates)).filter
              (·.isEligible)).map (·.toScore)).isEmpty
            scoredCandidates := scoredRows now wire rosterSize (byPlayer candidates)
            rejectedCandidates := rejectedRows now wire rosterSize (byPlayer candidates) } := by
  unfold RosterRefused at h
  simp only [not_or, not_not, not_lt, not_le] at h
  obtain ⟨hnil, hsmall, hshort, hlarge, hnodup⟩ := h
  obtain ⟨hash, hhash⟩ := authorityInputHash_ok now wire ⟨hsmall, hshort, hlarge⟩ hnodup
  refine ⟨hash, ?_⟩
  unfold electAuthorityForRoster
  rw [if_neg (mt List.isEmpty_iff.mp hnil), if_neg (by omega), sortedCandidates_of_nodup hnodup]
  dsimp only
  rw [hhash]
  rfl

/-- **The ways an election fails.** -/
theorem electAuthorityForRoster_fails_iff :
    (∃ error, electAuthorityForRoster candidates now wire rosterSize = .error error)
      ↔ RosterRefused candidates rosterSize ∨ ∀ c ∈ candidates, Unusable now rosterSize c := by
  by_cases hrefused : RosterRefused candidates rosterSize
  · exact iff_of_true (electAuthorityForRoster_of_refused now wire hrefused) (.inl hrefused)
  rw [or_iff_right hrefused]
  obtain ⟨hash, helect⟩ :=
    electAuthorityForRoster_of_accepted now wire hrefused
  have hall : (∀ c ∈ byPlayer candidates, Unusable now rosterSize c)
      ↔ ∀ c ∈ candidates, Unusable now rosterSize c :=
    forall_congr' fun c => imp_congr_left (perm_byPlayer candidates).mem_iff
  rw [helect, ← hall, ← scoredRows_eq_nil_iff now wire rosterSize, ← best_eq_none_iff]
  cases AuthorityScore.best (participants (scoredRows now wire rosterSize (byPlayer candidates))) with
  | none => exact iff_of_true ⟨_, rfl⟩ rfl
  | some winner => exact iff_of_false nofun nofun

theorem byPlayer_strict (hnodup : (candidates.map (·.playerId)).Nodup) :
    ((byPlayer candidates).map (·.playerId)).Pairwise (· < ·) := by
  have hnodup' : ((byPlayer candidates).map (·.playerId)).Nodup :=
    ((perm_byPlayer candidates).map _).nodup_iff.mpr hnodup
  have hsorted := List.pairwise_map.mpr
    (List.pairwise_insertionSort_key AuthorityCandidate.playerId candidates)
  exact (hsorted.and hnodup').imp fun h => lt_of_le_of_ne h.1 h.2

/-- What a successful election says about its candidates. -/
structure ElectionAnswer (candidates : List AuthorityCandidate) (now : UnixMillis)
    (wire : WireVersion) (rosterSize : ℕ) (e : AuthorityElection) : Prop where
  split : (e.scoredCandidates.map (·.playerId) ++ e.rejectedCandidates.map (·.playerId)).Perm
    (candidates.map (·.playerId))
  exactlyOne : ∀ c ∈ candidates, c.playerId ∈ e.scoredCandidates.map (·.playerId)
    ↔ c.playerId ∉ e.rejectedCandidates.map (·.playerId)
  scoredSorted : e.scoredCandidates.Pairwise fun a b => a.playerId < b.playerId
  rejectedSorted : e.rejectedCandidates.Pairwise fun a b => a.playerId < b.playerId
  screened : ∀ row, row ∈ e.scoredCandidates
    ↔ ∃ c ∈ candidates, screenCandidate now wire rosterSize c = .ok row
  degraded : e.degraded = true ↔ ∀ row ∈ e.scoredCandidates, row.ineligibilityReasons ≠ []
  eligible : e.eligible = (if e.degraded then e.scoredCandidates
    else e.scoredCandidates.filter (·.ineligibilityReasons.isEmpty)).map (·.toScore)
  winner : ∃ winner ∈ e.eligible, winner.playerId = e.winnerPlayerId
    ∧ ∀ row ∈ e.eligible, row.scoreMilli < winner.scoreMilli
      ∨ row.scoreMilli = winner.scoreMilli ∧ winner.playerId ≤ row.playerId

theorem electionAnswer_of_ok {e : AuthorityElection}
    (h : electAuthorityForRoster candidates now wire rosterSize = .ok e) :
    ElectionAnswer candidates now wire rosterSize e := by
  have haccepted : ¬RosterRefused candidates rosterSize := fun hrefused => by
    obtain ⟨error, herror⟩ := electAuthorityForRoster_of_refused now wire hrefused
    exact nomatch h.symm.trans herror
  have hnodup : (candidates.map (·.playerId)).Nodup := by
    unfold RosterRefused at haccepted
    simp only [not_or, not_not] at haccepted
    exact haccepted.2.2.2.2
  have hscreened := (electAuthorityForRoster_ok h).1
  obtain ⟨hash, helect⟩ :=
    electAuthorityForRoster_of_accepted now wire haccepted
  rw [helect] at h
  cases hbest : AuthorityScore.best (participants
      (scoredRows now wire rosterSize (byPlayer candidates))) with
  | none => rw [hbest] at h; exact nomatch h
  | some winner =>
    rw [hbest] at h
    cases h
    obtain ⟨hperm, hscored, hrejected⟩ := screening_split now wire rosterSize
      (byPlayer candidates)
    have hsplit := hperm.trans ((perm_byPlayer candidates).map (·.playerId))
    have hstrict := byPlayer_strict hnodup
    have hempty : (((scoredRows now wire rosterSize (byPlayer candidates)).filter
        (·.isEligible)).map (·.toScore)).isEmpty = true
        ↔ ∀ row ∈ scoredRows now wire rosterSize (byPlayer candidates),
          row.ineligibilityReasons ≠ [] := by
      rw [List.isEmpty_iff, List.map_eq_nil_iff, List.filter_eq_nil_iff]
      refine forall₂_congr fun row _ => ?_
      unfold ScoredAuthorityCandidate.isEligible
      rw [List.isEmpty_iff]
    obtain ⟨hmem, hleast⟩ := AuthorityScore.best_spec hbest
    refine ⟨hsplit, fun c hc => ?_, List.pairwise_map.mp (hstrict.sublist hscored),
      List.pairwise_map.mp (hstrict.sublist hrejected), hscreened, hempty, ?_, winner, hmem, rfl,
      fun row hrow => ?_⟩
    · -- the two lists share nobody and cover everybody
      have hdisjoint := List.nodup_append.mp (hsplit.nodup_iff.mpr hnodup)
      have hmem := hsplit.mem_iff.mpr (List.mem_map_of_mem hc)
      rw [List.mem_append] at hmem
      constructor
      · exact fun hleft hright => hdisjoint.2.2 _ hleft _ hright rfl
      · exact hmem.resolve_right
    · dsimp only
      unfold participants
      dsimp only
      split_ifs <;> rfl
    · rcases AuthorityScore.precedes_iff.mp (hleast row hrow) with hlt | ⟨heq, hid⟩
      · exact .inl hlt
      · exact .inr ⟨heq.symm, hid⟩

/-- **The outcome of an election** depends on the set of candidates only, fails exactly for the
listed reasons, and is otherwise a partition of the candidates with the best participant as its
winner. -/
theorem election_outcome (candidates : List AuthorityCandidate) (now : UnixMillis)
    (wire : WireVersion) (rosterSize : ℕ) :
    (∀ candidates', candidates.Perm candidates' →
        electAuthorityForRoster candidates' now wire rosterSize
          = electAuthorityForRoster candidates now wire rosterSize)
      ∧ ((∃ error, electAuthorityForRoster candidates now wire rosterSize = .error error)
        ↔ candidates = [] ∨ rosterSize < 2 ∨ rosterSize < candidates.length ∨ 2 ^ 32 ≤ rosterSize
          ∨ ¬(candidates.map (·.playerId)).Nodup ∨ ∀ c ∈ candidates, Unusable now rosterSize c)
      ∧ ∀ e, electAuthorityForRoster candidates now wire rosterSize = .ok e →
        ElectionAnswer candidates now wire rosterSize e := by
  refine ⟨fun candidates' h => (electAuthorityForRoster_perm h now wire rosterSize).symm, ?_,
    fun e h => electionAnswer_of_ok h⟩
  rw [electAuthorityForRoster_fails_iff]
  unfold RosterRefused
  simp only [or_assoc]

end Outcome

end Spurfire
