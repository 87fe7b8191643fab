import Spurfire.Lib.OrderedSet
import Spurfire.Net.Admission
import Spurfire.Protocol.ElectionOutcome

/-!
# The migration order refines the election

The order of succession is computed once, from the election of the full roster; an election among
the survivors would be computed from their measurements alone.  Both follow one order on the scored
rows: eligible before ineligible, then higher scores, then smaller identifiers (`Ahead`).

* `winner_ahead`: the winner of an election is ahead of every scored row;
* `pairwise_ahead`: the migration order lists the scored rows by `Ahead`;
* so the first survivor in the order wins the election among the survivors.
-/

namespace Spurfire

/-! ## The order of the scored rows -/

/-- Eligible rows first, then by score. -/
def Ahead (a b : ScoredAuthorityCandidate) : Prop :=
  (a.isEligible ∧ ¬ b.isEligible) ∨ (a.isEligible = b.isEligible ∧ a.toScore.precedes b.toScore)

theorem playerId_eq_of_ahead {a b : ScoredAuthorityCandidate} (hab : Ahead a b) (hba : Ahead b a) :
    a.playerId = b.playerId := by
  rcases hab with ⟨ha, hb⟩ | ⟨heq, hab⟩
  · rcases hba with ⟨hb', -⟩ | ⟨heq, -⟩
    · exact absurd hb' hb
    · exact absurd (heq ▸ ha) hb
  · rcases hba with ⟨hb, ha⟩ | ⟨-, hba⟩
    · exact absurd (heq ▸ hb) ha
    · exact AuthorityScore.playerId_eq_of_precedes hab hba

/-- The winner among the participants is the score of a row that is ahead of all rows. -/
theorem winner_ahead {scored : List ScoredAuthorityCandidate} {w : AuthorityScore}
    (h : AuthorityScore.best (participants scored) = some w) :
    ∃ x ∈ scored, x.toScore = w ∧ ∀ y ∈ scored, Ahead x y := by
  obtain ⟨hmem, hall⟩ := AuthorityScore.best_spec h
  unfold participants at hmem hall
  simp only at hmem hall
  split_ifs at hmem hall with hempty
  · -- nobody is eligible, and everyone takes part
    have hnone : ∀ y ∈ scored, y.isEligible = false := by
      intro y hy
      have := List.isEmpty_iff.mp hempty
      simpa using fun hel => List.eq_nil_iff_forall_not_mem.mp this y.toScore
        (List.mem_map_of_mem (List.mem_filter.mpr ⟨hy, hel⟩))
    obtain ⟨x, hx, rfl⟩ := List.mem_map.mp hmem
    refine ⟨x, hx, rfl, ?_⟩
    intro y hy
    exact .inr ⟨(hnone x hx).trans (hnone y hy).symm, hall _ (List.mem_map_of_mem hy)⟩
  · obtain ⟨x, hx, rfl⟩ := List.mem_map.mp hmem
    obtain ⟨hx, hel⟩ := List.mem_filter.mp hx
    refine ⟨x, hx, rfl, ?_⟩
    intro y hy
    by_cases hy' : y.isEligible
    · exact .inr ⟨hel.trans hy'.symm, hall _ (List.mem_map_of_mem (List.mem_filter.mpr ⟨hy, hy'⟩))⟩
    · exact .inl ⟨hel, hy'⟩

namespace M3SecureSession

/-! ## The order of succession -/

theorem mem_byScore {l : List ScoredAuthorityCandidate} {r : ScoredAuthorityCandidate} :
    r ∈ byScore l ↔ r ∈ l :=
  List.mem_insertionSort _

theorem pairwise_byScore (l : List ScoredAuthorityCandidate) :
    (byScore l).Pairwise fun a b => a.toScore.precedes b.toScore := by
  have : Std.Total fun a b : ScoredAuthorityCandidate => a.toScore.precedes b.toScore = true :=
    ⟨fun a b => AuthorityScore.precedes_total a.toScore b.toScore⟩
  have : IsTrans ScoredAuthorityCandidate fun a b => a.toScore.precedes b.toScore = true :=
    ⟨fun _ _ _ => AuthorityScore.precedes_trans⟩
  exact List.pairwise_insertionSort _ l

/-- The scored rows in the order of succession. -/
def succession (scored : List ScoredAuthorityCandidate) : List ScoredAuthorityCandidate :=
  byScore (scored.filter (·.isEligible)) ++ byScore (scored.filter (!·.isEligible))

/-- The swap of the degraded case does not change the order. -/
theorem electionPreference_eq (election : AuthorityElection) (manifestPlayers : List PlayerId) :
    electionPreference election manifestPlayers
      = (succession election.scoredCandidates).map (·.playerId) ++ manifestPlayers.filter
        fun player => !((succession election.scoredCandidates).map (·.playerId)).contains player := by
  unfold electionPreference succession
  simp only
  split_ifs with hempty
  · have hnil := List.isEmpty_iff.mp hempty
    rw [hnil, List.append_nil, List.nil_append]
  · rfl

theorem mem_succession {scored : List ScoredAuthorityCandidate} {r : ScoredAuthorityCandidate} :
    r ∈ succession scored ↔ r ∈ scored := by
  simp only [succession, List.mem_append, mem_byScore, List.mem_filter]
  cases r.isEligible <;> simp

theorem pairwise_ahead (scored : List ScoredAuthorityCandidate) :
    (succession scored).Pairwise Ahead := by
  have hsame : ∀ {l : List ScoredAuthorityCandidate} {b : Bool}, (∀ r ∈ l, r.isEligible = b) →
      (byScore l).Pairwise Ahead := by
    intro l b hl
    refine (pairwise_byScore l).imp_of_mem ?_
    intro x y hx hy hxy
    exact .inr ⟨(hl x (mem_byScore.mp hx)).trans (hl y (mem_byScore.mp hy)).symm, hxy⟩
  refine List.pairwise_append.mpr ⟨hsame (b := true) ?_, hsame (b := false) ?_, ?_⟩
  · intro r hr
    exact (List.mem_filter.mp hr).2
  · intro r hr
    simpa using (List.mem_filter.mp hr).2
  · intro x hx y hy
    have hx := (List.mem_filter.mp (mem_byScore.mp hx)).2
    have hy := (List.mem_filter.mp (mem_byScore.mp hy)).2
    exact .inl ⟨hx, by simpa using hy⟩

/-- The first player of the order that lies in `S` wins the election among `S`. -/
theorem find?_electionPreference {candidates : List AuthorityCandidate} {now : UnixMillis}
    {wire : WireVersion} {n : ℕ} {election e : AuthorityElection} (players : List PlayerId)
    (S : PlayerId → Bool) (hfull : electAuthorityForRoster candidates now wire n = .ok election)
    (hpart : electAuthorityForRoster (candidates.filter fun c => S c.playerId) now wire n = .ok e) :
    (electionPreference election players).find? S = some e.winnerPlayerId := by
  obtain ⟨hrows, -⟩ := electAuthorityForRoster_ok hfull
  obtain ⟨hrows', w, hbest, hwinner⟩ := electAuthorityForRoster_ok hpart
  obtain ⟨x, hx, rfl, hahead⟩ := winner_ahead hbest
  -- the rows of the election among `S` are the rows of the full election in `S`
  have hsub : ∀ r, r ∈ e.scoredCandidates ↔ r ∈ election.scoredCandidates ∧ S r.playerId := by
    intro r
    rw [hrows, hrows']
    constructor
    · rintro ⟨c, hc, hr⟩
      obtain ⟨hc, hS⟩ := List.mem_filter.mp hc
      exact ⟨⟨c, hc, hr⟩, by rw [playerId_of_screened hr]; exact hS⟩
    · rintro ⟨⟨c, hc, hr⟩, hS⟩
      rw [playerId_of_screened hr] at hS
      exact ⟨c, List.mem_filter.mpr ⟨hc, hS⟩, hr⟩
  obtain ⟨hxfull, hxS⟩ := (hsub x).mp hx
  have hxmem := mem_succession.mpr hxfull
  rw [electionPreference_eq, List.find?_append, List.find?_map]
  cases hfirst : (succession election.scoredCandidates).find? (S ∘ (·.playerId)) with
  | none => exact absurd hxS (List.find?_eq_none.mp hfirst x hxmem)
  | some y =>
    have hyS : (S ∘ (·.playerId)) y := List.find?_some hfirst
    have hy : y ∈ e.scoredCandidates :=
      (hsub y).mpr ⟨mem_succession.mp (List.mem_of_find?_eq_some hfirst), hyS⟩
    have hid : y.playerId = x.playerId := by
      rcases List.find?_pairwise (pairwise_ahead _) hfirst hxmem hxS with rfl | hyx
      · rfl
      · exact playerId_eq_of_ahead hyx (hahead y hy)
    simp only [Option.map_some, Option.some_or, hid]
    exact congrArg some hwinner

/-! ## Configuration -/

/-- What a successful configuration has checked and installed. -/
theorem configureMigrationElection_true {s t : M3SecureSession} {response : AuthorityResponse}
    (h : s.configureMigrationElection response = (true, t)) :
    ∃ election, electAuthorityForRoster response.input.candidates response.input.electionAt
        response.input.expectedWireVersion s.manifest.entries.length = .ok election ∧
      election.toResponse = response ∧ response.winnerPlayerId = s.state.authority ∧
      (∀ p, p ∈ response.input.candidates.map (·.playerId) ↔
        p ∈ s.manifest.entries.map (·.playerId)) ∧
      t.state.migrationPreference = electionPreference election
        (orderedSet (s.manifest.entries.map (·.playerId))) ∧
      t.state.migrationPreference.Nodup ∧ t.state.authority = s.state.authority := by
  unfold configureMigrationElection at h
  simp only at h
  split at h
  · cases h
  · next hguard =>
    obtain ⟨-, hguard⟩ := not_or.mp hguard
    obtain ⟨hplayers, hwinner⟩ := not_or.mp hguard
    have hsame : ∀ p, p ∈ response.input.candidates.map (·.playerId) ↔
        p ∈ s.manifest.entries.map (·.playerId) := by
      intro p
      rw [← mem_orderedSet, not_not.mp hplayers, mem_orderedSet]
    split at h
    · cases h
    · next election helection =>
      split at h
      · cases h
      · next hresponse =>
        unfold SessionState.configureMigrationPreference at h
        split_ifs at h with hcover
        · cases h
        · obtain ⟨hlength, -⟩ := not_or.mp hcover
          cases h
          exact ⟨election, helection, not_not.mp hresponse, not_not.mp hwinner, hsame, rfl,
            length_orderedSet_eq_iff.mp (not_not.mp hlength), rfl⟩

/-- **The migration order refines the election.**  A configured order lists exactly the players of
the manifest, once each, and starts with the winner, who is the authority; and for every set of
survivors whose own election succeeds, the first survivor in the order is its winner. -/
theorem preference_refines_election (s t : M3SecureSession) (response : AuthorityResponse)
    (h : s.configureMigrationElection response = (true, t)) :
    t.state.migrationPreference.Nodup ∧
      (∀ p, p ∈ t.state.migrationPreference ↔ p ∈ s.manifest.entries.map (·.playerId)) ∧
      t.state.migrationPreference.head? = some response.winnerPlayerId ∧
      response.winnerPlayerId = t.state.authority ∧
      ∀ (S : Finset PlayerId) (e : AuthorityElection),
        electAuthorityForRoster (response.input.candidates.filter fun c => decide (c.playerId ∈ S))
            response.input.electionAt response.input.expectedWireVersion
            s.manifest.entries.length = .ok e →
          t.state.migrationPreference.find? (fun p => decide (p ∈ S)) = some e.winnerPlayerId := by
  obtain ⟨election, helection, hresponse, hwinner, hplayers, hpreference, hnodup, hauthority⟩ :=
    configureMigrationElection_true h
  refine ⟨hnodup, ?_, ?_, hwinner.trans hauthority.symm, ?_⟩
  · intro p
    rw [hpreference, electionPreference_eq]
    simp only [List.mem_append, List.mem_filter, mem_orderedSet]
    constructor
    · rintro (hscored | ⟨hp, -⟩)
      · obtain ⟨r, hr, rfl⟩ := List.mem_map.mp hscored
        obtain ⟨c, hc, hscreen⟩ :=
          ((electAuthorityForRoster_ok helection).1 r).mp (mem_succession.mp hr)
        rw [playerId_of_screened hscreen, ← hplayers]
        exact List.mem_map_of_mem hc
      · exact hp
    · intro hp
      by_cases hscored : p ∈ (succession election.scoredCandidates).map (·.playerId)
      · exact .inl hscored
      · exact .inr ⟨hp, by simpa using hscored⟩
  · -- the full roster is the survivor set `fun _ => true`
    have hall : electAuthorityForRoster (response.input.candidates.filter fun _ => true)
        response.input.electionAt response.input.expectedWireVersion s.manifest.entries.length
        = .ok election := by
      rw [List.filter_true]
      exact helection
    have hfirst := find?_electionPreference (orderedSet (s.manifest.entries.map (·.playerId)))
      (fun _ => true) helection hall
    rw [← hpreference] at hfirst
    rw [← hresponse]
    cases hlist : t.state.migrationPreference with
    | nil => rw [hlist] at hfirst; cases hfirst
    | cons p rest =>
      rw [hlist, List.find?_cons] at hfirst
      exact hfirst
  · intro S e he
    rw [hpreference]
    exact find?_electionPreference _ (fun p => decide (p ∈ S)) helection he

/-- A candidate with one direct peer, measured a second before the election at 100000 ms. -/
def referenceCandidate (n : UInt8) (rtt : UInt32) : AuthorityCandidate where
  playerId := referencePlayer n
  wireVersion := M3_WIRE_VERSION
  joinedAt := 10000
  measurement :=
    { routeSummary := ⟨1, 0, 0⟩
      rttMsMedian := rtt
      rttMsWorst := 2 * rtt
      jitterMs := 5
      lossPctMilli := 100
      uploadMbpsSustained := 10
      devicePerfScore := 800
      observedPeerCount := 1
      measuredAt := 99000 }

def referenceElection : Except AuthorityElectionError AuthorityElection :=
  electAuthorityForRoster [referenceCandidate 1 20, referenceCandidate 2 40] 100000 M3_WIRE_VERSION 2

/-- Player 2 configures the election that player 1 won. -/
theorem preference_refines_election_two :
    ∃ response t, (referenceSession [1, 2] 2).configureMigrationElection response = (true, t) ∧
      t.state.migrationPreference.head? = some response.winnerPlayerId ∧
      response.winnerPlayerId = t.state.authority := by
  have heval : (match referenceElection with
      | .ok e => ((referenceSession [1, 2] 2).configureMigrationElection e.toResponse).1
      | .error _ => false) = true := by decide +kernel
  cases helection : referenceElection with
  | error error =>
    rw [helection] at heval
    cases heval
  | ok e =>
    rw [helection] at heval
    have hconfigured : (referenceSession [1, 2] 2).configureMigrationElection e.toResponse
        = (true, _) := Prod.ext heval rfl
    obtain ⟨-, -, hhead, hauthority, -⟩ := preference_refines_election _ _ _ hconfigured
    exact ⟨_, _, hconfigured, hhead, hauthority⟩

end M3SecureSession

end Spurfire
