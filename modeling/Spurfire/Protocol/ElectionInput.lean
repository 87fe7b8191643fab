import Spurfire.Protocol.ElectionOutcome

/-!
# What an election fingerprint determines

The canonical bytes of an election input (`election.rs`) put its formula, its time, its wire version
and its roster size before the sorted rows of the candidates.

* `delimits_measurementRow`: a row tells where it ends and what its candidate is;
* **`canonicalElectionInput_eq_iff`**: two inputs have the same bytes exactly when they agree up to
  the order of their candidates.
-/

namespace Spurfire

open Wire

/-- The ten measured numbers of a row. -/
def measuredValues (m : ConnectivitySample) : List UInt32 :=
  [m.routeSummary.directCount, m.routeSummary.peerRelayCount, m.routeSummary.derpCount,
    m.rttMsMedian, m.rttMsWorst, m.jitterMs, m.lossPctMilli, m.uploadMbpsSustained,
    m.devicePerfScore, m.observedPeerCount]

theorem sample_eq {m m' : ConnectivitySample} (hvalues : measuredValues m = measuredValues m')
    (hat : m.measuredAt = m'.measuredAt) : m = m' := by
  obtain ⟨⟨_, _, _⟩, _, _, _, _, _, _, _, _⟩ := m
  obtain ⟨⟨_, _, _⟩, _, _, _, _, _, _, _, _⟩ := m'
  simp only [measuredValues, List.cons.injEq, and_true] at hvalues
  obtain ⟨rfl, rfl, rfl, rfl, rfl, rfl, rfl, rfl, rfl, rfl⟩ := hvalues
  obtain rfl := hat
  rfl

theorem canonicalMeasurementRow_eq (c : AuthorityCandidate) :
    canonicalMeasurementRow c = c.playerId.asBytes
      ++ (beBytes 2 c.wireVersion.major.toNat ++ (beBytes 2 c.wireVersion.minor.toNat
      ++ (beBytes 8 c.joinedAt.toNat ++ (beBytes 8 c.measurement.measuredAt.toNat
      ++ rows (fun v : UInt32 => beBytes 4 v.toNat) (measuredValues c.measurement))))) := by
  unfold canonicalMeasurementRow rows measuredValues
  simp only [List.append_assoc]

/-- A row tells where it ends and what its candidate is. -/
theorem delimits_measurementRow : Delimits canonicalMeasurementRow := by
  intro c d s t _ _ e
  rw [canonicalMeasurementRow_eq, canonicalMeasurementRow_eq] at e
  simp only [List.append_assoc] at e
  obtain ⟨hplayer, e⟩ := ProtocolId.uniq_asBytes.split trivial trivial e
  obtain ⟨hmajor, e⟩ := Delimits.word16.split e
  obtain ⟨hminor, e⟩ := Delimits.word16.split e
  obtain ⟨hjoined, e⟩ := Delimits.word64.split e
  obtain ⟨hat, e⟩ := Delimits.word64.split e
  have hcount : (measuredValues c.measurement).length = (measuredValues d.measurement).length := rfl
  obtain ⟨hvalues, hrest⟩ := rows_split Delimits.word32 hcount (fun _ _ => trivial)
    (fun _ _ => trivial) e
  have hmeasurement := sample_eq hvalues hat
  obtain ⟨playerId, ⟨major, minor⟩, joinedAt, m⟩ := c
  obtain ⟨playerId', ⟨major', minor'⟩, joinedAt', m'⟩ := d
  cases hplayer
  cases hmajor
  cases hminor
  cases hjoined
  cases hmeasurement
  exact ⟨rfl, hrest⟩

/-- The rows of a matrix are those of the candidates in player order. -/
theorem canonicalMeasurementMatrix_ok {candidates : List AuthorityCandidate} {bytes : List UInt8}
    (h : canonicalMeasurementMatrix candidates = .ok bytes) :
    bytes = rows canonicalMeasurementRow (byPlayer candidates) := by
  unfold canonicalMeasurementMatrix at h
  by_cases hnodup : (candidates.map (·.playerId)).Nodup
  · rw [sortedCandidates_of_nodup hnodup] at h
    exact (Except.ok.inj h).symm
  · obtain ⟨player, hplayer⟩ := sortedCandidates_of_not_nodup hnodup
    rw [hplayer] at h
    cases h

def formulaBytes (input : AuthorityElectionInput) : List UInt8 :=
  input.formulaVersion.toByteArray.data.toList

theorem formulaVersion_eq {a b : AuthorityElectionInput} (h : formulaBytes a = formulaBytes b) :
    a.formulaVersion = b.formulaVersion :=
  String.toByteArray_inj.mp (ByteArray.ext (Array.toList_inj.mp h))

theorem canonicalElectionInput_ok {input : AuthorityElectionInput} {bytes : List UInt8}
    (h : canonicalElectionInput input = .ok bytes) :
    input.candidates.length ≤ input.rosterSize.toNat ∧ bytes = CANONICAL_PREFIX
      ++ (beBytes 4 ((formulaBytes input).length % 2 ^ 32) ++ (formulaBytes input
      ++ (beBytes 8 input.electionAt.toNat ++ (beBytes 2 input.expectedWireVersion.major.toNat
      ++ (beBytes 2 input.expectedWireVersion.minor.toNat ++ (beBytes 4 input.rosterSize.toNat
      ++ (beBytes 4 (input.candidates.length % 2 ^ 32)
      ++ rows canonicalMeasurementRow (byPlayer input.candidates)))))))) := by
  unfold canonicalElectionInput at h
  split_ifs at h with hsize
  rw [not_or, Nat.not_lt] at hsize
  cases hmatrix : canonicalMeasurementMatrix input.candidates with
  | error error =>
    rw [hmatrix] at h
    cases h
  | ok matrix =>
    rw [hmatrix] at h
    refine ⟨hsize.2, (Except.ok.inj h).symm.trans ?_⟩
    rw [canonicalMeasurementMatrix_ok hmatrix]
    simp only [List.append_assoc, formulaBytes]

/-- Inputs that agree up to the order of their candidates have the same bytes. -/
theorem canonicalElectionInput_perm {a b : AuthorityElectionInput}
    (hformula : a.formulaVersion = b.formulaVersion) (hat : a.electionAt = b.electionAt)
    (hwire : a.expectedWireVersion = b.expectedWireVersion) (hroster : a.rosterSize = b.rosterSize)
    (hperm : a.candidates.Perm b.candidates) :
    canonicalElectionInput a = canonicalElectionInput b := by
  unfold canonicalElectionInput canonicalMeasurementMatrix
  rw [hformula, hat, hwire, hroster, sortedCandidates_perm hperm, hperm.length_eq]

/-- **Two election inputs have the same canonical bytes exactly when they agree up to the order of
their candidates**. -/
theorem canonicalElectionInput_eq_iff {a b : AuthorityElectionInput} {bytes bytes' : List UInt8}
    (ha : a.formulaVersion.utf8ByteSize < 2 ^ 32) (hb : b.formulaVersion.utf8ByteSize < 2 ^ 32)
    (hok : canonicalElectionInput a = .ok bytes) (hok' : canonicalElectionInput b = .ok bytes') :
    bytes = bytes' ↔ a.formulaVersion = b.formulaVersion ∧ a.electionAt = b.electionAt
      ∧ a.expectedWireVersion = b.expectedWireVersion ∧ a.rosterSize = b.rosterSize
      ∧ a.candidates.Perm b.candidates := by
  constructor
  · intro e
    obtain ⟨hsize, rfl⟩ := canonicalElectionInput_ok hok
    obtain ⟨hsize', rfl⟩ := canonicalElectionInput_ok hok'
    have hlength : (formulaBytes a).length < 2 ^ 32 := ha
    have hlength' : (formulaBytes b).length < 2 ^ 32 := hb
    have hcount := lt_of_le_of_lt hsize a.rosterSize.toNat_lt
    have hcount' := lt_of_le_of_lt hsize' b.rosterSize.toNat_lt
    rw [Nat.mod_eq_of_lt hlength, Nat.mod_eq_of_lt hlength', Nat.mod_eq_of_lt hcount,
      Nat.mod_eq_of_lt hcount'] at e
    have e := List.append_cancel_left e
    obtain ⟨hformulas, e⟩ := (uniq_beBytes 4).split hlength hlength' e
    obtain ⟨hformula, e⟩ := List.append_inj e hformulas
    obtain ⟨hat, e⟩ := Delimits.word64.split e
    obtain ⟨hmajor, e⟩ := Delimits.word16.split e
    obtain ⟨hminor, e⟩ := Delimits.word16.split e
    obtain ⟨hroster, e⟩ := Delimits.word32.split e
    obtain ⟨hcandidates, e⟩ := (uniq_beBytes 4).split hcount hcount' e
    have hrows : (byPlayer a.candidates).length = (byPlayer b.candidates).length := by
      rw [(perm_byPlayer _).length_eq, (perm_byPlayer _).length_eq, hcandidates]
    have hsorted : byPlayer a.candidates = byPlayer b.candidates := by
      refine (rows_split (s := []) (t := []) delimits_measurementRow hrows (fun _ _ => trivial)
        (fun _ _ => trivial) ?_).1
      rw [List.append_nil, List.append_nil, e]
    have hwire : a.expectedWireVersion = b.expectedWireVersion :=
      congrArg₂ WireVersion.mk hmajor hminor
    refine ⟨formulaVersion_eq hformula, hat, hwire, hroster, ?_⟩
    exact (perm_byPlayer a.candidates).symm.trans (hsorted ▸ perm_byPlayer b.candidates)
  · rintro ⟨hformula, hat, hwire, hroster, hperm⟩
    rw [canonicalElectionInput_perm hformula hat hwire hroster hperm, hok'] at hok
    exact (Except.ok.inj hok).symm

/-- The two riders of an election, in either order. -/
def listedInput (candidates : List AuthorityCandidate) : AuthorityElectionInput :=
  ⟨AUTHORITY_FORMULA_VERSION, 60000, CURRENT_WIRE_VERSION, 2, candidates⟩

def measuredRider (playerId : PlayerId) : AuthorityCandidate :=
  ⟨playerId, CURRENT_WIRE_VERSION, 1000, ⟨⟨1, 0, 0⟩, 20, 30, 5, 0, 20, 900, 1, 50000⟩⟩

def firstListed : AuthorityElectionInput :=
  listedInput [measuredRider (.ofTail 1),
    measuredRider (.ofTail 2)]

def secondListed : AuthorityElectionInput :=
  listedInput [measuredRider (.ofTail 2),
    measuredRider (.ofTail 1)]

theorem canonicalElectionInput_eq_iff_listed :
    ∃ bytes, canonicalElectionInput firstListed = .ok bytes
      ∧ canonicalElectionInput secondListed = .ok bytes := by
  have hok : (canonicalElectionInput firstListed).isOk = true := by decide +kernel
  have hok' : (canonicalElectionInput secondListed).isOk = true := by decide +kernel
  cases hfirst : canonicalElectionInput firstListed with
  | error error => rw [hfirst] at hok; exact nomatch hok
  | ok bytes =>
    cases hsecond : canonicalElectionInput secondListed with
    | error error => rw [hsecond] at hok'; exact nomatch hok'
    | ok bytes' =>
      have hsame := (canonicalElectionInput_eq_iff (by decide +kernel) (by decide +kernel) hfirst
        hsecond).mpr ⟨rfl, rfl, rfl, rfl, List.Perm.swap _ _ _⟩
      exact ⟨bytes, rfl, hsame ▸ rfl⟩

end Spurfire
