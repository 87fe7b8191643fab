import Spurfire.Protocol.Lobby

/-!
# What the election score measures

The integer score of `election.rs`, `scoreMeasurement`, for a measurement that passed
`validateForRoster` in a roster of at most `MAX_PLAYERS`.

* `toNat_normalizePositive`, `toNat_normalizeInverse`: the normalised terms as plain quotients;
* `toNat_scoreMilli`: the score is the floored weighted sum less the two floored relay penalties;
* `Better`: one measured value improves, or one route is upgraded;
* **`scoreMeasurement_bounded_and_monotone`**: no step overflows, every term stays in `0..=1000`
  and the score of a better measurement is no smaller.
-/

namespace Spurfire

/-! ## Terms -/

def share (value maximum : ℕ) : ℕ :=
  min value maximum * 1000 / maximum

theorem share_le (value maximum : ℕ) : share value maximum ≤ 1000 := by
  have h : min value maximum * 1000 ≤ 1000 * maximum := by omega
  exact Nat.div_le_of_le_mul (by rwa [Nat.mul_comm maximum])

theorem share_mono {a b : ℕ} (h : a ≤ b) (maximum : ℕ) : share a maximum ≤ share b maximum := by
  have hmin : min a maximum * 1000 ≤ min b maximum * 1000 := by omega
  exact Nat.div_le_div_right hmin

/-- What is left of `maximum` after `value`, in thousandths. -/
def headroom (value maximum : ℕ) : ℕ :=
  (maximum - min value maximum) * 1000 / maximum

theorem headroom_le (value maximum : ℕ) : headroom value maximum ≤ 1000 := by
  have h : (maximum - min value maximum) * 1000 ≤ 1000 * maximum := by omega
  exact Nat.div_le_of_le_mul (by rwa [Nat.mul_comm maximum])

theorem headroom_anti {a b : ℕ} (h : a ≤ b) (maximum : ℕ) :
    headroom b maximum ≤ headroom a maximum := by
  have hleft : (maximum - min b maximum) * 1000 ≤ (maximum - min a maximum) * 1000 := by omega
  exact Nat.div_le_div_right hleft

section Normalised

variable {maximum : UInt32} (value : UInt32)

theorem positive_fits (hmax : maximum.toNat ≤ 10000) :
    (min value maximum).toNat * 1000 < 2 ^ 32 := by
  rw [UInt32.toNat_min]
  omega

theorem inverse_fits (hmax : maximum.toNat ≤ 10000) :
    (maximum.satSub (min value maximum)).toNat * 1000 < 2 ^ 32 := by
  rw [UInt32.toNat_satSub]
  omega

theorem toNat_normalizePositive (hmax : maximum.toNat ≤ 10000) :
    (normalizePositive value maximum).toNat = share value.toNat maximum.toNat := by
  have hfits := positive_fits value hmax
  unfold normalizePositive share
  rw [UInt32.toNat_div, UInt32.toNat_satMul_of_lt hfits, UInt32.toNat_min]
  rfl

theorem toNat_normalizeInverse (hmax : maximum.toNat ≤ 10000) :
    (normalizeInverse value maximum).toNat = headroom value.toNat maximum.toNat := by
  have hfits := inverse_fits value hmax
  unfold normalizeInverse headroom
  rw [UInt32.toNat_div, UInt32.toNat_satMul_of_lt hfits, UInt32.toNat_satSub, UInt32.toNat_min]
  rfl

end Normalised

/-! ## The score -/

/-- The weighted terms before the division, without the direct routes. -/
def linkTotal (m : ConnectivitySample) : ℕ :=
  230 * headroom m.rttMsMedian.toNat 200 + 140 * headroom m.rttMsWorst.toNat 400
    + 90 * headroom m.jitterMs.toNat 50 + 90 * headroom m.lossPctMilli.toNat 10000
    + 90 * share m.uploadMbpsSustained.toNat 20 + 90 * min m.devicePerfScore.toNat 1000

/-- What `relays` of `peers` cost when each costs `price` in thousandths. -/
def relayPenalty (price relays peers : ℕ) : ℕ :=
  min relays peers * price / peers

theorem relayPenalty_le (price relays peers : ℕ) : relayPenalty price relays peers ≤ price := by
  have h : min relays peers * price ≤ peers * price := by
    exact Nat.mul_le_mul_right price (min_le_right relays peers)
  exact Nat.div_le_of_le_mul h

theorem linkTotal_le (m : ConnectivitySample) : linkTotal m ≤ 730000 := by
  have hmedian := headroom_le m.rttMsMedian.toNat 200
  have hworst := headroom_le m.rttMsWorst.toNat 400
  have hjitter := headroom_le m.jitterMs.toNat 50
  have hloss := headroom_le m.lossPctMilli.toNat 10000
  have hupload := share_le m.uploadMbpsSustained.toNat 20
  unfold linkTotal
  omega

/-- No step of the score leaves its word. -/
structure NoOverflow (m : ConnectivitySample) (peerCount : UInt32) : Prop where
  direct : (min m.routeSummary.directCount peerCount).toNat * 1000 < 2 ^ 32
  medianRtt : ((200 : UInt32).satSub (min m.rttMsMedian 200)).toNat * 1000 < 2 ^ 32
  worstRtt : ((400 : UInt32).satSub (min m.rttMsWorst 400)).toNat * 1000 < 2 ^ 32
  jitter : ((50 : UInt32).satSub (min m.jitterMs 50)).toNat * 1000 < 2 ^ 32
  loss : ((10000 : UInt32).satSub (min m.lossPctMilli 10000)).toNat * 1000 < 2 ^ 32
  upload : (min m.uploadMbpsSustained 20).toNat * 1000 < 2 ^ 32
  weightedSum : let b := scoreMeasurement m peerCount
    270 * b.directMilli.toNat + 230 * b.medianRttMilli.toNat + 140 * b.worstRttMilli.toNat
      + 90 * b.jitterMilli.toNat + 90 * b.lossMilli.toNat + 90 * b.uploadMilli.toNat
      + 90 * b.devicePerformanceMilli.toNat < 2 ^ 64
  weightedScore : let b := scoreMeasurement m peerCount
    (270 * b.directMilli.toNat + 230 * b.medianRttMilli.toNat + 140 * b.worstRttMilli.toNat
      + 90 * b.jitterMilli.toNat + 90 * b.lossMilli.toNat + 90 * b.uploadMilli.toNat
      + 90 * b.devicePerformanceMilli.toNat) / 1000 < 2 ^ 32
  derpRelay : (min m.routeSummary.derpCount peerCount).toNat * 300 < 2 ^ 32
  peerRelay : (min m.routeSummary.peerRelayCount peerCount).toNat * 150 < 2 ^ 32
  relays : (scoreMeasurement m peerCount).derpRelayPenaltyMilli.toNat
    + (scoreMeasurement m peerCount).peerRelayPenaltyMilli.toNat < 2 ^ 32

/-- Every normalised term and the score lie in `0..=1000`. -/
structure TermsInRange (b : AuthorityScoreBreakdown) : Prop where
  direct : b.directMilli ≤ 1000
  medianRtt : b.medianRttMilli ≤ 1000
  worstRtt : b.worstRttMilli ≤ 1000
  jitter : b.jitterMilli ≤ 1000
  loss : b.lossMilli ≤ 1000
  upload : b.uploadMilli ≤ 1000
  devicePerformance : b.devicePerformanceMilli ≤ 1000
  score : b.scoreMilli ≤ 1000

section Score

variable (m : ConnectivitySample) {peerCount : UInt32}

def weightedScore (m : ConnectivitySample) (peers : ℕ) : ℕ :=
  (270 * share m.routeSummary.directCount.toNat peers + linkTotal m) / 1000

theorem weightedScore_le (peers : ℕ) : weightedScore m peers ≤ 1000 := by
  have hdirect := share_le m.routeSummary.directCount.toNat peers
  have hlink := linkTotal_le m
  unfold weightedScore
  omega

theorem toNat_devicePerformance :
    (scoreMeasurement m peerCount).devicePerformanceMilli.toNat
      = min m.devicePerfScore.toNat 1000 :=
  UInt32.toNat_min m.devicePerfScore 1000

/-- The seven weighted terms add up to the natural sum. -/
theorem weightedSum_eq (hpeers : peerCount.toNat ≤ 10000) :
    let b := scoreMeasurement m peerCount
    270 * b.directMilli.toNat + 230 * b.medianRttMilli.toNat + 140 * b.worstRttMilli.toNat
      + 90 * b.jitterMilli.toNat + 90 * b.lossMilli.toNat + 90 * b.uploadMilli.toNat
      + 90 * b.devicePerformanceMilli.toNat
    = 270 * share m.routeSummary.directCount.toNat peerCount.toNat + linkTotal m := by
  intro b
  have hdirect : b.directMilli.toNat = share m.routeSummary.directCount.toNat peerCount.toNat :=
    toNat_normalizePositive _ hpeers
  have hmedian : b.medianRttMilli.toNat = headroom m.rttMsMedian.toNat 200 :=
    toNat_normalizeInverse _ (by decide)
  have hworst : b.worstRttMilli.toNat = headroom m.rttMsWorst.toNat 400 :=
    toNat_normalizeInverse _ (by decide)
  have hjitter : b.jitterMilli.toNat = headroom m.jitterMs.toNat 50 :=
    toNat_normalizeInverse _ (by decide)
  have hloss : b.lossMilli.toNat = headroom m.lossPctMilli.toNat 10000 :=
    toNat_normalizeInverse _ (by decide)
  have hupload : b.uploadMilli.toNat = share m.uploadMbpsSustained.toNat 20 :=
    toNat_normalizePositive _ (by decide)
  have hdevice : b.devicePerformanceMilli.toNat = min m.devicePerfScore.toNat 1000 :=
    toNat_devicePerformance m
  unfold linkTotal
  omega

/-- The 64-bit sum of the weighted terms, narrowed, is the natural one. -/
theorem toNat_weighted {a b c d e f g : UInt32}
    (hsum : 270 * a.toNat + 230 * b.toNat + 140 * c.toNat + 90 * d.toNat + 90 * e.toNat
      + 90 * f.toNat + 90 * g.toNat < 2 ^ 32) :
    ((270 * a.toUInt64 + 230 * b.toUInt64 + 140 * c.toUInt64 + 90 * d.toUInt64 + 90 * e.toUInt64
      + 90 * f.toUInt64 + 90 * g.toUInt64) / 1000).toUInt32.toNat
    = (270 * a.toNat + 230 * b.toNat + 140 * c.toNat + 90 * d.toNat + 90 * e.toNat
      + 90 * f.toNat + 90 * g.toNat) / 1000 := by
  simp only [UInt64.toNat_toUInt32, UInt64.toNat_div, UInt64.toNat_add, UInt64.toNat_mul,
    UInt32.toNat_toUInt64, UInt64.reduceToNat]
  simp (disch := omega) only [Nat.mod_eq_of_lt]

theorem toNat_weightedScore (hpeers : peerCount.toNat ≤ 10000) :
    (scoreMeasurement m peerCount).weightedScoreMilli.toNat
      = weightedScore m peerCount.toNat := by
  have hsum := weightedSum_eq m hpeers
  have hlink := linkTotal_le m
  have hdirect := share_le m.routeSummary.directCount.toNat peerCount.toNat
  have hwords : (scoreMeasurement m peerCount).weightedScoreMilli.toNat
      = (270 * (scoreMeasurement m peerCount).directMilli.toNat
        + 230 * (scoreMeasurement m peerCount).medianRttMilli.toNat
        + 140 * (scoreMeasurement m peerCount).worstRttMilli.toNat
        + 90 * (scoreMeasurement m peerCount).jitterMilli.toNat
        + 90 * (scoreMeasurement m peerCount).lossMilli.toNat
        + 90 * (scoreMeasurement m peerCount).uploadMilli.toNat
        + 90 * (scoreMeasurement m peerCount).devicePerformanceMilli.toNat) / 1000 :=
    toNat_weighted (hsum.le.trans_lt (by omega))
  rw [hwords, hsum]
  rfl

theorem relay_fits (price : UInt32) (hprice : price.toNat ≤ 1000) (relays : UInt32)
    (hpeers : peerCount.toNat ≤ 10000) :
    (min relays peerCount).toNat * price.toNat < 2 ^ 32 := by
  rw [UInt32.toNat_min]
  have hmin : min relays.toNat peerCount.toNat ≤ 10000 := by omega
  have hmul := Nat.mul_le_mul hmin hprice
  omega

theorem toNat_relayPenalty (price : UInt32) (hprice : price.toNat ≤ 1000) (relays : UInt32)
    (hpeers : peerCount.toNat ≤ 10000) :
    ((min relays peerCount).satMul price / peerCount).toNat
      = relayPenalty price.toNat relays.toNat peerCount.toNat := by
  have hfits := relay_fits price hprice relays hpeers
  unfold relayPenalty
  rw [UInt32.toNat_div, UInt32.toNat_satMul_of_lt hfits, UInt32.toNat_min]

theorem toNat_relays (hpeers : peerCount.toNat ≤ 10000) :
    (scoreMeasurement m peerCount).derpRelayPenaltyMilli.toNat
        = relayPenalty 300 m.routeSummary.derpCount.toNat peerCount.toNat
      ∧ (scoreMeasurement m peerCount).peerRelayPenaltyMilli.toNat
        = relayPenalty 150 m.routeSummary.peerRelayCount.toNat peerCount.toNat :=
  ⟨toNat_relayPenalty 300 (by decide) _ hpeers, toNat_relayPenalty 150 (by decide) _ hpeers⟩

theorem noOverflow (hpeers : peerCount.toNat ≤ 10000) : NoOverflow m peerCount := by
  have hsum := weightedSum_eq m hpeers
  have hlink := linkTotal_le m
  have hdirect := share_le m.routeSummary.directCount.toNat peerCount.toNat
  obtain ⟨hderp, hpeer⟩ := toNat_relays m hpeers
  have hderpLe := relayPenalty_le 300 m.routeSummary.derpCount.toNat peerCount.toNat
  have hpeerLe := relayPenalty_le 150 m.routeSummary.peerRelayCount.toNat peerCount.toNat
  exact {
    direct := positive_fits _ hpeers
    medianRtt := inverse_fits _ (by decide)
    worstRtt := inverse_fits _ (by decide)
    jitter := inverse_fits _ (by decide)
    loss := inverse_fits _ (by decide)
    upload := positive_fits _ (by decide)
    weightedSum := by
      intro b
      rw [hsum]
      omega
    weightedScore := by
      intro b
      rw [hsum]
      omega
    derpRelay := relay_fits 300 (by decide) _ hpeers
    peerRelay := relay_fits 150 (by decide) _ hpeers
    relays := by
      rw [hderp, hpeer]
      omega }

/-- The floored weighted sum less the two floored relay penalties. -/
def plainScore (m : ConnectivitySample) (peers : ℕ) : ℕ :=
  weightedScore m peers - (relayPenalty 300 m.routeSummary.derpCount.toNat peers
    + relayPenalty 150 m.routeSummary.peerRelayCount.toNat peers)

theorem plainScore_le (peers : ℕ) : plainScore m peers ≤ 1000 :=
  (Nat.sub_le _ _).trans (weightedScore_le m peers)

theorem toNat_scoreMilli (hpeers : peerCount.toNat ≤ 10000) :
    (scoreMeasurement m peerCount).scoreMilli.toNat = plainScore m peerCount.toNat := by
  obtain ⟨hderp, hpeer⟩ := toNat_relays m hpeers
  have hrelays := (noOverflow m hpeers).relays
  have hscore : (scoreMeasurement m peerCount).scoreMilli
      = (scoreMeasurement m peerCount).weightedScoreMilli.satSub
        ((scoreMeasurement m peerCount).derpRelayPenaltyMilli
          + (scoreMeasurement m peerCount).peerRelayPenaltyMilli) := rfl
  rw [hscore, UInt32.toNat_satSub, toNat_weightedScore m hpeers, UInt32.toNat_add,
    Nat.mod_eq_of_lt hrelays, hderp, hpeer]
  rfl

theorem termsInRange (hpeers : peerCount.toNat ≤ 10000) :
    TermsInRange (scoreMeasurement m peerCount) := by
  have hpositive (value : UInt32) {maximum : UInt32} (hmax : maximum.toNat ≤ 10000) :
      normalizePositive value maximum ≤ 1000 := by
    rw [UInt32.le_iff_toNat_le, toNat_normalizePositive value hmax]
    exact share_le _ _
  have hinverse (value : UInt32) {maximum : UInt32} (hmax : maximum.toNat ≤ 10000) :
      normalizeInverse value maximum ≤ 1000 := by
    rw [UInt32.le_iff_toNat_le, toNat_normalizeInverse value hmax]
    exact headroom_le _ _
  exact {
    direct := hpositive _ hpeers
    medianRtt := hinverse _ (by decide)
    worstRtt := hinverse _ (by decide)
    jitter := hinverse _ (by decide)
    loss := hinverse _ (by decide)
    upload := hpositive _ (by decide)
    devicePerformance := by
      rw [UInt32.le_iff_toNat_le, toNat_devicePerformance]
      exact min_le_right _ _
    score := by
      rw [UInt32.le_iff_toNat_le, toNat_scoreMilli m hpeers]
      exact plainScore_le m _ }

end Score

/-! ## Better measurements -/

/-- One measured value improves, or one peer is reached over a better route. -/
inductive Better (m : ConnectivitySample) : ConnectivitySample → Prop
  | medianRtt {value : UInt32} (h : value ≤ m.rttMsMedian) : Better m { m with rttMsMedian := value }
  | worstRtt {value : UInt32} (h : value ≤ m.rttMsWorst) : Better m { m with rttMsWorst := value }
  | jitter {value : UInt32} (h : value ≤ m.jitterMs) : Better m { m with jitterMs := value }
  | loss {value : UInt32} (h : value ≤ m.lossPctMilli) : Better m { m with lossPctMilli := value }
  | upload {value : UInt32} (h : m.uploadMbpsSustained ≤ value) :
      Better m { m with uploadMbpsSustained := value }
  | devicePerformance {value : UInt32} (h : m.devicePerfScore ≤ value) :
      Better m { m with devicePerfScore := value }
  | derpToPeerRelay (h : 0 < m.routeSummary.derpCount) :
      Better m { m with routeSummary := { m.routeSummary with
        peerRelayCount := m.routeSummary.peerRelayCount + 1
        derpCount := m.routeSummary.derpCount - 1 } }
  | peerRelayToDirect (h : 0 < m.routeSummary.peerRelayCount) :
      Better m { m with routeSummary := { m.routeSummary with
        directCount := m.routeSummary.directCount + 1
        peerRelayCount := m.routeSummary.peerRelayCount - 1 } }
  | derpToDirect (h : 0 < m.routeSummary.derpCount) :
      Better m { m with routeSummary := { m.routeSummary with
        directCount := m.routeSummary.directCount + 1
        derpCount := m.routeSummary.derpCount - 1 } }

/-- A peer relay costs no more than the DERP relay it replaces, floors included. -/
theorem relayPenalty_swap {derps peers : ℕ} (hpeers : peers ≤ 75) (hderp : derps + 1 ≤ peers)
    (peerRelays : ℕ) :
    relayPenalty 300 derps peers + relayPenalty 150 (peerRelays + 1) peers
      ≤ relayPenalty 300 (derps + 1) peers + relayPenalty 150 peerRelays peers := by
  have hpos : 0 < peers := by omega
  have hdrop : derps * 300 / peers + 300 / peers ≤ (derps + 1) * 300 / peers := by
    have h : derps * 300 / peers + 300 / peers ≤ (derps * 300 + 300) / peers :=
      Nat.div_add_div_le_add_div
    rwa [← Nat.succ_mul] at h
  have hrise : min (peerRelays + 1) peers * 150 / peers
      ≤ min peerRelays peers * 150 / peers + (150 / peers + 1) := by
    have hmin : min (peerRelays + 1) peers * 150 ≤ min peerRelays peers * 150 + 150 := by omega
    have hdiv := Nat.div_le_div_right (c := peers) hmin
    rw [Nat.add_div hpos] at hdiv
    split_ifs at hdiv <;> omega
  -- two floors of the cheap relay fit in one of the dear relay
  have hprices : 150 / peers + 1 ≤ 300 / peers := by
    have htwo : 2 ≤ 150 / peers := (Nat.le_div_iff_mul_le hpos).mpr (by omega)
    have hdouble : 150 / peers + 150 / peers ≤ 300 / peers :=
      Nat.div_add_div_le_add_div
    omega
  unfold relayPenalty
  rw [min_eq_left (by omega : derps ≤ peers), min_eq_left hderp]
  omega

theorem relayPenalty_mono {a b : ℕ} (h : a ≤ b) (price peers : ℕ) :
    relayPenalty price a peers ≤ relayPenalty price b peers := by
  have hmin : min a peers ≤ min b peers := by omega
  exact Nat.div_le_div_right (Nat.mul_le_mul_right price hmin)

section Valid

variable {rosterSize : ℕ} {m : ConnectivitySample}

theorem toNat_peerCount (hlow : 2 ≤ rosterSize) (hhigh : rosterSize ≤ MAX_PLAYERS.toNat) :
    (UInt32.ofNat (rosterSize - 1)).toNat = rosterSize - 1 := by
  have hmax : MAX_PLAYERS.toNat = 16 := rfl
  exact UInt32.toNat_ofNat_of_lt' (by omega : rosterSize - 1 < 2 ^ 32)

/-- One peer moves from one route counter to another. -/
theorem toNat_moved {count other : UInt32} (hcount : count.toNat < 75) (hother : 0 < other) :
    (count + 1).toNat = count.toNat + 1 ∧ (other - 1).toNat = other.toNat - 1 := by
  have hone : (1 : UInt32).toNat = 1 := rfl
  have hzero : (0 : UInt32).toNat = 0 := rfl
  rw [UInt32.lt_iff_toNat_lt] at hother
  constructor
  · rw [UInt32.toNat_add]
    omega
  · rw [UInt32.toNat_sub_of_le _ _ (by rw [UInt32.le_iff_toNat_le]; omega)]
    omega

/-- A valid measurement describes no more peers than the roster has besides its player. -/
theorem routes_le (hlow : 2 ≤ rosterSize) (hhigh : rosterSize ≤ MAX_PLAYERS.toNat)
    (hvalid : m.validateForRoster rosterSize = .ok ()) :
    m.routeSummary.directCount.toNat + m.routeSummary.peerRelayCount.toNat
      + m.routeSummary.derpCount.toNat ≤ rosterSize - 1 := by
  have hcount := toNat_peerCount hlow hhigh
  unfold ConnectivitySample.validateForRoster at hvalid
  by_cases hloss : m.lossPctMilli > 10000
  · rw [if_pos hloss] at hvalid
    cases hvalid
  rw [if_neg hloss] at hvalid
  by_cases hdevice : m.devicePerfScore > 1000
  · rw [if_pos hdevice] at hvalid
    cases hvalid
  rw [if_neg hdevice] at hvalid
  by_cases hroster : rosterSize = 0 ∨ rosterSize - 1 ≥ 2 ^ 32
  · rw [if_pos hroster] at hvalid
    cases hvalid
  rw [if_neg hroster] at hvalid
  cases hknown : m.routeSummary.checkedKnownPeerCount with
  | none =>
    rw [hknown] at hvalid
    cases hvalid
  | some known =>
    rw [hknown] at hvalid
    dsimp only at hvalid
    split_ifs at hvalid with hmismatch hexceeds
    have hobserved : known = m.observedPeerCount := not_not.mp hmismatch
    have hfew := UInt32.le_iff_toNat_le.mp (UInt32.not_lt.mp hexceeds)
    rw [hcount, ← hobserved] at hfew
    obtain ⟨partialCount, hpartial, htotal⟩ := Option.bind_eq_some_iff.mp hknown
    have hfirst := UInt32.toNat_of_checkedAdd hpartial
    have hsecond := UInt32.toNat_of_checkedAdd htotal
    omega

/-- A better link over the same routes scores no less. -/
theorem plainScore_le_of_link {m m' : ConnectivitySample} (peers : ℕ)
    (hroutes : m'.routeSummary = m.routeSummary) (hlink : linkTotal m ≤ linkTotal m') :
    plainScore m peers ≤ plainScore m' peers := by
  unfold plainScore weightedScore
  rw [hroutes]
  omega

/-- Better routes over the same link score no less. -/
theorem plainScore_le_of_routes {m m' : ConnectivitySample} {peers : ℕ}
    (hlink : linkTotal m' = linkTotal m)
    (hdirect : m.routeSummary.directCount.toNat ≤ m'.routeSummary.directCount.toNat)
    (hrelays : relayPenalty 300 m'.routeSummary.derpCount.toNat peers
        + relayPenalty 150 m'.routeSummary.peerRelayCount.toNat peers
      ≤ relayPenalty 300 m.routeSummary.derpCount.toNat peers
        + relayPenalty 150 m.routeSummary.peerRelayCount.toNat peers) :
    plainScore m peers ≤ plainScore m' peers := by
  have hshare := share_mono hdirect peers
  unfold plainScore weightedScore
  rw [hlink]
  omega

/-- Every improvement keeps or raises the weighted sum and keeps or lowers the penalties. -/
theorem score_le_of_better (hlow : 2 ≤ rosterSize) (hhigh : rosterSize ≤ MAX_PLAYERS.toNat)
    (hvalid : m.validateForRoster rosterSize = .ok ()) {m' : ConnectivitySample}
    (hbetter : Better m m') :
    (scoreMeasurement m (UInt32.ofNat (rosterSize - 1))).scoreMilli
      ≤ (scoreMeasurement m' (UInt32.ofNat (rosterSize - 1))).scoreMilli := by
  have hroutes := routes_le hlow hhigh hvalid
  have hmax : MAX_PLAYERS.toNat = 16 := rfl
  have hcount := toNat_peerCount hlow hhigh
  have hpeers : (UInt32.ofNat (rosterSize - 1)).toNat ≤ 10000 := by omega
  rw [UInt32.le_iff_toNat_le, toNat_scoreMilli m hpeers, toNat_scoreMilli m' hpeers, hcount]
  cases hbetter with
  | medianRtt h =>
    have hterm := headroom_anti (UInt32.le_iff_toNat_le.mp h) 200
    apply plainScore_le_of_link
    · rfl
    · dsimp only [linkTotal]
      omega
  | worstRtt h =>
    have hterm := headroom_anti (UInt32.le_iff_toNat_le.mp h) 400
    apply plainScore_le_of_link
    · rfl
    · dsimp only [linkTotal]
      omega
  | jitter h =>
    have hterm := headroom_anti (UInt32.le_iff_toNat_le.mp h) 50
    apply plainScore_le_of_link
    · rfl
    · dsimp only [linkTotal]
      omega
  | loss h =>
    have hterm := headroom_anti (UInt32.le_iff_toNat_le.mp h) 10000
    apply plainScore_le_of_link
    · rfl
    · dsimp only [linkTotal]
      omega
  | upload h =>
    have hterm := share_mono (UInt32.le_iff_toNat_le.mp h) 20
    apply plainScore_le_of_link
    · rfl
    · dsimp only [linkTotal]
      omega
  | devicePerformance h =>
    have hterm := UInt32.le_iff_toNat_le.mp h
    apply plainScore_le_of_link
    · rfl
    · dsimp only [linkTotal]
      omega
  | derpToPeerRelay h =>
    have hsome : 0 < m.routeSummary.derpCount.toNat := UInt32.lt_iff_toNat_lt.mp h
    have hcount' : m.routeSummary.peerRelayCount.toNat < 75 := by omega
    obtain ⟨hmore, hfewer⟩ := toNat_moved hcount' h
    have hfits : m.routeSummary.derpCount.toNat - 1 + 1 ≤ rosterSize - 1 := by omega
    have hswap := relayPenalty_swap (by omega) hfits m.routeSummary.peerRelayCount.toNat
    rw [Nat.sub_add_cancel hsome] at hswap
    apply plainScore_le_of_routes
    · rfl
    · rfl
    · dsimp only
      rwa [hmore, hfewer]
  | peerRelayToDirect h =>
    have hcount' : m.routeSummary.directCount.toNat < 75 := by omega
    obtain ⟨hmore, hfewer⟩ := toNat_moved hcount' h
    have hcheaper := relayPenalty_mono (Nat.sub_le m.routeSummary.peerRelayCount.toNat 1) 150
      (rosterSize - 1)
    apply plainScore_le_of_routes
    · rfl
    · dsimp only
      omega
    · dsimp only
      rw [hfewer]
      omega
  | derpToDirect h =>
    have hcount' : m.routeSummary.directCount.toNat < 75 := by omega
    obtain ⟨hmore, hfewer⟩ := toNat_moved hcount' h
    have hcheaper := relayPenalty_mono (Nat.sub_le m.routeSummary.derpCount.toNat 1) 300
      (rosterSize - 1)
    apply plainScore_le_of_routes
    · rfl
    · dsimp only
      omega
    · dsimp only
      rw [hfewer]
      omega

end Valid

/-- **The score is bounded and rewards better links**: for a measurement that is valid in a roster of
two to `MAX_PLAYERS`, no step overflows, every term stays in `0..=1000`, and improving one value or
upgrading one route never lowers the score. -/
theorem scoreMeasurement_bounded_and_monotone {rosterSize : ℕ} {m : ConnectivitySample}
    (hlow : 2 ≤ rosterSize) (hhigh : rosterSize ≤ MAX_PLAYERS.toNat)
    (hvalid : m.validateForRoster rosterSize = .ok ()) :
    let peerCount := UInt32.ofNat (rosterSize - 1)
    NoOverflow m peerCount
      ∧ TermsInRange (scoreMeasurement m peerCount)
      ∧ ∀ m', Better m m' →
          (scoreMeasurement m peerCount).scoreMilli ≤ (scoreMeasurement m' peerCount).scoreMilli := by
  intro peerCount
  have hmax : MAX_PLAYERS.toNat = 16 := rfl
  have hcount : peerCount.toNat = rosterSize - 1 := toNat_peerCount hlow hhigh
  have hpeers : peerCount.toNat ≤ 10000 := by omega
  exact ⟨noOverflow m hpeers, termsInRange m hpeers,
    fun _ hbetter => score_le_of_better hlow hhigh hvalid hbetter⟩

/-- One DERP route of three, with its upgrade to a peer relay. -/
def derpLink : ConnectivitySample where
  routeSummary := ⟨1, 1, 1⟩
  rttMsMedian := 20
  rttMsWorst := 60
  jitterMs := 4
  lossPctMilli := 100
  uploadMbpsSustained := 12
  devicePerfScore := 800
  observedPeerCount := 3
  measuredAt := 1000

theorem scoreMeasurement_derpLink :
    NoOverflow derpLink 3 ∧ TermsInRange (scoreMeasurement derpLink 3)
      ∧ ∀ m', Better derpLink m' →
          (scoreMeasurement derpLink 3).scoreMilli ≤ (scoreMeasurement m' 3).scoreMilli :=
  have hlow : 2 ≤ 4 := by decide
  scoreMeasurement_bounded_and_monotone hlow (by decide) (by decide)

end Spurfire
