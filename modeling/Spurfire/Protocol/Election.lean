import Spurfire.Protocol.Identity
import Spurfire.Lib.Sha256

/-!
# Authority election `election_v1`

The deterministic election of `election.rs`: measurement validation, integer scores, the
eligibility filter with its degraded fallback, and the winner by highest score and smallest
identifier.  `electAuthorityForRoster` runs over any subset of a roster while it keeps the full
roster size as the denominator of the route scores, which is what migration relies on.
-/

namespace Spurfire

open Wire (beBytes)

def AUTHORITY_FORMULA_VERSION : String := "election_v1"
def MEASUREMENT_FRESHNESS_MS : UInt64 := 60000
def MIN_AUTHORITY_MEMBERSHIP_MS : UInt64 := 30000
def LOSS_ELIGIBILITY_LIMIT_MILLI : UInt32 := 5000
def MEDIAN_RTT_ELIGIBILITY_LIMIT_MS : UInt32 := 150
def CANONICAL_PREFIX : List UInt8 :=
  "spurfire-authority-input\x00v1\x00election_v1\x00".toByteArray.data.toList

/-! ## Measurements -/

structure RouteSummary where
  directCount : UInt32
  peerRelayCount : UInt32
  derpCount : UInt32
deriving DecidableEq

def RouteSummary.checkedKnownPeerCount (r : RouteSummary) : Option UInt32 :=
  (r.directCount.checkedAdd r.peerRelayCount).bind fun partialCount =>
    partialCount.checkedAdd r.derpCount

inductive ConnectivityValidationError
  | lossOutOfRange (value : UInt32)
  | devicePerformanceOutOfRange (value : UInt32)
  | routeCountOverflow
  | routeCountMismatch (routeCount observedPeerCount : UInt32)
  | peerCountExceedsRoster (maximumPeerCount observedPeerCount : UInt32)
  | invalidRosterSize (rosterSize : ℕ)
deriving DecidableEq

structure ConnectivitySample where
  routeSummary : RouteSummary
  rttMsMedian : UInt32
  rttMsWorst : UInt32
  jitterMs : UInt32
  lossPctMilli : UInt32
  uploadMbpsSustained : UInt32
  devicePerfScore : UInt32
  observedPeerCount : UInt32
  measuredAt : UnixMillis
deriving DecidableEq

/-- Ranges, and route counters that describe no more peers than the roster has. -/
def ConnectivitySample.validateForRoster (m : ConnectivitySample) (rosterSize : ℕ) :
    Except ConnectivityValidationError Unit :=
  if m.lossPctMilli > 10000 then .error (.lossOutOfRange m.lossPctMilli)
  else if m.devicePerfScore > 1000 then .error (.devicePerformanceOutOfRange m.devicePerfScore)
  else if rosterSize = 0 ∨ rosterSize - 1 ≥ 2 ^ 32 then .error (.invalidRosterSize rosterSize)
  else
    match m.routeSummary.checkedKnownPeerCount with
    | none => .error .routeCountOverflow
    | some known =>
      if known ≠ m.observedPeerCount then .error (.routeCountMismatch known m.observedPeerCount)
      else if m.observedPeerCount > UInt32.ofNat (rosterSize - 1) then
        .error (.peerCountExceedsRoster (UInt32.ofNat (rosterSize - 1)) m.observedPeerCount)
      else .ok ()

structure AuthorityCandidate where
  playerId : PlayerId
  wireVersion : WireVersion
  joinedAt : UnixMillis
  measurement : ConnectivitySample
deriving DecidableEq

/-! ## Scores -/

structure AuthorityScoreBreakdown where
  directMilli : UInt32
  medianRttMilli : UInt32
  worstRttMilli : UInt32
  jitterMilli : UInt32
  lossMilli : UInt32
  uploadMilli : UInt32
  devicePerformanceMilli : UInt32
  weightedScoreMilli : UInt32
  derpRelayPenaltyMilli : UInt32
  peerRelayPenaltyMilli : UInt32
  relayPenaltyMilli : UInt32
  scoreMilli : UInt32
deriving DecidableEq

def normalizePositive (value maximum : UInt32) : UInt32 :=
  (min value maximum).satMul 1000 / maximum

def normalizeInverse (value maximum : UInt32) : UInt32 :=
  (maximum.satSub (min value maximum)).satMul 1000 / maximum

def scoreMeasurement (m : ConnectivitySample) (peerCount : UInt32) : AuthorityScoreBreakdown :=
  let directMilli := normalizePositive m.routeSummary.directCount peerCount
  let medianRttMilli := normalizeInverse m.rttMsMedian 200
  let worstRttMilli := normalizeInverse m.rttMsWorst 400
  let jitterMilli := normalizeInverse m.jitterMs 50
  let lossMilli := normalizeInverse m.lossPctMilli 10000
  let uploadMilli := normalizePositive m.uploadMbpsSustained 20
  let devicePerformanceMilli := min m.devicePerfScore 1000
  let weightedScoreMilli := ((270 * directMilli.toUInt64 + 230 * medianRttMilli.toUInt64
    + 140 * worstRttMilli.toUInt64 + 90 * jitterMilli.toUInt64 + 90 * lossMilli.toUInt64
    + 90 * uploadMilli.toUInt64 + 90 * devicePerformanceMilli.toUInt64) / 1000).toUInt32
  let derpRelayPenaltyMilli := (min m.routeSummary.derpCount peerCount).satMul 300 / peerCount
  let peerRelayPenaltyMilli := (min m.routeSummary.peerRelayCount peerCount).satMul 150 / peerCount
  let relayPenaltyMilli := derpRelayPenaltyMilli + peerRelayPenaltyMilli
  { directMilli, medianRttMilli, worstRttMilli, jitterMilli, lossMilli, uploadMilli,
    devicePerformanceMilli, weightedScoreMilli, derpRelayPenaltyMilli, peerRelayPenaltyMilli,
    relayPenaltyMilli, scoreMilli := weightedScoreMilli.satSub relayPenaltyMilli }

inductive CandidateIneligibility
  | excessiveLoss (lossPctMilli : UInt32)
  | excessiveMedianRtt (rttMsMedian : UInt32)
  | membershipTooYoung (membershipAgeMs : UInt64)
  | wireMajorMismatch (expectedMajor candidateMajor : UInt16)
  | zeroReachablePeers
deriving DecidableEq

structure ScoredAuthorityCandidate where
  playerId : PlayerId
  breakdown : AuthorityScoreBreakdown
  ineligibilityReasons : List CandidateIneligibility
deriving DecidableEq

structure AuthorityScore where
  playerId : PlayerId
  scoreMilli : UInt32
deriving DecidableEq

inductive CandidateRejectionReason
  | measurementFromFuture
  | staleMeasurement (ageMs : UInt64)
  | invalidMeasurement (error : ConnectivityValidationError)
deriving DecidableEq

structure RejectedAuthorityCandidate where
  playerId : PlayerId
  reason : CandidateRejectionReason
deriving DecidableEq

/-! ## Input and its fingerprint -/

inductive AuthorityElectionError
  | notEnoughCandidates
  | duplicatePlayer (playerId : PlayerId)
  | invalidRosterSize (rosterSize candidateCount : ℕ)
  | noFreshCompleteCandidates
deriving DecidableEq

structure AuthorityElectionInput where
  formulaVersion : String
  electionAt : UnixMillis
  expectedWireVersion : WireVersion
  rosterSize : UInt32
  candidates : List AuthorityCandidate
deriving DecidableEq

/-- The first identifier that two neighbouring rows share. -/
def firstDuplicate : List AuthorityCandidate → Option PlayerId
  | a :: b :: rest => if a.playerId = b.playerId then some a.playerId else firstDuplicate (b :: rest)
  | _ => none

def sortedCandidates (candidates : List AuthorityCandidate) :
    Except AuthorityElectionError (List AuthorityCandidate) :=
  let sorted := candidates.insertionSort fun a b => a.playerId ≤ b.playerId
  match firstDuplicate sorted with
  | some player => .error (.duplicatePlayer player)
  | none => .ok sorted

def canonicalMeasurementRow (c : AuthorityCandidate) : List UInt8 :=
  let m := c.measurement
  c.playerId.asBytes ++ beBytes 2 c.wireVersion.major.toNat ++ beBytes 2 c.wireVersion.minor.toNat
    ++ beBytes 8 c.joinedAt.toNat ++ beBytes 8 m.measuredAt.toNat
    ++ ([m.routeSummary.directCount, m.routeSummary.peerRelayCount, m.routeSummary.derpCount,
        m.rttMsMedian, m.rttMsWorst, m.jitterMs, m.lossPctMilli, m.uploadMbpsSustained,
        m.devicePerfScore, m.observedPeerCount].flatMap fun value => beBytes 4 value.toNat)

def canonicalMeasurementMatrix (candidates : List AuthorityCandidate) :
    Except AuthorityElectionError (List UInt8) :=
  match sortedCandidates candidates with
  | .error error => .error error
  | .ok sorted => .ok (sorted.flatMap canonicalMeasurementRow)

def canonicalElectionInput (input : AuthorityElectionInput) :
    Except AuthorityElectionError (List UInt8) :=
  if input.rosterSize < 2 ∨ input.rosterSize.toNat < input.candidates.length then
    .error (.invalidRosterSize input.rosterSize.toNat input.candidates.length)
  else
    match canonicalMeasurementMatrix input.candidates with
    | .error error => .error error
    | .ok rows =>
      let formula := input.formulaVersion.toByteArray.data.toList
      .ok (CANONICAL_PREFIX ++ beBytes 4 (formula.length % 2 ^ 32) ++ formula
        ++ beBytes 8 input.electionAt.toNat ++ beBytes 2 input.expectedWireVersion.major.toNat
        ++ beBytes 2 input.expectedWireVersion.minor.toNat ++ beBytes 4 input.rosterSize.toNat
        ++ beBytes 4 (input.candidates.length % 2 ^ 32) ++ rows)

/-- SHA-256 of the canonical input, by the crate's own implementation. -/
def authorityInputHash (input : AuthorityElectionInput) :
    Except AuthorityElectionError (Vector UInt8 32) :=
  match canonicalElectionInput input with
  | .error error => .error error
  | .ok bytes => .ok (Sha256.digest bytes)

/-! ## Election -/

section Screening

variable (now : UnixMillis) (expectedWireVersion : WireVersion) (rosterSize : ℕ)

/-- Why a candidate fails the first-pass eligibility filter. -/
def ineligibilityReasons (c : AuthorityCandidate) : List CandidateIneligibility :=
  let m := c.measurement
  let membershipAgeMs := (now.checkedSub c.joinedAt).getD 0
  (if m.lossPctMilli > LOSS_ELIGIBILITY_LIMIT_MILLI then [.excessiveLoss m.lossPctMilli] else [])
    ++ (if m.rttMsMedian > MEDIAN_RTT_ELIGIBILITY_LIMIT_MS then
        [.excessiveMedianRtt m.rttMsMedian] else [])
    ++ (if membershipAgeMs < MIN_AUTHORITY_MEMBERSHIP_MS then
        [.membershipTooYoung membershipAgeMs] else [])
    ++ (if !c.wireVersion.isCompatibleWith expectedWireVersion then
        [.wireMajorMismatch expectedWireVersion.major c.wireVersion.major] else [])
    ++ (if m.observedPeerCount = 0 then [.zeroReachablePeers] else [])

/-- Scores one candidate, or says why its row cannot be used. -/
def screenCandidate (c : AuthorityCandidate) :
    Except RejectedAuthorityCandidate ScoredAuthorityCandidate :=
  match c.measurement.validateForRoster rosterSize with
  | .error error => .error ⟨c.playerId, .invalidMeasurement error⟩
  | .ok () =>
    match now.checkedSub c.measurement.measuredAt with
    | none => .error ⟨c.playerId, .measurementFromFuture⟩
    | some measurementAgeMs =>
      if measurementAgeMs ≥ MEASUREMENT_FRESHNESS_MS then
        .error ⟨c.playerId, .staleMeasurement measurementAgeMs⟩
      else
        .ok { playerId := c.playerId
              breakdown := scoreMeasurement c.measurement (UInt32.ofNat (rosterSize - 1))
              ineligibilityReasons := ineligibilityReasons now expectedWireVersion c }

end Screening

structure AuthorityElection where
  formulaVersion : String
  eligible : List AuthorityScore
  winnerPlayerId : PlayerId
  inputHash : Vector UInt8 32
  input : AuthorityElectionInput
  degraded : Bool
  scoredCandidates : List ScoredAuthorityCandidate
  rejectedCandidates : List RejectedAuthorityCandidate
deriving DecidableEq

def ScoredAuthorityCandidate.toScore (c : ScoredAuthorityCandidate) : AuthorityScore :=
  ⟨c.playerId, c.breakdown.scoreMilli⟩

def ScoredAuthorityCandidate.isEligible (c : ScoredAuthorityCandidate) : Bool :=
  c.ineligibilityReasons.isEmpty

namespace AuthorityScore

/-- `left` does not come after `right`: higher scores first, then smaller identifiers. -/
def precedes (left right : AuthorityScore) : Bool :=
  left.scoreMilli > right.scoreMilli
    || (left.scoreMilli == right.scoreMilli && left.playerId ≤ right.playerId)

/-- `min_by` in that order: the first of the least elements. -/
def best : List AuthorityScore → Option AuthorityScore
  | [] => none
  | a :: rest => some (rest.foldl (fun best row => if best.precedes row then best else row) a)

end AuthorityScore

/-- The candidates that take part: the eligible ones, or everyone when there are none. -/
def participants (scored : List ScoredAuthorityCandidate) : List AuthorityScore :=
  let eligible := (scored.filter (·.isEligible)).map (·.toScore)
  if eligible.isEmpty then scored.map (·.toScore) else eligible

def electAuthorityForRoster (candidates : List AuthorityCandidate) (now : UnixMillis)
    (expectedWireVersion : WireVersion) (rosterSize : ℕ) :
    Except AuthorityElectionError AuthorityElection :=
  if candidates.isEmpty then .error .notEnoughCandidates
  else if rosterSize < 2 ∨ rosterSize < candidates.length ∨ rosterSize ≥ 2 ^ 32 then
    .error (.invalidRosterSize rosterSize candidates.length)
  else
    match sortedCandidates candidates with
    | .error error => .error error
    | .ok sorted =>
      let input : AuthorityElectionInput :=
        { formulaVersion := AUTHORITY_FORMULA_VERSION
          electionAt := now
          expectedWireVersion := expectedWireVersion
          rosterSize := UInt32.ofNat rosterSize
          candidates := sorted }
      match authorityInputHash input with
      | .error error => .error error
      | .ok inputHash =>
        let screened := sorted.map (screenCandidate now expectedWireVersion rosterSize)
        let scored := screened.filterMap fun
          | .ok row => some row
          | .error _ => none
        let rejected := screened.filterMap fun
          | .ok _ => none
          | .error row => some row
        match AuthorityScore.best (participants scored) with
        | none => .error .noFreshCompleteCandidates
        | some winner =>
          .ok { formulaVersion := AUTHORITY_FORMULA_VERSION
                eligible := participants scored
                winnerPlayerId := winner.playerId
                inputHash := inputHash
                input := input
                degraded := ((scored.filter (·.isEligible)).map (·.toScore)).isEmpty
                scoredCandidates := scored
                rejectedCandidates := rejected }

def electAuthorityForWire (candidates : List AuthorityCandidate) (now : UnixMillis)
    (expectedWireVersion : WireVersion) : Except AuthorityElectionError AuthorityElection :=
  if candidates.length < 2 then .error .notEnoughCandidates
  else electAuthorityForRoster candidates now expectedWireVersion candidates.length

def electAuthority (candidates : List AuthorityCandidate) (now : UnixMillis) :
    Except AuthorityElectionError AuthorityElection :=
  electAuthorityForWire candidates now CURRENT_WIRE_VERSION

/-- The public summary of an election. -/
structure AuthorityResponse where
  formulaVersion : String
  eligible : List AuthorityScore
  winnerPlayerId : PlayerId
  inputHash : Vector UInt8 32
  input : AuthorityElectionInput
  degraded : Bool
deriving DecidableEq

def AuthorityElection.toResponse (e : AuthorityElection) : AuthorityResponse where
  formulaVersion := e.formulaVersion
  eligible := e.eligible
  winnerPlayerId := e.winnerPlayerId
  inputHash := e.inputHash
  input := e.input
  degraded := e.degraded

end Spurfire
