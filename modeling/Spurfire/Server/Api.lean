import Spurfire.Server.Store
import Spurfire.Server.Changes

/-!
# Requests and errors of the service

The HTTP surface of the lobby service (`error.rs`, `api.rs`, `service.rs`): errors with status, code
and message, the request bodies with their validation, and the configuration the handlers read.

A request arrives parsed: its headers and body are values, and an idempotency fingerprint is the
bytes of the serialised request.  Response metadata is left out.
-/

namespace Spurfire

def MAX_IDEMPOTENCY_KEY_BYTES : ℕ := 128
def MAX_DISPLAY_NAME_CHARS : ℕ := 64
def MAX_FINAL_SCORE_ABS : ℤ := 1000000
def MAX_MATCH_DURATION_S : UInt32 := 3600
def INVITATION_TTL_MS : UInt64 := 600000
def MAX_ACTIVE_INVITATIONS : ℕ := 32
def CREATOR_CAPABILITY_CLEANUP_GRACE_MS : UInt64 := 900000

/-! ## Errors -/

structure ApiError where
  status : ℕ
  code : String
  message : String
  stateReason : Option String
  dryRun : Bool
deriving DecidableEq

namespace ApiError

def new (status : ℕ) (code message : String) (dryRun : Bool) : ApiError :=
  ⟨status, code, message, none, dryRun⟩

def internalError : Bool → ApiError :=
  new 500 "internal_error" "the service could not complete the request"

def lobbyNotFound : Bool → ApiError :=
  new 404 "lobby_not_found" "lobby_id does not exist"

def actorMismatch : Bool → ApiError :=
  new 403 "actor_mismatch" "request actor does not match the client-asserted player identity"

def idempotencyConflict : Bool → ApiError :=
  new 409 "idempotency_conflict"
    "Idempotency-Key was already used with a different request body or actor"

def realAdmissionClosed : ApiError :=
  new 503 "real_admission_closed" "real lobby admission is closed" false

def notAuthority (message : String) : Bool → ApiError := new 403 "not_authority" message

def authorityUnavailable (message : String) : Bool → ApiError :=
  new 409 "authority_unavailable" message

def lobbyClosedOrTransition (state : LobbyState) (message : String) : Bool → ApiError :=
  new 409 (if state.isClosed then "lobby_closed" else "lobby_not_joinable") message

def invalidRequest : Bool → ApiError :=
  new 422 "invalid_request" "request fields failed validation"

def invalidResults (message : String) : Bool → ApiError := new 422 "invalid_results" message

def authorityError : AuthorityElectionError → Bool → ApiError
  | .notEnoughCandidates => authorityUnavailable
      "authority election requires at least one migration candidate or two normal candidates"
  | .duplicatePlayer _ => authorityUnavailable "authority input contains a duplicate player"
  | .invalidRosterSize _ _ => authorityUnavailable "authority input roster context is invalid"
  | .noFreshCompleteCandidates =>
    authorityUnavailable "no fresh complete measurement rows are available"

def provider (error : ProviderError) (dryRun : Bool) : ApiError :=
  let (status, code, message) := match error with
    | .realMutationsDisabled => (503, "real_mutations_disabled",
        "real provider mutations are disabled by the independent safety switch")
    | .identityMismatch => (503, "manual_remediation_required",
        "provider identity evidence does not match the selected lobby generation")
    | .childSecretUnavailable => (503, "manual_remediation_required",
        "provider credentials needed for this lobby are unavailable after restart")
    | .childPolicyGate .. => (503, "child_policy_gate_failed",
        "the dedicated network failed restrictive policy verification and is being cleaned")
    | .insufficientScopes _ => (503, "provider_scopes_insufficient",
        "network provider scopes do not permit this operation")
    | .upstream .. => (502, "provider_error", "network provider rejected the operation")
    | .unavailable _ => (503, "provider_unavailable", "network provider is unavailable")
  { new status code message dryRun with stateReason := some error.stateReason }

def store (error : StoreError) (dryRun : Bool) : ApiError :=
  match error with
  | .capacity => new 503 "service_capacity_reached"
      "lobby service capacity is temporarily exhausted" dryRun
  | .realMutationsDisabled => new 503 "real_mutations_disabled"
      "real provider mutations are disabled by the independent safety switch" dryRun
  | .invalidCreateGrant | .invalidRehearsalReceipt => lobbyNotFound false
  | .realLobbyCapacityReached => new 409 "real_lobby_capacity_reached"
      "the single real-lobby safety lease is currently held" dryRun
  | _ => internalError dryRun

end ApiError

/-! ## Requests -/

/-- What a request carries beside its body. -/
structure Headers where
  dryRun : Bool
  idempotencyKey : Option String
  capability : Option Digest
  actor : Option PlayerId

def Headers.requireActor (headers : Headers) (dryRun : Bool) : Except ApiError PlayerId :=
  match headers.actor with
  | some actor => .ok actor
  | none => .error (.new 401 "missing_actor"
      "X-Spurfire-Player-Id header is required for this prototype action" dryRun)

def Headers.requireIdempotencyKey (headers : Headers) (dryRun : Bool) : Except ApiError String :=
  match headers.idempotencyKey with
  | none => .error (.new 400 "missing_idempotency_key" "Idempotency-Key header is required" dryRun)
  | some key =>
    if isBlank key ∨ MAX_IDEMPOTENCY_KEY_BYTES < key.utf8ByteSize then
      .error (.new 400 "invalid_idempotency_key" "Idempotency-Key must contain 1 to 128 bytes"
        dryRun)
    else .ok key

def validDisplayName (name : String) : Bool :=
  !isBlank name && name.length ≤ MAX_DISPLAY_NAME_CHARS

structure CreateLobbyRequest where
  displayName : String
  maxPlayers : UInt8
  provisioningMode : ProvisioningMode
deriving DecidableEq

def CreateLobbyRequest.isValid (request : CreateLobbyRequest) : Bool :=
  validDisplayName request.displayName && request.maxPlayers != 0
    && request.maxPlayers ≤ MAX_PLAYERS

def JoinLobbyRequest.validate (request : JoinLobbyRequest) (dryRun : Bool) : Except ApiError Unit :=
  if !validDisplayName request.displayName then .error (.invalidRequest dryRun)
  else if !M3_WIRE_VERSION.isCompatibleWith request.clientWireVersion then
    .error (.new 409 "wire_version_incompatible"
      "client and service wire major versions are incompatible" dryRun)
  else if isBlank request.authorityFormulaVersion then
    .error (.new 422 "invalid_authority_formula" "authority_formula_version must not be empty"
      dryRun)
  else .ok ()

/-- The player that is already in the roster joins again with the same attributes. -/
def JoinLobbyRequest.matchesPlayer (request : JoinLobbyRequest) (player : Player) : Bool :=
  player.displayName == request.displayName && player.wireVersion == request.clientWireVersion
    && player.formulaVersion == request.authorityFormulaVersion
    && player.horseSelection == request.horseSelection

structure ConnectivityReport where
  routeSummary : RouteSummary
  rttMsMedian : UInt32
  rttMsWorst : UInt32
  jitterMs : UInt32
  lossPctMilli : UInt32
  uploadMbpsSustained : UInt32
  devicePerfScore : UInt32
  observedPeerCount : UInt32
deriving DecidableEq

def ConnectivityReport.intoSample (r : ConnectivityReport) (measuredAt : UnixMillis) :
    ConnectivitySample where
  routeSummary := r.routeSummary
  rttMsMedian := r.rttMsMedian
  rttMsWorst := r.rttMsWorst
  jitterMs := r.jitterMs
  lossPctMilli := r.lossPctMilli
  uploadMbpsSustained := r.uploadMbpsSustained
  devicePerfScore := r.devicePerfScore
  observedPeerCount := r.observedPeerCount
  measuredAt := measuredAt

structure SubmitMeasurementsRequest where
  playerId : PlayerId
  report : ConnectivityReport
deriving DecidableEq

def SubmitMeasurementsRequest.intoValidatedSample (request : SubmitMeasurementsRequest)
    (measuredAt : UnixMillis) (rosterSize : ℕ) (dryRun : Bool) :
    Except ApiError ConnectivitySample :=
  let sample := request.report.intoSample measuredAt
  match sample.validateForRoster rosterSize with
  | .ok () => .ok sample
  | .error _ => .error (.new 422 "invalid_measurements"
      "measurement values do not describe the current roster" dryRun)

structure StartLobbyRequest where
  creatorPlayerId : PlayerId
  mapSeed : Option UInt64
deriving DecidableEq

/-- The wire and formula guards of one roster member at match start. -/
def validateStartPlayer (player : Player) (dryRun : Bool) : Except ApiError Unit :=
  if !M3_WIRE_VERSION.isCompatibleWith player.wireVersion then
    .error (.new 409 "wire_version_incompatible"
      "roster contains incompatible wire major versions" dryRun)
  else if player.formulaVersion != AUTHORITY_FORMULA_VERSION then
    .error (.new 409 "authority_formula_incompatible"
      "roster contains incompatible authority formula versions" dryRun)
  else .ok ()

def validateStartRosterAgainst (roster : List Player) (dryRun : Bool) : Except ApiError Unit :=
  roster.forM fun player => validateStartPlayer player dryRun

/-- Secure real admission also refuses every wire before the signed session. -/
def validateSecureStartRosterAgainst (roster : List Player) (dryRun : Bool) :
    Except ApiError Unit :=
  match validateStartRosterAgainst roster dryRun with
  | .error error => .error error
  | .ok () =>
    if roster.any fun player => player.wireVersion.major == 0
        || (player.wireVersion.major == 1 && player.wireVersion.minor < 2) then
      .error (.new 409 "session_identity_required"
        "every real-lobby roster member must support the active signed gameplay wire" dryRun)
    else .ok ()

structure FinalScore where
  playerId : PlayerId
  score : Int64
  eliminations : UInt32
  assists : UInt32
  deaths : UInt32
deriving DecidableEq

structure SubmitResultsRequest where
  submittedBy : PlayerId
  coSigners : List PlayerId
  finalScores : List FinalScore
  matchDurationS : UInt32
  inputHash : Vector UInt8 32
deriving DecidableEq

def FinalScore.isPlausible (stored : StoredLobby) (row : FinalScore) : Bool :=
  stored.hasPlayer row.playerId && -MAX_FINAL_SCORE_ABS ≤ row.score.toInt
    && row.score.toInt ≤ MAX_FINAL_SCORE_ABS && row.eliminations ≤ 100000
    && row.assists ≤ 100000 && row.deaths ≤ 100000

def validateResults (stored : StoredLobby) (request : SubmitResultsRequest) (dryRun : Bool) :
    Except ApiError Unit :=
  if request.matchDurationS = 0 ∨ MAX_MATCH_DURATION_S < request.matchDurationS then
    .error (.invalidResults "match_duration_s must be between 1 and 3600" dryRun)
  else if request.finalScores.length ≠ stored.lobby.roster.length then
    .error (.invalidResults "final_scores must contain exactly one row per roster member" dryRun)
  else if !request.finalScores.all (·.isPlausible stored)
      || !decide (request.finalScores.map (·.playerId)).Nodup then
    .error (.invalidResults "final score rows failed membership or plausibility validation" dryRun)
  else if !request.coSigners.all (fun player => stored.hasPlayer player
        && player != request.submittedBy) || !decide request.coSigners.Nodup then
    .error (.invalidResults "co_signers must be unique non-authority roster members" dryRun)
  else .ok ()

/-! ## Configuration -/

/-- What the handlers read of a verified receipt of the protected worker. -/
structure ProtectedAlphaQualification where
  lobbyId : LobbyId
  networkGeneration : UInt64
  absoluteDeadline : UnixMillis
  launchCodeSha256 : Digest

structure LocalRehearsalQualification where
  lobbyId : LobbyId
  receiptVerifier : Digest

structure ServiceConfig where
  forceDryRun : Bool
  allowLegacyClientAssertions : Bool
  testOnlyAllowLegacyRealMutations : Bool
  realMutationsEnabled : Bool
  maxPlayers : UInt8
  dryRunTtlMs : UInt64
  protectedAlpha : Option ProtectedAlphaQualification
  localRehearsal : Option LocalRehearsalQualification

/-- Asserted players may perform real mutations, which only tests allow. -/
def ServiceConfig.legacyRealTestMode (config : ServiceConfig) : Bool :=
  config.allowLegacyClientAssertions && config.testOnlyAllowLegacyRealMutations

/-- A request-scoped dry run cannot mutate a real lobby. -/
def mutationDryRun (config : ServiceConfig) (headers : Headers) (stored : StoredLobby) :
    Except ApiError Bool :=
  if headers.dryRun && !stored.dryRun && !config.forceDryRun then
    .error (.new 409 "dry_run_mode_mismatch"
      "request-scoped dry-run cannot mutate an existing real lobby" true)
  else .ok (stored.dryRun || config.forceDryRun)

end Spurfire
