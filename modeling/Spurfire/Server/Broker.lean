import Spurfire.Lib.Runs
import Spurfire.Lib.Word
import Spurfire.Server.Provider

/-!
# The protected provider broker

The broker that holds the provider's credentials (`protected_broker.rs`), and the external Lease it
is fenced by (`lease_authority.rs`).  Connections are served one at a time, under the lock on the
last sequence; a start of the broker forgets that sequence and whatever it was doing.

* `Swap` and `Dispatch` are the ghost records of what was recorded in the Lease and what reached the
  provider.
* `fenced_along`: no mutation is dispatched twice, none without its intent in the Lease, none outside
  its tuple and phase, and nothing but a release after one, while the Lease repeats no version.

The broker is the only writer of the Lease.  The MAC and the digest of an intent are parameters.
-/

namespace Spurfire

def BROKER_PROTOCOL : String := "spurfire-private-broker/v1"

inductive ProtectedPhase
  | admission
  | cleanupOnly
  | released
  | quarantined
deriving DecidableEq

def ProtectedPhase.permitsAdmission : ProtectedPhase → Bool
  | admission => true
  | _ => false

structure LeaseBinding where
  installationId : String
  receiptResourceVersion : String
  stateStoreIdSha256 : Digest
  receiptDigest : Digest
  lobbyId : LobbyId
  generation : UInt64
  supervisorEpoch : UInt64
  stateSha256 : Digest
  phase : ProtectedPhase
  admissionPlayDeadline : UnixMillis
  cleanupDeadline : UnixMillis
deriving DecidableEq

structure LeaseSnapshot where
  uid : String
  resourceVersion : String
  binding : LeaseBinding
deriving DecidableEq

def installationByte (byte : UInt8) : Bool :=
  (0x30 ≤ byte && byte ≤ 0x39) || (0x41 ≤ byte && byte ≤ 0x5a) || (0x61 ≤ byte && byte ≤ 0x7a)
    || byte == 0x2d || byte == 0x5f

def NO_DIGEST : Digest := Vector.replicate 32 0

def LeaseBinding.isValid (binding : LeaseBinding) : Bool :=
  let id := binding.installationId.toUTF8.data.toList
  16 ≤ id.length && id.length ≤ 128 && id.all installationByte
    && binding.stateStoreIdSha256 != NO_DIGEST && binding.receiptResourceVersion != ""
    && binding.receiptDigest != NO_DIGEST && binding.stateSha256 != NO_DIGEST
    && binding.generation != 0 && binding.supervisorEpoch != 0
    && decide (binding.admissionPlayDeadline < binding.cleanupDeadline)

/-- `decode_response`: what the broker accepts of a response. -/
def LeaseSnapshot.decode (snapshot : LeaseSnapshot) : Option LeaseSnapshot :=
  if snapshot.binding.isValid && snapshot.uid != "" && snapshot.resourceVersion != "" then
    some snapshot
  else none

/-! ## Requests -/

inductive WireOperation
  | capabilities
  | prepare (request : PrepareLobbyRequest)
  | mint (request : MintCredentialRequest)
  | cleanup (request : CleanupLobbyRequest)
  | observe (request : ObserveNetworkRequest)
  | present (request : TailnetPresenceRequest)
  | erase (request : TailnetPresenceRequest)
  | release
deriving DecidableEq

namespace WireOperation

def isMutation : WireOperation → Bool
  | prepare _ | mint _ | cleanup _ | erase _ | release => true
  | _ => false

def isAdmission : WireOperation → Bool
  | prepare _ | mint _ => true
  | _ => false

def exactTuple : WireOperation → Option (LobbyId × UInt64)
  | capabilities | release => none
  | prepare value => some (value.lobbyId, value.networkGeneration)
  | mint value => some (value.lobbyId, value.networkGeneration)
  | cleanup value => some (value.lobbyId, value.networkGeneration)
  | observe value => some (value.lobbyId, value.networkGeneration)
  | present value | erase value => some (value.lobbyId, value.networkGeneration)

end WireOperation

structure WireRequest where
  protocol : String
  runId : String
  lobbyId : LobbyId
  generation : UInt64
  supervisorEpoch : UInt64
  sequence : UInt64
  nonce : Vector UInt8 32
  leaseUid : String
  leaseResourceVersion : String
  operation : WireOperation
  mac : Digest
deriving DecidableEq

structure BrokerFence where
  runId : String
  lobbyId : LobbyId
  generation : UInt64
  supervisorEpoch : UInt64
  phase : ProtectedPhase
  admissionPlayDeadline : UnixMillis
  cleanupDeadline : UnixMillis
deriving DecidableEq

inductive BrokerProtocolError
  | unavailable
  | malformed
  | staleFence
  | forbiddenPhase
  | authentication
  | provider
deriving DecidableEq

def BrokerFence.validateOperation (fence : BrokerFence) (operation : WireOperation)
    (now : UnixMillis) : Except BrokerProtocolError Unit :=
  if operation.exactTuple.any (· != (fence.lobbyId, fence.generation)) then .error .staleFence
  else if fence.phase = .released ∨ fence.phase = .quarantined
      ∨ (operation.isAdmission = true ∧ fence.phase.permitsAdmission = false)
      ∨ (operation.isAdmission = true ∧ fence.admissionPlayDeadline ≤ now)
      ∨ (operation.isMutation = true ∧ fence.cleanupDeadline ≤ now) then .error .forbiddenPhase
  else .ok ()

/-- The MAC of a request without its MAC, and the digest of an intent. -/
structure BrokerHashes where
  requestMac : WireRequest → Digest
  intent : UInt64 × Vector UInt8 32 × WireOperation → Digest

def WireRequest.isAuthentic (request : WireRequest) (X : BrokerHashes) : Bool :=
  request.mac == X.requestMac { request with mac := NO_DIGEST }

/-! ## The broker -/

/-- How far the connection that holds the lock is. -/
inductive Handling
  | idle
  | locked (request : WireRequest)
  | checked (request : WireRequest) (expected : LeaseSnapshot)
  | reserved (request : WireRequest) (next : LeaseSnapshot)
deriving DecidableEq

structure BrokerProcess where
  fence : BrokerFence
  lastSequence : UInt64
  handling : Handling
deriving DecidableEq

/-- An intent recorded in the Lease: the Lease before, and the one with the intent. -/
structure Swap where
  request : WireRequest
  expected : LeaseSnapshot
  next : LeaseSnapshot
deriving DecidableEq

/-- A request that reached the provider, with the Lease of that moment and the intents until then. -/
structure Dispatch where
  request : WireRequest
  fence : BrokerFence
  lease : LeaseSnapshot
  swaps : List Swap
deriving DecidableEq

structure BrokerState where
  /-- The external Lease. -/
  lease : LeaseSnapshot
  /-- Not of the program: the resource versions the Lease had before. -/
  retired : List String
  process : Option BrokerProcess
  /-- Not of the program: what was recorded. -/
  swaps : List Swap
  /-- Not of the program: what reached the provider. -/
  dispatched : List Dispatch
deriving DecidableEq

/-- What becomes of the `PUT` of a swap. -/
inductive PutAnswer
  | lost
  | applied (resourceVersion : String)
  /-- The Lease is replaced, the response lost. -/
  | appliedUnanswered (resourceVersion : String)
deriving DecidableEq

inductive BrokerStep
  /-- The broker starts, or starts anew. -/
  | start (fence : BrokerFence)
  | stop
  /-- A connection delivers a request, and takes the lock. -/
  | accept (request : WireRequest) (now : UnixMillis)
  | read (readable : Bool)
  | swap (readable : Bool) (put : PutAnswer)
  | dispatch (isOk : Bool)
deriving DecidableEq

def BrokerFence.admits (fence : BrokerFence) (X : BrokerHashes) (request : WireRequest)
    (now : UnixMillis) : Except BrokerProtocolError Unit :=
  if request.protocol ≠ BROKER_PROTOCOL ∨ request.isAuthentic X = false
      ∨ request.runId ≠ fence.runId
      ∨ (request.lobbyId, request.generation) ≠ (fence.lobbyId, fence.generation) then
    .error .authentication
  else fence.validateOperation request.operation now

def nextSequence (sequence : UInt64) : UInt64 := sequence.satAdd 1

def BrokerFence.matchesLease (fence : BrokerFence) (request : WireRequest)
    (expected : LeaseSnapshot) : Bool :=
  expected.uid == request.leaseUid && expected.resourceVersion == request.leaseResourceVersion
    && expected.binding.lobbyId == fence.lobbyId && expected.binding.generation == fence.generation
    && expected.binding.supervisorEpoch == request.supervisorEpoch
    && expected.binding.phase == fence.phase

/-- The binding that records the intent of a mutation. -/
def LeaseBinding.recording (binding : LeaseBinding) (X : BrokerHashes) (request : WireRequest) :
    Option LeaseBinding :=
  (binding.supervisorEpoch.checkedAdd 1).map fun epoch =>
    { binding with
      supervisorEpoch := epoch
      stateSha256 := X.intent (request.sequence, request.nonce, request.operation)
      phase := if request.operation = .release then .released else binding.phase }

namespace BrokerState

variable (X : BrokerHashes) (s : BrokerState)

def handle (process : BrokerProcess) (handling : Handling) : BrokerState :=
  { s with process := some { process with handling := handling } }

def readLease (readable : Bool) : Option LeaseSnapshot :=
  if readable then s.lease.decode else none

/-- The Lease with a new binding under a new version. -/
def replaced (request : WireRequest) (expected : LeaseSnapshot) (next : LeaseBinding)
    (resourceVersion : String) : BrokerState :=
  let lease : LeaseSnapshot := ⟨s.lease.uid, resourceVersion, next⟩
  { s with
    lease := lease
    retired := s.lease.resourceVersion :: s.retired
    swaps := s.swaps ++ [⟨request, expected, lease⟩] }

/-- The optimistic `PUT`: the server refuses another uid or version than the current one. -/
def put (request : WireRequest) (expected : LeaseSnapshot) (next : LeaseBinding)
    (answer : PutAnswer) : Option LeaseSnapshot × BrokerState :=
  if s.lease.uid ≠ expected.uid ∨ s.lease.resourceVersion ≠ expected.resourceVersion then (none, s)
  else
    match answer with
    | .lost => (none, s)
    | .applied version =>
      let s := s.replaced request expected next version
      (s.lease.decode, s)
    | .appliedUnanswered version => (none, s.replaced request expected next version)

/-- `compare_and_swap`; the request is that of the ghost record. -/
def compareAndSwap (request : WireRequest) (expected : LeaseSnapshot) (next : LeaseBinding)
    (readable : Bool) (answer : PutAnswer) : Option LeaseSnapshot × BrokerState :=
  if next.isValid = false ∨ expected.uid = "" ∨ expected.resourceVersion = "" then (none, s)
  else if s.readLease readable ≠ some expected then (none, s)
  else s.put request expected next answer

/-- A mutation records its intent, any other request goes on with the Lease it read. -/
def reserve (process : BrokerProcess) (request : WireRequest) (expected : LeaseSnapshot)
    (readable : Bool) (answer : PutAnswer) : BrokerState :=
  if request.operation.isMutation = false then s.handle process (.reserved request expected)
  else
    match expected.binding.recording X request with
    | none => s.handle process .idle
    | some next =>
      match s.compareAndSwap request expected next readable answer with
      | (none, s) => s.handle process .idle
      | (some snapshot, s) => s.handle process (.reserved request snapshot)

/-- The request goes to the provider; its sequence counts where the provider did not fail. -/
def dispatchRequest (process : BrokerProcess) (request : WireRequest) (isOk : Bool) : BrokerState :=
  { s with
    process := some { process with
      handling := .idle
      lastSequence := if isOk then request.sequence else process.lastSequence }
    dispatched := s.dispatched ++ [⟨request, process.fence, s.lease, s.swaps⟩] }

def advance (process : BrokerProcess) : BrokerStep → BrokerState
  | .start fence => { s with process := some ⟨fence, 0, .idle⟩ }
  | .stop => { s with process := none }
  | .accept request now =>
    if process.handling = .idle ∧ process.fence.admits X request now = .ok ()
        ∧ request.sequence = nextSequence process.lastSequence then
      s.handle process (.locked request)
    else s
  | .read readable =>
    match process.handling with
    | .locked request =>
      match s.readLease readable with
      | none => s.handle process .idle
      | some expected =>
        if process.fence.matchesLease request expected then
          s.handle process (.checked request expected)
        else s.handle process .idle
    | _ => s
  | .swap readable answer =>
    match process.handling with
    | .checked request expected => s.reserve X process request expected readable answer
    | _ => s
  | .dispatch isOk =>
    match process.handling with
    | .reserved request _ => s.dispatchRequest process request isOk
    | _ => s

def step (a : BrokerStep) : Unit × BrokerState :=
  match s.process with
  | some process => ((), s.advance X process a)
  | none =>
    match a with
    | .start fence => ((), { s with process := some ⟨fence, 0, .idle⟩ })
    | _ => ((), s)

end BrokerState

/-! ## What a dispatch has behind it -/

/-- The tuple of a request, a release's too, and the one its operation repeats. -/
def WireRequest.Names (request : WireRequest) (tuple : LobbyId × UInt64) : Prop :=
  tuple = (request.lobbyId, request.generation) ∨ request.operation.exactTuple = some tuple

/-- A dispatch within its fence. -/
structure Dispatch.Fenced (X : BrokerHashes) (d : Dispatch) : Prop where
  /-- The tuple is that of the fence and of the Lease. -/
  tuple : ∀ tuple, d.request.Names tuple →
    tuple = (d.fence.lobbyId, d.fence.generation)
      ∧ tuple = (d.lease.binding.lobbyId, d.lease.binding.generation)
  /-- The intent of a mutation is in the Lease, under the next epoch, and replaced the version the
  request names. -/
  recorded : d.request.operation.isMutation = true → ∃ swap ∈ d.swaps,
    swap.request = d.request ∧ swap.next = d.lease
      ∧ swap.expected.uid = d.request.leaseUid
      ∧ swap.expected.resourceVersion = d.request.leaseResourceVersion
      ∧ swap.expected.binding.supervisorEpoch = d.request.supervisorEpoch
      ∧ swap.next.binding.supervisorEpoch.toNat = d.request.supervisorEpoch.toNat + 1
      ∧ swap.next.binding.stateSha256
        = X.intent (d.request.sequence, d.request.nonce, d.request.operation)
  admission : d.request.operation.isAdmission = true →
    d.lease.binding.phase.permitsAdmission = true
  /-- Once a release is recorded, only that release is dispatched. -/
  released : ∀ swap ∈ d.swaps, swap.next.binding.phase = .released →
    d.request = swap.request ∧ d.request.operation = .release

/-- What the checks before the lock establish. -/
structure BrokerFence.Admitted (fence : BrokerFence) (request : WireRequest) : Prop where
  tuple : ∀ tuple, request.Names tuple → tuple = (fence.lobbyId, fence.generation)
  live : fence.phase ≠ .released
  admission : request.operation.isAdmission = true → fence.phase.permitsAdmission = true

theorem admitted_of_admits {fence : BrokerFence} {X : BrokerHashes} {request : WireRequest}
    {now : UnixMillis} (hok : fence.admits X request now = .ok ()) : fence.Admitted request := by
  unfold BrokerFence.admits BrokerFence.validateOperation at hok
  split_ifs at hok with hrequest htuple hphase
  simp only [not_or, not_and] at hphase
  obtain ⟨hreleased, -, hadmission, -⟩ := hphase
  refine ⟨fun tuple hnames => ?_, hreleased, fun hadmits => ?_⟩
  · rcases hnames with rfl | hsome
    · exact not_not.mp fun hother => hrequest (.inr (.inr (.inr hother)))
    · rw [hsome] at htuple
      simpa using htuple
  · exact Bool.eq_true_of_not_eq_false (hadmission hadmits)

theorem matchesLease_iff {fence : BrokerFence} {request : WireRequest} {expected : LeaseSnapshot} :
    fence.matchesLease request expected = true ↔ expected.uid = request.leaseUid
      ∧ expected.resourceVersion = request.leaseResourceVersion
      ∧ expected.binding.lobbyId = fence.lobbyId ∧ expected.binding.generation = fence.generation
      ∧ expected.binding.supervisorEpoch = request.supervisorEpoch
      ∧ expected.binding.phase = fence.phase := by
  simp only [BrokerFence.matchesLease, Bool.and_eq_true, beq_iff_eq, and_assoc]

theorem recording_some {binding next : LeaseBinding} {X : BrokerHashes} {request : WireRequest}
    (h : binding.recording X request = some next) : next.lobbyId = binding.lobbyId
      ∧ next.generation = binding.generation
      ∧ next.supervisorEpoch.toNat = binding.supervisorEpoch.toNat + 1
      ∧ next.stateSha256 = X.intent (request.sequence, request.nonce, request.operation)
      ∧ next.phase = if request.operation = .release then .released else binding.phase := by
  obtain ⟨epoch, hepoch, rfl⟩ := Option.map_eq_some_iff.mp h
  refine ⟨rfl, rfl, ?_, rfl, rfl⟩
  exact (UInt64.checkedAdd_eq_some.mp hepoch).trans rfl

theorem eq_of_decode {snapshot snapshot' : LeaseSnapshot} (h : snapshot.decode = some snapshot') :
    snapshot' = snapshot := by
  unfold LeaseSnapshot.decode at h
  split_ifs at h
  exact (Option.some.inj h).symm

namespace BrokerState

variable {X : BrokerHashes} {s : BrokerState}

theorem eq_of_readLease {readable : Bool} {expected : LeaseSnapshot}
    (h : s.readLease readable = some expected) : expected = s.lease := by
  unfold readLease at h
  split_ifs at h
  exact eq_of_decode h

/-- A swap leaves everything alone, or replaces the Lease it expects. -/
theorem compareAndSwap_cases (s : BrokerState) (request : WireRequest) (expected : LeaseSnapshot)
    (next : LeaseBinding) (readable : Bool) (answer : PutAnswer) :
    s.compareAndSwap request expected next readable answer = (none, s)
      ∨ ∃ version result, s.compareAndSwap request expected next readable answer
          = (result, s.replaced request expected next version)
        ∧ (answer = .applied version ∨ answer = .appliedUnanswered version)
        ∧ ∀ snapshot, result = some snapshot →
          snapshot = (s.replaced request expected next version).lease := by
  unfold compareAndSwap put
  split_ifs
  · exact .inl rfl
  · exact .inl rfl
  · exact .inl rfl
  · cases answer with
    | lost => exact .inl rfl
    | applied version => exact .inr ⟨version, _, rfl, .inl rfl, fun _ => eq_of_decode⟩
    | appliedUnanswered version => exact .inr ⟨version, _, rfl, .inr rfl, nofun⟩

/-! ## The invariant -/

/-- A request that may be dispatched. -/
structure Ready (X : BrokerHashes) (s : BrokerState) (fence : BrokerFence) (request : WireRequest) :
    Prop where
  fenced : Dispatch.Fenced X ⟨request, fence, s.lease, s.swaps⟩
  fresh : request.operation.isMutation = true → ∀ d ∈ s.dispatched, d.request ≠ request
  used : request.operation.isMutation = true → request.leaseResourceVersion ∈ s.retired

/-- How far the lock's holder is, it has passed the checks until there. -/
def Handled (X : BrokerHashes) (s : BrokerState) (fence : BrokerFence) : Handling → Prop
  | .idle => True
  | .locked request => fence.Admitted request
  | .checked request expected => fence.Admitted request
    ∧ fence.matchesLease request expected = true ∧ expected = s.lease
  | .reserved request _ => Ready X s fence request

structure Inv (X : BrokerHashes) (s : BrokerState) : Prop where
  current : s.lease.resourceVersion ∉ s.retired
  released : ∀ swap ∈ s.swaps, swap.next.binding.phase = .released →
    s.lease.binding.phase = .released
  once : ((s.dispatched.map (·.request)).filter (·.operation.isMutation)).Nodup
  used : ∀ d ∈ s.dispatched, d.request.operation.isMutation = true →
    d.request.leaseResourceVersion ∈ s.retired
  fenced : ∀ d ∈ s.dispatched, d.Fenced X
  handled : ∀ process, s.process = some process → Handled X s process.fence process.handling

/-- The invariant but for the process. -/
theorem Inv.with_process (hi : Inv X s) {process : Option BrokerProcess}
    (hhandled : ∀ p, process = some p → Handled X s p.fence p.handling) :
    Inv X { s with process := process } := by
  refine ⟨hi.current, hi.released, hi.once, hi.used, hi.fenced, fun p hp => ?_⟩
  have hkept := hhandled p hp
  cases hhandling : p.handling with
  | idle => trivial
  | locked request => rwa [hhandling] at hkept
  | checked request expected => rwa [hhandling] at hkept
  | reserved request next =>
    rw [hhandling] at hkept
    exact ⟨hkept.fenced, hkept.fresh, hkept.used⟩

theorem Inv.handle (hi : Inv X s) (process : BrokerProcess) {handling : Handling}
    (hhandled : Handled X s process.fence handling) : Inv X (s.handle process handling) := by
  refine hi.with_process fun p hp => ?_
  cases hp
  exact hhandled

/-- A version that was never used before. -/
def FreshVersion (s : BrokerState) : BrokerStep → Prop
  | .swap _ (.applied version) | .swap _ (.appliedUnanswered version) =>
    version ≠ s.lease.resourceVersion ∧ version ∉ s.retired
  | _ => True

theorem Inv.reserve (hi : Inv X s) {process : BrokerProcess} {request : WireRequest}
    {readable : Bool} {answer : PutAnswer} (hadmitted : process.fence.Admitted request)
    (hmatches : process.fence.matchesLease request s.lease = true)
    (hfresh : s.FreshVersion (.swap readable answer)) :
    Inv X (s.reserve X process request s.lease readable answer) := by
  obtain ⟨huid, hversion, hlobby, hgeneration, hepoch, hphase⟩ := matchesLease_iff.mp hmatches
  -- the Lease is live, so no release has been recorded
  have hlive : ∀ swap ∈ s.swaps, swap.next.binding.phase ≠ .released := fun swap hswap hreleased =>
    hadmitted.live (hphase.symm.trans (hi.released swap hswap hreleased))
  have htuple : ∀ tuple, request.Names tuple →
      tuple = (process.fence.lobbyId, process.fence.generation)
        ∧ tuple = (s.lease.binding.lobbyId, s.lease.binding.generation) := by
    intro tuple hnames
    rw [hlobby, hgeneration]
    exact ⟨hadmitted.tuple tuple hnames, hadmitted.tuple tuple hnames⟩
  unfold BrokerState.reserve
  by_cases hmutation : request.operation.isMutation = false
  · rw [if_pos hmutation]
    have hnot : request.operation.isMutation ≠ true := by simp [hmutation]
    refine hi.handle process ⟨⟨htuple, fun h => absurd h hnot, fun hadmission => ?_, ?_⟩,
      fun h => absurd h hnot, fun h => absurd h hnot⟩
    · exact (congrArg _ hphase).trans (hadmitted.admission hadmission)
    · exact fun swap hswap hreleased => absurd hreleased (hlive swap hswap)
  rw [if_neg hmutation]
  cases hrecording : s.lease.binding.recording X request with
  | none => exact hi.handle process trivial
  | some next =>
    obtain ⟨hnextLobby, hnextGeneration, hnextEpoch, hnextState, hnextPhase⟩ :=
      recording_some hrecording
    dsimp only
    rcases compareAndSwap_cases s request s.lease next readable answer with
      hnone | ⟨version, result, hresult, hanswer, hsnapshot⟩
    · rw [hnone]
      exact hi.handle process trivial
    have hnew : version ≠ s.lease.resourceVersion ∧ version ∉ s.retired := by
      rcases hanswer with rfl | rfl <;> exact hfresh
    have hkept : ∀ d ∈ s.dispatched, d.request.operation.isMutation = true →
        d.request.leaseResourceVersion ∈ (s.replaced request s.lease next version).retired :=
      fun d hd hm => List.mem_cons_of_mem _ (hi.used d hd hm)
    have hnotRelease : request.operation.isAdmission = true → request.operation ≠ .release := by
      intro hadmission hrelease
      rw [hrelease] at hadmission
      exact nomatch hadmission
    have hafter : Inv X { s.replaced request s.lease next version with process := none } := by
      refine ⟨?_, ?_, hi.once, hkept, hi.fenced, fun _ h => nomatch h⟩
      · intro hmem
        rcases List.mem_cons.mp hmem with heq | hmem
        · exact hnew.1 heq
        · exact hnew.2 hmem
      · intro swap hswap hreleased
        rcases List.mem_append.mp hswap with hswap | hswap
        · exact absurd hreleased (hlive swap hswap)
        · rw [List.mem_singleton.mp hswap] at hreleased
          exact hreleased
    rw [hresult]
    cases hcase : result with
    | none => exact hafter.with_process fun p hp => by cases hp; trivial
    | some snapshot =>
      refine hafter.with_process fun p hp => ?_
      cases hp
      refine ⟨⟨?_, fun _ => ?_, fun hadmission => ?_, fun swap hswap hreleased => ?_⟩, ?_, fun _ => ?_⟩
      · intro tuple hnames
        refine ⟨hadmitted.tuple tuple hnames, (htuple tuple hnames).2.trans ?_⟩
        change _ = (next.lobbyId, next.generation)
        rw [hnextLobby, hnextGeneration]
      · refine ⟨⟨request, s.lease, _⟩, List.mem_append_right _ List.mem_cons_self, rfl, rfl, huid,
          hversion, hepoch, ?_, hnextState⟩
        rw [← hepoch]
        exact hnextEpoch
      · change next.phase.permitsAdmission = true
        rw [hnextPhase, if_neg (hnotRelease hadmission), hphase]
        exact hadmitted.admission hadmission
      · rcases List.mem_append.mp hswap with hswap | hswap
        · exact absurd hreleased (hlive swap hswap)
        · rw [List.mem_singleton.mp hswap] at hreleased ⊢
          refine ⟨rfl, ?_⟩
          by_contra hother
          change next.phase = .released at hreleased
          rw [hnextPhase, if_neg hother] at hreleased
          exact hadmitted.live (hphase.symm.trans hreleased)
      · intro hm d hd heq
        refine hi.current ?_
        rw [hversion, ← heq]
        refine hi.used d hd ?_
        rwa [heq]
      · change request.leaseResourceVersion ∈ s.lease.resourceVersion :: s.retired
        rw [← hversion]
        exact List.mem_cons_self

theorem Inv.dispatchRequest (hi : Inv X s) {process : BrokerProcess} {request : WireRequest}
    (hready : Ready X s process.fence request) (isOk : Bool) :
    Inv X (s.dispatchRequest process request isOk) := by
  refine ⟨hi.current, hi.released, ?_, fun d hd hm => ?_, fun d hd => ?_, fun p hp => ?_⟩
  · change (((s.dispatched ++ [_]).map Dispatch.request).filter _).Nodup
    rw [List.map_append, List.filter_append]
    cases hm : request.operation.isMutation with
    | false => simpa [hm] using hi.once
    | true =>
      refine List.nodup_append.mpr ⟨hi.once, by simp [hm], ?_⟩
      intro r hr r' hr' heq
      obtain ⟨d, hd, rfl⟩ := List.mem_map.mp (List.mem_of_mem_filter hr)
      have hsame := List.mem_singleton.mp (List.mem_of_mem_filter hr')
      exact hready.fresh hm d hd (heq.trans hsame)
  · rcases List.mem_append.mp hd with hd | hd
    · exact hi.used d hd hm
    · rw [List.mem_singleton.mp hd] at hm ⊢
      exact hready.used hm
  · rcases List.mem_append.mp hd with hd | hd
    · exact hi.fenced d hd
    · rw [List.mem_singleton.mp hd]
      exact hready.fenced
  · cases hp
    trivial

theorem Inv.step (hi : Inv X s) {a : BrokerStep} (hfresh : s.FreshVersion a) :
    Inv X (s.step X a).2 := by
  unfold BrokerState.step
  cases hprocess : s.process with
  | none =>
    cases a with
    | start fence => exact hi.with_process fun p hp => by cases hp; trivial
    | _ => exact hi
  | some process =>
    have hhandled := hi.handled process hprocess
    unfold advance
    dsimp only
    cases a with
    | start fence => exact hi.with_process fun p hp => by cases hp; trivial
    | stop => exact hi.with_process fun p hp => nomatch hp
    | accept request now =>
      dsimp only
      split_ifs with haccepted
      · exact hi.handle process (admitted_of_admits haccepted.2.1)
      · exact hi
    | read readable =>
      cases hhandling : process.handling with
      | locked request =>
        rw [hhandling] at hhandled
        dsimp only
        cases hread : s.readLease readable with
        | none => exact hi.handle process trivial
        | some expected =>
          dsimp only
          split_ifs with hmatches
          · exact hi.handle process ⟨hhandled, hmatches, eq_of_readLease hread⟩
          · exact hi.handle process trivial
      | _ => exact hi
    | swap readable answer =>
      cases hhandling : process.handling with
      | checked request expected =>
        rw [hhandling] at hhandled
        obtain ⟨hadmitted, hmatches, rfl⟩ := hhandled
        exact hi.reserve hadmitted hmatches hfresh
      | _ => exact hi
    | dispatch isOk =>
      cases hhandling : process.handling with
      | reserved request next =>
        rw [hhandling] at hhandled
        exact hi.dispatchRequest hhandled isOk
      | _ => exact hi

/-! ## Every run -/

/-- The Lease before the first start of the broker. -/
def installed (lease : LeaseSnapshot) : BrokerState := ⟨lease, [], none, [], []⟩

/-- No mutation is dispatched twice, and every dispatch is within its fence. -/
structure Fenced (X : BrokerHashes) (s : BrokerState) : Prop where
  once : ((s.dispatched.map (·.request)).filter (·.operation.isMutation)).Nodup
  each : ∀ d ∈ s.dispatched, d.Fenced X

/-- **Mutations are fenced and happen at most once**, for every delivery of requests, over restarts
and lost answers, while the Lease repeats no version. -/
theorem fenced_along (X : BrokerHashes) (lease : LeaseSnapshot) (steps : List BrokerStep)
    (halong : Runs.Along (step X) FreshVersion (installed lease) steps) :
    Fenced X (Runs.run (step X) (installed lease) steps) := by
  have hstep : ∀ (s : BrokerState) (a : BrokerStep), s.FreshVersion a → Inv X s →
      Inv X (s.step X a).2 := fun _ _ hfresh hi => hi.step hfresh
  have hstart : Inv X (installed lease) := by
    refine ⟨List.not_mem_nil, List.forall_mem_nil _, List.nodup_nil, List.forall_mem_nil _,
      List.forall_mem_nil _, fun _ h => nomatch h⟩
  have hend := Runs.run_invariant_along hstep hstart halong
  exact ⟨hend.once, hend.fenced⟩

/-! ### One prepare, and its replay -/

def alphaLease : LeaseSnapshot where
  uid := "lease-uid"
  resourceVersion := "41"
  binding := {
    installationId := "installation-0001"
    receiptResourceVersion := "40"
    stateStoreIdSha256 := Vector.replicate 32 1
    receiptDigest := Vector.replicate 32 1
    lobbyId := ProtocolId.ofTail 1
    generation := 1
    supervisorEpoch := 1
    stateSha256 := Vector.replicate 32 1
    phase := .admission
    admissionPlayDeadline := 3700000
    cleanupDeadline := 4600000 }

def brokerFence : BrokerFence :=
  ⟨"run-000000000001", ProtocolId.ofTail 1, 1, 1, .admission, 3700000, 4600000⟩

/-- A MAC that says only who made it. -/
def plainHashes : BrokerHashes := ⟨fun _ => Vector.replicate 32 9, fun _ => Vector.replicate 32 1⟩

def prepareRequest : WireRequest where
  protocol := BROKER_PROTOCOL
  runId := "run-000000000001"
  lobbyId := ProtocolId.ofTail 1
  generation := 1
  supervisorEpoch := 1
  sequence := 1
  nonce := Vector.replicate 32 5
  leaseUid := "lease-uid"
  leaseResourceVersion := "41"
  operation := .prepare ⟨ProtocolId.ofTail 1, 1, .tailnetPerLobby, false⟩
  mac := Vector.replicate 32 9

/-- The broker serves the request, starts anew, and is given the request again. -/
def replayedSteps : List BrokerStep :=
  [.start brokerFence, .accept prepareRequest 2000000, .read true, .swap true (.applied "42"),
    .dispatch true, .start brokerFence, .accept prepareRequest 2000001, .read true,
    .swap true (.applied "43"), .dispatch true]

theorem fenced_along_replay :
    (Runs.run (step plainHashes) (installed alphaLease) replayedSteps).dispatched.length = 1
      ∧ Fenced plainHashes (Runs.run (step plainHashes) (installed alphaLease) replayedSteps) := by
  refine ⟨by decide +kernel, fenced_along plainHashes alphaLease replayedSteps ?_⟩
  refine ⟨trivial, trivial, trivial, ?_, trivial, trivial, trivial, trivial, ?_, trivial, trivial⟩
  · exact ⟨by decide +kernel, by decide +kernel⟩
  · exact ⟨by decide +kernel, by decide +kernel⟩

end BrokerState

end Spurfire
