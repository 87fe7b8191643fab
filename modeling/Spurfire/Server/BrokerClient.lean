import Spurfire.Server.Broker

/-!
# The client of the broker

The worker's side of the broker protocol (`MtlsBrokerProviderTransport::call`), joined with the
broker.  A call draws its sequence from a shared counter, waits for the lock on the remembered Lease,
and holds it until the broker has answered.

* `serve_eq`: what the broker makes of a request it accepts from end to end.
* `inStep_along`: client and broker stay in step while every call that draws a sequence is served,
  in the order of the draws.

Nothing else writes the Lease, and the broker does not restart.
-/

namespace Spurfire

/-- A call that has drawn its sequence. -/
structure DrawnCall where
  operation : WireOperation
  sequence : UInt64
deriving DecidableEq

structure BrokerClient where
  fence : BrokerFence
  /-- The shared counter. -/
  sequence : UInt64
  /-- The remembered Lease, under its lock. -/
  lease : LeaseSnapshot
  /-- The calls that wait for the lock, as they drew. -/
  waiting : List DrawnCall
  /-- The request of the call that holds the lock. -/
  holder : Option WireRequest
deriving DecidableEq

def BrokerClient.request (client : BrokerClient) (X : BrokerHashes) (call : DrawnCall)
    (nonce : Vector UInt8 32) : WireRequest :=
  let unsigned : WireRequest := {
    protocol := BROKER_PROTOCOL
    runId := client.fence.runId
    lobbyId := client.fence.lobbyId
    generation := client.fence.generation
    supervisorEpoch := client.lease.binding.supervisorEpoch
    sequence := call.sequence
    nonce := nonce
    leaseUid := client.lease.uid
    leaseResourceVersion := client.lease.resourceVersion
    operation := call.operation
    mac := NO_DIGEST }
  { unsigned with mac := X.requestMac unsigned }

/-- What the client remembers of a response. -/
def BrokerClient.answered (client : BrokerClient) (request : WireRequest)
    (resourceVersion : String) : BrokerClient :=
  { client with
    lease := { client.lease with
      resourceVersion := resourceVersion
      binding := { client.lease.binding with
        supervisorEpoch := client.lease.binding.supervisorEpoch.satAdd
          (if request.operation.isMutation then 1 else 0) } } }

structure BrokerLink where
  client : BrokerClient
  broker : BrokerState
deriving DecidableEq

/-- What the environment does to one exchange: the broker's clock, its two reads of the Lease, the
`PUT`, and the provider. -/
structure ExchangeAnswers where
  now : UnixMillis
  readable : Bool
  swapReadable : Bool
  put : PutAnswer
  isOk : Bool
deriving DecidableEq

inductive BrokerLinkStep
  /-- A call passes the client's fence and draws. -/
  | call (operation : WireOperation) (now : UnixMillis)
  /-- A call that drew ends without its nonce. -/
  | abandon (index : ℕ)
  /-- A call takes the lock. -/
  | lock (index : ℕ) (nonce : Vector UInt8 32)
  /-- The holder cannot connect. -/
  | disconnect
  /-- The broker handles the holder's request, and answers or hangs up. -/
  | exchange (a : ExchangeAnswers)
deriving DecidableEq

namespace BrokerLink

variable (X : BrokerHashes) (s : BrokerLink)

/-- The broker takes the request, reads the Lease and records the intent. -/
def brokerAfter (request : WireRequest) (a : ExchangeAnswers) : BrokerState :=
  Runs.run (BrokerState.step X) s.broker
    [.accept request a.now, .read a.readable, .swap a.swapReadable a.put]

/-- The response, where there is one: the Lease after the request. -/
def responds (request : WireRequest) (a : ExchangeAnswers) : Option LeaseSnapshot :=
  match (s.brokerAfter X request a).process with
  | some ⟨_, _, .reserved _ next⟩ => if a.isOk then some next else none
  | _ => none

def serve (request : WireRequest) (a : ExchangeAnswers) : BrokerLink where
  broker := ((s.brokerAfter X request a).step X (.dispatch a.isOk)).2
  client :=
    let client := { s.client with holder := none }
    match s.responds X request a with
    | some next => if next.uid = client.lease.uid then client.answered request next.resourceVersion
      else client
    | none => client

def step : BrokerLinkStep → Unit × BrokerLink
  | .call operation now =>
    if s.client.fence.validateOperation operation now = .ok () then
      ((), { s with client := { s.client with
        sequence := s.client.sequence + 1
        waiting := s.client.waiting ++ [⟨operation, s.client.sequence.satAdd 1⟩] } })
    else ((), s)
  | .abandon index => ((), { s with client := { s.client with
      waiting := s.client.waiting.eraseIdx index } })
  | .lock index nonce =>
    match s.client.holder, s.client.waiting[index]? with
    | none, some call => ((), { s with client := { s.client with
        waiting := s.client.waiting.eraseIdx index
        holder := some (s.client.request X call nonce) } })
    | _, _ => ((), s)
  | .disconnect => ((), { s with client := { s.client with holder := none } })
  | .exchange a =>
    match s.client.holder with
    | some request => ((), s.serve X request a)
    | none => ((), s)

def linked (fence : BrokerFence) (lease : LeaseSnapshot) : BrokerLink where
  client := ⟨fence, 0, lease, [], none⟩
  broker := ⟨lease, [], some ⟨fence, 0, .idle⟩, [], []⟩

/-! ## In step -/

def Quiet : Prop := s.client.waiting = [] ∧ s.client.holder = none

/-- The next sequence and the remembered Lease are those that the broker expects, and so the next
request names them. -/
structure InStep : Prop where
  sequence : ∃ process, s.broker.process = some process ∧ process.handling = .idle
    ∧ s.client.sequence = process.lastSequence
  uid : s.client.lease.uid = s.broker.lease.uid
  resourceVersion : s.client.lease.resourceVersion = s.broker.lease.resourceVersion
  epoch : s.client.lease.binding.supervisorEpoch = s.broker.lease.binding.supervisorEpoch
  next : ∀ operation nonce process request, s.broker.process = some process →
    s.client.request X ⟨operation, s.client.sequence.satAdd 1⟩ nonce = request →
    request.sequence = nextSequence process.lastSequence
      ∧ request.leaseUid = s.broker.lease.uid
      ∧ request.leaseResourceVersion = s.broker.lease.resourceVersion
      ∧ request.supervisorEpoch = s.broker.lease.binding.supervisorEpoch

/-- The Lease takes the binding with the intent. -/
def Recordable (request : WireRequest) (a : ExchangeAnswers) : Prop :=
  a.swapReadable = true ∧ (s.broker.lease.binding.recording X request).any (·.isValid) = true
    ∧ match a.put with
      | .applied version => version ≠ ""
      | _ => False

/-- Every call that draws a sequence is served, in the order of the draws: none is abandoned, none
overtakes another, and no connection, Lease or provider fails. -/
def Served : BrokerLinkStep → Prop
  | .call _ _ => s.client.sequence.toNat + 1 < 2 ^ 64
  | .abandon index => s.client.waiting.length ≤ index
  | .lock index _ => index = 0 ∨ s.client.holder.isSome ∨ s.client.waiting.length ≤ index
  | .disconnect => s.client.holder = none
  | .exchange a => ∀ request process, s.client.holder = some request →
    s.broker.process = some process → process.fence.admits X request a.now = .ok ()
      ∧ a.readable = true ∧ s.broker.lease.decode = some s.broker.lease
      ∧ s.broker.lease.binding.lobbyId = process.fence.lobbyId
      ∧ s.broker.lease.binding.generation = process.fence.generation
      ∧ s.broker.lease.binding.phase = process.fence.phase
      ∧ (request.operation.isMutation = true → s.Recordable X request a) ∧ a.isOk = true

end BrokerLink

/-! ## A request that the broker serves -/

namespace BrokerState

variable {X : BrokerHashes} {s : BrokerState} {process : BrokerProcess} {request : WireRequest}

theorem step_accept (hprocess : s.process = some process) (hidle : process.handling = .idle)
    {now : UnixMillis} (hadmits : process.fence.admits X request now = .ok ())
    (hsequence : request.sequence = nextSequence process.lastSequence) :
    (s.step X (.accept request now)).2 = s.handle process (.locked request) := by
  unfold step
  rw [hprocess]
  exact if_pos ⟨hidle, hadmits, hsequence⟩

theorem step_read (hprocess : s.process = some process)
    (hlocked : process.handling = .locked request) (hdecode : s.lease.decode = some s.lease)
    (hmatches : process.fence.matchesLease request s.lease = true) :
    (s.step X (.read true)).2 = s.handle process (.checked request s.lease) := by
  unfold step
  rw [hprocess]
  unfold advance readLease
  dsimp only
  rw [hlocked]
  dsimp only
  rw [ if_pos rfl, hdecode]
  exact if_pos hmatches

theorem step_swap (hprocess : s.process = some process) {expected : LeaseSnapshot}
    (hchecked : process.handling = .checked request expected) (readable : Bool)
    (answer : PutAnswer) : (s.step X (.swap readable answer)).2
      = s.reserve X process request expected readable answer := by
  unfold step
  rw [hprocess]
  unfold advance
  dsimp only
  rw [hchecked]

theorem step_dispatch (hprocess : s.process = some process) {next : LeaseSnapshot}
    (hreserved : process.handling = .reserved request next) (isOk : Bool) :
    (s.step X (.dispatch isOk)).2 = s.dispatchRequest process request isOk := by
  unfold step
  rw [hprocess]
  unfold advance
  dsimp only
  rw [hreserved]

/-- The intent of a mutation is recorded, any other request leaves the Lease. -/
theorem reserve_eq (process : BrokerProcess) (readable : Bool) (answer : PutAnswer)
    (hdecode : s.lease.decode = some s.lease)
    (hrecordable : request.operation.isMutation = true → readable = true
      ∧ (s.lease.binding.recording X request).any (·.isValid) = true
      ∧ match answer with
        | .applied version => version ≠ ""
        | _ => False) :
    ∃ after : BrokerState, s.reserve X process request s.lease readable answer
        = after.handle process (.reserved request after.lease)
      ∧ after.lease.uid = s.lease.uid
      ∧ after.lease.binding.supervisorEpoch
        = s.lease.binding.supervisorEpoch.satAdd (if request.operation.isMutation then 1 else 0) := by
  have hzero : ∀ epoch : UInt64, epoch.satAdd 0 = epoch := by
    intro epoch
    rw [← UInt64.toNat_inj, UInt64.toNat_satAdd]
    have := epoch.toNat_lt
    change min (epoch.toNat + 0) (2 ^ 64 - 1) = epoch.toNat
    omega
  unfold reserve
  cases hmutation : request.operation.isMutation with
  | false => exact ⟨s, if_pos rfl, rfl, (hzero _).symm⟩
  | true =>
    obtain ⟨rfl, hvalid, hput⟩ := hrecordable hmutation
    rw [if_neg Bool.true_eq_false.mp]
    obtain ⟨next, hrecording⟩ : ∃ next, s.lease.binding.recording X request = some next := by
      cases hnext : s.lease.binding.recording X request with
      | none =>
        rw [hnext] at hvalid
        exact nomatch hvalid
      | some next => exact ⟨next, rfl⟩
    rw [hrecording] at hvalid
    have hvalid : next.isValid = true := hvalid
    cases answer with
    | lost => exact absurd hput id
    | appliedUnanswered version => exact absurd hput id
    | applied version =>
      have hnonempty : s.lease.uid ≠ "" ∧ s.lease.resourceVersion ≠ "" := by
        unfold LeaseSnapshot.decode at hdecode
        split_ifs at hdecode with hok
        simp only [Bool.and_eq_true, bne_iff_ne] at hok
        exact ⟨hok.1.2, hok.2⟩
      have hcas : s.compareAndSwap request s.lease next true (.applied version)
          = (some (s.replaced request s.lease next version).lease,
            s.replaced request s.lease next version) := by
        unfold compareAndSwap put readLease
        rw [if_neg (by simp [hvalid, hnonempty]), if_pos rfl, hdecode, if_neg (by simp),
          if_neg (by simp)]
        unfold LeaseSnapshot.decode
        dsimp only
        rw [if_pos (by simpa [replaced, hvalid, hnonempty] using hput)]
      refine ⟨s.replaced request s.lease next version, ?_, rfl, ?_⟩
      · rw [hrecording]
        dsimp only
        rw [hcas]
      · obtain ⟨-, -, hepoch, -⟩ := recording_some hrecording
        rw [← UInt64.toNat_inj, if_pos rfl, UInt64.toNat_satAdd]
        change next.supervisorEpoch.toNat = _
        have hlt := next.supervisorEpoch.toNat_lt
        have hone : (1 : UInt64).toNat = 1 := rfl
        omega

end BrokerState

namespace BrokerLink

variable {X : BrokerHashes} {s : BrokerLink} {process : BrokerProcess} {request : WireRequest}
  {a : ExchangeAnswers}

/-- **A served request** counts its sequence, and the client remembers the Lease it left. -/
theorem serve_eq (hprocess : s.broker.process = some process) (hidle : process.handling = .idle)
    (hholder : s.client.holder = some request) (hserved : s.Served X (.exchange a))
    (hsequence : request.sequence = nextSequence process.lastSequence)
    (huid : request.leaseUid = s.broker.lease.uid)
    (hversion : request.leaseResourceVersion = s.broker.lease.resourceVersion)
    (hepoch : request.supervisorEpoch = s.broker.lease.binding.supervisorEpoch)
    (hclient : s.client.lease.uid = s.broker.lease.uid) :
    ∃ broker : BrokerState, (s.serve X request a).broker.lease = broker.lease
      ∧ (s.serve X request a).broker.process = some ⟨process.fence, request.sequence, .idle⟩
      ∧ (s.serve X request a).client
        = { s.client with holder := none }.answered request broker.lease.resourceVersion
      ∧ broker.lease.uid = s.broker.lease.uid
      ∧ broker.lease.binding.supervisorEpoch = s.broker.lease.binding.supervisorEpoch.satAdd
        (if request.operation.isMutation then 1 else 0) := by
  obtain ⟨hadmits, hreadable, hdecode, hlobby, hgeneration, hphase, hrecordable, hok⟩ :=
    hserved request process hholder hprocess
  have hmatches : process.fence.matchesLease request s.broker.lease = true :=
    matchesLease_iff.mpr ⟨huid.symm, hversion.symm, hlobby, hgeneration, hepoch.symm, hphase⟩
  -- the broker after its two checks
  have hlocked : (s.broker.handle process (.locked request)).process
    = some ⟨process.fence, process.lastSequence, .locked request⟩ := rfl
  obtain ⟨after, hreserve, hafterUid, hafterEpoch⟩ := BrokerState.reserve_eq (X := X)
    (s := (s.broker.handle process (.locked request)).handle
      ⟨process.fence, process.lastSequence, .locked request⟩ (.checked request s.broker.lease))
    ⟨process.fence, process.lastSequence, .checked request s.broker.lease⟩ a.swapReadable a.put
    hdecode hrecordable
  have hafter : s.brokerAfter X request a = after.handle
      ⟨process.fence, process.lastSequence, .checked request s.broker.lease⟩
      (.reserved request after.lease) := by
    unfold brokerAfter
    rw [Runs.run_cons, Runs.run_cons, Runs.run_cons, Runs.run_nil,
      BrokerState.step_accept hprocess hidle hadmits hsequence, hreadable]
    rw [BrokerState.step_read hlocked rfl hdecode hmatches]
    rw [BrokerState.step_swap rfl rfl]
    exact hreserve
  refine ⟨after, ?_, ?_, ?_, hafterUid, hafterEpoch⟩
  all_goals
    unfold serve
    try unfold responds
    rw [hafter]
  · rw [BrokerState.step_dispatch rfl rfl]
    rfl
  · rw [BrokerState.step_dispatch rfl rfl, hok]
    rfl
  · simp only [BrokerState.handle, hok, if_true]
    rw [if_pos (hafterUid.trans hclient.symm)]

/-! ## The invariant -/

/-- The sequences drawn and not served yet follow the broker's last one, the holder's first. -/
structure Numbered (s : BrokerLink) (process : BrokerProcess) : Prop where
  idle : process.handling = .idle
  sequence : s.client.sequence.toNat
    = process.lastSequence.toNat + s.client.holder.toList.length + s.client.waiting.length
  holder : ∀ request, s.client.holder = some request →
    request.sequence.toNat = process.lastSequence.toNat + 1
      ∧ request.leaseUid = s.client.lease.uid
      ∧ request.leaseResourceVersion = s.client.lease.resourceVersion
      ∧ request.supervisorEpoch = s.client.lease.binding.supervisorEpoch
  waiting : ∀ i call, s.client.waiting[i]? = some call →
    call.sequence.toNat
      = process.lastSequence.toNat + s.client.holder.toList.length + i + 1

structure Sync (s : BrokerLink) : Prop where
  numbered : ∃ process, s.broker.process = some process ∧ s.Numbered process
  uid : s.client.lease.uid = s.broker.lease.uid
  resourceVersion : s.client.lease.resourceVersion = s.broker.lease.resourceVersion
  epoch : s.client.lease.binding.supervisorEpoch = s.broker.lease.binding.supervisorEpoch

/-- A draw joins the queue. -/
theorem Numbered.call (hn : s.Numbered process) {operation : WireOperation}
    (hsmall : s.client.sequence.toNat + 1 < 2 ^ 64) :
    Numbered { s with client := { s.client with
      sequence := s.client.sequence + 1
      waiting := s.client.waiting ++ [⟨operation, s.client.sequence.satAdd 1⟩] } } process := by
  have hone : (1 : UInt64).toNat = 1 := rfl
  have hsequence := hn.sequence
  refine ⟨hn.idle, ?_, hn.holder, fun i call hcall => ?_⟩
  · dsimp only
    rw [UInt64.toNat_add, hone, Nat.mod_eq_of_lt hsmall, List.length_append, List.length_singleton]
    omega
  · dsimp only at hcall ⊢
    rw [List.getElem?_append] at hcall
    split_ifs at hcall with hold
    · exact hn.waiting i call hcall
    · have hlast : i - s.client.waiting.length = 0 := by
        by_contra hpos
        rw [List.getElem?_eq_none (by rw [List.length_singleton]; omega)] at hcall
        exact nomatch hcall
      rw [hlast] at hcall
      cases hcall
      rw [UInt64.toNat_satAdd]
      omega

/-- The first in the queue takes the lock. -/
theorem Numbered.lock (hn : s.Numbered process) (hfree : s.client.holder = none) {call : DrawnCall}
    {rest : List DrawnCall} (hwaiting : s.client.waiting = call :: rest) (nonce : Vector UInt8 32) :
    Numbered { s with client := { s.client with
      waiting := rest
      holder := some (s.client.request X call nonce) } } process := by
  have hsequence := hn.sequence
  rw [hfree, hwaiting] at hsequence
  have hfirst := hn.waiting 0 call (by rw [hwaiting]; rfl)
  rw [hfree] at hfirst
  refine ⟨hn.idle, ?_, fun request hrequest => ?_, fun i later hlater => ?_⟩
  · simp only [Option.toList_none, List.length_nil, List.length_cons, Option.toList_some]
      at hsequence ⊢
    omega
  · cases hrequest
    exact ⟨hfirst, rfl, rfl, rfl⟩
  · have hnext := hn.waiting (i + 1) later (by rw [hwaiting]; exact hlater)
    rw [hfree] at hnext
    simp only [Option.toList_none, List.length_nil, List.length_cons, Option.toList_some]
      at hnext ⊢
    omega

theorem Sync.exchange (hs : Sync s) (hholder : s.client.holder = some request)
    (hserved : s.Served X (.exchange a)) : Sync (s.serve X request a) := by
  obtain ⟨process, hprocess, hn⟩ := hs.numbered
  obtain ⟨hnumber, huid, hversion, hepoch⟩ := hn.holder request hholder
  have hsequence : request.sequence = nextSequence process.lastSequence := by
    have hlt := request.sequence.toNat_lt
    have hone : (1 : UInt64).toNat = 1 := rfl
    rw [← UInt64.toNat_inj, nextSequence, UInt64.toNat_satAdd]
    omega
  obtain ⟨broker, hlease, hafter, hclient, hbrokerUid, hbrokerEpoch⟩ := serve_eq hprocess hn.idle
    hholder hserved hsequence (huid.trans hs.uid) (hversion.trans hs.resourceVersion)
    (hepoch.trans hs.epoch) hs.uid
  refine ⟨⟨_, hafter, rfl, ?_, ?_, ?_⟩, ?_, ?_, ?_⟩
  all_goals rw [hclient]
  · have hcount := hn.sequence
    rw [hholder] at hcount
    simp only [BrokerClient.answered, Option.toList_some, Option.toList_none, List.length_cons,
      List.length_nil] at hcount ⊢
    omega
  · exact fun _ h => nomatch h
  · intro i call hcall
    have hlater := hn.waiting i call hcall
    rw [hholder] at hlater
    simp only [BrokerClient.answered, Option.toList_some, Option.toList_none, List.length_cons,
      List.length_nil] at hlater ⊢
    omega
  · rw [hlease, hbrokerUid]
    exact hs.uid
  · rw [hlease]
    rfl
  · rw [hlease, hbrokerEpoch, ← hs.epoch]
    rfl

theorem Sync.step (hs : Sync s) {a : BrokerLinkStep} (hserved : s.Served X a) :
    Sync (s.step X a).2 := by
  obtain ⟨process, hprocess, hn⟩ := hs.numbered
  unfold BrokerLink.step
  cases a with
  | call operation now =>
    dsimp only
    split_ifs
    · exact ⟨⟨process, hprocess, hn.call hserved⟩, hs.uid, hs.resourceVersion, hs.epoch⟩
    · exact hs
  | abandon index =>
    dsimp only
    rw [List.eraseIdx_of_length_le hserved]
    exact hs
  | lock index nonce =>
    dsimp only
    cases hholder : s.client.holder with
    | some request => exact hs
    | none =>
      cases hcall : s.client.waiting[index]? with
      | none => exact hs
      | some call =>
        have hindex : index = 0 := by
          rcases hserved with hzero | hheld | hbeyond
          · exact hzero
          · rw [hholder] at hheld
            exact nomatch hheld
          · rw [List.getElem?_eq_none hbeyond] at hcall
            exact nomatch hcall
        subst hindex
        cases hwaiting : s.client.waiting with
        | nil =>
          rw [hwaiting] at hcall
          exact nomatch hcall
        | cons first rest =>
          rw [hwaiting] at hcall
          cases hcall
          exact ⟨⟨process, hprocess, hn.lock hholder hwaiting nonce⟩, hs.uid, hs.resourceVersion,
            hs.epoch⟩
  | disconnect =>
    have hnone : s.client.holder = none := hserved
    have hsame : ({ s with client := { s.client with holder := none } } : BrokerLink) = s := by
      rw [← hnone]
    rw [hsame]
    exact hs
  | exchange a =>
    cases hholder : s.client.holder with
    | none => exact hs
    | some request => exact hs.exchange hholder hserved

theorem sync_linked (fence : BrokerFence) (lease : LeaseSnapshot) : Sync (linked fence lease) :=
  ⟨⟨_, rfl, rfl, rfl, (fun _ h => nomatch h), (fun _ _ h => nomatch h)⟩, rfl, rfl, rfl⟩

theorem Sync.inStep (hs : Sync s) (hquiet : s.Quiet) : s.InStep X := by
  obtain ⟨process, hprocess, hn⟩ := hs.numbered
  have hsequence : s.client.sequence = process.lastSequence := by
    have hcount := hn.sequence
    rw [hquiet.1, hquiet.2] at hcount
    exact UInt64.toNat_inj.mp hcount
  refine ⟨⟨process, hprocess, hn.idle, hsequence⟩, hs.uid, hs.resourceVersion, hs.epoch, ?_⟩
  rintro operation nonce process' request hprocess' rfl
  cases hprocess.symm.trans hprocess'
  exact ⟨congrArg nextSequence hsequence, hs.uid, hs.resourceVersion, hs.epoch⟩

/-- **Client and broker stay in step** in every run in which each call that draws is served, in the
order of the draws. -/
theorem inStep_along (X : BrokerHashes) (fence : BrokerFence) (lease : LeaseSnapshot)
    (steps : List BrokerLinkStep)
    (halong : Runs.Along (step X) (Served X) (linked fence lease) steps)
    (hquiet : Quiet (Runs.run (step X) (linked fence lease) steps)) :
    InStep X (Runs.run (step X) (linked fence lease) steps) := by
  have hstep : ∀ (s : BrokerLink) (a : BrokerLinkStep), s.Served X a → Sync s → Sync (s.step X a).2 :=
    fun _ _ hserved hs => hs.step hserved
  exact (Runs.run_invariant_along hstep (sync_linked fence lease) halong).inStep hquiet

/-! ### A call that cannot connect -/

def preparing : WireOperation :=
  .prepare ⟨ProtocolId.ofTail 1, 1, .tailnetPerLobby, false⟩

def servedSteps : List BrokerLinkStep :=
  [.call preparing 2000000, .lock 0 (Vector.replicate 32 5),
    .exchange ⟨2000000, true, true, .applied "42", true⟩]

theorem inStep_along_prepare :
    Quiet (Runs.run (step BrokerState.plainHashes)
        (linked BrokerState.brokerFence BrokerState.alphaLease) servedSteps)
      ∧ InStep BrokerState.plainHashes (Runs.run (step BrokerState.plainHashes)
        (linked BrokerState.brokerFence BrokerState.alphaLease) servedSteps) := by
  have hquiet : Quiet (Runs.run (step BrokerState.plainHashes)
      (linked BrokerState.brokerFence BrokerState.alphaLease) servedSteps) :=
    ⟨by decide +kernel, by decide +kernel⟩
  refine ⟨hquiet, inStep_along _ _ _ servedSteps ⟨?_, ?_, ?_, trivial⟩ hquiet⟩
  · change _ < _
    decide +kernel
  · exact .inl rfl
  · intro request process hholder hprocess
    have hrequest : some BrokerState.prepareRequest = some request :=
      Eq.trans (by decide +kernel) hholder
    have hidle : some (⟨BrokerState.brokerFence, 0, .idle⟩ : BrokerProcess) = some process :=
      Eq.trans (by decide +kernel) hprocess
    cases hrequest
    cases hidle
    refine ⟨by decide +kernel, rfl, by decide +kernel, by decide +kernel, by decide +kernel,
      by decide +kernel, fun _ => ⟨rfl, by decide +kernel, ?_⟩, rfl⟩
    change "42" ≠ ""
    decide

/-- The sequence of the call is gone, and the broker still waits for it. -/
theorem disconnected_out_of_step :
    ¬∀ steps : List BrokerLinkStep, Quiet (Runs.run (step BrokerState.plainHashes)
        (linked BrokerState.brokerFence BrokerState.alphaLease) steps) →
      InStep BrokerState.plainHashes (Runs.run (step BrokerState.plainHashes)
        (linked BrokerState.brokerFence BrokerState.alphaLease) steps) := by
  intro hclaim
  have hquiet : Quiet (Runs.run (step BrokerState.plainHashes)
      (linked BrokerState.brokerFence BrokerState.alphaLease)
      [.call preparing 2000000, .lock 0 (Vector.replicate 32 5), .disconnect]) :=
    ⟨by decide +kernel, by decide +kernel⟩
  obtain ⟨process, hprocess, -, hsequence⟩ := (hclaim _ hquiet).sequence
  have hidle : some (⟨BrokerState.brokerFence, 0, .idle⟩ : BrokerProcess) = some process :=
    Eq.trans (by decide +kernel) hprocess
  cases hidle
  exact absurd hsequence (by decide +kernel)

end BrokerLink

end Spurfire
