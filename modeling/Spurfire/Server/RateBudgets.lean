import Spurfire.Lib.Sha256
import Spurfire.Lib.SlidingWindow
import Spurfire.Protocol.IpText
import Spurfire.Server.Api
import Spurfire.Server.Changes

/-!
# Rate budgets

The request budgets of the service (`service.rs`): `enforceMutationBudget` over all requests that
change something, `enforceRouteBudget` over creates and joins, and the join attempts of one lobby,
which `enforceJoinRateLimit` charges and `purgeRecord` ages.

* `BudgetCall` is one use of a budget or of the purge, and `BudgetState.step` its effect;
* `mutationBudget`, `createBudget`, `joinBudget` and `attemptBudget` say what each may admit;
* `Tracks` is the invariant of the four logs;
* **`rate_budgets_slide`**: with a clock that does not go back, every interval is within the limits,
  and a request is refused only where a limit is used up.
-/

namespace Spurfire

def ABUSE_WINDOW_MS : UInt64 := 60000
def MAX_MUTATIONS_GLOBAL_PER_MINUTE : ℕ := 600
def MAX_MUTATIONS_PER_IP_PER_MINUTE : ℕ := 120
def MAX_MUTATIONS_PER_ACTOR_PER_MINUTE : ℕ := 60

/-! ## The code -/

/-- The values of the headers that the budgets read. -/
structure PeerHeaders where
  authorization : Option (List UInt8)
  actor : Option (List UInt8)
  verifiedPeerIp : Option (List UInt8)

structure AbuseEvent where
  time : UnixMillis
  ip : List UInt8
  actorDigest : Digest

structure AbuseState where
  events : List AbuseEvent
  createEvents : List AbuseEvent
  joinEvents : List AbuseEvent

namespace PeerHeaders

/-- A byte that `HeaderValue::to_str` takes. -/
def isVisibleAscii (byte : UInt8) : Bool := (32 ≤ byte && byte < 127) || byte == 9

def verifiedClientIp (headers : PeerHeaders) : List UInt8 :=
  (headers.verifiedPeerIp.filter fun value => value.all isVisibleAscii && !value.isEmpty).getD
    (textBytes "unattributed")

def actorDigest (headers : PeerHeaders) : Digest :=
  Sha256.digest ((headers.authorization.or headers.actor).getD (textBytes "anonymous"))

/-- The event that a request charges. -/
def event (headers : PeerHeaders) (now : UnixMillis) : AbuseEvent :=
  ⟨now, headers.verifiedClientIp, headers.actorDigest⟩

end PeerHeaders

namespace AbuseState

def initial : AbuseState := ⟨[], [], []⟩

def rateLimited : ApiError :=
  .new 429 "request_rate_limited" "request budget exceeded; retry later" false

/-- The events that are not yet a full window old. -/
def liveEvents (window : UInt64) (now : UnixMillis) (events : List AbuseEvent) : List AbuseEvent :=
  events.dropWhile fun event => StoredLobby.ageAtLeast now event.time window

def enforceMutationBudget (abuse : AbuseState) (headers : PeerHeaders) (now : UnixMillis) :
    Except ApiError Unit × AbuseState :=
  let ip := headers.verifiedClientIp
  let actorDigest := headers.actorDigest
  let events := liveEvents ABUSE_WINDOW_MS now abuse.events
  let ipCount := (events.filter fun event => event.ip == ip).length
  let actorCount := (events.filter fun event => event.actorDigest == actorDigest).length
  if MAX_MUTATIONS_GLOBAL_PER_MINUTE ≤ events.length
      ∨ MAX_MUTATIONS_PER_IP_PER_MINUTE ≤ ipCount
      ∨ MAX_MUTATIONS_PER_ACTOR_PER_MINUTE ≤ actorCount then
    (.error rateLimited, { abuse with events })
  else (.ok (), { abuse with events := events ++ [⟨now, ip, actorDigest⟩] })

/-- The deque that a route is charged in, after the charge. -/
def chargeRoute (window : UInt64) (ipLimit actorLimit : ℕ) (events : List AbuseEvent)
    (headers : PeerHeaders) (now : UnixMillis) : Except ApiError Unit × List AbuseEvent :=
  let ip := headers.verifiedClientIp
  let actorDigest := headers.actorDigest
  let events := liveEvents window now events
  if ipLimit ≤ (events.filter fun event => event.ip == ip).length
      ∨ actorLimit ≤ (events.filter fun event => event.actorDigest == actorDigest).length then
    (.error rateLimited, events)
  else (.ok (), events ++ [⟨now, ip, actorDigest⟩])

def enforceRouteBudget (abuse : AbuseState) (headers : PeerHeaders) (create : Bool)
    (now : UnixMillis) : Except ApiError Unit × AbuseState :=
  if create then
    let charged := chargeRoute (10 * 60000) 5 5 abuse.createEvents headers now
    (charged.1, { abuse with createEvents := charged.2 })
  else
    let charged := chargeRoute 60000 10 10 abuse.joinEvents headers now
    (charged.1, { abuse with joinEvents := charged.2 })

end AbuseState

/-! ## Calls -/

/-- One use of a budget.  A create makes `mutation` and then, where that passes, `route`; a join
goes on to `attempt`. -/
inductive BudgetCall
  | mutation (headers : PeerHeaders) (now : UnixMillis)
  | route (headers : PeerHeaders) (create : Bool) (now : UnixMillis)
  | attempt (player : PlayerId) (now : UnixMillis)
  | purge (now : UnixMillis)

namespace BudgetCall

def now : BudgetCall → UnixMillis
  | mutation _ now => now
  | route _ _ now => now
  | attempt _ now => now
  | purge now => now

def mutationEvent : BudgetCall → Option AbuseEvent
  | mutation headers now => some (headers.event now)
  | _ => none

def routeEvent (create : Bool) : BudgetCall → Option AbuseEvent
  | route headers create' now => if create' = create then some (headers.event now) else none
  | _ => none

def joinAttempt : BudgetCall → Option StoredJoinAttempt
  | attempt player now => some ⟨player, now⟩
  | _ => none

end BudgetCall

/-- What the budgets keep: the events of the process and the record of one lobby. -/
structure BudgetState where
  abuse : AbuseState
  stored : StoredLobby

namespace BudgetState

/-- A call is admitted or refused. -/
def step (s : BudgetState) : BudgetCall → Bool × BudgetState
  | .mutation headers now =>
    let enforced := s.abuse.enforceMutationBudget headers now
    (enforced.1.isOk, { s with abuse := enforced.2 })
  | .route headers create now =>
    let enforced := s.abuse.enforceRouteBudget headers create now
    (enforced.1.isOk, { s with abuse := enforced.2 })
  | .attempt player now =>
    match s.stored.enforceJoinRateLimit player now with
    | none => (false, s)
    | some stored => (true, { s with stored })
  | .purge now => (true, { s with stored := s.stored.purgeRecord now })

def noteAdmitted (s : BudgetState) (call : BudgetCall) : List BudgetCall :=
  if (s.step call).1 then [call] else []

def charged {α : Type} (entry : BudgetCall → Option α) (s : BudgetState)
    (calls : List BudgetCall) : List α :=
  (Runs.history step noteAdmitted s calls).filterMap entry

end BudgetState

/-! ## Budgets -/

/-- Whom an event is charged to. -/
inductive AbuseAccount
  | everyone
  | ip (ip : List UInt8)
  | actor (actorDigest : Digest)
deriving DecidableEq

def mutationBudget : Budget AbuseEvent AbuseAccount where
  stamp event := event.time.toNat
  width := ABUSE_WINDOW_MS.toNat
  accounts event := [.everyone, .ip event.ip, .actor event.actorDigest]
  limit
    | .everyone => MAX_MUTATIONS_GLOBAL_PER_MINUTE
    | .ip _ => MAX_MUTATIONS_PER_IP_PER_MINUTE
    | .actor _ => MAX_MUTATIONS_PER_ACTOR_PER_MINUTE

/-- As many routes for each address and each actor. -/
def routeBudget (window : UInt64) (limit : ℕ) : Budget AbuseEvent AbuseAccount where
  stamp event := event.time.toNat
  width := window.toNat
  accounts event := [.ip event.ip, .actor event.actorDigest]
  limit _ := limit

def createBudget : Budget AbuseEvent AbuseAccount := routeBudget (10 * 60000) 5

def joinBudget : Budget AbuseEvent AbuseAccount := routeBudget 60000 10

/-- Whom a join attempt is charged to. -/
inductive AttemptAccount
  | lobby
  | player (player : PlayerId)
deriving DecidableEq

def attemptBudget : Budget StoredJoinAttempt AttemptAccount where
  stamp attempt := attempt.attemptedAt.toNat
  width := JOIN_RATE_WINDOW_MS.toNat
  accounts attempt := [.lobby, .player attempt.playerId]
  limit
    | .lobby => MAX_JOIN_ATTEMPTS_PER_LOBBY
    | .player _ => MAX_JOIN_ATTEMPTS_PER_PLAYER

/-! ### What the counts are -/

namespace AbuseState

variable {window : UInt64} {now : UnixMillis} {events : List AbuseEvent} {headers : PeerHeaders}

theorem liveEvents_eq {κ : Type} {b : Budget AbuseEvent κ} (hwidth : b.width = window.toNat)
    (hstamp : ∀ event, b.stamp event = event.time.toNat) (now : UnixMillis)
    (events : List AbuseEvent) : liveEvents window now events = b.expire now.toNat events := by
  unfold liveEvents Budget.expire
  congr 1
  funext event
  rw [Bool.eq_iff_iff, StoredLobby.ageAtLeast_iff, decide_eq_true_iff, hwidth, hstamp]

theorem hasRoom_mutationBudget (events : List AbuseEvent) (event : AbuseEvent) :
    mutationBudget.HasRoom events event ↔ events.length < MAX_MUTATIONS_GLOBAL_PER_MINUTE
      ∧ (events.filter fun e => e.ip == event.ip).length < MAX_MUTATIONS_PER_IP_PER_MINUTE
      ∧ (events.filter fun e => e.actorDigest == event.actorDigest).length
        < MAX_MUTATIONS_PER_ACTOR_PER_MINUTE := by
  have hall : (events.filter fun e => decide (.everyone ∈ mutationBudget.accounts e)) = events :=
    List.filter_eq_self.mpr fun e _ => decide_eq_true List.mem_cons_self
  have hip : ∀ e, .ip event.ip ∈ mutationBudget.accounts e ↔ (e.ip == event.ip) = true := by
    intro e
    rw [beq_iff_eq, eq_comm]
    simp [mutationBudget]
  have hactor : ∀ e, .actor event.actorDigest ∈ mutationBudget.accounts e
      ↔ (e.actorDigest == event.actorDigest) = true := by
    intro e
    rw [beq_iff_eq, eq_comm]
    simp [mutationBudget]
  unfold Budget.HasRoom
  rw [show mutationBudget.accounts event = [.everyone, .ip event.ip, .actor event.actorDigest]
    from rfl, List.forall_mem_cons, List.forall_mem_cons, List.forall_mem_singleton, hall,
    Budget.filter_accounts hip, Budget.filter_accounts hactor]
  rfl

theorem hasRoom_routeBudget (window : UInt64) (limit : ℕ) (events : List AbuseEvent)
    (event : AbuseEvent) : (routeBudget window limit).HasRoom events event
      ↔ (events.filter fun e => e.ip == event.ip).length < limit
        ∧ (events.filter fun e => e.actorDigest == event.actorDigest).length < limit := by
  have hip : ∀ e, .ip event.ip ∈ (routeBudget window limit).accounts e
      ↔ (e.ip == event.ip) = true := by
    intro e
    rw [beq_iff_eq, eq_comm]
    simp [routeBudget]
  have hactor : ∀ e, .actor event.actorDigest ∈ (routeBudget window limit).accounts e
      ↔ (e.actorDigest == event.actorDigest) = true := by
    intro e
    rw [beq_iff_eq, eq_comm]
    simp [routeBudget]
  unfold Budget.HasRoom
  rw [show (routeBudget window limit).accounts event = [.ip event.ip, .actor event.actorDigest]
    from rfl, List.forall_mem_cons, List.forall_mem_singleton, Budget.filter_accounts hip,
    Budget.filter_accounts hactor]
  rfl

/-- The mutation budget admits exactly what there is room for. -/
theorem enforceMutationBudget_eq (abuse : AbuseState) (headers : PeerHeaders) (now : UnixMillis) :
    (mutationBudget.HasRoom (mutationBudget.expire now.toNat abuse.events) (headers.event now)
      ∧ abuse.enforceMutationBudget headers now = (.ok (), { abuse with
        events := mutationBudget.expire now.toNat abuse.events ++ [headers.event now] }))
    ∨ (¬mutationBudget.HasRoom (mutationBudget.expire now.toNat abuse.events) (headers.event now)
      ∧ abuse.enforceMutationBudget headers now = (.error rateLimited, { abuse with
        events := mutationBudget.expire now.toNat abuse.events })) := by
  unfold enforceMutationBudget
  rw [hasRoom_mutationBudget, liveEvents_eq (b := mutationBudget) rfl (fun _ => rfl)]
  dsimp only
  generalize mutationBudget.expire now.toNat abuse.events = live
  by_cases hfull : MAX_MUTATIONS_GLOBAL_PER_MINUTE ≤ live.length
      ∨ MAX_MUTATIONS_PER_IP_PER_MINUTE
        ≤ (live.filter fun event => event.ip == headers.verifiedClientIp).length
      ∨ MAX_MUTATIONS_PER_ACTOR_PER_MINUTE
        ≤ (live.filter fun event => event.actorDigest == headers.actorDigest).length
  · rw [if_pos hfull]
    refine .inr ⟨?_, rfl⟩
    rintro ⟨hall, hip, hactor⟩
    rcases hfull with hfull | hfull | hfull
    · exact absurd hall (not_lt.mpr hfull)
    · exact absurd hip (not_lt.mpr hfull)
    · exact absurd hactor (not_lt.mpr hfull)
  · rw [if_neg hfull]
    obtain ⟨hall, hother⟩ := not_or.mp hfull
    obtain ⟨hip, hactor⟩ := not_or.mp hother
    exact .inl ⟨⟨not_le.mp hall, not_le.mp hip, not_le.mp hactor⟩, rfl⟩

theorem chargeRoute_eq (window : UInt64) (limit : ℕ) (events : List AbuseEvent)
    (headers : PeerHeaders) (now : UnixMillis) :
    ((routeBudget window limit).HasRoom ((routeBudget window limit).expire now.toNat events)
        (headers.event now)
      ∧ chargeRoute window limit limit events headers now
        = (.ok (), (routeBudget window limit).expire now.toNat events ++ [headers.event now]))
    ∨ (¬(routeBudget window limit).HasRoom ((routeBudget window limit).expire now.toNat events)
        (headers.event now)
      ∧ chargeRoute window limit limit events headers now
        = (.error rateLimited, (routeBudget window limit).expire now.toNat events)) := by
  unfold chargeRoute
  rw [hasRoom_routeBudget, liveEvents_eq (b := routeBudget window limit) rfl (fun _ => rfl)]
  dsimp only
  generalize (routeBudget window limit).expire now.toNat events = live
  by_cases hfull : limit
        ≤ (live.filter fun event => event.ip == headers.verifiedClientIp).length
      ∨ limit ≤ (live.filter fun event => event.actorDigest == headers.actorDigest).length
  · rw [if_pos hfull]
    refine .inr ⟨?_, rfl⟩
    rintro ⟨hip, hactor⟩
    rcases hfull with hfull | hfull
    · exact absurd hip (not_lt.mpr hfull)
    · exact absurd hactor (not_lt.mpr hfull)
  · rw [if_neg hfull]
    obtain ⟨hip, hactor⟩ := not_or.mp hfull
    exact .inl ⟨⟨not_le.mp hip, not_le.mp hactor⟩, rfl⟩

end AbuseState

namespace StoredLobby

theorem hasRoom_attemptBudget (attempts : List StoredJoinAttempt) (attempt : StoredJoinAttempt) :
    attemptBudget.HasRoom attempts attempt ↔ attempts.length < MAX_JOIN_ATTEMPTS_PER_LOBBY
      ∧ (attempts.filter (·.playerId == attempt.playerId)).length
        < MAX_JOIN_ATTEMPTS_PER_PLAYER := by
  have hall : (attempts.filter fun a => decide (.lobby ∈ attemptBudget.accounts a)) = attempts :=
    List.filter_eq_self.mpr fun a _ => decide_eq_true List.mem_cons_self
  have hplayer : ∀ a, .player attempt.playerId ∈ attemptBudget.accounts a
      ↔ (a.playerId == attempt.playerId) = true := by
    intro a
    rw [beq_iff_eq, eq_comm]
    simp [attemptBudget]
  unfold Budget.HasRoom
  rw [show attemptBudget.accounts attempt = [.lobby, .player attempt.playerId] from rfl,
    List.forall_mem_cons, List.forall_mem_singleton, hall, Budget.filter_accounts hplayer]
  rfl

theorem liveAttempts_eq (now : UnixMillis) (attempts : List StoredJoinAttempt) :
    attempts.dropWhile (fun attempt => ageAtLeast now attempt.attemptedAt JOIN_RATE_WINDOW_MS)
      = attemptBudget.expire now.toNat attempts := by
  unfold Budget.expire
  congr 1
  funext attempt
  rw [Bool.eq_iff_iff, ageAtLeast_iff, decide_eq_true_iff]
  rfl

/-- The join limit admits exactly what there is room for. -/
theorem enforceJoinRateLimit_eq (stored : StoredLobby) (player : PlayerId) (now : UnixMillis) :
    (attemptBudget.HasRoom (attemptBudget.expire now.toNat stored.joinAttempts) ⟨player, now⟩
      ∧ stored.enforceJoinRateLimit player now = some { stored with
        joinAttempts := attemptBudget.expire now.toNat stored.joinAttempts ++ [⟨player, now⟩] })
    ∨ (¬attemptBudget.HasRoom (attemptBudget.expire now.toNat stored.joinAttempts) ⟨player, now⟩
      ∧ stored.enforceJoinRateLimit player now = none) := by
  unfold enforceJoinRateLimit
  rw [hasRoom_attemptBudget, liveAttempts_eq]
  dsimp only
  generalize attemptBudget.expire now.toNat stored.joinAttempts = live
  by_cases hfull : MAX_JOIN_ATTEMPTS_PER_LOBBY ≤ live.length
      ∨ MAX_JOIN_ATTEMPTS_PER_PLAYER ≤ (live.filter (·.playerId == player)).length
  · rw [if_pos hfull]
    refine .inr ⟨?_, rfl⟩
    rintro ⟨hall, hplayer⟩
    rcases hfull with hfull | hfull
    · exact absurd hall (not_lt.mpr hfull)
    · exact absurd hplayer (not_lt.mpr hfull)
  · rw [if_neg hfull]
    obtain ⟨hall, hplayer⟩ := not_or.mp hfull
    exact .inl ⟨⟨not_le.mp hall, not_le.mp hplayer⟩, rfl⟩

end StoredLobby

/-! ## Runs -/

namespace BudgetState

open BudgetCall

/-- Each log has what its budget has admitted in the window. -/
structure Tracks (now : ℕ) (s : BudgetState) (admitted : List BudgetCall) : Prop where
  mutations : mutationBudget.Slides now s.abuse.events (admitted.filterMap mutationEvent)
  creates : createBudget.Slides now s.abuse.createEvents (admitted.filterMap (routeEvent true))
  joins : joinBudget.Slides now s.abuse.joinEvents (admitted.filterMap (routeEvent false))
  attempts : attemptBudget.Slides now s.stored.joinAttempts (admitted.filterMap joinAttempt)

theorem Tracks.later {now then' : ℕ} {s : BudgetState} {admitted : List BudgetCall}
    (hle : now ≤ then') (h : s.Tracks now admitted) : s.Tracks then' admitted :=
  ⟨h.mutations.later hle, h.creates.later hle, h.joins.later hle, h.attempts.later hle⟩

/-- Some account of the call is used up by what has been admitted. -/
def UsedUp (admitted : List BudgetCall) : BudgetCall → Prop
  | .mutation headers now =>
    mutationBudget.Full (admitted.filterMap mutationEvent) (headers.event now)
  | .route headers true now =>
    createBudget.Full (admitted.filterMap (routeEvent true)) (headers.event now)
  | .route headers false now =>
    joinBudget.Full (admitted.filterMap (routeEvent false)) (headers.event now)
  | .attempt player now => attemptBudget.Full (admitted.filterMap joinAttempt) ⟨player, now⟩
  | .purge _ => False

theorem step_mutation (s : BudgetState) (headers : PeerHeaders) (now : UnixMillis) :
    (mutationBudget.HasRoom (mutationBudget.expire now.toNat s.abuse.events) (headers.event now)
      ∧ s.step (.mutation headers now) = (true, { s with abuse := { s.abuse with
        events := mutationBudget.expire now.toNat s.abuse.events ++ [headers.event now] } }))
    ∨ (¬mutationBudget.HasRoom (mutationBudget.expire now.toNat s.abuse.events)
        (headers.event now)
      ∧ s.step (.mutation headers now) = (false, { s with abuse := { s.abuse with
        events := mutationBudget.expire now.toNat s.abuse.events } })) := by
  unfold step
  dsimp only
  rcases s.abuse.enforceMutationBudget_eq headers now with ⟨hroom, heq⟩ | ⟨hroom, heq⟩
  · rw [heq]
    exact .inl ⟨hroom, rfl⟩
  · rw [heq]
    exact .inr ⟨hroom, rfl⟩

theorem step_create (s : BudgetState) (headers : PeerHeaders) (now : UnixMillis) :
    (createBudget.HasRoom (createBudget.expire now.toNat s.abuse.createEvents) (headers.event now)
      ∧ s.step (.route headers true now) = (true, { s with abuse := { s.abuse with
        createEvents := createBudget.expire now.toNat s.abuse.createEvents
          ++ [headers.event now] } }))
    ∨ (¬createBudget.HasRoom (createBudget.expire now.toNat s.abuse.createEvents)
        (headers.event now)
      ∧ s.step (.route headers true now) = (false, { s with abuse := { s.abuse with
        createEvents := createBudget.expire now.toNat s.abuse.createEvents } })) := by
  unfold step AbuseState.enforceRouteBudget
  dsimp only
  rw [if_pos rfl]
  rcases AbuseState.chargeRoute_eq (10 * 60000) 5 s.abuse.createEvents headers now with
    ⟨hroom, heq⟩ | ⟨hroom, heq⟩
  · rw [heq]
    exact .inl ⟨hroom, rfl⟩
  · rw [heq]
    exact .inr ⟨hroom, rfl⟩

theorem step_join (s : BudgetState) (headers : PeerHeaders) (now : UnixMillis) :
    (joinBudget.HasRoom (joinBudget.expire now.toNat s.abuse.joinEvents) (headers.event now)
      ∧ s.step (.route headers false now) = (true, { s with abuse := { s.abuse with
        joinEvents := joinBudget.expire now.toNat s.abuse.joinEvents ++ [headers.event now] } }))
    ∨ (¬joinBudget.HasRoom (joinBudget.expire now.toNat s.abuse.joinEvents) (headers.event now)
      ∧ s.step (.route headers false now) = (false, { s with abuse := { s.abuse with
        joinEvents := joinBudget.expire now.toNat s.abuse.joinEvents } })) := by
  unfold step AbuseState.enforceRouteBudget
  dsimp only
  rw [if_neg Bool.false_ne_true]
  rcases AbuseState.chargeRoute_eq 60000 10 s.abuse.joinEvents headers now with
    ⟨hroom, heq⟩ | ⟨hroom, heq⟩
  · rw [heq]
    exact .inl ⟨hroom, rfl⟩
  · rw [heq]
    exact .inr ⟨hroom, rfl⟩

theorem step_attempt (s : BudgetState) (player : PlayerId) (now : UnixMillis) :
    (attemptBudget.HasRoom (attemptBudget.expire now.toNat s.stored.joinAttempts) ⟨player, now⟩
      ∧ s.step (.attempt player now) = (true, { s with stored := { s.stored with
        joinAttempts := attemptBudget.expire now.toNat s.stored.joinAttempts
          ++ [⟨player, now⟩] } }))
    ∨ (¬attemptBudget.HasRoom (attemptBudget.expire now.toNat s.stored.joinAttempts) ⟨player, now⟩
      ∧ s.step (.attempt player now) = (false, s)) := by
  unfold step
  dsimp only
  rcases s.stored.enforceJoinRateLimit_eq player now with ⟨hroom, heq⟩ | ⟨hroom, heq⟩
  · rw [heq]
    exact .inl ⟨hroom, rfl⟩
  · rw [heq]
    exact .inr ⟨hroom, rfl⟩

/-- **What a call does**: it is admitted and charged, or an account of it is used up. -/
theorem tracks_step {s : BudgetState} {admitted : List BudgetCall} (call : BudgetCall)
    (h : s.Tracks call.now.toNat admitted) :
    ((s.step call).1 = true ∧ (s.step call).2.Tracks call.now.toNat (admitted ++ [call]))
      ∨ ((s.step call).1 = false ∧ UsedUp admitted call
        ∧ (s.step call).2.Tracks call.now.toNat admitted) := by
  have hown : ∀ {α : Type} (entry : BudgetCall → Option α) {a : α}, entry call = some a →
      (admitted ++ [call]).filterMap entry = admitted.filterMap entry ++ [a] := by
    intro α entry a hentry
    rw [List.filterMap_append, List.filterMap_cons_some hentry, List.filterMap_nil]
  have hother : ∀ {α : Type} (entry : BudgetCall → Option α), entry call = none →
      (admitted ++ [call]).filterMap entry = admitted.filterMap entry := by
    intro α entry hentry
    rw [List.filterMap_append, List.filterMap_cons_none hentry, List.filterMap_nil,
      List.append_nil]
  cases call with
  | mutation headers now =>
    rcases s.step_mutation headers now with ⟨hroom, heq⟩ | ⟨hroom, heq⟩
    · rw [heq]
      refine .inl ⟨rfl, ?_, ?_, ?_, ?_⟩
      · rw [hown mutationEvent rfl]
        exact h.mutations.charged (by decide) hroom
      · exact hother (routeEvent true) rfl ▸ h.creates
      · exact hother (routeEvent false) rfl ▸ h.joins
      · exact hother joinAttempt rfl ▸ h.attempts
    · rw [heq]
      exact .inr ⟨rfl, h.mutations.full hroom, h.mutations.expired, h.creates, h.joins,
        h.attempts⟩
  | route headers create now =>
    cases create with
    | true =>
      rcases s.step_create headers now with ⟨hroom, heq⟩ | ⟨hroom, heq⟩
      · rw [heq]
        refine .inl ⟨rfl, ?_, ?_, ?_, ?_⟩
        · exact hother mutationEvent rfl ▸ h.mutations
        · rw [hown (routeEvent true) rfl]
          exact h.creates.charged (by decide) hroom
        · exact hother (routeEvent false) rfl ▸ h.joins
        · exact hother joinAttempt rfl ▸ h.attempts
      · rw [heq]
        exact .inr ⟨rfl, h.creates.full hroom, h.mutations, h.creates.expired, h.joins,
          h.attempts⟩
    | false =>
      rcases s.step_join headers now with ⟨hroom, heq⟩ | ⟨hroom, heq⟩
      · rw [heq]
        refine .inl ⟨rfl, ?_, ?_, ?_, ?_⟩
        · exact hother mutationEvent rfl ▸ h.mutations
        · exact hother (routeEvent true) rfl ▸ h.creates
        · rw [hown (routeEvent false) rfl]
          exact h.joins.charged (by decide) hroom
        · exact hother joinAttempt rfl ▸ h.attempts
      · rw [heq]
        exact .inr ⟨rfl, h.joins.full hroom, h.mutations, h.creates, h.joins.expired,
          h.attempts⟩
  | attempt player now =>
    rcases s.step_attempt player now with ⟨hroom, heq⟩ | ⟨hroom, heq⟩
    · rw [heq]
      refine .inl ⟨rfl, ?_, ?_, ?_, ?_⟩
      · exact hother mutationEvent rfl ▸ h.mutations
      · exact hother (routeEvent true) rfl ▸ h.creates
      · exact hother (routeEvent false) rfl ▸ h.joins
      · rw [hown joinAttempt rfl]
        exact h.attempts.charged (by decide) hroom
    · rw [heq]
      exact .inr ⟨rfl, h.attempts.full hroom, h⟩
  | purge now =>
    refine .inl ⟨rfl, ?_, ?_, ?_, ?_⟩
    · exact hother mutationEvent rfl ▸ h.mutations
    · exact hother (routeEvent true) rfl ▸ h.creates
    · exact hother (routeEvent false) rfl ▸ h.joins
    · -- the purge drops what the next attempt would drop
      have hexpired := StoredLobby.liveAttempts_eq now s.stored.joinAttempts ▸ h.attempts.expired
      exact hother joinAttempt rfl ▸ hexpired

theorem tracks_run {s : BudgetState} (hevents : s.abuse = AbuseState.initial)
    (hattempts : s.stored.joinAttempts = []) (calls : List BudgetCall)
    (hclock : (calls.map (·.now)).Pairwise (· ≤ ·)) {now : ℕ}
    (hnow : ∀ call ∈ calls, call.now.toNat ≤ now) :
    (Runs.run step s calls).Tracks now (Runs.history step noteAdmitted s calls) := by
  have hticks : (calls.map fun call => call.now.toNat).Pairwise (· ≤ ·) := by
    rw [List.pairwise_map] at hclock ⊢
    exact hclock.imp UInt64.le_iff_toNat_le.mp
  refine Runs.run_history_timed (P := Tracks) Tracks.later (fun s admitted call h => ?_)
    (fun c => ?_) calls hticks hnow
  · unfold noteAdmitted
    rcases tracks_step call h with ⟨hadmitted, hnext⟩ | ⟨hrefused, -, hnext⟩
    · rw [if_pos hadmitted]
      exact hnext
    · rw [if_neg (Bool.eq_false_iff.mp hrefused), List.append_nil]
      exact hnext
  · obtain ⟨abuse, stored⟩ := s
    cases hevents
    refine ⟨Budget.slides_nil _, Budget.slides_nil _, Budget.slides_nil _, ?_⟩
    rw [hattempts]
    exact Budget.slides_nil _

/-- **The budgets are sliding windows.**  From the start of the service and of a lobby, with a clock
that does not go back, no account is charged beyond its limit in any interval as long as its window,
and a call is refused only where an account of it has been charged its limit in the window that ends
with the call. -/
theorem rate_budgets_slide (stored : StoredLobby) (hstored : stored.joinAttempts = [])
    (calls : List BudgetCall) (hclock : (calls.map (·.now)).Pairwise (· ≤ ·)) :
    (mutationBudget.Bounded (charged mutationEvent ⟨.initial, stored⟩ calls)
      ∧ createBudget.Bounded (charged (routeEvent true) ⟨.initial, stored⟩ calls)
      ∧ joinBudget.Bounded (charged (routeEvent false) ⟨.initial, stored⟩ calls)
      ∧ attemptBudget.Bounded (charged joinAttempt ⟨.initial, stored⟩ calls))
    ∧ ∀ before call after, calls = before ++ call :: after →
        ((Runs.run step ⟨.initial, stored⟩ before).step call).1 = false →
        UsedUp (Runs.history step noteAdmitted ⟨.initial, stored⟩ before) call := by
  constructor
  · have hall : ∀ call ∈ calls, call.now.toNat ≤ 2 ^ 64 := fun call _ => call.now.toNat_lt.le
    have hend := tracks_run (s := ⟨.initial, stored⟩) rfl hstored calls hclock hall
    exact ⟨hend.mutations.bounded, hend.creates.bounded, hend.joins.bounded, hend.attempts.bounded⟩
  · rintro before call after rfl hrefused
    rw [List.map_append, List.pairwise_append] at hclock
    obtain ⟨hbefore, -, hlast⟩ := hclock
    have hlater : ∀ earlier ∈ before, earlier.now.toNat ≤ call.now.toNat :=
      fun earlier hearlier => UInt64.le_iff_toNat_le.mp
        (hlast _ (List.mem_map_of_mem hearlier) _ List.mem_cons_self)
    have htracks := tracks_run (s := ⟨.initial, stored⟩) rfl hstored before hbefore hlater
    rcases tracks_step call htracks with ⟨hadmitted, -⟩ | ⟨-, hused, -⟩
    · exact absurd hadmitted (Bool.eq_false_iff.mp hrefused)
    · exact hused

/-- Five join attempts of one player within a minute, and one after it. -/
def attemptCalls : List BudgetCall :=
  [.mutation ⟨none, none, none⟩ 0, .route ⟨none, none, none⟩ true 0,
    .attempt (.ofTail 1) 1, .attempt (.ofTail 1) 2,
    .attempt (.ofTail 1) 3, .attempt (.ofTail 1) 4,
    .attempt (.ofTail 1) 60000, .purge 60001,
    .attempt (.ofTail 1) 60001]

def attemptLobby : StoredLobby :=
  .new ⟨.ofTail 2 (by decide), .forming, none, [], 8, none, none, ⟨600000, 900000⟩,
    .tailnetPerLobby, 0⟩ (.ofTail 1) "" "" true 600000

/-- The attempts of one player. -/
theorem rate_budgets_slide_attemptCalls :
    (mutationBudget.Bounded (charged mutationEvent ⟨.initial, attemptLobby⟩ attemptCalls)
      ∧ createBudget.Bounded (charged (routeEvent true) ⟨.initial, attemptLobby⟩ attemptCalls)
      ∧ joinBudget.Bounded (charged (routeEvent false) ⟨.initial, attemptLobby⟩ attemptCalls)
      ∧ attemptBudget.Bounded (charged joinAttempt ⟨.initial, attemptLobby⟩ attemptCalls))
    ∧ ∀ before call after, attemptCalls = before ++ call :: after →
        ((Runs.run step ⟨.initial, attemptLobby⟩ before).step call).1 = false →
        UsedUp (Runs.history step noteAdmitted ⟨.initial, attemptLobby⟩ before) call :=
  rate_budgets_slide attemptLobby rfl attemptCalls (by decide)

end BudgetState

end Spurfire
