import Spurfire.Lib.Interrupt
import Spurfire.Lib.Runs
import Spurfire.Server.Api

/-!
# The world of one lobby

A handler runs under the lock of its lobby, so the service is followed from one lobby `id`:

* `World` is the store in memory, the process-local absence anchor of the lobby, the monotonic clock,
  a trace of what was stored and of what the provider was asked, and the file where a failed persist
  has left another image there;
* `Answer` is what the outside says to one effect, with the time that passed and what requests of
  other lobbies did to the store meanwhile;
* `Service` programs wait for an answer at each store or provider call and can be cut there; memory
  of the process is read and written without waiting.

Budgets and the capability check come before the lock: `authorizeScope` takes their verdict from
the outside.
-/

namespace Spurfire

open Interrupt

def CLEANUP_ABSENCE_MIN_SEPARATION_MS : ℕ := 5000

/-! ## Answers, events, worlds -/

/-- The outside's answer to one effect; an effect reads the part it asked for. -/
structure Answer where
  elapsed : ℕ := 0
  elsewhere : List StoreStep := []
  now : UnixMillis := 0
  persists : Bool := true
  /-- A persist that fails has renamed its image into place before. -/
  renames : Bool := false
  authorized : Except ApiError (Option PlayerId) := .ok none
  admitted : Bool := true
  permitted : Bool := true
  secure : Except ApiError Bool := .ok true
  token : Digest := Vector.replicate 32 0
  seed : UInt64 := 0
  policyDigest : Option String := none
  capabilities : ProviderCapabilities := .available
  denied : Option ProviderError := none
  custody : Option ProviderError := none
  prepared : Except ProviderError PreparedNetwork := .error (.unavailable "prepare_lobby")
  minted : Except ProviderError MintedCredential := .error (.unavailable "auth_keys")
  cleaned : Except ProviderError CleanupOutcome := .error (.unavailable "cleanup")
  present : Option (Except ProviderError Bool) := none
  erased : Option (Except ProviderError Unit) := none

inductive Event
  /-- The clock was read, by this lobby or by another. -/
  | clock (at_ : UnixMillis)
  | created (lobby : StoredLobby)
  /-- A record was replaced; `quarantines` if that set the quarantine. -/
  | wrote (before after : StoredLobby) (quarantines : Bool)
  | prepared (request : PrepareLobbyRequest) (answer : Except ProviderError PreparedNetwork)
  | minted (request : MintCredentialRequest) (answer : Except ProviderError MintedCredential)
  | cleaned (request : CleanupLobbyRequest) (answer : Except ProviderError CleanupOutcome)
  /-- The presence of the tailnet was asked, and answered at this monotonic time. -/
  | observed (request : TailnetPresenceRequest) (answer : Option (Except ProviderError Bool))
      (at_ : ℕ)
  | erased (request : TailnetPresenceRequest) (answer : Option (Except ProviderError Unit))
  | restarted

structure World where
  data : StoreData
  anchor : Option (UInt64 × ℕ)
  monotonic : ℕ
  /-- Newest first. -/
  trace : List Event
  /-- The image in the file, where it is not that of the memory. -/
  file : Option StoreData := none

/-- The step does not name this lobby. -/
def StoreStep.isElsewhere (id : LobbyId) : StoreStep → Bool
  | .create call => call.lobby.lobby.lobbyId != id
  | .replace lobby => lobby.lobby.lobbyId != id
  | .cleanupExpired _ | .reopen => false
  | _ => true

def StoreData.writes (data : StoreData) (step : StoreStep) : Bool :=
  match step, (data.step step).1 with
  | .quarantineRealCreation, _ => !data.realCreationQuarantined
  | _, .create (.error _) | _, .done (.error _) => false
  | _, _ => true

/-- The clock reading a step of another lobby made. -/
def StoreStep.reading : StoreStep → Option Event
  | .create call => some (.clock call.now)
  | _ => none

namespace World

variable (id : LobbyId)

def empty (storeInstanceId canonicalStatePathSha256 : Digest) : World :=
  { data := .empty storeInstanceId canonicalStatePathSha256
    anchor := none
    monotonic := 0
    trace := [] }

def record (s : World) : Option StoredLobby := s.data.lobbies[id]?

def note (s : World) (event : Event) : World := { s with trace := event :: s.trace }

/-- The file, which a persist makes that of the memory. -/
def fileUnless (s : World) (persisted : Bool) : Option StoreData :=
  if persisted then none else s.file

/-- Another lobby's step on the store.  A step whose persist fails after the rename is one taken just
before the next restart, or none. -/
def elsewhere (s : World) (step : StoreStep) : World :=
  if step.isElsewhere id then
    { s with
      data := (s.data.step step).2
      trace := step.reading.toList ++ s.trace
      file := s.fileUnless (s.data.writes step) }
  else s

/-- Time passes and the other lobbies go on. -/
def pass (s : World) (a : Answer) : World :=
  let s := a.elsewhere.foldl (elsewhere id) s
  { s with monotonic := s.monotonic + a.elapsed }

/-- A successful replace. -/
def write (s : World) (lobby : StoredLobby) : World :=
  let data := (s.data.replaceInData lobby).2
  let quarantines := data.realCreationQuarantined && !s.data.realCreationQuarantined
  { s with
    data := data
    trace := ((s.record id).map fun before => .wrote before lobby quarantines).toList ++ s.trace
    file := none }

/-- A persisted create. -/
def create (s : World) (call : CreateCall) : Except StoreError CreateStoreOutcome × World :=
  let (outcome, data) := s.data.createInData call
  (outcome, match outcome with
    | .ok (.created lobby) =>
      { s with data := data, trace := .created lobby :: s.trace, file := none }
    | _ => { s with data := data, file := s.fileUnless outcome.toBool })

/-- A persisted grant. -/
def grant (s : World) (verifier : Digest) (expiresAt : UnixMillis) :
    Except StoreError Unit × World :=
  let (issued, data) := s.data.issueRealCreateGrant verifier expiresAt
  (issued, { s with data := data, file := s.fileUnless issued.toBool })

/-- A persist that fails leaves the memory as it is, and the new image in the file if it has come as
far as the rename. -/
def lost {ε α : Type} (s : World) (a : Answer) (next : Except ε α × StoreData) : World :=
  { s with file := if a.renames && next.1.toBool then some next.2 else s.file }

end World

/-! ## Effects -/

abbrev Service (α : Type) := Prog World Answer ApiError α

namespace Service

variable (id : LobbyId)

/-- Waits for the outside: time passes, then the effect reads its answer. -/
def await {α : Type} (act : World → Answer → α × World) : Service α :=
  Prog.effect fun s a => act (s.pass id a) a

/-- Asks something that leaves no trace. -/
def ask {α : Type} (read : Answer → α) : Service α := await id fun s a => (read a, s)

def clockNow : Service UnixMillis := await id fun s a => (a.now, s.note (.clock a.now))

/-! ### The store -/

def storeGet : Service (Option StoredLobby) := await id fun s _ => (s.record id, s)

/-- Replaces the record; it fails when the record is gone or the image cannot be persisted. -/
def storeReplace (lobby : StoredLobby) : Service Bool := await id fun s a =>
  if a.persists && s.data.lobbies.contains lobby.lobby.lobbyId then (true, s.write id lobby)
  else (false, s.lost a (s.data.replaceInData lobby))

/-- `replace` where a failure ends the request. -/
def persist (lobby : StoredLobby) (dryRun : Bool) : Service Unit := do
  let stored ← storeReplace id lobby
  Prog.check stored (.internalError dryRun)

/-- Creates the record; `none` is an image that could not be persisted. -/
def storeCreate (call : CreateCall) : Service (Option (Except StoreError CreateStoreOutcome)) :=
  await id fun s a =>
    if a.persists then (some (s.create call).1, (s.create call).2)
    else (none, s.lost a (s.data.createInData call))

def storeIssueGrant (verifier : Digest) (expiresAt : UnixMillis) :
    Service (Option (Except StoreError Unit)) := await id fun s a =>
  if a.persists then (some (s.grant verifier expiresAt).1, (s.grant verifier expiresAt).2)
  else (none, s.lost a (s.data.issueRealCreateGrant verifier expiresAt))

/-! ### The request, before the lock -/

/-- Budgets and authorization; the player it names is the asserted one of legacy mode. -/
def authorizeScope : Service (Option PlayerId) := do
  let verdict ← ask id (·.authorized)
  Prog.ofExcept verdict

/-! ### The provider -/

def lobbyAccessError : Service (Option ProviderError) := ask id (·.denied)

/-- `prepare_lobby`; a timeout is `Unavailable`. -/
def prepareLobby (request : PrepareLobbyRequest) :
    Service (Except ProviderError PreparedNetwork) := await id fun s a =>
  (a.prepared, s.note (.prepared request a.prepared))

/-- `mint_credential`; a timeout is `Unavailable`. -/
def mintCredential (request : MintCredentialRequest) :
    Service (Except ProviderError MintedCredential) := await id fun s a =>
  (a.minted, s.note (.minted request a.minted))

def providerCleanup (request : CleanupLobbyRequest) :
    Service (Except ProviderError CleanupOutcome) := await id fun s a =>
  (a.cleaned, s.note (.cleaned request a.cleaned))

/-- `tailnet_present`; `none` is a timeout. -/
def tailnetPresent (request : TailnetPresenceRequest) :
    Service (Option (Except ProviderError Bool)) := await id fun s a =>
  (a.present, s.note (.observed request a.present s.monotonic))

/-- `erase_child_secret`; `none` is a timeout. -/
def eraseChildSecret (request : TailnetPresenceRequest) :
    Service (Option (Except ProviderError Unit)) := await id fun s a =>
  (a.erased, s.note (.erased request a.erased))

/-! ### Process memory -/

/-- The anchor of the first absence observation, and the time since it. -/
def anchorGet : Service (Option (UInt64 × ℕ)) := Prog.silent fun s =>
  (s.anchor.map fun anchor => (anchor.1, s.monotonic - anchor.2), s)

def anchorInsert (generation : UInt64) : Service Unit := Prog.silent fun s =>
  ((), { s with anchor := some (generation, s.monotonic) })

def anchorRemove : Service Unit := Prog.silent fun s => ((), { s with anchor := none })

end Service

end Spurfire
