import Spurfire.Lib.AtomicFile
import Spurfire.Lib.Runs
import Spurfire.Server.Record

/-!
# The supervisor ledger

The append-only, hash-chained record of the external supervisor (`supervision.rs`), and its store of
two files, the ledger and the high-water head:

* `push` appends, `validate` rederives what the entries say, and a valid ledger is known by its
  head (`eq_of_head`);
* `persist` replaces the ledger file and then the head file, `load` quarantines what does not match;
* `survives_along`: no committed entry is lost, over crashes and failures, while no stale ledger is
  recorded.

The entry hash is outside this repository; sequence numbers do not reach the bounds of their type in
a file below the read limit.
-/

namespace Spurfire

def SCHEMA_VERSION : UInt8 := 1

structure Fence where
  runId : String
  lobbyId : LobbyId
  generation : UInt64
  epoch : UInt64
  tokenSha256 : Digest
deriving DecidableEq

structure SupervisedIdentity where
  providerStableId : String
  fqdn : String
  vaultVersion : UInt64
deriving DecidableEq

inductive Operation
  | create
  | applyPolicy
  | finalProviderIo
  | delete
  | observeAbsence
  | vaultErase
  | leaseRelease
deriving DecidableEq

inductive OperationOutcome
  | succeeded
  | failed
  | unknown
deriving DecidableEq

inductive Transition
  | reserved
  | intent (operation : Operation)
  | outcome (operation : Operation) (outcome : OperationOutcome)
  | identityBound (identity : SupervisedIdentity)
  | cleanupOnly
  | absenceObserved (ordinal : UInt8) (providerStableId : String) (fullyPaginated uncached : Bool)
  | vaultTombstoneReadback (version : UInt64)
  | released
  | quarantined (reason : String)
deriving DecidableEq

def Transition.isQuarantined : Transition → Bool
  | quarantined _ => true
  | _ => false

inductive SupervisionError
  | invalidLedger
  | persistence
  | staleFence
  | deadline
  | provider
  | incompleteProof
deriving DecidableEq

/-- The digest of an entry, from its sequence number, the digest before it and its transition. -/
structure EntryHash (D : Type) where
  zero : D
  hash : ℕ × D × Transition → D

/-- No two entries have one digest. -/
def EntryHash.CollisionFree {D : Type} (h : EntryHash D) : Prop := Function.Injective h.hash

structure LedgerEntry (D : Type) where
  sequence : ℕ
  previousSha256 : D
  transition : Transition
  entrySha256 : D
deriving DecidableEq

structure SupervisorLedger (D : Type) where
  schemaVersion : UInt8
  fence : Fence
  receiptIdDigest : Digest
  receiptVerifier : Digest
  workerSha256 : Digest
  brokerSha256 : Digest
  provenanceSha256 : Digest
  artifactSetSha256 : Digest
  storeInstanceIdSha256 : Digest
  canonicalStatePathSha256 : Digest
  publicOriginDigest : Digest
  internalListenerDigest : Digest
  receiptExpiresAt : UnixMillis
  protectedAlpha : Bool
  policyProfileDigest : Digest
  absoluteDeadline : UnixMillis
  finalIoDeadline : UnixMillis
  cleanupOnly : Bool
  quarantined : Bool
  identity : Option SupervisedIdentity
  transitions : List (LedgerEntry D)
deriving DecidableEq

def ZERO_DIGEST : Digest := Vector.replicate 32 0

namespace SupervisedIdentity

def idByte (byte : UInt8) : Bool :=
  (0x30 ≤ byte && byte ≤ 0x39) || (0x41 ≤ byte && byte ≤ 0x5a) || (0x61 ≤ byte && byte ≤ 0x7a)
    || byte == 0x2d

def bytes (s : String) : List UInt8 := s.toUTF8.data.toList

def isValid (identity : SupervisedIdentity) : Bool :=
  let id := bytes identity.providerStableId
  let fqdn := bytes identity.fqdn
  !id.isEmpty && id.length ≤ 128 && id.all (fun byte => idByte byte || byte == 0x5f)
    && !fqdn.isEmpty && fqdn.length ≤ 253 && fqdn.all (fun byte => idByte byte || byte == 0x2e)
    && identity.vaultVersion != 0

end SupervisedIdentity

namespace SupervisorLedger

variable {D : Type} (h : EntryHash D)

/-! ## Entries -/

def headSha256 (ledger : SupervisorLedger D) : D :=
  (ledger.transitions.getLast?).elim h.zero (·.entrySha256)

/-- The identity is invalid, or another one than the bound one. -/
def refusesIdentity (current : Option SupervisedIdentity) : Transition → Bool
  | .identityBound identity => !identity.isValid || current.any (· != identity)
  | _ => false

def bindsIdentity (current : Option SupervisedIdentity) : Transition → Option SupervisedIdentity
  | .identityBound identity => some identity
  | _ => current

def push (ledger : SupervisorLedger D) (transition : Transition) :
    Except SupervisionError (SupervisorLedger D) :=
  if ledger.quarantined && !transition.isQuarantined then .error .incompleteProof
  else if refusesIdentity ledger.identity transition then .error .invalidLedger
  else
    let sequence := ledger.transitions.length + 1
    let previous := ledger.headSha256 h
    .ok { ledger with
      identity := bindsIdentity ledger.identity transition
      cleanupOnly := ledger.cleanupOnly || transition == .cleanupOnly || transition.isQuarantined
      quarantined := ledger.quarantined || transition.isQuarantined
      transitions := ledger.transitions
        ++ [⟨sequence, previous, transition, h.hash (sequence, previous, transition)⟩] }

/-- What the entries so far say. -/
structure Derived (D : Type) where
  count : ℕ
  previous : D
  identity : Option SupervisedIdentity
  cleanupOnly : Bool
  quarantined : Bool

variable [DecidableEq D]

/-- One turn of the loop of `validate`. -/
def checkEntry (derived : Derived D) (entry : LedgerEntry D) : Option (Derived D) :=
  let sequence := derived.count + 1
  if entry.sequence ≠ sequence ∨ entry.previousSha256 ≠ derived.previous
      ∨ entry.entrySha256 ≠ h.hash (sequence, derived.previous, entry.transition)
      ∨ (derived.count = 0 ∧ entry.transition ≠ .reserved)
      ∨ (derived.count ≠ 0 ∧ entry.transition = .reserved)
      ∨ (derived.quarantined = true ∧ entry.transition.isQuarantined = false)
      ∨ refusesIdentity derived.identity entry.transition = true then none
  else
    some {
      count := sequence
      previous := entry.entrySha256
      identity := bindsIdentity derived.identity entry.transition
      cleanupOnly := derived.cleanupOnly || entry.transition == .cleanupOnly
        || entry.transition.isQuarantined
      quarantined := derived.quarantined || entry.transition.isQuarantined }

/-- What all entries say, where they are a chain. -/
def derive (entries : List (LedgerEntry D)) : Option (Derived D) :=
  entries.foldlM (checkEntry h) ⟨0, h.zero, none, false, false⟩

/-- The sealed ledger of the hosted Alpha names its artifacts, and its receipt outlives it. -/
def alphaSealed (ledger : SupervisorLedger D) : Bool :=
  !ledger.protectedAlpha
    || (ledger.brokerSha256 != ZERO_DIGEST && ledger.provenanceSha256 != ZERO_DIGEST
      && ledger.artifactSetSha256 != ZERO_DIGEST && ledger.storeInstanceIdSha256 != ZERO_DIGEST
      && ledger.canonicalStatePathSha256 != ZERO_DIGEST
      && ledger.publicOriginDigest != ZERO_DIGEST
      && ledger.internalListenerDigest != ZERO_DIGEST
      && !decide (ledger.receiptExpiresAt < ledger.absoluteDeadline))

def validate (ledger : SupervisorLedger D) : Except SupervisionError Unit :=
  if ledger.schemaVersion ≠ SCHEMA_VERSION ∨ ledger.transitions = [] then .error .invalidLedger
  else if ledger.alphaSealed = false then .error .invalidLedger
  else
    match derive h ledger.transitions with
    | none => .error .invalidLedger
    | some derived =>
      if ledger.identity ≠ derived.identity ∨ ledger.cleanupOnly ≠ derived.cleanupOnly
          ∨ ledger.quarantined ≠ derived.quarantined then .error .invalidLedger
      else .ok ()

/-! ### What a valid ledger is -/

variable {h} {ledger ledger' : SupervisorLedger D} {transition : Transition}

/-- The fields that no transition moves. -/
def binding (ledger : SupervisorLedger D) : SupervisorLedger D :=
  { ledger with cleanupOnly := false, quarantined := false, identity := none, transitions := [] }

structure Valid (h : EntryHash D) (ledger : SupervisorLedger D) : Prop where
  schema : ledger.schemaVersion = SCHEMA_VERSION
  alpha : ledger.alphaSealed = true
  nonempty : ledger.transitions ≠ []
  derived : ∃ count previous, derive h ledger.transitions
    = some ⟨count, previous, ledger.identity, ledger.cleanupOnly, ledger.quarantined⟩

theorem validate_iff : ledger.validate h = .ok () ↔ ledger.Valid h := by
  unfold validate
  constructor
  · intro hok
    split_ifs at hok with hschema halpha
    obtain ⟨hschema, hnonempty⟩ := not_or.mp hschema
    cases hderive : derive h ledger.transitions with
    | none =>
      rw [hderive] at hok
      exact nomatch hok
    | some derived =>
      rw [hderive] at hok
      dsimp only at hok
      split_ifs at hok with hsame
      simp only [not_or, not_not] at hsame
      obtain ⟨hidentity, hcleanup, hquarantined⟩ := hsame
      refine ⟨not_not.mp hschema, Bool.eq_true_of_not_eq_false halpha, hnonempty,
        derived.count, derived.previous, ?_⟩
      rw [hderive, hidentity, hcleanup, hquarantined]
  · rintro ⟨hschema, halpha, hnonempty, count, previous, hderive⟩
    rw [if_neg (by simp [hschema, hnonempty]), if_neg (by simp [halpha]), hderive]
    exact if_neg (by simp)

theorem derive_append (entries : List (LedgerEntry D)) (entry : LedgerEntry D) :
    derive h (entries ++ [entry]) = (derive h entries).bind fun d => checkEntry h d entry := by
  unfold derive
  rw [List.foldlM_append]
  simp

/-- An entry that is accepted continues the chain. -/
theorem checkEntry_some {derived derived' : Derived D} {entry : LedgerEntry D}
    (hcheck : checkEntry h derived entry = some derived') :
    entry = ⟨derived.count + 1, derived.previous, entry.transition,
        h.hash (derived.count + 1, derived.previous, entry.transition)⟩
      ∧ derived'.count = derived.count + 1 ∧ derived'.previous = entry.entrySha256 := by
  unfold checkEntry at hcheck
  dsimp only at hcheck
  split_ifs at hcheck with hrefused
  simp only [not_or, not_not] at hrefused
  obtain ⟨hsequence, hprevious, hhash, -⟩ := hrefused
  cases hcheck
  refine ⟨?_, rfl, rfl⟩
  rw [← hhash, ← hprevious, ← hsequence]

/-- Chains are as long as they count, and end where they say. -/
theorem derive_count {entries : List (LedgerEntry D)} {derived : Derived D}
    (hderive : derive h entries = some derived) :
    derived.count = entries.length
      ∧ derived.previous = (entries.getLast?).elim h.zero (·.entrySha256) := by
  induction entries using List.reverseRecOn generalizing derived with
  | nil =>
    cases hderive
    exact ⟨rfl, rfl⟩
  | append_singleton entries entry ih =>
    rw [derive_append] at hderive
    obtain ⟨before, hbefore, hcheck⟩ := Option.bind_eq_some_iff.mp hderive
    obtain ⟨-, hcount, hprevious⟩ := checkEntry_some hcheck
    rw [hcount, hprevious, (ih hbefore).1, List.getLast?_concat, List.length_append]
    exact ⟨rfl, rfl⟩

/-- Without collisions a chain is known by its length and its last digest. -/
theorem derive_inj (hfree : h.CollisionFree) {xs ys : List (LedgerEntry D)} {dx dy : Derived D}
    (hx : derive h xs = some dx) (hy : derive h ys = some dy) (hcount : dx.count = dy.count)
    (hprevious : dx.previous = dy.previous) : xs = ys := by
  induction xs using List.reverseRecOn generalizing ys dx dy with
  | nil =>
    rw [(derive_count hx).1, (derive_count hy).1] at hcount
    exact (List.length_eq_zero_iff.mp hcount.symm).symm
  | append_singleton xs x ih =>
    rcases ys.eq_nil_or_concat' with rfl | ⟨ys, y, rfl⟩
    · rw [(derive_count hx).1, (derive_count hy).1, List.length_append] at hcount
      exact nomatch hcount
    · rw [derive_append] at hx hy
      obtain ⟨dx', hx', hcheckx⟩ := Option.bind_eq_some_iff.mp hx
      obtain ⟨dy', hy', hchecky⟩ := Option.bind_eq_some_iff.mp hy
      obtain ⟨hxeq, hxcount, hxprevious⟩ := checkEntry_some hcheckx
      obtain ⟨hyeq, hycount, hyprevious⟩ := checkEntry_some hchecky
      rw [hxprevious, hyprevious, hxeq, hyeq] at hprevious
      have htriple := hfree hprevious
      simp only [Prod.mk.injEq] at htriple
      obtain ⟨hsequence, hlast, htransition⟩ := htriple
      have hrest := ih hx' hy' (Nat.succ_injective hsequence) hlast
      rw [hrest, hxeq, hyeq, htransition, hlast, hsequence]

/-- **A valid ledger is known by its head.** -/
theorem eq_of_head (hfree : h.CollisionFree) (hv : ledger.Valid h) (hv' : ledger'.Valid h)
    (hbinding : ledger.binding = ledger'.binding)
    (hlength : ledger.transitions.length = ledger'.transitions.length)
    (hhead : ledger.headSha256 h = ledger'.headSha256 h) : ledger = ledger' := by
  obtain ⟨count, previous, hderive⟩ := hv.derived
  obtain ⟨count', previous', hderive'⟩ := hv'.derived
  have hsame : ledger.transitions = ledger'.transitions := by
    refine derive_inj hfree hderive hderive' ?_ ?_
    · exact (derive_count hderive).1.trans (hlength.trans (derive_count hderive').1.symm)
    · exact (derive_count hderive).2.trans (hhead.trans (derive_count hderive').2.symm)
  rw [hsame, hderive'] at hderive
  have hfields := Option.some.inj hderive
  simp only [Derived.mk.injEq] at hfields
  obtain ⟨-, -, hidentity, hcleanup, hquarantined⟩ := hfields
  cases ledger
  cases ledger'
  simp only [binding, mk.injEq] at hbinding hsame hidentity hcleanup hquarantined ⊢
  simp_all

/-- The fence, the deadlines and the artifacts are those of `ledger`, and so are the first entries. -/
structure Continues (ledger ledger' : SupervisorLedger D) : Prop where
  binding : ledger.binding = ledger'.binding
  entries : ledger.transitions <+: ledger'.transitions

omit [DecidableEq D] in
theorem Continues.refl (ledger : SupervisorLedger D) : Continues ledger ledger :=
  ⟨rfl, List.prefix_rfl⟩

omit [DecidableEq D] in
theorem Continues.trans {ledger'' : SupervisorLedger D} (hc : Continues ledger ledger')
    (hc' : Continues ledger' ledger'') : Continues ledger ledger'' :=
  ⟨hc.binding.trans hc'.binding, hc.entries.trans hc'.entries⟩

omit [DecidableEq D] in
/-- A push appends one entry, and a quarantine is never taken back. -/
theorem push_ok (hpush : ledger.push h transition = .ok ledger') :
    Continues ledger ledger' ∧ ledger'.transitions.length = ledger.transitions.length + 1
      ∧ ledger'.transitions.getLast? = some ⟨ledger.transitions.length + 1, ledger.headSha256 h,
        transition, h.hash (ledger.transitions.length + 1, ledger.headSha256 h, transition)⟩
      ∧ ledger'.quarantined = (ledger.quarantined || transition.isQuarantined) := by
  unfold push at hpush
  split_ifs at hpush
  cases hpush
  exact ⟨⟨rfl, List.prefix_append _ _⟩, List.length_append, List.getLast?_concat, rfl⟩

theorem Valid.push (hv : ledger.Valid h) (hreserved : transition ≠ .reserved)
    (hpush : ledger.push h transition = .ok ledger') : ledger'.Valid h := by
  obtain ⟨hschema, halpha, hnonempty, count, previous, hderive⟩ := hv
  have hcount := derive_count hderive
  dsimp only at hcount
  obtain ⟨rfl, hprevious⟩ := hcount
  have hlength : ledger.transitions.length ≠ 0 := fun h0 =>
    hnonempty (List.length_eq_zero_iff.mp h0)
  unfold SupervisorLedger.push at hpush
  split_ifs at hpush with hquarantined hidentity
  cases hpush
  have hopen : ¬(ledger.quarantined = true ∧ transition.isQuarantined = false) := by
    simpa using hquarantined
  refine ⟨hschema, halpha, List.append_ne_nil_of_right_ne_nil _ (List.cons_ne_nil _ _), ?_⟩
  refine ⟨ledger.transitions.length + 1,
    h.hash (ledger.transitions.length + 1, ledger.headSha256 h, transition), ?_⟩
  rw [derive_append, hderive, Option.bind_some, hprevious]
  exact if_neg (by simp [headSha256, hreserved, hlength, hopen, hidentity])

/-! ## The store -/

structure LedgerHead (D : Type) where
  sequence : ℕ
  entrySha256 : D
deriving DecidableEq

def lastHead (ledger : SupervisorLedger D) : Option (LedgerHead D) :=
  (ledger.transitions.getLast?).map fun entry => ⟨entry.sequence, entry.entrySha256⟩

theorem Valid.lastHead (hv : ledger.Valid h) : ledger.lastHead
    = some ⟨ledger.transitions.length, ledger.headSha256 h⟩ := by
  obtain ⟨-, -, hnonempty, count, previous, hderive⟩ := hv
  obtain ⟨entries, entry, heq⟩ := ledger.transitions.eq_nil_or_concat'.resolve_left hnonempty
  rw [heq, derive_append] at hderive
  obtain ⟨derived, hderived, hcheck⟩ := Option.bind_eq_some_iff.mp hderive
  obtain ⟨hentry, -, -⟩ := checkEntry_some hcheck
  unfold SupervisorLedger.lastHead headSha256
  rw [heq, List.getLast?_concat, List.length_append, Option.map_some, Option.elim_some]
  rw [hentry, (derive_count hderived).1]
  rfl

theorem Valid.eq_of_lastHead (hfree : h.CollisionFree) (hv : ledger.Valid h)
    (hv' : ledger'.Valid h) (hbinding : ledger.binding = ledger'.binding)
    (hhead : ledger.lastHead = ledger'.lastHead) : ledger = ledger' := by
  rw [hv.lastHead, hv'.lastHead, Option.some.injEq, LedgerHead.mk.injEq] at hhead
  exact eq_of_head hfree hv hv' hbinding hhead.1 hhead.2

end SupervisorLedger

open SupervisorLedger

/-- What the file system does to one persist. -/
structure PersistAnswers where
  headReadable : Bool
  ledger : ReplaceAnswer
  head : ReplaceAnswer

/-- A process and the two files. -/
structure LedgerWorld (D : Type) where
  /-- The ledger in memory, where a process runs. -/
  memory : Option (SupervisorLedger D)
  ledgerFile : SupervisorLedger D
  headFile : LedgerHead D
  /-- Not of the program: the last ledger whose two files were both replaced. -/
  committed : SupervisorLedger D

namespace LedgerWorld

variable {D : Type} [DecidableEq D] (h : EntryHash D) (s : LedgerWorld D)

/-- The new head is the stored one, or its next, or a quarantine. -/
def accepts (current : LedgerHead D) (entry : LedgerEntry D) : Bool :=
  LedgerHead.mk entry.sequence entry.entrySha256 == current
    || (entry.sequence == current.sequence + 1 && entry.previousSha256 == current.entrySha256)
    || entry.transition.isQuarantined

def replaceFiles (ledger : SupervisorLedger D) (head : LedgerHead D) (a : PersistAnswers) :
    Except SupervisionError Unit × LedgerWorld D :=
  let s := if a.ledger.takesEffect then { s with ledgerFile := ledger } else s
  if a.ledger.isOk = false then (.error .persistence, s)
  else
    let s := if a.head.takesEffect then { s with headFile := head, committed := ledger } else s
    if a.head.isOk = false then (.error .persistence, s) else (.ok (), s)

def persist (ledger : SupervisorLedger D) (a : PersistAnswers) :
    Except SupervisionError Unit × LedgerWorld D :=
  match ledger.validate h with
  | .error error => (.error error, s)
  | .ok () =>
    match ledger.transitions.getLast? with
    | none => (.error .invalidLedger, s)
    | some entry =>
      if a.headReadable && !accepts s.headFile entry then (.error .invalidLedger, s)
      else s.replaceFiles ledger ⟨entry.sequence, entry.entrySha256⟩ a

def load (readable : Bool) (a : PersistAnswers) :
    Except SupervisionError (SupervisorLedger D) × LedgerWorld D :=
  if readable = false then (.error .persistence, s)
  else
    match s.ledgerFile.validate h with
    | .error error => (.error error, s)
    | .ok () =>
      if s.ledgerFile.lastHead = some s.headFile then (.ok s.ledgerFile, s)
      else
        match s.ledgerFile.push h (.quarantined "ledger_rollback_or_incomplete_commit") with
        | .error error => (.error error, s)
        | .ok ledger =>
          match s.persist h ledger a with
          | (.error error, s) => (.error error, s)
          | (.ok (), s) => (.ok ledger, s)

/-- A transition of the ledger in memory, which is taken back when it cannot be persisted. -/
def durableTransition (ledger : SupervisorLedger D) (transition : Transition)
    (a : PersistAnswers) : Except SupervisionError Unit × LedgerWorld D :=
  match ledger.push h transition with
  | .error error => (.error error, s)
  | .ok next =>
    match s.persist h next a with
    | (.error _, s) => (.error .persistence, s)
    | (.ok (), s) => (.ok (), { s with memory := some next })

/-! ### Steps -/

inductive LedgerStep
  | transition (transition : Transition) (answers : PersistAnswers)
  /-- The process dies on the way: what was not replaced by then stays. -/
  | crash (transition : Transition) (answers : PersistAnswers)
  | load (readable : Bool) (answers : PersistAnswers)
  | loadCrash (answers : PersistAnswers)

/-- The result of a call, `none` where there is no process to make it or to return. -/
def step : LedgerStep → Option (Except SupervisionError Unit) × LedgerWorld D
  | .transition transition a =>
    match s.memory with
    | none => (none, s)
    | some ledger =>
      let (result, s) := s.durableTransition h ledger transition a
      (some result, s)
  | .crash transition a =>
    match s.memory with
    | none => (none, s)
    | some ledger => (none, { (s.durableTransition h ledger transition a).2 with memory := none })
  | .load readable a =>
    match s.load h readable a with
    | (.ok ledger, s) => (some (.ok ()), { s with memory := some ledger })
    | (.error error, s) => (some (.error error), { s with memory := none })
  | .loadCrash a => (none, { (s.load h true a).2 with memory := none })

/-- The first successful persist of a ledger. -/
def started (ledger : SupervisorLedger D) : LedgerWorld D where
  memory := some ledger
  ledgerFile := ledger
  headFile := ⟨ledger.transitions.length, ledger.headSha256 h⟩
  committed := ledger

def Stale (ledger : SupervisorLedger D) : Prop := ledger.lastHead ≠ some s.headFile

/-- The ledger in memory lacks a quarantine that is in the ledger file. -/
def Unaware (ledger : SupervisorLedger D) : Prop :=
  s.ledgerFile.quarantined = true ∧ ledger.quarantined = false

/-- A stale ledger records no quarantine, and finds the head file readable; and one that is not stale
replaces no quarantine in the ledger file that it lacks by an ordinary entry. -/
def Guarded : LedgerStep → Prop
  | .transition transition a | .crash transition a => ∀ ledger, s.memory = some ledger →
    (s.Stale ledger → transition.isQuarantined = false ∧ a.headReadable = true)
      ∧ (¬s.Stale ledger → s.Unaware ledger →
        transition.isQuarantined = true ∨ a.ledger.takesEffect = false)
  | .load _ _ | .loadCrash _ => True

/-! ### One step -/

variable {h s} {ledger ledger' : SupervisorLedger D} {a : PersistAnswers}

/-- The committed ledger is on disk with its head, and the ledger file only runs ahead of it. -/
structure FilesKept (h : EntryHash D) (s : LedgerWorld D) : Prop where
  committed : s.committed.Valid h
  head : s.committed.lastHead = some s.headFile
  file : s.ledgerFile.Valid h
  ahead : s.committed.Continues s.ledgerFile

/-- A ledger in memory is the committed one, or one entry behind it and behind the ledger file. -/
structure MemoryKept (h : EntryHash D) (s : LedgerWorld D) (ledger : SupervisorLedger D) :
    Prop where
  valid : ledger.Valid h
  behind : ledger.Continues s.committed
  near : ledger = s.committed
    ∨ s.committed.transitions.length = ledger.transitions.length + 1 ∧ s.ledgerFile = s.committed

/-- The new ledger has all entries of the old one, and its quarantine. -/
structure Extends (ledger ledger' : SupervisorLedger D) : Prop where
  continues : ledger.Continues ledger'
  quarantined : ledger.quarantined = true → ledger'.quarantined = true

omit [DecidableEq D] in
theorem Extends.refl (ledger : SupervisorLedger D) : Extends ledger ledger :=
  ⟨.refl ledger, fun hq => hq⟩

omit [DecidableEq D] in
theorem Extends.trans {ledger'' : SupervisorLedger D} (he : Extends ledger ledger')
    (he' : Extends ledger' ledger'') : Extends ledger ledger'' :=
  ⟨he.continues.trans he'.continues, fun hq => he'.quarantined (he.quarantined hq)⟩

omit [DecidableEq D] in
theorem extends_push {transition : Transition} (hpush : ledger.push h transition = .ok ledger') :
    Extends ledger ledger' := by
  obtain ⟨hcontinues, -, -, hquarantined⟩ := push_ok hpush
  refine ⟨hcontinues, fun hq => ?_⟩
  rw [hquarantined, hq, Bool.true_or]

/-- A persist does nothing, or replaces the ledger file, or both files. -/
theorem persist_cases (s : LedgerWorld D) (ledger : SupervisorLedger D) (a : PersistAnswers) :
    (∃ error, s.persist h ledger a = (.error error, s))
      ∨ ledger.Valid h ∧ ∃ entry head, ledger.transitions.getLast? = some entry
        ∧ ledger.lastHead = some head
        ∧ (a.headReadable = true → accepts s.headFile entry = true)
        ∧ ((∃ error, s.persist h ledger a = (.error error, { s with ledgerFile := ledger }))
          ∨ ∃ result, s.persist h ledger a
            = (result, { s with ledgerFile := ledger, headFile := head, committed := ledger })) := by
  unfold persist
  cases hvalid : ledger.validate h with
  | error error => exact .inl ⟨error, rfl⟩
  | ok _ =>
    dsimp only
    cases hlast : ledger.transitions.getLast? with
    | none => exact .inl ⟨_, rfl⟩
    | some entry =>
      dsimp only
      by_cases hrefused : (a.headReadable && !accepts s.headFile entry) = true
      · rw [if_pos hrefused]
        exact .inl ⟨_, rfl⟩
      rw [if_neg hrefused]
      have haccepted : a.headReadable = true → accepts s.headFile entry = true := by
        intro hreadable
        simpa [hreadable] using hrefused
      have hhead : ledger.lastHead = some ⟨entry.sequence, entry.entrySha256⟩ := by
        unfold SupervisorLedger.lastHead
        rw [hlast, Option.map_some]
      unfold replaceFiles
      obtain ⟨headReadable, ledgerAnswer, headAnswer⟩ := a
      cases ledgerAnswer with
      | failed => exact .inl ⟨_, rfl⟩
      | failedInstalled =>
        exact .inr ⟨validate_iff.mp hvalid, entry, _, rfl, hhead, haccepted, .inl ⟨_, rfl⟩⟩
      | installed =>
        refine .inr ⟨validate_iff.mp hvalid, entry, _, rfl, hhead, haccepted, ?_⟩
        cases headAnswer with
        | failed => exact .inl ⟨_, rfl⟩
        | failedInstalled => exact .inr ⟨_, rfl⟩
        | installed => exact .inr ⟨_, rfl⟩

theorem ledgerFile_persist (hkeeps : a.ledger.takesEffect = false) :
    (s.persist h ledger a).2.ledgerFile = s.ledgerFile := by
  obtain ⟨headReadable, ledgerAnswer, headAnswer⟩ := a
  cases ledgerAnswer with
  | installed => exact nomatch hkeeps
  | failedInstalled => exact nomatch hkeeps
  | failed =>
    unfold persist
    split
    · rfl
    · split
      · rfl
      · split_ifs
        · rfl
        · rfl

/-- What a persist of a continuation leaves. -/
theorem FilesKept.persist (hf : FilesKept h s) (hextends : Extends s.committed ledger) :
    FilesKept h (s.persist h ledger a).2 ∧ Extends s.committed (s.persist h ledger a).2.committed
      ∧ ((s.persist h ledger a).2.committed = s.committed
          ∧ ((s.persist h ledger a).2.ledgerFile = s.ledgerFile
            ∨ (s.persist h ledger a).2.ledgerFile = ledger)
        ∨ (s.persist h ledger a).2.committed = ledger
          ∧ (s.persist h ledger a).2.ledgerFile = ledger)
      ∧ (∀ u, (s.persist h ledger a).1 = .ok u → (s.persist h ledger a).2.committed = ledger)
      ∧ (s.persist h ledger a).2.memory = s.memory := by
  rcases persist_cases s ledger a with ⟨error, heq⟩ | ⟨hvalid, entry, head, -, hhead, -,
    ⟨error, heq⟩ | ⟨result, heq⟩⟩
  · rw [heq]
    exact ⟨hf, .refl _, .inl ⟨rfl, .inl rfl⟩, nofun, rfl⟩
  · rw [heq]
    exact ⟨⟨hf.committed, hf.head, hvalid, hextends.continues⟩, .refl _, .inl ⟨rfl, .inr rfl⟩, nofun,
      rfl⟩
  · rw [heq]
    exact ⟨⟨hvalid, hhead, hvalid, .refl ledger⟩, hextends, .inr ⟨rfl, rfl⟩, fun _ _ => rfl, rfl⟩

/-- A guarded transition leaves the files in order, and the ledger in memory near them. -/
theorem FilesKept.durableTransition (hfree : h.CollisionFree) (hf : FilesKept h s)
    (hm : MemoryKept h s ledger) {transition : Transition}
    (hguard : s.Stale ledger → transition.isQuarantined = false ∧ a.headReadable = true)
    (haware : ¬s.Stale ledger → s.Unaware ledger →
      transition.isQuarantined = true ∨ a.ledger.takesEffect = false)
    (hmemory : s.memory = some ledger) :
    FilesKept h (s.durableTransition h ledger transition a).2
      ∧ Extends s.committed (s.durableTransition h ledger transition a).2.committed
      ∧ (s.ledgerFile.quarantined = true →
        (s.durableTransition h ledger transition a).2.ledgerFile.quarantined = true)
      ∧ ∀ ledger', (s.durableTransition h ledger transition a).2.memory = some ledger' →
        MemoryKept h (s.durableTransition h ledger transition a).2 ledger' := by
  have hkept : ∀ ledger', s.memory = some ledger' → MemoryKept h s ledger' := by
    intro ledger' hledger'
    cases hmemory.symm.trans hledger'
    exact hm
  unfold LedgerWorld.durableTransition
  cases hpush : ledger.push h transition with
  | error error => exact ⟨hf, .refl _, id, hkept⟩
  | ok next =>
    obtain ⟨hcontinues, hlength, hlast, hquarantined⟩ := push_ok hpush
    -- the ledger is the committed one, or the new one is, or the persist refuses it
    have hnext : ledger = s.committed ∨ next = s.committed ∧ s.ledgerFile = s.committed
        ∨ ∃ error, s.persist h next a = (.error error, s) := by
      rcases hm.near with heq | ⟨hshort, hfile⟩
      · exact .inl heq
      have hstale : s.Stale ledger := by
        intro hsame
        rw [hm.valid.lastHead, ← hf.head, hf.committed.lastHead, Option.some.injEq,
          LedgerHead.mk.injEq] at hsame
        omega
      obtain ⟨hopen, hreadable⟩ := hguard hstale
      rcases persist_cases s next a with hrefused | ⟨hvalid, entry, head, hentry, hhead, haccepts, -⟩
      · exact .inr (.inr hrefused)
      have haccepted := haccepts hreadable
      cases hlast.symm.trans hentry
      have hheadFile := hf.committed.lastHead.symm.trans hf.head
      rw [Option.some.injEq] at hheadFile
      simp only [accepts, Bool.or_eq_true, Bool.and_eq_true, beq_iff_eq, hopen, Bool.false_eq_true,
        or_false] at haccepted
      rcases haccepted with hsame | ⟨hsequence, -⟩
      · have hequal : next = s.committed := by
          refine hvalid.eq_of_lastHead hfree hf.committed
            (hcontinues.binding.symm.trans hm.behind.binding) ?_
          rw [hf.head, ← hsame]
          unfold SupervisorLedger.lastHead
          rw [hlast, Option.map_some]
        exact .inr (.inl ⟨hequal, hfile⟩)
      · rw [← hheadFile] at hsequence
        dsimp only at hsequence
        omega
    -- a quarantine in the ledger file is in the new ledger, or nothing replaces it
    have hdurable : s.ledgerFile.quarantined = true →
        (s.persist h next a).2.ledgerFile.quarantined = true := by
      intro hfile
      rcases hnext with heq | ⟨heq, hsame⟩ | ⟨error, hrefused⟩
      · have hfresh : ¬s.Stale ledger := fun hstale => hstale (by rw [heq, hf.head])
        have hnew : next.quarantined = true ∨ a.ledger.takesEffect = false := by
          rw [hquarantined, Bool.or_eq_true]
          cases hledger : ledger.quarantined with
          | true => exact .inl (.inl rfl)
          | false => exact (haware hfresh ⟨hfile, hledger⟩).imp_left .inr
        rcases hnew with hnew | hkeeps
        · rcases persist_cases s next a with ⟨error, hpersist⟩ | ⟨-, _, _, -, -, -,
            ⟨error, hpersist⟩ | ⟨result, hpersist⟩⟩
          · rwa [hpersist]
          · rwa [hpersist]
          · rwa [hpersist]
        · rwa [ledgerFile_persist hkeeps]
      · rcases persist_cases s next a with ⟨error, hpersist⟩ | ⟨-, _, _, -, -, -,
          ⟨error, hpersist⟩ | ⟨result, hpersist⟩⟩
        · rwa [hpersist]
        · rwa [hpersist, heq, ← hsame]
        · rwa [hpersist, heq, ← hsame]
      · rwa [hrefused]
    have hextends : Extends s.committed next
        ∨ ∃ error, s.persist h next a = (.error error, s) := by
      rcases hnext with heq | ⟨heq, -⟩ | hrefused
      · exact .inl (heq ▸ extends_push hpush)
      · exact .inl (heq ▸ .refl _)
      · exact .inr hrefused
    dsimp only
    rcases hextends with hextends | ⟨error, hrefused⟩
    · obtain ⟨hfiles, hgrown, hwhich, hok, hsame⟩ := hf.persist (a := a) hextends
      have hvalid : next.Valid h ∨ (s.persist h next a).2.committed = s.committed := by
        rcases persist_cases s next a with ⟨error, heq⟩ | ⟨hvalid, -⟩
        · rw [heq]
          exact .inr rfl
        · exact .inl hvalid
      cases hresult : s.persist h next a with
      | mk result s' =>
        rw [hresult] at hfiles hgrown hwhich hok hsame hdurable
        dsimp only at hfiles hgrown hwhich hok hsame hdurable
        cases result with
        | ok u =>
          refine ⟨⟨hfiles.committed, hfiles.head, hfiles.file, hfiles.ahead⟩, hgrown, hdurable, ?_⟩
          intro ledger' hledger'
          cases hledger'
          have hcommitted : s'.committed = next := hok u rfl
          refine ⟨?_, ?_, .inl hcommitted.symm⟩
          · rw [← hcommitted]
            exact hfiles.committed
          · change Continues next s'.committed
            rw [hcommitted]
            exact .refl next
        | error error =>
          refine ⟨hfiles, hgrown, hdurable, fun ledger' hledger' => ?_⟩
          dsimp only at hledger' ⊢
          rw [hsame, hmemory] at hledger'
          cases hledger'
          rcases hwhich with ⟨hcommitted, hwrote⟩ | ⟨hcommitted, hwrote⟩
          · refine ⟨hm.valid, hcommitted ▸ hm.behind, ?_⟩
            rw [hcommitted]
            refine hm.near.imp_right fun ⟨hshort, hfile⟩ => ⟨hshort, ?_⟩
            rcases hwrote with hwrote | hwrote
            · exact hwrote.trans hfile
            · rcases hnext with heq | ⟨heq, -⟩ | ⟨error, hrefused⟩
              · rw [heq] at hshort
                omega
              · exact hwrote.trans heq
              · rw [hrefused] at hresult
                cases hresult
                exact hfile
          · refine ⟨hm.valid, hcommitted ▸ hcontinues, .inr ⟨hcommitted ▸ hlength, ?_⟩⟩
            exact hwrote.trans hcommitted.symm
    · rw [hrefused]
      exact ⟨hf, .refl _, id, hkept⟩

/-- A load returns the committed ledger, or quarantines a continuation of it. -/
theorem FilesKept.load (hfree : h.CollisionFree) (hf : FilesKept h s) (readable : Bool)
    (a : PersistAnswers) :
    FilesKept h (s.load h readable a).2
      ∧ Extends s.committed (s.load h readable a).2.committed
      ∧ (s.ledgerFile.quarantined = true → (s.load h readable a).2.ledgerFile.quarantined = true)
      ∧ ∀ ledger, (s.load h readable a).1 = .ok ledger →
        (s.load h readable a).2.committed = ledger
          ∧ (ledger = s.committed ∧ ledger = s.ledgerFile
            ∨ ledger.quarantined = true ∧ s.committed.Continues ledger) := by
  unfold LedgerWorld.load
  by_cases hreadable : readable = false
  · rw [if_pos hreadable]
    exact ⟨hf, .refl _, id, nofun⟩
  rw [if_neg hreadable, validate_iff.mpr hf.file]
  dsimp only
  by_cases hhead : s.ledgerFile.lastHead = some s.headFile
  · rw [if_pos hhead]
    have hsame : s.ledgerFile = s.committed := hf.file.eq_of_lastHead hfree hf.committed
      hf.ahead.binding.symm (hhead.trans hf.head.symm)
    refine ⟨hf, .refl _, id, fun ledger hledger => ?_⟩
    cases hledger
    exact ⟨hsame.symm, .inl ⟨hsame, rfl⟩⟩
  rw [if_neg hhead]
  cases hpush : s.ledgerFile.push h (.quarantined "ledger_rollback_or_incomplete_commit") with
  | error error => exact ⟨hf, .refl _, id, nofun⟩
  | ok ledger =>
    obtain ⟨hcontinues, -, -, hquarantined⟩ := push_ok hpush
    have hq : ledger.quarantined = true := hquarantined.trans (Bool.or_true _)
    have hextends : Extends s.committed ledger := ⟨hf.ahead.trans hcontinues, fun _ => hq⟩
    obtain ⟨hfiles, hgrown, hwhich, hok, -⟩ := hf.persist (a := a) hextends
    have hdurable : s.ledgerFile.quarantined = true →
        (s.persist h ledger a).2.ledgerFile.quarantined = true := by
      rcases hwhich with ⟨-, hwrote | hwrote⟩ | ⟨-, hwrote⟩
      · exact fun hfile => hwrote ▸ hfile
      · exact fun _ => (congrArg SupervisorLedger.quarantined hwrote).trans hq
      · exact fun _ => (congrArg SupervisorLedger.quarantined hwrote).trans hq
    dsimp only
    cases hresult : s.persist h ledger a with
    | mk result s' =>
      rw [hresult] at hfiles hgrown hok hdurable
      cases result with
      | ok u =>
        refine ⟨hfiles, hgrown, hdurable, fun loaded hloaded => ?_⟩
        cases hloaded
        exact ⟨hok u rfl, .inr ⟨hq, hextends.continues⟩⟩
      | error error => exact ⟨hfiles, hgrown, hdurable, nofun⟩

/-- Everything a run keeps. -/
structure Kept (h : EntryHash D) (s : LedgerWorld D) : Prop where
  files : FilesKept h s
  memory : ∀ ledger, s.memory = some ledger → MemoryKept h s ledger

theorem Kept.step (hfree : h.CollisionFree) (hk : Kept h s) {a : LedgerStep}
    (hguard : s.Guarded a) :
    Kept h (s.step h a).2 ∧ Extends s.committed (s.step h a).2.committed
      ∧ (s.ledgerFile.quarantined = true → (s.step h a).2.ledgerFile.quarantined = true) := by
  cases a with
  | transition transition a =>
    unfold LedgerWorld.step
    dsimp only
    cases hmemory : s.memory with
    | none => exact ⟨hk, .refl _, id⟩
    | some ledger =>
      obtain ⟨hfiles, hgrown, hdurable, hnear⟩ := hk.files.durableTransition hfree
        (hk.memory ledger hmemory) (hguard ledger hmemory).1 (hguard ledger hmemory).2 hmemory
      exact ⟨⟨hfiles, hnear⟩, hgrown, hdurable⟩
  | crash transition a =>
    unfold LedgerWorld.step
    dsimp only
    cases hmemory : s.memory with
    | none => exact ⟨hk, .refl _, id⟩
    | some ledger =>
      obtain ⟨hfiles, hgrown, hdurable, -⟩ := hk.files.durableTransition hfree
        (hk.memory ledger hmemory) (hguard ledger hmemory).1 (hguard ledger hmemory).2 hmemory
      exact ⟨⟨⟨hfiles.committed, hfiles.head, hfiles.file, hfiles.ahead⟩, nofun⟩, hgrown, hdurable⟩
  | load readable a =>
    obtain ⟨hfiles, hgrown, hdurable, hloaded⟩ := hk.files.load hfree readable a
    unfold LedgerWorld.step
    cases hload : s.load h readable a with
    | mk result s' =>
      rw [hload] at hfiles hgrown hdurable hloaded
      dsimp only at hfiles hgrown hdurable hloaded ⊢
      rw [hload]
      cases result with
      | error error =>
        exact ⟨⟨⟨hfiles.committed, hfiles.head, hfiles.file, hfiles.ahead⟩, nofun⟩, hgrown, hdurable⟩
      | ok ledger =>
        refine ⟨⟨⟨hfiles.committed, hfiles.head, hfiles.file, hfiles.ahead⟩, ?_⟩, hgrown, hdurable⟩
        intro ledger' hledger'
        cases hledger'
        have hcommitted : s'.committed = ledger := (hloaded ledger rfl).1
        refine ⟨?_, ?_, .inl hcommitted.symm⟩
        · rw [← hcommitted]
          exact hfiles.committed
        · change Continues ledger s'.committed
          rw [hcommitted]
          exact .refl ledger
  | loadCrash a =>
    obtain ⟨hfiles, hgrown, hdurable, -⟩ := hk.files.load hfree true a
    exact ⟨⟨⟨hfiles.committed, hfiles.head, hfiles.file, hfiles.ahead⟩, nofun⟩, hgrown, hdurable⟩

theorem kept_started {ledger : SupervisorLedger D} (hv : ledger.Valid h) :
    Kept h (started h ledger) := by
  refine ⟨⟨hv, hv.lastHead, hv, .refl ledger⟩, fun ledger' hledger' => ?_⟩
  cases hledger'
  exact ⟨hv, .refl ledger, .inl rfl⟩

/-! ### Every run -/

/-- A load works again where the files do. -/
theorem FilesKept.exists_load (hf : FilesKept h s) (a : PersistAnswers)
    (hledger : a.ledger = .installed) (hhead : a.head = .installed) :
    ∃ loaded, (s.load h true a).1 = .ok loaded := by
  unfold LedgerWorld.load
  rw [if_neg Bool.true_eq_false.mp, validate_iff.mpr hf.file]
  dsimp only
  by_cases hsame : s.ledgerFile.lastHead = some s.headFile
  · exact ⟨s.ledgerFile, by rw [if_pos hsame]⟩
  rw [if_neg hsame]
  cases hpush : s.ledgerFile.push h (.quarantined "ledger_rollback_or_incomplete_commit") with
  | error error =>
    unfold SupervisorLedger.push at hpush
    rw [if_neg (by simp [Transition.isQuarantined]), if_neg (by simp [refusesIdentity])] at hpush
    exact nomatch hpush
  | ok ledger =>
    have hvalid : ledger.Valid h := hf.file.push (by simp) hpush
    obtain ⟨-, -, hlast, -⟩ := push_ok hpush
    have hpersist : (s.persist h ledger a).1 = .ok () := by
      unfold LedgerWorld.persist
      rw [validate_iff.mpr hvalid, hlast]
      dsimp only
      rw [if_neg (by simp [accepts, Transition.isQuarantined])]
      simp [replaceFiles, hledger, hhead, ReplaceAnswer.isOk]
    dsimp only
    cases hresult : s.persist h ledger a with
    | mk result s' =>
      rw [hresult] at hpersist
      dsimp only at hpersist
      subst hpersist
      exact ⟨ledger, rfl⟩

/-- An old ledger file under a newer head is not taken for the committed one. -/
theorem FilesKept.rollback (hfree : h.CollisionFree) (hf : FilesKept h s)
    {old loaded : SupervisorLedger D} (hold : old.Valid h)
    (hbinding : old.binding = s.committed.binding) (hne : old ≠ s.committed) {readable : Bool}
    {a : PersistAnswers} (hload : ({ s with ledgerFile := old }.load h readable a).1 = .ok loaded) :
    loaded.quarantined = true := by
  unfold LedgerWorld.load at hload
  by_cases hreadable : readable = false
  · rw [if_pos hreadable] at hload
    exact nomatch hload
  rw [if_neg hreadable, validate_iff.mpr hold] at hload
  dsimp only at hload
  have hhead : old.lastHead ≠ some s.headFile := fun hhead =>
    hne (hold.eq_of_lastHead hfree hf.committed hbinding (hhead.trans hf.head.symm))
  rw [if_neg hhead] at hload
  cases hpush : old.push h (.quarantined "ledger_rollback_or_incomplete_commit") with
  | error error =>
    rw [hpush] at hload
    exact nomatch hload
  | ok next =>
    obtain ⟨-, -, -, hquarantined⟩ := push_ok hpush
    rw [hpush] at hload
    dsimp only at hload
    split at hload
    · exact nomatch hload
    · cases hload
      exact hquarantined.trans (Bool.or_true _)

/-- What was recorded is committed. -/
theorem transition_ok {transition : Transition}
    (hok : (s.step h (.transition transition a)).1 = some (.ok ())) :
    (s.step h (.transition transition a)).2.memory
      = some (s.step h (.transition transition a)).2.committed := by
  unfold LedgerWorld.step durableTransition at hok ⊢
  dsimp only at hok ⊢
  cases hmemory : s.memory with
  | none =>
    rw [hmemory] at hok
    exact nomatch hok
  | some ledger =>
    rw [hmemory] at hok
    dsimp only at hok ⊢
    cases hpush : ledger.push h transition with
    | error error =>
      rw [hpush] at hok
      exact nomatch hok
    | ok next =>
      rw [hpush] at hok
      dsimp only at hok ⊢
      rcases persist_cases (h := h) s next a with ⟨error, heq⟩ | ⟨_, _, _, _, _, _,
        ⟨error, heq⟩ | ⟨result, heq⟩⟩
      · rw [heq] at hok
        exact nomatch hok
      · rw [heq] at hok
        exact nomatch hok
      · rw [heq] at hok ⊢
        cases result with
        | error error => exact nomatch hok
        | ok u => rfl

/-- A transition that fails leaves the ledger in memory as it was. -/
theorem transition_error {transition : Transition} {error : SupervisionError}
    (herror : (s.step h (.transition transition a)).1 = some (.error error)) :
    (s.step h (.transition transition a)).2.memory = s.memory := by
  unfold LedgerWorld.step durableTransition at herror ⊢
  dsimp only at herror ⊢
  cases hmemory : s.memory with
  | none => exact hmemory
  | some ledger =>
    rw [hmemory] at herror
    dsimp only at herror ⊢
    cases hpush : ledger.push h transition with
    | error error => exact hmemory
    | ok next =>
      rw [hpush] at herror
      dsimp only at herror ⊢
      rcases persist_cases (h := h) s next a with ⟨error, heq⟩ | ⟨_, _, _, _, _, _,
        ⟨error, heq⟩ | ⟨result, heq⟩⟩
      · rw [heq]
        exact hmemory
      · rw [heq]
        exact hmemory
      · rw [heq] at herror ⊢
        cases result with
        | error error => exact hmemory
        | ok u => exact nomatch herror

/-- What the store promises of every run from the first persist of a ledger. -/
structure Survives (h : EntryHash D) (s : LedgerWorld D) (steps : List LedgerStep) : Prop where
  /-- A load returns the committed ledger, or a quarantined continuation of it. -/
  loads : ∀ before, before <+: steps → ∀ readable a loaded,
    ((Runs.run (step h) s before).load h readable a).1 = .ok loaded →
    loaded = (Runs.run (step h) s before).committed
      ∨ loaded.quarantined = true ∧ (Runs.run (step h) s before).committed.Continues loaded
  /-- It returns one when the files can be read and replaced. -/
  returns : ∀ before, before <+: steps → ∀ a : PersistAnswers, a.ledger = .installed →
    a.head = .installed → ∃ loaded, ((Runs.run (step h) s before).load h true a).1 = .ok loaded
  /-- No committed entry and no committed quarantine is lost. -/
  permanent : ∀ before later, before ++ later <+: steps →
    Extends (Runs.run (step h) s before).committed (Runs.run (step h) s (before ++ later)).committed
  /-- No quarantine that has come into the ledger file is lost. -/
  quarantine : ∀ before later, before ++ later <+: steps →
    (Runs.run (step h) s before).ledgerFile.quarantined = true → ∀ readable a loaded,
    ((Runs.run (step h) s (before ++ later)).load h readable a).1 = .ok loaded →
    loaded.quarantined = true
  /-- An older copy of the ledger file is detected. -/
  rollback : ∀ before later, before ++ later <+: steps →
    (Runs.run (step h) s before).ledgerFile ≠ (Runs.run (step h) s (before ++ later)).committed →
    ∀ readable a loaded,
      ({ Runs.run (step h) s (before ++ later) with
        ledgerFile := (Runs.run (step h) s before).ledgerFile }.load h readable a).1 = .ok loaded →
      loaded.quarantined = true
  recorded : ∀ before, before <+: steps → ∀ transition a,
    ((Runs.run (step h) s before).step h (.transition transition a)).1 = some (.ok ()) →
    ((Runs.run (step h) s before).step h (.transition transition a)).2.memory
      = some ((Runs.run (step h) s before).step h (.transition transition a)).2.committed
  unchanged : ∀ before, before <+: steps → ∀ transition a error,
    ((Runs.run (step h) s before).step h (.transition transition a)).1 = some (.error error) →
    ((Runs.run (step h) s before).step h (.transition transition a)).2.memory
      = (Runs.run (step h) s before).memory

theorem kept_run (hfree : h.CollisionFree) (hk : Kept h s) {steps : List LedgerStep}
    (halong : Runs.Along (step h) Guarded s steps) :
    Kept h (Runs.run (step h) s steps)
      ∧ Extends s.committed (Runs.run (step h) s steps).committed
      ∧ (s.ledgerFile.quarantined = true →
        (Runs.run (step h) s steps).ledgerFile.quarantined = true) := by
  induction steps generalizing s with
  | nil => exact ⟨hk, .refl _, id⟩
  | cons a steps ih =>
    obtain ⟨hnext, hgrown, hdurable⟩ := hk.step hfree halong.1
    obtain ⟨hend, hlater, hkept⟩ := ih hnext halong.2
    exact ⟨hend, hgrown.trans hlater, fun hfile => hkept (hdurable hfile)⟩

/-- **The ledger survives crashes**: in a run in which no stale ledger records a quarantine or
misses the head file, and no ordinary entry replaces a quarantine that is in the ledger file only,
every load finds what was committed and what was quarantined. -/
theorem survives_along (hfree : h.CollisionFree) {ledger : SupervisorLedger D}
    (hv : ledger.Valid h) (steps : List LedgerStep)
    (halong : Runs.Along (step h) Guarded (started h ledger) steps) :
    Survives h (started h ledger) steps := by
  have hkept : ∀ before, before <+: steps →
      Kept h (Runs.run (step h) (started h ledger) before) := by
    rintro before ⟨rest, rfl⟩
    exact (kept_run hfree (kept_started hv) (Runs.Along.append.mp halong).1).1
  have hgrown : ∀ before later, before ++ later <+: steps →
      Extends (Runs.run (step h) (started h ledger) before).committed
        (Runs.run (step h) (started h ledger) (before ++ later)).committed
      ∧ ((Runs.run (step h) (started h ledger) before).ledgerFile.quarantined = true →
        (Runs.run (step h) (started h ledger) (before ++ later)).ledgerFile.quarantined = true) := by
    rintro before later hpre
    have hbefore := hkept before ((List.prefix_append before later).trans hpre)
    obtain ⟨rest, rfl⟩ := hpre
    rw [List.append_assoc] at halong
    have hlater := Runs.Along.append.mp (Runs.Along.append.mp halong).2
    rw [Runs.run_append]
    exact (kept_run hfree hbefore hlater.1).2
  refine ⟨?_, ?_, fun before later hpre => (hgrown before later hpre).1, ?_, ?_,
    fun _ _ _ _ => transition_ok, fun _ _ _ _ _ => transition_error⟩
  · intro before hpre readable a loaded hload
    exact (((hkept before hpre).files.load hfree readable a).2.2.2 loaded hload).2.imp_left And.left
  · intro before hpre a hledger hhead
    exact (hkept before hpre).files.exists_load a hledger hhead
  · intro before later hpre hfile readable a loaded hload
    rcases (((hkept _ hpre).files.load hfree readable a).2.2.2 loaded hload).2 with
      ⟨-, rfl⟩ | ⟨hquarantined, -⟩
    · exact (hgrown before later hpre).2 hfile
    · exact hquarantined
  · intro before later hpre hne readable a loaded hload
    have hbefore := (hkept before ((List.prefix_append before later).trans hpre)).files
    refine (hkept (before ++ later) hpre).files.rollback hfree hbefore.file ?_ hne hload
    exact hbefore.ahead.binding.symm.trans (hgrown before later hpre).1.continues.binding

/-! ### A lost entry -/

/-- The digest that keeps everything it is taken of. -/
def chainHash : EntryHash (List (ℕ × Transition)) :=
  ⟨[], fun (sequence, previous, transition) => (sequence, transition) :: previous⟩

theorem chainHash_collisionFree : chainHash.CollisionFree := by
  rintro ⟨sequence, previous, transition⟩ ⟨sequence', previous', transition'⟩ heq
  simp only [chainHash, List.cons.injEq, Prod.mk.injEq] at heq
  obtain ⟨⟨rfl, rfl⟩, rfl⟩ := heq
  rfl

/-- The ledger of one lobby with its first entry. -/
def begun {D : Type} (h : EntryHash D) : SupervisorLedger D where
  schemaVersion := SCHEMA_VERSION
  fence := ⟨"run-000000000001", ProtocolId.ofTail 1, 1, 1, ZERO_DIGEST⟩
  receiptIdDigest := ZERO_DIGEST
  receiptVerifier := ZERO_DIGEST
  workerSha256 := ZERO_DIGEST
  brokerSha256 := ZERO_DIGEST
  provenanceSha256 := ZERO_DIGEST
  artifactSetSha256 := ZERO_DIGEST
  storeInstanceIdSha256 := ZERO_DIGEST
  canonicalStatePathSha256 := ZERO_DIGEST
  publicOriginDigest := ZERO_DIGEST
  internalListenerDigest := ZERO_DIGEST
  receiptExpiresAt := 60000
  protectedAlpha := false
  policyProfileDigest := ZERO_DIGEST
  absoluteDeadline := 60000
  finalIoDeadline := 30000
  cleanupOnly := false
  quarantined := false
  identity := none
  transitions := [⟨1, h.zero, .reserved, h.hash (1, h.zero, .reserved)⟩]

theorem begun_valid {D : Type} [DecidableEq D] (h : EntryHash D) : (begun h).Valid h := by
  refine ⟨rfl, rfl, nofun, 1, h.hash (1, h.zero, .reserved), ?_⟩
  have hcheck : SupervisorLedger.checkEntry h ⟨0, h.zero, none, false, false⟩
      ⟨1, h.zero, .reserved, h.hash (1, h.zero, .reserved)⟩
      = some ⟨1, h.hash (1, h.zero, .reserved), none, false, false⟩ := by
    unfold SupervisorLedger.checkEntry
    rw [if_neg]
    · rfl
    · simp [SupervisorLedger.refusesIdentity]
  unfold SupervisorLedger.derive
  exact congrArg (· >>= fun derived => some derived) hcheck

def reservedLedger : SupervisorLedger (List (ℕ × Transition)) := begun chainHash

theorem reservedLedger_valid : reservedLedger.Valid chainHash := begun_valid chainHash

/-- A crash between the two files, and the next start. -/
theorem survives_along_crash : reservedLedger.Valid chainHash
    ∧ Survives chainHash (started chainHash reservedLedger)
      [.crash .cleanupOnly ⟨true, .installed, .failed⟩,
        .load true ⟨true, .installed, .installed⟩] := by
  refine ⟨reservedLedger_valid, survives_along chainHash_collisionFree reservedLedger_valid _
    ⟨fun ledger hmemory => ?_, trivial, trivial⟩⟩
  cases hmemory
  exact ⟨fun hstale => absurd reservedLedger_valid.lastHead hstale,
    fun _ hunaware => nomatch hunaware.1⟩

/-- The head is replaced but its persist reports an error, and the ledger that was taken back then
records a quarantine over it. -/
def overtakenSteps : List LedgerStep :=
  [.transition .cleanupOnly ⟨true, .installed, .failedInstalled⟩,
    .transition (.quarantined "delete_failed") ⟨true, .installed, .installed⟩]

theorem committed_entry_lost :
    ¬Survives chainHash (started chainHash reservedLedger) overtakenSteps := by
  intro h
  have hgrown := h.permanent (overtakenSteps.take 1) (overtakenSteps.drop 1) List.prefix_rfl
  exact absurd hgrown.continues.entries (by decide +kernel)

end LedgerWorld

end Spurfire
