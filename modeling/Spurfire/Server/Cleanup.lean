import Spurfire.Lib.Fallible
import Spurfire.Lib.Runs
import Spurfire.Server.Ledger

/-!
# The supervisor's cleanup

`run_cleanup_with_clock` (`supervision.rs`): under a durable ledger, the child network is deleted,
found absent twice, its custody erased, and only then the singleton lease released.

* `runCleanup_kept`: what one call on a ledger without `Released` keeps, whatever the broker, the
  clock and the files do.
* `kept_along`: so every run releases once, after a proof, while no call follows a release.

Time is that of the monotonic clock, in nanoseconds.
-/

namespace Spurfire

open Fallible

def MIN_ABSENCE_SEPARATION : ℕ := 5000000000

structure AbsenceObservation where
  providerStableId : String
  present : Bool
  fullyPaginated : Bool
  uncached : Bool
deriving DecidableEq

/-- A call to the credential broker, and what came of it. -/
inductive BrokerCall
  | delete (identity : SupervisedIdentity) (outcome : OperationOutcome)
  | observe (identity : SupervisedIdentity) (started finished : ℕ)
      (observation : Option AbsenceObservation)
  | erase (identity : SupervisedIdentity) (version : Option UInt64)
  | release (isOk : Bool)
deriving DecidableEq

/-- The pages show that the exact provider id is gone. -/
def AbsenceObservation.proves (observation : AbsenceObservation) (identity : SupervisedIdentity) :
    Bool :=
  !observation.present && observation.fullyPaginated && observation.uncached
    && observation.providerStableId == identity.providerStableId

namespace BrokerCall

def isRelease : BrokerCall → Bool
  | release _ => true
  | _ => false

/-- A failed delete, a failed or unproven observation, a failed or mismatched erase, a failed
release. -/
def isFault : BrokerCall → Bool
  | delete _ outcome => outcome == .failed
  | observe identity _ _ observation => !observation.any (·.proves identity)
  | erase identity version => version != some identity.vaultVersion
  | release isOk => !isOk

end BrokerCall

/-- What the environment says at one effect, and the time the effect takes. -/
structure CleanupAnswer where
  persist : PersistAnswers
  delete : OperationOutcome
  observation : Option AbsenceObservation
  erased : Option UInt64
  released : Bool
  elapsed : ℕ

/-- A broker call with the ledger and the earlier calls it was made over. -/
structure BrokerEntry (D : Type) where
  files : LedgerWorld D
  prior : List BrokerCall
  call : BrokerCall

/-- One call of the cleanup: the ledger with its files, the clock, and what the call has done. -/
structure CleanupWorld (D : Type) where
  files : LedgerWorld D
  time : ℕ
  log : List (BrokerEntry D)
  persistFailed : Bool
  answers : ℕ → CleanupAnswer
  turn : ℕ

namespace SupervisorLedger

variable {D : Type} (h : EntryHash D)

def hasReleased (ledger : SupervisorLedger D) : Bool :=
  ledger.transitions.any fun entry => entry.transition == .released

def isCleanup : Operation → Bool
  | .delete | .observeAbsence | .vaultErase | .leaseRelease => true
  | _ => false

def isProviderWrite : Operation → Bool
  | .create | .applyPolicy | .finalProviderIo => true
  | _ => false

def permits (ledger : SupervisorLedger D) (operation : Operation) (now : UnixMillis) :
    Except SupervisionError Unit :=
  if ledger.quarantined then .error .incompleteProof
  else if (!isCleanup operation && decide (ledger.absoluteDeadline ≤ now))
      || (isProviderWrite operation && decide (ledger.finalIoDeadline ≤ now)) then .error .deadline
  else if ledger.cleanupOnly && !isCleanup operation then .error .incompleteProof
  else .ok ()

end SupervisorLedger

namespace CleanupWorld

variable {D : Type} [DecidableEq D] (h : EntryHash D) (s : CleanupWorld D)

/-! ## Effects -/

def answer : CleanupAnswer := s.answers s.turn

def next : CleanupWorld D :=
  { s with time := s.time + s.answer.elapsed, turn := s.turn + 1 }

def called (call : BrokerCall) : CleanupWorld D :=
  { s.next with log := s.log ++ [⟨s.files, s.log.map (·.call), call⟩] }

abbrev Cleanup (D α : Type) := Prog (CleanupWorld D) SupervisionError α

def currentLedger : Cleanup D (SupervisorLedger D) := act fun s =>
  match s.files.memory with
  | none => (.error .incompleteProof, s)
  | some ledger => (.ok ledger, s)

def durableTransition (transition : Transition) : Cleanup D Unit := act fun s =>
  match s.files.memory with
  | none => (.error .incompleteProof, s)
  | some ledger =>
    match s.files.durableTransition h ledger transition s.answer.persist with
    | (.ok (), files) => (.ok (), { s.next with files := files })
    | (.error .persistence, files) =>
      (.error .persistence, { s.next with files := files, persistFailed := true })
    | (.error error, files) => (.error error, { s.next with files := files })

def quarantine (reason : String) : Cleanup D Unit := do
  durableTransition h (.quarantined reason)
  throw .incompleteProof

def deleteExact (identity : SupervisedIdentity) : Cleanup D OperationOutcome := act fun s =>
  (.ok s.answer.delete, s.called (.delete identity s.answer.delete))

def observeExact (identity : SupervisedIdentity) : Cleanup D (Option AbsenceObservation) :=
  act fun s => (.ok s.answer.observation,
    s.called (.observe identity s.time s.next.time s.answer.observation))

def eraseVaultCas (identity : SupervisedIdentity) : Cleanup D (Option UInt64) := act fun s =>
  (.ok s.answer.erased, s.called (.erase identity s.answer.erased))

def releaseLease : Cleanup D Bool := act fun s =>
  (.ok s.answer.released, s.called (.release s.answer.released))

def mark : Cleanup D ℕ := act fun s => (.ok s.time, s)

/-- Sleeps, however long the clock makes of it. -/
def waitUntil : Cleanup D Unit := act fun s => (.ok (), s.next)

def elapsed (mark : ℕ) : Cleanup D ℕ := act fun s => (.ok (s.time - mark), s)

/-! ## The cleanup -/

def boundIdentity : Cleanup D SupervisedIdentity := do
  let ledger ← currentLedger
  match ledger.identity with
  | none => throw .incompleteProof
  | some identity => pure identity

def deleteNetwork : Cleanup D Unit := do
  durableTransition h .cleanupOnly
  durableTransition h (.intent .delete)
  let identity ← boundIdentity
  let delete ← deleteExact identity
  durableTransition h (.outcome .delete delete)
  (if delete = .failed then quarantine h "delete_failed" else pure ())

/-- The second observation begins long enough after the first one. -/
def separated (completed : ℕ) : Cleanup D Unit := do
  waitUntil
  let elapsed ← elapsed completed
  (if elapsed < MIN_ABSENCE_SEPARATION then quarantine h "absence_interval_too_short" else pure ())

/-- One turn of the loop over the two observations, without the wait. -/
def observeAbsence (identity : SupervisedIdentity) (ordinal : UInt8) : Cleanup D Unit := do
  durableTransition h (.intent .observeAbsence)
  let observation ← observeExact identity
  match observation with
  | none => do
    durableTransition h (.outcome .observeAbsence .unknown)
    quarantine h "absence_observation_unknown"
  | some observation => do
    durableTransition h (.outcome .observeAbsence .succeeded)
    if observation.proves identity = false then quarantine h "absence_not_proven"
    else durableTransition h (.absenceObserved ordinal observation.providerStableId true true)

def eraseCustody (identity : SupervisedIdentity) : Cleanup D Unit := do
  durableTransition h (.intent .vaultErase)
  let erased ← eraseVaultCas identity
  match erased with
  | none => do
    durableTransition h (.outcome .vaultErase .unknown)
    quarantine h "vault_erasure_unknown"
  | some erasedVersion => do
    durableTransition h (.outcome .vaultErase .succeeded)
    if erasedVersion ≠ identity.vaultVersion then quarantine h "vault_version_mismatch"
    else durableTransition h (.vaultTombstoneReadback erasedVersion)

def releaseSingleton : Cleanup D Unit := do
  durableTransition h (.intent .leaseRelease)
  let released ← releaseLease
  if released = false then do
    durableTransition h (.outcome .leaseRelease .unknown)
    quarantine h "lease_release_unknown"
  else do
    durableTransition h (.outcome .leaseRelease .succeeded)
    durableTransition h .released

def runCleanup (now : UnixMillis) : Cleanup D Unit := do
  let ledger ← currentLedger
  match ledger.permits .delete now with
  | .error error => throw error
  | .ok () => do
    deleteNetwork h
    let identity ← boundIdentity
    observeAbsence h identity 1
    let completed ← mark
    separated h completed
    observeAbsence h identity 2
    eraseCustody h identity
    releaseSingleton h

end CleanupWorld

/-! ## What a call keeps -/

namespace SupervisorLedger

variable {D : Type} {h : EntryHash D} {ledger : SupervisorLedger D} {transition : Transition}

/-- The transitions of the entries. -/
def said (ledger : SupervisorLedger D) : List Transition := ledger.transitions.map (·.transition)

theorem hasReleased_iff : ledger.hasReleased = true ↔ .released ∈ ledger.said := by
  simp [hasReleased, said]

/-- A live ledger records everything but an identity. -/
theorem push_live (hlive : ledger.quarantined = false)
    (hbind : ∀ identity, transition ≠ .identityBound identity) :
    ∃ next, ledger.push h transition = .ok next ∧ next.identity = ledger.identity
      ∧ next.quarantined = transition.isQuarantined ∧ next.said = ledger.said ++ [transition] := by
  have hrefuses : refusesIdentity ledger.identity transition = false := by
    cases transition with
    | identityBound identity => exact absurd rfl (hbind identity)
    | _ => rfl
  have hbinds : bindsIdentity ledger.identity transition = ledger.identity := by
    cases transition with
    | identityBound identity => exact absurd rfl (hbind identity)
    | _ => rfl
  unfold push
  rw [if_neg (by simp [hlive]), if_neg (by simp [hrefuses])]
  exact ⟨_, rfl, hbinds, by simp [hlive], by simp [said]⟩

end SupervisorLedger

open SupervisorLedger

/-- What the ledger says when the lease is released, after what it said before the call. -/
def proofRecord (identity : SupervisedIdentity) (delete : OperationOutcome) : List Transition :=
  [.cleanupOnly, .intent .delete, .outcome .delete delete,
    .intent .observeAbsence, .outcome .observeAbsence .succeeded,
    .absenceObserved 1 identity.providerStableId true true,
    .intent .observeAbsence, .outcome .observeAbsence .succeeded,
    .absenceObserved 2 identity.providerStableId true true,
    .intent .vaultErase, .outcome .vaultErase .succeeded,
    .vaultTombstoneReadback identity.vaultVersion, .intent .leaseRelease]

namespace BrokerEntry

variable {D : Type}

/-- The call is not made over a ledger with `Released`. -/
def Clean (entry : BrokerEntry D) : Prop :=
  ∀ ledger, entry.files.memory = some ledger → ledger.hasReleased = false

/-- The call is made after a delete that did not fail, two observations of absence far enough apart
and an erase, all of the bound identity and all durably recorded since the call began. -/
def Proven (start : SupervisorLedger D) (entry : BrokerEntry D) : Prop :=
  ∃ identity delete first second t₀ t₁ t₂ t₃, start.identity = some identity
    ∧ delete ≠ .failed ∧ first.proves identity = true ∧ second.proves identity = true
    ∧ t₁ + MIN_ABSENCE_SEPARATION ≤ t₂
    ∧ entry.prior = [.delete identity delete, .observe identity t₀ t₁ (some first),
      .observe identity t₂ t₃ (some second), .erase identity (some identity.vaultVersion)]
    ∧ entry.files.memory = some entry.files.committed
    ∧ entry.files.committed.said = start.said ++ proofRecord identity delete

end BrokerEntry

namespace CleanupWorld

variable {D : Type} [DecidableEq D] {h : EntryHash D}

/-- What a call on the ledger `start` keeps. -/
structure Kept (start : SupervisorLedger D) (log : List (BrokerEntry D)) (persistFailed : Bool)
    (after : LedgerWorld D) : Prop where
  clean : ∀ entry ∈ log, entry.Clean
  proven : ∀ entry ∈ log, entry.call.isRelease = true → entry.Proven start
  once : (log.filter (·.call.isRelease)).length ≤ 1
  /-- After a fault the ledger is durably quarantined, unless a persist failed. -/
  fault : (∃ entry ∈ log, entry.call.isFault = true) → persistFailed = true
    ∨ ∃ ledger, after.memory = some ledger ∧ after.committed = ledger ∧ ledger.quarantined = true

/-- The world after a call. -/
abbrev Left (start : SupervisorLedger D) (s : CleanupWorld D) : Prop :=
  Kept start s.log s.persistFailed s.files

/-- A live ledger that says `recorded` more than `start`, and the broker calls made so far. -/
structure At (start : SupervisorLedger D) (s : CleanupWorld D) (recorded : List Transition)
    (calls : List BrokerCall) : Prop where
  ledger : ∃ ledger, s.files.memory = some ledger ∧ ledger.identity = start.identity
    ∧ ledger.quarantined = false ∧ ledger.said = start.said ++ recorded
    ∧ (recorded ≠ [] → s.files.committed = ledger)
  made : s.log.map (·.call) = calls
  unreleased : .released ∉ start.said ++ recorded
  clean : ∀ entry ∈ s.log, entry.Clean
  proven : ∀ entry ∈ s.log, entry.call.isRelease = true → entry.Proven start
  once : (calls.filter (·.isRelease)).length ≤ 1

variable {start : SupervisorLedger D} {s : CleanupWorld D} {recorded : List Transition}
  {calls : List BrokerCall} {transition : Transition}

omit [DecidableEq D] in
theorem At.once_log (hat : At start s recorded calls) :
    (s.log.filter (·.call.isRelease)).length ≤ 1 := by
  have honce := hat.once
  rw [← hat.made, List.filter_map, List.length_map] at honce
  exact honce

omit [DecidableEq D] in
/-- Without a fault everything is in order. -/
theorem At.left (hat : At start s recorded calls) (hfault : ∀ call ∈ calls, call.isFault = false) :
    Left start s := by
  refine ⟨hat.clean, hat.proven, hat.once_log, ?_⟩
  rintro ⟨entry, hentry, hfaulty⟩
  have hmem : entry.call ∈ calls := by
    rw [← hat.made]
    exact List.mem_map_of_mem hentry
  exact nomatch (hfault _ hmem).symm.trans hfaulty

/-! ### Durable transitions -/

/-- A transition is recorded, or its persist fails. -/
theorem durableTransition_cases {ledger next : SupervisorLedger D}
    (hpush : ledger.push h transition = .ok next) (files : LedgerWorld D) (a : PersistAnswers) :
    (∃ files', files.durableTransition h ledger transition a = (.error .persistence, files'))
      ∨ ∃ files', files.durableTransition h ledger transition a = (.ok (), files')
        ∧ files'.memory = some next ∧ files'.committed = next := by
  unfold LedgerWorld.durableTransition
  rw [hpush]
  dsimp only
  rcases LedgerWorld.persist_cases (h := h) files next a with ⟨error, heq⟩ | ⟨_, _, _, _, _, _,
    ⟨error, heq⟩ | ⟨result, heq⟩⟩
  · rw [heq]
    exact .inl ⟨_, rfl⟩
  · rw [heq]
    exact .inl ⟨_, rfl⟩
  · rw [heq]
    cases result with
    | error error => exact .inl ⟨_, rfl⟩
    | ok u => exact .inr ⟨_, rfl, rfl, rfl⟩

/-- A durable transition where the ledger is live: `Q` where it is recorded. -/
theorem ends_durable (hat : At start s recorded calls)
    (hbind : ∀ identity, transition ≠ .identityBound identity) {Q : Unit → CleanupWorld D → Prop}
    (hQ : ∀ s' ledger, s'.files.memory = some ledger → s'.files.committed = ledger →
      ledger.identity = start.identity → ledger.quarantined = transition.isQuarantined →
      ledger.said = start.said ++ (recorded ++ [transition]) → s'.log = s.log →
      s.time ≤ s'.time → Q () s') :
    Ends (fun _ => Left start) s (durableTransition h transition) Q := by
  obtain ⟨ledger, hmemory, hidentity, hlive, hsaid, -⟩ := hat.ledger
  obtain ⟨next, hpush, hnextIdentity, hnextLive, hnextSaid⟩ := push_live (h := h) hlive hbind
  have hfailed : ∀ s' : CleanupWorld D, s'.log = s.log → s'.persistFailed = true →
      Left start s' := by
    intro s' hlog hfailed
    unfold Left
    rw [hlog, hfailed]
    exact ⟨hat.clean, hat.proven, hat.once_log, fun _ => .inl rfl⟩
  refine ends_act (fun u s' heq => ?_) fun error s' heq => ?_
  all_goals
    rw [hmemory] at heq
    dsimp only at heq
    rcases durableTransition_cases hpush s.files s.answer.persist with
      ⟨files', hresult⟩ | ⟨files', hresult, hnext, hcommitted⟩
    all_goals
      rw [hresult] at heq
      cases heq
  · refine hQ _ next hnext hcommitted (hnextIdentity.trans hidentity) hnextLive ?_ rfl
      (Nat.le_add_right _ _)
    rw [hnextSaid, hsaid, List.append_assoc]
  · exact hfailed _ rfl rfl

theorem ends_record (hat : At start s recorded calls)
    (hbind : ∀ identity, transition ≠ .identityBound identity)
    (hlive : transition.isQuarantined = false) (hreleased : transition ≠ .released)
    {Q : Unit → CleanupWorld D → Prop}
    (hQ : ∀ s', At start s' (recorded ++ [transition]) calls → s.time ≤ s'.time → Q () s') :
    Ends (fun _ => Left start) s (durableTransition h transition) Q := by
  refine ends_durable hat hbind fun s' ledger hmemory hcommitted hidentity hquarantined hsaid hlog
    htime => hQ s' ⟨⟨ledger, hmemory, hidentity, hquarantined.trans hlive, hsaid,
      fun _ => hcommitted⟩, ?_, ?_, ?_, ?_, hat.once⟩ htime
  · rw [hlog]
    exact hat.made
  · rw [← List.append_assoc, List.mem_append, List.mem_singleton]
    exact fun hmem => hmem.elim hat.unreleased fun heq => hreleased heq.symm
  · rw [hlog]
    exact hat.clean
  · rw [hlog]
    exact hat.proven

theorem ends_quarantine (hat : At start s recorded calls) {reason : String}
    {Q : Unit → CleanupWorld D → Prop} :
    Ends (fun _ => Left start) s (quarantine h reason) Q := by
  refine ends_bind (ends_durable hat ?_ fun s' ledger hmemory hcommitted _ hquarantined _ hlog _ =>
    ends_throw ?_)
  · intro identity heq
    exact nomatch heq
  · unfold Left
    rw [hlog]
    exact ⟨hat.clean, hat.proven, hat.once_log,
      fun _ => .inr ⟨ledger, hmemory, hcommitted, hquarantined⟩⟩

/-! ### Broker calls -/

omit [DecidableEq D] in
theorem At.next (hat : At start s recorded calls) : At start s.next recorded calls :=
  ⟨hat.ledger, hat.made, hat.unreleased, hat.clean, hat.proven, hat.once⟩

omit [DecidableEq D] in
/-- A broker call joins the log, a release with its proof. -/
theorem At.called (hat : At start s recorded calls) (call : BrokerCall)
    (hrelease : call.isRelease = true →
      (∀ c ∈ calls, c.isRelease = false) ∧ BrokerEntry.Proven start ⟨s.files, calls, call⟩) :
    At start (s.called call) recorded (calls ++ [call]) := by
  obtain ⟨ledger, hmemory, -, -, hsaid, -⟩ := hat.ledger
  refine ⟨hat.ledger, ?_, hat.unreleased, fun entry hmem => ?_, fun entry hmem hreleases => ?_, ?_⟩
  · change (s.log ++ [_]).map _ = _
    rw [List.map_append, hat.made]
    rfl
  · rcases List.mem_append.mp hmem with hmem | hmem
    · exact hat.clean entry hmem
    · rw [List.mem_singleton.mp hmem]
      intro ledger' hledger'
      cases hmemory.symm.trans hledger'
      refine Bool.eq_false_iff.mpr fun hreleased => hat.unreleased ?_
      rw [← hsaid]
      exact hasReleased_iff.mp hreleased
  · rcases List.mem_append.mp hmem with hmem | hmem
    · exact hat.proven entry hmem hreleases
    · rw [List.mem_singleton.mp hmem] at hreleases ⊢
      rw [hat.made]
      exact (hrelease hreleases).2
  · rw [List.filter_append, List.length_append]
    cases hcall : call.isRelease with
    | false => simpa [hcall] using hat.once
    | true =>
      have hnone : calls.filter (·.isRelease) = [] := by
        refine List.filter_eq_nil_iff.mpr fun c hc => ?_
        rw [(hrelease hcall).1 c hc]
        exact Bool.false_ne_true
      rw [hnone]
      simp [hcall]

omit [DecidableEq D] in
theorem At.called_other (hat : At start s recorded calls) (call : BrokerCall)
    (hother : call.isRelease = false) : At start (s.called call) recorded (calls ++ [call]) :=
  hat.called call fun hrelease => nomatch hother.symm.trans hrelease

omit [DecidableEq D] in
theorem ends_boundIdentity (hat : At start s recorded calls)
    (hfault : ∀ call ∈ calls, call.isFault = false) {Q : SupervisedIdentity → CleanupWorld D → Prop}
    (hQ : ∀ identity, start.identity = some identity → Q identity s) :
    Ends (fun _ => Left start) s boundIdentity Q := by
  obtain ⟨ledger, hmemory, hidentity, -⟩ := hat.ledger
  refine ends_bind (ends_act (fun ledger' s' heq => ?_) fun error s' heq => ?_)
  · rw [hmemory] at heq
    cases heq
    cases hbound : ledger.identity with
    | none => exact ends_throw (hat.left hfault)
    | some identity => exact ends_pure (hQ identity (hidentity.symm.trans hbound))
  · rw [hmemory] at heq
    exact nomatch heq

/-! ### The stages -/

/-- The network is deleted, or the call ends in order. -/
theorem ends_deleteNetwork (hat : At start s [] []) {Q : Unit → CleanupWorld D → Prop}
    (hQ : ∀ s' identity delete, start.identity = some identity → delete ≠ .failed →
      At start s' [.cleanupOnly, .intent .delete, .outcome .delete delete]
        [.delete identity delete] → Q () s') :
    Ends (fun _ => Left start) s (deleteNetwork h) Q := by
  refine ends_bind (ends_record hat (by simp) rfl (by simp) fun s₁ hat₁ _ => ?_)
  refine ends_bind (ends_record hat₁ (by simp) rfl (by simp) fun s₂ hat₂ _ => ?_)
  refine ends_bind (ends_boundIdentity hat₂ (by simp) fun identity hidentity => ?_)
  refine ends_bind (ends_act (fun delete s₃ heq => ?_) fun error s₃ heq => nomatch heq)
  cases heq
  have hat₃ := hat₂.called_other (.delete identity s₂.answer.delete) rfl
  refine ends_bind (ends_record hat₃ (by simp) rfl (by simp) fun s₄ hat₄ _ => ?_)
  refine ends_ite (fun hfailed => ends_quarantine hat₄) fun hdone => ends_pure ?_
  exact hQ s₄ identity _ hidentity hdone hat₄

theorem ends_observeAbsence (hat : At start s recorded calls) {identity : SupervisedIdentity}
    {ordinal : UInt8} {Q : Unit → CleanupWorld D → Prop}
    (hQ : ∀ s' started finished observation, observation.proves identity = true →
      s.time ≤ started → finished ≤ s'.time →
      At start s' (recorded ++ [.intent .observeAbsence, .outcome .observeAbsence .succeeded,
          .absenceObserved ordinal identity.providerStableId true true])
        (calls ++ [.observe identity started finished (some observation)]) → Q () s') :
    Ends (fun _ => Left start) s (observeAbsence h identity ordinal) Q := by
  refine ends_bind (ends_record hat (by simp) rfl (by simp) fun s₁ hat₁ htime₁ => ?_)
  refine ends_bind (ends_act (fun observation s₂ heq => ?_) fun error s₂ heq => nomatch heq)
  cases heq
  have hat₂ := hat₁.called_other
    (.observe identity s₁.time s₁.next.time s₁.answer.observation) rfl
  cases hobservation : s₁.answer.observation with
  | none =>
    rw [hobservation] at hat₂
    exact ends_bind (ends_record hat₂ (by simp) rfl (by simp) fun s₃ hat₃ _ => ends_quarantine hat₃)
  | some observation =>
    rw [hobservation] at hat₂
    refine ends_bind (ends_record hat₂ (by simp) rfl (by simp) fun s₃ hat₃ htime₃ => ?_)
    refine ends_ite (fun _ => ends_quarantine hat₃) fun hproves => ?_
    have hproves := Bool.eq_true_of_not_eq_false hproves
    have hid : observation.providerStableId = identity.providerStableId := by
      simp only [AbsenceObservation.proves, Bool.and_eq_true, beq_iff_eq] at hproves
      exact hproves.2
    refine ends_record hat₃ (by simp) rfl (by simp) fun s₄ hat₄ htime₄ => ?_
    rw [hid] at hat₄
    refine hQ s₄ s₁.time s₁.next.time observation hproves htime₁ (le_trans htime₃ htime₄) ?_
    simpa only [List.append_assoc, List.cons_append, List.nil_append] using hat₄

theorem ends_separated (hat : At start s recorded calls) {completed : ℕ}
    {Q : Unit → CleanupWorld D → Prop}
    (hQ : ∀ s', completed + MIN_ABSENCE_SEPARATION ≤ s'.time → At start s' recorded calls →
      Q () s') :
    Ends (fun _ => Left start) s (separated h completed) Q := by
  refine ends_bind (ends_act (fun _ s₁ heq => ?_) fun error s₁ heq => nomatch heq)
  cases heq
  refine ends_bind (ends_act (fun elapsed s₂ heq => ?_) fun error s₂ heq => nomatch heq)
  cases heq
  refine ends_ite (fun _ => ends_quarantine hat.next) fun hlong => ends_pure ?_
  refine hQ _ ?_ hat.next
  have : 0 < MIN_ABSENCE_SEPARATION := by decide
  omega

theorem ends_eraseCustody (hat : At start s recorded calls) {identity : SupervisedIdentity}
    {Q : Unit → CleanupWorld D → Prop}
    (hQ : ∀ s', At start s' (recorded ++ [.intent .vaultErase, .outcome .vaultErase .succeeded,
        .vaultTombstoneReadback identity.vaultVersion])
      (calls ++ [.erase identity (some identity.vaultVersion)]) → Q () s') :
    Ends (fun _ => Left start) s (eraseCustody h identity) Q := by
  refine ends_bind (ends_record hat (by simp) rfl (by simp) fun s₁ hat₁ _ => ?_)
  refine ends_bind (ends_act (fun erased s₂ heq => ?_) fun error s₂ heq => nomatch heq)
  cases heq
  have hat₂ := hat₁.called_other (.erase identity s₁.answer.erased) rfl
  cases herased : s₁.answer.erased with
  | none =>
    rw [herased] at hat₂
    exact ends_bind (ends_record hat₂ (by simp) rfl (by simp) fun s₃ hat₃ _ => ends_quarantine hat₃)
  | some version =>
    rw [herased] at hat₂
    refine ends_bind (ends_record hat₂ (by simp) rfl (by simp) fun s₃ hat₃ _ => ?_)
    refine ends_ite (fun _ => ends_quarantine hat₃) fun hsame => ?_
    rw [not_not.mp hsame] at hat₃ ⊢
    refine ends_record hat₃ (by simp) rfl (by simp) fun s₄ hat₄ _ => hQ s₄ ?_
    simpa only [List.append_assoc, List.cons_append, List.nil_append] using hat₄

/-- The lease is released over its proof, and the call ends in order. -/
theorem ends_releaseSingleton (hat : At start s recorded calls)
    (hfault : ∀ call ∈ calls, call.isFault = false ∧ call.isRelease = false)
    (hproven : ∀ (s' : CleanupWorld D) call, At start s' (recorded ++ [.intent .leaseRelease]) calls →
      BrokerEntry.Proven start ⟨s'.files, calls, call⟩) :
    Ends (fun _ => Left start) s (releaseSingleton h) fun _ => Left start := by
  refine ends_bind (ends_record hat (by simp) rfl (by simp) fun s₁ hat₁ _ => ?_)
  refine ends_bind (ends_act (fun released s₂ heq => ?_) fun error s₂ heq => nomatch heq)
  cases heq
  have hat₂ := hat₁.called (.release s₁.answer.released)
    fun _ => ⟨fun call hcall => (hfault call hcall).2, hproven s₁ _ hat₁⟩
  refine ends_ite (fun _ => ?_) fun hreleased => ?_
  · exact ends_bind (ends_record hat₂ (by simp) rfl (by simp) fun s₃ hat₃ _ => ends_quarantine hat₃)
  · refine ends_bind (ends_record hat₂ (by simp) rfl (by simp) fun s₃ hat₃ _ => ?_)
    have hleft := hat₃.left fun call hcall => by
      rcases List.mem_append.mp hcall with hcall | hcall
      · exact (hfault call hcall).1
      · rw [List.mem_singleton.mp hcall, Bool.eq_true_of_not_eq_false hreleased]
        rfl
    refine ends_durable hat₃ (by simp) fun s₄ ledger _ _ _ _ _ hlog _ => ?_
    unfold Left
    rw [hlog]
    refine ⟨hleft.clean, hleft.proven, hleft.once, fun hfaulty => ?_⟩
    obtain ⟨entry, hentry, hfaulty⟩ := hfaulty
    have hmem := List.mem_map_of_mem (f := BrokerEntry.call) hentry
    rw [hat₃.made] at hmem
    rcases List.mem_append.mp hmem with hmem | hmem
    · exact nomatch (hfault _ hmem).1.symm.trans hfaulty
    · rw [List.mem_singleton.mp hmem, Bool.eq_true_of_not_eq_false hreleased] at hfaulty
      exact nomatch hfaulty

/-- **One call of the cleanup**, on a ledger without `Released`: the lease is released at most once
and over its proof, every fault leaves a durable quarantine or a failed persist. -/
theorem runCleanup_kept (hmemory : s.files.memory = some start)
    (hunreleased : start.hasReleased = false) (hlog : s.log = []) (now : UnixMillis) :
    Ends (fun _ => Left start) s (runCleanup h now) fun _ => Left start := by
  have hnothing : Left start s := by
    unfold Left
    rw [hlog]
    exact ⟨List.forall_mem_nil _, List.forall_mem_nil _, Nat.zero_le _, by simp⟩
  refine ends_bind (ends_act (fun ledger s₁ heq => ?_) fun error s₁ heq => ?_)
  · rw [hmemory] at heq
    cases heq
    cases hpermits : start.permits .delete now with
    | error error => exact ends_throw hnothing
    | ok _ =>
      have hlive : start.quarantined = false := by
        unfold permits at hpermits
        split_ifs at hpermits with hquarantined
        exact Bool.eq_false_iff.mpr hquarantined
      have hnone : Transition.released ∉ start.said := fun hmem =>
        nomatch hunreleased.symm.trans (hasReleased_iff.mpr hmem)
      have hat : At start s [] [] := by
        refine ⟨⟨start, hmemory, rfl, hlive, (List.append_nil _).symm, fun h => absurd rfl h⟩, ?_, ?_,
          ?_, ?_, Nat.zero_le _⟩
        · rw [hlog]
          rfl
        · rwa [List.append_nil]
        · rw [hlog]
          exact List.forall_mem_nil _
        · rw [hlog]
          exact List.forall_mem_nil _
      refine ends_bind (ends_deleteNetwork hat fun s₁ identity delete hidentity hdelete hat₁ => ?_)
      have hdeleted : (BrokerCall.delete identity delete).isFault = false := by
        simpa [BrokerCall.isFault] using hdelete
      refine ends_bind (ends_boundIdentity hat₁ (by simpa using hdeleted) fun bound hbound => ?_)
      cases hidentity.symm.trans hbound
      refine ends_bind (ends_observeAbsence hat₁ fun s₂ t₀ t₁ first hfirst _ htime hat₂ => ?_)
      refine ends_bind (ends_act (fun completed s₃ heq => ?_) fun error s₃ heq => nomatch heq)
      cases heq
      refine ends_bind (ends_separated hat₂ fun s₃ hapart hat₃ => ?_)
      refine ends_bind (ends_observeAbsence hat₃ fun s₄ t₂ t₃ second hsecond hlater _ hat₄ => ?_)
      refine ends_bind (ends_eraseCustody hat₄ fun s₅ hat₅ => ?_)
      refine ends_releaseSingleton hat₅ ?_ fun s₆ call hat₆ => ?_
      · simp [BrokerCall.isFault, BrokerCall.isRelease, hdelete, hfirst, hsecond]
      · obtain ⟨last, hlast, -, -, hsaid, hcommitted⟩ := hat₆.ledger
        have hcommitted := hcommitted (by simp)
        refine ⟨identity, delete, first, second, t₀, t₁, t₂, t₃, hidentity, hdelete, hfirst, hsecond,
          ?_, rfl, ?_, ?_⟩
        · exact le_trans (Nat.add_le_add_right htime _) (le_trans hapart hlater)
        · rw [hlast, hcommitted]
        · rw [hcommitted, hsaid]
          rfl
  · rw [hmemory] at heq
    exact nomatch heq

end CleanupWorld

/-! ## Runs of a supervisor -/

/-- A finished call of the cleanup. -/
structure CleanupRecord (D : Type) where
  start : SupervisorLedger D
  log : List (BrokerEntry D)
  persistFailed : Bool
  after : LedgerWorld D

structure SupervisorRun (D : Type) where
  files : LedgerWorld D
  time : ℕ
  calls : List (CleanupRecord D)

namespace SupervisorRun

variable {D : Type} [DecidableEq D] (h : EntryHash D)

inductive SupervisorStep
  | cleanup (now : UnixMillis) (answers : ℕ → CleanupAnswer)
  /-- Another transition of the ledger, a crash or a start. -/
  | ledger (step : LedgerWorld.LedgerStep)

def step (s : SupervisorRun D) : SupervisorStep →
    Option (Except SupervisionError Unit) × SupervisorRun D
  | .cleanup now answers =>
    match s.files.memory with
    | none => (none, s)
    | some start =>
      let (result, w) := exec (CleanupWorld.runCleanup h now) ⟨s.files, s.time, [], false, answers, 0⟩
      (some result, ⟨w.files, w.time, s.calls ++ [⟨start, w.log, w.persistFailed, w.files⟩]⟩)
  | .ledger a =>
    let (result, files) := s.files.step h a
    (result, { s with files := files })

def brokerLog (s : SupervisorRun D) : List (BrokerEntry D) := s.calls.flatMap (·.log)

def leaseReleased (s : SupervisorRun D) : Bool := s.brokerLog.any (·.call == .release true)

/-- No cleanup begins after a release has succeeded, or over a ledger that says so. -/
def BeforeRelease (s : SupervisorRun D) : SupervisorStep → Prop
  | .cleanup _ _ => s.leaseReleased = false
    ∧ ∀ ledger, s.files.memory = some ledger → ledger.hasReleased = false
  | .ledger _ => True

/-- Every call was in order, and the lease was released at most once. -/
structure Kept (s : SupervisorRun D) : Prop where
  calls : ∀ record ∈ s.calls,
    CleanupWorld.Kept record.start record.log record.persistFailed record.after
  once : (s.brokerLog.filter (·.call == .release true)).length ≤ 1

variable {h} {s : SupervisorRun D}

theorem Kept.step (hk : Kept s) {a : SupervisorStep} (hbefore : s.BeforeRelease a) :
    Kept (s.step h a).2 := by
  cases a with
  | ledger a => exact ⟨hk.calls, hk.once⟩
  | cleanup now answers =>
    obtain ⟨hnone, hunreleased⟩ := hbefore
    unfold SupervisorRun.step
    dsimp only
    cases hmemory : s.files.memory with
    | none => exact hk
    | some start =>
      dsimp only
      have hends := CleanupWorld.runCleanup_kept (h := h)
        (s := ⟨s.files, s.time, [], false, answers, 0⟩) hmemory (hunreleased start hmemory) rfl now
      unfold Ends at hends
      have hkept : ∀ result w,
          exec (CleanupWorld.runCleanup h now) ⟨s.files, s.time, [], false, answers, 0⟩ = (result, w) →
          CleanupWorld.Left start w := by
        intro result w hexec
        rw [hexec] at hends
        cases result with
        | ok u => exact hends
        | error error => exact hends
      rcases hexec : exec (CleanupWorld.runCleanup h now)
          (⟨s.files, s.time, [], false, answers, 0⟩ : CleanupWorld D) with ⟨result, w⟩
      have hleft := hkept result w hexec
      refine ⟨fun record hrecord => ?_, ?_⟩
      · rcases List.mem_append.mp hrecord with hrecord | hrecord
        · exact hk.calls record hrecord
        · rw [List.mem_singleton.mp hrecord]
          exact hleft
      · -- the log before has no successful release, the call's log at most one release
        have hprior : s.brokerLog.filter (·.call == .release true) = [] := by
          rw [List.filter_eq_nil_iff]
          intro entry hentry hreleased
          exact nomatch hnone.symm.trans (List.any_eq_true.mpr ⟨entry, hentry, hreleased⟩)
        have hnow : (w.log.filter (·.call == .release true)).length ≤ 1 := by
          refine le_trans (List.Sublist.length_le ?_) hleft.once
          refine List.monotone_filter_right w.log fun entry hreleased => ?_
          rw [beq_iff_eq.mp hreleased]
          rfl
        unfold brokerLog
        rw [List.flatMap_append, List.filter_append, List.length_append]
        change (s.brokerLog.filter _).length + _ ≤ 1
        rw [hprior]
        simpa using hnow

/-- **The lease is released once, after a proof**: in a run in which no cleanup follows a successful
release, every call of the cleanup is in order. -/
theorem kept_along (files : LedgerWorld D) (time : ℕ) (steps : List SupervisorStep)
    (halong : Runs.Along (step h) BeforeRelease ⟨files, time, []⟩ steps) :
    Kept (Runs.run (step h) ⟨files, time, []⟩ steps) := by
  have hstep : ∀ (s : SupervisorRun D) (a : SupervisorStep), s.BeforeRelease a → Kept s →
      Kept (s.step h a).2 := fun _ _ hbefore hk => hk.step hbefore
  exact Runs.run_invariant_along hstep ⟨List.forall_mem_nil _, Nat.zero_le _⟩ halong

/-! ### A second cleanup -/

def goneObservation : AbsenceObservation := ⟨"tailnet-1", false, true, true⟩

/-- Everything works, and takes five seconds. -/
def goodAnswer : CleanupAnswer :=
  ⟨⟨true, .installed, .installed⟩, .succeeded, some goneObservation, some 1, true, 5000000000⟩

def boundSteps : List SupervisorStep :=
  [.ledger (.transition (.identityBound ⟨"tailnet-1", "one.ts.net", 1⟩)
    ⟨true, .installed, .installed⟩)]

def cleanupStep : SupervisorStep := .cleanup 1 fun _ => goodAnswer

def startedFiles : LedgerWorld (List (ℕ × Transition)) :=
  LedgerWorld.started LedgerWorld.chainHash LedgerWorld.reservedLedger

theorem kept_along_cleanup :
    Runs.Along (step LedgerWorld.chainHash) BeforeRelease ⟨startedFiles, 0, []⟩
        (boundSteps ++ [cleanupStep])
      ∧ Kept (Runs.run (step LedgerWorld.chainHash) ⟨startedFiles, 0, []⟩
        (boundSteps ++ [cleanupStep])) := by
  have halong : Runs.Along (step LedgerWorld.chainHash) BeforeRelease ⟨startedFiles, 0, []⟩
      (boundSteps ++ [cleanupStep]) := by
    refine ⟨trivial, ⟨rfl, fun ledger hledger => ?_⟩, trivial⟩
    have hbound : ((step LedgerWorld.chainHash ⟨startedFiles, 0, []⟩ (.ledger (.transition
        (.identityBound ⟨"tailnet-1", "one.ts.net", 1⟩)
        ⟨true, .installed, .installed⟩))).2.files.memory.any (·.hasReleased)) = false := by
      decide +kernel
    rw [hledger] at hbound
    exact hbound
  exact ⟨halong, kept_along startedFiles 0 _ halong⟩

/-- A cleanup of a released ledger deletes and releases again. -/
theorem released_twice :
    ¬Kept (Runs.run (step LedgerWorld.chainHash) ⟨startedFiles, 0, []⟩
      (boundSteps ++ [cleanupStep, cleanupStep])) := by
  intro hk
  exact absurd hk.once (by decide +kernel)

end SupervisorRun

end Spurfire
