import Spurfire.Server.Moves

/-!
# The handlers make only moves

Every program of the service, from any world and with any answers, is a run of moves:

* `On` is a flight that the request has reached, and `Walks` is a program whose every stop is one;
* one lemma for each effect, then one for each program, in the order of `Service`;
* `handle_moves` is the result for all requests.
-/

namespace Spurfire

open Interrupt

namespace Course

variable (c : Course)

/-- The request has come this far. -/
def On (held : Option (Stage × StoredLobby)) (s : World) : Prop :=
  Moves c ⟨none, c.start⟩ ⟨held, s⟩

/-- From `s`, wherever the program stops the world is one the request reaches by moves. -/
abbrev Walks {α : Type} (s : World) (p : Service α) (Q : α → World → Prop) : Prop :=
  Meets (· ∈ c.answers) (fun s => ∃ held, c.On held s) s p Q

end Course

/-- Nothing of the trace is lost. -/
def World.Grows (s s' : World) : Prop := ∀ e ∈ s.trace, e ∈ s'.trace

theorem World.Grows.trans {s t u : World} (h : s.Grows t) (h' : t.Grows u) : s.Grows u :=
  fun e he => h' e (h e he)

theorem World.Quiet.grows {id : LobbyId} {s s' : World} (h : Quiet id s s') : s.Grows s' :=
  fun _ => h.mem

section Walk

variable {c : Course} {held : Option (Stage × StoredLobby)} {stage stage' : Stage} {s : World}
  {w w' : StoredLobby} {α : Type}

/-! ## Moves on the way -/

namespace Course.On

theorem move {held' : Option (Stage × StoredLobby)} {s' : World} (h : c.On held s)
    (hmove : Move c ⟨held, s⟩ ⟨held', s'⟩) : c.On held' s' :=
  Relation.ReflTransGen.tail h hmove

theorem lobby (h : c.On (some (stage, w)) s) (hchange : LobbyChange c s stage w stage' w') :
    c.On (some (stage', w')) s :=
  h.move (.change s (.lobby hchange))

theorem network (h : c.On (some (stage, w)) s) (hchange : NetworkChange c s stage w stage' w') :
    c.On (some (stage', w')) s :=
  h.move (.change s (.network hchange))

/-- Waiting is a run of moves. -/
theorem pass (h : c.On held s) (a : Answer) : c.On held (s.pass c.id a) := by
  have hsteps : ∀ steps : List StoreStep, c.On held (steps.foldl (World.elsewhere c.id) s) := by
    intro steps
    induction steps using List.reverseRecOn with
    | nil => exact h
    | append_singleton steps step ih =>
      rw [List.foldl_append]
      exact ih.move (.elsewhere held _ step)
  exact (hsteps a.elsewhere).move (.elapse held _ a.elapsed)

end Course.On

/-! ## Effects -/

theorem walks_await (hon : c.On held s) {act : World → Answer → α × World}
    {Q : α → World → Prop} (h : ∀ a ∈ c.answers, ∀ s', c.On held s' → s.Quiet c.id s' →
      Q (act s' a).1 (act s' a).2) : c.Walks s (Service.await c.id act) Q :=
  meets_effect ⟨held, hon⟩ fun a ha => h a ha _ (hon.pass a) (World.quiet_pass c.id s a)

theorem walks_ask (hon : c.On held s) {read : Answer → α} {Q : α → World → Prop}
    (h : ∀ a ∈ c.answers, ∀ s', c.On held s' → s.Quiet c.id s' → Q (read a) s') :
    c.Walks s (Service.ask c.id read) Q :=
  walks_await hon h

theorem walks_clockNow (hon : c.On held s) {Q : UnixMillis → World → Prop}
    (h : ∀ a ∈ c.answers, ∀ s', c.On held s' → s.Quiet c.id s' → .clock a.now ∈ s'.trace →
      Q a.now s') : c.Walks s (Service.clockNow c.id) Q :=
  walks_await hon fun a ha s' hon' hquiet => h a ha _ (hon'.move (.clock held s' a.now))
    (hquiet.trans (World.quiet_clock c.id s' a.now)) List.mem_cons_self

theorem walks_check (hon : c.On held s) {b : Bool} {error : ApiError} {Q : Unit → World → Prop}
    (h : b = true → Q () s) : c.Walks s (Prog.check b error) Q :=
  meets_check ⟨held, hon⟩ h

theorem walks_fail (hon : c.On held s) {error : ApiError} {Q : α → World → Prop} :
    c.Walks s (Prog.fail error) Q :=
  meets_fail ⟨held, hon⟩

theorem walks_ofExcept (hon : c.On held s) {x : Except ApiError α} {Q : α → World → Prop}
    (h : ∀ a, x = .ok a → Q a s) : c.Walks s (Prog.ofExcept x) Q :=
  meets_ofExcept ⟨held, hon⟩ h

/-! ### The store -/

theorem walks_storeGet (hon : c.On none s) (hstart : c.start.Quiet c.id s)
    {Q : Option StoredLobby → World → Prop} (hnone : ∀ s', c.On none s' → Q none s')
    (hsome : ∀ r s', c.On (some (.loaded, r)) s' → c.Loads r → s'.record c.id = some r →
      s.Quiet c.id s' → Q (some r) s') : c.Walks s (Service.storeGet c.id) Q := by
  refine walks_await hon fun a ha s' hon' hquiet => ?_
  dsimp only
  cases hrecord : s'.record c.id with
  | none => exact hnone s' hon'
  | some r =>
    obtain ⟨r₀, hr₀, times, -, hr⟩ := (hstart.trans hquiet).record r hrecord
    have hload : c.Loads r := ⟨r₀, hr₀, times, hr⟩
    exact hsome r s' (hon'.move (.load s' hload hrecord)) hload hrecord hquiet

/-- What a successful replace leaves. -/
structure World.Put (id : LobbyId) (w : StoredLobby) (s s' : World) : Prop where
  synced : s'.Synced id w
  grows : s.Grows s'
  anchor : s'.anchor = s.anchor
  monotonic : s.monotonic ≤ s'.monotonic
  heard : ∀ events, s.Heard events → ∃ before quarantines,
    s'.Heard (.wrote before w quarantines :: events)

theorem walks_storeReplace (hon : c.On (some (stage, w)) s) (hnamed : w.lobby.lobbyId = c.id)
    {Q : Bool → World → Prop}
    (hput : ∀ s', c.On (some (stage, w)) s' → s.Put c.id w s' → Q true s')
    (hlost : ∀ s', c.On (some (stage, w)) s' → s.Quiet c.id s' → Q false s') :
    c.Walks s (Service.storeReplace c.id w) Q := by
  refine walks_await hon fun a ha s' hon' hquiet => ?_
  by_cases hstored : (a.persists && s'.data.lobbies.contains w.lobby.lobbyId) = true
  · rw [if_pos hstored]
    have hcontains := (Bool.and_eq_true_iff.mp hstored).2
    refine hput _ (hon'.move (.write stage w s' hcontains)) ?_
    have hsome : ∃ r, s'.record c.id = some r := by
      rw [hnamed] at hcontains
      exact Option.isSome_iff_exists.mp (Std.ExtTreeMap.mem_iff_isSome_getElem?.mp
        (Std.ExtTreeMap.mem_iff_contains.mpr hcontains))
    obtain ⟨r, hr⟩ := hsome
    refine ⟨World.synced_write hcontains hnamed, ?_, hquiet.anchor, hquiet.monotonic, ?_⟩
    · exact fun e he => World.mem_trace_write (hquiet.mem he)
    · exact fun events h => ⟨r, _, (h.quiet hquiet).cons (World.trace_write hr) rfl⟩
  · rw [if_neg hstored]
    exact hlost _ (hon'.move (.lost (some (stage, w)) s' ha _)) (hquiet.trans (World.quiet_lost c.id s' a _))

theorem walks_persist (hon : c.On (some (stage, w)) s) (hnamed : w.lobby.lobbyId = c.id)
    {dryRun : Bool} {Q : Unit → World → Prop}
    (hput : ∀ s', c.On (some (stage, w)) s' → s.Put c.id w s' → Q () s') :
    c.Walks s (Service.persist c.id w dryRun) Q := by
  refine meets_bind (walks_storeReplace hon hnamed ?_ ?_)
  · exact fun s' hon' hs' => walks_check hon' fun _ => hput s' hon' hs'
  · exact fun s' hon' _ => walks_check hon' nofun

/-! ### The provider -/

/-- What an answer that is noted leaves. -/
structure World.Told (id : LobbyId) (e : Event) (s s' : World) : Prop where
  record : ∀ r', s'.record id = some r' → ∃ r, s.record id = some r ∧ s'.Aged r r'
  grows : s.Grows s'
  monotonic : s.monotonic ≤ s'.monotonic
  heard : ∀ events, s.Heard events → s'.Heard (e :: events)

theorem World.Told.synced {id : LobbyId} {e : Event} {s' : World} (h : s.Told id e s')
    (hs : s.Synced id w) : s'.Synced id w := by
  intro r' hr'
  obtain ⟨r, hr, haged⟩ := h.record r' hr'
  exact ((hs r hr).mono fun _ => h.grows _).trans haged

theorem told_note {s' : World} {e : Event} (hquiet : s.Quiet c.id s') (he : e.isClock = false) :
    s.Told c.id e (s'.note e) := by
  refine ⟨fun r' hr' => ?_, fun x hx => List.mem_cons_of_mem e (hquiet.mem hx), hquiet.monotonic,
    fun events h => (h.quiet hquiet).cons rfl he⟩
  obtain ⟨r, hr, haged⟩ := hquiet.record r' hr'
  exact ⟨r, hr, haged.mono fun _ => List.mem_cons_of_mem e⟩

theorem walks_prepareLobby (hon : c.On held s) (request : PrepareLobbyRequest)
    {Q : Except ProviderError PreparedNetwork → World → Prop}
    (h : ∀ answer s', c.On held s' → s.Told c.id (.prepared request answer) s' → Q answer s') :
    c.Walks s (Service.prepareLobby c.id request) Q :=
  walks_await hon fun _ ha s' hon' hquiet => h _ _ (hon'.move (.prepared held s' request ha))
    (told_note hquiet rfl)

theorem walks_providerCleanup (hon : c.On held s) (request : CleanupLobbyRequest)
    {Q : Except ProviderError CleanupOutcome → World → Prop}
    (h : ∀ answer s', c.On held s' → s.Told c.id (.cleaned request answer) s' → Q answer s') :
    c.Walks s (Service.providerCleanup c.id request) Q :=
  walks_await hon fun _ ha s' hon' hquiet => h _ _ (hon'.move (.cleaned held s' request ha))
    (told_note hquiet rfl)

theorem walks_eraseChildSecret (hon : c.On held s) (request : TailnetPresenceRequest)
    {Q : Option (Except ProviderError Unit) → World → Prop}
    (h : ∀ a ∈ c.answers, ∀ s', c.On held s' → s.Told c.id (.erased request a.erased) s' →
      Q a.erased s') : c.Walks s (Service.eraseChildSecret c.id request) Q :=
  walks_await hon fun a ha s' hon' hquiet => h a ha _ (hon'.move (.erased held s' request ha))
    (told_note hquiet rfl)

theorem walks_mintCredential {player : PlayerId} {expiresAt : UnixMillis} {dryRun : Bool}
    (hon : c.On (some (.reserved player expiresAt, w)) s) (hsynced : s.Synced c.id w)
    {Q : Except ProviderError MintedCredential → World → Prop}
    (h : ∀ answer s', c.On (some (.minted player expiresAt answer, w)) s' →
      s.Told c.id (.minted (Service.mintRequest c.id w player expiresAt dryRun) answer) s' →
      Q answer s') :
    c.Walks s (Service.mintCredential c.id (Service.mintRequest c.id w player expiresAt dryRun))
      Q :=
  walks_await hon fun _ ha s' hon' hquiet => h _ _
    (hon'.move (.minted w s' ha (hsynced.quiet hquiet))) (told_note hquiet rfl)

/-- The presence of the tailnet is asked; where it is still there, the anchor must go first. -/
theorem walks_tailnetPresent (hon : c.On held s) (request : TailnetPresenceRequest)
    {Q : Option (Except ProviderError Bool) → World → Prop}
    (hthere : ∀ s', c.On held { s' with anchor := none } → s.Grows s' → Q (some (.ok true)) s')
    (helse : ∀ answer s' at_, answer ≠ some (.ok true) → c.On held s' → s.Grows s' →
      s'.anchor = s.anchor → s.monotonic ≤ at_ → at_ ≤ s'.monotonic →
      s'.Heard [.observed request answer at_] → Q answer s') :
    c.Walks s (Service.tailnetPresent c.id request) Q := by
  refine walks_await hon fun a ha s' hon' hquiet => ?_
  have hmove := hon'.move (.observed held s' request ha)
  have htold := told_note (e := .observed request a.present s'.monotonic) hquiet rfl
  dsimp only
  by_cases hpresent : a.present = some (.ok true)
  · rw [if_pos hpresent] at hmove
    rw [hpresent] at hmove htold ⊢
    exact hthere _ hmove htold.grows
  · rw [if_neg hpresent] at hmove
    exact helse _ _ s'.monotonic hpresent hmove htold.grows hquiet.anchor hquiet.monotonic le_rfl
      (htold.heard [] (World.heard_nil s))

theorem walks_anchorRemove (hon : c.On held { s with anchor := none }) {Q : Unit → World → Prop}
    (h : ∀ s', c.On held s' → s.Grows s' → Q () s') : c.Walks s Service.anchorRemove Q :=
  meets_silent (h _ hon fun _ he => he)

/-! ## Records on the way -/

/-- The record the request begins with is filed. -/
def Course.Filed (c : Course) : Prop :=
  ∀ r, c.start.record c.id = some r → r.Filed c.id

theorem Course.On.filed (hon : c.On (some (stage, w)) s) (hc : c.Filed) : w.Filed c.id :=
  (Moves.filed hon ⟨hc, fun _ _ h => nomatch h⟩).held stage w rfl

theorem held_of_verifying (h : w.networkLifecycle = .verifyingAbsence) :
    leaseReleaseLifecycle w.networkLifecycle = false := by
  rw [h]
  rfl

/-! ## Cleanup -/

section Cleanup

variable {now : UnixMillis} {finalize : Bool}

/-- What a part of the teardown ends with: the record it returns can be finalized. -/
def Course.Finalizable (c : Course) (s : World) (now : UnixMillis) (finalize : Bool)
    (stored : StoredLobby) (s' : World) : Prop :=
  c.On (some (.working, stored.finalizeLobbyCleanup now finalize)) s' ∧ s.Grows s'

theorem finalizable_of_closed {s' : World} (hon : c.On (some (.working, w)) s')
    (hclosed : w.lobby.state.isClosed = true) (hgrows : s.Grows s') :
    c.Finalizable s now finalize w s' :=
  ⟨hon.network (.finalized w now finalize hclosed), hgrows⟩

variable {identity : ProviderNetworkIdentity} {providerId : String}

theorem walks_absenceReset (hc : c.Filed) (hon : c.On (some (.working, w)) { s with anchor := none })
    (hverifying : w.networkLifecycle = .verifyingAbsence) :
    c.Walks s (Service.absenceReset c.id w) (c.Finalizable s now finalize) := by
  have hclosed := (hon.filed hc).closed hverifying
  have hheld := held_of_verifying hverifying
  have hreason : isBlank "absence_reset_persistence_failed" = false := by decide +kernel
  refine meets_bind (walks_anchorRemove hon fun s₁ hon₁ hgrows => ?_)
  have hcleared := hon₁.network (.cleared w hverifying)
  have hpended := hcleared.network (.pended _ hclosed hheld)
  refine meets_bind (walks_storeReplace hpended (hon.filed hc).named ?_ ?_)
  · intro s₂ hon₂ hput
    exact meets_pure (finalizable_of_closed hon₂ hclosed (hgrows.trans hput.grows))
  · intro s₂ hon₂ hquiet
    have hremediated := hon₂.network (.remediated _ hclosed hheld)
    have hexplained := hremediated.network (.explained _ hclosed rfl hreason)
    exact meets_pure (finalizable_of_closed hexplained hclosed (hgrows.trans hquiet.grows))

theorem walks_absenceFirst (hc : c.Filed) (hon : c.On (some (.working, w)) s)
    (hverifying : w.networkLifecycle = .verifyingAbsence) (hfirst : w.firstAbsenceObservedAt = none)
    {at_ : ℕ} (hobserved : c.Observes s w identity providerId false at_) (hat : at_ ≤ s.monotonic) :
    c.Walks s (Service.absenceFirst c.id w providerId) (c.Finalizable s now finalize) := by
  have hclosed := (hon.filed hc).closed hverifying
  have hheld := held_of_verifying hverifying
  have hreason : isBlank "absence_observation_persistence_failed" = false := by decide +kernel
  refine meets_bind (walks_clockNow hon fun a ha s₁ hon₁ hquiet _ => ?_)
  -- the anchor is set to the time of the insertion, which is after the answer
  have hobserved₁ : c.Observes s₁ w identity providerId false at_ :=
    ⟨hobserved.1, hobserved.2.1, hobserved.2.2.quiet hquiet⟩
  have hlater := hat.trans hquiet.monotonic
  have hanchored := hon₁.move (.anchored w s₁ hfirst hobserved₁ hlater)
  have hobserved₂ : c.Observes { s₁ with anchor := some (w.networkGeneration, s₁.monotonic) } w
      identity providerId false at_ := hobserved₁
  have hnext := hanchored.network (.firstAbsence w a.now hverifying hfirst hobserved₂
    hlater rfl)
  refine meets_bind (meets_silent ?_)
  refine meets_bind (walks_storeReplace hnext (hon.filed hc).named ?_ ?_)
  · intro s₂ hon₂ hput
    exact meets_pure (finalizable_of_closed hon₂ hclosed (hquiet.grows.trans hput.grows))
  · intro s₂ hon₂ hquiet₂
    refine meets_bind (walks_anchorRemove (hon₂.move (.unanchored _ s₂)) fun s₃ hon₃ hgrows => ?_)
    have hcleared := hon₃.network (.cleared _ hverifying)
    have hremediated := hcleared.network (.remediated _ hclosed hheld)
    have hexplained := hremediated.network (.explained _ hclosed rfl hreason)
    exact meets_pure (finalizable_of_closed hexplained hclosed
      ((hquiet.grows.trans hquiet₂.grows).trans hgrows))

/-- A full cleanup may end the wait only where the record is finalized, or was waiting when the
reaper found it. -/
def Course.MayEnd (c : Course) (w : StoredLobby) (finalize : Bool) : Prop :=
  finalize = true ∨ c.request = .cleanupExpired ∧ ∃ r, c.Loads r
    ∧ r.networkLifecycle = .verifyingAbsence ∧ r.lobby.state = w.lobby.state

theorem walks_absenceSecond (hc : c.Filed) (hon : c.On (some (.working, w)) s)
    (hdedicated : w.lobby.provisioningMode = .tailnetPerLobby)
    (hverifying : w.networkLifecycle = .verifyingAbsence)
    (hfirst : w.firstAbsenceObservedAt.isSome = true) {at_ since : ℕ}
    (hobserved : c.Observes s w identity providerId false at_)
    (hanchor : s.anchor = some (w.networkGeneration, since))
    (hsince : since + CLEANUP_ABSENCE_MIN_SEPARATION_MS ≤ at_) (hend : c.MayEnd w finalize) :
    c.Walks s (Service.absenceSecond c.id w ⟨c.id, w.networkGeneration, identity⟩ providerId)
      (c.Finalizable s now finalize) := by
  have hclosed := (hon.filed hc).closed hverifying
  have hheld := held_of_verifying hverifying
  have hunproved : isBlank "absence_proof_persistence_failed" = false := by decide +kernel
  have hpending : isBlank "child_secret_erasure_pending" = false := by decide +kernel
  refine meets_bind (walks_clockNow hon fun a ha s₁ hon₁ hquiet _ => ?_)
  have hobserved₁ : c.Observes s₁ w identity providerId false at_ :=
    ⟨hobserved.1, hobserved.2.1, hobserved.2.2.quiet hquiet⟩
  have hconfirmed := hon₁.network (.confirmed w a.now hverifying hfirst hobserved₁
    (hquiet.anchor.trans hanchor) hsince)
  refine meets_bind (walks_storeReplace hconfirmed (hon.filed hc).named ?_ ?_)
  · intro s₂ hon₂ hput
    obtain ⟨before, quarantines, hheard⟩ := hput.heard [] (World.heard_nil s₁)
    refine meets_bind (walks_eraseChildSecret hon₂ _ fun b hb s₃ hon₃ htold => ?_)
    have hgrows := (hquiet.grows.trans hput.grows).trans htold.grows
    have hpended := hon₃.network (.pended _ hclosed hheld)
    cases herased : b.erased with
    | none =>
      have hexplained := hpended.network (.explained _ hclosed hheld hpending)
      exact meets_pure (finalizable_of_closed hexplained hclosed hgrows)
    | some result =>
      cases result with
      | error error =>
        have hexplained := hpended.network
          (.explained _ hclosed hheld error.stateReason_not_blank)
        exact meets_pure (finalizable_of_closed hexplained hclosed hgrows)
      | ok _ =>
        rw [herased] at htold
        refine meets_bind (walks_clockNow hon₃ fun d hd s₄ hon₄ hquiet₄ _ => ?_)
        have hheard₄ := (htold.heard _ hheard).quiet hquiet₄
        have habsent := hon₄.network (.absent _ d.now now hverifying hdedicated rfl hobserved.1
          hheard₄ hb herased hend)
        exact meets_bind (walks_anchorRemove (habsent.move (.unanchored _ s₄))
          fun s₅ hon₅ hgrows₅ => meets_pure ⟨hon₅, (hgrows.trans hquiet₄.grows).trans hgrows₅⟩)
  · intro s₂ hon₂ hquiet₂
    have hdoubted := hon₂.network (.doubted _ hverifying)
    have hremediated := hdoubted.network (.remediated _ hclosed hheld)
    have hexplained := hremediated.network (.explained _ hclosed rfl hunproved)
    exact meets_pure (finalizable_of_closed hexplained hclosed (hquiet.grows.trans hquiet₂.grows))

theorem walks_observeAbsence (hc : c.Filed) (hon : c.On (some (.working, w)) s)
    (hdedicated : w.lobby.provisioningMode = .tailnetPerLobby)
    (hverifying : w.networkLifecycle = .verifyingAbsence)
    (hidentity : w.providerIdentity = some identity)
    (hprovider : identity.providerTailnetId = some providerId)
    (hwait : w.firstAbsenceObservedAt.isSome = true → ∃ since,
      s.anchor = some (w.networkGeneration, since)
        ∧ since + CLEANUP_ABSENCE_MIN_SEPARATION_MS ≤ s.monotonic)
    (hend : c.MayEnd w finalize) :
    c.Walks s (Service.observeAbsence c.id w identity providerId)
      (c.Finalizable s now finalize) := by
  have hclosed := (hon.filed hc).closed hverifying
  have hheld := held_of_verifying hverifying
  have hmismatch : isBlank "provider_identity_mismatch_manual_remediation" = false := by
    decide +kernel
  have hgrown : ∀ {s₁ : World}, s.Grows s₁ → ∀ {u : StoredLobby} {t : World},
      c.Finalizable s₁ now finalize u t → c.Finalizable s now finalize u t :=
    fun hgrows _ _ h => ⟨h.1, hgrows.trans h.2⟩
  refine meets_bind (walks_tailnetPresent hon _ (fun s₁ hon₁ hgrows => ?_)
    fun answer s₁ at_ hanswer hon₁ hgrows hanchor hbefore hafter hheard => ?_)
  · exact (walks_absenceReset hc hon₁ hverifying).mono fun u t => hgrown hgrows
  · have hpended := hon₁.network (.pended w hclosed hheld)
    cases answer with
    | none => exact meets_pure (finalizable_of_closed hpended hclosed hgrows)
    | some answer =>
      cases answer with
      | ok present =>
        cases present with
        | true => exact absurd rfl hanswer
        | false =>
          dsimp only
          have hobserved : c.Observes s₁ w identity providerId false at_ :=
            ⟨hidentity, hprovider, hheard⟩
          by_cases hfirst : w.firstAbsenceObservedAt.isNone = true
          · rw [if_pos hfirst]
            exact (walks_absenceFirst hc hon₁ hverifying (Option.isNone_iff_eq_none.mp hfirst)
              hobserved hafter).mono fun u t => hgrown hgrows
          · rw [if_neg hfirst]
            have hsome : w.firstAbsenceObservedAt.isSome = true := by
              rwa [Option.isSome_iff_ne_none, ne_eq, ← Option.isNone_iff_eq_none]
            obtain ⟨since, hsince, hlong⟩ := hwait hsome
            exact (walks_absenceSecond hc hon₁ hdedicated hverifying hsome hobserved
              (hanchor.trans hsince) (hlong.trans hbefore) hend).mono fun u t => hgrown hgrows
      | error error =>
        cases error with
        | identityMismatch =>
          have hremediated := hon₁.network (.remediated w hclosed hheld)
          have hpended' := hremediated.network (.pended _ hclosed rfl)
          have hexplained := hpended'.network (.explained _ hclosed rfl hmismatch)
          exact meets_pure (finalizable_of_closed hexplained hclosed hgrows)
        | _ => exact meets_pure (finalizable_of_closed hpended hclosed hgrows)

theorem walks_reconcileDedicatedAbsence (hc : c.Filed) (hon : c.On (some (.working, w)) s)
    (hdedicated : w.lobby.provisioningMode = .tailnetPerLobby)
    (hverifying : w.networkLifecycle = .verifyingAbsence) (hend : c.MayEnd w finalize) :
    c.Walks s (Service.reconcileDedicatedAbsence c.id w) (c.Finalizable s now finalize) := by
  have hclosed := (hon.filed hc).closed hverifying
  have hheld := held_of_verifying hverifying
  have hmissing : isBlank "provider_identity_missing_manual_remediation" = false := by
    decide +kernel
  have hreset : isBlank "absence_reset_persistence_failed" = false := by decide +kernel
  have hremediated := (hon.network (.remediated w hclosed hheld)).network
    (.pended _ hclosed rfl)
  unfold Service.reconcileDedicatedAbsence
  cases hidentity : w.providerIdentity with
  | none =>
    have hexplained := hremediated.network (.explained _ hclosed rfl hmissing)
    exact meets_pure (finalizable_of_closed hexplained hclosed fun _ he => he)
  | some identity =>
    dsimp only
    cases hprovider : identity.providerTailnetId with
    | none => exact meets_pure (finalizable_of_closed hremediated hclosed fun _ he => he)
    | some providerId =>
      dsimp only
      by_cases hfirst : w.firstAbsenceObservedAt.isSome = true
      · rw [if_pos hfirst]
        refine meets_bind (meets_silent ?_)
        dsimp only
        cases hmatch : (s.anchor.map fun anchor => (anchor.1, s.monotonic - anchor.2)).filter
            fun anchor => anchor.1 == w.networkGeneration with
        | none =>
          -- without its anchor the first observation proves nothing
          have hcleared := hon.network (.cleared w hverifying)
          refine meets_bind (walks_storeReplace hcleared (hon.filed hc).named ?_ ?_)
          · intro s₁ hon₁ hput
            exact (walks_observeAbsence hc hon₁ hdedicated hverifying hidentity hprovider nofun
              hend).mono fun u t h => ⟨h.1, hput.grows.trans h.2⟩
          · intro s₁ hon₁ hquiet
            have hmarked := hon₁.network (.remediated _ hclosed hheld)
            have hexplained := hmarked.network (.explained _ hclosed rfl hreset)
            exact meets_pure (finalizable_of_closed hexplained hclosed hquiet.grows)
        | some pair =>
          obtain ⟨hmap, hgeneration⟩ := Option.filter_eq_some_iff.mp hmatch
          obtain ⟨⟨generation, since⟩, hanchor, rfl⟩ := Option.map_eq_some_iff.mp hmap
          have hgeneration : generation = w.networkGeneration := beq_iff_eq.mp hgeneration
          subst hgeneration
          dsimp only
          by_cases hyoung : s.monotonic - since < CLEANUP_ABSENCE_MIN_SEPARATION_MS
          · rw [if_pos hyoung]
            exact meets_pure (finalizable_of_closed (hon.network (.pended w hclosed hheld)) hclosed
              fun _ he => he)
          · rw [if_neg hyoung]
            have hlong : since + CLEANUP_ABSENCE_MIN_SEPARATION_MS ≤ s.monotonic := by
              unfold CLEANUP_ABSENCE_MIN_SEPARATION_MS at hyoung ⊢
              omega
            exact walks_observeAbsence hc hon hdedicated hverifying hidentity hprovider
              (fun _ => ⟨since, hanchor, hlong⟩) hend
      · rw [if_neg hfirst]
        exact walks_observeAbsence hc hon hdedicated hverifying hidentity hprovider
          (fun h => absurd h hfirst) hend

theorem walks_runCleanup (hon : c.On (some (.working, w)) s)
    (hclosed : w.lobby.state.isClosed = true)
    (hopen : w.dryRun = true ∨ w.networkLifecycle = .cleanupRequested)
    (hintent : w.networkLifecycle ≠ .dedicatedAbsent
      ∧ (w.dryRun = true ∨ w.cleanupRequestedAt.isSome = true))
    (hread : .clock now ∈ s.trace) (includeDevices : Bool) :
    c.Walks s (Service.runCleanup c.id w now includeDevices finalize)
      fun u s' => c.On (some (.working, u)) s' ∧ s.Grows s' := by
  refine meets_bind (walks_providerCleanup hon _ fun result s₁ hon₁ htold => ?_)
  cases hresult : w.applyCleanupResult now result true with
  | none => exact walks_fail hon₁
  | some u =>
    have hsettled := hon₁.network (.settled w hclosed hopen (htold.grows _ hread)
      (htold.heard [] (World.heard_nil s)) hresult hintent)
    have hclosed' : u.lobby.state.isClosed = true := by
      rw [StoredLobby.state_applyCleanupResult hresult]
      exact hclosed
    exact meets_pure ⟨hsettled.network (.finalized u now finalize hclosed'), htold.grows⟩

/-- The cleanup is due: it was asked for, or the record says so. -/
def Course.Due (c : Course) (w : StoredLobby) : Prop :=
  (∃ headers, c.request = .delete headers) ∨ w.lobby.state = .closing ∨ w.cleanupPending = true

theorem walks_cleanupResources (hc : c.Filed) (hon : c.On (some (.working, w)) s)
    (hclosed : w.lobby.state.isClosed = true) (hdue : c.Due w) (hread : .clock now ∈ s.trace)
    (hend : w.networkLifecycle = .verifyingAbsence → c.MayEnd w finalize) (includeDevices : Bool) :
    c.Walks s (Service.cleanupResources c.id w now includeDevices finalize)
      fun u s' => c.On (some (.working, u)) s' ∧ s.Grows s' := by
  have hforgotten := hon.network (.forgotten w hclosed)
  have hsame := w.forgetMeasurements_same
  have hlifecycle := w.undisturbed_forgetMeasurements.lifecycle
  rw [← hsame.1] at hclosed
  have hdue : c.Due w.forgetMeasurements := by
    unfold Course.Due
    rw [hsame.1, hsame.2]
    exact hdue
  have hend : w.forgetMeasurements.networkLifecycle = .verifyingAbsence →
      c.MayEnd w.forgetMeasurements finalize := by
    unfold Course.MayEnd
    rw [hsame.1, hlifecycle]
    exact hend
  unfold Service.cleanupResources
  dsimp only
  generalize w.forgetMeasurements = w at *
  by_cases hwait : w.lobby.provisioningMode = .tailnetPerLobby
      ∧ w.networkLifecycle = .verifyingAbsence
  · rw [if_pos hwait]
    have hreconciled : c.Walks s (Service.reconcileDedicatedAbsence c.id w)
        (c.Finalizable s now finalize) :=
      walks_reconcileDedicatedAbsence hc hforgotten hwait.1 hwait.2 (hend hwait.2)
    exact meets_bind (hreconciled.mono fun u s₁ h => meets_pure h)
  rw [if_neg hwait]
  by_cases hdone : w.networkLifecycle = .dedicatedAbsent
      ∨ w.networkLifecycle = .sharedResourcesClean
  · rw [if_pos hdone]
    exact meets_pure ⟨hforgotten.network (.finalized w now finalize hclosed), fun _ he => he⟩
  rw [if_neg hdone]
  by_cases hlost : w.dryRun = false ∧ w.lobby.provisioningMode = .tailnetPerLobby
      ∧ (w.networkLifecycle = .createUnknown ∨ w.networkLifecycle = .manualRemediation)
  · rw [if_pos hlost]
    have hheld : leaseReleaseLifecycle w.networkLifecycle = false := by
      rcases hlost.2.2 with h | h
      · rw [h]
        rfl
      · rw [h]
        rfl
    have hremediated := hforgotten.network (.remediated w hclosed hheld)
    have hpended := hremediated.network (.pended _ hclosed rfl)
    exact meets_pure ⟨hpended.network (.finalized _ now finalize hclosed), fun _ he => he⟩
  rw [if_neg hlost]
  by_cases hdry : w.dryRun = true
  · rw [if_pos hdry]
    exact walks_runCleanup hforgotten hclosed (.inl hdry) ⟨(not_or.mp hdone).1, .inl hdry⟩ hread
      includeDevices
  rw [if_neg hdry]
  have hreal : w.dryRun = false := Bool.eq_false_of_not_eq_true hdry
  have hrequested := hforgotten.network (.requested w now hreal hclosed
    (not_or.mp hdone) (fun hmode => ⟨fun h => hwait ⟨hmode, h⟩, fun h => hlost ⟨hreal, hmode, .inl h⟩,
      fun h => hlost ⟨hreal, hmode, .inr h⟩⟩) hdue)
  refine meets_bind (walks_storeReplace hrequested (hforgotten.filed hc).named ?_ ?_)
  · intro s₁ hon₁ hput
    exact (walks_runCleanup hon₁ hclosed (.inr rfl) ⟨NetworkLifecycle.noConfusion, .inr rfl⟩
      (hput.grows _ hread) includeDevices).mono fun u s₂ h => ⟨h.1, hput.grows.trans h.2⟩
  · intro s₁ hon₁ hquiet
    have hreason : isBlank "cleanup_intent_persistence_failed" = false := by decide +kernel
    have hremediated := hon₁.network (.remediated _ hclosed rfl)
    have hexplained := hremediated.network (.explained _ hclosed rfl hreason)
    exact meets_pure ⟨hexplained.network (.finalized _ now finalize hclosed), hquiet.grows⟩

end Cleanup

/-! ## Maintenance -/

section Maintenance

variable {now : UnixMillis}

theorem walks_checkAccess {r : StoredLobby} (hon : c.On (some (.loaded, r)) s) (hload : c.Loads r)
    {Q : StoredLobby × Bool → World → Prop}
    (hkept : ∀ s', c.On (some (.working, r)) s' → s.Quiet c.id s' → Q (r, false) s')
    (hdenied : ∀ error s', c.On (some (.working, r.accessDenied error now)) s' →
      s.Quiet c.id s' → Q (r.accessDenied error now, true) s') :
    c.Walks s (Service.checkAccess c.id r now) Q := by
  unfold Service.checkAccess
  by_cases hrequires : r.requiresProviderAccess = true
  · rw [if_pos hrequires]
    refine meets_bind (walks_ask hon fun a ha s' hon' hquiet => ?_)
    cases hanswer : a.denied with
    | none => exact meets_pure (hkept s' (hon'.lobby (.admitted r)) hquiet)
    | some error =>
      exact meets_pure (hdenied error s' (hon'.network (.denied r hload ha hanswer hrequires))
        hquiet)
  · rw [if_neg hrequires]
    exact meets_pure (hkept s (hon.lobby (.admitted r)) (World.Quiet.refl c.id s))

/-- A record that maintenance has moved is persisted, torn down and persisted again. -/
theorem walks_tornDown (hc : c.Filed) (hon : c.On (some (.working, w)) s)
    (hclosed : w.lobby.state.isClosed = true) (hpending : w.cleanupPending = true)
    (hlifecycle : w.networkLifecycle ≠ .verifyingAbsence) (hread : .clock now ∈ s.trace)
    {dryHint : Bool} {Q : StoredLobby → World → Prop}
    (h : ∀ u s', c.On (some (.working, u)) s' → s'.Synced c.id u → s.Grows s' → Q u s') :
    c.Walks s (do
        Service.persist c.id w (w.dryRun || dryHint)
        let stored ← Service.cleanupResources c.id w now true false
        Service.persist c.id stored (stored.dryRun || dryHint)
        pure stored) Q := by
  refine meets_bind (walks_persist hon (hon.filed hc).named fun s₁ hon₁ hput₁ => ?_)
  refine meets_bind ((walks_cleanupResources hc hon₁ hclosed (.inr (.inr hpending))
    (hput₁.grows _ hread) (fun h => absurd h hlifecycle) true).mono fun u s₂ hu => ?_)
  refine meets_bind (walks_persist hu.1 (hu.1.filed hc).named fun s₃ hon₃ hput₃ => ?_)
  exact meets_pure (h u s₃ hon₃ hput₃.synced ((hput₁.grows.trans hu.2).trans hput₃.grows))

/-- What maintenance leaves: a record to work on, which is the durable one. -/
theorem walks_loadMaintainedLobby (hc : c.Filed) (hon : c.On none s)
    (hstart : c.start.Quiet c.id s) (hread : .clock now ∈ s.trace) {dryHint : Bool}
    {Q : StoredLobby → World → Prop}
    (h : ∀ u s', c.On (some (.working, u)) s' → s'.Synced c.id u → s.Grows s' → Q u s') :
    c.Walks s (Service.loadMaintainedLobby c.id now dryHint) Q := by
  refine meets_bind (walks_storeGet hon hstart (fun s₁ hon₁ => walks_fail hon₁) ?_)
  intro r s₁ hon₁ hload hrecord hquiet₁
  have hfiled := hon₁.filed hc
  refine meets_bind (walks_checkAccess hon₁ hload (fun s₂ hon₂ hquiet₂ => ?_)
    fun error s₂ hon₂ hquiet₂ => ?_)
  · have hquiet := hquiet₁.trans hquiet₂
    have hsynced := (World.synced_of_record hrecord).quiet hquiet₂
    rcases r.applyTimeTransitions_cases now with hkept | ⟨next, reason, hlegal, hnext, hmoved⟩
    · rw [hkept]
      dsimp only
      rcases r.refreshFreshnessState_cases now with hfresh | ⟨-, hstale⟩
      · rw [hfresh]
        exact meets_pure (h r s₂ hon₂ hsynced hquiet.grows)
      · have hrefreshed := hon₂.lobby (.stale r now)
        rw [hstale] at hrefreshed ⊢
        refine meets_bind (walks_persist hrefreshed hfiled.named fun s₃ hon₃ hput => ?_)
        exact meets_pure (h _ s₃ hon₃ hput.synced (hquiet.grows.trans hput.grows))
    · -- a deadline moves only an open lobby, which is not waiting for absence
      have hopen : r.networkLifecycle ≠ .verifyingAbsence := by
        intro hverifying
        rw [LobbyState.destroyed_of_closed (hfiled.closed hverifying) hlegal] at hnext
        exact hnext.elim (fun h => nomatch h.1) nofun
      have hclosed : next.isClosed = true := by
        rcases hnext with ⟨rfl, -⟩ | rfl
        · rfl
        · rfl
      have hdue := hon₂.lobby (.deadline r now)
      rw [hmoved] at hdue ⊢
      dsimp only at hdue ⊢
      rw [StoredLobby.refreshFreshnessState_of_closed hclosed, Bool.false_or, if_pos rfl]
      exact walks_tornDown hc hdue hclosed rfl hopen (hquiet.grows _ hread)
        fun u s₃ hu hsynced₃ hgrows => h u s₃ hu hsynced₃ (hquiet.grows.trans hgrows)
  · have hclosed := r.closed_accessDenied error now
    rw [StoredLobby.applyTimeTransitions_of_closed hclosed]
    dsimp only
    rw [StoredLobby.refreshFreshnessState_of_closed hclosed, Bool.or_false, if_pos rfl]
    exact walks_tornDown hc hon₂ hclosed rfl nofun ((hquiet₁.trans hquiet₂).grows _ hread)
      fun u s₃ hu hsynced₃ hgrows => h u s₃ hu hsynced₃ ((hquiet₁.trans hquiet₂).grows.trans hgrows)

end Maintenance

/-! ## Handlers -/

section Handlers

/-- What a handler ends with. -/
def Course.Ends (c : Course) (_ : α) (s : World) : Prop := ∃ held, c.On held s

theorem walks_done (hon : c.On held s) {a : α} : c.Walks s (pure a) c.Ends :=
  meets_pure ⟨held, hon⟩

/-- A last persist. -/
theorem walks_persisted (hon : c.On (some (stage, w)) s) (hnamed : w.lobby.lobbyId = c.id)
    {dryRun : Bool} {a : α} : c.Walks s (do
      Service.persist c.id w dryRun
      pure a) c.Ends :=
  meets_bind (walks_persist hon hnamed fun _ hon' _ => walks_done hon')

theorem walks_authorizeScope (hon : c.On held s) {Q : Option PlayerId → World → Prop}
    (h : ∀ legacy s', c.On held s' → s.Quiet c.id s' → Q legacy s') :
    c.Walks s (Service.authorizeScope c.id) Q :=
  meets_bind (walks_ask hon fun _ _ _ hon' hquiet =>
    walks_ofExcept hon' fun legacy _ => h legacy _ hon' hquiet)

/-- The common opening of a handler: authorization, the clock and maintenance. -/
theorem walks_opened (hc : c.Filed) {dryHint : Bool}
    {k : Option PlayerId → UnixMillis → StoredLobby → Service α} {Q : α → World → Prop}
    (h : ∀ legacy, ∀ a ∈ c.answers, ∀ stored s, c.On (some (.working, stored)) s →
      s.Synced c.id stored → .clock a.now ∈ s.trace → c.Walks s (k legacy a.now stored) Q) :
    c.Walks c.start (do
      let legacy ← Service.authorizeScope c.id
      let now ← Service.clockNow c.id
      let stored ← Service.loadMaintainedLobby c.id now dryHint
      k legacy now stored) Q := by
  refine meets_bind (walks_authorizeScope .refl fun legacy s₁ hon₁ hquiet₁ => ?_)
  refine meets_bind (walks_clockNow hon₁ fun a ha s₂ hon₂ hquiet₂ hread => ?_)
  refine meets_bind (walks_loadMaintainedLobby hc hon₂ (hquiet₁.trans hquiet₂) hread ?_)
  exact fun stored s₃ hon₃ hsynced hgrows => h legacy a ha stored s₃ hon₃ hsynced (hgrows _ hread)

variable {headers : Headers}

theorem walks_getLobby (hc : c.Filed) :
    c.Walks c.start (Service.getLobby c.id c.config headers) c.Ends :=
  walks_opened hc fun _ _ _ _ _ hon _ _ => walks_done hon

theorem walks_ensureNewLobbyWorkAuthorized (hon : c.On held s) {Q : Unit → World → Prop}
    (h : ∀ s', c.On held s' → s.Quiet c.id s' → Q () s') :
    c.Walks s (Service.ensureNewLobbyWorkAuthorized c.id c.config w) Q :=
  meets_bind (walks_ask hon fun _ _ s' hon' hquiet => walks_check hon' fun _ => h s' hon' hquiet)

theorem walks_createInvitation (hc : c.Filed) :
    c.Walks c.start (Service.createInvitation c.id c.config) c.Ends := by
  refine walks_opened hc fun legacy a ha stored s hon _ hread => ?_
  refine meets_bind (walks_ensureNewLobbyWorkAuthorized hon fun s₁ hon₁ _ => ?_)
  refine meets_bind (walks_check hon₁ fun _ => ?_)
  refine meets_bind (walks_check hon₁ fun _ => ?_)
  refine meets_bind (walks_check hon₁ fun _ => ?_)
  refine meets_bind (walks_ask hon₁ fun b hb s₂ hon₂ _ => ?_)
  exact walks_persisted (hon₂.lobby (.invited stored _)) (hon.filed hc).named

/-! ### Join and leave -/

variable {request : JoinLobbyRequest} {key : String} {fingerprint : List UInt8}
  {now expiresAt : UnixMillis} {dryRun : Bool}

theorem walks_mintAndRecord (hc : c.Filed)
    (hon : c.On (some (.reserved request.playerId expiresAt, w)) s) (hsynced : s.Synced c.id w)
    (hstate : w.lobby.state = .forming ∨ w.lobby.state = .ready)
    (hroom : w.hasPlayer request.playerId = true
      ∨ w.lobby.roster.length < w.lobby.maxPlayers.toNat) :
    c.Walks s (Service.mintAndRecord c.id w request key fingerprint expiresAt now dryRun)
      c.Ends := by
  refine meets_bind (walks_mintCredential hon hsynced fun answer s₁ hon₁ htold => ?_)
  cases answer with
  | error error =>
    have hfailed := hon₁.network (.mintFailed w now hstate
      (htold.heard [] (World.heard_nil s)))
    exact meets_bind (walks_persist hfailed (hfailed.filed hc).named fun s₂ hon₂ _ =>
      walks_fail hon₂)
  | ok minted =>
    refine meets_bind (walks_ask hon₁ fun a ha s₂ hon₂ _ => ?_)
    have henrolled := hon₂.lobby (.enrolled w key fingerprint a.token now hstate hroom)
    exact walks_persisted henrolled (henrolled.filed hc).named

theorem walks_reserveAndMint (hc : c.Filed) (hon : c.On (some (.working, w)) s)
    (hread : .clock now ∈ s.trace) (hstate : w.lobby.state = .forming ∨ w.lobby.state = .ready)
    (hreuse : Service.reuseCredential w request now dryRun = .ok none)
    {invitation : Option Digest} :
    c.Walks s (Service.reserveAndMint c.id w request invitation key fingerprint now dryRun)
      c.Ends := by
  refine meets_bind (walks_check hon fun hopen => ?_)
  cases hlimited : w.enforceJoinRateLimit request.playerId now with
  | none => exact walks_fail hon
  | some limited =>
    refine meets_bind (walks_ask hon fun a ha s₁ hon₁ hquiet => ?_)
    refine meets_bind (walks_check hon₁ fun _ => ?_)
    refine meets_bind (walks_ofExcept hon₁ fun spent hspent => ?_)
    have hreserved := hon₁.lobby (.reserve w key fingerprint (hquiet.grows _ hread) hstate hreuse
      (Bool.not_eq_true' _ ▸ hopen) hlimited hspent)
    have hlobby : (spent.reserveIssuance request.playerId
        ⟨fingerprint, key, now, now.satAdd JOIN_CREDENTIAL_TTL_MS⟩).lobby = w.lobby :=
      (lobby_spendInvitation hspent).trans (StoredLobby.lobby_enforceJoinRateLimit hlimited)
    refine meets_bind (walks_persist hreserved (hreserved.filed hc).named fun s₂ hon₂ hput => ?_)
    refine walks_mintAndRecord hc hon₂ hput.synced ?_ ?_
    · rw [hlobby]
      exact hstate
    · unfold StoredLobby.hasPlayer
      rw [hlobby]
      exact (reuseCredential_none hreuse).1

theorem walks_joinLobby (hc : c.Filed) : c.Walks c.start
    (Service.joinLobby c.id c.config headers request fingerprint) c.Ends := by
  refine meets_bind (walks_authorizeScope .refl fun legacy s₁ hon₁ hquiet₁ => ?_)
  refine meets_bind (walks_ofExcept hon₁ fun invitation _ => ?_)
  refine meets_bind (walks_clockNow hon₁ fun a ha s₂ hon₂ hquiet₂ hread => ?_)
  refine meets_bind (walks_loadMaintainedLobby hc hon₂ (hquiet₁.trans hquiet₂) hread
    fun stored s₃ hon₃ hsynced hgrows => ?_)
  refine meets_bind (walks_ofExcept hon₃ fun dryRun _ => ?_)
  refine meets_bind (walks_ofExcept hon₃ fun key _ => ?_)
  cases hreplay : stored.joinReplays[key]? with
  | some replay =>
    refine meets_bind (walks_check hon₃ fun _ => ?_)
    exact meets_bind (walks_check hon₃ fun _ => walks_done hon₃)
  | none =>
    refine meets_bind (walks_ensureNewLobbyWorkAuthorized hon₃ fun s₄ hon₄ hquiet₄ => ?_)
    refine meets_bind (walks_ofExcept hon₄ fun _ _ => ?_)
    refine meets_bind (walks_check hon₄ fun hjoinable => ?_)
    refine meets_bind (walks_ofExcept hon₄ fun reused hreused => ?_)
    cases reused with
    | some receipt =>
      exact walks_persisted (hon₄.lobby (.joinReplayed stored key _)) (hon₄.filed hc).named
    | none =>
      rw [Bool.or_eq_true, beq_iff_eq, beq_iff_eq] at hjoinable
      exact walks_reserveAndMint hc hon₄ (hquiet₄.grows _ (hgrows _ hread)) hjoinable hreused

theorem walks_leaveLobby (hc : c.Filed) {player : PlayerId}
    (hrequest : c.request = .leave headers player) : c.Walks c.start
    (Service.leaveLobby c.id c.config headers player) c.Ends := by
  refine walks_opened hc fun legacy a ha stored s hon _ hread => ?_
  refine meets_bind (walks_ofExcept hon fun dryRun _ => ?_)
  refine meets_bind (walks_check hon fun haccepts => ?_)
  by_cases hplayer : stored.hasPlayer player = true
  · rw [if_pos hplayer]
    refine meets_bind (walks_providerCleanup hon _ fun result s₁ hon₁ htold => ?_)
    cases hresult : stored.applyCleanupResult a.now result false with
    | none => exact walks_fail hon₁
    | some settled =>
      have hleft := hon₁.lobby (.left stored dryRun hrequest haccepts hplayer ha
        (htold.grows _ hread) (htold.heard [] (World.heard_nil s)) hresult)
      exact walks_persisted hleft (hleft.filed hc).named
  · rw [if_neg hplayer]
    exact walks_done hon

/-! ### Measurements and elections -/

theorem forming_of_accepts {player : PlayerId} {sample : ConnectivitySample}
    (haccepts : w.lobby.state.acceptsMeasurements = true)
    (hmatch : (w.measured player sample now).lobby.state ≠ .inMatch) :
    (w.measured player sample now).lobby.state = .forming := by
  rw [StoredLobby.state_measured, StoredLobby.state_unready] at hmatch ⊢
  cases hstate : w.lobby.state with
  | forming => rfl
  | ready => rfl
  | inMatch =>
    rw [hstate] at hmatch
    exact absurd rfl hmatch
  | _ =>
    rw [hstate] at haccepts
    exact nomatch haccepts

theorem walks_submitMeasurements (hc : c.Filed) {request : SubmitMeasurementsRequest} :
    c.Walks c.start (Service.submitMeasurements c.id c.config headers request) c.Ends := by
  refine walks_opened hc fun legacy a ha stored s hon _ hread => ?_
  refine meets_bind (walks_ofExcept hon fun dryRun _ => ?_)
  refine meets_bind (walks_check hon fun hstate => ?_)
  refine meets_bind (walks_check hon fun _ => ?_)
  refine meets_bind (walks_check hon fun _ => ?_)
  refine meets_bind (walks_ofExcept hon fun sample _ => ?_)
  have hmeasured := hon.lobby (.measured stored request.playerId sample a.now hstate)
  by_cases hmatch : (stored.measured request.playerId sample a.now).lobby.state = .inMatch
  · rw [if_pos hmatch]
    exact walks_persisted hmeasured (hmeasured.filed hc).named
  · rw [if_neg hmatch]
    cases helected : (stored.measured request.playerId sample a.now).recomputeAuthority a.now with
    | error error => exact walks_fail hmeasured
    | ok elected =>
      have hforming := forming_of_accepts hstate hmatch
      have hrecomputed := hmeasured.lobby (.recomputed _ (.inl hforming) helected)
      exact walks_persisted hrecomputed (hrecomputed.filed hc).named

/-- The answer of an election, once the record has one. -/
def electionAnswer (id : LobbyId) (stored : StoredLobby) (dryRun : Bool) : Service Response :=
  match stored.lastElection with
  | none => .fail (.authorityUnavailable
      "every roster member must submit a fresh measurement before election" dryRun)
  | some election => do
    Service.persist id stored dryRun
    pure (.authority election.toResponse)

theorem walks_electionAnswer (hc : c.Filed) {u : StoredLobby}
    (hu : c.On (some (.working, u)) s) : c.Walks s (electionAnswer c.id u dryRun) c.Ends := by
  unfold electionAnswer
  cases u.lastElection with
  | none => exact walks_fail hu
  | some election => exact walks_persisted hu (hu.filed hc).named

theorem walks_electLobbyAuthority (hc : c.Filed) :
    c.Walks c.start (Service.electLobbyAuthority c.id c.config headers) c.Ends := by
  refine walks_opened hc fun legacy a ha stored s hon _ hread => ?_
  refine meets_bind (walks_ofExcept hon fun dryRun _ => ?_)
  refine meets_bind (walks_check hon fun haccepts => ?_)
  dsimp only
  by_cases hwanted : stored.lobby.state ≠ .inMatch ∧ stored.lastElection.isNone = true
  · rw [if_pos hwanted]
    cases helected : stored.recomputeAuthority a.now with
    | error error => exact walks_fail hon
    | ok elected =>
      have hstate : stored.lobby.state = .forming
          ∨ stored.lobby.state = .ready ∧ stored.lastElection = none := by
        cases hstate : stored.lobby.state with
        | forming => exact .inl rfl
        | ready => exact .inr ⟨rfl, Option.isNone_iff_eq_none.mp hwanted.2⟩
        | inMatch => exact absurd hstate hwanted.1
        | _ =>
          rw [hstate] at haccepts
          exact nomatch haccepts
      exact walks_electionAnswer hc (hon.lobby (.recomputed stored hstate helected))
  · rw [if_neg hwanted]
    exact walks_electionAnswer hc hon

/-! ### The match -/

theorem walks_startResponse (hon : c.On held s) {u : StoredLobby} :
    c.Walks s (Service.startResponse u dryRun) c.Ends :=
  meets_bind (walks_check hon fun _ => walks_done hon)

theorem walks_startReady (hc : c.Filed) (hon : c.On (some (.working, w)) s)
    (hstate : w.lobby.state = .ready) {request : StartLobbyRequest}
    {replay : StoredMutationReplay} :
    c.Walks s (Service.startReady c.id w request key replay now dryRun) c.Ends := by
  refine meets_bind (walks_check hon fun _ => ?_)
  refine meets_bind (walks_ofExcept hon fun _ _ => ?_)
  refine meets_bind (walks_ofExcept hon fun _ _ => ?_)
  refine meets_bind (walks_ask hon fun a ha s₁ hon₁ _ => ?_)
  refine meets_bind (walks_ofExcept hon₁ fun secure _ => ?_)
  refine meets_bind (walks_check hon₁ fun _ => ?_)
  by_cases hfresh : w.allMeasurementsFresh now = true
  · rw [if_pos hfresh]
    refine meets_bind (walks_check hon₁ fun _ => ?_)
    refine meets_bind (walks_ask hon₁ fun b hb s₂ hon₂ _ => ?_)
    have hstarted := hon₂.lobby (.started w key replay (request.mapSeed.getD b.seed) now hstate)
    exact meets_bind (walks_persist hstarted (hstarted.filed hc).named fun s₃ hon₃ _ =>
      walks_startResponse hon₃)
  · rw [if_neg hfresh]
    have hunstarted := hon₁.lobby (.unstarted w hstate)
    exact meets_bind (walks_persist hunstarted (hunstarted.filed hc).named fun s₂ hon₂ _ =>
      walks_fail hon₂)

theorem walks_startLobby (hc : c.Filed) {request : StartLobbyRequest} :
    c.Walks c.start (Service.startLobby c.id c.config headers request fingerprint) c.Ends := by
  refine walks_opened hc fun legacy a ha stored s hon _ hread => ?_
  refine meets_bind (walks_ofExcept hon fun dryRun _ => ?_)
  refine meets_bind (walks_check hon fun _ => ?_)
  refine meets_bind (walks_ofExcept hon fun key _ => ?_)
  dsimp only
  cases hreplay : stored.startReplays[key]? with
  | some replay =>
    refine meets_bind (walks_check hon fun _ => ?_)
    exact meets_bind (walks_check hon fun _ => walks_startResponse hon)
  | none =>
    dsimp only
    by_cases hrunning : (stored.lobby.state == .starting || stored.lobby.state == .inMatch) = true
    · rw [if_pos hrunning]
      refine meets_bind (walks_check hon fun _ => ?_)
      have hreplayed := hon.lobby (.startReplayed stored key
        ⟨fingerprint, legacy.getD request.creatorPlayerId, a.now⟩)
      exact meets_bind (walks_persist hreplayed (hreplayed.filed hc).named fun s₁ hon₁ _ =>
        walks_startResponse hon₁)
    · rw [if_neg hrunning]
      exact meets_bind (walks_check hon fun hready =>
        walks_startReady hc hon (beq_iff_eq.mp hready))

theorem walks_authorityHeartbeat (hc : c.Filed) {request : AuthorityHeartbeatRequest}
    (hrequest : c.request = .heartbeat headers request) :
    c.Walks c.start (Service.authorityHeartbeat c.id c.config headers request) c.Ends := by
  refine walks_opened hc fun legacy a ha stored s hon hsynced hread => ?_
  refine meets_bind (walks_ofExcept hon fun dryRun _ => ?_)
  refine meets_bind (walks_check hon fun hstate => ?_)
  rw [Bool.or_eq_true, beq_iff_eq, beq_iff_eq] at hstate
  cases hcurrent : stored.lastElection with
  | none => exact walks_fail hon
  | some current =>
    refine meets_bind (walks_ofExcept hon fun claimed hclaim => ?_)
    cases helection : claimed.lastElection with
    | none => exact walks_fail hon
    | some election =>
      have hbeat := hon.lobby (.heartbeat stored hrequest hstate hsynced hcurrent hclaim helection)
      dsimp only
      cases hauthority : (claimed.heartbeatAccepted (legacy.getD request.playerId) election
          a.now).lobby.authority with
      | none => exact walks_fail hbeat
      | some authority => exact walks_persisted hbeat (hbeat.filed hc).named

/-- The last part of a request that closes the lobby. -/
theorem walks_closedAndCleaned (hc : c.Filed) (hon : c.On (some (.working, w)) s)
    (hstate : w.lobby.state = .closing) (hread : .clock now ∈ s.trace) {f : StoredLobby → α} :
    c.Walks s (do
      Service.persist c.id w dryRun
      let stored ← Service.cleanupResources c.id w now true true
      Service.persist c.id stored dryRun
      pure (f stored)) c.Ends := by
  refine meets_bind (walks_persist hon (hon.filed hc).named fun s₁ hon₁ hput => ?_)
  have hclosed : w.lobby.state.isClosed = true := by
    rw [hstate]
    rfl
  refine meets_bind ((walks_cleanupResources hc hon₁ hclosed (.inr (.inl hstate))
    (hput.grows _ hread) (fun _ => .inl rfl) true).mono fun u s₂ hu => ?_)
  exact walks_persisted hu.1 (hu.1.filed hc).named

theorem walks_submitResults (hc : c.Filed) {request : SubmitResultsRequest} :
    c.Walks c.start (Service.submitResults c.id c.config headers request fingerprint) c.Ends := by
  refine walks_opened hc fun legacy a ha stored s hon _ hread => ?_
  refine meets_bind (walks_ofExcept hon fun dryRun _ => ?_)
  refine meets_bind (walks_ofExcept hon fun key _ => ?_)
  dsimp only
  cases hreplay : stored.resultsReplays[key]? with
  | some replay => exact meets_bind (walks_check hon fun _ => walks_done hon)
  | none =>
    refine meets_bind (walks_check hon fun hmatch => ?_)
    cases helection : stored.lastElection with
    | none => exact walks_fail hon
    | some election =>
      refine meets_bind (walks_check hon fun _ => ?_)
      refine meets_bind (walks_check hon fun _ => ?_)
      refine meets_bind (walks_ofExcept hon fun _ _ => ?_)
      exact walks_closedAndCleaned hc (hon.lobby (.resulted stored (beq_iff_eq.mp hmatch))) rfl hread

theorem walks_deleteLobby (hc : c.Filed) (hrequest : c.request = .delete headers) :
    c.Walks c.start (Service.deleteLobby c.id c.config headers) c.Ends := by
  refine walks_opened hc fun legacy a ha stored s hon _ hread => ?_
  refine meets_bind (walks_ofExcept hon fun dryRun _ => ?_)
  refine meets_bind (walks_check hon fun _ => ?_)
  by_cases hdone : stored.lobby.state = .destroyed ∧ stored.cleanupPending = false
  · rw [if_pos hdone]
    exact walks_done hon
  rw [if_neg hdone]
  by_cases hclosed : stored.lobby.state.isClosed = true
  · rw [if_pos hclosed]
    refine meets_bind ((walks_cleanupResources hc hon hclosed (.inl ⟨headers, hrequest⟩) hread
      (fun _ => .inl rfl) true).mono fun u s₁ hu => ?_)
    exact walks_persisted hu.1 (hu.1.filed hc).named
  · rw [if_neg hclosed]
    exact walks_closedAndCleaned hc (hon.lobby (.closed stored (Bool.eq_false_of_not_eq_true hclosed)))
      rfl hread

/-! ### Create -/

theorem walks_storeIssueGrant (hon : c.On held s) (verifier : Digest) (expiresAt : UnixMillis)
    {Q : Option (Except StoreError Unit) → World → Prop}
    (h : ∀ issued s', c.On held s' → s.Grows s' → Q issued s') :
    c.Walks s (Service.storeIssueGrant c.id verifier expiresAt) Q := by
  refine walks_await hon fun a ha s' hon' hquiet => ?_
  split_ifs
  · exact h _ _ (hon'.move (.granted held s' verifier expiresAt)) hquiet.grows
  · exact h _ _ (hon'.move (.lost held s' ha _)) hquiet.grows

theorem walks_realCreateGrant (hon : c.On held s) {localOperator : Bool}
    {Q : Option Digest → World → Prop} (h : ∀ grant s', c.On held s' → s.Grows s' → Q grant s') :
    c.Walks s (Service.realCreateGrant c.id c.config headers dryRun localOperator now) Q := by
  have hhere : ∀ grant, Q grant s := fun grant => h grant s hon fun _ he => he
  unfold Service.realCreateGrant
  by_cases hdry : dryRun = true
  · rw [if_pos hdry]
    exact meets_pure (hhere none)
  rw [if_neg hdry]
  by_cases hlegacy : c.config.legacyRealTestMode = true
  · rw [if_pos hlegacy]
    refine meets_bind (walks_ask hon fun a ha s₁ hon₁ hquiet₁ => ?_)
    refine meets_bind (walks_storeIssueGrant hon₁ _ _ fun issued s₂ hon₂ hgrows₂ => ?_)
    cases issued with
    | none => exact walks_fail hon₂
    | some issued =>
      cases issued with
      | error error => exact walks_fail hon₂
      | ok _ => exact meets_pure (h _ s₂ hon₂ (hquiet₁.grows.trans hgrows₂))
  rw [if_neg hlegacy]
  by_cases hlocal : localOperator = true
  · rw [if_pos hlocal]
    cases c.config.protectedAlpha with
    | some alpha => exact meets_pure (hhere _)
    | none =>
      cases c.config.localRehearsal with
      | some rehearsal => exact meets_pure (hhere _)
      | none => exact walks_fail hon
  · rw [if_neg hlocal]
    cases headers.capability with
    | some verifier => exact meets_pure (hhere _)
    | none => exact walks_fail hon

theorem walks_storeCreate (hon : c.On none s) {call : CreateCall} (hnew : c.IsNew call.lobby call.now)
    (hread : .clock call.now ∈ s.trace)
    {Q : Option (Except StoreError CreateStoreOutcome) → World → Prop}
    (hcreated : ∀ s', c.On (some (.working, call.lobby)) s' →
      Q (some (.ok (.created call.lobby))) s')
    (helse : ∀ outcome s', (∀ lobby, outcome ≠ some (.ok (.created lobby))) → c.On none s' →
      Q outcome s') : c.Walks s (Service.storeCreate c.id call) Q := by
  refine walks_await hon fun a ha s' hon' hquiet => ?_
  by_cases hpersists : a.persists = true
  · rw [if_pos hpersists]
    dsimp only
    by_cases hanswer : ∃ lobby, (s'.create call).1 = .ok (.created lobby)
    · obtain ⟨lobby, hlobby⟩ := hanswer
      cases World.create_created hlobby
      rw [hlobby]
      exact hcreated _ (hon'.move (.created s' hnew (hquiet.grows _ hread) hlobby))
    · have hrefused : ∀ lobby, (s'.create call).1 ≠ .ok (.created lobby) := not_exists.mp hanswer
      exact helse _ _ (fun lobby h => hrefused lobby (Option.some.inj h))
        (hon'.move (.refused s' (hquiet.grows _ hread) hrefused))
  · rw [if_neg hpersists]
    exact helse _ _ (fun _ h => nomatch h) (hon'.move (.lost none s' ha _))

theorem walks_provision (hc : c.Filed) (hon : c.On (some (.working, w)) s)
    (hstate : w.lobby.state = .provisioning) :
    c.Walks s (Service.provision c.id w w.lobby.provisioningMode now dryRun) c.Ends := by
  refine meets_bind (walks_prepareLobby hon _ fun answer s₁ hon₁ htold => ?_)
  cases answer with
  | ok prepared =>
    refine meets_bind (walks_ask hon₁ fun a ha s₂ hon₂ _ => ?_)
    refine meets_bind (walks_ofExcept hon₂ fun advanced hadvanced => ?_)
    have hprovisioned := hon₂.network (.provisioned w hstate hadvanced)
    exact walks_persisted hprovisioned (hprovisioned.filed hc).named
  | error error =>
    have hfailed := hon₁.network (.provisionFailed w now hstate
      (htold.heard [] (World.heard_nil s)))
    exact walks_persisted hfailed (hfailed.filed hc).named

theorem walks_createAndProvision (hc : c.Filed) (hon : c.On none s) {call : CreateCall}
    (hnew : c.IsNew call.lobby call.now) (hread : .clock call.now ∈ s.trace)
    {mode : ProvisioningMode} (hmode : call.lobby.lobby.provisioningMode = mode) :
    c.Walks s (Service.createAndProvision c.id call mode dryRun) c.Ends := by
  subst hmode
  have hstate := hnew.provisioning
  refine meets_bind (walks_storeCreate hon hnew hread (fun s₁ hon₁ => ?_)
    fun outcome s₁ hother hon₁ => ?_)
  · dsimp only
    by_cases hdry : dryRun = true
    · rw [if_pos hdry]
      exact walks_provision hc hon₁ hstate
    · rw [if_neg hdry]
      have hcreating := hon₁.network (.creating call.lobby hstate)
      exact meets_bind (walks_persist hcreating (hon₁.filed hc).named fun s₂ hon₂ _ =>
        walks_provision hc hon₂ hstate)
  · cases outcome with
    | none => exact walks_fail hon₁
    | some outcome =>
      cases outcome with
      | error error => exact walks_fail hon₁
      | ok outcome =>
        cases outcome with
        | conflict => exact walks_fail hon₁
        | replay stored => exact walks_done hon₁
        | created stored => exact absurd rfl (hother stored)

theorem walks_createLobby (hc : c.Filed) {request : CreateLobbyRequest} {tag : String}
    {localOperator : Bool} : c.Walks c.start
    (Service.createLobby c.id c.config headers request fingerprint tag localOperator) c.Ends := by
  refine meets_bind (walks_authorizeScope .refl fun legacy s₁ hon₁ _ => ?_)
  refine meets_bind (walks_ofExcept hon₁ fun actor _ => ?_)
  refine meets_bind (walks_ofExcept hon₁ fun key _ => ?_)
  refine meets_bind (walks_check hon₁ fun hvalid => ?_)
  refine meets_bind (walks_check hon₁ fun _ => ?_)
  refine meets_bind (walks_check hon₁ fun _ => ?_)
  refine meets_bind (walks_ask hon₁ fun a ha s₂ hon₂ _ => ?_)
  refine meets_bind (walks_ofExcept hon₂ fun mode _ => ?_)
  refine meets_bind (walks_clockNow hon₂ fun b hb s₃ hon₃ _ hread => ?_)
  refine meets_bind (walks_realCreateGrant hon₃ fun grant s₄ hon₄ hgrows₄ => ?_)
  refine meets_bind (walks_ask hon₄ fun d hd s₅ hon₅ hquiet₅ => ?_)
  refine walks_createAndProvision hc hon₅ ?_ (hquiet₅.grows _ (hgrows₄ _ hread)) ?_
  · exact ⟨request, mode, actor, d.token, tag, _, localOperator, hvalid, rfl⟩
  · exact Service.newRecord_mode _ _ _ _ _ _ _ _ _ _

/-! ### The reaper, the launcher and the restart -/

/-- A last replace, whatever becomes of it. -/
theorem walks_replaced (hon : c.On (some (stage, w)) s) (hnamed : w.lobby.lobbyId = c.id) {a : α} :
    c.Walks s (do
      let _ ← Service.storeReplace c.id w
      pure a) c.Ends :=
  meets_bind (walks_storeReplace hon hnamed (fun _ hon' _ => walks_done hon')
    fun _ hon' _ => walks_done hon')

theorem walks_cleanupExpired (hc : c.Filed) (hrequest : c.request = .cleanupExpired) :
    c.Walks c.start (Service.cleanupExpired c.id) c.Ends := by
  refine meets_bind (walks_clockNow .refl fun a ha s₁ hon₁ hquiet₁ hread => ?_)
  refine meets_bind (walks_storeGet hon₁ hquiet₁ (fun s₂ hon₂ => walks_done hon₂) ?_)
  intro r s₂ hon₂ hload _ hquiet₂
  have hread₂ := hquiet₂.grows _ hread
  have hadmitted := hon₂.lobby (.admitted r)
  have hfiled := hadmitted.filed hc
  have hreaped : ∀ {u : StoredLobby}, c.On (some (.working, u)) s₂ →
      u.lobby.state.isClosed = true → (u.lobby.state = .closing ∨ u.cleanupPending = true) →
      (u.networkLifecycle = .verifyingAbsence → c.MayEnd u (u.lobby.state == .closing)) →
      c.Walks s₂ (do
        let stored ← Service.cleanupResources c.id u a.now true (u.lobby.state == .closing)
        let _ ← Service.storeReplace c.id stored
        pure Response.done) c.Ends := by
    intro u hon hclosed hdue hend
    refine meets_bind ((walks_cleanupResources hc hon hclosed (.inr hdue) hread₂ hend true).mono
      fun v s₃ hv => ?_)
    exact walks_replaced hv.1 (hv.1.filed hc).named
  dsimp only
  rcases r.applyTimeTransitions_cases a.now with hkept | ⟨next, reason, hlegal, hnext, hmoved⟩
  · rw [hkept]
    dsimp only
    by_cases hwanted : (false || r.lobby.state == .closing
        || (r.cleanupPending && r.lobby.state.isTerminal)) = true
    · rw [if_pos hwanted]
      rw [Bool.false_or, Bool.or_eq_true, beq_iff_eq, Bool.and_eq_true] at hwanted
      have hclosed : r.lobby.state.isClosed = true := by
        rcases hwanted with hclosing | ⟨-, hterminal⟩
        · rw [hclosing]
          rfl
        · exact LobbyState.isClosed_of_isTerminal hterminal
      exact hreaped hadmitted hclosed (hwanted.imp_right And.left)
        fun hverifying => .inr ⟨hrequest, r, hload, hverifying, rfl⟩
    · rw [if_neg hwanted]
      exact walks_done hadmitted
  · have hdue := hadmitted.lobby (.deadline r a.now)
    have hopen : r.networkLifecycle ≠ .verifyingAbsence := by
      intro hverifying
      rw [LobbyState.destroyed_of_closed (hfiled.closed hverifying) hlegal] at hnext
      exact hnext.elim (fun h => nomatch h.1) nofun
    have hclosed : next.isClosed = true := by
      rcases hnext with ⟨rfl, -⟩ | rfl
      · rfl
      · rfl
    rw [hmoved] at hdue ⊢
    dsimp only at hdue ⊢
    rw [Bool.true_or, Bool.true_or, if_pos rfl]
    exact hreaped hdue hclosed (.inr rfl) fun h => absurd h hopen

theorem walks_beginProtectedCleanup (hc : c.Filed) {generation : UInt64}
    (hrequest : c.request = .beginProtectedCleanup generation) :
    c.Walks c.start (Service.beginProtectedCleanup c.id generation) c.Ends := by
  refine meets_bind (walks_storeGet .refl (World.Quiet.refl c.id c.start)
    (fun s₁ hon₁ => walks_done hon₁) ?_)
  intro r s₁ hon₁ hload _ hquiet₁
  dsimp only
  by_cases hnamed : r.dryRun = false ∧ r.networkGeneration = generation
  · rw [if_pos hnamed]
    refine meets_bind (walks_clockNow hon₁ fun a ha s₂ hon₂ _ hread => ?_)
    have hprotected := hon₂.network (.protect r hrequest hload hnamed.1 hnamed.2)
    refine meets_bind ((walks_cleanupResources hc hprotected rfl (.inr (.inl rfl)) hread nofun
      true).mono fun u s₃ hu => ?_)
    exact walks_persisted hu.1 (hu.1.filed hc).named
  · rw [if_neg hnamed]
    exact walks_done hon₁

theorem walks_verifyEvidence (hc : c.Filed) (hrequest : c.request = .reconcileStartup)
    (hon : c.On (some (.loaded, w)) s)
    (hload : c.Loads w ∨ w.lobby.state = .starting ∨ w.lobby.state = .inMatch) :
    c.Walks s (Service.verifyEvidence c.id w) c.Ends := by
  unfold Service.verifyEvidence
  by_cases hdry : w.dryRun = true
  · rw [if_pos hdry]
    exact walks_done hon
  rw [if_neg hdry]
  refine meets_bind (walks_ask hon fun a ha s₁ hon₁ _ => ?_)
  refine meets_bind (walks_ask hon₁ fun b hb s₂ hon₂ _ => ?_)
  refine meets_bind (walks_ask hon₂ fun d hd s₃ hon₃ _ => ?_)
  cases hverdict : Service.startupVerdict w a.denied b.custody d.policyDigest with
  | none => exact walks_done hon₃
  | some reason =>
    have hmarked := hon₃.network (.verdict w hrequest hload (Bool.eq_false_of_not_eq_true hdry) ha
      hverdict)
    exact walks_replaced hmarked (hmarked.filed hc).named

theorem walks_reconcileStartup (hc : c.Filed) (hrequest : c.request = .reconcileStartup) :
    c.Walks c.start (Service.reconcileStartup c.id) c.Ends := by
  refine meets_bind (walks_storeGet .refl (World.Quiet.refl c.id c.start)
    (fun s₁ hon₁ => walks_done hon₁) ?_)
  intro r s₁ hon₁ hload _ _
  dsimp only
  by_cases hrunning : 0 < r.sessionGeneration
      ∧ (r.lobby.state = .starting ∨ r.lobby.state = .inMatch)
  · rw [if_pos hrunning]
    have hrenewed := hon₁.lobby (.renewed r hrunning.2)
    refine meets_bind (walks_storeReplace hrenewed (hrenewed.filed hc).named ?_ ?_)
    · exact fun s₂ hon₂ _ => walks_verifyEvidence hc hrequest hon₂ (.inr hrunning.2)
    · exact fun s₂ hon₂ _ => walks_done hon₂
  · rw [if_neg hrunning]
    exact walks_verifyEvidence hc hrequest hon₁ (.inl hload)

end Handlers

end Walk

/-! ## All requests -/

theorem walks_program {c : Course} (hc : c.Filed) :
    c.Walks c.start (c.request.program c.id c.config) c.Ends := by
  cases hrequest : c.request with
  | create headers request fingerprint tag localOperator => exact walks_createLobby hc
  | get headers => exact walks_getLobby hc
  | invite => exact walks_createInvitation hc
  | join headers request fingerprint => exact walks_joinLobby hc
  | leave headers player => exact walks_leaveLobby hc hrequest
  | measure headers request => exact walks_submitMeasurements hc
  | elect headers => exact walks_electLobbyAuthority hc
  | start headers request fingerprint => exact walks_startLobby hc
  | heartbeat headers request => exact walks_authorityHeartbeat hc hrequest
  | results headers request fingerprint => exact walks_submitResults hc
  | delete headers => exact walks_deleteLobby hc hrequest
  | cleanupExpired => exact walks_cleanupExpired hc hrequest
  | beginProtectedCleanup generation => exact walks_beginProtectedCleanup hc hrequest
  | reconcileStartup => exact walks_reconcileStartup hc hrequest

/-- **A request makes only moves**: wherever it ends or is dropped, the world is one that a run of
moves reaches. -/
theorem handle_moves {c : Course} (hc : c.Filed) : ∃ held,
    Moves c ⟨none, c.start⟩ ⟨held, (c.request.program c.id c.config).exec c.start c.answers⟩ :=
  (walks_program hc).exec (fun _ _ h => h) fun _ ho => ho

end Spurfire
