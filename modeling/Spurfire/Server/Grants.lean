import Spurfire.Server.Lease

/-!
# One-use authority

A real create spends the protected receipt, the rehearsal receipt or one grant.

* `Ledger` is the store with a serial number for each grant, given as the grant is issued; the
  serials follow the grants through the retention and change nothing else;
* `Ledger.Consumes` says which authority a create spends, `Ledger.Stored` reads its consumption mark;
* `Sound.spent_kept` and `consumes_once` are the at-most-once argument;
* `store_singleton` puts the lease, the quarantine and the authorities together over every run.
-/

namespace Spurfire

inductive CreateAuthority
  | grant (serial : ℕ)
  | rehearsalReceipt
  | alphaReceipt
deriving DecidableEq

/-- The store, a serial number for each of its grants, and the next serial. -/
structure Ledger where
  data : StoreData
  serials : List ℕ
  issued : ℕ

namespace Ledger

def empty (storeInstanceId canonicalStatePathSha256 : Digest) : Ledger :=
  ⟨.empty storeInstanceId canonicalStatePathSha256, [], 0⟩

/-- The grants under their serials. -/
def grants (l : Ledger) : List (ℕ × StoredCreateGrant) := l.serials.zip l.data.realCreateGrants

/-- The retention purge, with the serials of the grants it keeps. -/
def purge (l : Ledger) (now : UnixMillis) : Ledger :=
  { l with
    data := l.data.purgeRetained now
    serials := (l.grants.filter fun row => StoreData.retainsGrant now row.2).map Prod.fst }

def step (l : Ledger) (s : StoreStep) : StoreAnswer × Ledger :=
  let (answer, data) := l.data.step s
  (answer, match s, answer with
    | .create call, _ => { l.purge call.now with data }
    | .cleanupExpired now, _ => { l.purge now with data }
    | .issueRealCreateGrant _ _, .done (.ok ()) => ⟨data, l.serials ++ [l.issued], l.issued + 1⟩
    | _, _ => { l with data })

theorem step_data (l : Ledger) (s : StoreStep) :
    ((l.step s).1, (l.step s).2.data) = l.data.step s := by
  unfold step
  dsimp only
  split
  · rfl
  · rfl
  · rfl
  · rfl

theorem run_data (l : Ledger) (as : List StoreStep) :
    (Runs.run step l as).data = Runs.run StoreData.step l.data as := by
  induction as generalizing l with
  | nil => rfl
  | cons a as ih =>
    rw [Runs.run_cons, Runs.run_cons, ih]
    exact congrArg (fun r => Runs.run StoreData.step r as) (congrArg Prod.snd (step_data l a))

/-- The authority a create would spend from this (purged) image. -/
def authorityOf (l : Ledger) (call : CreateCall) : Option CreateAuthority :=
  if l.data.protectedAlphaReceipt.isSome then some .alphaReceipt
  else if l.data.localRehearsalReceipt.isSome then some .rehearsalReceipt
  else
    call.realCreateGrant.bind fun candidate =>
      (l.grants.find? fun row => StoreData.grantUsable call.now candidate row.2).map (.grant ·.1)

def Consumes (l : Ledger) (s : StoreStep) (x : CreateAuthority) : Prop :=
  ∃ call lobby, s = .create call ∧ l.data.CreatesReal s lobby
    ∧ (l.purge call.now).authorityOf call = some x

/-- `x` is stored, with this consumption mark. -/
def Stored (l : Ledger) (x : CreateAuthority) (consumedAt : Option UnixMillis) : Prop :=
  match x with
  | .grant n => ∃ grant, (n, grant) ∈ l.grants ∧ grant.consumedAt = consumedAt
  | .rehearsalReceipt => ∃ receipt, l.data.localRehearsalReceipt = some receipt
      ∧ receipt.consumedAt = consumedAt
  | .alphaReceipt => ∃ receipt, l.data.protectedAlphaReceipt = some receipt
      ∧ receipt.consumedAt = consumedAt

/-- `x` has been issued and is stored nowhere without a consumption mark. -/
def Spent (l : Ledger) (x : CreateAuthority) : Prop :=
  ¬l.Stored x none ∧
    match x with
    | .grant n => n < l.issued
    | .rehearsalReceipt => l.data.localRehearsalReceipt.isSome
    | .alphaReceipt => l.data.protectedAlphaReceipt.isSome

/-- One serial for each grant, all different and all issued. -/
structure Sound (l : Ledger) : Prop where
  length_eq : l.serials.length = l.data.realCreateGrants.length
  nodup : l.serials.Nodup
  issued : ∀ n ∈ l.serials, n < l.issued

theorem sound_empty (instanceId path : Digest) : (empty instanceId path).Sound :=
  ⟨rfl, List.nodup_nil, fun _ h => nomatch h⟩

variable {l : Ledger} {now : UnixMillis} {call : CreateCall}

/-! ## The grants through a step -/

theorem Sound.map_snd_grants (hl : l.Sound) : l.grants.map Prod.snd = l.data.realCreateGrants :=
  List.map_snd_zip hl.length_eq.symm.le

theorem Sound.map_fst_grants (hl : l.Sound) : l.grants.map Prod.fst = l.serials :=
  List.map_fst_zip hl.length_eq.le

theorem mem_serials {n : ℕ} {grant : StoredCreateGrant} (h : (n, grant) ∈ l.grants) :
    n ∈ l.serials := (List.of_mem_zip h).1

/-- The retention keeps a part of the numbered grants. -/
theorem Sound.grants_purge (hl : l.Sound) :
    (l.purge now).grants = l.grants.filter fun row => StoreData.retainsGrant now row.2 := by
  have hgrants : (l.purge now).data.realCreateGrants
      = (l.grants.filter fun row => StoreData.retainsGrant now row.2).map Prod.snd := by
    change l.data.realCreateGrants.filter _ = _
    rw [← hl.map_snd_grants, List.filter_map]
    rfl
  unfold grants at *
  rw [hgrants]
  exact (List.zip_map' ..).trans (List.map_id _)

theorem Sound.purge (hl : l.Sound) (now : UnixMillis) : (l.purge now).Sound := by
  have hsub : ((l.grants.filter fun row => StoreData.retainsGrant now row.2).map Prod.fst).Sublist
      l.serials := by
    rw [← hl.map_fst_grants]
    exact List.filter_sublist.map _
  refine ⟨?_, hl.nodup.sublist hsub, fun n hn => hl.issued n (hsub.subset hn)⟩
  change ((l.grants.filter _).map Prod.fst).length = (l.data.realCreateGrants.filter _).length
  rw [← hl.map_snd_grants, List.filter_map, List.length_map, List.length_map]
  rfl

/-- A serial belongs to one grant. -/
theorem Sound.grant_unique (hl : l.Sound) {n : ℕ} {g g' : StoredCreateGrant}
    (h : (n, g) ∈ l.grants) (h' : (n, g') ∈ l.grants) : g = g' := by
  have hnodup : (l.grants.map Prod.fst).Nodup := hl.map_fst_grants ▸ hl.nodup
  exact congrArg Prod.snd (List.inj_on_of_nodup_map hnodup h h' rfl)

/-! ## What a create spends -/

theorem zip_modify {α β : Type*} (f : β → β) (l : List α) (l' : List β) (i : ℕ) :
    l.zip (l'.modify i f) = (l.zip l').modify i (Prod.map id f) := by
  induction l generalizing l' i with
  | nil => simp
  | cons a l ih =>
    cases l' with
    | nil => simp
    | cons b l' =>
      cases i with
      | zero => simp
      | succ i => simp [ih]

/-- A real create spends one authority: which one, that it was not consumed before, and the only
field that changes. -/
theorem Sound.creates_real (hl : l.Sound) {lobby : StoredLobby}
    (h : l.data.CreatesReal (.create call) lobby) :
    ((l.purge call.now).authorityOf call = some .alphaReceipt
        ∧ ∃ receipt, l.data.protectedAlphaReceipt = some receipt ∧ receipt.consumedAt = none
        ∧ (l.step (.create call)).2.data.protectedAlphaReceipt
            = some { receipt with consumedAt := some call.now }
        ∧ (l.step (.create call)).2.data.localRehearsalReceipt = l.data.localRehearsalReceipt
        ∧ (l.step (.create call)).2.grants = (l.purge call.now).grants)
      ∨ ((l.purge call.now).authorityOf call = some .rehearsalReceipt
        ∧ ∃ receipt, l.data.localRehearsalReceipt = some receipt ∧ receipt.consumedAt = none
        ∧ (l.step (.create call)).2.data.localRehearsalReceipt
            = some { receipt with consumedAt := some call.now }
        ∧ (l.step (.create call)).2.data.protectedAlphaReceipt = l.data.protectedAlphaReceipt
        ∧ (l.step (.create call)).2.grants = (l.purge call.now).grants)
      ∨ ∃ i n grant, (l.purge call.now).authorityOf call = some (.grant n)
        ∧ (l.purge call.now).grants[i]? = some (n, grant) ∧ grant.consumedAt = none
        ∧ (l.step (.create call)).2.grants = (l.purge call.now).grants.modify i
            (Prod.map id fun grant => { grant with consumedAt := some call.now })
        ∧ (l.step (.create call)).2.data.protectedAlphaReceipt = l.data.protectedAlphaReceipt
        ∧ (l.step (.create call)).2.data.localRehearsalReceipt = l.data.localRehearsalReceipt := by
  obtain ⟨hcreated, hreal⟩ := h
  have hcreated : (l.data.createInData call).1 = .ok (.created lobby) := by
    injection hcreated
  have hdata : (l.step (.create call)).2.data = (l.data.createInData call).2 := rfl
  have hserials : (l.step (.create call)).2.serials = (l.purge call.now).serials := rfl
  rcases StoreData.createInData_cases l.data call with
    ⟨answer, hanswer, hnone⟩ | ⟨reserved, hreserve, -, -, hanswer⟩
  · exact absurd ((congrArg Prod.fst hanswer).symm.trans hcreated) (hnone lobby)
  rw [hanswer] at hcreated
  cases hcreated
  rw [if_neg (by rw [hreal]; exact Bool.false_ne_true)] at hreserve
  obtain ⟨-, -, candidate, consumed, hcandidate, hconsume, lease, -, -, rfl⟩ :=
    StoreData.reserveReal_ok hreserve
  rw [hanswer] at hdata
  have hpurge := hl.purge call.now
  rcases StoreData.consumeCreateAuthority_ok hconsume with
    ⟨receipt, halpha, hfresh, rfl⟩ | ⟨halpha, receipt, hrehearsal, hfresh, rfl⟩
      | ⟨halpha, hrehearsal, i, hfind, rfl⟩
  · refine .inl ⟨?_, receipt, halpha, hfresh, by rw [hdata]; rfl, by rw [hdata]; rfl, ?_⟩
    · exact if_pos (by rw [show (l.purge call.now).data.protectedAlphaReceipt = _ from halpha]; rfl)
    · unfold grants
      rw [hserials, hdata]
      rfl
  · have hno : ¬(l.purge call.now).data.protectedAlphaReceipt.isSome := by
      rw [show (l.purge call.now).data.protectedAlphaReceipt = _ from halpha]
      exact Bool.false_ne_true
    refine .inr (.inl ⟨?_, receipt, hrehearsal, hfresh, by rw [hdata]; rfl, by rw [hdata]; rfl, ?_⟩)
    · refine (if_neg hno).trans (if_pos ?_)
      rw [show (l.purge call.now).data.localRehearsalReceipt = _ from hrehearsal]
      rfl
    · unfold grants
      rw [hserials, hdata]
      rfl
  · -- the grant found in the image is the numbered grant of the same place
    have hfind : ((l.purge call.now).grants.map Prod.snd).findIdx?
        (StoreData.grantUsable call.now candidate) = some i := by
      rw [hpurge.map_snd_grants]
      exact hfind
    rw [List.findIdx?_map] at hfind
    obtain ⟨hi, husable, -⟩ := List.findIdx?_eq_some_iff_getElem.mp hfind
    have hget := List.getElem?_eq_getElem hi
    have hfound : (l.purge call.now).grants.find?
        (fun row => StoreData.grantUsable call.now candidate row.2)
          = some (l.purge call.now).grants[i] := by
      rw [List.find?_eq_some_iff_getElem]
      refine ⟨husable, i, hi, rfl, fun j hj => ?_⟩
      have := (List.findIdx?_eq_some_iff_getElem.mp hfind).2.2 j hj
      simpa using this
    have hno : ¬(l.purge call.now).data.protectedAlphaReceipt.isSome := by
      rw [show (l.purge call.now).data.protectedAlphaReceipt = _ from halpha]
      exact Bool.false_ne_true
    have hno' : ¬(l.purge call.now).data.localRehearsalReceipt.isSome := by
      rw [show (l.purge call.now).data.localRehearsalReceipt = _ from hrehearsal]
      exact Bool.false_ne_true
    refine .inr (.inr ⟨i, ((l.purge call.now).grants[i]).1, ((l.purge call.now).grants[i]).2, ?_,
      hget, ?_, ?_, by rw [hdata]; rfl, by rw [hdata]; rfl⟩)
    · unfold authorityOf
      rw [if_neg hno, if_neg hno', hcandidate, Option.bind_some, hfound, Option.map_some]
    · unfold Function.comp StoreData.grantUsable at husable
      simp only [Bool.and_eq_true, Option.isNone_iff_eq_none] at husable
      exact husable.1.1
    · unfold grants
      rw [hserials, hdata]
      exact zip_modify _ _ _ _

/-! ## Every other step -/

/-- A create that files no real lobby leaves the authorities as the purge leaves them. -/
theorem create_other (h : ∀ lobby, ¬l.data.CreatesReal (.create call) lobby) :
    (l.step (.create call)).2.data.protectedAlphaReceipt = l.data.protectedAlphaReceipt
      ∧ (l.step (.create call)).2.data.localRehearsalReceipt = l.data.localRehearsalReceipt
      ∧ (l.step (.create call)).2.data.realCreateGrants
        = (l.purge call.now).data.realCreateGrants := by
  change (l.data.createInData call).2.protectedAlphaReceipt = _
    ∧ (l.data.createInData call).2.localRehearsalReceipt = _
    ∧ (l.data.createInData call).2.realCreateGrants = _
  rcases StoreData.createInData_cases l.data call with
    ⟨answer, hanswer, -⟩ | ⟨reserved, hreserve, -, -, hanswer⟩
  · rw [hanswer]
    exact ⟨rfl, rfl, rfl⟩
  · by_cases hdry : call.lobby.dryRun = true
    · rw [if_pos hdry] at hreserve
      cases hreserve
      rw [hanswer]
      exact ⟨rfl, rfl, rfl⟩
    · refine absurd ⟨?_, Bool.eq_false_of_not_eq_true hdry⟩ (h call.lobby)
      exact congrArg StoreAnswer.create (congrArg Prod.fst hanswer)

theorem moveLease_authorities (data : StoreData) (lobby : StoredLobby) :
    (data.moveLease lobby).protectedAlphaReceipt = data.protectedAlphaReceipt
      ∧ (data.moveLease lobby).localRehearsalReceipt = data.localRehearsalReceipt
      ∧ (data.moveLease lobby).realCreateGrants = data.realCreateGrants := by
  unfold StoreData.moveLease
  dsimp only
  split
  · split_ifs
    all_goals exact ⟨rfl, rfl, rfl⟩
  · split_ifs
    all_goals exact ⟨rfl, rfl, rfl⟩

theorem normalize_authorities (data : StoreData) :
    data.normalizeLoadedStore.2.protectedAlphaReceipt = data.protectedAlphaReceipt
      ∧ data.normalizeLoadedStore.2.localRehearsalReceipt = data.localRehearsalReceipt
      ∧ data.normalizeLoadedStore.2.realCreateGrants = data.realCreateGrants := by
  unfold StoreData.normalizeLoadedStore
  dsimp only
  split
  · exact ⟨rfl, rfl, rfl⟩
  · split
    · exact ⟨rfl, rfl, rfl⟩
    · split_ifs
      all_goals exact ⟨rfl, rfl, rfl⟩
  · split_ifs
    all_goals exact ⟨rfl, rfl, rfl⟩

/-- What a step that spends nothing does to the authorities: a receipt may be installed where there
was none, grants may leave, and a new grant comes with a new serial. -/
structure Preserves (l l' : Ledger) : Prop where
  alpha : l'.data.protectedAlphaReceipt = l.data.protectedAlphaReceipt
    ∨ l.data.protectedAlphaReceipt = none
  rehearsal : l'.data.localRehearsalReceipt = l.data.localRehearsalReceipt
    ∨ l.data.localRehearsalReceipt = none
  grants : ∀ row ∈ l'.grants, row ∈ l.grants ∨ row.1 = l.issued
  issued : l.issued ≤ l'.issued
  sound : l'.Sound

theorem Sound.preserves_of_eq (hl : l.Sound) {l' : Ledger}
    (h : l'.data.protectedAlphaReceipt = l.data.protectedAlphaReceipt
      ∧ l'.data.localRehearsalReceipt = l.data.localRehearsalReceipt
      ∧ l'.data.realCreateGrants = l.data.realCreateGrants)
    (hserials : l'.serials = l.serials) (hissued : l'.issued = l.issued) : l.Preserves l' := by
  refine ⟨.inl h.1, .inl h.2.1, fun row hrow => .inl ?_, hissued.ge, ?_, ?_, ?_⟩
  · unfold Ledger.grants at *
    rwa [hserials, h.2.2] at hrow
  · rw [hserials, h.2.2]
    exact hl.length_eq
  · rw [hserials]
    exact hl.nodup
  · rw [hserials, hissued]
    exact hl.issued

theorem Sound.preserves_purge (hl : l.Sound) (now : UnixMillis) : l.Preserves (l.purge now) := by
  refine ⟨.inl rfl, .inl rfl, fun row hrow => .inl ?_, le_rfl, hl.purge now⟩
  rw [hl.grants_purge] at hrow
  exact List.mem_of_mem_filter hrow

theorem Preserves.trans {l' l'' : Ledger} (h : l.Preserves l') (h' : l'.Preserves l'')
    (hissued : l'.issued = l.issued) : l.Preserves l'' := by
  refine ⟨?_, ?_, fun row hrow => ?_, h.issued.trans h'.issued, h'.sound⟩
  · rcases h.alpha with heq | hnone
    · rw [← heq]
      exact h'.alpha
    · exact .inr hnone
  · rcases h.rehearsal with heq | hnone
    · rw [← heq]
      exact h'.rehearsal
    · exact .inr hnone
  · rcases h'.grants row hrow with hmem | hnew
    · exact h.grants row hmem
    · exact .inr (hnew.trans hissued)

theorem Sound.preserves_issue (hl : l.Sound) (verifier : Digest) (expiresAt : UnixMillis) :
    l.Preserves (l.step (.issueRealCreateGrant verifier expiresAt)).2 := by
  by_cases hfull : MAX_REAL_CREATE_GRANTS ≤ l.data.realCreateGrants.length
  · have hstep : (l.step (.issueRealCreateGrant verifier expiresAt)).2 = l := by
      have hanswer : l.data.issueRealCreateGrant verifier expiresAt
          = (.error .capacity, l.data) := if_pos hfull
      unfold step
      rw [show l.data.step (.issueRealCreateGrant verifier expiresAt)
        = (l.data.issueRealCreateGrant verifier expiresAt).map .done id from rfl, hanswer]
      rfl
    rw [hstep]
    exact hl.preserves_of_eq ⟨rfl, rfl, rfl⟩ rfl rfl
  · have hstep : (l.step (.issueRealCreateGrant verifier expiresAt)).2
        = ⟨{ l.data with realCreateGrants := l.data.realCreateGrants ++ [⟨verifier, expiresAt, none⟩] },
          l.serials ++ [l.issued], l.issued + 1⟩ := by
      have hanswer : l.data.issueRealCreateGrant verifier expiresAt = (.ok (), { l.data with
          realCreateGrants := l.data.realCreateGrants ++ [⟨verifier, expiresAt, none⟩] }) :=
        if_neg hfull
      unfold step
      rw [show l.data.step (.issueRealCreateGrant verifier expiresAt)
        = (l.data.issueRealCreateGrant verifier expiresAt).map .done id from rfl, hanswer]
      rfl
    rw [hstep]
    refine ⟨.inl rfl, .inl rfl, fun row hrow => ?_, Nat.le_succ _, ?_, ?_, ?_⟩
    · unfold Ledger.grants at hrow
      dsimp only at hrow
      rw [List.zip_append hl.length_eq, List.mem_append] at hrow
      refine hrow.imp_right fun hlast => ?_
      rw [List.zip_cons_cons, List.zip_nil_left, List.mem_singleton] at hlast
      rw [hlast]
    · simp only [List.length_append, hl.length_eq, List.length_singleton]
    · refine hl.nodup.append (List.nodup_singleton _) fun n hn hlast => ?_
      rw [List.mem_singleton.mp hlast] at hn
      exact absurd (hl.issued _ hn) (lt_irrefl _)
    · intro n hn
      rcases List.mem_append.mp hn with hold | hlast
      · exact (hl.issued n hold).trans (Nat.lt_succ_self _)
      · rw [List.mem_singleton.mp hlast]
        exact Nat.lt_succ_self _

theorem Sound.step_preserves (hl : l.Sound) {s : StoreStep}
    (h : ∀ lobby, ¬l.data.CreatesReal s lobby) : l.Preserves (l.step s).2 := by
  cases s with
  | create call =>
    exact (hl.preserves_purge call.now).trans
      ((hl.purge call.now).preserves_of_eq (create_other h) rfl rfl) rfl
  | cleanupExpired now =>
    exact (hl.preserves_purge now).trans
      ((hl.purge now).preserves_of_eq ⟨rfl, rfl, rfl⟩ rfl rfl) rfl
  | issueRealCreateGrant verifier expiresAt => exact hl.preserves_issue verifier expiresAt
  | replace lobby =>
    refine hl.preserves_of_eq ?_ rfl rfl
    change (l.data.replaceInData lobby).2.protectedAlphaReceipt = _
      ∧ (l.data.replaceInData lobby).2.localRehearsalReceipt = _
      ∧ (l.data.replaceInData lobby).2.realCreateGrants = _
    unfold StoreData.replaceInData
    split_ifs
    · exact moveLease_authorities _ lobby
    · exact ⟨rfl, rfl, rfl⟩
  | reopen => exact hl.preserves_of_eq (normalize_authorities l.data) rfl rfl
  | quarantineRealCreation => exact hl.preserves_of_eq ⟨rfl, rfl, rfl⟩ rfl rfl
  | installLocalRehearsalReceipt q =>
    have hdata : (l.step (.installLocalRehearsalReceipt q)).2.data
        = (l.data.installRehearsalInData q).2 := rfl
    unfold StoreData.installRehearsalInData at hdata
    by_cases hopen : l.data.acceptsReceipt = true
    · rw [if_pos hopen] at hdata
      have hnone : l.data.localRehearsalReceipt = none := by
        unfold StoreData.acceptsReceipt at hopen
        simp only [Bool.and_eq_true, Option.isNone_iff_eq_none] at hopen
        exact hopen.1.1.1
      have hgrants : (l.step (.installLocalRehearsalReceipt q)).2.grants = l.grants := by
        unfold grants
        rw [hdata]
        rfl
      refine ⟨.inl (by rw [hdata]), .inr hnone, fun row hrow => .inl (hgrants ▸ hrow), le_rfl,
        ⟨?_, hl.nodup, hl.issued⟩⟩
      rw [hdata]
      exact hl.length_eq
    · rw [if_neg hopen] at hdata
      exact hl.preserves_of_eq (by rw [hdata]; exact ⟨rfl, rfl, rfl⟩) rfl rfl
  | installProtectedAlphaReceipt q =>
    have hdata : (l.step (.installProtectedAlphaReceipt q)).2.data
        = (l.data.installAlphaInData q).2 := rfl
    unfold StoreData.installAlphaInData at hdata
    split_ifs at hdata with hopen
    · have hnone : l.data.protectedAlphaReceipt = none := by
        simp only [Bool.and_eq_true, Option.isNone_iff_eq_none] at hopen
        exact hopen.1.1.1
      have hgrants : (l.step (.installProtectedAlphaReceipt q)).2.grants = l.grants := by
        unfold grants
        rw [hdata]
        rfl
      refine ⟨.inr hnone, .inl (by rw [hdata]), fun row hrow => .inl (hgrants ▸ hrow), le_rfl,
        ⟨?_, hl.nodup, hl.issued⟩⟩
      rw [hdata]
      exact hl.length_eq
    · exact hl.preserves_of_eq (by rw [hdata]; exact ⟨rfl, rfl, rfl⟩) rfl rfl

/-! ## At most once -/

/-- A real create keeps the ledger sound: it marks a grant in place. -/
theorem Sound.step_create (hl : l.Sound) (call : CreateCall) :
    (l.step (.create call)).2.Sound := by
  have hpurge := hl.purge call.now
  refine ⟨hpurge.length_eq.trans ?_, hpurge.nodup, hpurge.issued⟩
  change _ = (l.data.createInData call).2.realCreateGrants.length
  rcases StoreData.createInData_cases l.data call with
    ⟨answer, hanswer, -⟩ | ⟨reserved, hreserve, -, -, hanswer⟩
  · rw [hanswer]
    rfl
  · rw [hanswer]
    by_cases hdry : call.lobby.dryRun = true
    · rw [if_pos hdry] at hreserve
      cases hreserve
      rfl
    · rw [if_neg hdry] at hreserve
      obtain ⟨-, -, candidate, consumed, -, hconsume, lease, -, -, rfl⟩ :=
        StoreData.reserveReal_ok hreserve
      exact (StoreData.consume_keeps hconsume).2.2.2.2.symm

theorem Sound.step (hl : l.Sound) (s : StoreStep) : (l.step s).2.Sound := by
  by_cases hreal : ∃ lobby, l.data.CreatesReal s lobby
  · cases s with
    | create call => exact hl.step_create call
    | _ =>
      obtain ⟨lobby, hcreated, -⟩ := hreal
      exact nomatch hcreated
  · exact (hl.step_preserves fun lobby h => hreal ⟨lobby, h⟩).sound

/-- What a create consumes was stored without a mark and is stored with one. -/
theorem Sound.consumes (hl : l.Sound) {s : StoreStep} {x : CreateAuthority}
    (h : l.Consumes s x) : l.Stored x none ∧ ∃ now, (l.step s).2.Stored x (some now)
      ∧ (l.step s).2.Spent x := by
  obtain ⟨call, lobby, rfl, hreal, hx⟩ := h
  have hsub : ∀ row ∈ (l.purge call.now).grants, row ∈ l.grants := fun row hrow =>
    List.mem_of_mem_filter (hl.grants_purge ▸ hrow)
  rcases hl.creates_real hreal with
    ⟨hauthority, receipt, hstored, hfresh, hmarked, -, -⟩
      | ⟨hauthority, receipt, hstored, hfresh, hmarked, -, -⟩
      | ⟨i, n, grant, hauthority, hget, hfresh, hgrants, -, -⟩
  · cases hx.symm.trans hauthority
    refine ⟨⟨receipt, hstored, hfresh⟩, call.now, ⟨_, hmarked, rfl⟩, ?_, ?_⟩
    · rintro ⟨receipt', hreceipt', hnone⟩
      cases hmarked.symm.trans hreceipt'
      exact nomatch hnone
    · exact Option.isSome_iff_exists.mpr ⟨_, hmarked⟩
  · cases hx.symm.trans hauthority
    refine ⟨⟨receipt, hstored, hfresh⟩, call.now, ⟨_, hmarked, rfl⟩, ?_, ?_⟩
    · rintro ⟨receipt', hreceipt', hnone⟩
      cases hmarked.symm.trans hreceipt'
      exact nomatch hnone
    · exact Option.isSome_iff_exists.mpr ⟨_, hmarked⟩
  · cases hx.symm.trans hauthority
    have hmem := hsub _ (List.mem_of_getElem? hget)
    have hmarked : (n, { grant with consumedAt := some call.now })
        ∈ (l.step (.create call)).2.grants := by
      refine List.mem_of_getElem? (i := i) ?_
      rw [hgrants, List.getElem?_modify_eq, hget]
      rfl
    refine ⟨⟨grant, hmem, hfresh⟩, call.now, ⟨_, hmarked, rfl⟩, ?_, hl.issued n (mem_serials hmem)⟩
    rintro ⟨grant', hgrant', hnone⟩
    cases (hl.step_create call).grant_unique hmarked hgrant'
    exact nomatch hnone

theorem Preserves.spent {l' : Ledger} (h : l.Preserves l') {x : CreateAuthority}
    (hx : l.Spent x) : l'.Spent x := by
  obtain ⟨hmarked, hissued⟩ := hx
  cases x with
  | grant n =>
    refine ⟨?_, Nat.lt_of_lt_of_le hissued h.issued⟩
    rintro ⟨grant, hmem, hnone⟩
    rcases h.grants _ hmem with hold | hnew
    · exact hmarked ⟨grant, hold, hnone⟩
    · exact absurd hissued hnew.ge.not_gt
  | rehearsalReceipt =>
    rcases h.rehearsal with heq | hnone
    · unfold Spent Stored
      dsimp only
      rw [heq]
      exact ⟨hmarked, hissued⟩
    · have hissued : l.data.localRehearsalReceipt.isSome = true := hissued
      rw [hnone] at hissued
      exact absurd hissued Bool.false_ne_true
  | alphaReceipt =>
    rcases h.alpha with heq | hnone
    · unfold Spent Stored
      dsimp only
      rw [heq]
      exact ⟨hmarked, hissued⟩
    · have hissued : l.data.protectedAlphaReceipt.isSome = true := hissued
      rw [hnone] at hissued
      exact absurd hissued Bool.false_ne_true

/-- **Spent authorities stay spent.** -/
theorem Sound.spent_kept (hl : l.Sound) {x : CreateAuthority} (h : l.Spent x) (s : StoreStep) :
    (l.step s).2.Spent x := by
  by_cases hreal : ∃ lobby, l.data.CreatesReal s lobby
  swap
  · exact (hl.step_preserves fun lobby hcreated => hreal ⟨lobby, hcreated⟩).spent h
  obtain ⟨lobby, hcreated⟩ := hreal
  cases s with
  | create call =>
    -- a real create moves one mark from absent to present
    obtain ⟨hunmarked, hissued⟩ := (hl.preserves_purge call.now).spent h
    have hissued' : (l.step (.create call)).2.issued = l.issued := rfl
    rcases hl.creates_real hcreated with
      ⟨-, receipt, -, -, hmarked, hother, hgrants⟩ | ⟨-, receipt, -, -, hmarked, hother, hgrants⟩
        | ⟨i, n, grant, -, hget, -, hgrants, halpha, hrehearsal⟩
    · cases x with
      | grant m =>
        unfold Spent Stored
        dsimp only
        rw [hgrants]
        exact ⟨hunmarked, hissued⟩
      | rehearsalReceipt =>
        unfold Spent Stored
        dsimp only
        rw [hother]
        exact ⟨hunmarked, hissued⟩
      | alphaReceipt =>
        refine ⟨?_, Option.isSome_iff_exists.mpr ⟨_, hmarked⟩⟩
        rintro ⟨receipt', hreceipt', hnone⟩
        cases hmarked.symm.trans hreceipt'
        exact nomatch hnone
    · cases x with
      | grant m =>
        unfold Spent Stored
        dsimp only
        rw [hgrants]
        exact ⟨hunmarked, hissued⟩
      | alphaReceipt =>
        unfold Spent Stored
        dsimp only
        rw [hother]
        exact ⟨hunmarked, hissued⟩
      | rehearsalReceipt =>
        refine ⟨?_, Option.isSome_iff_exists.mpr ⟨_, hmarked⟩⟩
        rintro ⟨receipt', hreceipt', hnone⟩
        cases hmarked.symm.trans hreceipt'
        exact nomatch hnone
    · cases x with
      | alphaReceipt =>
        unfold Spent Stored
        dsimp only
        rw [halpha]
        exact ⟨hunmarked, hissued⟩
      | rehearsalReceipt =>
        unfold Spent Stored
        dsimp only
        rw [hrehearsal]
        exact ⟨hunmarked, hissued⟩
      | grant m =>
        refine ⟨?_, hissued⟩
        rintro ⟨grant', hmem, hnone⟩
        obtain ⟨j, hj⟩ := List.mem_iff_getElem?.mp hmem
        rw [hgrants, List.getElem?_modify] at hj
        obtain ⟨row, hrow, hmod⟩ := Option.map_eq_some_iff.mp hj
        by_cases hij : i = j
        · rw [if_pos hij] at hmod
          rw [← congrArg (fun r => r.2.consumedAt) hmod] at hnone
          exact nomatch hnone
        · rw [if_neg hij] at hmod
          exact hunmarked ⟨grant', List.mem_of_getElem? (hmod ▸ hrow), hnone⟩
  | _ => exact nomatch hcreated.1

/-- **No authority is spent twice.** -/
theorem consumes_once {l : Ledger} (hl : l.Sound) {a b : StoreStep} {mid : List StoreStep}
    {x : CreateAuthority} (ha : l.Consumes a x) :
    ¬(Runs.run step (l.step a).2 mid).Consumes b x :=
  Runs.spent_once (C := fun _ _ => True) (I := Sound) (U := Consumes) (S := Spent)
    (fun _ s _ hl => hl.step s) (fun _ s _ _ hl hx => hl.spent_kept hx s)
    (fun _ _ _ _ hl hx hspent => hspent.1 (hl.consumes hx).1)
    (fun _ _ _ _ hl hx => (hl.consumes hx).2.choose_spec.2) hl (Runs.along_true _ _) ha

/-- Every real create spends an authority. -/
theorem Sound.creates_consumes (hl : l.Sound) {s : StoreStep} {lobby : StoredLobby}
    (h : l.data.CreatesReal s lobby) : ∃ x, l.Consumes s x := by
  cases s with
  | create call =>
    rcases hl.creates_real h with ⟨hx, -⟩ | ⟨hx, -⟩ | ⟨i, n, grant, hx, -⟩
    all_goals exact ⟨_, call, lobby, rfl, h, hx⟩
  | _ => exact nomatch h.1

end Ledger

/-! ## Every run -/

open StoreData (step)

/-- **One real lobby at a time.**  In every run of an empty store: between two real lobbies the
first one's lease is released with proof; the quarantine is never lifted and lets no real lobby
through; every real lobby spends a stored authority of its own; and a create that files nothing
only purges. -/
theorem store_singleton (instanceId path : Digest) (steps : List StoreStep) :
    (∀ before a mid b after first second, steps = before ++ a :: (mid ++ b :: after) →
        (Runs.run step (.empty instanceId path) before).CreatesReal a first →
        (Runs.run step (.empty instanceId path) (before ++ a :: mid)).CreatesReal b second →
        ∃ mid₁ r mid₂, mid = mid₁ ++ r :: mid₂
          ∧ r.ReleasesLease first.lobby.lobbyId first.networkGeneration
          ∧ (step (Runs.run step (.empty instanceId path) (before ++ a :: mid₁)) r).1
            = .done (.ok ()))
      ∧ (∀ before a after, steps = before ++ a :: after →
        (Runs.run step (.empty instanceId path) before).realCreationQuarantined = true →
        (Runs.run step (.empty instanceId path) (before ++ [a])).realCreationQuarantined = true
          ∧ ∀ lobby, ¬(Runs.run step (.empty instanceId path) before).CreatesReal a lobby)
      ∧ (∀ before a after, steps = before ++ a :: after →
        (∀ lobby, (Runs.run step (.empty instanceId path) before).CreatesReal a lobby →
          ∃ x, (Runs.run Ledger.step (.empty instanceId path) before).Consumes a x)
        ∧ ∀ x, (Runs.run Ledger.step (.empty instanceId path) before).Consumes a x →
          (Runs.run Ledger.step (.empty instanceId path) before).Stored x none
          ∧ (∃ now, (Runs.run Ledger.step (.empty instanceId path) (before ++ [a])).Stored x
            (some now))
          ∧ ∀ mid b rest, after = mid ++ b :: rest →
            ¬(Runs.run Ledger.step (.empty instanceId path) (before ++ a :: mid)).Consumes b x)
      ∧ (∀ before call after, steps = before ++ .create call :: after →
        (∀ lobby, ((Runs.run step (.empty instanceId path) before).createInData call).1
          ≠ .ok (.created lobby)) →
        ((Runs.run step (.empty instanceId path) before).createInData call).2
          = (Runs.run step (.empty instanceId path) before).purgeRetained call.now) := by
  refine ⟨?_, ?_, ?_, ?_⟩
  · rintro before a mid b after first second - hfirst hsecond
    rw [Runs.run_append, Runs.run_cons] at hsecond
    simp only [Runs.run_append, Runs.run_cons]
    have hleased := hfirst.leased
    -- were the lease kept all along `mid`, the second lobby would find it held
    by_cases halong : Runs.Along step (fun s r => ¬(r.ReleasesLease first.lobby.lobbyId
        first.networkGeneration ∧ (step s r).1 = .done (.ok ())))
        (step (Runs.run step (.empty instanceId path) before) a).2 mid
    · have hheld := Runs.run_invariant_along (P := fun s => s.Leased first.lobby.lobbyId
        first.networkGeneration) (fun _ _ hkeep h => StoreData.lease_kept h hkeep) hleased halong
      obtain ⟨lease, hlease, -⟩ := hheld
      exact absurd hsecond (StoreData.not_createsReal (.inl (by rw [hlease]; rfl)) second)
    · obtain ⟨mid₁, r, mid₂, hmid, hrelease⟩ := Runs.exists_of_not_along halong
      obtain ⟨hreleases, hok⟩ := not_not.mp hrelease
      exact ⟨mid₁, r, mid₂, hmid, hreleases, hok⟩
  · rintro before a after - hquarantined
    refine ⟨?_, fun lobby => StoreData.not_createsReal (.inr hquarantined) lobby⟩
    rw [Runs.run_append]
    exact StoreData.quarantine_kept hquarantined
  · rintro before a after -
    have hsound : (Runs.run Ledger.step (.empty instanceId path) before).Sound :=
      Runs.run_invariant (fun _ s h => h.step s) (Ledger.sound_empty instanceId path) before
    have hdata := Ledger.run_data (.empty instanceId path) before
    refine ⟨fun lobby hreal => hsound.creates_consumes (hdata.symm ▸ hreal), fun x hx => ?_⟩
    obtain ⟨hstored, now, hmarked, -⟩ := hsound.consumes hx
    refine ⟨hstored, ⟨now, ?_⟩, fun mid b rest _ => ?_⟩
    · rw [Runs.run_append]
      exact hmarked
    · rw [Runs.run_append, Runs.run_cons]
      exact Ledger.consumes_once hsound hx
  · rintro before call after - hnone
    rcases StoreData.createInData_cases (Runs.run step (.empty instanceId path) before) call with
      ⟨answer, hanswer, -⟩ | ⟨reserved, -, -, -, hanswer⟩
    · exact congrArg Prod.snd hanswer
    · exact absurd (congrArg Prod.fst hanswer) (hnone call.lobby)

end Spurfire
