import Spurfire.Server.Custody

/-!
# Orphaned child tailnets

A tailnet that `prepareLobby` has created can be deleted as long as the vault holds its credentials.

* `createChild_fate` follows the request that creates a tailnet, over the answers it gets.
* `stored_iff`: in every reachable state, a new tailnet is stored exactly when the generation is not
  zero and the lobby has no erasure receipt.  Both are looked at once the tailnet exists.
-/

namespace Spurfire

open Fallible

namespace EncryptedChildVault

variable {cipher : VaultCipher} {vault : EncryptedChildVault} {identity : ChildVaultIdentity}
  {credentials : ChildOAuthCredentials}

/-- The exact credentials can be read. -/
def Stores (cipher : VaultCipher) (custody : ChildCustody) (vault : EncryptedChildVault) : Prop :=
  ∃ version, vault.getExact cipher custody.identity = .ok (custody.credentials, version)

theorem not_stores_of_missing (hrecord : vault.image.records[identity.lobbyId]? = none) :
    ¬vault.Stores cipher ⟨identity, credentials⟩ := by
  rintro ⟨version, hexact⟩
  unfold getExact at hexact
  rw [hrecord] at hexact
  exact nomatch hexact

/-- The file system and the cipher do their part of a put. -/
def Works (cipher : VaultCipher) (custody : ChildCustody) (answer : ProviderAnswer) : Prop :=
  answer.replace = .installed ∧ ∃ plaintext, encodePlaintext custody.credentials = .ok plaintext
    ∧ (cipher.encrypt answer.nonce plaintext (custody.identity, 1)).isSome = true

/-- A put that works stores the credentials, unless the lobby was erased before. -/
theorem putIfAbsent_of_works (hopens : cipher.Opens) {answer : ProviderAnswer}
    (hworks : Works cipher ⟨identity, credentials⟩ answer)
    (hrecord : vault.image.records[identity.lobbyId]? = none) :
    (vault.image.erasures[identity.lobbyId]? = none
      ∧ ∃ vault', vault.putIfAbsent cipher identity credentials answer.nonce answer.replace
          = (.ok 1, vault') ∧ vault'.Stores cipher ⟨identity, credentials⟩)
      ∨ vault.image.erasures[identity.lobbyId]? ≠ none
        ∧ vault.putIfAbsent cipher identity credentials answer.nonce answer.replace
          = (.error .conflict, vault) := by
  obtain ⟨hreplace, plaintext, hencode, hencrypt⟩ := hworks
  obtain ⟨text, htext⟩ := Option.isSome_iff_exists.mp hencrypt
  unfold putIfAbsent sealedImage
  rw [hencode, hrecord]
  dsimp only
  have hcontains : vault.image.erasures.contains identity.lobbyId = true
      ↔ vault.image.erasures[identity.lobbyId]? ≠ none := by
    rw [Std.ExtTreeMap.contains_iff_mem, Std.ExtTreeMap.mem_iff_isSome_getElem?,
      Option.isSome_iff_ne_none]
  by_cases herased : vault.image.erasures.contains identity.lobbyId = true
  · rw [if_pos herased]
    exact .inr ⟨hcontains.mp herased, rfl⟩
  · rw [if_neg herased, htext, hreplace]
    refine .inl ⟨not_not.mp (hcontains.not.mp herased), _, rfl, 1, ?_⟩
    unfold getExact
    dsimp only
    rw [Std.ExtTreeMap.getElem?_insert_self]
    dsimp only
    rw [if_neg (not_not.mpr rfl), hopens _ _ _ _ htext]
    dsimp only
    rw [decodePlaintext_of_encode hencode]

end EncryptedChildVault

open EncryptedChildVault

namespace TailscaleProvider

variable {setup : ProviderSetup} {w : TailscaleProvider} {request : PrepareLobbyRequest}

/-- The vault holds the credentials under their tuple. -/
def Stores (setup : ProviderSetup) (custody : ChildCustody) (w : TailscaleProvider) : Prop :=
  ∃ vault, w.durableChildVault = some vault ∧ vault.Stores setup.cipher custody

/-- The generation is not zero, and the vault has no erasure receipt of the lobby. -/
def Storable (w : TailscaleProvider) (request : PrepareLobbyRequest) : Prop :=
  request.networkGeneration ≠ 0 ∧ ∃ vault, w.durableChildVault = some vault
    ∧ vault.image.erasures[request.lobbyId]? = none

/-- The custody that the answer to the creation gives, under the tuple of the request. -/
structure CreatedFor (request : PrepareLobbyRequest) (answer : ProviderAnswer)
    (custody : ChildCustody) : Prop where
  answered : answer.result = .ok ()
  lobbyId : custody.identity.lobbyId = request.lobbyId
  networkGeneration : custody.identity.networkGeneration = request.networkGeneration
  providerTailnetId : custody.identity.providerTailnetId = answer.tailnet.id
  tailnetDnsName : TailnetDnsName.protocolParse answer.tailnet.dnsName.asStr
    = .ok custody.identity.tailnetDnsName
  credentials : custody.credentials = answer.tailnet.oauthCredentials

/-- What becomes of the request: it learns of no creation, or of one that is stored, if the provider
id is well formed and the vault works, exactly when that was possible. -/
def Fate (setup : ProviderSetup) (w : TailscaleProvider) (request : PrepareLobbyRequest)
    (w' : TailscaleProvider) : Prop :=
  w'.created = w.created ∨ ∃ custody, w'.created = w.created ++ [custody]
    ∧ CreatedFor request (w.answers w.turn) custody ∧ (StoredLobby.validProviderTailnetId custody.identity.providerTailnetId = true →
      Works setup.cipher custody (w.answers (w.turn + 1)) →
      (w'.Stores setup custody ↔ w.Storable request))

/-- Neither the vault nor what is known of creations depends on the calls of a client. -/
theorem carries_frame (vault : Option EncryptedChildVault) (created : List ChildCustody)
    (client : ControlClient) (tailnet : String) :
    Carries (fun w => w.durableChildVault = vault ∧ w.created = created) client tailnet where
  send _ _ hw _ := hw
  capabilities _ _ hw := hw

/-- A request that creates nothing learns of no creation. -/
theorem preparedChild_frame (identity : ChildVaultIdentity) (child : ChildOAuthCredentials)
    (applyFirst : Bool) :
    Ends (fun _ w' => w'.durableChildVault = w.durableChildVault ∧ w'.created = w.created) w
      (preparedChild setup identity child applyFirst)
      fun _ w' => w'.durableChildVault = w.durableChildVault ∧ w'.created = w.created :=
  ends_next (carries_gate setup _ (carries_frame _ _ _ _) applyFirst ⟨rfl, rfl⟩)
    fun _ _ h => ends_pure h

/-- The creation itself, and the checks that are made only after it. -/
theorem createTailnet_fate :
    Ends (fun _ w' => w'.created = w.created ∨ w'.durableChildVault = w.durableChildVault
        ∧ ∃ custody, w'.created = w.created ++ [custody]
          ∧ CreatedFor request (w.answers w.turn) custody
          ∧ (StoredLobby.validProviderTailnetId custody.identity.providerTailnetId = true →
            request.networkGeneration = 0)) w
      (createTailnet request) fun custody w' =>
        w'.created = w.created ++ [custody] ∧ CreatedFor request (w.answers w.turn) custody
          ∧ request.networkGeneration ≠ 0 ∧ w'.durableChildVault = w.durableChildVault
          ∧ w'.answer = w.answers (w.turn + 1) := by
  refine ends_bind (ends_act (fun created w' heq => ?_) fun _ _ heq => nomatch heq)
  cases heq
  split
  · exact ends_throw (.inl rfl)
  · next tailnet htailnet =>
    split
    · exact ends_throw (.inl rfl)
    · next dnsName hparse =>
      refine ends_bind (ends_act (fun _ w' heq => ?_) fun _ _ heq => nomatch heq)
      cases heq
      have hfor : CreatedFor request (w.answers w.turn) ⟨⟨request.lobbyId,
          request.networkGeneration, tailnet.id, dnsName⟩, tailnet.oauthCredentials⟩ := by
        have hanswered : (w.answers w.turn).result = .ok () ∧ tailnet = (w.answers w.turn).tailnet := by
          change (w.answers w.turn).result.map (fun _ => (w.answers w.turn).tailnet) = _ at htailnet
          cases hresult : (w.answers w.turn).result with
          | ok =>
            rw [hresult] at htailnet
            cases htailnet
            exact ⟨rfl, rfl⟩
          | error error =>
            rw [hresult] at htailnet
            exact nomatch htailnet
        obtain ⟨hresult, rfl⟩ := hanswered
        exact ⟨hresult, rfl, rfl, rfl, hparse, rfl⟩
      refine ends_ite (fun hbad => ends_throw (.inr ⟨rfl, _, rfl, hfor, fun hvalid => ?_⟩))
        fun hgood => ends_pure ⟨rfl, hfor, (not_or.mp hgood).2, rfl, rfl⟩
      exact hbad.resolve_left fun hinvalid => nomatch hvalid.symm.trans hinvalid

/-- `Fate`, once the custody is known. -/
structure Told (setup : ProviderSetup) (w : TailscaleProvider) (request : PrepareLobbyRequest)
    (custody : ChildCustody) (w' : TailscaleProvider) : Prop where
  created : w'.created = w.created ++ [custody]
  createdFor : CreatedFor request (w.answers w.turn) custody
  stored : Works setup.cipher custody (w.answers (w.turn + 1)) →
    (w'.Stores setup custody ↔ w.Storable request)

theorem Told.congr {custody : ChildCustody} {v v' : TailscaleProvider}
    (h : Told setup w request custody v) (hvault : v'.durableChildVault = v.durableChildVault)
    (hcreated : v'.created = v.created) : Told setup w request custody v' := by
  refine ⟨hcreated.trans h.created, h.createdFor, fun hworks => ?_⟩
  unfold Stores
  rw [hvault]
  exact h.stored hworks

theorem Told.fate {custody : ChildCustody} {v : TailscaleProvider}
    (h : Told setup w request custody v) : Fate setup w request v :=
  .inr ⟨custody, h.created, h.createdFor, fun _ => h.stored⟩

theorem putIfAbsent_fate (hopens : setup.cipher.Opens)
    (hrecord : ∀ vault, w.durableChildVault = some vault →
      vault.image.records[request.lobbyId]? = none) {custody : ChildCustody}
    {v : TailscaleProvider} (hcreated : v.created = w.created ++ [custody])
    (hfor : CreatedFor request (w.answers w.turn) custody)
    (hgeneration : request.networkGeneration ≠ 0)
    (hsame : v.durableChildVault = w.durableChildVault)
    (hanswer : v.answer = w.answers (w.turn + 1)) :
    Ends (fun _ => Told setup w request custody) v
      (putIfAbsent setup custody.identity custody.credentials)
      fun _ => Told setup w request custody := by
  have hlobby := hfor.lobbyId
  rw [← hlobby] at hrecord
  unfold putIfAbsent
  cases hvault : w.durableChildVault with
  | none =>
    have htold : Told setup w request custody v := by
      refine ⟨hcreated, hfor, fun _ => iff_of_false ?_ ?_⟩
      · rintro ⟨found, hfound, -⟩
        exact nomatch hvault.symm.trans (hsame.symm.trans hfound)
      · rintro ⟨-, found, hfound, -⟩
        exact nomatch hvault.symm.trans hfound
    refine ends_act (fun _ v' heq => ?_) fun _ v' heq => ?_
    all_goals
      rw [hsame, hvault] at heq
      cases heq
    exact htold
  | some vault =>
    have htold : Told setup w request custody { v with
        turn := v.turn + 1
        durableChildVault := some (vault.putIfAbsent setup.cipher custody.identity
          custody.credentials v.answer.nonce v.answer.replace).2 } := by
      refine ⟨hcreated, hfor, fun hworks => ?_⟩
      rw [← hanswer] at hworks
      rcases putIfAbsent_of_works hopens hworks (hrecord vault hvault) with
        ⟨hfresh, vault', hput, hstores⟩ | ⟨herased, hput⟩
      · rw [hput]
        exact iff_of_true ⟨vault', rfl, hstores⟩ ⟨hgeneration, vault, hvault, hlobby ▸ hfresh⟩
      · rw [hput]
        refine iff_of_false ?_ ?_
        · rintro ⟨found, hfound, hstores⟩
          cases hfound
          exact not_stores_of_missing (hrecord vault hvault) hstores
        · rintro ⟨-, found, hfound, hfresh⟩
          cases hvault.symm.trans hfound
          exact herased (hlobby ▸ hfresh)
    refine ends_act (fun _ v' heq => ?_) fun _ v' heq => ?_
    all_goals
      rw [hsame, hvault] at heq
      dsimp only at heq
      split at heq <;> cases heq
      exact htold

theorem createChild_fate (hopens : setup.cipher.Opens)
    (hrecord : ∀ vault, w.durableChildVault = some vault →
      vault.image.records[request.lobbyId]? = none) :
    Ends (fun _ => Fate setup w request) w (createChild setup request)
      fun _ => Fate setup w request := by
  refine ends_seq createTailnet_fate ?_ ?_
  · rintro error w' (hsame | ⟨hsame, custody, hcreated, hfor, hzero⟩)
    · exact .inl hsame
    · refine .inr ⟨custody, hcreated, hfor, fun hvalid _ =>
        iff_of_false ?_ fun h => h.1 (hzero hvalid)⟩
      rintro ⟨found, hfound, hstores⟩
      have hmissing := hrecord found (hsame.symm.trans hfound)
      exact not_stores_of_missing (hfor.lobbyId ▸ hmissing) hstores
  · rintro custody v ⟨hcreated, hfor, hgeneration, hsame, hanswer⟩
    refine ends_seq (putIfAbsent_fate hopens hrecord hcreated hfor hgeneration hsame
      hanswer) (fun _ _ h => h.fate) fun _ v hv => ?_
    refine ends_bind (ends_act (fun _ v' heq => ?_) fun _ _ heq => nomatch heq)
    cases heq
    refine ends_seq (preparedChild_frame _ _ _) (fun _ _ h => (hv.congr h.1 h.2).fate)
      fun prepared v' h => ?_
    refine ends_bind (ends_act (fun _ v'' heq => ?_) fun _ _ heq => nomatch heq)
    cases heq
    exact ends_pure (hv.congr h.1 h.2).fate

/-- Requests that find custody, or need none, learn of no creation. -/
theorem prepareLobby_fate (hopens : setup.cipher.Opens) (hw : Held setup w) :
    Ends (fun _ => Fate setup w request) w (prepareLobby setup request)
      fun _ => Fate setup w request := by
  unfold prepareLobby
  refine ends_ite (fun _ => ends_pure (.inl rfl)) fun _ => ends_ite (fun _ => ?_) fun _ => ?_
  · split
    · exact ends_throw (.inl rfl)
    · exact ends_pure (.inl rfl)
  · refine ends_bind (ends_look (fun cached heq => ?_) fun _ heq => nomatch heq)
    cases heq
    cases hcached : w.childVault[request.lobbyId]? with
    | some access =>
      exact ends_ite (fun _ => ends_throw (.inl rfl)) fun _ =>
        (preparedChild_frame _ _ _).mono (fun _ _ h => .inl h.2) fun _ _ h => .inl h.2
    | none =>
      refine ends_seq (durableIdentity_ends hw request.lobbyId) (fun _ _ h => h ▸ .inl rfl) ?_
      rintro durable _ ⟨rfl, -, hnone⟩
      cases durable with
      | none => exact createChild_fate hopens (hnone rfl)
      | some identity =>
        refine ends_ite (fun _ => ends_throw (.inl rfl)) fun _ => ?_
        refine ends_bind (ends_look (fun found _ => ?_) fun _ _ => .inl rfl)
        refine ends_bind (ends_act (fun _ v heq => ?_) fun _ _ heq => nomatch heq)
        cases heq
        exact (preparedChild_frame _ _ _).mono (fun _ _ h => .inl h.2) fun _ _ h => .inl h.2

/-- **A created tailnet is stored exactly when it could have been refused before**: in every reachable
state of a provider with a vault, when the creation that a request makes is answered with a well
formed id and DNS name, and file system and cipher do their part, then the vault holds the credentials
under the exact tuple if and only if the generation is not zero and the lobby has no erasure
receipt. -/
theorem stored_iff (setup : ProviderSetup) (hopens : setup.cipher.Opens) (first : ProviderRequest)
    (answered : ℕ → ProviderAnswer) (steps : List ProviderStep) (request : PrepareLobbyRequest)
    (answers : ℕ → ProviderAnswer) :
    let w := Runs.run (step setup) (start true first answered) steps
    let after := (w.step setup (.call (.prepare request) answers)).2
    after.created ≠ w.created → ∃ custody, after.created = w.created ++ [custody]
      ∧ CreatedFor request (answers 0) custody
      ∧ (StoredLobby.validProviderTailnetId custody.identity.providerTailnetId = true →
        Works setup.cipher custody (answers 1) →
        (after.Stores setup custody ↔ w.Storable request)) := by
  intro w after hcreated
  have hw := (custodial_run hopens true first answered steps).held
  have hcalled : Held setup { w with
      request := .prepare request, answers := answers, turn := 0 } :=
    hw.shrink (fun _ _ h => h) (fun vault _ _ hv h => ⟨vault, hv, h⟩) (List.Subset.refl _)
  have hends : Ends _ _ (prepareLobby setup request) _ := prepareLobby_fate hopens hcalled
  have hfate := (ends_next hends fun _ _ h => ends_pure (a := ()) h).exec
  rcases hfate with hsame | ⟨custody, hadded, hfor, hstored⟩
  · exact absurd hsame hcreated
  · exact ⟨custody, hadded, hfor, hstored⟩

/-! ### An orphan -/

def sealedAnswer : ProviderAnswer := { gatedAnswer with policyMatches := true }

theorem works_sealed {custody : ChildCustody}
    (h : custody.credentials = ⟨"client-1", "secret-1"⟩) :
    Works plainSetup.cipher custody sealedAnswer := by
  refine ⟨rfl, ?_⟩
  rw [h]
  unfold encodePlaintext
  rw [if_neg (by decide +kernel)]
  exact ⟨_, rfl, rfl⟩

theorem stored_iff_first :
    let after := ((start true gatedPrepare fun _ => sealedAnswer).step plainSetup
      (.call gatedPrepare fun _ => sealedAnswer)).2
    ∃ custody, after.created = [custody] ∧ after.Stores plainSetup custody := by
  intro after
  obtain ⟨custody, hcreated, hfor, hiff⟩ := stored_iff plainSetup openCipher_opens gatedPrepare
    (fun _ => sealedAnswer) [] ⟨gatedLobby, 1, .tailnetPerLobby, false⟩ (fun _ => sealedAnswer)
    (by decide +kernel)
  have hvalid : StoredLobby.validProviderTailnetId custody.identity.providerTailnetId = true := by
    rw [hfor.providerTailnetId]
    decide +kernel
  have hworks := works_sealed hfor.credentials
  have hempty : VaultImage.empty.erasures[gatedLobby]? = none := Std.ExtTreeMap.getElem?_empty
  exact ⟨custody, hcreated, (hiff hvalid hworks).mpr ⟨by decide, .fresh, rfl, hempty⟩⟩

/-- Generation zero is refused when the tailnet exists, and nothing is stored. -/
theorem zero_generation_orphaned :
    ¬∀ (steps : List ProviderStep) (request : PrepareLobbyRequest) (answers : ℕ → ProviderAnswer)
      (custody : ChildCustody),
      let w := Runs.run (step plainSetup) (start true gatedPrepare fun _ => sealedAnswer) steps
      let after := (w.step plainSetup (.call (.prepare request) answers)).2
      after.created = w.created ++ [custody] →
      StoredLobby.validProviderTailnetId custody.identity.providerTailnetId = true →
      Works plainSetup.cipher custody (answers 1) → after.Stores plainSetup custody := by
  intro h
  obtain ⟨vault, hvault, version, hexact⟩ := h [] ⟨gatedLobby, 0, .tailnetPerLobby, false⟩
    (fun _ => sealedAnswer) ⟨⟨gatedLobby, 0, "tailnet-1", ⟨"one.ts.net"⟩⟩, ⟨"client-1", "secret-1"⟩⟩
    (by decide +kernel) (by decide +kernel) (works_sealed rfl)
  have hmissing : ((start true gatedPrepare fun _ => sealedAnswer).step plainSetup
      (.call (.prepare ⟨gatedLobby, 0, .tailnetPerLobby, false⟩) fun _ =>
        sealedAnswer)).2.durableChildVault.map (fun vault => vault.getExact plainSetup.cipher
          ⟨gatedLobby, 0, "tailnet-1", ⟨"one.ts.net"⟩⟩) = some (.error .missing) := by decide +kernel
  rw [show ((start true gatedPrepare fun _ => sealedAnswer).step plainSetup
      (.call (.prepare ⟨gatedLobby, 0, .tailnetPerLobby, false⟩) fun _ =>
        sealedAnswer)).2.durableChildVault = some vault from hvault] at hmissing
  exact nomatch hexact.symm.trans (Option.some.inj hmissing)

end TailscaleProvider

end Spurfire
