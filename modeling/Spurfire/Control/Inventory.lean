import Spurfire.Server.Provider

/-!
# The organization listing

The paginated listing of the organization's tailnets (`spurfire-control`) and the absence test that
rests on it (`provider.rs`):

* `collectCompleteInventory` validates a transcript of pages, `listLoop` obtains one;
* `Transcript` is what a complete listing is: every page asked for with the cursor of the one
  before it, up to the first page without a continuation;
* `presence_from_complete_listing`: the listing stops, and presence and absence are concluded only from a
  complete transcript.

The server answers from the cursors it has been asked for so far, in any way; an answer that cannot
be sent for, or decoded, is an error.
-/

namespace Spurfire

inductive ControlError
  | env (name : String)
  | http (status : UInt16)
  | invalidTailnetName (reason : String)
  | provisioningUnavailable (operation : String)
  | invalidProviderPath
  | invalidPolicy
  | policyMismatch
  | incompletePagination
  | reqwest
  | json
deriving DecidableEq

def mapControlError (error : ControlError) (operation : String) : ProviderError :=
  match error with
  | .http status =>
    if status = 403 then .insufficientScopes operation else .upstream operation status
  | .provisioningUnavailable _ => .unavailable operation
  | .invalidTailnetName _ | .invalidProviderPath | .invalidPolicy | .policyMismatch =>
    .identityMismatch
  | .env _ | .reqwest | .json | .incompletePagination => .unavailable operation

/-! ## Transcripts -/

structure InventoryPage (α : Type) where
  requestCursor : Option String
  nextCursor : Option String
  items : List α

/-- A cursor of one to 512 bytes, none of them a control or a blank. -/
def validCursor (cursor : String) : Bool :=
  !cursor.isEmpty && cursor.utf8ByteSize ≤ 512
    && !cursor.toUTF8.data.any fun byte => byte < 0x20 || byte == 0x7f || byte == 0x20

section Collect

variable {α : Type} (maxItems : ℕ)

/-- The loop over the pages: `expected` is the cursor the next page must have been asked for with,
and `seen` are the cursors so far. -/
def collectFrom (expected : Option String) (seen : List String) (items : List α) :
    List (InventoryPage α) → Except ControlError (List α)
  | [] => if expected.isSome then .error .incompletePagination else .ok items
  | page :: rest =>
    if page.requestCursor ≠ expected then .error .incompletePagination
    else if page.requestCursor.any fun cursor => !validCursor cursor || seen.contains cursor then
      .error .incompletePagination
    else if maxItems < items.length + page.items.length then .error .incompletePagination
    else if page.nextCursor.isNone && !rest.isEmpty then .error .incompletePagination
    else collectFrom page.nextCursor (page.requestCursor.toList ++ seen) (items ++ page.items) rest

def collectCompleteInventory (pages : List (InventoryPage α)) (maxPages : ℕ) :
    Except ControlError (List α) :=
  if pages.isEmpty || maxPages < pages.length then .error .incompletePagination
  else collectFrom maxItems none [] [] pages

/-- Pages in order, the first asked for with `expected`, each later one with the cursor before it,
and the last the only one without a continuation. -/
inductive Linked : Option String → List (InventoryPage α) → Prop
  | last (page : InventoryPage α) (hend : page.nextCursor = none) :
      Linked page.requestCursor [page]
  | next (page : InventoryPage α) {cursor : String} {rest : List (InventoryPage α)}
      (hnext : page.nextCursor = some cursor) (h : Linked (some cursor) rest) :
      Linked page.requestCursor (page :: rest)

variable {maxItems} {expected : Option String} {seen : List String} {acc items : List α}
  {pages : List (InventoryPage α)}

/-- What an accepted transcript says, in the middle of the loop. -/
structure Collected (maxItems : ℕ) (expected : Option String) (seen : List String)
    (acc : List α) (pages : List (InventoryPage α)) (found : List α) : Prop where
  linked : Linked expected pages
  distinct : (pages.filterMap (·.requestCursor)).Nodup
  fresh : ∀ cursor ∈ pages.filterMap (·.requestCursor), cursor ∉ seen
  items : found = acc ++ pages.flatMap (·.items)
  bounded : found.length ≤ maxItems

theorem collected_of_ok (h : collectFrom maxItems expected seen acc pages = .ok items)
    (hpages : pages ≠ []) : Collected maxItems expected seen acc pages items := by
  induction pages generalizing expected seen acc with
  | nil => exact absurd rfl hpages
  | cons page rest ih =>
    unfold collectFrom at h
    split_ifs at h with hcursor hvalid hroom hend
    cases not_not.mp hcursor
    have hfresh : ∀ cursor, page.requestCursor = some cursor → cursor ∉ seen := by
      intro cursor hsome hseen
      rw [hsome, Option.any_some, Bool.or_eq_true, not_or] at hvalid
      exact hvalid.2 (List.contains_iff_mem.mpr hseen)
    cases hnext : page.nextCursor with
    | none =>
      have hrest : rest = [] := by simpa [hnext] using hend
      subst hrest
      rw [hnext] at h
      cases h
      refine ⟨.last page hnext, ?_, ?_, by simp, ?_⟩
      · cases hrequest : page.requestCursor with
        | none =>
          rw [List.filterMap_cons_none hrequest]
          exact List.nodup_nil
        | some cursor =>
          rw [List.filterMap_cons_some hrequest]
          exact List.nodup_singleton cursor
      · intro cursor hmem
        obtain ⟨other, hother, hsome⟩ := List.mem_filterMap.mp hmem
        cases List.mem_singleton.mp hother
        exact hfresh cursor hsome
      · rw [List.length_append]
        exact not_lt.mp hroom
    | some cursor =>
      rw [hnext] at h
      have hrest : rest ≠ [] := by
        rintro rfl
        exact nomatch h
      have hcollected := ih h hrest
      have hitems : items = acc ++ (page :: rest).flatMap (·.items) := by
        rw [hcollected.items, List.flatMap_cons, List.append_assoc]
      refine ⟨.next page hnext hcollected.linked, ?_, ?_, hitems, hcollected.bounded⟩
      · cases hrequest : page.requestCursor with
        | none =>
          rw [List.filterMap_cons_none hrequest]
          exact hcollected.distinct
        | some first =>
          rw [List.filterMap_cons_some hrequest]
          refine List.nodup_cons.mpr ⟨fun hmem => hcollected.fresh first hmem ?_,
            hcollected.distinct⟩
          rw [hrequest]
          exact List.mem_cons_self
      · intro later hmem hseen
        obtain ⟨other, hother, hsome⟩ := List.mem_filterMap.mp hmem
        rcases List.mem_cons.mp hother with rfl | hother
        · exact hfresh later hsome hseen
        · exact hcollected.fresh later (List.mem_filterMap.mpr ⟨other, hother, hsome⟩)
            (List.mem_append_right _ hseen)

end Collect

/-! ## The listing -/

structure OrganizationTailnet where
  id : String
  displayName : String
  dnsName : Option TailnetDnsName
  orgId : Option String
  createdAt : Option String

structure ListResponse where
  tailnets : List OrganizationTailnet
  nextPage : Option String

/-- An empty cursor ends the listing too. -/
def ListResponse.continuation (response : ListResponse) : Option String :=
  response.nextPage.filter fun value => !value.isEmpty

/-- The decoded answer to the last of the requests so far, each named by its cursor. -/
abbrev ListServer := List (Option String) → Except ControlError ListResponse

def MAX_PAGES : ℕ := 32
def MAX_ITEMS : ℕ := 4096

variable (server : ListServer)

/-- The requests made and the result, after `pages` and with the next `cursor`. -/
def listLoop (pages : List (InventoryPage OrganizationTailnet)) (cursor : Option String) :
    List (Option String) × Except ControlError (List OrganizationTailnet) :=
  let requests := pages.map (·.requestCursor) ++ [cursor]
  match server requests with
  | .error error => (requests, .error error)
  | .ok decoded =>
    let received := pages ++ [⟨cursor, decoded.continuation, decoded.tailnets⟩]
    if decoded.continuation.isNone then
      (requests, collectCompleteInventory MAX_ITEMS received MAX_PAGES)
    else if _hfull : MAX_PAGES ≤ received.length then (requests, .error .incompletePagination)
    else listLoop received decoded.continuation
termination_by MAX_PAGES - pages.length
decreasing_by
  have hlength : received.length = pages.length + 1 := List.length_append
  have hroom := hlength ▸ not_le.mp _hfull
  exact Nat.sub_lt_sub_left (Nat.lt_of_succ_lt hroom) (hlength ▸ Nat.lt_succ_self _)

def listOrganizationTailnets : List (Option String) × Except ControlError (List OrganizationTailnet) :=
  listLoop server [] none

/-- Every page is the server's answer to the requests up to its own. -/
def Answered (pages : List (InventoryPage OrganizationTailnet)) : Prop :=
  ∀ before page after, pages = before ++ page :: after → ∃ response,
    server ((before ++ [page]).map (·.requestCursor)) = .ok response
      ∧ page.items = response.tailnets ∧ page.nextCursor = response.continuation

/-- A complete listing: from the first request to the first page without a continuation, each
request with the cursor of the page before it, no cursor twice, at most 4096 items. -/
structure Transcript (requests : List (Option String))
    (pages : List (InventoryPage OrganizationTailnet)) (found : List OrganizationTailnet) :
    Prop where
  answered : Answered server pages
  requested : requests = pages.map (·.requestCursor)
  linked : Linked none pages
  distinct : (requests.filterMap fun cursor => cursor).Nodup
  items : found = pages.flatMap (·.items)
  bounded : found.length ≤ MAX_ITEMS

variable {server} {pages : List (InventoryPage OrganizationTailnet)}

theorem answered_append {cursor : Option String} {response : ListResponse}
    (h : Answered server pages)
    (hserver : server (pages.map (·.requestCursor) ++ [cursor]) = .ok response) :
    Answered server (pages ++ [⟨cursor, response.continuation, response.tailnets⟩]) := by
  intro before page after heq
  rcases List.append_eq_append_iff.mp heq with ⟨extra, hbefore, hafter⟩ | ⟨extra, hpages, hlast⟩
  · have hextra : extra = [] := by
      cases extra with
      | nil => rfl
      | cons x xs => simp at hafter
    subst hextra
    obtain ⟨rfl, -⟩ := List.cons.inj hafter
    rw [hbefore, List.append_nil]
    exact ⟨response, by rw [List.map_append]; exact hserver, rfl, rfl⟩
  · cases extra with
    | nil =>
      obtain ⟨rfl, -⟩ := List.cons.inj hlast
      rw [List.append_nil] at hpages
      rw [← hpages]
      exact ⟨response, by rw [List.map_append]; exact hserver, rfl, rfl⟩
    | cons x xs =>
      obtain ⟨rfl, -⟩ := List.cons.inj hlast
      exact h before page xs hpages

/-- The loop makes at most 32 requests, and what it accepts is a validated transcript. -/
theorem listLoop_spec (hpages : Answered server pages) (hroom : pages.length < MAX_PAGES)
    (cursor : Option String) :
    (listLoop server pages cursor).1.length ≤ MAX_PAGES
      ∧ ∀ found, (listLoop server pages cursor).2 = .ok found → ∃ all, Answered server all
        ∧ (listLoop server pages cursor).1 = all.map (·.requestCursor)
        ∧ collectCompleteInventory MAX_ITEMS all MAX_PAGES = .ok found := by
  have hrequests : (pages.map (·.requestCursor) ++ [cursor]).length ≤ MAX_PAGES := by
    rw [List.length_append, List.length_map]
    exact hroom
  induction hleft : MAX_PAGES - pages.length using Nat.strong_induction_on generalizing pages cursor
  next left ih =>
  rw [listLoop]
  dsimp only
  cases hserver : server (pages.map (·.requestCursor) ++ [cursor]) with
  | error error => exact ⟨hrequests, nofun⟩
  | ok decoded =>
    have hanswered := answered_append hpages hserver
    have hlength : (pages ++ [InventoryPage.mk cursor decoded.continuation
      decoded.tailnets]).length = pages.length + 1 := List.length_append
    dsimp only
    by_cases hend : decoded.continuation.isNone = true
    · rw [if_pos hend]
      refine ⟨hrequests, fun found hfound => ⟨_, hanswered, ?_, hfound⟩⟩
      rw [List.map_append]
      rfl
    rw [if_neg hend]
    by_cases hfull : MAX_PAGES ≤ (pages ++ [InventoryPage.mk cursor decoded.continuation
        decoded.tailnets]).length
    · rw [dif_pos hfull]
      exact ⟨hrequests, nofun⟩
    · rw [dif_neg hfull]
      refine ih _ ?_ hanswered (not_le.mp hfull) _ ?_ rfl
      · omega
      · rw [List.length_append, List.length_map]
        exact not_le.mp hfull

theorem collected_of_complete {α : Type} {maxItems maxPages : ℕ} {all : List (InventoryPage α)}
    {found : List α} (h : collectCompleteInventory maxItems all maxPages = .ok found) :
    Collected maxItems none [] [] all found := by
  unfold collectCompleteInventory at h
  split_ifs at h with hbounds
  refine collected_of_ok h fun hnil => hbounds ?_
  rw [hnil]
  rfl

/-- The listing stops, and what it returns is a complete transcript. -/
theorem listOrganizationTailnets_spec (server : ListServer) :
    (listOrganizationTailnets server).1.length ≤ MAX_PAGES
      ∧ ∀ found, (listOrganizationTailnets server).2 = .ok found → ∃ pages,
        Transcript server (listOrganizationTailnets server).1 pages found := by
  have hstart : Answered server [] := fun before page after h => by simp at h
  obtain ⟨hlength, hcomplete⟩ := listLoop_spec hstart (by decide) none
  refine ⟨hlength, fun found hfound => ?_⟩
  obtain ⟨pages, hanswered, hrequested, hcollect⟩ := hcomplete found hfound
  have hcollected := collected_of_complete hcollect
  refine ⟨pages, hanswered, hrequested, hcollected.linked, ?_, hcollected.items,
    hcollected.bounded⟩
  rw [listOrganizationTailnets, hrequested, List.filterMap_map]
  exact hcollected.distinct

/-! ## Presence -/

/-- `tailnet_present` of the provider: the listed tailnet of the stable id, under its DNS name. -/
def TailscaleProvider.tailnetPresent (server : ListServer) (request : TailnetPresenceRequest) :
    Except ProviderError Bool :=
  match request.identity.validateForMode .tailnetPerLobby with
  | .error error => .error error
  | .ok () =>
    if request.networkGeneration = 0 then .error .identityMismatch
    else
      match request.identity.providerTailnetId with
      | none => .error .identityMismatch
      | some stableId =>
        match (listOrganizationTailnets server).2 with
        | .error error => .error (mapControlError error "organization_tailnet_presence")
        | .ok tailnets =>
          match tailnets.find? fun tailnet => tailnet.id == stableId with
          | none => .ok false
          | some found =>
            if found.dnsName.any fun dnsName =>
                dnsName.asStr != request.identity.tailnetDnsName.asStr then
              .error .identityMismatch
            else .ok true

/-- An answer about presence is about the whole of an accepted listing. -/
theorem TailscaleProvider.tailnetPresent_ok {server : ListServer}
    {request : TailnetPresenceRequest} {present : Bool}
    (h : tailnetPresent server request = .ok present) : ∃ stableId found,
      request.identity.providerTailnetId = some stableId
        ∧ (listOrganizationTailnets server).2 = .ok found
        ∧ (present = true ↔ ∃ tailnet ∈ found, tailnet.id = stableId) := by
  unfold tailnetPresent at h
  cases hvalid : request.identity.validateForMode .tailnetPerLobby with
  | error error =>
    rw [hvalid] at h
    exact nomatch h
  | ok _ =>
    rw [hvalid] at h
    dsimp only at h
    split_ifs at h
    cases hstable : request.identity.providerTailnetId with
    | none =>
      rw [hstable] at h
      exact nomatch h
    | some stableId =>
      rw [hstable] at h
      dsimp only at h
      cases hlisted : (listOrganizationTailnets server).2 with
      | error error =>
        rw [hlisted] at h
        exact nomatch h
      | ok tailnets =>
        rw [hlisted] at h
        dsimp only at h
        refine ⟨stableId, tailnets, rfl, rfl, ?_⟩
        cases hfind : tailnets.find? fun tailnet => tailnet.id == stableId with
        | none =>
          rw [hfind] at h
          cases h
          refine ⟨nofun, fun ⟨tailnet, hmem, hid⟩ => ?_⟩
          exact absurd (beq_iff_eq.mpr hid) (List.find?_eq_none.mp hfind tailnet hmem)
        | some tailnet =>
          rw [hfind] at h
          dsimp only at h
          split_ifs at h
          cases h
          have hid := List.find?_some hfind
          exact ⟨fun _ => ⟨tailnet, List.mem_of_find?_eq_some hfind, beq_iff_eq.mp hid⟩, fun _ => rfl⟩

/-- **Absence is concluded only from a complete listing**: whatever the server answers, the loop
stops after at most 32 requests, a returned listing is a complete transcript, and an answer about
presence is what such a transcript says of the stable id. -/
theorem presence_from_complete_listing (server : ListServer) :
    (listOrganizationTailnets server).1.length ≤ MAX_PAGES
      ∧ (∀ found, (listOrganizationTailnets server).2 = .ok found → ∃ pages,
          Transcript server (listOrganizationTailnets server).1 pages found)
      ∧ ∀ request present, TailscaleProvider.tailnetPresent server request = .ok present →
        ∃ stableId pages found, request.identity.providerTailnetId = some stableId
          ∧ Transcript server (listOrganizationTailnets server).1 pages found
          ∧ (present = true ↔ ∃ page ∈ pages, ∃ tailnet ∈ page.items, tailnet.id = stableId) := by
  obtain ⟨hlength, hcomplete⟩ := listOrganizationTailnets_spec server
  refine ⟨hlength, hcomplete, fun request present h => ?_⟩
  obtain ⟨stableId, found, hstable, hlisted, hpresent⟩ := TailscaleProvider.tailnetPresent_ok h
  obtain ⟨pages, htranscript⟩ := hcomplete found hlisted
  refine ⟨stableId, pages, found, hstable, htranscript, hpresent.trans ?_⟩
  rw [htranscript.items]
  constructor
  · rintro ⟨tailnet, hmem, hid⟩
    obtain ⟨page, hpage, htailnet⟩ := List.mem_flatMap.mp hmem
    exact ⟨page, hpage, tailnet, htailnet, hid⟩
  · rintro ⟨page, hpage, tailnet, htailnet, hid⟩
    exact ⟨tailnet, List.mem_flatMap.mpr ⟨page, hpage, htailnet⟩, hid⟩

end Spurfire
