import Spurfire.Lib.Runs
import Spurfire.Lib.Sha256
import Spurfire.Protocol.IpText
import Spurfire.Server.Api

/-!
# Session endpoints

The memory-only endpoints of one lobby and the signed projection of them (`service.rs`): players
register an address, a leave, a start and a delete forget all of them, and every other request may
change the record of the lobby.

* `Sound`: no two registered players share a node key, and no two keyed ones of one roster revision
  an address.
* `projects_along`: then the projection succeeds, in every state of a run in which no address is
  registered under a second spelling.

The manifest key is an input, and the request arrives from an authorized player.
-/

namespace Spurfire

open Wire (beBytes)

def SESSION_ENDPOINT_RETENTION_MS : UInt64 := 60000
def KEYREG_DOMAIN : List UInt8 := textBytes "SPURFIRE-KEYREG\x00v1\x00"

structure SessionEndpointRecord where
  playerId : PlayerId
  networkGeneration : UInt64
  rosterRevision : UInt64
  sequence : UInt64
  tailnetAddress : String
  applicationPort : UInt16
  sessionPublicKey : Option SessionPublicKey
  nodeKey : Option NodeKey
  receivedAt : UnixMillis
deriving DecidableEq

structure RegisterSessionEndpointRequest where
  networkGeneration : UInt64
  rosterRevision : UInt64
  sequence : UInt64
  tailnetAddress : String
  applicationPort : UInt16
  sessionPublicKey : Option SessionPublicKey
  keyProof : Option SessionSignature
  nodeKey : Option NodeKey
deriving DecidableEq

/-- `LobbySessionPeer`, with the address as it was registered. -/
structure ServedSessionPeer where
  playerId : PlayerId
  tailnetAddress : String
  applicationPort : UInt16
  sessionPublicKey : Option SessionPublicKey
  nodeKey : Option NodeKey
  receivedAt : UnixMillis
deriving DecidableEq

/-- `LobbySessionProjection`, as the service makes it. -/
structure ServedSessionProjection where
  networkGeneration : UInt64
  rosterRevision : UInt64
  sessionGeneration : UInt64
  secure : Bool
  rosterHash : Option RosterHash
  manifestSignature : Option SessionSignature
  manifestPublicKey : SessionPublicKey
  peers : List ServedSessionPeer
deriving DecidableEq

/-- A request fails with an error, or its handler panics. -/
inductive SessionFault
  | api (error : ApiError)
  | panicked
deriving DecidableEq

abbrev EndpointCache := Std.ExtTreeMap PlayerId SessionEndpointRecord

/-- The bytes that `canonical_keyreg_digest` hashes. -/
def canonicalKeyregBytes (lobbyId : LobbyId) (playerId : PlayerId)
    (networkGeneration rosterRevision : UInt64) (tailnetAddress : IpAddr)
    (applicationPort : UInt16) (sessionPublicKey : SessionPublicKey) : List UInt8 :=
  KEYREG_DOMAIN ++ lobbyId.asBytes ++ playerId.asBytes ++ beBytes 8 networkGeneration.toNat
    ++ beBytes 8 rosterRevision.toNat ++ tailnetAddress.octets ++ beBytes 2 applicationPort.toNat
    ++ sessionPublicKey.bytes.toList

def canonicalKeyregDigest (X : Crypto) (lobbyId : LobbyId) (playerId : PlayerId)
    (networkGeneration rosterRevision : UInt64) (tailnetAddress : IpAddr)
    (applicationPort : UInt16) (sessionPublicKey : SessionPublicKey) : Vector UInt8 32 :=
  X.sha256 (canonicalKeyregBytes lobbyId playerId networkGeneration rosterRevision tailnetAddress
    applicationPort sessionPublicKey)

/-- CGNAT IPv4 and unique local IPv6. -/
def tailnetAddressIsValid (value : String) : Bool :=
  match IpAddr.parse value with
  | some (.v4 octets) =>
    octets[0]! == 100 && decide (64 ≤ octets[1]!.toNat) && decide (octets[1]!.toNat ≤ 127)
  | some (.v6 octets) => octets[0]! &&& 0xfe == 0xfc
  | none => false

/-! ## The projection -/

/-- Received no longer ago than the retention. -/
def SessionEndpointRecord.isLive (record : SessionEndpointRecord) (now : UnixMillis) : Bool :=
  (now.checkedSub record.receivedAt).any (· ≤ SESSION_ENDPOINT_RETENTION_MS)

namespace StoredLobby

def isCurrent (stored : StoredLobby) (now : UnixMillis) (record : SessionEndpointRecord) : Bool :=
  record.networkGeneration == stored.networkGeneration
    && record.rosterRevision == stored.rosterRevision
    && stored.hasPlayer record.playerId && record.isLive now

def sessionPeers (stored : StoredLobby) (cache : EndpointCache) (now : UnixMillis) :
    List ServedSessionPeer :=
  ((cache.toList.map (·.2)).filter (stored.isCurrent now)).map fun record =>
    ⟨record.playerId, record.tailnetAddress, record.applicationPort, record.sessionPublicKey,
      record.nodeKey, record.receivedAt⟩

def isSecure (stored : StoredLobby) (peers : List ServedSessionPeer) : Bool :=
  !stored.lobby.roster.isEmpty && peers.length == stored.lobby.roster.length
    && peers.all (·.sessionPublicKey.isSome)

/-- `none` where the address cannot be parsed, or the key is missing. -/
def manifestEntry (peer : ServedSessionPeer) : Option RosterManifestEntry := do
  let sessionPublicKey ← peer.sessionPublicKey
  let tailnetAddress ← IpAddr.parse peer.tailnetAddress
  some ⟨peer.playerId, sessionPublicKey, tailnetAddress, peer.applicationPort, peer.nodeKey⟩

def rosterManifest (stored : StoredLobby) (peers : List ServedSessionPeer) :
    Option RosterManifest :=
  (peers.mapM manifestEntry).map fun entries =>
    ⟨stored.lobby.lobbyId, stored.networkGeneration, stored.sessionGeneration,
      stored.rosterRevision, entries⟩

def projection (stored : StoredLobby) (publicKey : SessionPublicKey) (secure : Bool)
    (peers : List ServedSessionPeer) (signed : Option (RosterHash × SessionSignature)) :
    ServedSessionProjection :=
  ⟨stored.networkGeneration, stored.rosterRevision, stored.sessionGeneration, secure,
    signed.map (·.1), signed.map (·.2), publicKey, peers⟩

def sessionProjection (X : Crypto) (key : SigningKey) (stored : StoredLobby)
    (cache : EndpointCache) (now : UnixMillis) : Except SessionFault ServedSessionProjection :=
  let manifestPublicKey := X.verifyingKey key
  let peers := stored.sessionPeers cache now
  if stored.isSecure peers = false then
    .ok (stored.projection manifestPublicKey false peers none)
  else
    match stored.rosterManifest peers with
    | none => .error .panicked
    | some manifest =>
      match manifest.validate with
      | .error _ => .error (.api (.internalError false))
      | .ok () =>
        let signature := X.sign key (canonicalManifestDigest X manifestPublicKey manifest)
        .ok (stored.projection manifestPublicKey true peers
          (some (rosterHash X manifest, signature)))

end StoredLobby

/-! ## Registration -/

/-- What a registration has to match before its key is looked at. -/
def StoredLobby.admits (stored : StoredLobby) (player : PlayerId)
    (request : RegisterSessionEndpointRequest) : Bool :=
  request.networkGeneration == stored.networkGeneration
    && request.rosterRevision == stored.rosterRevision
    && stored.hasPlayer player
    && stored.lobby.state ∈ [.forming, .ready, .starting, .inMatch]
    && tailnetAddressIsValid request.tailnetAddress && request.applicationPort != 0

def secureIdentity (X : Crypto) (stored : StoredLobby) (player : PlayerId)
    (request : RegisterSessionEndpointRequest) : Except ApiError (Option SessionPublicKey) :=
  match request.sessionPublicKey, request.keyProof with
  | some publicKey, some proof =>
    match IpAddr.parse request.tailnetAddress with
    | none => .error (.lobbyNotFound false)
    | some address =>
      let digest := canonicalKeyregDigest X stored.lobby.lobbyId player request.networkGeneration
        request.rosterRevision address request.applicationPort publicKey
      match X.verifyDigest publicKey digest proof with
      | .error _ =>
        .error (.new 422 "session_key_proof_invalid" "session public-key proof is invalid" false)
      | .ok () => .ok (some publicKey)
  | none, none =>
    if stored.dryRun then .ok none
    else .error (.new 422 "session_identity_required"
      "secure session public key and proof are required" false)
  | _, _ => .error (.new 422 "session_identity_required"
      "secure session public key and proof are required" false)

namespace EndpointCache

def retain (cache : EndpointCache) (now : UnixMillis) : EndpointCache :=
  cache.filter fun _ existing => existing.isLive now

/-- Another player has the address or the node key. -/
def claimed (cache : EndpointCache) (player : PlayerId)
    (request : RegisterSessionEndpointRequest) : Bool :=
  (cache.toList.map (·.2)).any fun existing =>
    existing.playerId != player
      && (existing.tailnetAddress == request.tailnetAddress
        || request.nodeKey.any (fun node => existing.nodeKey == some node))

def checkClaims (cache : EndpointCache) (player : PlayerId)
    (request : RegisterSessionEndpointRequest) : Except ApiError Unit :=
  if (cache[player]?).any (fun existing => request.sequence ≤ existing.sequence) then
    .error (.new 409 "endpoint_sequence_replayed"
      "endpoint registration sequence must increase" false)
  else if cache.claimed player request then
    .error (.new 409 "node_already_claimed"
      "tailnet node identity is already bound to another player" false)
  else .ok ()

end EndpointCache

def RegisterSessionEndpointRequest.record (request : RegisterSessionEndpointRequest)
    (player : PlayerId) (identity : Option SessionPublicKey) (now : UnixMillis) :
    SessionEndpointRecord :=
  ⟨player, request.networkGeneration, request.rosterRevision, request.sequence,
    request.tailnetAddress, request.applicationPort, identity, request.nodeKey, now⟩

/-- A lobby with its endpoints. -/
structure EndpointState where
  stored : StoredLobby
  endpoints : EndpointCache

namespace EndpointState

def registerSessionEndpoint (X : Crypto) (key : SigningKey) (s : EndpointState) (player : PlayerId)
    (request : RegisterSessionEndpointRequest) (now : UnixMillis) :
    Except SessionFault ServedSessionProjection × EndpointState :=
  if s.stored.admits player request = false then (.error (.api (.lobbyNotFound false)), s)
  else
    match secureIdentity X s.stored player request with
    | .error error => (.error (.api error), s)
    | .ok identity =>
      let retained := s.endpoints.retain now
      match retained.checkClaims player request with
      | .error error => (.error (.api error), { s with endpoints := retained })
      | .ok () =>
        let endpoints := retained.insert player (request.record player identity now)
        (s.stored.sessionProjection X key endpoints now, { s with endpoints := endpoints })

inductive SessionStep
  | register (player : PlayerId) (request : RegisterSessionEndpointRequest) (now : UnixMillis)
  /-- A join, or another request that leaves the endpoints alone. -/
  | write (stored : StoredLobby)
  /-- A leave, a start or a delete. -/
  | forget (stored : StoredLobby)

def step (X : Crypto) (key : SigningKey) (s : EndpointState) :
    SessionStep → Option (Except SessionFault ServedSessionProjection) × EndpointState
  | .register player request now =>
    let (result, s) := s.registerSessionEndpoint X key player request now
    (some result, s)
  | .write stored => (none, { s with stored := stored })
  | .forget stored => (none, ⟨stored, ∅⟩)

end EndpointState

/-! ## Manifests of endpoints that are apart -/

/-- Two entries that one manifest may hold. -/
structure RosterManifestEntry.Apart (a b : RosterManifestEntry) : Prop where
  players : a.playerId ≠ b.playerId
  addresses : a.tailnetAddress ≠ b.tailnetAddress
  nodes : ∀ node, a.nodeKey = some node → b.nodeKey ≠ some node

namespace RosterManifest

/-- Entries that are apart and new pass the validation. -/
theorem validateEntries_of_apart {seen : Seen} {entries : List RosterManifestEntry}
    (hports : ∀ entry ∈ entries, entry.applicationPort ≠ 0)
    (hapart : entries.Pairwise RosterManifestEntry.Apart)
    (hnew : ∀ entry ∈ entries, entry.playerId ∉ seen.players ∧ entry.tailnetAddress ∉ seen.ips
      ∧ ∀ node, entry.nodeKey = some node → node ∉ seen.nodes) :
    validateEntries seen entries = .ok () := by
  induction entries generalizing seen with
  | nil => rfl
  | cons entry entries ih =>
    obtain ⟨hfirst, hrest⟩ := List.pairwise_cons.mp hapart
    obtain ⟨hplayer, haddress, hnode⟩ := hnew entry List.mem_cons_self
    unfold validateEntries
    rw [if_neg (hports entry List.mem_cons_self), if_neg]
    · refine ih (fun e he => hports e (List.mem_cons_of_mem _ he)) hrest fun e he => ?_
      obtain ⟨hplayer', haddress', hnode'⟩ := hnew e (List.mem_cons_of_mem _ he)
      have hne := hfirst e he
      refine ⟨?_, ?_, fun node hsome hmem => ?_⟩
      · exact fun hmem => (List.mem_cons.mp hmem).elim (fun h => hne.players h.symm) hplayer'
      · exact fun hmem => (List.mem_cons.mp hmem).elim (fun h => hne.addresses h.symm) haddress'
      · rcases List.mem_append.mp hmem with hmem | hmem
        · exact hne.nodes node (Option.mem_toList.mp hmem) hsome
        · exact hnode' node hsome hmem
    · rintro (hmem | hmem | ⟨node, hsome, hmem⟩)
      · exact hplayer hmem
      · exact haddress hmem
      · exact hnode node hsome hmem

end RosterManifest

/-- A partial map that is defined on a list carries pairwise relations over. -/
theorem exists_mapM_of_pairwise {α β : Type} {f : α → Option β} {R : α → α → Prop}
    {S : β → β → Prop} {xs : List α} (hsome : ∀ x ∈ xs, ∃ y, f x = some y)
    (hmap : ∀ x ∈ xs, ∀ x' ∈ xs, R x x' → ∀ y y', f x = some y → f x' = some y' → S y y')
    (hpair : xs.Pairwise R) :
    ∃ ys, xs.mapM f = some ys ∧ (∀ y ∈ ys, ∃ x ∈ xs, f x = some y) ∧ ys.Pairwise S := by
  induction xs with
  | nil => exact ⟨[], rfl, List.forall_mem_nil _, List.Pairwise.nil⟩
  | cons x xs ih =>
    obtain ⟨hfirst, hrest⟩ := List.pairwise_cons.mp hpair
    obtain ⟨y, hy⟩ := hsome x List.mem_cons_self
    obtain ⟨ys, hys, hfrom, hpairs⟩ := ih (fun z hz => hsome z (List.mem_cons_of_mem _ hz))
      (fun z hz z' hz' => hmap z (List.mem_cons_of_mem _ hz) z' (List.mem_cons_of_mem _ hz')) hrest
    refine ⟨y :: ys, by simp [hy, hys], fun z hz => ?_, ?_⟩
    · rcases List.mem_cons.mp hz with rfl | hz
      · exact ⟨x, List.mem_cons_self, hy⟩
      · obtain ⟨w, hw, hfw⟩ := hfrom z hz
        exact ⟨w, List.mem_cons_of_mem _ hw, hfw⟩
    · refine List.pairwise_cons.mpr ⟨fun z hz => ?_, hpairs⟩
      obtain ⟨w, hw, hfw⟩ := hfrom z hz
      exact hmap x List.mem_cons_self w (List.mem_cons_of_mem _ hw) (hfirst w hw) y z hy hfw

/-! ## The cache -/

/-- Two endpoints share no node key, and keyed ones of one revision no address. -/
structure SessionEndpointRecord.Apart (a b : SessionEndpointRecord) : Prop where
  nodes : ∀ node, a.nodeKey = some node → b.nodeKey ≠ some node
  addresses : a.sessionPublicKey.isSome → b.sessionPublicKey.isSome →
    a.networkGeneration = b.networkGeneration → a.rosterRevision = b.rosterRevision →
    IpAddr.parse a.tailnetAddress ≠ IpAddr.parse b.tailnetAddress

theorem SessionEndpointRecord.Apart.symm {a b : SessionEndpointRecord} (h : a.Apart b) :
    b.Apart a :=
  ⟨fun node hb ha => h.nodes node ha hb,
    fun hb ha hgeneration hrevision heq =>
      h.addresses ha hb hgeneration.symm hrevision.symm heq.symm⟩

namespace EndpointCache

structure Sound (cache : EndpointCache) : Prop where
  player : ∀ (player : PlayerId) record, cache[player]? = some record → record.playerId = player
  port : ∀ (player : PlayerId) record, cache[player]? = some record → record.applicationPort ≠ 0
  address : ∀ (player : PlayerId) record, cache[player]? = some record →
    tailnetAddressIsValid record.tailnetAddress = true
  apart : ∀ (player other : PlayerId) record record', cache[player]? = some record →
    cache[other]? = some record' → player ≠ other → record.Apart record'

variable {cache cache' : EndpointCache}

theorem sound_empty : Sound ∅ := by
  constructor <;> intro player <;> simp

theorem Sound.mono (h : Sound cache)
    (hsub : ∀ (player : PlayerId) record, cache'[player]? = some record →
      cache[player]? = some record) : Sound cache' :=
  ⟨fun player record hr => h.player player record (hsub player record hr),
    fun player record hr => h.port player record (hsub player record hr),
    fun player record hr => h.address player record (hsub player record hr),
    fun player other record record' hr hr' =>
      h.apart player other record record' (hsub player record hr) (hsub other record' hr')⟩

theorem Sound.retain (h : Sound cache) (now : UnixMillis) : Sound (cache.retain now) := by
  refine h.mono fun player record hr => ?_
  unfold EndpointCache.retain at hr
  rw [Std.ExtTreeMap.getElem?_filter'] at hr
  exact (Option.filter_eq_some_iff.mp hr).1

theorem Sound.insert (h : Sound cache) {player : PlayerId} {record : SessionEndpointRecord}
    (hplayer : record.playerId = player) (hport : record.applicationPort ≠ 0)
    (haddress : tailnetAddressIsValid record.tailnetAddress = true)
    (hapart : ∀ (other : PlayerId) existing, cache[other]? = some existing → other ≠ player →
      existing.Apart record) : Sound (cache.insert player record) := by
  have hcases : ∀ (p : PlayerId) r, (cache.insert player record)[p]? = some r →
      p = player ∧ r = record ∨ p ≠ player ∧ cache[p]? = some r := by
    intro p r hr
    rw [Std.ExtTreeMap.getElem?_insert] at hr
    split_ifs at hr with hsame
    · exact .inl ⟨(Std.LawfulEqCmp.eq_of_compare hsame).symm, (Option.some.inj hr).symm⟩
    · refine .inr ⟨fun heq => hsame ?_, hr⟩
      rw [heq]
      exact Std.ReflCmp.compare_self
  refine ⟨fun p r hr => ?_, fun p r hr => ?_, fun p r hr => ?_, fun p q r r' hr hr' hne => ?_⟩
  · rcases hcases p r hr with ⟨rfl, rfl⟩ | ⟨-, hr⟩
    · exact hplayer
    · exact h.player p r hr
  · rcases hcases p r hr with ⟨rfl, rfl⟩ | ⟨-, hr⟩
    · exact hport
    · exact h.port p r hr
  · rcases hcases p r hr with ⟨rfl, rfl⟩ | ⟨-, hr⟩
    · exact haddress
    · exact h.address p r hr
  · rcases hcases p r hr with ⟨rfl, rfl⟩ | ⟨hp, hold⟩ <;>
      rcases hcases q r' hr' with ⟨rfl, rfl⟩ | ⟨hq, hold'⟩
    · exact absurd rfl hne
    · exact (hapart q r' hold' hq).symm
    · exact hapart p r hold hp
    · exact h.apart p q r r' hold hold' hne

/-- The records of a sound cache belong to different players, and are apart. -/
theorem Sound.pairwise (h : Sound cache) :
    (cache.toList.map (·.2)).Pairwise fun a b => a.playerId ≠ b.playerId ∧ a.Apart b := by
  rw [List.pairwise_map]
  refine (Std.ExtTreeMap.distinct_keys_toList (t := cache)).imp_of_mem ?_
  rintro ⟨p, r⟩ ⟨q, r'⟩ hr hr' hne
  have hr := Std.ExtTreeMap.mem_toList_iff_getElem?_eq_some.mp hr
  have hr' := Std.ExtTreeMap.mem_toList_iff_getElem?_eq_some.mp hr'
  have hpq : p ≠ q := by
    rintro rfl
    exact hne Std.ReflCmp.compare_self
  refine ⟨?_, h.apart p q r r' hr hr' hpq⟩
  dsimp only
  rw [h.player p r hr, h.player q r' hr']
  exact hpq

theorem mem_records {record : SessionEndpointRecord} :
    record ∈ cache.toList.map (·.2) ↔ ∃ player : PlayerId, cache[player]? = some record := by
  simp only [List.mem_map, Prod.exists, Std.ExtTreeMap.mem_toList_iff_getElem?_eq_some]
  exact ⟨fun ⟨p, _, hr, heq⟩ => ⟨p, heq ▸ hr⟩, fun ⟨p, hr⟩ => ⟨p, record, hr, rfl⟩⟩

end EndpointCache

/-! ## The projection of a sound cache -/

theorem isSome_parse_of_valid {value : String} (h : tailnetAddressIsValid value = true) :
    ∃ address, IpAddr.parse value = some address := by
  unfold tailnetAddressIsValid at h
  cases hparse : IpAddr.parse value with
  | none =>
    rw [hparse] at h
    exact nomatch h
  | some address => exact ⟨address, rfl⟩

/-- The projection succeeds, and signs only a roster that validates: its players, addresses and node
keys are distinct. -/
def Projects (X : Crypto) (key : SigningKey) (stored : StoredLobby) (cache : EndpointCache)
    (now : UnixMillis) : Prop :=
  ∃ projection, stored.sessionProjection X key cache now = .ok projection
    ∧ ∀ hash, projection.rosterHash = some hash → ∃ manifest,
      stored.rosterManifest projection.peers = some manifest ∧ hash = rosterHash X manifest
      ∧ manifest.validate = .ok () ∧ manifest.entries.Pairwise RosterManifestEntry.Apart

namespace StoredLobby

variable {X : Crypto} {key : SigningKey} {stored : StoredLobby} {cache : EndpointCache}
  {now : UnixMillis}

/-- The keyed peers of one revision make a manifest that validates. -/
theorem exists_manifest (h : cache.Sound)
    (hsecure : stored.isSecure (stored.sessionPeers cache now) = true) :
    ∃ manifest, stored.rosterManifest (stored.sessionPeers cache now) = some manifest
      ∧ manifest.validate = .ok () ∧ manifest.entries.Pairwise RosterManifestEntry.Apart := by
  simp only [isSecure, Bool.and_eq_true, Bool.not_eq_true', beq_iff_eq, List.all_eq_true]
    at hsecure
  obtain ⟨⟨hroster, hlength⟩, hkeyed⟩ := hsecure
  -- every peer is the view of a current record
  have hpeer : ∀ peer ∈ stored.sessionPeers cache now, ∃ record : SessionEndpointRecord,
      (∃ player : PlayerId, cache[player]? = some record) ∧ stored.isCurrent now record = true
        ∧ peer = ⟨record.playerId, record.tailnetAddress, record.applicationPort,
          record.sessionPublicKey, record.nodeKey, record.receivedAt⟩ := by
    intro peer hmem
    obtain ⟨record, hrecord, rfl⟩ := List.mem_map.mp hmem
    obtain ⟨hmem, hcurrent⟩ := List.mem_filter.mp hrecord
    exact ⟨record, EndpointCache.mem_records.mp hmem, hcurrent, rfl⟩
  have hsome : ∀ peer ∈ stored.sessionPeers cache now,
      ∃ entry, manifestEntry peer = some entry := by
    intro peer hmem
    obtain ⟨publicKey, hkey⟩ := Option.isSome_iff_exists.mp (hkeyed peer hmem)
    obtain ⟨record, ⟨player, hrecord⟩, -, rfl⟩ := hpeer peer hmem
    obtain ⟨address, haddress⟩ := isSome_parse_of_valid (h.address player record hrecord)
    dsimp only at hkey
    refine ⟨⟨record.playerId, publicKey, address, record.applicationPort, record.nodeKey⟩, ?_⟩
    simp only [manifestEntry, hkey, haddress, Option.bind_eq_bind, Option.bind_some]
  have hpairs : (stored.sessionPeers cache now).Pairwise fun a b =>
      a.playerId ≠ b.playerId ∧ IpAddr.parse a.tailnetAddress ≠ IpAddr.parse b.tailnetAddress
        ∧ ∀ node, a.nodeKey = some node → b.nodeKey ≠ some node := by
    refine List.pairwise_map.mpr ((h.pairwise.filter _).imp_of_mem ?_)
    intro a b ha hb ⟨hplayer, hapart⟩
    refine ⟨hplayer, hapart.addresses ?_ ?_ ?_ ?_, hapart.nodes⟩
    · exact hkeyed _ (List.mem_map_of_mem ha)
    · exact hkeyed _ (List.mem_map_of_mem hb)
    all_goals
      have hcurrenta := (List.mem_filter.mp ha).2
      have hcurrentb := (List.mem_filter.mp hb).2
      simp only [isCurrent, Bool.and_eq_true, beq_iff_eq] at hcurrenta hcurrentb
    · exact hcurrenta.1.1.1.trans hcurrentb.1.1.1.symm
    · exact hcurrenta.1.1.2.trans hcurrentb.1.1.2.symm
  have hentry : ∀ peer entry, manifestEntry peer = some entry → entry.playerId = peer.playerId
      ∧ IpAddr.parse peer.tailnetAddress = some entry.tailnetAddress
      ∧ entry.applicationPort = peer.applicationPort ∧ entry.nodeKey = peer.nodeKey := by
    intro peer entry heq
    simp only [manifestEntry, Option.bind_eq_bind, Option.bind_eq_some_iff, Option.some.injEq] at heq
    obtain ⟨publicKey, -, address, haddress, rfl⟩ := heq
    exact ⟨rfl, haddress, rfl, rfl⟩
  obtain ⟨entries, hentries, hfrom, hapart⟩ := exists_mapM_of_pairwise
    (S := RosterManifestEntry.Apart) hsome (fun a _ b _ hne e f he hf => by
      obtain ⟨hplayer, haddress, hnode⟩ := hne
      obtain ⟨heplayer, headdress, -, henode⟩ := hentry a e he
      obtain ⟨hfplayer, hfaddress, -, hfnode⟩ := hentry b f hf
      refine ⟨?_, fun heq => haddress ?_, ?_⟩
      · rwa [heplayer, hfplayer]
      · rw [headdress, hfaddress, heq]
      · rwa [henode, hfnode]) hpairs
  refine ⟨_, by unfold rosterManifest; rw [hentries, Option.map_some], ?_, hapart⟩
  unfold RosterManifest.validate
  dsimp only
  rw [if_neg]
  · refine RosterManifest.validateEntries_of_apart (fun entry hmem => ?_) hapart fun entry _ => ?_
    · obtain ⟨peer, hmem, heq⟩ := hfrom entry hmem
      obtain ⟨record, ⟨player, hrecord⟩, -, rfl⟩ := hpeer peer hmem
      rw [(hentry _ entry heq).2.2.1]
      exact h.port player record hrecord
    · exact ⟨List.not_mem_nil, List.not_mem_nil, fun _ _ => List.not_mem_nil⟩
  · -- a lobby without players is not secure
    intro hempty
    have hnil : entries = [] := List.isEmpty_iff.mp hempty
    cases hpeers : stored.sessionPeers cache now with
    | nil =>
      rw [hpeers] at hlength
      rw [List.length_eq_zero_iff.mp hlength.symm] at hroster
      exact nomatch hroster
    | cons peer peers =>
      obtain ⟨entry, hfirst⟩ := hsome peer (hpeers ▸ List.mem_cons_self)
      rw [hpeers, hnil, List.mapM_cons] at hentries
      simp [hfirst, Option.bind_eq_some_iff] at hentries

/-- **A sound cache can be projected** at any time, for any record of the lobby. -/
theorem projects_of_sound (h : cache.Sound) : Projects X key stored cache now := by
  unfold Projects sessionProjection
  dsimp only
  by_cases hsecure : stored.isSecure (stored.sessionPeers cache now) = false
  · rw [if_pos hsecure]
    exact ⟨_, rfl, fun _ hhash => nomatch hhash⟩
  rw [if_neg hsecure]
  obtain ⟨manifest, hmanifest, hvalid, hapart⟩ :=
    exists_manifest h (Bool.eq_true_of_not_eq_false hsecure)
  rw [hmanifest]
  dsimp only
  rw [hvalid]
  refine ⟨_, rfl, fun hash hhash => ⟨manifest, hmanifest, ?_, hvalid, hapart⟩⟩
  exact (Option.some.inj hhash).symm

end StoredLobby

/-! ## Every run -/

namespace EndpointState

variable {X : Crypto} {key : SigningKey}

/-- No keyed registration that would be accepted names the IP address of another player's live
keyed endpoint of the same revision. -/
def Distinct (X : Crypto) (s : EndpointState) : SessionStep → Prop
  | .register player request now => ∀ publicKey, s.stored.admits player request = true →
    secureIdentity X s.stored player request = .ok (some publicKey) →
    (s.endpoints.retain now).checkClaims player request = .ok () →
    ∀ (other : PlayerId) existing, (s.endpoints.retain now)[other]? = some existing →
      other ≠ player → existing.sessionPublicKey.isSome →
      existing.networkGeneration = request.networkGeneration →
      existing.rosterRevision = request.rosterRevision →
      IpAddr.parse existing.tailnetAddress ≠ IpAddr.parse request.tailnetAddress
  | .write _ | .forget _ => True

/-- A registration that claims nothing of another player shares no node key with one. -/
theorem nodes_of_checkClaims {cache : EndpointCache} (h : cache.Sound) {player other : PlayerId}
    {request : RegisterSessionEndpointRequest} {existing : SessionEndpointRecord}
    (hclaims : cache.checkClaims player request = .ok ()) (hother : cache[other]? = some existing)
    (hne : other ≠ player) (node : NodeKey) (hnode : existing.nodeKey = some node) :
    request.nodeKey ≠ some node := by
  intro hsame
  unfold EndpointCache.checkClaims at hclaims
  split_ifs at hclaims with _ hclaimed
  refine hclaimed (List.any_eq_true.mpr ⟨existing, EndpointCache.mem_records.mpr ⟨other, hother⟩, ?_⟩)
  rw [h.player other existing hother]
  simp [hne, hsame, hnode]

theorem sound_step {s : EndpointState} (h : s.endpoints.Sound) {a : SessionStep}
    (hdistinct : s.Distinct X a) : (s.step X key a).2.endpoints.Sound := by
  cases a with
  | write stored => exact h
  | forget stored => exact EndpointCache.sound_empty
  | register player request now =>
    unfold step registerSessionEndpoint
    dsimp only
    by_cases hadmits : s.stored.admits player request = false
    · rw [if_pos hadmits]
      exact h
    rw [if_neg hadmits]
    have hadmitted := Bool.eq_true_of_not_eq_false hadmits
    cases hidentity : secureIdentity X s.stored player request with
    | error error => exact h
    | ok identity =>
      dsimp only
      cases hclaims : (s.endpoints.retain now).checkClaims player request with
      | error error => exact h.retain now
      | ok _ =>
        have hvalid : tailnetAddressIsValid request.tailnetAddress = true
            ∧ request.applicationPort ≠ 0 := by
          simp only [StoredLobby.admits, Bool.and_eq_true, bne_iff_ne] at hadmitted
          exact ⟨hadmitted.1.2, hadmitted.2⟩
        refine (h.retain now).insert rfl hvalid.2 hvalid.1 fun other existing hother hne => ?_
        refine ⟨nodes_of_checkClaims (h.retain now) hclaims hother hne, ?_⟩
        intro hexisting hkeyed hgeneration hrevision
        obtain ⟨publicKey, hpublicKey⟩ := Option.isSome_iff_exists.mp hkeyed
        have hsome : identity = some publicKey := hpublicKey
        rw [hsome] at hidentity
        exact hdistinct publicKey hadmitted hidentity hclaims other existing hother hne hexisting
          hgeneration hrevision

/-- **The projection never fails** in a run that registers no address under a second spelling: in
every state, and for the player whose registration it answers. -/
theorem projects_along (stored : StoredLobby) (steps : List SessionStep)
    (halong : Runs.Along (step X key) (Distinct X) ⟨stored, ∅⟩ steps) (now : UnixMillis) :
    Projects X key (Runs.run (step X key) ⟨stored, ∅⟩ steps).stored
      (Runs.run (step X key) ⟨stored, ∅⟩ steps).endpoints now := by
  have hstep : ∀ (s : EndpointState) (a : SessionStep), s.Distinct X a → s.endpoints.Sound →
      (s.step X key a).2.endpoints.Sound := fun _ _ hdistinct h => sound_step h hdistinct
  exact StoredLobby.projects_of_sound
    (Runs.run_invariant_along (P := fun s : EndpointState => s.endpoints.Sound) hstep
      EndpointCache.sound_empty halong)

/-! ### One address, spelled twice -/

/-- A scheme under which every signature verifies. -/
def laxCrypto : Crypto where
  sha256 := Sha256.digest
  verifyingKey := fun key => ⟨key.seed⟩
  sign := fun _ digest => ⟨digest ++ digest⟩
  keyIsValid := fun _ => true
  verifyStrict := fun _ _ _ => true

def lobbyKey : SigningKey := ⟨Vector.replicate 32 7⟩

def rider (n : ℕ) (h : n < 2 ^ 48 := by decide) : Player :=
  ⟨ProtocolId.ofTail n (Nat.blt_eq.mpr h), "Rider", .connected, M3_WIRE_VERSION, "v1", none, ⟨0, 0, 0⟩, 1000, false⟩

def readyLobby : StoredLobby :=
  .new ⟨ProtocolId.ofTail 9, .ready, none, [rider 1, rider 2], 2,
    none, none, ⟨600000, 900000⟩, .tailnetPerLobby, 1000⟩ (ProtocolId.ofTail 1) "" ""
    false 600000

def endpointAt (address : String) : RegisterSessionEndpointRequest :=
  ⟨1, 1, 1, address, 7777, some ⟨Vector.replicate 32 1⟩, some ⟨Vector.replicate 64 2⟩, none⟩

def registrations (first second : String) : List SessionStep :=
  [.register (ProtocolId.ofTail 1) (endpointAt first) 2000,
    .register (ProtocolId.ofTail 2) (endpointAt second) 3000]

theorem projects_along_pair :
    Runs.Along (step laxCrypto lobbyKey) (Distinct laxCrypto) ⟨readyLobby, ∅⟩
        (registrations "fd00::1" "fd00::2")
      ∧ Projects laxCrypto lobbyKey
        (Runs.run (step laxCrypto lobbyKey) ⟨readyLobby, ∅⟩ (registrations "fd00::1" "fd00::2")).stored
        (Runs.run (step laxCrypto lobbyKey) ⟨readyLobby, ∅⟩
          (registrations "fd00::1" "fd00::2")).endpoints 3000 := by
  have halong : Runs.Along (step laxCrypto lobbyKey) (Distinct laxCrypto) ⟨readyLobby, ∅⟩
      (registrations "fd00::1" "fd00::2") := by
    refine ⟨?_, ?_, trivial⟩
    · intro publicKey _ _ _ other existing hother
      have hnone : ((EndpointCache.retain ∅ 2000).toList.map (·.2)) = [] := by decide +kernel
      have hmem := EndpointCache.mem_records.mpr ⟨other, hother⟩
      rw [hnone] at hmem
      exact nomatch hmem
    · intro publicKey _ _ _ other existing hother _ _ _ _
      have hone : ((((step laxCrypto lobbyKey ⟨readyLobby, ∅⟩
          (.register (ProtocolId.ofTail 1) (endpointAt "fd00::1") 2000)).2.endpoints.retain
            3000).toList.map (·.2)).map (·.tailnetAddress)) = ["fd00::1"] := by decide +kernel
      have hmem := List.mem_map_of_mem (f := SessionEndpointRecord.tailnetAddress)
        (EndpointCache.mem_records.mpr ⟨other, hother⟩)
      rw [hone, List.mem_singleton] at hmem
      rw [hmem]
      decide +kernel
  exact ⟨halong, projects_along readyLobby _ halong 3000⟩

/-- Both registrations are accepted, and nobody can be shown the session any more. -/
theorem spelled_twice_fails :
    ¬Projects laxCrypto lobbyKey
      (Runs.run (step laxCrypto lobbyKey) ⟨readyLobby, ∅⟩
        (registrations "fd00::1" "fd00:0:0:0:0:0:0:1")).stored
      (Runs.run (step laxCrypto lobbyKey) ⟨readyLobby, ∅⟩
        (registrations "fd00::1" "fd00:0:0:0:0:0:0:1")).endpoints 3000 := by
  have herror : (StoredLobby.sessionProjection laxCrypto lobbyKey
      (Runs.run (step laxCrypto lobbyKey) ⟨readyLobby, ∅⟩
        (registrations "fd00::1" "fd00:0:0:0:0:0:0:1")).stored
      (Runs.run (step laxCrypto lobbyKey) ⟨readyLobby, ∅⟩
        (registrations "fd00::1" "fd00:0:0:0:0:0:0:1")).endpoints 3000).toBool = false := by
    decide +kernel
  rintro ⟨projection, hok, -⟩
  rw [hok] at herror
  exact nomatch herror

end EndpointState

end Spurfire
