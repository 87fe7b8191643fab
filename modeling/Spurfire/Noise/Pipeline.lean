import Spurfire.Noise.ReplayWindow

/-!
# The receive pipeline of a tunnel

`Tunn` of the vendored WireGuard tunnel (`noise/mod.rs`) receives established data in two ways: a
packet at a time, or as a burst that is checked and decrypted ahead and committed later.  Handshake
cryptography is outside, and AEAD decryption is the parameter `aead`.

* `handleData`: a packet at a time;
* `preflightData`, `openPreparedData`, `validateOpenedData`, `commitOpenedData`: the pipeline;
* `Tunn.Call`, `Tunn.step`: what else happens to a tunnel in between;
* `Ready`: what a capability knows of the tunnel it was opened in;
* **`commitBurst_along`**: a validated burst commits what handling its packets one by one would.
-/

namespace Spurfire.Noise

def N_SESSIONS : ℕ := 8
def AEAD_TAG_SIZE : ℕ := 16
def DATA_OVERHEAD_SZ : ℕ := 32
def MAX_QUEUE_DEPTH : ℕ := 256
def IPV4_MIN_HEADER_SIZE : ℕ := 20
def IPV6_MIN_HEADER_SIZE : ℕ := 40
def REJECT_AFTER_TIME : ℕ := 180000000000

/-! ## Packets -/

structure PacketData where
  receiverIdx : UInt32
  counter : UInt64
  encryptedEncapsulatedPacket : List UInt8
deriving DecidableEq

/-- The kinds of packets; of a handshake message only the kind. -/
inductive Packet
  | handshakeInit
  | handshakeResponse
  | packetCookieReply
  | packetData (packet : PacketData)
deriving DecidableEq

/-- The number that bytes spell, least significant first. -/
def fromLeBytes (bytes : List UInt8) : ℕ := bytes.foldr (fun byte n => byte.toNat + 256 * n) 0

def slice (bytes : List UInt8) (start stop : ℕ) : List UInt8 := (bytes.take stop).drop start

def parseIncomingPacket (src : List UInt8) : Except WireGuardError Packet :=
  if src.length < 4 then .error .invalidPacket
  else
    match fromLeBytes (slice src 0 4), src.length with
    | 1, 148 => .ok .handshakeInit
    | 2, 92 => .ok .handshakeResponse
    | 3, 64 => .ok .packetCookieReply
    | 4, length =>
      if DATA_OVERHEAD_SZ ≤ length then
        .ok (.packetData ⟨UInt32.ofNat (fromLeBytes (slice src 4 8)),
          UInt64.ofNat (fromLeBytes (slice src 8 16)), src.drop 16⟩)
      else .error .invalidPacket
    | _, _ => .error .invalidPacket

inductive TunnResult
  | done
  | err (error : WireGuardError)
  | writeToNetwork (packet : List UInt8)
  | writeToTunnelV4 (packet source : List UInt8)
  | writeToTunnelV6 (packet source : List UInt8)
deriving DecidableEq

/-- The packet that a result hands to the tunnel interface. -/
def TunnResult.packet : TunnResult → Option (List UInt8)
  | writeToTunnelV4 packet _ | writeToTunnelV6 packet _ => some packet
  | _ => none

/-! ## The tunnel -/

structure Session (Key : Type) where
  receivingIndex : UInt32
  receiver : Key
  receivingKeyCounter : ReceivingKeyCounterValidator

/-- Durations since the start of the tunnel, in nanoseconds. -/
structure Timers where
  timeCurrent : ℕ
  timeSessionEstablished : ℕ
  timeLastPacketReceived : ℕ
  timeLastPacketSent : ℕ
  timeLastDataPacketReceived : ℕ
  sessionTimers : Vector ℕ 8
  wantKeepalive : Bool
  wantHandshake : Bool
  isInitiator : Bool

namespace Timers

def tickPacketReceived (timers : Timers) : Timers :=
  { timers with
    wantKeepalive := true
    wantHandshake := false
    timeLastPacketReceived := timers.timeCurrent }

def tickPacketSent (timers : Timers) : Timers :=
  { timers with
    wantHandshake := true
    wantKeepalive := false
    timeLastPacketSent := timers.timeCurrent }

def tickDataPacketReceived (timers : Timers) : Timers :=
  { timers with timeLastDataPacketReceived := timers.timeCurrent }

/-- `clear` sets every timer to the current time. -/
def clear (timers : Timers) (now : ℕ) : Timers :=
  ⟨now, now, now, now, now, timers.sessionTimers, false, false, timers.isInitiator⟩

end Timers

def slotOf (index : ℕ) : Fin 8 := ⟨index % 8, Nat.mod_lt _ (by decide)⟩

structure Tunn (Key : Type) where
  sessions : Vector (Option (Session Key)) 8
  current : ℕ
  packetQueue : List (List UInt8)
  timers : Timers
  rxBytes : UInt64
  pipelineGeneration : UInt64
  pipelineTunnelId : UInt64

/-- An eligibility proof for a data packet. -/
structure PreparedData where
  receiverIdx : UInt32
  counter : UInt64
  generation : UInt64
  tunnelId : UInt64
deriving DecidableEq

/-- Authenticated plaintext, at the front of a reusable slot. -/
structure OpenedData where
  prepared : PreparedData
  plaintext : List UInt8
  plaintextLen : ℕ
  encryptedBodyLen : ℕ
  aeadTag : List UInt8
deriving DecidableEq

namespace Session

variable {Key : Type} (aead : Key → UInt64 → List UInt8 → Option (List UInt8))

def openPacketDataUnchecked (session : Session Key) (packet : PacketData) :
    Except WireGuardError (List UInt8) :=
  match aead session.receiver packet.counter packet.encryptedEncapsulatedPacket with
  | none => .error .invalidAeadTag
  | some plaintext => .ok plaintext

/-- Authenticates established data without changing the replay window. -/
def openPacketData (session : Session Key) (packet : PacketData) :
    Except WireGuardError (List UInt8) :=
  if packet.receiverIdx ≠ session.receivingIndex then .error .wrongIndex
  else (session.receivingKeyCounter.willAccept packet.counter).bind fun _ =>
    session.openPacketDataUnchecked aead packet

def markReceived (session : Session Key) (counter : UInt64) :
    Except WireGuardError (Session Key) :=
  (session.receivingKeyCounter.receivingCounterMark counter).map fun validator =>
    { session with receivingKeyCounter := validator }

def receivePacketData (session : Session Key) (packet : PacketData) :
    Except WireGuardError (List UInt8 × Session Key) :=
  if packet.receiverIdx ≠ session.receivingIndex then .error .wrongIndex
  else do
    session.receivingKeyCounter.willAccept packet.counter
    let plaintext ← session.openPacketDataUnchecked aead packet
    let session ← session.markReceived packet.counter
    return (plaintext, session)

end Session

namespace Tunn

variable {Key : Type} (aead : Key → UInt64 → List UInt8 → Option (List UInt8))

def session (t : Tunn Key) (index : UInt32) : Option (Session Key) :=
  t.sessions.get (slotOf index.toNat)

def setSession (t : Tunn Key) (index : ℕ) (session : Option (Session Key)) : Tunn Key :=
  { t with sessions := t.sessions.set (slotOf index) session }

def invalidatePipelineGeneration (t : Tunn Key) : Tunn Key :=
  { t with pipelineGeneration := t.pipelineGeneration + 1 }

def setCurrentSession (t : Tunn Key) (newIdx : ℕ) : Tunn Key :=
  if t.current = newIdx then t
  else if (t.sessions.get (slotOf t.current)).isNone
      ∨ t.timers.sessionTimers.get (slotOf newIdx)
        ≥ t.timers.sessionTimers.get (slotOf t.current) then
    { t with current := newIdx }
  else t

/-- Truncates an IP packet to the length that its header names. -/
def validateDecapsulatedPacket (t : Tunn Key) (packet : List UInt8) : TunnResult × Tunn Key :=
  let accept := fun (computedLen : ℕ) (result : List UInt8 → TunnResult) =>
    if computedLen > packet.length then (.err .invalidPacket, t)
    else (result (packet.take computedLen), { t with
      timers := t.timers.tickDataPacketReceived
      rxBytes := t.rxBytes + UInt64.ofNat computedLen })
  match packet with
  | [] => (.done, t)
  | first :: _ =>
    if first >>> 4 = 4 ∧ IPV4_MIN_HEADER_SIZE ≤ packet.length then
      accept (fromLeBytes (slice packet 2 4).reverse) fun accepted =>
        .writeToTunnelV4 accepted (slice packet 12 16)
    else if first >>> 4 = 6 ∧ IPV6_MIN_HEADER_SIZE ≤ packet.length then
      accept (fromLeBytes (slice packet 4 6).reverse + IPV6_MIN_HEADER_SIZE) fun accepted =>
        .writeToTunnelV6 accepted (slice packet 8 24)
    else (.err .invalidPacket, t)

/-- A data packet, decrypted and handed on at once. -/
def handleData (t : Tunn Key) (packet : PacketData) : TunnResult × Tunn Key :=
  match t.session packet.receiverIdx with
  | none => (.err .noCurrentSession, t)
  | some session =>
    match session.receivePacketData aead packet with
    | .error error => (.err error, t)
    | .ok (plaintext, session) =>
      let t := (t.setSession packet.receiverIdx.toNat (some session)).setCurrentSession
        packet.receiverIdx.toNat
      { t with timers := t.timers.tickPacketReceived }.validateDecapsulatedPacket plaintext

/-! ### The pipeline -/

def preflightData (t : Tunn Key) (datagram : List UInt8) : Except WireGuardError PreparedData :=
  if !t.packetQueue.isEmpty then .error .noCurrentSession
  else
    match parseIncomingPacket datagram with
    | .error error => .error error
    | .ok (.packetData packet) =>
      match t.session packet.receiverIdx with
      | none => .error .noCurrentSession
      | some session =>
        if session.receivingIndex ≠ packet.receiverIdx then .error .wrongIndex
        else (session.receivingKeyCounter.willAccept packet.counter).map fun _ =>
          ⟨packet.receiverIdx, packet.counter, t.pipelineGeneration, t.pipelineTunnelId⟩
    | .ok _ => .error .invalidPacket

/-- Decrypts into a slot, which an error returns to the caller. -/
def openPreparedData (t : Tunn Key) (datagram : List UInt8) (prepared : PreparedData)
    (slot : List UInt8) : Except WireGuardError OpenedData :=
  if t.pipelineGeneration ≠ prepared.generation ∨ t.pipelineTunnelId ≠ prepared.tunnelId then
    .error .noCurrentSession
  else
    match parseIncomingPacket datagram with
    | .error error => .error error
    | .ok (.packetData packet) =>
      if packet.receiverIdx ≠ prepared.receiverIdx ∨ packet.counter ≠ prepared.counter then
        .error .invalidPacket
      else
        match t.session prepared.receiverIdx with
        | none => .error .noCurrentSession
        | some session =>
          let body := packet.encryptedEncapsulatedPacket
          if slot.length < body.length then .error .invalidPacket
          else (session.openPacketData aead packet).map fun plain =>
            let aeadTag := body.drop (body.length - AEAD_TAG_SIZE)
            ⟨prepared, plain ++ aeadTag ++ slot.drop body.length, plain.length, body.length,
              aeadTag⟩
    | .ok _ => .error .invalidPacket

/-- What must hold of every capability of a burst before the first commit. -/
def validateOpenedData (t : Tunn Key) (opened : OpenedData) : Bool :=
  let prepared := opened.prepared
  t.pipelineGeneration == prepared.generation && t.pipelineTunnelId == prepared.tunnelId
    && t.packetQueue.isEmpty && opened.plaintextLen ≤ opened.plaintext.length
    && AEAD_TAG_SIZE ≤ opened.encryptedBodyLen && opened.aeadTag.length == AEAD_TAG_SIZE
    && (t.session prepared.receiverIdx).any fun session =>
      session.receivingIndex == prepared.receiverIdx
        && (session.receivingKeyCounter.willAccept prepared.counter).isOk

/-- Commits one opened packet: the slot and the length of the accepted packet, or the capability
itself where it is stale. -/
def commitOpenedData (t : Tunn Key) (opened : OpenedData) :
    Except OpenedData (List UInt8 × Option ℕ) × Tunn Key :=
  let prepared := opened.prepared
  if t.pipelineGeneration ≠ prepared.generation ∨ t.pipelineTunnelId ≠ prepared.tunnelId
      ∨ !t.packetQueue.isEmpty then (.error opened, t)
  else
    match t.session prepared.receiverIdx with
    | none => (.error opened, t)
    | some session =>
      if session.receivingIndex ≠ prepared.receiverIdx then (.error opened, t)
      else if !(session.receivingKeyCounter.willAccept prepared.counter).isOk then
        (.ok (opened.plaintext, none), t)
      else
        match session.markReceived prepared.counter with
        | .error _ => (.ok (opened.plaintext, none), t)
        | .ok session =>
          let t := (t.setSession prepared.receiverIdx.toNat (some session)).setCurrentSession
            prepared.receiverIdx.toNat
          let (result, t) := { t with timers := t.timers.tickPacketReceived
            }.validateDecapsulatedPacket (opened.plaintext.take opened.plaintextLen)
          (.ok (opened.plaintext, result.packet.map (·.length)), t)

/-! ### What else happens -/

inductive Call (Key : Type)
  | handleData (packet : PacketData)
  | commitOpenedData (opened : OpenedData)
  | handshakeInit (session : Session Key)
  | handshakeResponse (session : Session Key)
  | handleCookieReply
  /-- `format_handshake_initiation` finds the handshake expired, before it formats or fails. -/
  | handshakeExpired (now : ℕ)
  | formatHandshakeInitiation
  /-- `update_timers` takes either wish, or both. -/
  | takeWishes (handshake keepalive : Bool)
  | packetSent
  | queuePacket (packet : List UInt8)
  | requeuePacket (packet : List UInt8)
  | dequeuePacket
  | updateSessionTimers (now : ℕ)
  | clearAll (now : ℕ)
  | setStaticPrivate

def established (t : Tunn Key) (isInitiator : Bool) (index : ℕ) : Tunn Key :=
  { t with timers := { t.timers with
    timeSessionEstablished := t.timers.timeCurrent
    sessionTimers := t.timers.sessionTimers.set (slotOf index) t.timers.timeCurrent
    isInitiator } }

def updateSessionTimers (t : Tunn Key) (now : ℕ) : Tunn Key :=
  let expired := fun i : Fin 8 => now - t.timers.sessionTimers.get i > REJECT_AFTER_TIME
  { t with
    sessions := Vector.ofFn fun i => if expired i then none else t.sessions.get i
    timers := { t.timers with
      timeCurrent := now
      sessionTimers := Vector.ofFn fun i =>
        if expired i then now else t.timers.sessionTimers.get i } }

def step (t : Tunn Key) : Call Key → Unit × Tunn Key
  | .handleData packet => ((), (t.handleData aead packet).2)
  | .commitOpenedData opened => ((), (t.commitOpenedData opened).2)
  | .handshakeInit session =>
    let index := session.receivingIndex.toNat
    let t := t.invalidatePipelineGeneration.setSession index (some session)
    ((), { t with timers := t.timers.tickPacketReceived.tickPacketSent }.established false index)
  | .handshakeResponse session =>
    let index := session.receivingIndex.toNat
    let t := t.invalidatePipelineGeneration.setSession index (some session)
    ((), ({ t with timers := t.timers.tickPacketReceived }.established true
      (index % N_SESSIONS)).setCurrentSession index)
  | .handleCookieReply => ((), { t.invalidatePipelineGeneration with
      timers := t.timers.tickPacketReceived })
  | .handshakeExpired now => ((), { t.invalidatePipelineGeneration with
      timers := t.timers.clear now })
  | .formatHandshakeInitiation => ((), { t.invalidatePipelineGeneration with
      timers := t.timers.tickPacketSent })
  | .takeWishes handshake keepalive => ((), { t with timers := { t.timers with
      wantHandshake := t.timers.wantHandshake && !handshake
      wantKeepalive := t.timers.wantKeepalive && !keepalive } })
  | .packetSent => ((), { t with timers := t.timers.tickPacketSent })
  | .queuePacket packet =>
    ((), if t.packetQueue.length < MAX_QUEUE_DEPTH then
      { t with packetQueue := t.packetQueue ++ [packet] }.invalidatePipelineGeneration else t)
  | .requeuePacket packet =>
    ((), if t.packetQueue.length < MAX_QUEUE_DEPTH then
      { t with packetQueue := packet :: t.packetQueue }.invalidatePipelineGeneration else t)
  | .dequeuePacket =>
    ((), match t.packetQueue with
      | [] => t
      | _ :: rest => { t with packetQueue := rest }.invalidatePipelineGeneration)
  | .updateSessionTimers now => ((), t.updateSessionTimers now)
  | .clearAll now => ((), { t with
      sessions := Vector.replicate 8 none
      packetQueue := []
      timers := t.timers.clear now })
  | .setStaticPrivate => ((), { t.invalidatePipelineGeneration with
      sessions := Vector.replicate 8 none })

/-! ## What a capability relies on -/

variable {aead}
variable {t t' t'' : Tunn Key} {packet : PacketData} {opened : OpenedData} {index : ℕ} {i : Fin 8}

/-- A session apart from its replay window. -/
def identity (session : Session Key) : UInt32 × Key := (session.receivingIndex, session.receiver)

/-- Handling data keeps everything that a capability relies on. -/
structure Kept (t t' : Tunn Key) : Prop where
  generation : t'.pipelineGeneration = t.pipelineGeneration
  tunnelId : t'.pipelineTunnelId = t.pipelineTunnelId
  queue : t'.packetQueue = t.packetQueue
  identity : ∀ i, (t'.sessions.get i).map identity = (t.sessions.get i).map identity

theorem Kept.refl (t : Tunn Key) : Kept t t := ⟨rfl, rfl, rfl, fun _ => rfl⟩

theorem Kept.trans (h : Kept t t') (h' : Kept t' t'') : Kept t t'' :=
  ⟨h'.generation.trans h.generation, h'.tunnelId.trans h.tunnelId, h'.queue.trans h.queue,
    fun i => (h'.identity i).trans (h.identity i)⟩

theorem get_setSession (t : Tunn Key) (index : ℕ) (session : Option (Session Key)) (i : Fin 8) :
    (t.setSession index session).sessions.get i
      = if slotOf index = i then session else t.sessions.get i := by
  change (t.sessions.set (slotOf index) session)[i.val] = if _ then session else t.sessions[i.val]
  rw [Vector.getElem_set]
  simp only [Fin.val_inj]

theorem kept_setSession {session session' : Session Key}
    (h : t.sessions.get (slotOf index) = some session)
    (hidentity : identity session' = identity session) :
    Kept t (t.setSession index (some session')) := by
  refine ⟨rfl, rfl, rfl, fun i => ?_⟩
  rw [get_setSession]
  split_ifs with heq
  · rw [← heq, h, Option.map_some, Option.map_some, hidentity]
  · rfl

theorem kept_setCurrentSession (t : Tunn Key) (newIdx : ℕ) :
    Kept t (t.setCurrentSession newIdx) := by
  unfold setCurrentSession
  split_ifs
  · exact .refl t
  · exact ⟨rfl, rfl, rfl, fun _ => rfl⟩
  · exact .refl t

theorem kept_validateDecapsulatedPacket (t : Tunn Key) (packet : List UInt8) :
    Kept t (t.validateDecapsulatedPacket packet).2 := by
  unfold validateDecapsulatedPacket
  dsimp only
  split
  · exact .refl t
  · split_ifs
    · exact .refl t
    · exact ⟨rfl, rfl, rfl, fun _ => rfl⟩
    · exact .refl t
    · exact ⟨rfl, rfl, rfl, fun _ => rfl⟩
    · exact .refl t

/-- What is handed on is a prefix of what was decrypted. -/
theorem prefix_of_validateDecapsulatedPacket (t : Tunn Key) (plaintext : List UInt8) :
    ∀ accepted ∈ (t.validateDecapsulatedPacket plaintext).1.packet, accepted <+: plaintext := by
  unfold validateDecapsulatedPacket
  dsimp only
  split
  · exact nofun
  · split_ifs
    · exact nofun
    · exact fun accepted haccepted => Option.some.inj haccepted ▸ List.take_prefix _ _
    · exact nofun
    · exact fun accepted haccepted => Option.some.inj haccepted ▸ List.take_prefix _ _
    · exact nofun

theorem identity_markReceived {session session' : Session Key} {counter : UInt64}
    (h : session.markReceived counter = .ok session') : identity session' = identity session := by
  unfold Session.markReceived at h
  cases hmark : session.receivingKeyCounter.receivingCounterMark counter with
  | error e =>
    rw [hmark] at h
    cases h
  | ok validator =>
    rw [hmark] at h
    obtain rfl := Except.ok.inj h
    rfl

theorem kept_commit {session session' : Session Key} {counter : UInt64} (index : UInt32)
    (h : t.session index = some session) (hmark : session.markReceived counter = .ok session')
    (plaintext : List UInt8) :
    let marked := (t.setSession index.toNat (some session')).setCurrentSession index.toNat
    Kept t ({ marked with timers := marked.timers.tickPacketReceived
      }.validateDecapsulatedPacket plaintext).2 := by
  intro marked
  have hset : Kept t marked :=
    (kept_setSession h (identity_markReceived hmark)).trans (kept_setCurrentSession _ _)
  have hticked : Kept marked { marked with timers := marked.timers.tickPacketReceived } :=
    ⟨rfl, rfl, rfl, fun _ => rfl⟩
  exact (hset.trans hticked).trans (kept_validateDecapsulatedPacket _ _)

theorem kept_handleData (aead : Key → UInt64 → List UInt8 → Option (List UInt8)) (t : Tunn Key)
    (packet : PacketData) : Kept t (t.handleData aead packet).2 := by
  unfold handleData
  split
  · exact .refl t
  · rename_i session hsession
    unfold Session.receivePacketData
    split_ifs with hindex
    · exact .refl t
    cases session.receivingKeyCounter.willAccept packet.counter with
    | error e => exact .refl t
    | ok _ =>
      cases session.openPacketDataUnchecked aead packet with
      | error e => exact .refl t
      | ok plaintext =>
        cases hmark : session.markReceived packet.counter with
        | error e =>
          simp only [bind, Except.bind]
          exact .refl t
        | ok session' =>
          simp only [bind, Except.bind]
          exact kept_commit packet.receiverIdx hsession hmark plaintext

/-- A capability and its packet, in a tunnel that still has what the capability relies on. -/
structure Ready (aead : Key → UInt64 → List UInt8 → Option (List UInt8)) (t : Tunn Key)
    (packet : PacketData) (opened : OpenedData) : Prop where
  generation : t.pipelineGeneration = opened.prepared.generation
  tunnelId : t.pipelineTunnelId = opened.prepared.tunnelId
  queue : t.packetQueue = []
  receiverIdx : packet.receiverIdx = opened.prepared.receiverIdx
  counter : packet.counter = opened.prepared.counter
  plaintext : ∃ key, (t.sessions.get (slotOf packet.receiverIdx.toNat)).map identity
      = some (packet.receiverIdx, key)
    ∧ aead key packet.counter packet.encryptedEncapsulatedPacket
      = some (opened.plaintext.take opened.plaintextLen)

theorem Ready.kept (h : Ready aead t packet opened) (hkept : Kept t t') :
    Ready aead t' packet opened where
  generation := hkept.generation.trans h.generation
  tunnelId := hkept.tunnelId.trans h.tunnelId
  queue := hkept.queue.trans h.queue
  receiverIdx := h.receiverIdx
  counter := h.counter
  plaintext := by
    obtain ⟨key, hidentity, hopen⟩ := h.plaintext
    exact ⟨key, (hkept.identity _).trans hidentity, hopen⟩

/-- Committing what was decrypted ahead is handling the packet now. -/
theorem Ready.commitOpenedData (h : Ready aead t packet opened) :
    t.commitOpenedData opened
      = (.ok (opened.plaintext, (t.handleData aead packet).1.packet.map (·.length)),
        (t.handleData aead packet).2) := by
  obtain ⟨key, hidentity, hopen⟩ := h.plaintext
  obtain ⟨session, hsession, hkey⟩ := Option.map_eq_some_iff.mp hidentity
  obtain ⟨hindex, hreceiver⟩ := Prod.mk.inj hkey
  have hknown : t.session packet.receiverIdx = some session := hsession
  have hstale : ¬(t.pipelineGeneration ≠ opened.prepared.generation
      ∨ t.pipelineTunnelId ≠ opened.prepared.tunnelId ∨ (!t.packetQueue.isEmpty) = true) := by
    rw [h.generation, h.tunnelId, h.queue]
    simp
  have hopened : session.openPacketDataUnchecked aead packet
      = .ok (opened.plaintext.take opened.plaintextLen) := by
    unfold Session.openPacketDataUnchecked
    rw [hreceiver, hopen]
  unfold Tunn.commitOpenedData Tunn.handleData Session.receivePacketData
  dsimp only
  rw [if_neg hstale, ← h.receiverIdx, ← h.counter, hknown]
  dsimp only
  rw [if_neg (not_not.mpr hindex), if_neg (not_not.mpr hindex.symm), hopened]
  cases session.receivingKeyCounter.willAccept packet.counter with
  | error e => rfl
  | ok _ =>
    cases session.markReceived packet.counter with
    | error e => rfl
    | ok session' => rfl

/-- What opening a packet leaves in the capability. -/
theorem openPreparedData_eq_ok {datagram slot : List UInt8} {prepared : PreparedData}
    (h : t.openPreparedData aead datagram prepared slot = .ok opened) :
    opened.prepared = prepared ∧ t.pipelineGeneration = prepared.generation
      ∧ t.pipelineTunnelId = prepared.tunnelId
      ∧ ∃ packet session, parseIncomingPacket datagram = .ok (.packetData packet)
        ∧ packet.receiverIdx = prepared.receiverIdx ∧ packet.counter = prepared.counter
        ∧ t.session packet.receiverIdx = some session
        ∧ session.receivingIndex = packet.receiverIdx
        ∧ aead session.receiver packet.counter packet.encryptedEncapsulatedPacket
          = some (opened.plaintext.take opened.plaintextLen)
        ∧ opened.plaintextLen ≤ opened.plaintext.length
        ∧ opened.encryptedBodyLen = packet.encryptedEncapsulatedPacket.length
        ∧ opened.aeadTag = packet.encryptedEncapsulatedPacket.drop
          (packet.encryptedEncapsulatedPacket.length - AEAD_TAG_SIZE) := by
  unfold openPreparedData at h
  split_ifs at h with hstale
  obtain ⟨hgeneration, htunnelId⟩ := not_or.mp hstale
  split at h
  · cases h
  · rename_i packet hparse
    split_ifs at h with hother
    obtain ⟨hindex, hcounter⟩ := not_or.mp hother
    rw [not_not] at hgeneration htunnelId hindex hcounter
    split at h
    · cases h
    · rename_i session hsession
      dsimp only at h
      split_ifs at h
      unfold Session.openPacketData Session.openPacketDataUnchecked at h
      split_ifs at h with hwrong
      · cases h
      cases hwill : session.receivingKeyCounter.willAccept packet.counter with
      | error e =>
        rw [hwill] at h
        cases h
      | ok _ =>
        rw [hwill] at h
        cases hopen : aead session.receiver packet.counter
            packet.encryptedEncapsulatedPacket with
        | none =>
          simp only [Except.bind, hopen] at h
          cases h
        | some plain =>
          simp only [Except.bind, hopen] at h
          obtain rfl := Except.ok.inj h
          refine ⟨rfl, hgeneration, htunnelId, packet, session, hparse, hindex, hcounter, ?_, ?_,
            ?_, ?_, rfl, rfl⟩
          · rwa [hindex]
          · exact (not_not.mp hwrong).symm
          · rw [hopen]
            dsimp only
            rw [List.append_assoc, List.take_left]
          · dsimp only
            rw [List.append_assoc, List.length_append]
            exact Nat.le_add_right _ _
  · cases h

theorem parseIncomingPacket_data {datagram : List UInt8}
    (h : parseIncomingPacket datagram = .ok (.packetData packet)) :
    AEAD_TAG_SIZE ≤ packet.encryptedEncapsulatedPacket.length := by
  unfold parseIncomingPacket at h
  split_ifs at h
  split at h
  · cases h
  · cases h
  · cases h
  · split_ifs at h with hlong
    cases h
    simp only [List.length_drop, DATA_OVERHEAD_SZ, AEAD_TAG_SIZE] at hlong ⊢
    omega
  · cases h

/-- A capability that is opened where its datagram was found eligible is valid there. -/
theorem validateOpenedData_of_preflightData {datagram slot : List UInt8} {prepared : PreparedData}
    (heligible : t.preflightData datagram = .ok prepared)
    (h : t.openPreparedData aead datagram prepared slot = .ok opened) :
    t.validateOpenedData opened = true := by
  obtain ⟨hprepared, hgeneration, htunnelId, packet, session, hparse, hindex, hcounter, hsession,
    hreceiving, -, hplaintext, hlen, htag⟩ := openPreparedData_eq_ok h
  have hbody := parseIncomingPacket_data hparse
  unfold preflightData at heligible
  split_ifs at heligible with hqueue
  rw [Bool.not_eq_true', Bool.not_eq_false] at hqueue
  rw [hparse] at heligible
  dsimp only at heligible
  rw [hsession] at heligible
  dsimp only at heligible
  rw [if_neg (not_not.mpr hreceiving)] at heligible
  have hwill : (session.receivingKeyCounter.willAccept packet.counter).isOk = true := by
    cases hcounted : session.receivingKeyCounter.willAccept packet.counter with
    | error e =>
      rw [hcounted] at heligible
      cases heligible
    | ok _ => rfl
  have htagged : opened.aeadTag.length = AEAD_TAG_SIZE := by
    rw [htag, List.length_drop]
    omega
  unfold validateOpenedData
  simp only [Bool.and_eq_true, beq_iff_eq, decide_eq_true_eq, Option.any_eq_true]
  rw [hprepared, ← hindex, ← hcounter]
  exact ⟨⟨⟨⟨⟨⟨hgeneration, htunnelId⟩, hqueue⟩, hplaintext⟩, hlen ▸ hbody⟩, htagged⟩, session,
    hsession, hreceiving, hwill⟩

/-! ## Between opening and commit -/

/-- How a tunnel follows another: whether its sessions are still the same, or gone, or it has left
the generation. -/
structure Since (n : ℕ) (t t' : Tunn Key) : Prop where
  invalidations : ∃ k ≤ n, t'.pipelineGeneration.toNat
      = (t.pipelineGeneration.toNat + k) % 2 ^ 64
    ∧ (k = 0 → ∀ i, t'.sessions.get i = none
      ∨ (t'.sessions.get i).map identity = (t.sessions.get i).map identity)

theorem Since.refl (t : Tunn Key) : Since 0 t t :=
  ⟨0, Nat.le_refl 0, (Nat.mod_eq_of_lt t.pipelineGeneration.toNat_lt).symm, fun _ _ => .inr rfl⟩

/-- A step that keeps the generation at most drops sessions. -/
theorem Since.keep {n : ℕ} (h : Since n t t') (hgeneration : t''.pipelineGeneration
    = t'.pipelineGeneration) (hsessions : ∀ i, t''.sessions.get i = none
      ∨ (t''.sessions.get i).map identity = (t'.sessions.get i).map identity) :
    Since (n + 1) t t'' := by
  obtain ⟨k, hk, hcount, hsame⟩ := h.invalidations
  refine ⟨k, hk.trans (Nat.le_succ n), by rw [hgeneration, hcount], fun hzero i => ?_⟩
  rcases hsessions i with hnone | heq
  · exact .inl hnone
  · rcases hsame hzero i with hnone | hold
    · rw [hnone] at heq
      exact .inl (Option.map_eq_none_iff.mp heq)
    · exact .inr (heq.trans hold)

theorem Since.invalidate {n : ℕ} (h : Since n t t')
    (hgeneration : t''.pipelineGeneration = t'.pipelineGeneration + 1) : Since (n + 1) t t'' := by
  obtain ⟨k, hk, hcount, -⟩ := h.invalidations
  refine ⟨k + 1, Nat.succ_le_succ hk, ?_, nofun⟩
  rw [hgeneration, UInt64.toNat_add, UInt64.toNat_one, hcount]
  omega

theorem Since.kept {n : ℕ} (h : Since n t t') (hkept : Kept t' t'') : Since (n + 1) t t'' :=
  h.keep hkept.generation fun i => .inr (hkept.identity i)

theorem kept_commitOpenedData (t : Tunn Key) (opened : OpenedData) :
    Kept t (t.commitOpenedData opened).2 := by
  unfold commitOpenedData
  dsimp only
  split_ifs
  · exact .refl t
  split
  · exact .refl t
  · rename_i session hsession
    split_ifs
    · exact .refl t
    · exact .refl t
    · split
      · exact .refl t
      · rename_i session' hmark
        exact kept_commit opened.prepared.receiverIdx hsession hmark _

theorem Since.step {n : ℕ} (h : Since n t t') (call : Call Key) :
    Since (n + 1) t (t'.step aead call).2 := by
  have hsame : ∀ i, t'.sessions.get i = none
      ∨ (t'.sessions.get i).map identity = (t'.sessions.get i).map identity := fun _ => .inr rfl
  cases call with
  | handleData packet => exact h.kept (kept_handleData aead t' packet)
  | commitOpenedData opened => exact h.kept (kept_commitOpenedData t' opened)
  | handshakeInit session => exact h.invalidate rfl
  | handshakeResponse session => exact h.invalidate (kept_setCurrentSession _ _).generation
  | handleCookieReply => exact h.invalidate rfl
  | handshakeExpired now => exact h.invalidate rfl
  | formatHandshakeInitiation => exact h.invalidate rfl
  | takeWishes handshake keepalive => exact h.keep rfl hsame
  | packetSent => exact h.keep rfl hsame
  | queuePacket packet =>
    unfold Tunn.step
    dsimp only
    split_ifs
    · exact h.invalidate rfl
    · exact h.keep rfl hsame
  | requeuePacket packet =>
    unfold Tunn.step
    dsimp only
    split_ifs
    · exact h.invalidate rfl
    · exact h.keep rfl hsame
  | dequeuePacket =>
    unfold Tunn.step
    dsimp only
    split
    · exact h.keep rfl hsame
    · exact h.invalidate rfl
  | updateSessionTimers now =>
    refine h.keep rfl fun i => ?_
    have hget : (t'.updateSessionTimers now).sessions.get i
        = if now - t'.timers.sessionTimers.get i > REJECT_AFTER_TIME then none
          else t'.sessions.get i := Vector.getElem_ofFn _
    change (t'.updateSessionTimers now).sessions.get i = none ∨ _
    rw [hget]
    split_ifs with hexpired
    · exact .inl rfl
    · refine .inr ?_
      change ((t'.updateSessionTimers now).sessions.get i).map identity = _
      rw [hget, if_neg hexpired]
  | clearAll now => exact h.keep rfl fun i => .inl (Vector.getElem_replicate _)
  | setStaticPrivate => exact h.invalidate rfl

theorem since_run (origin : Tunn Key) (calls : List (Call Key)) :
    Since calls.length origin (Runs.run (step aead) origin calls) := by
  induction calls using List.reverseRecOn with
  | nil => exact .refl origin
  | append_singleton calls call ih =>
    rw [Runs.run_append, List.length_append]
    exact ih.step call

/-- A tunnel in the same generation still has the sessions of the other, where it has any. -/
theorem Since.identity_eq {n : ℕ} (h : Since n t t') (hn : n < 2 ^ 64)
    (hgeneration : t'.pipelineGeneration = t.pipelineGeneration) {session session' : Session Key}
    (hsession : t.sessions.get i = some session) (hsession' : t'.sessions.get i = some session') :
    identity session' = identity session := by
  obtain ⟨k, hk, hcount, hsame⟩ := h.invalidations
  have hzero : k = 0 := by
    have hlt := t.pipelineGeneration.toNat_lt
    rw [hgeneration] at hcount
    omega
  rcases hsame hzero i with hnone | heq
  · rw [hsession'] at hnone
    cases hnone
  · rw [hsession, hsession'] at heq
    exact Option.some.inj heq

/-! ## Bursts -/

def dataPacket (datagram : List UInt8) : Option PacketData :=
  match parseIncomingPacket datagram with
  | .ok (.packetData packet) => some packet
  | _ => none

/-- A capability was opened from a datagram, and the tunnel has gone on from there. -/
def Ahead (aead : Key → UInt64 → List UInt8 → Option (List UInt8)) (t : Tunn Key)
    (datagram : List UInt8) (opened : OpenedData) : Prop :=
  ∃ origin prepared slot calls, openPreparedData aead origin datagram prepared slot = .ok opened
    ∧ calls.length < 2 ^ 64 ∧ Runs.run (step aead) origin calls = t

theorem Ahead.ready {datagram : List UInt8} (h : Ahead aead t datagram opened)
    (hvalid : t.validateOpenedData opened = true) :
    ∃ packet, dataPacket datagram = some packet ∧ Ready aead t packet opened := by
  obtain ⟨origin, prepared, slot, calls, hopened, hcalls, rfl⟩ := h
  obtain ⟨rfl, hgeneration, -, packet, session, hparse, hindex, hcounter, hsession, hreceiving,
    hopen, -⟩ := openPreparedData_eq_ok hopened
  unfold validateOpenedData at hvalid
  simp only [Bool.and_eq_true, beq_iff_eq, List.isEmpty_iff, Option.any_eq_true] at hvalid
  obtain ⟨⟨⟨⟨⟨⟨hgeneration', htunnelId⟩, hqueue⟩, -⟩, -⟩, -⟩, session', hsession',
    hreceiving', -⟩ := hvalid
  have hidentity : identity session' = identity session :=
    (since_run origin calls).identity_eq hcalls (hgeneration'.trans hgeneration.symm) hsession
      (by rw [hindex]; exact hsession')
  refine ⟨packet, by unfold dataPacket; rw [hparse], hgeneration', htunnelId, hqueue, hindex,
    hcounter, session.receiver, ?_, hopen⟩
  have hnow : (Runs.run (step aead) origin calls).sessions.get (slotOf packet.receiverIdx.toNat)
      = some session' := by
    rw [hindex]
    exact hsession'
  rw [hnow, Option.map_some, hidentity, ← hreceiving]
  rfl

/-- The packet that a commit hands on. -/
def delivered (committed : Except OpenedData (List UInt8 × Option ℕ)) :
    Except OpenedData (Option (List UInt8)) :=
  committed.map fun (slot, acceptedLen) => acceptedLen.map slot.take

def commitBurst (t : Tunn Key) :
    List OpenedData → List (Except OpenedData (Option (List UInt8))) × Tunn Key
  | [] => ([], t)
  | opened :: rest =>
    let (committed, t) := t.commitOpenedData opened
    let (later, t) := t.commitBurst rest
    (delivered committed :: later, t)

def handleBurst (aead : Key → UInt64 → List UInt8 → Option (List UInt8)) (t : Tunn Key) :
    List PacketData → List TunnResult × Tunn Key
  | [] => ([], t)
  | packet :: rest =>
    let (result, t) := t.handleData aead packet
    let (later, t) := t.handleBurst aead rest
    (result :: later, t)

theorem prefix_of_handleData {session : Session Key} {plaintext : List UInt8}
    (hsession : t.session packet.receiverIdx = some session)
    (hopened : session.openPacketDataUnchecked aead packet = .ok plaintext) :
    ∀ accepted ∈ (t.handleData aead packet).1.packet, accepted <+: plaintext := by
  unfold handleData Session.receivePacketData
  rw [hsession]
  dsimp only
  split_ifs
  · exact nofun
  rw [hopened]
  cases session.receivingKeyCounter.willAccept packet.counter with
  | error e => exact nofun
  | ok _ =>
    cases session.markReceived packet.counter with
    | error e => exact nofun
    | ok session' => exact prefix_of_validateDecapsulatedPacket _ _

theorem Ready.delivered (h : Ready aead t packet opened) :
    delivered (t.commitOpenedData opened).1 = .ok (t.handleData aead packet).1.packet := by
  obtain ⟨key, hidentity, hopen⟩ := h.plaintext
  obtain ⟨session, hsession, hkey⟩ := Option.map_eq_some_iff.mp hidentity
  have hopened : session.openPacketDataUnchecked aead packet
      = .ok (opened.plaintext.take opened.plaintextLen) := by
    unfold Session.openPacketDataUnchecked
    rw [(Prod.mk.inj hkey).2, hopen]
  have hhanded := prefix_of_handleData hsession hopened
  rw [h.commitOpenedData]
  unfold Tunn.delivered
  simp only [Except.map, Option.map_map]
  refine congrArg Except.ok ?_
  cases hpacket : (t.handleData aead packet).1.packet with
  | none => rfl
  | some accepted =>
    have hfront := (hhanded accepted hpacket).trans (List.take_prefix _ _)
    exact congrArg some (List.prefix_iff_eq_take.mp hfront).symm

theorem commitBurst_eq {burst : List (PacketData × OpenedData)}
    (h : ∀ item ∈ burst, Ready aead t item.1 item.2) :
    t.commitBurst (burst.map (·.2))
      = ((t.handleBurst aead (burst.map (·.1))).1.map fun result => .ok result.packet,
        (t.handleBurst aead (burst.map (·.1))).2) := by
  induction burst generalizing t with
  | nil => rfl
  | cons item rest ih =>
    have hready := h item List.mem_cons_self
    have hrest := ih fun later hlater =>
      (h later (List.mem_cons_of_mem item hlater)).kept (kept_handleData aead t item.1)
    have hdelivered := hready.delivered
    rw [List.map_cons, List.map_cons]
    unfold commitBurst handleBurst
    dsimp only
    rw [hdelivered, hready.commitOpenedData]
    dsimp only
    rw [hrest, List.map_cons]

/-- **A burst is its packets.**  Let a tunnel hold capabilities, each opened from a datagram at an
earlier point of its run, whatever happened since.  If all of them pass validation, committing them
in order leaves the tunnel as handling their packets one by one does, and hands on the same
packets; none is refused as stale. -/
theorem commitBurst_along {burst : List (List UInt8 × OpenedData)}
    (hahead : ∀ item ∈ burst, Ahead aead t item.1 item.2)
    (hvalid : ∀ item ∈ burst, t.validateOpenedData item.2 = true) :
    ∃ packets, burst.map (fun item => dataPacket item.1) = packets.map some
      ∧ t.commitBurst (burst.map (·.2))
        = ((t.handleBurst aead packets).1.map fun result => .ok result.packet,
          (t.handleBurst aead packets).2) := by
  have hready : ∃ items : List (PacketData × OpenedData),
      burst.map (fun item => dataPacket item.1) = items.map (fun item => some item.1)
        ∧ burst.map (·.2) = items.map (·.2) ∧ ∀ item ∈ items, Ready aead t item.1 item.2 := by
    induction burst with
    | nil => exact ⟨[], rfl, rfl, nofun⟩
    | cons item rest ih =>
      obtain ⟨items, hpackets, hopened, hall⟩ := ih
        (fun later hlater => hahead later (List.mem_cons_of_mem item hlater))
        (fun later hlater => hvalid later (List.mem_cons_of_mem item hlater))
      obtain ⟨packet, hpacket, hfirst⟩ :=
        (hahead item List.mem_cons_self).ready (hvalid item List.mem_cons_self)
      refine ⟨(packet, item.2) :: items, ?_, ?_, ?_⟩
      · rw [List.map_cons, List.map_cons, hpacket, hpackets]
      · rw [List.map_cons, List.map_cons, hopened]
      · intro later hlater
        rcases List.mem_cons.mp hlater with rfl | hlater
        · exact hfirst
        · exact hall later hlater
  obtain ⟨items, hpackets, hopened, hall⟩ := hready
  refine ⟨items.map (·.1), ?_, ?_⟩
  · rw [hpackets, List.map_map]
    rfl
  · rw [hopened]
    exact commitBurst_eq hall

/-! ### A burst of one packet twice -/

def emptyPacket : List UInt8 := [0x45, 0, 0, 20] ++ List.replicate 16 0

/-- The packet as the sixth of a session, before a tag of zeros. -/
def sixthDatagram : List UInt8 :=
  [4, 0, 0, 0] ++ [0, 1, 0, 0] ++ [5, 0, 0, 0, 0, 0, 0, 0] ++ emptyPacket ++ List.replicate 16 0

def withoutTag (_ : Unit) (_ : UInt64) (body : List UInt8) : Option (List UInt8) :=
  if body.length < AEAD_TAG_SIZE then none else some (body.take (body.length - AEAD_TAG_SIZE))

def idleTunnel : Tunn Unit where
  sessions := (Vector.replicate 8 none).set 0
    (some ⟨256, (), ReceivingKeyCounterValidator.default⟩)
  current := 0
  packetQueue := []
  timers := ⟨0, 0, 0, 0, 0, Vector.replicate 8 0, false, false, false⟩
  rxBytes := 0
  pipelineGeneration := 0
  pipelineTunnelId := 1

def sixthOpened : OpenedData :=
  ⟨⟨256, 5, 0, 1⟩, emptyPacket ++ List.replicate 16 0, 20, 36, List.replicate 16 0⟩

theorem commitBurst_along_twice :
    (idleTunnel.commitBurst [sixthOpened, sixthOpened]).1 = [.ok (some emptyPacket), .ok none] := by
  have hopened : openPreparedData withoutTag idleTunnel sixthDatagram sixthOpened.prepared
      (List.replicate 36 0) = .ok sixthOpened := by rfl
  have hahead : Ahead withoutTag idleTunnel sixthDatagram sixthOpened :=
    ⟨idleTunnel, _, _, [], hopened, by decide, rfl⟩
  have hvalid : idleTunnel.validateOpenedData sixthOpened = true :=
    validateOpenedData_of_preflightData rfl hopened
  have htwice : ∀ item ∈ List.replicate 2 (sixthDatagram, sixthOpened),
      Ahead withoutTag idleTunnel item.1 item.2
        ∧ idleTunnel.validateOpenedData item.2 = true := by
    intro item hitem
    rw [List.eq_of_mem_replicate hitem]
    exact ⟨hahead, hvalid⟩
  obtain ⟨packets, hpackets, hburst⟩ := commitBurst_along
    (fun item hitem => (htwice item hitem).1) fun item hitem => (htwice item hitem).2
  have hdata : dataPacket sixthDatagram
      = some ⟨256, 5, emptyPacket ++ List.replicate 16 0⟩ := by rfl
  obtain rfl : packets = List.replicate 2 ⟨256, 5, emptyPacket ++ List.replicate 16 0⟩ := by
    refine List.map_injective_iff.mpr (Option.some_injective _) ?_
    rw [← hpackets, List.map_replicate, List.map_replicate, hdata]
  have hresults : (idleTunnel.handleBurst withoutTag
      (List.replicate 2 ⟨256, 5, emptyPacket ++ List.replicate 16 0⟩)).1.map (·.packet)
        = [some emptyPacket, none] := by
    decide +kernel
  have hcommitted : (idleTunnel.commitBurst [sixthOpened, sixthOpened]).1
      = ((idleTunnel.handleBurst withoutTag
        (List.replicate 2 ⟨256, 5, emptyPacket ++ List.replicate 16 0⟩)).1.map (·.packet)).map
          Except.ok := by
    rw [List.map_map]
    exact congrArg Prod.fst hburst
  rw [hcommitted, hresults]
  rfl

end Tunn

end Spurfire.Noise
