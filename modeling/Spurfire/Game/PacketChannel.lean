import Spurfire.Game.ManifestPin
import Spurfire.Game.SignedStatements
import Spurfire.Lib.InOrder
import Spurfire.Net.Agreement

/-!
# A packet channel of the retained wire

`SecureSession` of `spurfire-net/src/lib.rs`, which signs what it sends and checks what it receives,
and a channel between two of them over a network that delivers anything, at any time, from anywhere.

* `Channel` and its `step`: the two sessions, and what the sender's key has signed so far;
* `Channel.Sound`: a run in which nobody forges a signature of the sender;
* `Channel.Tracks`: the invariant, which one step keeps (`Tracks.step`);
* `Channel.received_sublist_sent`: what the receiver accepts is what was sent, in order, once.
-/

namespace Spurfire

open Wire (beBytes)

namespace SecureSession

variable (X : Externals)

/-! ## The session -/

def sign (s : SecureSession) (env : Envelope) (signingKey : SigningKey) :
    Except SessionIdentityError Envelope :=
  match s.manifest.entry env.sender with
  | none => .error .badSignature
  | some entry =>
    if entry.sessionPublicKey ≠ X.verifyingKey signingKey then .error .badSignature
    else
      let digest := env.digest X s.manifest.networkGeneration s.manifest.sessionGeneration
        s.rosterHash
      .ok { env with
            session := some
              { networkGeneration := s.manifest.networkGeneration
                sessionGeneration := s.manifest.sessionGeneration
                rosterHash := s.rosterHash
                signature := X.sign signingKey digest } }

/-- A shot is signed by its shooter under the tick of its packet, a result under its own tick. -/
def subjectIsValid (s : SecureSession) (tick : UInt64) : PeerPayload → Bool
  | .shotCommand command =>
    command.shooterPeerId == s.state.localPlayer && command.tick == tick
  | .shotResult result => result.tick == tick
  | _ => true

def envelope (s : SecureSession) (tick : UInt64) (payload : PeerPayload)
    (signingKey : SigningKey) : Except SessionIdentityError Envelope × SecureSession :=
  if SessionState.isAuthorityOnly payload ∧ s.state.localPlayer ≠ s.state.authority then
    (.error .badSignature, s)
  else if !s.subjectIsValid tick payload then (.error .badSignature, s)
  else
    let sent := s.state.envelope tick payload
    (s.sign X sent.1 signingKey, { s with state := sent.2 })

def expireAndMigrate (s : SecureSession) (nowMs : UInt64) :
    Option (PlayerId × UInt64) × SecureSession :=
  let moved := s.state.expireAndMigrate nowMs
  (moved.1, { s with state := moved.2 })

/-- The first reason to reject a packet before any session state is consulted. -/
def authenticate (s : SecureSession) (env : Envelope) (source : SocketAddr)
    (currentNodeKey : Option NodeKey) : Option AcceptOutcome :=
  match env.session, s.manifest.entry env.sender with
  | none, _ => some .unsignedInSecureMode
  | some _, none => some .unknownSender
  | some binding, some entry =>
    if entry.tailnetAddress ≠ source.ip ∨ entry.applicationPort ≠ source.port then
      some .endpointMismatch
    else if entry.nodeKey.any fun claimed => currentNodeKey.any (claimed ≠ ·) then
      some .nodeKeyMismatch
    else if env.lobbyId ≠ s.manifest.lobbyId then some .wrongLobby
    else if binding.networkGeneration ≠ s.manifest.networkGeneration
        ∨ binding.sessionGeneration ≠ s.manifest.sessionGeneration then
      some .wrongGeneration
    else if binding.rosterHash ≠ s.rosterHash then some .rosterMismatch
    else if !(X.verifyDigest entry.sessionPublicKey
        (env.digest X binding.networkGeneration binding.sessionGeneration binding.rosterHash)
        binding.signature).isOk then
      some .badSignature
    else none

def acceptWithSource (s : SecureSession) (env : Envelope) (source : SocketAddr)
    (currentNodeKey : Option NodeKey) (nowMs : UInt64) : AcceptOutcome × SecureSession :=
  match s.authenticate X env source currentNodeKey with
  | some outcome => (outcome, s)
  | none =>
    let accepted := s.state.accept X env nowMs
    (accepted.1, { s with state := accepted.2 })

end SecureSession

/-! ## What the session state keeps -/

namespace SessionState

variable {X : Externals} {s : SessionState} {env : Envelope} {nowMs : UInt64}

theorem lastSequence_congr {t : SessionState} (h : t.peers = s.peers) (p : PlayerId) :
    t.lastSequence p = s.lastSequence p := by
  rw [lastSequence, h, lastSequence]

theorem nextSequence_acceptCommit (s : SessionState) (env : Envelope) (nowMs : UInt64) :
    (s.acceptCommit env nowMs).nextSequence = s.nextSequence
      ∧ (s.acceptCommit env nowMs).localPlayer = s.localPlayer := by
  have hrecord : ∀ t : SessionState, (t.recordPayload env).nextSequence = t.nextSequence
      ∧ (t.recordPayload env).localPlayer = t.localPlayer := by
    intro t
    unfold recordPayload
    split <;> exact ⟨rfl, rfl⟩
  have hclaim : ∀ (t : SessionState) (authority : PlayerId) (epoch : UInt64),
      (t.installClaim authority epoch).nextSequence = t.nextSequence
        ∧ (t.installClaim authority epoch).localPlayer = t.localPlayer := by
    intro t authority epoch
    unfold installClaim
    split_ifs <;> exact ⟨rfl, rfl⟩
  unfold acceptCommit
  split
  · exact ⟨(hclaim ..).1.trans (hrecord _).1, (hclaim ..).2.trans (hrecord _).2⟩
  · exact hrecord _

theorem lastSequence_acceptCommit (s : SessionState) (env : Envelope) (nowMs : UInt64)
    (p : PlayerId) : (s.acceptCommit env nowMs).lastSequence p
      = if env.sender = p then env.sequence else s.lastSequence p := by
  have hrecord : ((s.touch env.sender env.sequence nowMs (env.payload ≠ .leave)).recordPayload
      env).lastSequence p = if env.sender = p then env.sequence else s.lastSequence p := by
    rw [lastSequence_congr (recordPayload_frame _ _).2.1, lastSequence_touch]
  unfold acceptCommit
  split
  · rw [lastSequence_congr (installClaim_frame _ _ _).2.1, hrecord]
  · exact hrecord

theorem acceptGate_ne_accepted : s.acceptGate X env nowMs ≠ some .accepted := by
  unfold acceptGate
  split_ifs <;> simp

/-- **What one packet can do.**  It is taken above the sender's last number, or nothing changes. -/
theorem accept_cases (X : Externals) (s : SessionState) (env : Envelope) (nowMs : UInt64) :
    ((s.accept X env nowMs).1 = .accepted ∧ s.lastSequence env.sender < env.sequence
        ∧ (s.accept X env nowMs).2 = s.acceptCommit env nowMs)
      ∨ ((s.accept X env nowMs).1 ≠ .accepted ∧ (s.accept X env nowMs).2 = s) := by
  unfold accept
  split
  · next outcome hgate =>
    exact .inr ⟨fun h => acceptGate_ne_accepted (hgate.trans (congrArg some h)), rfl⟩
  · next hgate =>
    refine .inl ⟨rfl, ?_, rfl⟩
    simp only [acceptGate, ite_some_eq_none] at hgate
    obtain ⟨-, -, -, -, -, -, -, -, hfresh, -, -⟩ := hgate
    exact UInt64.not_le.mp hfresh

theorem expireAndMigrate_frame (s : SessionState) (nowMs : UInt64) :
    (s.expireAndMigrate nowMs).2.nextSequence = s.nextSequence
      ∧ (s.expireAndMigrate nowMs).2.localPlayer = s.localPlayer
      ∧ ∀ p, (s.expireAndMigrate nowMs).2.lastSequence p = s.lastSequence p := by
  have hkeep : ∀ authority epoch p, ({ s.expirePeers nowMs with
      authority := authority, authorityEpoch := epoch } : SessionState).lastSequence p
      = s.lastSequence p := fun _ _ p => lastSequence_expirePeers p
  unfold expireAndMigrate
  simp only
  split_ifs
  · exact ⟨rfl, rfl, lastSequence_expirePeers⟩
  · split
    · exact ⟨rfl, rfl, hkeep _ _⟩
    · exact ⟨rfl, rfl, lastSequence_expirePeers⟩

end SessionState

/-! ## The channel -/

/-- What a signature of a session covers beside the packet. -/
def SecureSession.scope (s : SecureSession) : UInt64 × UInt64 × RosterHash :=
  (s.manifest.networkGeneration, s.manifest.sessionGeneration, s.rosterHash)

/-- Two sessions and the network between them.  `sent` is what the sender's calls have given to the
network, `received` what the receiver has accepted in the sender's name, and `signed` every byte
string that has been signed with the sender's key. -/
structure Channel where
  sender : SecureSession
  receiver : SecureSession
  signed : List (List UInt8)
  sent : List Envelope
  received : List Envelope

namespace Channel

/-- What happens at the two ends.  The sender's key also signs packets of the gameplay wire, key
registrations and packets of other sessions; `deliver` hands the receiver any envelope at all. -/
inductive Event
  | send (tick : UInt64) (payload : PeerPayload)
  | sendM3 (session : M3SecureSession) (env : M3EnvelopeV2)
  | sendElsewhere (session : SecureSession) (tick : UInt64) (payload : PeerPayload)
  | registerKey (lobbyId : LobbyId) (playerId : PlayerId)
      (networkGeneration rosterRevision : UInt64) (tailnetAddress : IpAddr)
      (applicationPort : UInt16)
  | deliver (env : Envelope) (source : SocketAddr) (currentNodeKey : Option NodeKey)
      (nowMs : UInt64)
  | senderAccepts (env : Envelope) (source : SocketAddr) (currentNodeKey : Option NodeKey)
      (nowMs : UInt64)
  | senderExpires (nowMs : UInt64)
  | receiverSends (tick : UInt64) (payload : PeerPayload) (receiverKey : SigningKey)
  | receiverExpires (nowMs : UInt64)

variable (X : Externals) (key : SigningKey)

/-- `make_packet`: a packet that `encode` refuses never leaves, with its signature. -/
def send (ch : Channel) (tick : UInt64) (payload : PeerPayload) : Channel :=
  match ch.sender.envelope X tick payload key with
  | (.error _, sender) => { ch with sender := sender }
  | (.ok env, sender) =>
    if (validateLocalPayload env.payload).isOk then
      { ch with
        sender := sender
        signed := ch.signed ++ [env.scopedBytes X ch.sender.scope]
        sent := ch.sent ++ [env] }
    else { ch with sender := sender }

def deliver (ch : Channel) (env : Envelope) (source : SocketAddr)
    (currentNodeKey : Option NodeKey) (nowMs : UInt64) : Channel :=
  if !env.isDecodable then ch
  else
    let taken := ch.receiver.acceptWithSource X env source currentNodeKey nowMs
    { ch with
      receiver := taken.2
      received :=
        if taken.1 = .accepted ∧ env.sender = ch.sender.state.localPlayer then ch.received ++ [env]
        else ch.received }

def step (ch : Channel) : Event → Unit × Channel
  | .send tick payload => ((), ch.send X key tick payload)
  | .sendM3 session env =>
    match session.sign X env key with
    | .error _ => ((), ch)
    | .ok _ =>
      ((), { ch with
             signed := ch.signed ++ [canonicalEnvelopeBytes
               (env.header session.manifest.networkGeneration session.manifest.sessionGeneration
                 session.rosterHash) (canonicalM3PayloadBytes env.payload)] })
  | .sendElsewhere session tick payload =>
    match (session.envelope X tick payload key).1 with
    | .error _ => ((), ch)
    | .ok env => ((), { ch with signed := ch.signed ++ [env.scopedBytes X session.scope] })
  | .registerKey lobbyId playerId networkGeneration rosterRevision tailnetAddress port =>
    ((), { ch with
           signed := ch.signed ++ [canonicalKeyregBytes lobbyId playerId networkGeneration
             rosterRevision tailnetAddress port (X.verifyingKey key)] })
  | .deliver env source currentNodeKey nowMs =>
    ((), ch.deliver X env source currentNodeKey nowMs)
  | .senderAccepts env source currentNodeKey nowMs =>
    ((), { ch with sender := (ch.sender.acceptWithSource X env source currentNodeKey nowMs).2 })
  | .senderExpires nowMs => ((), { ch with sender := (ch.sender.expireAndMigrate nowMs).2 })
  | .receiverSends tick payload receiverKey =>
    ((), { ch with receiver := (ch.receiver.envelope X tick payload receiverKey).2 })
  | .receiverExpires nowMs => ((), { ch with receiver := (ch.receiver.expireAndMigrate nowMs).2 })

/-- The assumptions of a run.  A signature that verifies under the sender's key is over bytes that
the key has signed: nobody forges, and no two byte strings of the run share a digest.  A session
elsewhere has another generation or roster. -/
def Sound (ch : Channel) : Event → Prop
  | .deliver env _ _ _ => ∀ binding ∈ env.session,
      (X.verifyDigest (X.verifyingKey key) (env.digest X binding.networkGeneration
        binding.sessionGeneration binding.rosterHash) binding.signature).isOk →
      env.signedBytes X binding.networkGeneration binding.sessionGeneration binding.rosterHash
        ∈ ch.signed
  | .sendElsewhere session _ _ => session.scope ≠ ch.receiver.scope
  | _ => True

/-- The receiver's roster lists the sender under its key, and nothing has been said yet. -/
structure Opens (ch : Channel) : Prop where
  listed : ∃ entry, ch.receiver.manifest.entry ch.sender.state.localPlayer = some entry
    ∧ entry.sessionPublicKey = X.verifyingKey key
  signed_nil : ch.signed = []
  sent_nil : ch.sent = []
  received_nil : ch.received = []

end Channel

/-! ## What the two ends keep -/

namespace SecureSession

variable {X : Externals} {s : SecureSession} {env : Envelope} {source : SocketAddr}
  {currentNodeKey : Option NodeKey} {nowMs : UInt64}

/-- **What a call to send can do.**  It signs the packet the state numbers next, or answers with an
error; only the state moves. -/
theorem envelope_cases (X : Externals) (s : SecureSession) (tick : UInt64) (payload : PeerPayload)
    (key : SigningKey) :
    (∃ env, s.envelope X tick payload key
        = (.ok env, { s with state := (s.state.envelope tick payload).2 })
        ∧ env.unsigned = (s.state.envelope tick payload).1)
      ∨ ∃ error state, s.envelope X tick payload key = (.error error, { s with state := state })
        ∧ (state = s.state ∨ state = (s.state.envelope tick payload).2) := by
  unfold envelope
  split_ifs
  · exact .inr ⟨_, s.state, rfl, .inl rfl⟩
  · exact .inr ⟨_, s.state, rfl, .inl rfl⟩
  · simp only [sign]
    split
    · exact .inr ⟨_, _, rfl, .inr rfl⟩
    · split_ifs
      · exact .inr ⟨_, _, rfl, .inr rfl⟩
      · exact .inl ⟨_, rfl, rfl⟩

theorem authenticate_ne_accepted :
    s.authenticate X env source currentNodeKey ≠ some .accepted := by
  unfold authenticate
  split
  · simp
  · simp
  · split_ifs <;> simp

/-- A packet that passes is bound to the session and verifies under the listed key. -/
theorem authenticate_none (h : s.authenticate X env source currentNodeKey = none) :
    ∃ binding entry, env.session = some binding ∧ s.manifest.entry env.sender = some entry
      ∧ (binding.networkGeneration, binding.sessionGeneration, binding.rosterHash) = s.scope
      ∧ (X.verifyDigest entry.sessionPublicKey (env.digest X binding.networkGeneration
          binding.sessionGeneration binding.rosterHash) binding.signature).isOk := by
  unfold authenticate at h
  split at h
  · cases h
  · cases h
  · next binding entry hbinding hentry =>
    simp only [SessionState.ite_some_eq_none, and_true] at h
    obtain ⟨-, -, -, hgeneration, hroster, hverified⟩ := h
    push Not at hgeneration hroster
    refine ⟨binding, entry, hbinding, hentry, ?_, by simpa using hverified⟩
    rw [scope, hgeneration.1, hgeneration.2, hroster]

/-- **What a delivery can do.**  The packet is authentic, new and taken, or nothing changes. -/
theorem acceptWithSource_cases (X : Externals) (s : SecureSession) (env : Envelope)
    (source : SocketAddr) (currentNodeKey : Option NodeKey) (nowMs : UInt64) :
    (s.authenticate X env source currentNodeKey = none
        ∧ s.state.lastSequence env.sender < env.sequence
        ∧ s.acceptWithSource X env source currentNodeKey nowMs
          = (.accepted, { s with state := s.state.acceptCommit env nowMs }))
      ∨ ∃ outcome, outcome ≠ .accepted
        ∧ s.acceptWithSource X env source currentNodeKey nowMs = (outcome, s) := by
  unfold acceptWithSource
  split
  · next outcome hgate =>
    exact .inr ⟨outcome, fun h => authenticate_ne_accepted (hgate.trans (congrArg some h)), rfl⟩
  · next hgate =>
    rcases s.state.accept_cases X env nowMs with ⟨htaken, hfresh, hstate⟩ | ⟨hnot, hstate⟩
    · exact .inl ⟨hgate, hfresh, by simp only [htaken, hstate]⟩
    · exact .inr ⟨_, hnot, by simp only [hstate]⟩

end SecureSession

namespace Channel

/-- Bytes that no packet for the session with this scope has. -/
def Foreign (X : Externals) (scope : UInt64 × UInt64 × RosterHash) (bytes : List UInt8) : Prop :=
  ∀ env : Envelope, env.isDecodable → env.scopedBytes X scope ≠ bytes

variable {X : Externals} {scope : UInt64 × UInt64 × RosterHash}

theorem foreign_m3 {session : M3SecureSession} {env env' : M3EnvelopeV2} {key : SigningKey}
    {networkGeneration sessionGeneration : UInt64} {rosterHash : RosterHash}
    (h : session.sign X env key = .ok env') :
    Foreign X scope (canonicalEnvelopeBytes
      (env.header networkGeneration sessionGeneration rosterHash)
      (canonicalM3PayloadBytes env.payload)) := by
  have hversion : env.wireVersion = M3_WIRE_VERSION := by
    by_contra hnot
    simp [M3SecureSession.sign, hnot] at h
  exact fun packet hdecodable => packet_ne_datagram hdecodable hversion

theorem foreign_keyreg {lobbyId : LobbyId} {playerId : PlayerId}
    {networkGeneration rosterRevision : UInt64} {tailnetAddress : IpAddr} {port : UInt16}
    {sessionPublicKey : SessionPublicKey} :
    Foreign X scope (canonicalKeyregBytes lobbyId playerId networkGeneration rosterRevision
      tailnetAddress port sessionPublicKey) :=
  fun _ _ => envelope_ne_keyreg

/-- A packet of another session carries that session's scope. -/
theorem foreign_scope {env : Envelope} {scope' : UInt64 × UInt64 × RosterHash}
    (hne : scope' ≠ scope) : Foreign X scope (env.scopedBytes X scope') := by
  intro packet _ hbytes
  have hheader := (canonicalEnvelopeBytes_injective hbytes).1
  obtain ⟨network, session, roster⟩ := scope
  obtain ⟨network', session', roster'⟩ := scope'
  simp only [Envelope.header, EnvelopeHeader.mk.injEq] at hheader
  exact hne (by rw [hheader.2.2.1, hheader.2.2.2.1, hheader.2.2.2.2.1])

/-! ## Delivery -/

/-- The invariant of a run between the sender `player` and a receiver. -/
structure Tracks (X : Externals) (key : SigningKey) (player : PlayerId) (ch : Channel) : Prop where
  named : ch.sender.state.localPlayer = player
  listed : ∃ entry, ch.receiver.manifest.entry player = some entry
    ∧ entry.sessionPublicKey = X.verifyingKey key
  signed : ∀ bytes ∈ ch.signed, Foreign X ch.receiver.scope bytes
    ∨ ∃ env ∈ ch.sent, validateStance env.payload = .ok ()
      ∧ bytes = env.scopedBytes X ch.sender.scope
  numbered : InOrder (fun env : Envelope => env.sequence.toNat)
    (ch.sent.map Envelope.unsigned) (ch.received.map Envelope.unsigned)
    ch.sender.state.nextSequence.toNat (ch.receiver.state.lastSequence player).toNat

namespace Tracks

variable {key : SigningKey} {player : PlayerId} {ch : Channel}

theorem start (h : ch.Opens X key) : Tracks X key ch.sender.state.localPlayer ch where
  named := rfl
  listed := h.listed
  signed bytes hbytes := by simp [h.signed_nil] at hbytes
  numbered := by
    rw [h.sent_nil, h.received_nil]
    exact InOrder.start ..

/-- Other signatures of the sender's key leave the packets alone. -/
theorem sign (h : Tracks X key player ch) {bytes : List UInt8}
    (hforeign : Foreign X ch.receiver.scope bytes) :
    Tracks X key player { ch with signed := ch.signed ++ [bytes] } where
  named := h.named
  listed := h.listed
  signed b hb := by
    rcases List.mem_append.mp hb with hold | hnew
    · exact h.signed b hold
    · exact .inl (List.mem_singleton.mp hnew ▸ hforeign)
  numbered := h.numbered

/-- A sender whose state moves without numbering anything backwards. -/
theorem moveSender (h : Tracks X key player ch) {state : SessionState}
    (hlocal : state.localPlayer = ch.sender.state.localPlayer)
    (hnext : ch.sender.state.nextSequence ≤ state.nextSequence) :
    Tracks X key player { ch with sender := { ch.sender with state := state } } where
  named := hlocal.trans h.named
  listed := h.listed
  signed := h.signed
  numbered := h.numbered.skip (UInt64.le_iff_toNat_le.mp hnext)

/-- A receiver whose state moves without touching the sender's number. -/
theorem moveReceiver (h : Tracks X key player ch) {state : SessionState}
    (hlast : state.lastSequence player = ch.receiver.state.lastSequence player) :
    Tracks X key player { ch with receiver := { ch.receiver with state := state } } where
  named := h.named
  listed := h.listed
  signed := h.signed
  numbered := by
    have hnumbered := h.numbered
    rwa [← hlast] at hnumbered

theorem send (h : Tracks X key player ch) (tick : UInt64) (payload : PeerPayload) :
    Tracks X key player (ch.send X key tick payload) := by
  have hnext : ch.sender.state.nextSequence
      ≤ (ch.sender.state.envelope tick payload).2.nextSequence := UInt64.le_satAdd _ _
  unfold Channel.send
  rcases ch.sender.envelope_cases X tick payload key with
    ⟨env, hout, hunsigned⟩ | ⟨error, state, hout, rfl | rfl⟩
  · rw [hout]
    simp only
    split_ifs with hlocal
    · refine ⟨h.named, h.listed, ?_, ?_⟩
      · intro bytes hbytes
        rcases List.mem_append.mp hbytes with hold | hnew
        · refine (h.signed bytes hold).imp_right ?_
          rintro ⟨old, hmem, hstance, hold⟩
          exact ⟨old, List.mem_append_left _ hmem, hstance, hold⟩
        · exact .inr ⟨env, List.mem_append_right _ List.mem_cons_self,
            validateStance_of_local hlocal, List.mem_singleton.mp hnew⟩
      · have hnumber : env.unsigned.sequence = ch.sender.state.nextSequence := by
          rw [hunsigned]
          rfl
        rw [List.map_append]
        exact h.numbered.send (congrArg UInt64.toNat hnumber) (UInt64.le_iff_toNat_le.mp hnext)
    · exact h.moveSender rfl hnext
  · rw [hout]
    exact h.moveSender rfl (UInt64.le_refl _)
  · rw [hout]
    exact h.moveSender rfl hnext

/-- **A packet that is taken in the sender's name was sent.** -/
theorem mem_sent (h : Tracks X key player ch) (hjson : Function.Injective X.matchCheckpointToVec)
    {env : Envelope} {source : SocketAddr} {currentNodeKey : Option NodeKey} {nowMs : UInt64}
    (hsound : ch.Sound X key (.deliver env source currentNodeKey nowMs))
    (hdecodable : env.isDecodable) (hsender : env.sender = player)
    (hauthentic : ch.receiver.authenticate X env source currentNodeKey = none) :
    env.unsigned ∈ ch.sent.map Envelope.unsigned := by
  obtain ⟨binding, entry, hbinding, hentry, hscope, hverified⟩ :=
    SecureSession.authenticate_none hauthentic
  obtain ⟨listed, hlisted, hkey⟩ := h.listed
  rw [hsender, hlisted, Option.some.injEq] at hentry
  rw [← hentry, hkey] at hverified
  have hsigned : env.scopedBytes X ch.receiver.scope ∈ ch.signed := by
    have hbytes := hsound binding hbinding hverified
    rwa [← hscope]
  rcases h.signed _ hsigned with hforeign | ⟨sent, hmem, hstance, hbytes⟩
  · exact absurd rfl (hforeign env hdecodable)
  · rw [(scopedBytes_injective hjson (validateStance_of_decodable hdecodable) hstance hbytes).1]
    exact List.mem_map_of_mem hmem

theorem deliver (h : Tracks X key player ch) (hjson : Function.Injective X.matchCheckpointToVec)
    (env : Envelope) (source : SocketAddr) (currentNodeKey : Option NodeKey) (nowMs : UInt64)
    (hsound : ch.Sound X key (.deliver env source currentNodeKey nowMs)) :
    Tracks X key player (ch.deliver X env source currentNodeKey nowMs) := by
  unfold Channel.deliver
  split_ifs with hcodec
  · exact h
  have hdecodable : env.isDecodable := by simpa using hcodec
  rcases ch.receiver.acceptWithSource_cases X env source currentNodeKey nowMs with
    ⟨hauthentic, hfresh, htaken⟩ | ⟨outcome, hnot, hkept⟩
  · rw [htaken]
    simp only [true_and]
    have hlast := ch.receiver.state.lastSequence_acceptCommit env nowMs player
    by_cases hsender : env.sender = player
    · rw [if_pos hsender] at hlast
      rw [if_pos (hsender.trans h.named.symm)]
      refine ⟨h.named, h.listed, h.signed, ?_⟩
      have hmem := h.mem_sent hjson hsound hdecodable hsender hauthentic
      rw [hsender] at hfresh
      have hreceive := h.numbered.receive hmem (UInt64.lt_iff_toNat_lt.mp hfresh)
      rw [List.map_append, hlast]
      exact hreceive
    · rw [if_neg hsender] at hlast
      rw [if_neg (by rw [h.named]; exact hsender)]
      exact h.moveReceiver hlast
  · rw [hkept]
    simp only [hnot, false_and, if_false]
    exact h

/-- **One step of the network.** -/
theorem step (hjson : Function.Injective X.matchCheckpointToVec) (ch : Channel) (event : Event)
    (hsound : ch.Sound X key event) (h : Tracks X key player ch) :
    Tracks X key player (ch.step X key event).2 := by
  cases event with
  | send tick payload => exact h.send tick payload
  | sendM3 session env =>
    cases hsign : session.sign X env key with
    | error error =>
      simp only [Channel.step, hsign]
      exact h
    | ok signed =>
      simp only [Channel.step, hsign]
      exact h.sign (foreign_m3 hsign)
  | sendElsewhere session tick payload =>
    cases hsign : (session.envelope X tick payload key).1 with
    | error error =>
      simp only [Channel.step, hsign]
      exact h
    | ok env =>
      simp only [Channel.step, hsign]
      exact h.sign (foreign_scope hsound)
  | registerKey lobbyId playerId networkGeneration rosterRevision tailnetAddress port =>
    exact h.sign foreign_keyreg
  | deliver env source currentNodeKey nowMs =>
    exact h.deliver hjson env source currentNodeKey nowMs hsound
  | senderAccepts env source currentNodeKey nowMs =>
    obtain ⟨hnext, hlocal⟩ := ch.sender.state.nextSequence_acceptCommit env nowMs
    rcases ch.sender.acceptWithSource_cases X env source currentNodeKey nowMs with
      ⟨-, -, htaken⟩ | ⟨outcome, -, hkept⟩
    · simp only [Channel.step, htaken]
      exact h.moveSender hlocal (UInt64.le_of_eq hnext.symm)
    · simp only [Channel.step, hkept]
      exact h
  | senderExpires nowMs =>
    obtain ⟨hnext, hlocal, -⟩ := ch.sender.state.expireAndMigrate_frame nowMs
    exact h.moveSender hlocal (UInt64.le_of_eq hnext.symm)
  | receiverSends tick payload receiverKey =>
    rcases ch.receiver.envelope_cases X tick payload receiverKey with
      ⟨env, hout, -⟩ | ⟨error, state, hout, rfl | rfl⟩
    all_goals
      simp only [Channel.step, hout]
      exact h.moveReceiver rfl
  | receiverExpires nowMs =>
    obtain ⟨-, -, hlast⟩ := ch.receiver.state.expireAndMigrate_frame nowMs
    exact h.moveReceiver (hlast player)

end Tracks

/-! ### A reference channel -/

open M3SecureSession (referenceKey referenceManifest referenceState referenceAddress)

/-- The session of `n` in a match of 1 and 2. -/
def referenceEnd (n : UInt8) : SecureSession where
  manifest := referenceManifest [1, 2]
  rosterHash := referenceScope.2.2
  state := referenceState [1, 2] n

/-- Player 1 is about to talk to player 2. -/
def opened : Channel := ⟨referenceEnd 1, referenceEnd 2, [], [], []⟩

def heartbeatTwice : List Event :=
  [.send 7 .heartbeat, .deliver signedHeartbeat (referenceAddress 1) none 100,
    .deliver signedHeartbeat (referenceAddress 1) none 120]

theorem opens_opened : opened.Opens packetExternals (referenceKey 1) where
  listed := ⟨M3SecureSession.referenceEntry 1, by decide +kernel, rfl⟩
  signed_nil := rfl
  sent_nil := rfl
  received_nil := rfl

theorem send_opened : opened.send packetExternals (referenceKey 1) 7 .heartbeat
    = { opened with
        sender := { referenceEnd 1 with
          state := { referenceState [1, 2] 1 with nextSequence := 2 } }
        signed := [firstHeartbeat.scopedBytes packetExternals referenceScope]
        sent := [signedHeartbeat] } := rfl

/-- A delivery signs nothing and sends nothing. -/
theorem deliver_frame (X : Externals) (ch : Channel) (env : Envelope) (source : SocketAddr)
    (currentNodeKey : Option NodeKey) (nowMs : UInt64) :
    (ch.deliver X env source currentNodeKey nowMs).signed = ch.signed
      ∧ (ch.deliver X env source currentNodeKey nowMs).sent = ch.sent := by
  unfold deliver
  split_ifs <;> exact ⟨rfl, rfl⟩

theorem sound_heartbeat {ch : Channel}
    (h : ch.signed = [firstHeartbeat.scopedBytes packetExternals referenceScope]) (nowMs : UInt64) :
    ch.Sound packetExternals (referenceKey 1)
      (.deliver signedHeartbeat (referenceAddress 1) none nowMs) := by
  rintro binding hbinding -
  obtain rfl := Option.some.inj hbinding
  rw [h]
  exact List.mem_singleton.mpr rfl

/-- **What a receiver accepts is what the sender sent**, in order and each packet once, whatever the
network delivers. -/
theorem received_sublist_sent (hjson : Function.Injective X.matchCheckpointToVec) {key : SigningKey}
    {ch : Channel} (hopens : ch.Opens X key) {events : List Event}
    (hsound : Runs.Along (step X key) (Sound X key) ch events) :
    ((Runs.run (step X key) ch events).received.map Envelope.unsigned).Sublist
      ((Runs.run (step X key) ch events).sent.map Envelope.unsigned) :=
  (Runs.run_invariant_along (P := Tracks X key ch.sender.state.localPlayer)
    (fun ch event hstep h => Tracks.step hjson ch event hstep h) (Tracks.start hopens)
    hsound).numbered.sublist

/-- The replay is not received again. -/
theorem received_sublist_sent_replay :
    ((Runs.run (step packetExternals (referenceKey 1)) opened heartbeatTwice).received.map
      Envelope.unsigned).Sublist [firstHeartbeat] := by
  have hsigned := congrArg Channel.signed send_opened
  have hsound : Runs.Along (step packetExternals (referenceKey 1))
      (Sound packetExternals (referenceKey 1)) opened heartbeatTwice :=
    ⟨trivial, sound_heartbeat hsigned 100,
      sound_heartbeat ((deliver_frame ..).1.trans hsigned) 120, trivial⟩
  have hreceived := received_sublist_sent referenceCheckpoint_injective opens_opened hsound
  have hsent : (Runs.run (step packetExternals (referenceKey 1)) opened heartbeatTwice).sent
      = [signedHeartbeat] := by
    simp only [heartbeatTwice, Runs.run_cons, Runs.run_nil, step]
    rw [(deliver_frame ..).2, (deliver_frame ..).2, send_opened]
  rwa [hsent] at hreceived

end Channel

end Spurfire
