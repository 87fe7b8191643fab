import Spurfire.Net.Admission

/-!
# Pinning the server's manifest key

The identity half of `PeerSession`: the session key, the pinned manifest key with the session
generation it was bound at, and the secure session a signed roster projection installs.

* `bindManifestKey` refuses another key while a session is installed, unless its generation is newer
  than the pinned one; a call that keeps the key may pin any generation.
* `PinStep` are the calls of a run and `PinLog` the run's bookkeeping: the generations bound so far.
* `changed_key_is_newest` is the safety result, along runs in which no call lowers the pinned
  generation.
-/

namespace Spurfire

/-- A verified complete roster with its replay state, on the retained proof wire. -/
structure SecureSession where
  manifest : RosterManifest
  rosterHash : RosterHash
  state : SessionState

def SecureSession.new (X : Externals) (manifest : RosterManifest)
    (manifestPublicKey : SessionPublicKey) (manifestSignature : SessionSignature)
    (state : SessionState) : Except SessionIdentityError SecureSession :=
  match manifest.validate with
  | .error error => .error error
  | .ok () =>
    match X.verifyDigest manifestPublicKey
        (canonicalManifestDigest X.toCrypto manifestPublicKey manifest) manifestSignature with
    | .error error => .error error
    | .ok () => .ok ⟨manifest, Spurfire.rosterHash X.toCrypto manifest, state⟩

/-- One row of a projection; the address is `none` where its text does not parse. -/
structure LobbySessionPeer where
  playerId : PlayerId
  tailnetAddress : Option IpAddr
  applicationPort : UInt16
  sessionPublicKey : Option SessionPublicKey
  nodeKey : Option NodeKey

structure LobbySessionProjection where
  networkGeneration : UInt64
  rosterRevision : UInt64
  sessionGeneration : UInt64
  secure : Bool
  rosterHash : Option RosterHash
  manifestSignature : Option SessionSignature
  manifestPublicKey : SessionPublicKey
  peers : List LobbySessionPeer

def LobbySessionPeer.entry (peer : LobbySessionPeer) : Option RosterManifestEntry :=
  match peer.sessionPublicKey, peer.tailnetAddress with
  | some sessionPublicKey, some tailnetAddress =>
    some ⟨peer.playerId, sessionPublicKey, tailnetAddress, peer.applicationPort, peer.nodeKey⟩
  | _, _ => none

/-- The fields of `PeerSession` that session identity reads.  `allowedPlayers` is in ascending
order; the player names are `none` where their text does not parse. -/
structure PeerIdentity where
  localPlayerId : Option PlayerId
  authorityPlayerId : Option PlayerId
  secureSession : Option SecureSession
  m3WireActive : Bool
  m3SecureSession : Option M3SecureSession
  sessionKey : Option SigningKey
  sessionKeyGeneration : UInt64
  pinnedManifestKey : Option (UInt64 × SessionPublicKey)
  allowedPlayers : List PlayerId
  hasM3CombatAuthority : Bool

namespace PeerIdentity

variable (X : Externals)

def hasSecureSession (p : PeerIdentity) : Bool :=
  p.secureSession.isSome || p.m3SecureSession.isSome

/-- Pins or rotates the server manifest key; the key is `none` where its text does not parse. -/
def bindManifestKey (p : PeerIdentity) (key : Option SessionPublicKey) (sessionGeneration : Int64) :
    Bool × PeerIdentity :=
  match tryU64 sessionGeneration, key with
  | some sessionGeneration, some key =>
    if p.pinnedManifestKey.any fun pinned =>
        key ≠ pinned.2 && sessionGeneration ≤ pinned.1 && p.hasSecureSession then
      (false, p)
    else (true, { p with pinnedManifestKey := some (sessionGeneration, key) })
  | _, _ => (false, p)

/-- The manifest a projection describes, and its signature, when every check on them passes. -/
def projectedManifest (p : PeerIdentity) (lobbyId : LobbyId) (projection : LobbySessionProjection)
    (key : SigningKey) (pinned : UInt64 × SessionPublicKey) :
    Option (RosterManifest × SessionSignature × PlayerId × PlayerId) := do
  let hash ← projection.rosterHash
  guard (projection.secure ∧ projection.sessionGeneration = p.sessionKeyGeneration
    ∧ projection.sessionGeneration = pinned.1 ∧ projection.manifestPublicKey = pinned.2)
  let signature ← projection.manifestSignature
  let entries ← projection.peers.mapM LobbySessionPeer.entry
  let manifest : RosterManifest := {
    lobbyId
    networkGeneration := projection.networkGeneration
    sessionGeneration := projection.sessionGeneration
    rosterRevision := projection.rosterRevision
    entries }
  guard (Spurfire.rosterHash X.toCrypto manifest = hash
    ∧ manifest.entries.length = p.allowedPlayers.length
    ∧ ∀ entry ∈ manifest.entries, entry.playerId ∈ p.allowedPlayers)
  let localPlayer ← p.localPlayerId
  let authority ← p.authorityPlayerId
  guard (∃ entry ∈ manifest.entries,
    entry.playerId = localPlayer ∧ entry.sessionPublicKey = X.verifyingKey key)
  guard (!p.m3WireActive || p.hasM3CombatAuthority)
  return (manifest, signature, localPlayer, authority)

/-- The replay state of the installed session, when the roster is still the same. -/
def existingState (p : PeerIdentity) (manifest : RosterManifest) : Option SessionState :=
  let hash := Spurfire.rosterHash X.toCrypto manifest
  if p.m3WireActive then
    (p.m3SecureSession.filter (·.rosterHash = hash)).map (·.state)
  else
    (p.secureSession.filter (·.rosterHash = hash)).map (·.state)

/-- Verifies and installs a complete server-signed projection. -/
def configureSecureSession (p : PeerIdentity) (lobbyId : Option LobbyId)
    (projection : Option LobbySessionProjection) (nowMs : Int64) : Bool × PeerIdentity :=
  match lobbyId, projection, tryU64 nowMs, p.sessionKey, p.pinnedManifestKey with
  | some lobbyId, some projection, some nowMs, some key, some pinned =>
    match p.projectedManifest X lobbyId projection key pinned with
    | none => (false, p)
    | some (manifest, signature, localPlayer, authority) =>
      let fresh := p.allowedPlayers.foldl (fun state player => state.addPeer player nowMs)
        (SessionState.new lobbyId localPlayer authority nowMs)
      let state := (p.existingState X manifest).getD fresh
      if p.m3WireActive then
        match M3SecureSession.new X manifest pinned.2 signature state with
        | .error _ => (false, p)
        | .ok secure => (true, { p with m3SecureSession := some secure, secureSession := none })
      else
        match SecureSession.new X manifest pinned.2 signature state with
        | .error _ => (false, p)
        | .ok secure => (true, { p with secureSession := some secure, m3SecureSession := none })
  | _, _, _, _, _ => (false, p)

end PeerIdentity

/-! ## Runs -/

/-- The calls of a run. -/
inductive PinStep
  | bindManifestKey (key : Option SessionPublicKey) (sessionGeneration : Int64)
  | configureSecureSession (lobbyId : Option LobbyId) (projection : Option LobbySessionProjection)
      (nowMs : Int64)

/-- A peer with the generations bound so far. -/
structure PinLog where
  peer : PeerIdentity
  bound : List UInt64

namespace PinLog

variable (X : Externals)

/-- The generation pinned when the run starts counts as bound. -/
def start (p : PeerIdentity) : PinLog := ⟨p, (p.pinnedManifestKey.map (·.1)).toList⟩

def step (l : PinLog) : PinStep → Bool × PinLog
  | .bindManifestKey key sessionGeneration =>
    let bound := l.peer.bindManifestKey key sessionGeneration
    (bound.1, {
      peer := bound.2
      bound := if bound.1 then l.bound ++ (tryU64 sessionGeneration).toList else l.bound })
  | .configureSecureSession lobbyId projection nowMs =>
    let configured := l.peer.configureSecureSession X lobbyId projection nowMs
    (configured.1, { l with peer := configured.2 })

end PinLog

/-! ## What one call does to the pin -/

namespace PeerIdentity

variable {X : Externals} {p : PeerIdentity}

/-- What a call to `bindManifestKey` can do. -/
inductive BindOutcome (p : PeerIdentity) (key : Option SessionPublicKey)
    (sessionGeneration : Int64) : Bool × PeerIdentity → Prop
  | refused : BindOutcome p key sessionGeneration (false, p)
  | pinned {generation : UInt64} {k : SessionPublicKey}
      (hgeneration : tryU64 sessionGeneration = some generation) (hkey : key = some k)
      (newer : p.hasSecureSession → ∀ old ∈ p.pinnedManifestKey, k ≠ old.2 → old.1 < generation) :
      BindOutcome p key sessionGeneration
        (true, { p with pinnedManifestKey := some (generation, k) })

theorem bindManifestKey_outcome (p : PeerIdentity) (key : Option SessionPublicKey)
    (sessionGeneration : Int64) :
    BindOutcome p key sessionGeneration (p.bindManifestKey key sessionGeneration) := by
  unfold bindManifestKey
  cases hgeneration : tryU64 sessionGeneration with
  | none => exact .refused
  | some generation =>
    cases key with
    | none => exact .refused
    | some k =>
      dsimp only
      split_ifs with hguard
      · exact .refused
      · refine .pinned hgeneration rfl fun hinstalled old hold hne => ?_
        rw [Option.mem_def] at hold
        rw [hold, Option.any_some, hinstalled] at hguard
        by_contra hle
        have hle := UInt64.not_lt.mp hle
        exact hguard (by simp [hne, hle])

/-- Installing a projection leaves the pin alone, and a session installed. -/
theorem configureSecureSession_frame (lobbyId : Option LobbyId)
    (projection : Option LobbySessionProjection) (nowMs : Int64)
    (hinstalled : p.hasSecureSession) :
    (p.configureSecureSession X lobbyId projection nowMs).2.pinnedManifestKey
        = p.pinnedManifestKey
      ∧ (p.configureSecureSession X lobbyId projection nowMs).2.hasSecureSession := by
  unfold configureSecureSession
  split
  · dsimp only
    split
    · exact ⟨rfl, hinstalled⟩
    · split_ifs
      · split
        · exact ⟨rfl, hinstalled⟩
        · exact ⟨rfl, by simp [hasSecureSession]⟩
      · split
        · exact ⟨rfl, hinstalled⟩
        · exact ⟨rfl, by simp [hasSecureSession]⟩
  · exact ⟨rfl, hinstalled⟩

end PeerIdentity

/-! ## Along a run -/

namespace PinLog

variable {X : Externals} {l : PinLog}

/-- A call with the pinned key does not lower its generation. -/
def KeepsGeneration (l : PinLog) : PinStep → Prop
  | .bindManifestKey key sessionGeneration => ∀ pinned ∈ l.peer.pinnedManifestKey,
      key = some pinned.2 → ∀ generation ∈ tryU64 sessionGeneration, pinned.1 ≤ generation
  | .configureSecureSession .. => True

/-- The pinned generation is the highest one bound. -/
structure PinsHighest (l : PinLog) : Prop where
  installed : l.peer.hasSecureSession
  highest : ∀ bound ∈ l.bound, ∃ pinned ∈ l.peer.pinnedManifestKey, bound ≤ pinned.1

theorem pinsHighest_start {p : PeerIdentity} (hinstalled : p.hasSecureSession) :
    (start p).PinsHighest := by
  refine ⟨hinstalled, fun bound hbound => ?_⟩
  rw [start, Option.mem_toList] at hbound
  obtain ⟨pinned, hpinned, rfl⟩ := Option.map_eq_some_iff.mp hbound
  exact ⟨pinned, hpinned, UInt64.le_refl _⟩

theorem pinsHighest_step (X : Externals) (l : PinLog) (a : PinStep) (hkeep : l.KeepsGeneration a)
    (h : l.PinsHighest) : (step X l a).2.PinsHighest := by
  cases a with
  | bindManifestKey key sessionGeneration =>
    have houtcome := l.peer.bindManifestKey_outcome key sessionGeneration
    dsimp only [step]
    generalize l.peer.bindManifestKey key sessionGeneration = outcome at houtcome ⊢
    cases houtcome with
    | refused => exact h
    | @pinned generation k hgeneration hkey newer =>
      refine ⟨h.installed, fun bound hbound => ⟨_, rfl, ?_⟩⟩
      rw [if_pos rfl, hgeneration, Option.toList_some, List.mem_append, List.mem_singleton]
        at hbound
      rcases hbound with hbound | rfl
      · -- the old pin was the highest, and the new one is no lower
        obtain ⟨pinned, hpinned, hle⟩ := h.highest bound hbound
        by_cases hsame : k = pinned.2
        · exact UInt64.le_trans hle
            (hkeep pinned hpinned (hkey.trans (congrArg some hsame)) generation hgeneration)
        · exact UInt64.le_of_lt (UInt64.lt_of_le_of_lt hle (newer h.installed pinned hpinned hsame))
      · exact UInt64.le_refl _
  | configureSecureSession lobbyId projection nowMs =>
    obtain ⟨hpin, hinstalled⟩ :=
      PeerIdentity.configureSecureSession_frame (X := X) lobbyId projection nowMs h.installed
    exact ⟨hinstalled, fun bound hbound => hpin ▸ h.highest bound hbound⟩

/-- **A changed key is newest.**  In a run with a session installed and no call that lowers the
generation of the pinned key, a call that changes the key is accepted only with a generation above
every one bound before. -/
theorem changed_key_is_newest (X : Externals) (p : PeerIdentity) (hinstalled : p.hasSecureSession)
    (steps : List PinStep) (h : Runs.Along (step X) KeepsGeneration (start p) steps) :
    let t := Runs.run (step X) (start p) steps
    ∀ key sessionGeneration, (t.peer.bindManifestKey (some key) sessionGeneration).1 →
      (∃ pinned ∈ t.peer.pinnedManifestKey, key ≠ pinned.2) →
      ∀ bound ∈ t.bound, ∃ generation ∈ tryU64 sessionGeneration, bound < generation := by
  intro t key sessionGeneration haccepted hchanged bound hbound
  have ht : t.PinsHighest :=
    Runs.run_invariant_along (pinsHighest_step X) (pinsHighest_start hinstalled) h
  have houtcome := t.peer.bindManifestKey_outcome (some key) sessionGeneration
  generalize t.peer.bindManifestKey (some key) sessionGeneration = outcome at houtcome haccepted
  obtain ⟨pinned, hpinned, hne⟩ := hchanged
  obtain ⟨pinned', hpinned', hle⟩ := ht.highest bound hbound
  cases houtcome with
  | refused => exact absurd haccepted Bool.false_ne_true
  | @pinned generation k hgeneration hkey newer =>
    cases hkey
    cases Option.mem_unique hpinned hpinned'
    exact ⟨generation, hgeneration,
      UInt64.lt_of_le_of_lt hle (newer ht.installed pinned hpinned hne)⟩

/-! ### A rolled back key -/

open M3SecureSession (referenceExternals referencePlayer referenceKey referenceSession)

/-- A peer in a match whose key is pinned at generation 5. -/
def pinnedPeer : PeerIdentity where
  localPlayerId := some (referencePlayer 2)
  authorityPlayerId := some (referencePlayer 1)
  secureSession := none
  m3WireActive := true
  m3SecureSession := some (referenceSession [1, 2] 2)
  sessionKey := some (referenceKey 2)
  sessionKeyGeneration := 5
  pinnedManifestKey := some (5, ⟨.replicate 32 7⟩)
  allowedPlayers := [referencePlayer 1, referencePlayer 2]
  hasM3CombatAuthority := true

theorem changed_key_is_newest_pinned :
    let t := Runs.run (step referenceExternals) (start pinnedPeer)
      [.bindManifestKey (some ⟨.replicate 32 7⟩) 6]
    ∀ key sessionGeneration, (t.peer.bindManifestKey (some key) sessionGeneration).1 →
      (∃ pinned ∈ t.peer.pinnedManifestKey, key ≠ pinned.2) →
      ∀ bound ∈ t.bound, ∃ generation ∈ tryU64 sessionGeneration, bound < generation := by
  refine changed_key_is_newest referenceExternals pinnedPeer rfl _ ⟨?_, trivial⟩
  rintro pinned ⟨⟩ - generation ⟨⟩
  decide

/-- The pinned key is bound again at a lower generation, which lets another key in at a generation
below the first. -/
theorem changed_key_below_bound :
    let t := Runs.run (step referenceExternals) (start pinnedPeer)
      [.bindManifestKey (some ⟨.replicate 32 7⟩) 5, .bindManifestKey (some ⟨.replicate 32 7⟩) 3]
    pinnedPeer.hasSecureSession ∧ t.bound = [5, 5, 3]
      ∧ t.peer.pinnedManifestKey = some (3, ⟨.replicate 32 7⟩)
      ∧ (t.peer.bindManifestKey (some ⟨.replicate 32 8⟩) 4).1 := by
  refine ⟨rfl, ?_, ?_, ?_⟩ <;> decide +kernel

end PinLog

end Spurfire
