import Spurfire.Lib.Fallible
import Spurfire.Lib.Json
import Spurfire.Net.Admission
import Spurfire.Net.Keyframe

/-!
# Match keyframes on the wire

The JSON document of a match state, the datagram codec `encodeM3`, and what an honest authority's
keyframe meets there.

* `length_document_le` bounds the document by the roster, so that it always fits its fragments.
* `match_keyframe_admissible`: no check refuses the keyframe of a reachable match; only the datagram
  bound can send it down the fragment path, as it does for a full roster.
-/

namespace Spurfire

open Json (ascii)

def MAX_DATAGRAM_BYTES : ℕ := 1200

/-! ## Documents -/

def ProtocolId.document {k : IdKind} (id : ProtocolId k) : List UInt8 := Json.text id.canonicalText

def DynamicObjectiveKind.document : DynamicObjectiveKind → List UInt8
  | movingBounty => Json.text ['m', 'o', 'v', 'i', 'n', 'g', '_', 'b', 'o', 'u', 'n', 't', 'y']
  | supplyHerd => Json.text ['s', 'u', 'p', 'p', 'l', 'y', '_', 'h', 'e', 'r', 'd']
  | ammoWagon => Json.text ['a', 'm', 'm', 'o', '_', 'w', 'a', 'g', 'o', 'n']
  | signalTower => Json.text ['s', 'i', 'g', 'n', 'a', 'l', '_', 't', 'o', 'w', 'e', 'r']
  | horseBuffStation => Json.text ['h', 'o', 'r', 's', 'e', '_', 'b', 'u', 'f', 'f', '_', 's', 't',
      'a', 't', 'i', 'o', 'n']

def tickDocument (tick : UInt64) : List UInt8 := Json.number tick.toNat

/-- A score row is a tuple of nine fields, or of ten once the match is over. -/
def M5ScoreRowV2.document (row : M5ScoreRowV2) : List UInt8 :=
  Json.array ([row.playerId.document, Json.number row.score.toNat,
    Json.number row.eliminations.toNat, Json.number row.assists.toNat,
    Json.number row.deaths.toNat, Json.bool row.alive,
    Json.nullable tickDocument row.respawnAtTick,
    Json.nullable tickDocument row.respawnSpeedBuffEndTick,
    Json.nullable tickDocument row.horseBuffEndTick]
    ++ (row.scoreBreakdown.map fun breakdown =>
      Json.array (breakdown.toList.map fun points => Json.number points.toNat)).toList)

def M5RevealV2.document (reveal : M5RevealV2) : List UInt8 :=
  Json.object [(['i'], reveal.playerId.document), (['s'], tickDocument reveal.startedTick),
    (['e'], tickDocument reveal.endTick)]

def M5ObjectiveV2.document (objective : M5ObjectiveV2) : List UInt8 :=
  Json.object [(['i'], tickDocument objective.objectiveId), (['k'], objective.kind.document),
    (['s'], tickDocument objective.startedTick), (['e'], tickDocument objective.endTick),
    (['c'], Json.bool objective.completed), (['x'], Json.integer objective.xMm.toInt),
    (['z'], Json.integer objective.zMm.toInt)]

def M5MatchStateV2.document (state : M5MatchStateV2) : List UInt8 :=
  Json.object ([(['e'], tickDocument state.authorityEpoch), (['g'], tickDocument state.lobbySeed),
    (['t'], tickDocument state.currentTick), (['n'], tickDocument state.endTick),
    (['p'], Json.array (state.players.map (·.document)))]
    ++ (state.activeReveal.map fun reveal => (['w'], reveal.document)).toList
    ++ (state.activeObjective.map fun objective => (['o'], objective.document)).toList
    ++ [(['f'], Json.bool state.finished)]
    ++ (state.winner.map fun winner => (['x'], winner.document)).toList)

/-! ### Their lengths -/

@[simp] theorem ProtocolId.length_document {k : IdKind} (id : ProtocolId k) :
    id.document.length = 38 := by
  simp [document, canonicalText]

theorem length_tickDocument_le (tick : UInt64) : (tickDocument tick).length ≤ 20 :=
  Json.length_number_le (by decide) (tick.toNat_lt.trans (by decide))

theorem length_nullableTick_le (tick : Option UInt64) :
    (Json.nullable tickDocument tick).length ≤ 20 :=
  Json.length_nullable_le (by decide) fun tick _ => length_tickDocument_le tick

theorem M5ScoreRowV2.length_document_le (row : M5ScoreRowV2) : row.document.length ≤ 240 := by
  have hscore := Json.length_number_le (n := row.score.toNat) (k := 10) (by decide)
    (row.score.toNat_lt.trans (by decide))
  have hsmall : ∀ n : UInt16, (Json.number n.toNat).length ≤ 5 := fun n =>
    Json.length_number_le (by decide) (n.toNat_lt.trans (by decide))
  have heliminations := hsmall row.eliminations
  have hassists := hsmall row.assists
  have hdeaths := hsmall row.deaths
  have halive := Json.length_bool_le row.alive
  have hrespawn := length_nullableTick_le row.respawnAtTick
  have hspeed := length_nullableTick_le row.respawnSpeedBuffEndTick
  have hhorse := length_nullableTick_le row.horseBuffEndTick
  have hbreakdown : ∀ breakdown : Vector UInt32 8,
      (Json.array (breakdown.toList.map fun points => Json.number points.toNat)).length ≤ 90 := by
    intro breakdown
    have := Json.length_array_le_of_forall (k := 10)
      (breakdown.toList.map fun points => Json.number points.toNat) fun item hitem => by
        obtain ⟨points, -, rfl⟩ := List.mem_map.mp hitem
        exact Json.length_number_le (by decide) (points.toNat_lt.trans (by decide))
    simpa using this
  refine (Json.length_array_le _).trans ?_
  cases hfinal : row.scoreBreakdown with
  | none =>
    simp
    omega
  | some breakdown =>
    have := hbreakdown breakdown
    simp at this ⊢
    omega

theorem M5RevealV2.length_document_le (reveal : M5RevealV2) : reveal.document.length ≤ 100 := by
  have hstarted := length_tickDocument_le reveal.startedTick
  have hend := length_tickDocument_le reveal.endTick
  refine (Json.length_object_le _).trans ?_
  simp
  omega

theorem M5ObjectiveV2.length_document_le (objective : M5ObjectiveV2) :
    objective.document.length ≤ 170 := by
  have hid := length_tickDocument_le objective.objectiveId
  have hkind : objective.kind.document.length ≤ 20 := by cases objective.kind <;> decide
  have hstarted := length_tickDocument_le objective.startedTick
  have hend := length_tickDocument_le objective.endTick
  have hcompleted := Json.length_bool_le objective.completed
  have hcoordinate : ∀ v : Int32, (Json.integer v.toInt).length ≤ 11 := fun v =>
    Json.length_integer_le (k := 10) (by decide) (by
      have := v.toInt_lt
      have := v.le_toInt
      omega)
  have hx := hcoordinate objective.xMm
  have hz := hcoordinate objective.zMm
  refine (Json.length_object_le _).trans ?_
  simp
  omega

theorem M5ScoreRowV2.length_documents_le {rows : List M5ScoreRowV2}
    (hrows : rows.length ≤ MAX_M3_AUTHORITY_ACTORS) :
    (Json.array (rows.map (·.document))).length ≤ 3858 := by
  have hitem := Json.length_array_le_of_forall (rows.map (·.document)) (k := 240)
    fun item hitem => by
      obtain ⟨row, -, rfl⟩ := List.mem_map.mp hitem
      exact row.length_document_le
  rw [List.length_map] at hitem
  refine hitem.trans ?_
  have : MAX_M3_AUTHORITY_ACTORS = 16 := rfl
  omega

/-- The document of a bounded roster fits the fragments it may be cut into. -/
theorem M5MatchStateV2.length_document_le {state : M5MatchStateV2}
    (hplayers : state.players.length ≤ MAX_M3_AUTHORITY_ACTORS) :
    state.document.length ≤ M5_MATCH_STATE_FRAGMENT_BYTES * MAX_M5_MATCH_STATE_FRAGMENTS := by
  have hepoch := length_tickDocument_le state.authorityEpoch
  have hseed := length_tickDocument_le state.lobbySeed
  have hcurrent := length_tickDocument_le state.currentTick
  have hend := length_tickDocument_le state.endTick
  have hfinished := Json.length_bool_le state.finished
  have hrows := M5ScoreRowV2.length_documents_le hplayers
  have hoption : ∀ {α : Type} (o : Option α) (f : α → List Char × List UInt8) {k : ℕ},
      (∀ a, (f a).1.length + (f a).2.length + 4 ≤ k) →
        ((o.map f).toList.map fun field => field.1.length + field.2.length + 4).sum ≤ k := by
    intro α o f k hf
    cases o with
    | none => exact Nat.zero_le k
    | some a => simpa using hf a
  have hreveal := hoption state.activeReveal (fun reveal => (['w'], reveal.document)) (k := 105)
    fun reveal => by have := reveal.length_document_le; simp; omega
  have hobjective := hoption state.activeObjective (fun objective => (['o'], objective.document))
    (k := 175) fun objective => by have := objective.length_document_le; simp; omega
  have hwinner := hoption state.winner (fun winner => (['x'], winner.document)) (k := 43)
    fun winner => by simp
  refine (Json.length_object_le _).trans ?_
  simp only [List.map_append, List.sum_append, List.map_cons, List.map_nil, List.sum_cons,
    List.sum_nil, List.length_singleton]
  have : M5_MATCH_STATE_FRAGMENT_BYTES * MAX_M5_MATCH_STATE_FRAGMENTS = 6144 := rfl
  omega

theorem M5MatchStateV2.document_ne_nil (state : M5MatchStateV2) : 0 < state.document.length := by
  simp [document, Json.object]

/-! ## Datagrams -/

/-- `encode_m3`, given the JSON writer for envelopes. -/
def encodeM3 (envelopeToVec : M3EnvelopeV2 → List UInt8) (envelope : M3EnvelopeV2) :
    Except CodecError (List UInt8) :=
  if envelope.wireVersion ≠ M3_WIRE_VERSION then .error .incompatibleVersion
  else
    match validatePayload envelope.payload with
    | .error error => .error error
    | .ok () =>
      if (envelopeToVec envelope).length > MAX_DATAGRAM_BYTES then .error .tooLarge
      else .ok (envelopeToVec envelope)

open BountyMatchKernel M5MatchStateV2 in
/-- **An honest keyframe is admissible.**  In every reachable match with bounded scores the snapshot
and its wire row are canonical, no receiver refuses the payload, its fragments can always be cut,
and the datagram codec refuses it only for its length. -/
theorem match_keyframe_admissible (X : Externals) (envelopeToVec : M3EnvelopeV2 → List UInt8)
    (hjson : ∀ state, X.matchStateToVec state = state.document)
    {authorityEpoch lobbySeed : UInt64} {startTick : SimulationTick} {roster : List PlayerId}
    {m : BountyMatchKernel} (hnew : new authorityEpoch lobbySeed startTick roster = .ok m)
    (hstart : startTick.toNat ≤ 2 ^ 63) {calls : List BountyCall} {state : M5MatchStateV2}
    (hstate : state = fromSnapshot (Runs.run step m calls).snapshot)
    (hscores : (Runs.run step m calls).ScoresBounded) :
    (Runs.run step m calls).snapshot.isCanonical = true ∧ state.isCanonical = true
      ∧ validatePayload (.matchState state) = .ok ()
      ∧ (∃ fragments, fragmentM5MatchState X state = .ok fragments)
      ∧ ∀ envelope, envelope.wireVersion = M3_WIRE_VERSION → envelope.payload = .matchState state →
        encodeM3 envelopeToVec envelope
          = if (envelopeToVec envelope).length > MAX_DATAGRAM_BYTES then .error .tooLarge
            else .ok (envelopeToVec envelope) := by
  have hsound := sound_run (sound_new hnew hstart) calls
  generalize Runs.run step m calls = reached at *
  have hcanonical : state.isCanonical = true := hstate ▸ fromSnapshot_isCanonical hsound hscores
  have hvalid : validatePayload (.matchState state) = .ok () := by
    unfold validatePayload M3PeerPayloadV2.isValid
    rw [if_pos hcanonical]
  refine ⟨snapshot_isCanonical hsound hscores, hcanonical, hvalid, ?_, fun envelope hversion
    hpayload => ?_⟩
  · -- the roster bounds the document, so it fits its fragments
    have hplayers : state.players.length ≤ MAX_M3_AUTHORITY_ACTORS := by
      rw [hstate]
      exact (List.length_map _).trans_le (reached.length_rows.trans_le hsound.roster.bounded)
    have hlong := length_document_le hplayers
    have hshort := document_ne_nil state
    have hcount : ¬((state.document.length + M5_MATCH_STATE_FRAGMENT_BYTES - 1)
        / M5_MATCH_STATE_FRAGMENT_BYTES = 0
        ∨ (state.document.length + M5_MATCH_STATE_FRAGMENT_BYTES - 1)
          / M5_MATCH_STATE_FRAGMENT_BYTES > MAX_M5_MATCH_STATE_FRAGMENTS) := by
      unfold M5_MATCH_STATE_FRAGMENT_BYTES MAX_M5_MATCH_STATE_FRAGMENTS at *
      omega
    unfold fragmentM5MatchState fragmentBytes
    rw [hcanonical, hjson]
    dsimp only
    rw [if_neg hcount]
    exact ⟨_, rfl⟩
  · unfold encodeM3
    rw [if_neg (not_not.mpr hversion), hpayload, hvalid]

/-! ### A full roster -/

def fullRoster : List PlayerId :=
  (List.finRange 16).map fun seat => .ofTail (seat.val + 1)
    (Nat.blt_eq.mpr (by have := seat.isLt; omega))

/-- The document of an unsigned envelope that carries a match state. -/
def envelopeDocument (envelope : M3EnvelopeV2) : List UInt8 :=
  match envelope.payload with
  | .matchState state =>
    Json.object [(['v'], Json.text ['2', '.', '0']), (['l'], envelope.lobbyId.document),
      (['p'], envelope.sender.document), (['q'], Json.number envelope.sequence.toNat),
      (['e'], Json.number envelope.authorityEpoch.toNat),
      (['t'], Json.number envelope.simulationTick.toNat),
      (['d'], Json.object [(['t', 'y', 'p', 'e'], Json.text ['m', 'a', 't', 'c', 'h', '_', 's', 't',
        'a', 't', 'e']), (['m'], state.document)])]
  | _ => []

def finalKeyframe (m : BountyMatchKernel) : M5MatchStateV2 :=
  .fromSnapshot (Runs.run BountyMatchKernel.step m [.advanceTick 54000]).snapshot

def keyframeEnvelope (state : M5MatchStateV2) : M3EnvelopeV2 where
  wireVersion := M3_WIRE_VERSION
  lobbyId := .ofTail 1
  sender := .ofTail 1
  sequence := 1
  authorityEpoch := 1
  simulationTick := 54000
  payload := .matchState state
  session := none

open BountyMatchKernel in
theorem match_keyframe_admissible_full : ∃ m, new 1 7 0 fullRoster = .ok m
    ∧ (finalKeyframe m).isCanonical = true
    ∧ ∃ fragments, fragmentM5MatchState { M3SecureSession.referenceExternals with
        matchStateToVec := M5MatchStateV2.document } (finalKeyframe m) = .ok fragments := by
  have hrun : (new 1 7 0 fullRoster).toOption.any (fun m =>
      decide (Runs.run step m [.advanceTick 54000]).ScoresBounded) = true := by
    decide +kernel
  obtain ⟨m, hnew, hrun⟩ := Fallible.exists_ok_of_any hrun
  obtain ⟨-, hcanonical, -, hfragments, -⟩ := match_keyframe_admissible
    { M3SecureSession.referenceExternals with matchStateToVec := M5MatchStateV2.document }
    envelopeDocument (fun _ => rfl) hnew (Nat.zero_le _) (show finalKeyframe m = _ from rfl)
    hrun
  exact ⟨m, hnew, hcanonical, hfragments⟩

open BountyMatchKernel in
/-- The final keyframe of sixteen players is refused by the datagram codec for its length. -/
theorem final_keyframe_exceeds_datagram : ∃ m, new 1 7 0 fullRoster = .ok m
    ∧ (Runs.run step m [.advanceTick 54000]).ScoresBounded
    ∧ encodeM3 envelopeDocument (keyframeEnvelope (finalKeyframe m)) = .error .tooLarge := by
  have hrun : (new 1 7 0 fullRoster).toOption.any (fun m =>
      decide ((Runs.run step m [.advanceTick 54000]).ScoresBounded
        ∧ encodeM3 envelopeDocument (keyframeEnvelope (finalKeyframe m)) = .error .tooLarge))
          = true := by
    decide +kernel
  obtain ⟨m, hnew, hrun⟩ := Fallible.exists_ok_of_any hrun
  exact ⟨m, hnew, hrun⟩

end Spurfire
