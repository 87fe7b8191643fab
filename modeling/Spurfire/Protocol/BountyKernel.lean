import Spurfire.Lib.OrderedSet
import Spurfire.Protocol.Bounty

/-!
# The bounty match kernel

`BountyMatchKernel` of `m5.rs` as a state machine: the clock with its respawns, reveals and
objectives (`advanceTick`), the event records, the public keyframe (`snapshot`), and the checkpoint
that hands a match over.
An operation answers with its result and the state it leaves, also where it fails part of the way.

The two window loops run on fuel; `revealRounds_spec` and `objectiveRounds_spec` show that the fuel
they are given is enough.
-/

namespace Spurfire

open Std (ExtTreeMap)

def RESPAWN_DELAY_TICKS : UInt64 := 5 * M5_TICK_RATE_HZ
def RESPAWN_SPEED_BUFF_TICKS : UInt64 := 10 * M5_TICK_RATE_HZ
def MOST_WANTED_CADENCE_TICKS : UInt64 := 60 * M5_TICK_RATE_HZ
def OBJECTIVE_CADENCE_TICKS : UInt64 := 90 * M5_TICK_RATE_HZ
def ASSIST_WINDOW_TICKS : UInt64 := 5 * M5_TICK_RATE_HZ
def ASSIST_DAMAGE_THRESHOLD : UInt16 := 30
def LONG_HIT_DISTANCE_MM : UInt32 := 60000
def HORSE_STATION_BUFF_TICKS : UInt64 := 60 * M5_TICK_RATE_HZ
def SIGNAL_TOWER_INTERVAL_TICKS : UInt64 := 10 * M5_TICK_RATE_HZ

inductive BountyScoreCategory
  | elimination
  | assist
  | horseBolt
  | saddleDiveBonus
  | mountedLongHit
  | objective
  | mostWantedElimination
  | mostWantedSurvival
deriving DecidableEq

structure BountyAward where
  playerId : PlayerId
  category : BountyScoreCategory
  points : UInt16
  totalScore : UInt32
deriving DecidableEq

namespace BountyScoreBreakdown

def zero : BountyScoreBreakdown := ⟨0, 0, 0, 0, 0, 0, 0, 0⟩

/-- One category after some points; every category is bounded by the score bound. -/
def raise (value : UInt32) (points : UInt16) : UInt32 :=
  min (value.satAdd points.toUInt32) MAX_BOUNTY_SCORE

def add (s : BountyScoreBreakdown) (category : BountyScoreCategory) (points : UInt16) :
    BountyScoreBreakdown :=
  match category with
  | .elimination => { s with elimination := raise s.elimination points }
  | .assist => { s with assist := raise s.assist points }
  | .horseBolt => { s with horseBolt := raise s.horseBolt points }
  | .saddleDiveBonus => { s with saddleDiveBonus := raise s.saddleDiveBonus points }
  | .mountedLongHit => { s with mountedLongHit := raise s.mountedLongHit points }
  | .objective => { s with objective := raise s.objective points }
  | .mostWantedElimination =>
    { s with mostWantedElimination := raise s.mostWantedElimination points }
  | .mostWantedSurvival => { s with mostWantedSurvival := raise s.mostWantedSurvival points }

end BountyScoreBreakdown

namespace BountyPlayerState

def new (playerId : PlayerId) : BountyPlayerState where
  playerId := playerId
  score := .zero
  eliminations := 0
  assists := 0
  deaths := 0
  alive := true
  respawnAtTick := none
  respawnSpeedBuffEndTick := none
  horseBuffEndTick := none
  mountedLongHitBonus := 0

/-- Whether the row respawns at a clock. -/
def respawnsBy (row : BountyPlayerState) (tick : SimulationTick) : Bool :=
  !row.alive && row.respawnAtTick.any (· ≤ tick)

def respawn (row : BountyPlayerState) : BountyPlayerState :=
  { row with
    alive := true
    respawnAtTick := none
    respawnSpeedBuffEndTick := row.respawnAtTick.map (·.satAdd RESPAWN_SPEED_BUFF_TICKS) }

/-- The row at a clock: due respawns happen, and buffs that have ended are dropped. -/
def advanceTo (row : BountyPlayerState) (tick : SimulationTick) : BountyPlayerState :=
  let row := if row.respawnsBy tick then row.respawn else row
  { row with
    respawnSpeedBuffEndTick := row.respawnSpeedBuffEndTick.filter (tick < ·)
    horseBuffEndTick := row.horseBuffEndTick.filter (tick < ·) }

end BountyPlayerState

namespace DynamicObjectiveKind

def completionPoints : DynamicObjectiveKind → UInt16
  | movingBounty => 150
  | supplyHerd => 100
  | ammoWagon => 80
  | signalTower => 50
  | horseBuffStation => 50

def fromIndex (index : UInt64) : DynamicObjectiveKind :=
  match (index % 5).toNat with
  | 0 => movingBounty
  | 1 => supplyHerd
  | 2 => ammoWagon
  | 3 => signalTower
  | _ => horseBuffStation

end DynamicObjectiveKind

inductive BountyMatchError
  | invalidRoster
  | tickReplay
  | tickMismatch
  | unknownPlayer
  | invalidEvent
  | matchFinished
  | invalidCheckpoint
  | authorityEpoch
deriving DecidableEq

structure BountyMatchTickOutput where
  respawnedPlayers : List PlayerId
  revealStarted : Option MostWantedReveal
  revealEnded : Option PlayerId
  objectiveStarted : Option ActiveDynamicObjective
  objectiveEnded : Option UInt64
  survivalAward : Option BountyAward
  matchEnded : Bool
  winner : Option PlayerId
deriving DecidableEq

def BountyMatchTickOutput.empty : BountyMatchTickOutput :=
  ⟨[], none, none, none, none, none, false, none⟩

/-! ## Public keyframes -/

structure BountyRevealSnapshot where
  playerId : PlayerId
  startedTick : SimulationTick
  endTick : SimulationTick
deriving DecidableEq

structure BountyObjectiveSnapshot where
  objectiveId : UInt64
  kind : DynamicObjectiveKind
  startedTick : SimulationTick
  endTick : SimulationTick
  completed : Bool
  worldPoint : BountyWorldPoint
deriving DecidableEq

structure BountyMatchSnapshot where
  authorityEpoch : UInt64
  lobbySeed : UInt64
  currentTick : SimulationTick
  endTick : SimulationTick
  players : List BountyPlayerState
  activeReveal : Option BountyRevealSnapshot
  activeObjective : Option BountyObjectiveSnapshot
  finished : Bool
  winner : Option PlayerId
deriving DecidableEq

/-- The last row that `max_by` keeps: the highest score, and of equal scores the smaller player. -/
def maxByScore {α : Type} (score : α → UInt32) (playerId : α → PlayerId) (rows : List α) :
    Option α :=
  rows.foldl (fun best row =>
    match best with
    | none => some row
    | some best =>
      if score best > score row || (score best == score row && playerId row > playerId best) then
        some best
      else
        some row) none

/-- One turn of the search. -/
def keepBest {α : Type} (score : α → UInt32) (playerId : α → PlayerId) (best : Option α) (row : α) :
    Option α :=
  match best with
  | none => some row
  | some best =>
    if score best > score row || (score best == score row && playerId row > playerId best) then
      some best
    else
      some row

/-- A turn keeps the best row or takes the new one. -/
theorem keepBest_cases {α : Type} (score : α → UInt32) (playerId : α → PlayerId) (best : Option α)
    (row : α) : keepBest score playerId best row = some row
      ∨ best.isSome = true ∧ keepBest score playerId best row = best := by
  cases best with
  | none => exact .inl rfl
  | some best =>
    rw [keepBest]
    split_ifs
    · exact .inr ⟨rfl, rfl⟩
    · exact .inl rfl

/-- The best of mapped rows is the mapped best row. -/
theorem maxByScore_map {α β : Type} {score : β → UInt32} {playerId : β → PlayerId} (f : α → β)
    (rows : List α) : maxByScore score playerId (rows.map f)
      = (maxByScore (score ∘ f) (playerId ∘ f) rows).map f := by
  unfold maxByScore
  rw [List.foldl_map]
  show List.foldl _ (Option.map f none) rows = Option.map f _
  refine List.foldl_hom (Option.map f) fun best row => ?_
  cases best with
  | none => rfl
  | some best =>
    dsimp only [Option.map_some, Function.comp_apply]
    split_ifs <;> rfl

namespace BountyMatchSnapshot

def effectiveTick (s : BountyMatchSnapshot) : SimulationTick := min s.currentTick s.endTick

def rowIsCanonical (s : BountyMatchSnapshot) (row : BountyPlayerState) : Bool :=
  !(row.totalScore > MAX_BOUNTY_SCORE
    || row.mountedLongHitBonus > LONG_HIT_BONUS_CAP
    || row.score.mountedLongHit != row.mountedLongHitBonus.toUInt32
    || row.alive == row.respawnAtTick.isSome
    || row.respawnAtTick.any (fun respawn => !s.finished && respawn ≤ s.effectiveTick)
    || row.respawnSpeedBuffEndTick.any (· ≤ s.effectiveTick)
    || row.horseBuffEndTick.any (· ≤ s.effectiveTick))

def revealIsCanonical (s : BountyMatchSnapshot) (reveal : BountyRevealSnapshot) : Bool :=
  !(s.finished
    || !s.players.any (fun row => row.playerId == reveal.playerId)
    || reveal.endTick != reveal.startedTick.satAdd MOST_WANTED_REVEAL_TICKS
    || s.effectiveTick ≥ reveal.endTick)

def objectiveIsCanonical (s : BountyMatchSnapshot) (objective : BountyObjectiveSnapshot) : Bool :=
  !(s.finished
    || objective.objectiveId == 0
    || objective.endTick != objective.startedTick.satAdd OBJECTIVE_LIFETIME_TICKS
    || s.effectiveTick ≥ objective.endTick
    || objective.worldPoint
        != bountyObjectiveWorldPoint s.lobbySeed objective.objectiveId s.players.length)

def isCanonical (s : BountyMatchSnapshot) : Bool :=
  if s.players.isEmpty
      || s.players.length > MAX_M3_AUTHORITY_ACTORS
      || s.finished != decide (s.currentTick ≥ s.endTick)
      || (s.players.zip s.players.tail).any (fun rows => rows.1.playerId ≥ rows.2.playerId) then
    false
  else if s.players.any fun row => !s.rowIsCanonical row then false
  else if s.activeReveal.any (fun reveal => !s.revealIsCanonical reveal)
      || s.activeObjective.any (fun objective => !s.objectiveIsCanonical objective) then
    false
  else match s.finished, s.winner, maxByScore (·.totalScore) (·.playerId) s.players with
    | false, none, some _ => true
    | true, some winner, some expected => winner == expected.playerId
    | _, _, _ => false

end BountyMatchSnapshot

namespace BountyMatchKernel

def new (authorityEpoch lobbySeed : UInt64) (startTick : SimulationTick)
    (roster : List PlayerId) : Except BountyMatchError BountyMatchKernel :=
  let ordered := orderedSet roster
  if ordered.isEmpty ∨ ordered.length ≠ roster.length
      ∨ ordered.length > MAX_M3_AUTHORITY_ACTORS then
    .error .invalidRoster
  else
    .ok {
      authorityEpoch, lobbySeed, startTick
      currentTick := startTick
      endTick := startTick.satAdd BOUNTY_RUN_DURATION_TICKS
      players := .ofList (ordered.map fun player => (player, BountyPlayerState.new player)) compare
      damage := ∅
      nextRevealTick := startTick.satAdd MOST_WANTED_CADENCE_TICKS
      activeReveal := none
      nextObjectiveTick := startTick.satAdd OBJECTIVE_CADENCE_TICKS
      activeObjective := none
      objectiveSequence := 0
      finished := false }

def rows (m : BountyMatchKernel) : List BountyPlayerState := m.players.toList.map (·.2)

def winner (m : BountyMatchKernel) : Option PlayerId :=
  (maxByScore (·.totalScore) (·.playerId) m.rows).map (·.playerId)

def snapshot (m : BountyMatchKernel) : BountyMatchSnapshot where
  authorityEpoch := m.authorityEpoch
  lobbySeed := m.lobbySeed
  currentTick := m.currentTick
  endTick := m.endTick
  players := m.rows
  activeReveal := m.activeReveal.map fun reveal =>
    ⟨reveal.playerId, reveal.startedTick, reveal.endTick⟩
  activeObjective := m.activeObjective.map fun objective => {
    objectiveId := objective.objectiveId
    kind := objective.kind
    startedTick := objective.startedTick
    endTick := objective.endTick
    completed := objective.completed
    worldPoint :=
      bountyObjectiveWorldPoint m.lobbySeed objective.objectiveId m.players.size }
  finished := m.finished
  winner := if m.finished then m.winner else none

def requireLiveTick (m : BountyMatchKernel) (tick : SimulationTick) : Option BountyMatchError :=
  if m.finished then some .matchFinished
  else if tick ≠ m.currentTick then some .tickMismatch
  else none

def award (m : BountyMatchKernel) (player : PlayerId) (category : BountyScoreCategory)
    (points : UInt16) : Except BountyMatchError BountyAward × BountyMatchKernel :=
  match m.players[player]? with
  | none => (.error .unknownPlayer, m)
  | some row =>
    let row := { row with score := row.score.add category points }
    (.ok ⟨player, category, points, row.totalScore⟩,
      { m with players := m.players.insert player row })

/-! ## The clock -/

def closeReveal (m : BountyMatchKernel) (tick : SimulationTick) (output : BountyMatchTickOutput) :
    BountyMatchTickOutput × BountyMatchKernel :=
  match m.activeReveal.filter (·.endTick ≤ tick) with
  | none => (output, m)
  | some reveal =>
    let m := { m with activeReveal := none }
    let output := { output with revealEnded := some reveal.playerId }
    if reveal.eliminated then (output, m)
    else
      let awarded := m.award reveal.playerId .mostWantedSurvival 10
      ({ output with survivalAward := awarded.1.toOption }, awarded.2)

/-- The reveal window that starts at the cadence tick. -/
def openReveal (m : BountyMatchKernel) (output : BountyMatchTickOutput) :
    BountyMatchTickOutput × BountyMatchKernel :=
  let next := m.nextRevealTick.satAdd MOST_WANTED_CADENCE_TICKS
  match m.winner with
  | none => (output, { m with nextRevealTick := next })
  | some playerId =>
    let reveal : MostWantedReveal := {
      playerId
      startedTick := m.nextRevealTick
      endTick := m.nextRevealTick.satAdd MOST_WANTED_REVEAL_TICKS
      eliminated := false }
    ({ output with revealStarted := some reveal },
      { m with activeReveal := some reveal, nextRevealTick := next })

/-- The `while` loop over reveal windows. -/
def revealRounds (tick : SimulationTick) :
    ℕ → BountyMatchKernel → BountyMatchTickOutput → BountyMatchTickOutput × BountyMatchKernel
  | 0, m, output => (output, m)
  | fuel + 1, m, output =>
    if m.nextRevealTick ≤ tick ∧ m.nextRevealTick < m.endTick then
      let closed := m.closeReveal m.nextRevealTick output
      let opened := closed.2.openReveal closed.1
      revealRounds tick fuel opened.2 opened.1
    else (output, m)

/-- The number of rounds between a cadence tick and the end of the match, rounded up. -/
def roundsLeft (m : BountyMatchKernel) (next cadence : UInt64) : ℕ :=
  (m.endTick.toNat - next.toNat) / cadence.toNat + 1

def advanceReveals (m : BountyMatchKernel) (tick : SimulationTick)
    (output : BountyMatchTickOutput) : BountyMatchTickOutput × BountyMatchKernel :=
  let opened :=
    revealRounds tick (m.roundsLeft m.nextRevealTick MOST_WANTED_CADENCE_TICKS) m output
  opened.2.closeReveal tick opened.1

def closeObjective (m : BountyMatchKernel) (tick : SimulationTick)
    (output : BountyMatchTickOutput) : BountyMatchTickOutput × BountyMatchKernel :=
  match m.activeObjective.filter (·.endTick ≤ tick) with
  | none => (output, m)
  | some objective =>
    ({ output with objectiveEnded := some objective.objectiveId },
      { m with activeObjective := none })

/-- The objective window that starts at the cadence tick. -/
def openObjective (m : BountyMatchKernel) (output : BountyMatchTickOutput) :
    BountyMatchTickOutput × BountyMatchKernel :=
  let sequence := m.objectiveSequence.satAdd 1
  let objective : ActiveDynamicObjective := {
    objectiveId := sequence
    kind := .fromIndex (m.lobbySeed + sequence.satSub 1)
    startedTick := m.nextObjectiveTick
    endTick := m.nextObjectiveTick.satAdd OBJECTIVE_LIFETIME_TICKS
    completed := false
    signalPaidIntervals := 0 }
  ({ output with objectiveStarted := some objective },
    { m with
      objectiveSequence := sequence
      activeObjective := some objective
      nextObjectiveTick := m.nextObjectiveTick.satAdd OBJECTIVE_CADENCE_TICKS })

/-- The `while` loop over objective windows. -/
def objectiveRounds (tick : SimulationTick) :
    ℕ → BountyMatchKernel → BountyMatchTickOutput → BountyMatchTickOutput × BountyMatchKernel
  | 0, m, output => (output, m)
  | fuel + 1, m, output =>
    if m.nextObjectiveTick ≤ tick ∧ m.nextObjectiveTick < m.endTick then
      let closed := m.closeObjective m.nextObjectiveTick output
      let opened := closed.2.openObjective closed.1
      objectiveRounds tick fuel opened.2 opened.1
    else (output, m)

def advanceObjectives (m : BountyMatchKernel) (tick : SimulationTick)
    (output : BountyMatchTickOutput) : BountyMatchTickOutput × BountyMatchKernel :=
  let closed := m.closeObjective tick output
  let opened := objectiveRounds tick
    (closed.2.roundsLeft closed.2.nextObjectiveTick OBJECTIVE_CADENCE_TICKS) closed.2 closed.1
  opened.2.closeObjective tick opened.1

/-- The end of the match, when the tick has reached it. -/
def finish (m : BountyMatchKernel) (tick : SimulationTick) (output : BountyMatchTickOutput) :
    BountyMatchTickOutput × BountyMatchKernel :=
  if tick ≥ m.endTick ∧ !m.finished then
    let m := { m with finished := true, activeReveal := none, activeObjective := none }
    ({ output with matchEnded := true, winner := m.winner }, m)
  else (output, m)

def moveClock (m : BountyMatchKernel) (tick : SimulationTick) : BountyMatchKernel :=
  { m with
    currentTick := tick
    players := m.players.map fun _ row => BountyPlayerState.advanceTo row (min tick m.endTick) }

def advanceTick (m : BountyMatchKernel) (tick : SimulationTick) :
    Except BountyMatchError BountyMatchTickOutput × BountyMatchKernel :=
  if tick ≤ m.currentTick then (.error .tickReplay, m)
  else
    let effectiveTick := min tick m.endTick
    let respawned := (m.rows.filter (·.respawnsBy effectiveTick)).map (·.playerId)
    let m := m.moveClock tick
    let reveals := m.advanceReveals effectiveTick .empty
    let objectives := reveals.2.advanceObjectives effectiveTick reveals.1
    let finished := objectives.2.finish tick objectives.1
    (.ok { finished.1 with respawnedPlayers := respawned.insertionSort (· ≤ ·) }, finished.2)

/-! ## Events -/

def recordDamage (m : BountyMatchKernel) (tick : SimulationTick) (attacker target : PlayerId)
    (damage : UInt16) : Except BountyMatchError Unit × BountyMatchKernel :=
  match m.requireLiveTick tick with
  | some error => (.error error, m)
  | none =>
    if damage = 0 ∨ attacker = target ∨ attacker ∉ m.players then (.error .invalidEvent, m)
    else
      match m.players[target]? with
      | none => (.error .unknownPlayer, m)
      | some targetState =>
        if !targetState.alive then (.error .invalidEvent, m)
        else
          let contributors := m.damage[target]?.getD ∅
          let before := (contributors[attacker]?.map (·.damage)).getD 0
          (.ok (), { m with
            damage := m.damage.insert target
              (contributors.insert attacker ⟨before.satAdd damage, tick⟩) })

/-- Awards to one player, one after the other, until one fails. -/
def awardEach (player : PlayerId) :
    List (BountyScoreCategory × UInt16) → BountyMatchKernel →
      Except BountyMatchError (List BountyAward) × BountyMatchKernel
  | [], m => (.ok [], m)
  | (category, points) :: rest, m =>
    match m.award player category points with
    | (.error error, m) => (.error error, m)
    | (.ok first, m) =>
      match awardEach player rest m with
      | (.error error, m) => (.error error, m)
      | (.ok others, m) => (.ok (first :: others), m)

/-- Whether a contribution to a target's damage counts as an assist. -/
def isAssist (tick : SimulationTick) (killer attacker : PlayerId)
    (contribution : DamageContribution) : Bool :=
  attacker ≠ killer && contribution.damage ≥ ASSIST_DAMAGE_THRESHOLD
    && tick.satSub contribution.lastTick < ASSIST_WINDOW_TICKS

/-- The loop over the contributors of an eliminated target. -/
def awardAssists (tick : SimulationTick) (killer : PlayerId) :
    List (PlayerId × DamageContribution) → BountyMatchKernel →
      Except BountyMatchError (List BountyAward) × BountyMatchKernel
  | [], m => (.ok [], m)
  | (attacker, contribution) :: rest, m =>
    if isAssist tick killer attacker contribution then
      match m.award attacker .assist 50 with
      | (.error error, m) => (.error error, m)
      | (.ok first, m) =>
        let m := { m with players := m.players.modify attacker fun row =>
          { row with assists := row.assists.satAdd 1 } }
        match awardAssists tick killer rest m with
        | (.error error, m) => (.error error, m)
        | (.ok others, m) => (.ok (first :: others), m)
    else awardAssists tick killer rest m

def eliminate (row : BountyPlayerState) (tick : SimulationTick) : BountyPlayerState :=
  { row with
    alive := false
    deaths := row.deaths.satAdd 1
    respawnAtTick := some (tick.satAdd RESPAWN_DELAY_TICKS)
    respawnSpeedBuffEndTick := none }

/-- The Most Wanted target was eliminated inside the reveal window. -/
def markReveal (m : BountyMatchKernel) (mostWanted : Bool) : BountyMatchKernel :=
  if mostWanted then
    { m with activeReveal := m.activeReveal.map fun reveal => { reveal with eliminated := true } }
  else m

/-- What the killer earns. -/
def eliminationAwards (saddleDive mostWanted : Bool) : List (BountyScoreCategory × UInt16) :=
  [(.elimination, 100)] ++ (if saddleDive then [(.saddleDiveBonus, 25)] else [])
    ++ (if mostWanted then [(.mostWantedElimination, 75)] else [])

/-- Awards the killer and the assists, and takes the target out of the match for a while. -/
def settleElimination (m : BountyMatchKernel) (tick : SimulationTick) (killer target : PlayerId)
    (categories : List (BountyScoreCategory × UInt16)) :
    Except BountyMatchError (List BountyAward) × BountyMatchKernel :=
  match awardEach killer categories m with
  | (.error error, m) => (.error error, m)
  | (.ok awards, m) =>
    let contributors := m.damage[target]?.getD ∅
    let m := { m with
      players := m.players.modify killer fun row =>
        { row with eliminations := row.eliminations.satAdd 1 }
      damage := m.damage.erase target }
    match awardAssists tick killer contributors.toList m with
    | (.error error, m) => (.error error, m)
    | (.ok assists, m) =>
      (.ok (awards ++ assists),
        { m with players := m.players.modify target fun row => eliminate row tick })

def recordElimination (m : BountyMatchKernel) (tick : SimulationTick) (killer target : PlayerId)
    (saddleDive : Bool) : Except BountyMatchError (List BountyAward) × BountyMatchKernel :=
  match m.requireLiveTick tick with
  | some error => (.error error, m)
  | none =>
    if killer = target ∨ killer ∉ m.players then (.error .invalidEvent, m)
    else if !m.players[target]?.any (·.alive) then (.error .unknownPlayer, m)
    else
      let mostWanted := m.activeReveal.any fun reveal =>
        reveal.playerId = target && tick ≥ reveal.startedTick && tick < reveal.endTick
      (m.markReveal mostWanted).settleElimination tick killer target
        (eliminationAwards saddleDive mostWanted)

def recordHorseBolt (m : BountyMatchKernel) (tick : SimulationTick) (attacker target : PlayerId) :
    Except BountyMatchError BountyAward × BountyMatchKernel :=
  match m.requireLiveTick tick with
  | some error => (.error error, m)
  | none =>
    if attacker = target ∨ target ∉ m.players then (.error .invalidEvent, m)
    else m.award attacker .horseBolt 15

def recordMountedLongHit (m : BountyMatchKernel) (tick : SimulationTick) (attacker : PlayerId)
    (distanceMm : UInt32) : Except BountyMatchError (Option BountyAward) × BountyMatchKernel :=
  match m.requireLiveTick tick with
  | some error => (.error error, m)
  | none =>
    if distanceMm ≤ LONG_HIT_DISTANCE_MM then (.ok none, m)
    else
      match m.players[attacker]? with
      | none => (.error .unknownPlayer, m)
      | some row =>
        if row.mountedLongHitBonus ≥ LONG_HIT_BONUS_CAP then (.ok none, m)
        else
          let row := { row with mountedLongHitBonus := row.mountedLongHitBonus + 10 }
          let awarded :=
            { m with players := m.players.insert attacker row }.award attacker .mountedLongHit 10
          (awarded.1.map some, awarded.2)

def completeObjective (m : BountyMatchKernel) (tick : SimulationTick) (player : PlayerId)
    (objectiveId : UInt64) : Except BountyMatchError BountyAward × BountyMatchKernel :=
  match m.requireLiveTick tick with
  | some error => (.error error, m)
  | none =>
    if player ∉ m.players then (.error .unknownPlayer, m)
    else
      match m.activeObjective with
      | none => (.error .invalidEvent, m)
      | some objective =>
        if objective.objectiveId ≠ objectiveId ∨ objective.completed
            ∨ objective.kind = .signalTower ∨ tick ≥ objective.endTick then
          (.error .invalidEvent, m)
        else
          let buffed :=
            if objective.kind = .horseBuffStation then
              m.players.modify player fun row =>
                { row with horseBuffEndTick := some (tick.satAdd HORSE_STATION_BUFF_TICKS) }
            else m.players
          { m with
            activeObjective := some { objective with completed := true }
            players := buffed }.award player .objective objective.kind.completionPoints

def recordSignalTowerHold (m : BountyMatchKernel) (tick : SimulationTick) (player : PlayerId)
    (objectiveId totalHoldTicks : UInt64) :
    Except BountyMatchError (Option BountyAward) × BountyMatchKernel :=
  match m.requireLiveTick tick with
  | some error => (.error error, m)
  | none =>
    if player ∉ m.players then (.error .unknownPlayer, m)
    else
      match m.activeObjective with
      | none => (.error .invalidEvent, m)
      | some objective =>
        if objective.objectiveId ≠ objectiveId ∨ objective.kind ≠ .signalTower
            ∨ tick ≥ objective.endTick then
          (.error .invalidEvent, m)
        else if objective.completed ∨ objective.signalPaidIntervals ≥ 3 then (.ok none, m)
        else
          let earned := (min (totalHoldTicks / SIGNAL_TOWER_INTERVAL_TICKS) 3).toUInt8
          if earned ≤ objective.signalPaidIntervals then (.ok none, m)
          else
            let paid := objective.signalPaidIntervals + 1
            let objective := { objective with
              signalPaidIntervals := paid
              completed := objective.completed || paid = 3 }
            let awarded :=
              { m with activeObjective := some objective }.award player .objective 50
            (awarded.1.map some, awarded.2)

/-! ## Handing a match over -/

def checkpoint (m : BountyMatchKernel) : BountyMatchCheckpointV2 := ⟨m.authorityEpoch, m⟩

def restoreCheckpoint (c : BountyMatchCheckpointV2) (nextAuthorityEpoch : UInt64) :
    Except BountyMatchError BountyMatchKernel :=
  if c.sourceAuthorityEpoch.checkedAdd 1 ≠ some nextAuthorityEpoch
      ∨ c.matchState.authorityEpoch ≠ c.sourceAuthorityEpoch ∨ !c.matchState.stateIsValid then
    .error .invalidCheckpoint
  else .ok { c.matchState with authorityEpoch := nextAuthorityEpoch }

end BountyMatchKernel

/-! ## Calls -/

/-- A call to the kernel; `handOver` restores a checkpoint of it at another epoch. -/
inductive BountyCall
  | advanceTick (tick : SimulationTick)
  | recordDamage (tick : SimulationTick) (attacker target : PlayerId) (damage : UInt16)
  | recordElimination (tick : SimulationTick) (killer target : PlayerId) (saddleDive : Bool)
  | recordHorseBolt (tick : SimulationTick) (attacker target : PlayerId)
  | recordMountedLongHit (tick : SimulationTick) (attacker : PlayerId) (distanceMm : UInt32)
  | completeObjective (tick : SimulationTick) (player : PlayerId) (objectiveId : UInt64)
  | recordSignalTowerHold (tick : SimulationTick) (player : PlayerId)
      (objectiveId totalHoldTicks : UInt64)
  | handOver (nextAuthorityEpoch : UInt64)

namespace BountyMatchKernel

/-- An answer without its data. -/
def answer {α : Type} (r : Except BountyMatchError α × BountyMatchKernel) :
    Except BountyMatchError Unit × BountyMatchKernel :=
  (r.1.map fun _ => (), r.2)

def step (m : BountyMatchKernel) :
    BountyCall → Except BountyMatchError Unit × BountyMatchKernel
  | .advanceTick tick => answer (m.advanceTick tick)
  | .recordDamage tick attacker target damage => m.recordDamage tick attacker target damage
  | .recordElimination tick killer target saddleDive =>
    answer (m.recordElimination tick killer target saddleDive)
  | .recordHorseBolt tick attacker target => answer (m.recordHorseBolt tick attacker target)
  | .recordMountedLongHit tick attacker distanceMm =>
    answer (m.recordMountedLongHit tick attacker distanceMm)
  | .completeObjective tick player objectiveId =>
    answer (m.completeObjective tick player objectiveId)
  | .recordSignalTowerHold tick player objectiveId totalHoldTicks =>
    answer (m.recordSignalTowerHold tick player objectiveId totalHoldTicks)
  | .handOver nextAuthorityEpoch =>
    match restoreCheckpoint m.checkpoint nextAuthorityEpoch with
    | .error error => (.error error, m)
    | .ok restored => (.ok (), restored)

end BountyMatchKernel

end Spurfire
