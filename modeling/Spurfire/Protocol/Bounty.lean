import Spurfire.Protocol.Gameplay
import Spurfire.Lib.SplitMix

/-!
# Bounty Run match state

Clock, scores, reveals and objectives of one match (`m5.rs`) as snapshots and checkpoints carry
them, the validity check of a match state, and the deterministic objective placement that the
receiver of a match-state keyframe recomputes.
-/

namespace Spurfire

open Std (ExtTreeMap)
open UInt64 (splitmix64)

def M5_TICK_RATE_HZ : UInt64 := 60
def BOUNTY_RUN_DURATION_TICKS : UInt64 := 15 * 60 * M5_TICK_RATE_HZ
def MOST_WANTED_REVEAL_TICKS : UInt64 := 10 * M5_TICK_RATE_HZ
def OBJECTIVE_LIFETIME_TICKS : UInt64 := 60 * M5_TICK_RATE_HZ
def LONG_HIT_BONUS_CAP : UInt16 := 50
def MAX_BOUNTY_SCORE : UInt32 := 1000000
def OBJECTIVE_EDGE_BUFFER_M : UInt32 := 150
def MIN_PLAYABLE_RADIUS_M : ℕ := 450
def MAX_PLAYABLE_RADIUS_M : ℕ := 1500

/-! ## Objective placement -/

/-- The bisection loop of `integer_sqrt`.  Each round halves `high - low`, so `fuel` rounds finish
any interval of length below `2 ^ fuel`. -/
def integerSqrtLoop (value : ℕ) : ℕ → ℕ → ℕ → ℕ → ℕ
  | 0, _, _, answer => answer
  | fuel + 1, low, high, answer =>
    if low ≤ high then
      let middle := low + (high - low) / 2
      if middle ≤ value / middle then integerSqrtLoop value fuel (middle + 1) high middle
      else integerSqrtLoop value fuel low (middle - 1) answer
    else answer

/-- `integer_sqrt` and `integer_sqrt_u128`, which differ only in their word size. -/
def integerSqrt (value : ℕ) : ℕ :=
  if value < 2 then value else integerSqrtLoop value 129 1 (value / 2 + 1) 1

def playableRadiusM (playerCount : ℕ) : ℕ :=
  max MIN_PLAYABLE_RADIUS_M (min MAX_PLAYABLE_RADIUS_M (integerSqrt (62500 * playerCount)))

structure BountyWorldPoint where
  xMm : Int32
  zMm : Int32
deriving DecidableEq

/-- `i32::try_from(v).unwrap_or_default()`. -/
def i32OrDefault (v : ℤ) : Int32 :=
  if -2 ^ 31 ≤ v ∧ v < 2 ^ 31 then Int32.ofInt v else 0

def radialPoint (entropy radiusMm : UInt64) : BountyWorldPoint :=
  let next := splitmix64 entropy
  let rawX : ℤ := (entropy &&& 0x1fffff).toNat - 0x0fffff
  let rawZ : ℤ := (next &&& 0x1fffff).toNat - 0x0fffff
  let raw := if rawX = 0 ∧ rawZ = 0 then (1, 0) else (rawX, rawZ)
  let norm : ℤ := max (integerSqrt (raw.1 * raw.1 + raw.2 * raw.2).natAbs) 1
  { xMm := i32OrDefault ((raw.1 * radiusMm.toNat).tdiv norm)
    zMm := i32OrDefault ((raw.2 * radiusMm.toNat).tdiv norm) }

def bountyObjectiveWorldPoint (lobbySeed objectiveId : UInt64) (playerCount : ℕ) :
    BountyWorldPoint :=
  let radiusMm := UInt64.ofNat (playableRadiusM playerCount * 1000)
  let usableMm := radiusMm.satSub (OBJECTIVE_EDGE_BUFFER_M.toUInt64 * 1000)
  let entropy := splitmix64 (lobbySeed ^^^ (objectiveId * 0x9e3779b97f4a7c15))
  let fractionPercent := 45 + entropy % 31
  radialPoint entropy (usableMm.satMul fractionPercent / 100)

/-! ## Match state -/

structure BountyScoreBreakdown where
  elimination : UInt32
  assist : UInt32
  horseBolt : UInt32
  saddleDiveBonus : UInt32
  mountedLongHit : UInt32
  objective : UInt32
  mostWantedElimination : UInt32
  mostWantedSurvival : UInt32
deriving DecidableEq

def BountyScoreBreakdown.total (s : BountyScoreBreakdown) : UInt32 :=
  s.elimination.satAdd s.assist |>.satAdd s.horseBolt |>.satAdd s.saddleDiveBonus
    |>.satAdd s.mountedLongHit |>.satAdd s.objective |>.satAdd s.mostWantedElimination
    |>.satAdd s.mostWantedSurvival

structure BountyPlayerState where
  playerId : PlayerId
  score : BountyScoreBreakdown
  eliminations : UInt16
  assists : UInt16
  deaths : UInt16
  alive : Bool
  respawnAtTick : Option SimulationTick
  respawnSpeedBuffEndTick : Option SimulationTick
  horseBuffEndTick : Option SimulationTick
  mountedLongHitBonus : UInt16
deriving DecidableEq

def BountyPlayerState.totalScore (row : BountyPlayerState) : UInt32 := row.score.total

structure DamageContribution where
  damage : UInt16
  lastTick : SimulationTick
deriving DecidableEq

structure MostWantedReveal where
  playerId : PlayerId
  startedTick : SimulationTick
  endTick : SimulationTick
  eliminated : Bool
deriving DecidableEq

inductive DynamicObjectiveKind
  | movingBounty
  | supplyHerd
  | ammoWagon
  | signalTower
  | horseBuffStation
deriving DecidableEq

structure ActiveDynamicObjective where
  objectiveId : UInt64
  kind : DynamicObjectiveKind
  startedTick : SimulationTick
  endTick : SimulationTick
  completed : Bool
  signalPaidIntervals : UInt8
deriving DecidableEq

structure BountyMatchKernel where
  authorityEpoch : UInt64
  lobbySeed : UInt64
  startTick : SimulationTick
  currentTick : SimulationTick
  endTick : SimulationTick
  players : ExtTreeMap PlayerId BountyPlayerState
  damage : ExtTreeMap PlayerId (ExtTreeMap PlayerId DamageContribution)
  nextRevealTick : SimulationTick
  activeReveal : Option MostWantedReveal
  nextObjectiveTick : SimulationTick
  activeObjective : Option ActiveDynamicObjective
  objectiveSequence : UInt64
  finished : Bool

namespace BountyMatchKernel

/-- The per-player part of `state_is_valid`. -/
def playerRowIsValid (m : BountyMatchKernel) (id : PlayerId) (row : BountyPlayerState) : Bool :=
  !(id != row.playerId
    || row.totalScore > MAX_BOUNTY_SCORE
    || row.mountedLongHitBonus > LONG_HIT_BONUS_CAP
    || row.score.mountedLongHit != row.mountedLongHitBonus.toUInt32
    || row.alive == row.respawnAtTick.isSome
    || row.respawnAtTick.any (fun respawn => !m.finished && respawn ≤ m.currentTick)
    || row.respawnSpeedBuffEndTick.any (· ≤ m.currentTick)
    || row.horseBuffEndTick.any (· ≤ m.currentTick))

/-- The per-target part of `state_is_valid`. -/
def damageRowIsValid (m : BountyMatchKernel) (target : PlayerId)
    (contributors : ExtTreeMap PlayerId DamageContribution) : Bool :=
  !(!m.players.contains target
    || contributors.size > m.players.size
    || contributors.toList.any fun row =>
        row.1 == target || !m.players.contains row.1 || row.2.damage == 0
          || row.2.lastTick > m.currentTick)

def stateIsValid (m : BountyMatchKernel) : Bool :=
  if m.players.isEmpty
      || m.players.size > MAX_M3_AUTHORITY_ACTORS
      || m.currentTick < m.startTick
      || m.endTick != m.startTick.satAdd BOUNTY_RUN_DURATION_TICKS
      || m.finished != decide (m.currentTick ≥ m.endTick)
      || (m.finished && (m.activeReveal.isSome || m.activeObjective.isSome))
      || m.objectiveSequence == 0xffffffffffffffff
      || m.players.toList.any (fun row => !m.playerRowIsValid row.1 row.2)
      || m.damage.toList.any (fun row => !m.damageRowIsValid row.1 row.2) then
    false
  else if m.activeReveal.any fun reveal =>
      !m.players.contains reveal.playerId
        || reveal.endTick != reveal.startedTick.satAdd MOST_WANTED_REVEAL_TICKS
        || m.currentTick ≥ reveal.endTick then
    false
  else
    m.activeObjective.all fun objective =>
      objective.objectiveId > 0
        && objective.endTick == objective.startedTick.satAdd OBJECTIVE_LIFETIME_TICKS
        && objective.signalPaidIntervals ≤ 3
        && m.currentTick < objective.endTick

end BountyMatchKernel

structure BountyMatchCheckpointV2 where
  sourceAuthorityEpoch : UInt64
  matchState : BountyMatchKernel

end Spurfire
