import Spurfire.Lib.FirstOrBest
import Spurfire.Lib.FloorNorm
import Spurfire.Lib.OrderedSet
import Spurfire.Protocol.Bounty
import Spurfire.Protocol.CombatKernel
import Mathlib.Data.Prod.Lex

/-!
# Placement on the playable map

`bounty_objective_world_point` and `bounty_respawn_world_point` of `m5.rs`: points on a ring around
the centre, from a seed alone, and for a respawn the first ring point that is far enough from every
live rider.

* `integerSqrt_eq`: the bisection is the integer square root;
* `squaredRadiusMm_radialPoint`: a radial point is its raw vector, scaled by the floored norm;
* `Regular`: where a respawn search finds a point, and the floored norm does not stretch the vector
  it is drawn on off the ring;
* **`placements_stay`**: placements are where they should be there, and only there up to the rounding
  of a respawn's coordinates.
-/

namespace Spurfire

open UInt64 (splitmix64)
open FloorNorm (scaledSq)

def RESPAWN_MIN_SEPARATION_M : UInt32 := 120
def RESPAWN_PLACEMENT_CANDIDATES : ℕ := 32

/-! ## The integer square root -/

/-- Bounds that have met enclose the root. -/
theorem eq_sqrt_of_closed {value low high answer : ℕ} (hvalue : 0 < value)
    (hclosed : low = high + 1) (hfits : (low - 1) * (low - 1) ≤ value)
    (hover : value < (high + 1) * (high + 1))
    (hanswer : 1 < low → answer = low - 1) : answer = Nat.sqrt value := by
  have hbig : 1 < low := by
    by_contra hsmall
    have hzero : high = 0 := by omega
    rw [hzero] at hover
    omega
  rw [hanswer hbig]
  refine Nat.eq_sqrt.mpr ⟨hfits, ?_⟩
  rw [Nat.sub_add_cancel hbig.le, hclosed]
  exact hover

/-- The bisection closes in on the root: below `low` squares fit, above `high` they do not. -/
theorem integerSqrtLoop_eq {value fuel low high answer : ℕ} (hvalue : 0 < value)
    (hfuel : high + 1 - low < 2 ^ fuel) (hlow : 0 < low) (horder : low ≤ high + 1)
    (hfits : (low - 1) * (low - 1) ≤ value) (hover : value < (high + 1) * (high + 1))
    (hanswer : 1 < low → answer = low - 1) :
    integerSqrtLoop value fuel low high answer = Nat.sqrt value := by
  induction fuel generalizing low high answer with
  | zero =>
    rw [Nat.pow_zero] at hfuel
    exact eq_sqrt_of_closed hvalue (by omega) hfits hover hanswer
  | succ fuel ih =>
    unfold integerSqrtLoop
    by_cases hloop : low ≤ high
    · rw [if_pos hloop]
      dsimp only
      have hmiddle : low ≤ low + (high - low) / 2 ∧ low + (high - low) / 2 ≤ high := by omega
      have hhalf : 2 ^ (fuel + 1) = 2 * 2 ^ fuel := Nat.pow_succ'
      have hright : high + 1 - (low + (high - low) / 2 + 1) < 2 ^ fuel := by omega
      have hleft : low + (high - low) / 2 - 1 + 1 - low < 2 ^ fuel := by omega
      generalize low + (high - low) / 2 = middle at hmiddle hright hleft
      by_cases hfit : middle ≤ value / middle
      · rw [if_pos hfit]
        have hsq : middle * middle ≤ value := (Nat.le_div_iff_mul_le (by omega)).mp hfit
        exact ih hright (by omega) (by omega) (by rwa [Nat.add_sub_cancel]) hover
          fun _ => (Nat.add_sub_cancel middle 1).symm
      · rw [if_neg hfit]
        have hsq : value < middle * middle := by
          by_contra hle
          exact hfit ((Nat.le_div_iff_mul_le (by omega)).mpr (not_lt.mp hle))
        have hpred : middle - 1 + 1 = middle := by omega
        exact ih hleft hlow (by omega) hfits (by rwa [hpred]) hanswer
    · rw [if_neg hloop]
      exact eq_sqrt_of_closed hvalue (by omega) hfits hover hanswer

theorem integerSqrt_eq {value : ℕ} (h : value < 2 ^ 128) : integerSqrt value = Nat.sqrt value := by
  unfold integerSqrt
  by_cases hsmall : value < 2
  · rw [if_pos hsmall]
    obtain rfl | rfl : value = 0 ∨ value = 1 := by omega
    · rw [Nat.sqrt_zero]
    · rw [Nat.sqrt_one]
  · rw [if_neg hsmall]
    refine integerSqrtLoop_eq (by omega) (by omega) (by omega) (by omega) (by omega) ?_ nofun
    -- half of the value and one more has a larger square
    have hhalf : value < 2 * (value / 2 + 1) := by omega
    calc value < 2 * (value / 2 + 1) := hhalf
      _ ≤ (value / 2 + 1 + 1) * (value / 2 + 1 + 1) := Nat.mul_le_mul (by omega) (by omega)

theorem playableRadiusM_bounds (playerCount : ℕ) :
    450 ≤ playableRadiusM playerCount ∧ playableRadiusM playerCount ≤ 1500 := by
  unfold playableRadiusM MIN_PLAYABLE_RADIUS_M MAX_PLAYABLE_RADIUS_M
  omega

/-! ## Radial points -/

/-- The raw vector of an entropy, which is never zero. -/
def rawVector (entropy : UInt64) : ℤ × ℤ :=
  let rawX : ℤ := (entropy &&& 0x1fffff).toNat - 0x0fffff
  let rawZ : ℤ := (splitmix64 entropy &&& 0x1fffff).toNat - 0x0fffff
  if rawX = 0 ∧ rawZ = 0 then (1, 0) else (rawX, rawZ)

/-- The absolute values of the raw vector. -/
def rawAbs (entropy : UInt64) : ℕ × ℕ :=
  ((rawVector entropy).1.natAbs, (rawVector entropy).2.natAbs)

theorem rawAbs_le (entropy : UInt64) :
    (rawAbs entropy).1 ≤ 2 ^ 20 ∧ (rawAbs entropy).2 ≤ 2 ^ 20 := by
  have hmask : ∀ word : UInt64, (word &&& 0x1fffff).toNat < 2 ^ 21 := by
    intro word
    rw [UInt64.toNat_and]
    exact Nat.lt_of_le_of_lt Nat.and_le_right (by decide)
  have hx := hmask entropy
  have hz := hmask (splitmix64 entropy)
  unfold rawAbs rawVector
  dsimp only
  split_ifs
  · decide
  · dsimp only
    omega

theorem rawAbs_pos (entropy : UInt64) :
    0 < (rawAbs entropy).1 * (rawAbs entropy).1 + (rawAbs entropy).2 * (rawAbs entropy).2 := by
  have hne : (rawAbs entropy).1 ≠ 0 ∨ (rawAbs entropy).2 ≠ 0 := by
    unfold rawAbs rawVector
    dsimp only
    split_ifs with hzero
    · exact Or.inl (by decide)
    · dsimp only
      omega
  rcases hne with hx | hz
  · exact Nat.add_pos_left (Nat.mul_pos (Nat.pos_of_ne_zero hx) (Nat.pos_of_ne_zero hx)) _
  · exact Nat.add_pos_right _ (Nat.mul_pos (Nat.pos_of_ne_zero hz) (Nat.pos_of_ne_zero hz))

namespace BountyWorldPoint

def squaredRadiusMm (p : BountyWorldPoint) : ℕ :=
  p.xMm.toInt.natAbs ^ 2 + p.zMm.toInt.natAbs ^ 2

def squaredDistanceMm (p other : BountyWorldPoint) : ℕ :=
  (p.xMm.toInt - other.xMm.toInt).natAbs ^ 2 + (p.zMm.toInt - other.zMm.toInt).natAbs ^ 2

end BountyWorldPoint

/-- A component of a radial point. -/
theorem natAbs_i32OrDefault {raw : ℤ} {radius norm : ℕ} (hnorm : raw.natAbs ≤ norm)
    (hradius : radius < 2 ^ 31) :
    (i32OrDefault ((raw * radius).tdiv norm)).toInt.natAbs = raw.natAbs * radius / norm := by
  have habs : ((raw * radius).tdiv norm).natAbs = raw.natAbs * radius / norm := by
    rw [Int.natAbs_tdiv, Int.natAbs_mul]
    rfl
  have hle : raw.natAbs * radius / norm ≤ radius := FloorNorm.scaled_le hnorm
  unfold i32OrDefault
  rw [if_pos (by omega), Int32.toInt_ofInt_of_le (by omega) (by omega)]
  exact habs

/-- **A radial point is its raw vector, scaled by the floored norm.** -/
theorem squaredRadiusMm_radialPoint (entropy : UInt64) {radiusMm : UInt64}
    (h : radiusMm.toNat < 2 ^ 31) : (radialPoint entropy radiusMm).squaredRadiusMm
      = scaledSq radiusMm.toNat (rawAbs entropy).1 (rawAbs entropy).2 := by
  have hle := rawAbs_le entropy
  have hpos := rawAbs_pos entropy
  have hraw : radialPoint entropy radiusMm =
      let raw := rawVector entropy
      let norm : ℤ := max (integerSqrt (raw.1 * raw.1 + raw.2 * raw.2).natAbs) 1
      { xMm := i32OrDefault ((raw.1 * radiusMm.toNat).tdiv norm)
        zMm := i32OrDefault ((raw.2 * radiusMm.toNat).tdiv norm) } := rfl
  rw [hraw]
  unfold rawAbs at hle hpos ⊢
  generalize rawVector entropy = raw at hle hpos ⊢
  dsimp only at hle hpos ⊢
  have hsum : (raw.1 * raw.1 + raw.2 * raw.2).natAbs
      = raw.1.natAbs * raw.1.natAbs + raw.2.natAbs * raw.2.natAbs := by
    rw [Int.natAbs_add_of_nonneg (mul_self_nonneg _) (mul_self_nonneg _), Int.natAbs_mul,
      Int.natAbs_mul]
  have hsmall : raw.1.natAbs * raw.1.natAbs + raw.2.natAbs * raw.2.natAbs < 2 ^ 128 := by
    have hx := Nat.mul_le_mul hle.1 hle.1
    have hz := Nat.mul_le_mul hle.2 hle.2
    omega
  have hnorm : (max (integerSqrt (raw.1 * raw.1 + raw.2 * raw.2).natAbs) 1 : ℤ)
      = (FloorNorm.norm raw.1.natAbs raw.2.natAbs : ℕ) := by
    rw [hsum, integerSqrt_eq hsmall]
    have hone := FloorNorm.norm_pos hpos
    unfold FloorNorm.norm at hone ⊢
    omega
  rw [hnorm]
  unfold BountyWorldPoint.squaredRadiusMm scaledSq
  dsimp only
  rw [natAbs_i32OrDefault (FloorNorm.le_norm_left _ _) h,
    natAbs_i32OrDefault (FloorNorm.le_norm_right _ _) h]

/-! ## Objectives -/

def objectiveEntropy (lobbySeed objectiveId : UInt64) : UInt64 :=
  splitmix64 (lobbySeed ^^^ (objectiveId * 0x9e3779b97f4a7c15))

/-- An objective lies inside its buffer, up to two millimetres. -/
def ObjectiveInside (lobbySeed objectiveId : UInt64) (playerCount : ℕ) : Prop :=
  (bountyObjectiveWorldPoint lobbySeed objectiveId playerCount).squaredRadiusMm
    ≤ ((playableRadiusM playerCount - OBJECTIVE_EDGE_BUFFER_M.toNat) * 1000 + 2) ^ 2

/-- The raw vector is `(±1, ±1)` or `(±2, ±2)`, and the ring at 71 to 75 per cent. -/
def ShortDiagonal (lobbySeed objectiveId : UInt64) : Prop :=
  let raw := rawAbs (objectiveEntropy lobbySeed objectiveId)
  raw.1 = raw.2 ∧ raw.1 ≤ 2 ∧ 71 ≤ 45 + (objectiveEntropy lobbySeed objectiveId).toNat % 31

/-- The share of a radius, in whole millimetres. -/
theorem toNat_share {radiusMm percent : UInt64} {metres : ℕ}
    (hradius : radiusMm.toNat = metres * 1000) (hmetres : metres ≤ 1500)
    (hpercent : percent.toNat ≤ 100) :
    (radiusMm.satMul percent / 100).toNat = 10 * metres * percent.toNat := by
  have hmul : metres * 1000 * percent.toNat ≤ 1500 * 1000 * 100 :=
    Nat.mul_le_mul (by omega) hpercent
  rw [UInt64.toNat_div, UInt64.toNat_satMul, hradius, min_eq_left (by omega)]
  change metres * 1000 * percent.toNat / 100 = _
  rw [show metres * 1000 * percent.toNat = 10 * metres * percent.toNat * 100 by ring,
    Nat.mul_div_cancel _ (by decide)]

theorem squaredRadiusMm_objective (lobbySeed objectiveId : UInt64) (playerCount : ℕ) :
    (bountyObjectiveWorldPoint lobbySeed objectiveId playerCount).squaredRadiusMm
      = scaledSq (10 * (playableRadiusM playerCount - 150)
          * (45 + (objectiveEntropy lobbySeed objectiveId).toNat % 31))
        (rawAbs (objectiveEntropy lobbySeed objectiveId)).1
        (rawAbs (objectiveEntropy lobbySeed objectiveId)).2 := by
  have hbounds := playableRadiusM_bounds playerCount
  unfold bountyObjectiveWorldPoint
  dsimp only
  rw [show splitmix64 (lobbySeed ^^^ (objectiveId * 0x9e3779b97f4a7c15))
    = objectiveEntropy lobbySeed objectiveId from rfl]
  generalize objectiveEntropy lobbySeed objectiveId = entropy
  generalize playableRadiusM playerCount = metres at hbounds ⊢
  have hpercent : (45 + entropy % 31).toNat = 45 + entropy.toNat % 31 := by
    rw [UInt64.toNat_add, UInt64.toNat_mod]
    change (45 + entropy.toNat % 31) % 2 ^ 64 = _
    omega
  have husable : ((UInt64.ofNat (metres * 1000)).satSub
      (OBJECTIVE_EDGE_BUFFER_M.toUInt64 * 1000)).toNat = (metres - 150) * 1000 := by
    rw [UInt64.toNat_satSub, UInt64.toNat_ofNat', Nat.mod_eq_of_lt (by omega)]
    change metres * 1000 - 150000 = _
    omega
  have hshare := toNat_share husable (by omega)
    (show (45 + entropy % 31).toNat ≤ 100 by omega)
  rw [squaredRadiusMm_radialPoint, hshare, hpercent]
  rw [hshare, hpercent]
  have : (10 * (metres - 150)) * (45 + entropy.toNat % 31) ≤ (10 * 1350) * 75 :=
    Nat.mul_le_mul (by omega) (by omega)
  omega

/-- A diagonal that is stretched by the root of two leaves the map from 71 per cent on. -/
theorem diagonal_le_iff {metres percent r : ℕ} (hmetres : 1 ≤ metres)
    (hr : 10 * metres * percent = r) :
    r ^ 2 + r ^ 2 ≤ (metres * 1000 + 2) ^ 2 ↔ percent ≤ 70 := by
  subst hr
  constructor
  · intro h
    by_contra hmore
    have hlong : 710 * metres ≤ 10 * metres * percent := by nlinarith only [hmore]
    have hsq : (710 * metres) ^ 2 ≤ (10 * metres * percent) ^ 2 := Nat.pow_le_pow_left hlong 2
    nlinarith only [h, hsq, hmetres]
  · intro h
    have hshort : 10 * metres * percent ≤ 700 * metres := by nlinarith only [h]
    have hsq : (10 * metres * percent) ^ 2 ≤ (700 * metres) ^ 2 := Nat.pow_le_pow_left hshort 2
    nlinarith only [hsq, Nat.zero_le metres, Nat.zero_le (metres * metres)]

/-- Only the two short diagonals are stretched past the ring, and only from 71 per cent on. -/
theorem scaledSq_le_iff_of_ring {metres percent a b : ℕ} (hmetres : 1 ≤ metres)
    (hpercent : percent ≤ 75) (hpos : 0 < a * a + b * b) :
    scaledSq (10 * metres * percent) a b ≤ (metres * 1000 + 2) ^ 2
      ↔ ¬(a = b ∧ a ≤ 2 ∧ 71 ≤ percent) := by
  have hr : 10 * metres * percent ≤ 750 * metres := by nlinarith only [hpercent]
  have hn := FloorNorm.norm_pos hpos
  have hleft := FloorNorm.le_norm_left a b
  have hright := FloorNorm.le_norm_right a b
  have hsq := FloorNorm.norm_mul_norm_le a b
  by_cases hlong : 3 ≤ FloorNorm.norm a b
  · have hle := FloorNorm.mul_scaledSq_le (10 * metres * percent) a b
    have hfloor := FloorNorm.le_norm_mul_norm a b
    refine iff_of_true ?_ ?_
    · generalize scaledSq (10 * metres * percent) a b = s at hle ⊢
      generalize 10 * metres * percent = r at hle hr
      generalize FloorNorm.norm a b = n at *
      have hbound : n * n * s ≤ n * n * (metres * 1000 + 2) ^ 2 := by
        calc n * n * s ≤ r * r * (a * a + b * b) := hle
          _ ≤ (750 * metres) * (750 * metres) * (n * n + 2 * n) :=
            Nat.mul_le_mul (Nat.mul_le_mul hr hr) hfloor
          _ ≤ n * n * (metres * 1000 + 2) ^ 2 := by
            have hnn : 3 * (n * n + 2 * n) ≤ 5 * (n * n) := by nlinarith only [hlong]
            nlinarith only [hnn, Nat.zero_le (metres * metres), Nat.zero_le (n * n * metres),
              Nat.mul_le_mul_left (metres * metres) hnn]
      exact Nat.le_of_mul_le_mul_left hbound (Nat.mul_pos hn hn)
    · rintro ⟨rfl, hshort, -⟩
      have : a * a ≤ 2 * 2 := Nat.mul_le_mul hshort hshort
      have : 3 * 3 ≤ FloorNorm.norm a a * FloorNorm.norm a a := Nat.mul_le_mul hlong hlong
      omega
  · -- the floored norm is 1 or 2, so that the vector is one of eight
    have ha : a = 0 ∨ a = 1 ∨ a = 2 := by omega
    have hb : b = 0 ∨ b = 1 ∨ b = 2 := by omega
    have hnorm : ∀ n, n * n ≤ a * a + b * b → a * a + b * b < (n + 1) * (n + 1) →
        FloorNorm.norm a b = n := fun n hle hlt => (Nat.eq_sqrt.mpr ⟨hle, hlt⟩).symm
    unfold scaledSq
    generalize hrdef : 10 * metres * percent = r at hr
    have hhalf : 2 * r / 2 = r := Nat.mul_div_cancel_left r (by decide)
    have hlength : r ^ 2 ≤ (750 * metres) ^ 2 := Nat.pow_le_pow_left hr 2
    have hin : r ^ 2 ≤ (metres * 1000 + 2) ^ 2 := Nat.pow_le_pow_left (by omega) 2
    rcases ha with rfl | rfl | rfl
    · rcases hb with rfl | rfl | rfl
      · exact absurd hpos (by decide)
      · rw [hnorm 1 (by decide) (by decide), Nat.zero_mul, Nat.zero_div, Nat.one_mul, Nat.div_one]
        exact iff_of_true (by simpa using hin) (by omega)
      · rw [hnorm 2 (by decide) (by decide), Nat.zero_mul, Nat.zero_div, hhalf]
        exact iff_of_true (by simpa using hin) (by omega)
    · rcases hb with rfl | rfl | rfl
      · rw [hnorm 1 (by decide) (by decide), Nat.zero_mul, Nat.zero_div, Nat.one_mul, Nat.div_one]
        exact iff_of_true (by simpa using hin) (by omega)
      · rw [hnorm 1 (by decide) (by decide), Nat.one_mul, Nat.div_one]
        rw [diagonal_le_iff hmetres hrdef]
        omega
      · rw [hnorm 2 (by decide) (by decide), hhalf, Nat.one_mul]
        refine iff_of_true ?_ (by omega)
        have hquarter : (r / 2 * 2) ^ 2 ≤ r ^ 2 := Nat.pow_le_pow_left (Nat.div_mul_le_self r 2) 2
        nlinarith only [hquarter, hlength, Nat.zero_le metres, Nat.zero_le (metres * metres)]
    · rcases hb with rfl | rfl | rfl
      · rw [hnorm 2 (by decide) (by decide), Nat.zero_mul, Nat.zero_div, hhalf]
        exact iff_of_true (by simpa using hin) (by omega)
      · rw [hnorm 2 (by decide) (by decide), hhalf, Nat.one_mul]
        refine iff_of_true ?_ (by omega)
        have hquarter : (r / 2 * 2) ^ 2 ≤ r ^ 2 := Nat.pow_le_pow_left (Nat.div_mul_le_self r 2) 2
        nlinarith only [hquarter, hlength, Nat.zero_le metres, Nat.zero_le (metres * metres)]
      · rw [hnorm 2 (by decide) (by decide), hhalf]
        rw [diagonal_le_iff hmetres hrdef]
        omega

theorem objectiveInside_iff (lobbySeed objectiveId : UInt64) (playerCount : ℕ) :
    ObjectiveInside lobbySeed objectiveId playerCount ↔ ¬ShortDiagonal lobbySeed objectiveId := by
  have hbounds := playableRadiusM_bounds playerCount
  unfold ObjectiveInside ShortDiagonal
  rw [squaredRadiusMm_objective]
  exact @scaledSq_le_iff_of_ring (playableRadiusM playerCount - 150) _ _ _ (by omega) (by omega)
    (rawAbs_pos _)

/-! ## Respawns -/

namespace BountyWorldPoint

def key (p : BountyWorldPoint) : ℤ ×ₗ ℤ := toLex (p.xMm.toInt, p.zMm.toInt)

theorem key_injective : Function.Injective key := by
  rintro ⟨x, z⟩ ⟨x', z'⟩ h
  have hpair := toLex.injective h
  have hx : x = x' := Int32.toInt_inj.mp (congrArg Prod.fst hpair)
  have hz : z = z' := Int32.toInt_inj.mp (congrArg Prod.snd hpair)
  rw [hx, hz]

/-- Points compare by `x_mm`, then by `z_mm`. -/
instance instLinearOrder : LinearOrder BountyWorldPoint := LinearOrder.lift' key key_injective

/-- `BountyWorldPoint::default`. -/
def center : BountyWorldPoint := ⟨0, 0⟩

theorem squaredDistanceMm_eq_zero_iff {p other : BountyWorldPoint} :
    p.squaredDistanceMm other = 0 ↔ p = other := by
  unfold squaredDistanceMm
  constructor
  · intro h
    have hx : (p.xMm.toInt - other.xMm.toInt).natAbs ^ 2 = 0 := by omega
    have hz : (p.zMm.toInt - other.zMm.toInt).natAbs ^ 2 = 0 := by omega
    have hx := pow_eq_zero_iff (two_ne_zero) |>.mp hx
    have hz := pow_eq_zero_iff (two_ne_zero) |>.mp hz
    exact key_injective (congrArg toLex (Prod.ext (by dsimp only; omega) (by dsimp only; omega)))
  · rintro rfl
    rw [Int.sub_self, Int.sub_self]
    rfl

end BountyWorldPoint

def nearestSq (occupied : List BountyWorldPoint) (candidate : BountyWorldPoint) : ℕ :=
  ((occupied.map candidate.squaredDistanceMm).min?).getD (2 ^ 128 - 1)

def respawnBase (lobbySeed : UInt64) (player : PlayerId) (deaths : UInt16)
    (respawnTick : SimulationTick) : UInt64 :=
  lobbySeed ^^^ player.halves.1 ^^^ (deaths.toUInt64 * 0xbf58476d1ce4e5b9)
    ^^^ (respawnTick * 0x94d049bb133111eb)

def respawnEntropy (base : UInt64) (index : ℕ) : UInt64 :=
  splitmix64 (base ^^^ (UInt64.ofNat index * 0x9e3779b97f4a7c15))

def respawnCandidate (base : UInt64) (playerCount index : ℕ) : BountyWorldPoint :=
  let radiusMm := UInt64.ofNat (playableRadiusM playerCount * 1000)
  let entropy := respawnEntropy base index
  let ringPercent := 70 + entropy % 16
  radialPoint entropy (radiusMm.satMul ringPercent / 100)

def REQUIRED_SQ : ℕ := (RESPAWN_MIN_SEPARATION_M.toNat * 1000) ^ 2

/-- The candidates with the squared distance to the nearest occupied point. -/
def respawnScores (base : UInt64) (playerCount : ℕ) (occupied : List BountyWorldPoint) :
    List (BountyWorldPoint × ℕ) :=
  (List.range RESPAWN_PLACEMENT_CANDIDATES).map fun index =>
    let candidate := respawnCandidate base playerCount index
    (candidate, nearestSq occupied candidate)

def bountyRespawnWorldPoint (lobbySeed : UInt64) (player : PlayerId) (deaths : UInt16)
    (respawnTick : SimulationTick) (playerCount : ℕ) (occupied : List BountyWorldPoint) :
    BountyWorldPoint :=
  let base := respawnBase lobbySeed player deaths respawnTick
  (firstOrBest REQUIRED_SQ (respawnScores base playerCount (orderedSet occupied))
    (.center, 0)).1

/-! ### The nearest occupied point -/

theorem squaredDistanceMm_le (p other : BountyWorldPoint) :
    p.squaredDistanceMm other ≤ 2 ^ 128 - 1 := by
  have hp := p.xMm.toInt_lt
  have hbound : ∀ a b : Int32, (a.toInt - b.toInt).natAbs ≤ 2 ^ 32 := by
    intro a b
    have := a.toInt_lt
    have := a.le_toInt
    have := b.toInt_lt
    have := b.le_toInt
    omega
  have hx : (p.xMm.toInt - other.xMm.toInt).natAbs ^ 2 ≤ (2 ^ 32) ^ 2 :=
    Nat.pow_le_pow_left (hbound _ _) 2
  have hz : (p.zMm.toInt - other.zMm.toInt).natAbs ^ 2 ≤ (2 ^ 32) ^ 2 :=
    Nat.pow_le_pow_left (hbound _ _) 2
  unfold BountyWorldPoint.squaredDistanceMm
  omega

theorem le_nearestSq_iff {occupied : List BountyWorldPoint} {p : BountyWorldPoint} {n : ℕ}
    (hn : n ≤ 2 ^ 128 - 1) :
    n ≤ nearestSq occupied p ↔ ∀ other ∈ occupied, n ≤ p.squaredDistanceMm other := by
  unfold nearestSq
  cases hmin : (occupied.map p.squaredDistanceMm).min? with
  | none =>
    rw [List.min?_eq_none_iff, List.map_eq_nil_iff] at hmin
    subst hmin
    exact iff_of_true hn (List.forall_mem_nil _)
  | some least =>
    rw [List.min?_eq_some_iff] at hmin
    obtain ⟨hmem, hleast⟩ := hmin
    obtain ⟨other, hother, heq⟩ := List.mem_map.mp hmem
    rw [Option.getD_some]
    constructor
    · intro h point hpoint
      exact h.trans (hleast _ (List.mem_map_of_mem hpoint))
    · intro h
      rw [← heq]
      exact h other hother

theorem nearestSq_congr {occupied occupied' : List BountyWorldPoint}
    (h : ∀ p, p ∈ occupied ↔ p ∈ occupied') (p : BountyWorldPoint) :
    nearestSq occupied p = nearestSq occupied' p := by
  have hbound : ∀ l : List BountyWorldPoint, nearestSq l p ≤ 2 ^ 128 - 1 := by
    intro l
    unfold nearestSq
    cases hmin : (l.map p.squaredDistanceMm).min? with
    | none => exact le_refl _
    | some least =>
      rw [List.min?_eq_some_iff] at hmin
      obtain ⟨other, -, heq⟩ := List.mem_map.mp hmin.1
      rw [Option.getD_some, ← heq]
      exact squaredDistanceMm_le p other
  refine Nat.le_antisymm ?_ ?_
  · rw [le_nearestSq_iff (hbound _)]
    intro other hother
    exact (le_nearestSq_iff (hbound _)).mp (le_refl _) other ((h other).mpr hother)
  · rw [le_nearestSq_iff (hbound _)]
    intro other hother
    exact (le_nearestSq_iff (hbound _)).mp (le_refl _) other ((h other).mp hother)

/-- Only an occupied point is at distance zero. -/
theorem nearestSq_eq_zero_iff {occupied : List BountyWorldPoint} {p : BountyWorldPoint} :
    nearestSq occupied p = 0 ↔ p ∈ occupied := by
  have hone := @le_nearestSq_iff occupied p 1 (by decide)
  constructor
  · intro hzero
    by_contra hfree
    have hfar : 1 ≤ nearestSq occupied p := by
      rw [hone]
      intro other hother
      refine Nat.pos_of_ne_zero fun heq => hfree ?_
      rw [BountyWorldPoint.squaredDistanceMm_eq_zero_iff.mp heq]
      exact hother
    omega
  · intro hmem
    by_contra hne
    have hnear := hone.mp (Nat.pos_of_ne_zero hne) p hmem
    rw [BountyWorldPoint.squaredDistanceMm_eq_zero_iff.mpr rfl] at hnear
    exact absurd hnear (by decide)

/-! ### The candidates -/

/-- The squared distance of a candidate from the centre. -/
def ringSq (base : UInt64) (playerCount index : ℕ) : ℕ :=
  let entropy := respawnEntropy base index
  scaledSq (10 * playableRadiusM playerCount * (70 + entropy.toNat % 16)) (rawAbs entropy).1
    (rawAbs entropy).2

theorem squaredRadiusMm_respawnCandidate (base : UInt64) (playerCount index : ℕ) :
    (respawnCandidate base playerCount index).squaredRadiusMm = ringSq base playerCount index := by
  have hbounds := playableRadiusM_bounds playerCount
  unfold respawnCandidate ringSq
  dsimp only
  generalize respawnEntropy base index = entropy
  generalize playableRadiusM playerCount = metres at hbounds ⊢
  have hpercent : (70 + entropy % 16).toNat = 70 + entropy.toNat % 16 := by
    rw [UInt64.toNat_add, UInt64.toNat_mod]
    change (70 + entropy.toNat % 16) % 2 ^ 64 = _
    omega
  have hradius : (UInt64.ofNat (metres * 1000)).toNat = metres * 1000 := by
    rw [UInt64.toNat_ofNat', Nat.mod_eq_of_lt (by omega)]
  have hshare := toNat_share hradius (by omega) (show (70 + entropy % 16).toNat ≤ 100 by omega)
  rw [squaredRadiusMm_radialPoint, hshare, hpercent]
  rw [hshare, hpercent]
  have : 10 * metres * (70 + entropy.toNat % 16) ≤ 10 * 1500 * 85 :=
    Nat.mul_le_mul (by omega) (by omega)
  omega

/-- The floor shortens a candidate by less than two millimetres. -/
theorem le_ringSq (base : UInt64) (playerCount index : ℕ) :
    (700 * playableRadiusM playerCount - 2) ^ 2 ≤ ringSq base playerCount index := by
  have hbounds := playableRadiusM_bounds playerCount
  have hring : 10 * playableRadiusM playerCount * 70 ≤ 10 * playableRadiusM playerCount
      * (70 + (respawnEntropy base index).toNat % 16) := Nat.mul_le_mul_left _ (by omega)
  have hshort : 700 * playableRadiusM playerCount - 2 ≤ 10 * playableRadiusM playerCount
      * (70 + (respawnEntropy base index).toNat % 16) - 2 := by omega
  exact (Nat.pow_le_pow_left hshort 2).trans
    (FloorNorm.le_scaledSq (rawAbs_pos _) (by omega))

theorem center_ne_respawnCandidate (base : UInt64) (playerCount index : ℕ) :
    respawnCandidate base playerCount index ≠ .center := by
  intro hcenter
  have hring := squaredRadiusMm_respawnCandidate base playerCount index
  have hle := le_ringSq base playerCount index
  have hbounds := playableRadiusM_bounds playerCount
  rw [hcenter] at hring
  rw [← hring] at hle
  have hfar : 2 ^ 2 ≤ (700 * playableRadiusM playerCount - 2) ^ 2 :=
    Nat.pow_le_pow_left (by omega) 2
  exact absurd (hfar.trans hle) (by decide)

/-! ### The rule -/

/-- At least 120 metres from every occupied point. -/
def Separated (occupied : List BountyWorldPoint) (p : BountyWorldPoint) : Prop :=
  ∀ other ∈ occupied, REQUIRED_SQ ≤ p.squaredDistanceMm other

def score (occupied : List BountyWorldPoint) (p : BountyWorldPoint) : BountyWorldPoint × ℕ :=
  (p, nearestSq occupied p)

/-- The first separated candidate, or, where there is none, one that no candidate beats. -/
def Picked (base : UInt64) (playerCount : ℕ) (occupied : List BountyWorldPoint) (index : ℕ) :
    Prop :=
  (Separated occupied (respawnCandidate base playerCount index)
      ∧ ∀ earlier < index, ¬Separated occupied (respawnCandidate base playerCount earlier))
    ∨ ∀ other < RESPAWN_PLACEMENT_CANDIDATES,
      ¬Separated occupied (respawnCandidate base playerCount other)
        ∧ ¬Beats (score occupied (respawnCandidate base playerCount other))
          (score occupied (respawnCandidate base playerCount index))

/-- A respawn lies on the ring from 70 to 85 per cent of the radius, up to two millimetres, it is
the first separated candidate or else as far from its nearest occupied point as any, and neither the
order of the occupied points nor their multiplicity matters. -/
structure RespawnPlaced (lobbySeed : UInt64) (player : PlayerId) (deaths : UInt16)
    (respawnTick : SimulationTick) (playerCount : ℕ) (occupied : List BountyWorldPoint) :
    Prop where
  outside : (700 * playableRadiusM playerCount - 2) ^ 2 ≤ (bountyRespawnWorldPoint lobbySeed player
    deaths respawnTick playerCount occupied).squaredRadiusMm
  inside : (bountyRespawnWorldPoint lobbySeed player deaths respawnTick playerCount
    occupied).squaredRadiusMm ≤ (850 * playableRadiusM playerCount + 2) ^ 2
  chosen : ∃ index < RESPAWN_PLACEMENT_CANDIDATES,
    bountyRespawnWorldPoint lobbySeed player deaths respawnTick playerCount occupied
      = respawnCandidate (respawnBase lobbySeed player deaths respawnTick) playerCount index
    ∧ ((Separated occupied (respawnCandidate (respawnBase lobbySeed player deaths respawnTick)
            playerCount index)
        ∧ ∀ earlier < index, ¬Separated occupied (respawnCandidate
            (respawnBase lobbySeed player deaths respawnTick) playerCount earlier))
      ∨ ∀ other < RESPAWN_PLACEMENT_CANDIDATES,
        ¬Separated occupied (respawnCandidate (respawnBase lobbySeed player deaths respawnTick)
            playerCount other)
          ∧ nearestSq occupied (respawnCandidate
              (respawnBase lobbySeed player deaths respawnTick) playerCount other)
            ≤ nearestSq occupied (respawnCandidate
              (respawnBase lobbySeed player deaths respawnTick) playerCount index))
  unordered : ∀ occupied' : List BountyWorldPoint, (∀ p, p ∈ occupied' ↔ p ∈ occupied) →
    bountyRespawnWorldPoint lobbySeed player deaths respawnTick playerCount occupied'
      = bountyRespawnWorldPoint lobbySeed player deaths respawnTick playerCount occupied

/-- The search finds a candidate, and a picked one is within 85 per cent. -/
structure Landed (base : UInt64) (playerCount : ℕ) (occupied : List BountyWorldPoint) : Prop where
  found : ∃ index < RESPAWN_PLACEMENT_CANDIDATES,
    respawnCandidate base playerCount index ∉ occupied
      ∨ respawnCandidate base playerCount index < .center
  short : ∀ index < RESPAWN_PLACEMENT_CANDIDATES, Picked base playerCount occupied index →
    ringSq base playerCount index ≤ (850 * playableRadiusM playerCount + 2) ^ 2

variable {lobbySeed base : UInt64} {player : PlayerId} {deaths : UInt16}
  {respawnTick : SimulationTick} {playerCount : ℕ} {occupied : List BountyWorldPoint}

theorem required_le_nearestSq_iff {p : BountyWorldPoint} :
    REQUIRED_SQ ≤ nearestSq occupied p ↔ Separated occupied p :=
  le_nearestSq_iff (by decide)

theorem nearestSq_orderedSet (p : BountyWorldPoint) :
    nearestSq (orderedSet occupied) p = nearestSq occupied p :=
  nearestSq_congr (fun _ => mem_orderedSet) p

theorem respawnScores_orderedSet (base : UInt64) (playerCount : ℕ)
    (occupied : List BountyWorldPoint) :
    respawnScores base playerCount (orderedSet occupied)
      = (List.range RESPAWN_PLACEMENT_CANDIDATES).map fun index =>
        score occupied (respawnCandidate base playerCount index) := by
  unfold respawnScores
  refine List.map_congr_left fun index _ => ?_
  exact Prod.ext rfl (nearestSq_orderedSet _)

theorem bountyRespawnWorldPoint_congr {occupied' : List BountyWorldPoint}
    (h : ∀ p, p ∈ occupied' ↔ p ∈ occupied) :
    bountyRespawnWorldPoint lobbySeed player deaths respawnTick playerCount occupied'
      = bountyRespawnWorldPoint lobbySeed player deaths respawnTick playerCount occupied := by
  have hscores : ∀ base, respawnScores base playerCount (orderedSet occupied')
      = respawnScores base playerCount (orderedSet occupied) := by
    intro base
    rw [respawnScores_orderedSet, respawnScores_orderedSet]
    refine List.map_congr_left fun index _ => ?_
    exact Prod.ext rfl (nearestSq_congr h _)
  unfold bountyRespawnWorldPoint
  dsimp only
  rw [hscores]

/-- The first separated candidate is where the rider respawns. -/
theorem bountyRespawnWorldPoint_of_separated {index : ℕ}
    (hindex : index < RESPAWN_PLACEMENT_CANDIDATES)
    (hsep : Separated occupied (respawnCandidate
      (respawnBase lobbySeed player deaths respawnTick) playerCount index))
    (hfirst : ∀ earlier < index, ¬Separated occupied (respawnCandidate
      (respawnBase lobbySeed player deaths respawnTick) playerCount earlier)) :
    bountyRespawnWorldPoint lobbySeed player deaths respawnTick playerCount occupied
      = respawnCandidate (respawnBase lobbySeed player deaths respawnTick) playerCount index := by
  unfold bountyRespawnWorldPoint
  dsimp only
  generalize respawnBase lobbySeed player deaths respawnTick = base at hsep hfirst ⊢
  rw [respawnScores_orderedSet]
  obtain ⟨more, hmore⟩ : ∃ more, RESPAWN_PLACEMENT_CANDIDATES = index + (1 + more) :=
    ⟨RESPAWN_PLACEMENT_CANDIDATES - index - 1, by omega⟩
  rw [hmore, List.range_add, List.map_append, Nat.add_comm 1 more, List.range_succ_eq_map,
    List.map_cons, List.map_cons, Nat.add_zero]
  rw [firstOrBest_of_good]
  · rfl
  · intro b hb
    obtain ⟨earlier, hearlier, rfl⟩ := List.mem_map.mp hb
    rw [← not_le]
    exact required_le_nearestSq_iff.not.mpr (hfirst earlier (List.mem_range.mp hearlier))
  · exact required_le_nearestSq_iff.mpr hsep

/-- Where no candidate is separated, the result is the centre or a candidate, and nothing beats
it. -/
theorem bountyRespawnWorldPoint_of_crowded
    (hcrowded : ∀ index < RESPAWN_PLACEMENT_CANDIDATES, ¬Separated occupied (respawnCandidate
      (respawnBase lobbySeed player deaths respawnTick) playerCount index)) :
    ∃ best,
      bountyRespawnWorldPoint lobbySeed player deaths respawnTick playerCount occupied = best.1
      ∧ (best = (.center, 0) ∨ ∃ index < RESPAWN_PLACEMENT_CANDIDATES, best = score occupied
        (respawnCandidate (respawnBase lobbySeed player deaths respawnTick) playerCount index))
      ∧ ¬Beats (.center, 0) best
      ∧ ∀ index < RESPAWN_PLACEMENT_CANDIDATES, ¬Beats (score occupied (respawnCandidate
        (respawnBase lobbySeed player deaths respawnTick) playerCount index)) best := by
  have hpoint : bountyRespawnWorldPoint lobbySeed player deaths respawnTick playerCount occupied
      = (firstOrBest REQUIRED_SQ (respawnScores
          (respawnBase lobbySeed player deaths respawnTick) playerCount (orderedSet occupied))
          (.center, 0)).1 := rfl
  rw [hpoint]
  generalize respawnBase lobbySeed player deaths respawnTick = base at hcrowded ⊢
  rw [respawnScores_orderedSet]
  obtain ⟨hmem, hnone⟩ := @firstOrBest_of_none _ _ REQUIRED_SQ
    ((List.range RESPAWN_PLACEMENT_CANDIDATES).map fun index =>
      score occupied (respawnCandidate base playerCount index)) (.center, 0) (by
    intro a ha
    obtain ⟨index, hindex, rfl⟩ := List.mem_map.mp ha
    rw [← not_le]
    exact required_le_nearestSq_iff.not.mpr (hcrowded index (List.mem_range.mp hindex)))
  refine ⟨_, rfl, ?_, hnone _ List.mem_cons_self, ?_⟩
  · rcases List.mem_cons.mp hmem with heq | hcandidate
    · exact Or.inl heq
    · obtain ⟨index, hindex, heq⟩ := List.mem_map.mp hcandidate
      exact Or.inr ⟨index, List.mem_range.mp hindex, heq.symm⟩
  · intro index hindex
    exact hnone _ (List.mem_cons_of_mem _
      (List.mem_map_of_mem (List.mem_range.mpr hindex)))

/-- A candidate that is free, or before the centre, beats the centre. -/
theorem beats_center_iff {p : BountyWorldPoint} :
    Beats (score occupied p) (.center, 0) ↔ p ∉ occupied ∨ p < .center := by
  unfold Beats score
  dsimp only
  rw [Nat.pos_iff_ne_zero, Ne, nearestSq_eq_zero_iff]
  tauto

/-- A ring point lies outside the smaller circle, whichever candidate it is. -/
theorem outside_respawnCandidate (base : UInt64) (playerCount index : ℕ) :
    (700 * playableRadiusM playerCount - 2) ^ 2
      ≤ (respawnCandidate base playerCount index).squaredRadiusMm := by
  rw [squaredRadiusMm_respawnCandidate]
  exact le_ringSq base playerCount index

theorem respawnPlaced_iff_of_separated {index : ℕ} (hindex : index < RESPAWN_PLACEMENT_CANDIDATES)
    (hsep : Separated occupied (respawnCandidate
      (respawnBase lobbySeed player deaths respawnTick) playerCount index))
    (hfirst : ∀ earlier < index, ¬Separated occupied (respawnCandidate
      (respawnBase lobbySeed player deaths respawnTick) playerCount earlier)) :
    RespawnPlaced lobbySeed player deaths respawnTick playerCount occupied
      ↔ Landed (respawnBase lobbySeed player deaths respawnTick) playerCount occupied := by
  have hpoint := bountyRespawnWorldPoint_of_separated hindex hsep hfirst
  constructor
  · intro h
    refine ⟨⟨index, hindex, Or.inl fun hmem => ?_⟩, ?_⟩
    · have hnear := hsep _ hmem
      rw [BountyWorldPoint.squaredDistanceMm_eq_zero_iff.mpr rfl] at hnear
      exact absurd hnear (by decide)
    · intro other hother hpicked
      -- the first separated candidate is unique
      have heq : other = index := by
        rcases hpicked with ⟨hothersep, hotherfirst⟩ | hcrowded
        · rcases Nat.lt_trichotomy other index with hlt | heq | hgt
          · exact absurd hothersep (hfirst other hlt)
          · exact heq
          · exact absurd hsep (hotherfirst index hgt)
        · exact absurd hsep (hcrowded index hindex).1
      have hinside := h.inside
      rw [hpoint, squaredRadiusMm_respawnCandidate] at hinside
      rw [heq]
      exact hinside
  · intro h
    refine ⟨?_, ?_, ⟨index, hindex, hpoint, Or.inl ⟨hsep, hfirst⟩⟩,
      fun _ hsame => bountyRespawnWorldPoint_congr hsame⟩
    · rw [hpoint]
      exact outside_respawnCandidate _ _ _
    · rw [hpoint, squaredRadiusMm_respawnCandidate]
      exact h.short index hindex (Or.inl ⟨hsep, hfirst⟩)

theorem respawnPlaced_iff_of_crowded
    (hcrowded : ∀ index < RESPAWN_PLACEMENT_CANDIDATES, ¬Separated occupied (respawnCandidate
      (respawnBase lobbySeed player deaths respawnTick) playerCount index)) :
    RespawnPlaced lobbySeed player deaths respawnTick playerCount occupied
      ↔ Landed (respawnBase lobbySeed player deaths respawnTick) playerCount occupied := by
  obtain ⟨best, hpoint, hbest, hcenter, hnone⟩ := bountyRespawnWorldPoint_of_crowded hcrowded
  constructor
  · intro h
    -- the centre is not a candidate, so that a candidate beats it
    obtain ⟨index, hindex, rfl⟩ : ∃ index < RESPAWN_PLACEMENT_CANDIDATES, best = score occupied
        (respawnCandidate (respawnBase lobbySeed player deaths respawnTick) playerCount index) := by
      rcases hbest with rfl | hcandidate
      · obtain ⟨index, -, hchosen, -⟩ := h.chosen
        exact absurd (hchosen.symm.trans hpoint) (center_ne_respawnCandidate _ _ _)
      · exact hcandidate
    refine ⟨⟨index, hindex, ?_⟩, ?_⟩
    · rw [← beats_center_iff]
      by_contra hbehind
      rw [not_beats_iff] at hcenter hbehind
      have hzero : nearestSq occupied (respawnCandidate
          (respawnBase lobbySeed player deaths respawnTick) playerCount index) = 0 := by
        rcases hbehind with hlt | ⟨heq, -⟩
        · exact absurd hlt (Nat.not_lt_zero _)
        · exact heq
      rcases hcenter with hlt | ⟨-, hle⟩
      · exact absurd hzero hlt.ne'
      · rcases hbehind with hlt | ⟨-, hge⟩
        · exact absurd hlt (Nat.not_lt_zero _)
        · exact center_ne_respawnCandidate _ _ _ (le_antisymm hle hge)
    · intro other hother hpicked
      -- neither beats the other, so that they are one point
      have hunbeaten : ¬Beats (score occupied (respawnCandidate
          (respawnBase lobbySeed player deaths respawnTick) playerCount index))
          (score occupied (respawnCandidate
            (respawnBase lobbySeed player deaths respawnTick) playerCount other)) := by
        rcases hpicked with ⟨hsep, -⟩ | hpicked
        · exact absurd hsep (hcrowded other hother)
        · exact (hpicked index hindex).2
      have hsame := eq_of_not_beats hunbeaten (hnone other hother)
      have hinside := h.inside
      rw [hpoint] at hinside
      rw [← squaredRadiusMm_respawnCandidate]
      rw [show respawnCandidate (respawnBase lobbySeed player deaths respawnTick) playerCount other
        = respawnCandidate (respawnBase lobbySeed player deaths respawnTick) playerCount index from
        (congrArg Prod.fst hsame).symm]
      exact hinside
  · intro h
    obtain ⟨found, hfound, hahead⟩ := h.found
    rw [← beats_center_iff] at hahead
    obtain ⟨index, hindex, rfl⟩ : ∃ index < RESPAWN_PLACEMENT_CANDIDATES, best = score occupied
        (respawnCandidate (respawnBase lobbySeed player deaths respawnTick) playerCount index) := by
      rcases hbest with rfl | hcandidate
      · exact absurd hahead (hnone found hfound)
      · exact hcandidate
    have hpicked : Picked (respawnBase lobbySeed player deaths respawnTick) playerCount occupied
        index := Or.inr fun other hother => ⟨hcrowded other hother, hnone other hother⟩
    refine ⟨?_, ?_, ⟨index, hindex, hpoint, Or.inr fun other hother =>
      ⟨hcrowded other hother, le_of_not_beats (hnone other hother)⟩⟩,
      fun _ hsame => bountyRespawnWorldPoint_congr hsame⟩
    · rw [hpoint]
      exact outside_respawnCandidate _ _ _
    · rw [hpoint]
      change (respawnCandidate _ _ _).squaredRadiusMm ≤ _
      rw [squaredRadiusMm_respawnCandidate]
      exact h.short index hindex hpicked

theorem respawnPlaced_iff (lobbySeed : UInt64) (player : PlayerId) (deaths : UInt16)
    (respawnTick : SimulationTick) (playerCount : ℕ) (occupied : List BountyWorldPoint) :
    RespawnPlaced lobbySeed player deaths respawnTick playerCount occupied
      ↔ Landed (respawnBase lobbySeed player deaths respawnTick) playerCount occupied := by
  by_cases hsome : ∃ index, index < RESPAWN_PLACEMENT_CANDIDATES ∧ Separated occupied
      (respawnCandidate (respawnBase lobbySeed player deaths respawnTick) playerCount index)
  · classical
    obtain ⟨hindex, hsep⟩ := Nat.find_spec hsome
    refine respawnPlaced_iff_of_separated hindex hsep fun earlier hearlier hsooner => ?_
    exact Nat.find_min hsome hearlier ⟨hearlier.trans hindex, hsooner⟩
  · refine respawnPlaced_iff_of_crowded fun index hindex hsep => ?_
    exact hsome ⟨index, hindex, hsep⟩

/-- The length a candidate is drawn at, over the floored norm of its raw vector, stretches the vector
to no more than 85 per cent of the radius and `slack` millimetres. -/
def Unstretched (slack : ℕ) (base : UInt64) (playerCount index : ℕ) : Prop :=
  let entropy := respawnEntropy base index
  let raw := rawAbs entropy
  (10 * playableRadiusM playerCount * (70 + entropy.toNat % 16)) ^ 2
      * (raw.1 * raw.1 + raw.2 * raw.2)
    ≤ (FloorNorm.norm raw.1 raw.2 * (850 * playableRadiusM playerCount + slack)) ^ 2

/-- Some candidate is free, or comes before the centre, and a picked one is not stretched. -/
structure Regular (slack : ℕ) (base : UInt64) (playerCount : ℕ) (occupied : List BountyWorldPoint) :
    Prop where
  found : ∃ index < RESPAWN_PLACEMENT_CANDIDATES,
    respawnCandidate base playerCount index ∉ occupied
      ∨ respawnCandidate base playerCount index < .center
  unstretched : ∀ index < RESPAWN_PLACEMENT_CANDIDATES, Picked base playerCount occupied index →
    Unstretched slack base playerCount index

theorem ringSq_le_of_unstretched {index : ℕ} (h : Unstretched 2 base playerCount index) :
    ringSq base playerCount index ≤ (850 * playableRadiusM playerCount + 2) ^ 2 := by
  unfold Unstretched at h
  unfold ringSq
  dsimp only at h ⊢
  have hpos := FloorNorm.norm_pos (rawAbs_pos (respawnEntropy base index))
  have hscaled := FloorNorm.mul_scaledSq_le (10 * playableRadiusM playerCount
    * (70 + (respawnEntropy base index).toNat % 16)) (rawAbs (respawnEntropy base index)).1
    (rawAbs (respawnEntropy base index)).2
  rw [← sq, ← sq] at hscaled
  rw [Nat.mul_pow (FloorNorm.norm _ _)] at h
  exact Nat.le_of_mul_le_mul_left (hscaled.trans h) (Nat.pow_pos hpos)

/-- Truncation hides a stretch of less than two millimetres. -/
theorem unstretched_of_ringSq_le {index : ℕ}
    (h : ringSq base playerCount index ≤ (850 * playableRadiusM playerCount + 2) ^ 2) :
    Unstretched 4 base playerCount index :=
  FloorNorm.mul_le_of_scaledSq_le (rawAbs_pos (respawnEntropy base index)) h

/-- **Placements are where they should be where the floored norm does not stretch their raw vector off
the ring, and the search finds a candidate**: an objective exactly there, and a respawn exactly there
up to the two millimetres that the rounding of its coordinates may hide. -/
theorem placements_stay (lobbySeed objectiveId : UInt64) (player : PlayerId) (deaths : UInt16)
    (respawnTick : SimulationTick) (playerCount : ℕ) (occupied : List BountyWorldPoint) :
    (ObjectiveInside lobbySeed objectiveId playerCount ↔ ¬ShortDiagonal lobbySeed objectiveId)
      ∧ (Regular 2 (respawnBase lobbySeed player deaths respawnTick) playerCount occupied →
        RespawnPlaced lobbySeed player deaths respawnTick playerCount occupied)
      ∧ (RespawnPlaced lobbySeed player deaths respawnTick playerCount occupied →
        Regular 4 (respawnBase lobbySeed player deaths respawnTick) playerCount occupied) := by
  refine ⟨objectiveInside_iff lobbySeed objectiveId playerCount, fun h => ?_, fun h => ?_⟩
  · exact (respawnPlaced_iff ..).mpr ⟨h.found, fun index hindex hpicked =>
      ringSq_le_of_unstretched (h.unstretched index hindex hpicked)⟩
  · have hlanded := (respawnPlaced_iff ..).mp h
    exact ⟨hlanded.found, fun index hindex hpicked =>
      unstretched_of_ringSq_le (hlanded.short index hindex hpicked)⟩

/-- At eight riders, an objective drawn on the raw vector `(1, 1)` at 74 per cent is less than 150
metres from the boundary, and a first respawn lies outside the ring by more than two millimetres. -/
theorem placements_not_always_stay :
    ¬ObjectiveInside 12747281065236475889 1 8
      ∧ ¬RespawnPlaced 582 (.ofTail 1) 0 0 8 [] := by
  refine ⟨?_, fun h => absurd h.inside ?_⟩
  · unfold ObjectiveInside
    decide +kernel
  · decide +kernel

end Spurfire
