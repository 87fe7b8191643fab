import Spurfire.Protocol.Combat
import Mathlib.Tactic.Ring

/-!
# Damage over distance

`WeaponStats::damage_at` of `combat.rs`: full damage up to the falloff, a rounded line inside it,
minimal damage beyond it, and a second rounding for headshots.

* `weightedDamage_anti`, `interpolated_anti`: the line falls;
* `damageAt_body`: the three parts of the curve, where the word conversion is never at a loss;
* `damage_falloff` is the result for every row with a proper falloff.
-/

namespace Spurfire

namespace WeaponStats

variable (w : WeaponStats)

/-- The length of the falloff. -/
def falloffSpan : ℕ := w.falloffEndMm.toNat - w.falloffStartMm.toNat

/-- Damage at the start and at the end, each by how near it is. -/
def weightedDamage (into : ℕ) : ℕ :=
  w.bodyDamage.toNat * (w.falloffSpan - into) + w.minimumBodyDamage.toNat * into

/-- The line inside the falloff, rounded half up. -/
def interpolated (into : ℕ) : ℕ := (w.weightedDamage into + w.falloffSpan / 2) / w.falloffSpan

/-- A row whose falloff has a length, and does not raise the damage. -/
structure Falls : Prop where
  span : w.falloffStartMm < w.falloffEndMm
  damage : w.minimumBodyDamage ≤ w.bodyDamage

variable {w}

theorem Falls.span_pos (h : w.Falls) : 0 < w.falloffSpan :=
  Nat.sub_pos_of_lt (UInt32.lt_iff_toNat_lt.mp h.span)

theorem Falls.damage_le (h : w.Falls) : w.minimumBodyDamage.toNat ≤ w.bodyDamage.toNat :=
  UInt16.le_iff_toNat_le.mp h.damage

/-! ## The line -/

theorem weightedDamage_anti (h : w.Falls) {near far : ℕ} (hle : near ≤ far)
    (hfar : far ≤ w.falloffSpan) : w.weightedDamage far ≤ w.weightedDamage near := by
  obtain ⟨k, rfl⟩ := Nat.exists_eq_add_of_le hle
  have hsplit : w.falloffSpan - near = w.falloffSpan - (near + k) + k := by omega
  unfold weightedDamage
  calc w.bodyDamage.toNat * (w.falloffSpan - (near + k)) + w.minimumBodyDamage.toNat * (near + k)
      = w.bodyDamage.toNat * (w.falloffSpan - (near + k)) + w.minimumBodyDamage.toNat * k
        + w.minimumBodyDamage.toNat * near := by ring
    _ ≤ w.bodyDamage.toNat * (w.falloffSpan - (near + k)) + w.bodyDamage.toNat * k
        + w.minimumBodyDamage.toNat * near :=
      Nat.add_le_add_right (Nat.add_le_add_left (Nat.mul_le_mul_right k h.damage_le) _) _
    _ = w.bodyDamage.toNat * (w.falloffSpan - near) + w.minimumBodyDamage.toNat * near := by
      rw [hsplit, Nat.mul_add]

theorem interpolated_anti (h : w.Falls) {near far : ℕ} (hle : near ≤ far)
    (hfar : far ≤ w.falloffSpan) : w.interpolated far ≤ w.interpolated near :=
  Nat.div_le_div_right (Nat.add_le_add_right (weightedDamage_anti h hle hfar) _)

/-- A whole number of spans is not rounded. -/
theorem rounded_mul {span : ℕ} (hspan : 0 < span) (damage : ℕ) :
    (damage * span + span / 2) / span = damage := by
  rw [Nat.add_comm, Nat.add_mul_div_right _ _ hspan, Nat.div_eq_of_lt (by omega), Nat.zero_add]

/-- At its start the line has the full damage. -/
theorem interpolated_start (h : w.Falls) : w.interpolated 0 = w.bodyDamage.toNat := by
  unfold interpolated weightedDamage
  rw [Nat.sub_zero, Nat.mul_zero, Nat.add_zero, rounded_mul h.span_pos]

/-- At its end the line has the minimal damage. -/
theorem interpolated_end (h : w.Falls) :
    w.interpolated w.falloffSpan = w.minimumBodyDamage.toNat := by
  unfold interpolated weightedDamage
  rw [Nat.sub_self, Nat.mul_zero, Nat.zero_add, rounded_mul h.span_pos]

theorem interpolated_between (h : w.Falls) {into : ℕ} (hinto : into ≤ w.falloffSpan) :
    w.minimumBodyDamage.toNat ≤ w.interpolated into
      ∧ w.interpolated into ≤ w.bodyDamage.toNat := by
  have hend := interpolated_anti h hinto le_rfl
  have hstart := interpolated_anti h (Nat.zero_le into) hinto
  rw [interpolated_end h] at hend
  rw [interpolated_start h] at hstart
  exact ⟨hend, hstart⟩

/-- No product, no sum and no rounding of the line leaves the word. -/
theorem weightedDamage_fits (w : WeaponStats) {into : ℕ} (hinto : into ≤ w.falloffSpan) :
    w.weightedDamage into + w.falloffSpan / 2 < 2 ^ 64 := by
  have hspan : w.falloffSpan < 2 ^ 32 := by
    have := w.falloffEndMm.toNat_lt
    unfold falloffSpan
    omega
  have hbody : w.bodyDamage.toNat * (w.falloffSpan - into) ≤ 2 ^ 16 * 2 ^ 32 :=
    Nat.mul_le_mul w.bodyDamage.toNat_lt.le (by omega)
  have hminimum : w.minimumBodyDamage.toNat * into ≤ 2 ^ 16 * 2 ^ 32 :=
    Nat.mul_le_mul w.minimumBodyDamage.toNat_lt.le (by omega)
  unfold weightedDamage
  omega

/-! ## The curve -/

/-- How far into the falloff a distance is: not at all, or all the way, outside it. -/
def into (w : WeaponStats) (distanceMm : UInt32) : ℕ :=
  min w.falloffSpan (distanceMm.toNat - w.falloffStartMm.toNat)

theorem into_mono (w : WeaponStats) {near far : UInt32} (h : near ≤ far) :
    w.into near ≤ w.into far := by
  have := UInt32.le_iff_toNat_le.mp h
  unfold into
  omega

/-- Body damage is the line, continued flat, and the fallback of the conversion is not taken. -/
theorem damageAt_body (h : w.Falls) (distanceMm : UInt32) :
    (w.damageAt distanceMm .body).toNat = w.interpolated (w.into distanceMm) := by
  have hspan := UInt32.lt_iff_toNat_lt.mp h.span
  unfold damageAt into
  dsimp only
  by_cases hnear : distanceMm ≤ w.falloffStartMm
  · have hle := UInt32.le_iff_toNat_le.mp hnear
    rw [if_pos hnear, Nat.sub_eq_zero_of_le hle, Nat.min_zero, interpolated_start h]
  rw [if_neg hnear]
  rw [UInt32.le_iff_toNat_le] at hnear
  by_cases hfar : w.falloffEndMm ≤ distanceMm
  · have hle := UInt32.le_iff_toNat_le.mp hfar
    have hall : min w.falloffSpan (distanceMm.toNat - w.falloffStartMm.toNat) = w.falloffSpan := by
      unfold falloffSpan
      omega
    rw [if_pos hfar, hall, interpolated_end h]
  · rw [if_neg hfar]
    rw [UInt32.le_iff_toNat_le] at hfar
    have hinto : (distanceMm - w.falloffStartMm).toNat
        = distanceMm.toNat - w.falloffStartMm.toNat :=
      UInt32.toNat_sub_of_le _ _ (UInt32.le_iff_toNat_le.mpr (by omega))
    have hlength : (w.falloffEndMm - w.falloffStartMm).toNat = w.falloffSpan :=
      UInt32.toNat_sub_of_le _ _ (UInt32.le_iff_toNat_le.mpr (by omega))
    have hinside : distanceMm.toNat - w.falloffStartMm.toNat ≤ w.falloffSpan := by
      unfold falloffSpan
      omega
    have hword := w.bodyDamage.toNat_lt
    have hbetween := (interpolated_between h hinside).2
    rw [hinto, hlength, min_eq_right hinside]
    change (u16OrElse (w.interpolated (distanceMm.toNat - w.falloffStartMm.toNat)) _).toNat = _
    unfold u16OrElse
    rw [if_pos (by omega)]
    exact UInt16.toNat_ofNat_of_lt' (show _ < 2 ^ 16 by omega)

/-- The second rounding of a head shot, before the word conversion. -/
def headshot (w : WeaponStats) (body : UInt16) : ℕ :=
  (body.toNat * w.headshotMultiplierMilli.toNat + 500) / 1000

theorem toNat_u16OrElse (v : ℕ) : (u16OrElse v 0xffff).toNat = min v (2 ^ 16 - 1) := by
  unfold u16OrElse
  split_ifs with hfits
  · rw [UInt16.toNat_ofNat_of_lt' hfits]
    omega
  · have : (0xffff : UInt16).toNat = 2 ^ 16 - 1 := rfl
    omega

theorem damageAt_head (w : WeaponStats) (distanceMm : UInt32) :
    (w.damageAt distanceMm .head).toNat
      = min (w.headshot (w.damageAt distanceMm .body)) (2 ^ 16 - 1) :=
  toNat_u16OrElse _

theorem headshot_fits (w : WeaponStats) (body : UInt16) :
    body.toNat * w.headshotMultiplierMilli.toNat + 500 < 2 ^ 64 := by
  have hscaled : body.toNat * w.headshotMultiplierMilli.toNat ≤ 2 ^ 16 * 2 ^ 32 :=
    Nat.mul_le_mul body.toNat_lt.le w.headshotMultiplierMilli.toNat_lt.le
  omega

theorem headshot_mono (w : WeaponStats) {low high : UInt16} (h : low.toNat ≤ high.toNat) :
    w.headshot low ≤ w.headshot high :=
  Nat.div_le_div_right (Nat.add_le_add_right (Nat.mul_le_mul_right _ h) 500)

/-- A multiplier of one or more does not lose damage. -/
theorem le_headshot (hmultiplier : 1000 ≤ w.headshotMultiplierMilli.toNat) (body : UInt16) :
    body.toNat ≤ w.headshot body := by
  unfold headshot
  rw [Nat.le_div_iff_mul_le (by decide)]
  exact (Nat.mul_le_mul_left body.toNat hmultiplier).trans (Nat.le_add_right _ 500)

theorem damageAt_anti (h : w.Falls) {near far : UInt32} (hle : near ≤ far) (zone : HitZone) :
    w.damageAt far zone ≤ w.damageAt near zone := by
  have hbody : (w.damageAt far .body).toNat ≤ (w.damageAt near .body).toNat := by
    rw [damageAt_body h, damageAt_body h]
    exact interpolated_anti h (w.into_mono hle) (min_le_left _ _)
  rw [UInt16.le_iff_toNat_le]
  cases zone with
  | body => exact hbody
  | head =>
    rw [damageAt_head, damageAt_head]
    exact min_le_min_right _ (w.headshot_mono hbody)

theorem damageAt_body_le_head (hmultiplier : 1000 ≤ w.headshotMultiplierMilli)
    (distanceMm : UInt32) : w.damageAt distanceMm .body ≤ w.damageAt distanceMm .head := by
  have hword := (w.damageAt distanceMm .body).toNat_lt
  have hscaled := le_headshot (UInt32.le_iff_toNat_le.mp hmultiplier)
    (w.damageAt distanceMm .body)
  rw [UInt16.le_iff_toNat_le, damageAt_head]
  exact le_min hscaled (by omega)

end WeaponStats

open WeaponStats

/-- **Damage falls with distance.**  For every row with a proper falloff: more distance is no more
damage in either zone; body damage stays between the minimal and the full damage, as the rounded
line does, which meets both flat parts; the conversion of the line to a word succeeds; no
intermediate leaves a word of 64 bits; and where the multiplier is one or more, a head shot is no
weaker than a body shot. -/
theorem damage_falloff (w : WeaponStats) (hspan : w.falloffStartMm < w.falloffEndMm)
    (hdamage : w.minimumBodyDamage ≤ w.bodyDamage) (near far : UInt32) (hle : near ≤ far) :
    (∀ zone, w.damageAt far zone ≤ w.damageAt near zone)
    ∧ (w.minimumBodyDamage ≤ w.damageAt near .body ∧ w.damageAt near .body ≤ w.bodyDamage)
    ∧ (w.damageAt near .body).toNat = w.interpolated (w.into near)
    ∧ (w.interpolated 0 = w.bodyDamage.toNat
      ∧ w.interpolated w.falloffSpan = w.minimumBodyDamage.toNat)
    ∧ (∀ into ≤ w.falloffSpan, w.weightedDamage into + w.falloffSpan / 2 < 2 ^ 64
      ∧ w.interpolated into < 2 ^ 16)
    ∧ (∀ body : UInt16, body.toNat * w.headshotMultiplierMilli.toNat + 500 < 2 ^ 64)
    ∧ (1000 ≤ w.headshotMultiplierMilli → w.damageAt near .body ≤ w.damageAt near .head) := by
  have h : w.Falls := ⟨hspan, hdamage⟩
  have hbetween := interpolated_between h (min_le_left _ _ : w.into near ≤ w.falloffSpan)
  have hword := w.bodyDamage.toNat_lt
  refine ⟨fun zone => damageAt_anti h hle zone, ⟨?_, ?_⟩, damageAt_body h near,
    ⟨interpolated_start h, interpolated_end h⟩, fun into hinto => ⟨w.weightedDamage_fits hinto, ?_⟩,
    w.headshot_fits, fun hmultiplier => damageAt_body_le_head hmultiplier near⟩
  · rw [UInt16.le_iff_toNat_le, damageAt_body h]
    exact hbetween.1
  · rw [UInt16.le_iff_toNat_le, damageAt_body h]
    exact hbetween.2
  · exact (interpolated_between h hinto).2.trans_lt hword

theorem damage_falloff_dustwalker :
    DUSTWALKER_STATS.damageAt 90000 .head ≤ DUSTWALKER_STATS.damageAt 75000 .head :=
  (damage_falloff DUSTWALKER_STATS (by decide) (by decide) 75000 90000 (by decide)).1 .head

end Spurfire
