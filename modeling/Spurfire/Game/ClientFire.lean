import Spurfire.Game.SpreadSync
import Spurfire.Protocol.FireLaw
import Spurfire.Protocol.ShotRuns

/-!
# Client fire against the authority

A shot is prepared twice: by the client, which draws it and sends a `ShotCommand`, and by the
authority, on its own kernel of the same shooter.

* `CombatKernel.deflection`: the spread and sway of the next shot, as a function of its aim;
* `MountedWeaponController.requestFire_drawn`: what an accepted request draws and sends;
* **`client_prediction_iff`**: the authority resolves the drawn direction exactly where deflecting
  the aim twice is deflecting it once, for the command carries the deflected direction.
-/

namespace Spurfire

open Std (ExtTreeMap)

namespace CombatKernel

/-- Where the next shot of the kernel at `tick` goes, by its aim. -/
def deflection (B : Ballistics) (k : CombatKernel) (tick : SimulationTick) (riding : RidingState)
    (direction : QuantizedDirection) : Option QuantizedDirection :=
  match k.diveGate tick riding with
  | .error _ => none
  | .ok dive =>
    B.spreadDirection direction k.nextSpreadSeed
      (effectiveSpreadMillidegrees k.equipped.stats (shotHandling riding dive))
      (shotSway B k tick riding dive)

variable {B : Ballistics} {k k' : CombatKernel} {tick : SimulationTick}
  {direction : QuantizedDirection} {riding : RidingState} {seed : UInt64} {prepared : PreparedShot}

/-- The shot of an advanced kernel, in the terms of the kernel before. -/
theorem fireShot_advanced {advanced : CombatKernel} (hsame : SameShots k advanced)
    (hequipped : advanced.equipped = k.equipped) {dive : Option DiveFireContext}
    (h : advanced.fireShot B tick direction riding dive = (.ok prepared, k')) :
    B.spreadDirection direction k.nextSpreadSeed
        (effectiveSpreadMillidegrees k.equipped.stats (shotHandling riding dive))
        (shotSway B k tick riding dive) = some prepared.resolvedDirection
      ∧ prepared.tick = tick ∧ k'.shooterPeerId = k.shooterPeerId := by
  have hsway : shotSway B advanced tick riding dive = shotSway B k tick riding dive := by
    unfold shotSway
    rw [hsame.tickRate]
  unfold fireShot at h
  rw [hsame.nextSpreadSeed, hequipped, hsway] at h
  dsimp only at h
  cases hspread : B.spreadDirection direction k.nextSpreadSeed
      (effectiveSpreadMillidegrees k.equipped.stats (shotHandling riding dive))
      (shotSway B k tick riding dive) with
  | none =>
    rw [hspread] at h
    exact nomatch (Prod.mk.inj h).1
  | some resolved =>
    rw [hspread] at h
    obtain ⟨hprepared, rfl⟩ := Prod.mk.inj h
    obtain rfl := Except.ok.inj hprepared
    exact ⟨rfl, rfl, hsame.shooterPeerId⟩

/-- An accepted shot goes where its aim is deflected. -/
theorem deflection_of_accepted
    (h : k.requestFireDetailed B tick direction riding seed = (.ok prepared, k')) :
    k.deflection B tick riding direction = some prepared.resolvedDirection
      ∧ prepared.tick = tick ∧ k'.shooterPeerId = k.shooterPeerId := by
  unfold requestFireDetailed at h
  unfold deflection
  cases hgate : k.diveGate tick riding with
  | error rejection =>
    rw [hgate] at h
    exact nomatch (Prod.mk.inj h).1
  | ok dive =>
    have hsame := k.sameShots_advanceTo tick riding
    have hequipped := (k.advanceTo_frame tick riding).2
    rw [hgate] at h
    dsimp only at h ⊢
    match hadvance : k.advanceTo tick riding with
    | (none, advanced) =>
      rw [hadvance] at h
      exact nomatch (Prod.mk.inj h).1
    | (some outcome, advanced) =>
      rw [hadvance] at h hsame hequipped
      dsimp only at h hsame hequipped
      unfold fireAdvanced at h
      cases hrefusal : advanced.fireRefusal tick direction riding seed with
      | some reason =>
        rw [hrefusal] at h
        exact nomatch (Prod.mk.inj h).1
      | none =>
        rw [hrefusal, Option.elim_none] at h
        exact fireShot_advanced hsame hequipped h

end CombatKernel

namespace MountedWeaponController

/-- An accepted request draws the deflected aim, and sends that direction as the aim. -/
theorem requestFire_drawn {B : Ballistics} {c c' : MountedWeaponController} {request : FireRequest}
    (h : c.requestFire B request = (true, c')) :
    ∃ tick direction drawn command, tryU64 request.tick = some tick
      ∧ request.direction = some direction
      ∧ c.kernel.deflection B tick c.riding direction = some drawn.direction
      ∧ c'.pendingLocalShot = some drawn ∧ c'.pendingWireCommand = some command
      ∧ command.tick = tick ∧ command.shooterPeerId = c.kernel.shooterPeerId
      ∧ command.direction = drawn.direction := by
  unfold requestFire at h
  cases hinputs : c.fireInputs request with
  | none =>
    rw [hinputs] at h
    exact nomatch (Prod.mk.inj h).1
  | some inputs =>
    obtain ⟨tick, origin, direction, rider⟩ := inputs
    rw [hinputs] at h
    dsimp only at h
    have hrequest : tryU64 request.tick = some tick ∧ request.direction = some direction := by
      unfold fireInputs at hinputs
      split at hinputs
      · rename_i htick _ hdirection _ _
        split_ifs at hinputs
        simp only [Option.some.injEq, Prod.mk.injEq] at hinputs
        obtain ⟨rfl, -, rfl, -⟩ := hinputs
        exact ⟨htick, hdirection⟩
      · exact nomatch hinputs
    rcases hfire : c.kernel.requestFireDetailed B tick direction c.riding c.kernel.nextSpreadSeed with
      ⟨rejection | prepared, kernel⟩
    · rw [hfire] at h
      exact nomatch (Prod.mk.inj h).1
    · rw [hfire] at h
      dsimp only at h
      obtain ⟨hdeflected, htick, hshooter⟩ := CombatKernel.deflection_of_accepted hfire
      unfold bookShot at h
      dsimp only at h
      split_ifs at h
      · exact nomatch (Prod.mk.inj h).1
      · obtain ⟨-, rfl⟩ := Prod.mk.inj h
        exact ⟨tick, direction, _, _, hrequest.1, hrequest.2, hdeflected, rfl, rfl, htick, hshooter,
          rfl⟩

end MountedWeaponController

/-- The authority resolves the deflection of the direction it was sent. -/
theorem CombatAuthority.resolvedDirection_of_accepted {T : Type} {B : Ballistics}
    {R : TargetRange T} {a : CombatAuthority} {command : ShotCommand}
    {authorityTick : SimulationTick} {rider : RiderSnapshot} {targets : T}
    {shooter : AuthorityShooter} (hknown : a.shooters[command.shooterPeerId]? = some shooter)
    (h : (a.validateShot B R command authorityTick rider targets).1.result.outcome ≠ .reject) :
    (a.validateShot B R command authorityTick rider targets).1.result.resolvedDirection
        = shooter.kernel.deflection B command.tick rider.riding command.direction := by
  unfold validateShot at h ⊢
  rw [hknown] at h ⊢
  dsimp only at h ⊢
  cases htick : a.tickRefusal shooter command authorityTick rider with
  | some reason =>
    rw [htick] at h
    exact absurd rfl h
  | none =>
    rw [htick] at h
    dsimp only at h ⊢
    cases hcommand : commandRefusal shooter command rider with
    | some reason =>
      rw [hcommand] at h
      exact absurd rfl h
    | none =>
      rw [hcommand] at h
      dsimp only at h ⊢
      rcases hfire : shooter.kernel.requestFireDetailed B command.tick command.direction
        rider.riding command.spreadSeed with ⟨rejection | prepared, kernel⟩
      · rw [hfire] at h
        exact absurd rfl h
      · rw [(CombatKernel.deflection_of_accepted hfire).1]
        rfl

/-- **Prediction and authority.**  Where both accept a shot from the same kernel, they agree on its
direction if and only if deflecting the aim a second time changes nothing. -/
theorem client_prediction_iff {T : Type} (B : Ballistics) (R : TargetRange T)
    {c c' : MountedWeaponController} {request : FireRequest} {tick : SimulationTick}
    {direction : QuantizedDirection} {drawn : PendingLocalShot} {command : ShotCommand}
    (htick : tryU64 request.tick = some tick) (hdirection : request.direction = some direction)
    (hfire : c.requestFire B request = (true, c')) (hdrawn : c'.pendingLocalShot = some drawn)
    (hcommand : c'.pendingWireCommand = some command) {a : CombatAuthority}
    {shooter : AuthorityShooter} (hknown : a.shooters[c.kernel.shooterPeerId]? = some shooter)
    (hsame : shooter.kernel = c.kernel) {authorityTick : SimulationTick} {rider : RiderSnapshot}
    (hriding : rider.riding = c.riding) {targets : T}
    (hresolved : (a.validateShot B R command authorityTick rider targets).1.result.outcome
      ≠ .reject) :
    (a.validateShot B R command authorityTick rider targets).1.result.resolvedDirection
        = some drawn.direction
      ↔ (c.kernel.deflection B tick c.riding direction).bind (c.kernel.deflection B tick c.riding)
        = c.kernel.deflection B tick c.riding direction := by
  obtain ⟨tick', direction', drawn', command', htick', hdirection', hdeflected, hdrawn', hcommand',
    hcommandTick, hcommandShooter, hsent⟩ := MountedWeaponController.requestFire_drawn hfire
  obtain rfl := Option.some.inj (htick'.symm.trans htick)
  obtain rfl := Option.some.inj (hdirection'.symm.trans hdirection)
  obtain rfl := Option.some.inj (hdrawn'.symm.trans hdrawn)
  obtain rfl := Option.some.inj (hcommand'.symm.trans hcommand)
  rw [← hcommandShooter] at hknown
  rw [CombatAuthority.resolvedDirection_of_accepted hknown hresolved, hsame, hriding, hcommandTick,
    hsent, hdeflected, Option.bind_some]

open SpreadLink

/-- The first forward shot of the pinned client. -/
def pinnedFire : Bool × MountedWeaponController :=
  pinnedLink.client.requestFire pinnedSpread (forwardRequest 0)

/-- The command of that shot, whose direction is already deflected. -/
def pinnedCommand : ShotCommand where
  tick := 0
  shooterPeerId := pinnedShooter
  weaponId := .dustwalker
  origin := ⟨0, 0, 0⟩
  direction := ⟨9445, 6122, -999937⟩
  spreadSeed := 0xe7fd08017441664a
  claimedTarget := none

theorem pinnedFire_eq :
    pinnedLink.client.requestFire pinnedSpread (forwardRequest 0) = (true, pinnedFire.2) := by
  have htrue : pinnedFire.1 = true := by decide +kernel
  rw [← htrue]
  rfl

theorem pinnedFire_drawn : pinnedFire.2.pendingLocalShot
    = some ⟨0, .dustwalker, ⟨9445, 6122, -999937⟩⟩ := by
  decide +kernel

theorem pinnedFire_command : pinnedFire.2.pendingWireCommand = some pinnedCommand := by
  decide +kernel

theorem pinned_known :
    pinnedLink.authority.shooters[pinnedLink.client.kernel.shooterPeerId]?
      = some ⟨pinnedLink.client.kernel, none⟩ :=
  ExtTreeMap.getElem?_insert_self

theorem client_prediction_iff_pinned :
    (pinnedLink.authority.validateShot pinnedSpread emptyRange pinnedCommand 0 (standingRider 0)
          ()).1.result.resolvedDirection = some ⟨9445, 6122, -999937⟩
      ↔ (pinnedLink.client.kernel.deflection pinnedSpread 0 .standing ⟨0, 0, -1000000⟩).bind
          (pinnedLink.client.kernel.deflection pinnedSpread 0 .standing)
        = pinnedLink.client.kernel.deflection pinnedSpread 0 .standing ⟨0, 0, -1000000⟩ :=
  client_prediction_iff pinnedSpread emptyRange rfl rfl pinnedFire_eq pinnedFire_drawn
    pinnedFire_command pinned_known rfl rfl (by decide +kernel)

/-- The client drew one direction of the shot, and the authority resolves another. -/
theorem deflected_twice :
    ¬∀ (B : Ballistics) (c c' : MountedWeaponController) (request : FireRequest)
        (drawn : PendingLocalShot) (command : ShotCommand) (a : CombatAuthority)
        (shooter : AuthorityShooter) (authorityTick : SimulationTick) (rider : RiderSnapshot),
      c.requestFire B request = (true, c') → c'.pendingLocalShot = some drawn →
      c'.pendingWireCommand = some command →
      a.shooters[c.kernel.shooterPeerId]? = some shooter → shooter.kernel = c.kernel →
      rider.riding = c.riding →
      (a.validateShot B emptyRange command authorityTick rider ()).1.result.outcome ≠ .reject →
      (a.validateShot B emptyRange command authorityTick rider ()).1.result.resolvedDirection
        = some drawn.direction := by
  intro h
  have hagree := h pinnedSpread pinnedLink.client _ (forwardRequest 0) _ pinnedCommand
    pinnedLink.authority _ 0 (standingRider 0) pinnedFire_eq pinnedFire_drawn pinnedFire_command
    pinned_known rfl rfl (by decide +kernel)
  revert hagree
  decide +kernel

end Spurfire
