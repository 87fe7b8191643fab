import Mathlib.Algebra.GroupWithZero.Nat
import Mathlib.Data.Set.Lattice
import Mathlib.Order.CompletePartialOrder
import Spurfire.Lib.Runs
import Spurfire.Protocol.Gameplay

/-!
# The Spur economy

The kernel of `m4.rs`: credits fill a meter of 100 points under two caps, a rising edge of the spend
button empties a full meter, and a mounted spend opens a Majestic Charge of 360 ticks.

* `SpurKernel.applyCredit`, `issueCredit`, `advanceTick`: the three operations;
* `SpurRecord`: what an accepted credit or spend leaves behind;
* `SpurKernel.Kept`: the invariant that ties the kernel to its history;
* **`spur_economy`**: over every run the points add up, credits are distinct, and charges occupy
  disjoint windows.
-/

namespace Spurfire

def MOVEMENT_STYLE_SPUR_CAP : UInt8 := 18
def NEAR_MISS_DISTANCE_MM : UInt16 := 1500
def CLEAN_LANDING_SWAY_LIMIT_MILLI : UInt16 := 200

/-! ## Credit identities -/

namespace AuthorityReceiptId

/-- The derived order: epoch, then tick, then sequence. -/
def precedes (a b : AuthorityReceiptId) : Prop :=
  a.authorityEpoch < b.authorityEpoch ∨ (a.authorityEpoch = b.authorityEpoch
    ∧ (a.tick < b.tick ∨ (a.tick = b.tick ∧ a.sequence < b.sequence)))

instance (a b : AuthorityReceiptId) : Decidable (a.precedes b) :=
  inferInstanceAs (Decidable (_ ∨ _))

theorem precedes_irrefl (a : AuthorityReceiptId) : ¬a.precedes a := by
  unfold precedes
  simp only [UInt64.lt_iff_toNat_lt]
  omega

theorem precedes_trans {a b c : AuthorityReceiptId} (hab : a.precedes b) (hbc : b.precedes c) :
    a.precedes c := by
  unfold precedes at *
  simp only [UInt64.lt_iff_toNat_lt, ← UInt64.toNat_inj] at *
  omega

end AuthorityReceiptId

/-! ## Credits and spends -/

/-- The locked fill sources, with the evidence needed to validate them. -/
inductive SpurCreditKind
  | jump
  | cleanLanding (collisionFree : Bool) (swayImpulseMilli : UInt16)
  | nearMiss (hostile : Bool) (closestDistanceMm : UInt16)
  | mountedHit
  | mountedElimination
  | saddleDiveElimination
deriving DecidableEq

namespace SpurCreditKind

def rawPoints : SpurCreditKind → Option UInt8
  | jump => some 4
  | cleanLanding collisionFree swayImpulseMilli =>
    if collisionFree ∧ swayImpulseMilli < CLEAN_LANDING_SWAY_LIMIT_MILLI then some 2 else none
  | nearMiss hostile closestDistanceMm =>
    if hostile ∧ closestDistanceMm ≤ NEAR_MISS_DISTANCE_MM then some 3 else none
  | mountedHit => some 2
  | mountedElimination => some 6
  | saddleDiveElimination => some 8

def isMovementStyle : SpurCreditKind → Bool
  | jump | cleanLanding _ _ => true
  | _ => false

end SpurCreditKind

structure SpurCreditCommand where
  id : AuthorityReceiptId
  kind : SpurCreditKind
deriving DecidableEq

inductive SpurSpendContext
  | mounted
  | horseAbsent
  | ineligible
deriving DecidableEq

inductive SpurSpendOutcome
  | majesticCharge
  | instantMajesticReturn
deriving DecidableEq

structure SpurTickOutput where
  spend : Option SpurSpendOutcome
  chargeActive : Bool
  chargeEnded : Bool
deriving DecidableEq

inductive SpurError
  | tickReplay
deriving DecidableEq

namespace SpurKernel

protected def default : SpurKernel where
  currentTick := none
  meter := 0
  movementStylePoints := 0
  lastCreditId := none
  nextCreditSequence := 1
  spendHeld := false
  chargeStartedTick := none
  chargeEndTick := none

def chargeActive (k : SpurKernel) : Bool :=
  k.currentTick.any fun now => k.chargeEndTick.any fun chargeEnd => now < chargeEnd

/-- Points an award adds: the movement cap first, then the room left in the meter. -/
def creditedPoints (k : SpurKernel) (kind : SpurCreditKind) (rawPoints : UInt8) : UInt8 :=
  let sourcePoints := if kind.isMovementStyle then
    min rawPoints (MOVEMENT_STYLE_SPUR_CAP.satSub k.movementStylePoints) else rawPoints
  min sourcePoints (SPUR_METER_MAX.satSub k.meter)

/-- Applies one strictly newer award and answers the points actually added. -/
def applyCredit (k : SpurKernel) (command : SpurCreditCommand) : Option UInt8 × SpurKernel :=
  match command.kind.rawPoints with
  | none => (none, k)
  | some rawPoints =>
    match command.id.sequence.checkedAdd 1 with
    | none => (none, k)
    | some nextSequence =>
      if command.id.sequence = 0 ∨ (k.currentTick.all fun current => command.id.tick > current)
          ∨ (k.lastCreditId.any fun last => ¬last.precedes command.id) then (none, k)
      else
        let points := k.creditedPoints command.kind rawPoints
        let credited := { k with
          lastCreditId := some command.id
          nextCreditSequence := max k.nextCreditSequence nextSequence }
        if points = 0 then (some 0, credited)
        else
          (some points, { credited with
            meter := min (k.meter.satAdd points) SPUR_METER_MAX
            movementStylePoints := if command.kind.isMovementStyle then
              k.movementStylePoints + points else k.movementStylePoints })

/-- Issues an award under the kernel's own next sequence. -/
def issueCredit (k : SpurKernel) (authorityEpoch : UInt64) (tick : SimulationTick)
    (kind : SpurCreditKind) : Option UInt8 × SpurKernel :=
  k.applyCredit ⟨⟨authorityEpoch, tick, k.nextCreditSequence⟩, kind⟩

/-- The kernel at `tick`, with a charge that has run out cleared. -/
def expireCharge (k : SpurKernel) (tick : SimulationTick) : SpurKernel :=
  if k.chargeEndTick.any fun chargeEnd => tick ≥ chargeEnd then
    { k with currentTick := some tick, chargeStartedTick := none, chargeEndTick := none }
  else { k with currentTick := some tick }

def spend (k : SpurKernel) (tick : SimulationTick) (risingEdge : Bool)
    (context : SpurSpendContext) : Option SpurSpendOutcome × SpurKernel :=
  if risingEdge ∧ k.meter = SPUR_METER_MAX ∧ ¬k.chargeActive then
    match context with
    | .mounted => (some .majesticCharge, { k with
        meter := 0
        chargeStartedTick := some tick
        chargeEndTick := some (tick.satAdd MAJESTIC_CHARGE_TICKS) })
    | .horseAbsent => (some .instantMajesticReturn, { k with meter := 0 })
    | .ineligible => (none, k)
  else (none, k)

/-- Advances the meter and the spend button by one absolute tick. -/
def advanceTick (k : SpurKernel) (tick : SimulationTick) (spendPressed : Bool)
    (context : SpurSpendContext) : Except SpurError SpurTickOutput × SpurKernel :=
  if k.currentTick.any fun current => tick ≤ current then (.error .tickReplay, k)
  else
    let chargeEnded := k.chargeEndTick.any fun chargeEnd => tick ≥ chargeEnd
    let spent := { k.expireCharge tick with spendHeld := spendPressed }.spend tick
      (spendPressed && !k.spendHeld) context
    (.ok { spend := spent.1, chargeActive := spent.2.chargeActive, chargeEnded }, spent.2)

/-- The start and the end of a charge are both absent, or 360 ticks apart around now. -/
def chargeIsValid (k : SpurKernel) : Bool :=
  match k.chargeStartedTick, k.chargeEndTick with
  | none, none => true
  | some start, some chargeEnd => chargeEnd = start.satAdd MAJESTIC_CHARGE_TICKS
      ∧ (k.currentTick.any fun current => start ≤ current ∧ current < chargeEnd)
  | _, _ => false

def stateIsValid (k : SpurKernel) : Bool :=
  k.meter ≤ SPUR_METER_MAX
    && k.movementStylePoints ≤ MOVEMENT_STYLE_SPUR_CAP
    && k.nextCreditSequence > 0
    && (k.lastCreditId.all fun id => id.sequence < k.nextCreditSequence
      ∧ (k.currentTick.any fun current => id.tick ≤ current))
    && k.chargeIsValid

end SpurKernel

/-! ## Runs and their history -/

inductive SpurCall
  | applyCredit (command : SpurCreditCommand)
  | issueCredit (authorityEpoch : UInt64) (tick : SimulationTick) (kind : SpurCreditKind)
  | advanceTick (tick : SimulationTick) (spendPressed : Bool) (context : SpurSpendContext)
deriving DecidableEq

inductive SpurAnswer
  | credited (points : Option UInt8)
  | ticked (output : Except SpurError SpurTickOutput)

/-- What an accepted credit or spend leaves behind. -/
inductive SpurRecord
  | credit (id : AuthorityReceiptId) (movementStyle : Bool) (points : UInt8)
  | spend (tick : SimulationTick) (outcome : SpurSpendOutcome)
deriving DecidableEq

namespace SpurCall

/-- The clock is only ever advanced to ticks below `2 ^ 63`. -/
def TickFits : SpurCall → Prop
  | advanceTick tick _ _ => tick.toNat < 2 ^ 63
  | _ => True

end SpurCall

namespace SpurKernel

def step (k : SpurKernel) : SpurCall → SpurAnswer × SpurKernel
  | .applyCredit command =>
    let (points, k') := k.applyCredit command
    (.credited points, k')
  | .issueCredit authorityEpoch tick kind =>
    let (points, k') := k.issueCredit authorityEpoch tick kind
    (.credited points, k')
  | .advanceTick tick spendPressed context =>
    let (output, k') := k.advanceTick tick spendPressed context
    (.ticked output, k')

def creditNote (command : SpurCreditCommand) (points : Option UInt8) : List SpurRecord :=
  points.toList.map (.credit command.id command.kind.isMovementStyle)

def spendNote (tick : SimulationTick) : Except SpurError SpurTickOutput → List SpurRecord
  | .ok output => output.spend.toList.map (.spend tick)
  | .error _ => []

/-- What a call from `k` leaves behind, read off its answer. -/
def note (k : SpurKernel) : SpurCall → List SpurRecord
  | .applyCredit command => creditNote command (k.applyCredit command).1
  | .issueCredit authorityEpoch tick kind =>
    creditNote ⟨⟨authorityEpoch, tick, k.nextCreditSequence⟩, kind⟩
      (k.issueCredit authorityEpoch tick kind).1
  | .advanceTick tick spendPressed context =>
    spendNote tick (k.advanceTick tick spendPressed context).1

end SpurKernel

namespace SpurRecord

def points : SpurRecord → ℕ
  | credit _ _ points => points.toNat
  | spend _ _ => 0

def movementPoints : SpurRecord → ℕ
  | credit _ true points => points.toNat
  | _ => 0

def creditId : SpurRecord → Option AuthorityReceiptId
  | credit id _ _ => some id
  | spend _ _ => none

def isSpend : SpurRecord → Bool
  | credit _ _ _ => false
  | spend _ _ => true

def chargeStart : SpurRecord → Option SimulationTick
  | spend tick .majesticCharge => some tick
  | _ => none

/-- All points the recorded credits returned. -/
def total (h : List SpurRecord) : ℕ := (h.map points).sum

def movementTotal (h : List SpurRecord) : ℕ := (h.map movementPoints).sum

def spends (h : List SpurRecord) : ℕ := h.countP isSpend

def creditIds (h : List SpurRecord) : List AuthorityReceiptId := h.filterMap creditId

/-- The ticks at which a Majestic Charge was accepted. -/
def chargeStarts (h : List SpurRecord) : List SimulationTick := h.filterMap chargeStart

section Append

variable (h h' : List SpurRecord)

theorem total_append : total (h ++ h') = total h + total h' := by
  unfold total
  rw [List.map_append, List.sum_append]

theorem movementTotal_append : movementTotal (h ++ h') = movementTotal h + movementTotal h' := by
  unfold movementTotal
  rw [List.map_append, List.sum_append]

theorem spends_append : spends (h ++ h') = spends h + spends h' :=
  List.countP_append

theorem creditIds_append : creditIds (h ++ h') = creditIds h ++ creditIds h' :=
  List.filterMap_append

theorem chargeStarts_append : chargeStarts (h ++ h') = chargeStarts h ++ chargeStarts h' :=
  List.filterMap_append

end Append

end SpurRecord

def chargeWindow (start : SimulationTick) : Set ℕ :=
  Set.Ico start.toNat (start.toNat + MAJESTIC_CHARGE_TICKS.toNat)

/-! ## What one call does -/

namespace SpurKernel

/-- What an accepted credit does to the kernel. -/
structure Credited (k : SpurKernel) (command : SpurCreditCommand) (points : UInt8)
    (k' : SpurKernel) : Prop where
  clock : k'.currentTick = k.currentTick ∧ k'.chargeStartedTick = k.chargeStartedTick
    ∧ k'.chargeEndTick = k.chargeEndTick
  happened : ∃ now, k.currentTick = some now ∧ command.id.tick ≤ now
  newer : ∀ last, k.lastCreditId = some last → last.precedes command.id
  last : k'.lastCreditId = some command.id
  sequence : command.id.sequence < k'.nextCreditSequence
  meter : k'.meter.toNat = k.meter.toNat + points.toNat
  meterCap : k'.meter.toNat ≤ 100
  movement : k'.movementStylePoints.toNat = k.movementStylePoints.toNat
    + (if command.kind.isMovementStyle then points.toNat else 0)
  movementCap : k'.movementStylePoints.toNat ≤ 18

section OneCall

variable {k : SpurKernel} (hmeter : k.meter.toNat ≤ 100)
  (hmovement : k.movementStylePoints.toNat ≤ 18)

include hmeter in
theorem creditedPoints_le (kind : SpurCreditKind) (rawPoints : UInt8) :
    (k.creditedPoints kind rawPoints).toNat ≤ 100 - k.meter.toNat := by
  unfold creditedPoints
  rw [UInt8.toNat_min, UInt8.toNat_satSub]
  have hmax : SPUR_METER_MAX.toNat = 100 := rfl
  omega

include hmovement in
theorem creditedPoints_le_of_movement {kind : SpurCreditKind} (hkind : kind.isMovementStyle)
    (rawPoints : UInt8) :
    (k.creditedPoints kind rawPoints).toNat ≤ 18 - k.movementStylePoints.toNat := by
  unfold creditedPoints
  rw [if_pos hkind, UInt8.toNat_min, UInt8.toNat_min, UInt8.toNat_satSub]
  have hmax : MOVEMENT_STYLE_SPUR_CAP.toNat = 18 := rfl
  omega

/-- The word sums of a credit stay below their caps. -/
theorem toNat_credited_meter {k : SpurKernel} {points : UInt8} (hmeter : k.meter.toNat ≤ 100)
    (hpoints : points.toNat ≤ 100 - k.meter.toNat) :
    (min (k.meter.satAdd points) SPUR_METER_MAX).toNat = k.meter.toNat + points.toNat := by
  rw [UInt8.toNat_min, UInt8.toNat_satAdd]
  have hmax : SPUR_METER_MAX.toNat = 100 := rfl
  omega

/-- What the order guard of a credit leaves when it lets the credit pass. -/
theorem admitted_of_not_refused {k : SpurKernel} {id : AuthorityReceiptId}
    (h : ¬(id.sequence = 0 ∨ (k.currentTick.all fun current => id.tick > current)
      ∨ (k.lastCreditId.any fun last => ¬last.precedes id))) :
    (∃ now, k.currentTick = some now ∧ id.tick ≤ now)
      ∧ ∀ last, k.lastCreditId = some last → last.precedes id := by
  rw [not_or, not_or] at h
  obtain ⟨-, hclock, hlast⟩ := h
  constructor
  · cases hnow : k.currentTick with
    | none => exact absurd (by rw [hnow]; rfl) hclock
    | some now =>
      rw [hnow, Option.all_some, decide_eq_true_iff, gt_iff_lt, UInt64.not_lt] at hclock
      exact ⟨now, rfl, hclock⟩
  · intro last he
    rw [he, Option.any_some, decide_eq_true_iff, not_not] at hlast
    exact hlast

include hmeter hmovement in
/-- A credit is refused and changes nothing, or it is accepted. -/
theorem applyCredit_cases (command : SpurCreditCommand) :
    k.applyCredit command = (none, k)
      ∨ ∃ points, (k.applyCredit command).1 = some points
        ∧ Credited k command points (k.applyCredit command).2 := by
  unfold applyCredit
  cases hraw : command.kind.rawPoints with
  | none => exact .inl rfl
  | some rawPoints =>
  cases hnext : command.id.sequence.checkedAdd 1 with
  | none => exact .inl rfl
  | some nextSequence =>
  dsimp only
  by_cases hrefused : command.id.sequence = 0
      ∨ (k.currentTick.all fun current => command.id.tick > current)
      ∨ (k.lastCreditId.any fun last => ¬last.precedes command.id)
  · exact .inl (if_pos hrefused)
  rw [if_neg hrefused]
  obtain ⟨happened, hnewer⟩ := admitted_of_not_refused hrefused
  have hsequence : command.id.sequence < max k.nextCreditSequence nextSequence := by
    have hless := UInt64.lt_iff_toNat_lt.mp (UInt64.lt_of_checkedAdd_one hnext)
    rw [UInt64.lt_iff_toNat_lt, UInt64.toNat_max]
    omega
  have hpoints := creditedPoints_le hmeter command.kind rawPoints
  right
  by_cases hzero : k.creditedPoints command.kind rawPoints = 0
  · rw [if_pos hzero]
    exact ⟨0, rfl, {
      clock := ⟨rfl, rfl, rfl⟩
      happened := happened
      newer := hnewer
      last := rfl
      sequence := hsequence
      meter := rfl
      meterCap := hmeter
      movement := by rw [UInt8.toNat_zero, ite_self]; rfl
      movementCap := hmovement }⟩
  · rw [if_neg hzero]
    have hsum := toNat_credited_meter hmeter hpoints
    have hstyle : (if command.kind.isMovementStyle then
          k.movementStylePoints + k.creditedPoints command.kind rawPoints
          else k.movementStylePoints).toNat
        = k.movementStylePoints.toNat + (if command.kind.isMovementStyle then
          (k.creditedPoints command.kind rawPoints).toNat else 0)
        ∧ (if command.kind.isMovementStyle then
          k.movementStylePoints + k.creditedPoints command.kind rawPoints
          else k.movementStylePoints).toNat ≤ 18 := by
      by_cases hkind : command.kind.isMovementStyle
      · have hcap := creditedPoints_le_of_movement hmovement hkind rawPoints
        rw [if_pos hkind, if_pos hkind, UInt8.toNat_add]
        omega
      · rw [if_neg hkind, if_neg hkind]
        exact ⟨rfl, hmovement⟩
    exact ⟨_, rfl, {
      clock := ⟨rfl, rfl, rfl⟩
      happened := happened
      newer := hnewer
      last := rfl
      sequence := hsequence
      meter := hsum
      meterCap := by
        dsimp only
        omega
      movement := hstyle.1
      movementCap := hstyle.2 }⟩

end OneCall

theorem context_of_spend {k : SpurKernel} {tick : SimulationTick} {risingEdge : Bool}
    {context : SpurSpendContext}
    (h : (k.spend tick risingEdge context).1 = some .instantMajesticReturn) :
    context = .horseAbsent := by
  unfold spend at h
  by_cases hspend : risingEdge ∧ k.meter = SPUR_METER_MAX ∧ ¬k.chargeActive
  · rw [if_pos hspend] at h
    cases context with
    | mounted => cases h
    | horseAbsent => rfl
    | ineligible => cases h
  · rw [if_neg hspend] at h
    cases h

theorem spend_currentTick (k : SpurKernel) (tick : SimulationTick) (risingEdge : Bool)
    (context : SpurSpendContext) : (k.spend tick risingEdge context).2.currentTick = k.currentTick := by
  unfold spend
  split_ifs
  · cases context <;> rfl
  · rfl

theorem applyCredit_currentTick (k : SpurKernel) (command : SpurCreditCommand) :
    (k.applyCredit command).2.currentTick = k.currentTick := by
  unfold applyCredit
  cases command.kind.rawPoints with
  | none => rfl
  | some rawPoints =>
    cases command.id.sequence.checkedAdd 1 with
    | none => rfl
    | some nextSequence =>
      dsimp only
      split_ifs <;> rfl

/-- A tick that is not stale succeeds, and spends on a return only where the horse is absent. -/
theorem advanceTick_ok (k : SpurKernel) {tick : SimulationTick} (spendPressed : Bool)
    (context : SpurSpendContext) (hnew : ∀ current ∈ k.currentTick, current < tick) :
    (∃ output, (k.advanceTick tick spendPressed context).1 = .ok output
        ∧ (output.spend = some .instantMajesticReturn → context = .horseAbsent))
      ∧ (k.advanceTick tick spendPressed context).2.currentTick = some tick := by
  unfold advanceTick
  rw [if_neg (not_any_le hnew)]
  refine ⟨⟨_, rfl, context_of_spend⟩, ?_⟩
  rw [spend_currentTick]
  unfold expireCharge
  split_ifs <;> rfl

/-- The three outcomes of the spend branch, with what each does to the kernel. -/
theorem spend_cases (k : SpurKernel) (tick : SimulationTick) (risingEdge : Bool)
    (context : SpurSpendContext) :
    k.spend tick risingEdge context = (none, k)
      ∨ k.meter = SPUR_METER_MAX ∧ k.chargeActive = false
        ∧ (k.spend tick risingEdge context = (some .instantMajesticReturn, { k with meter := 0 })
          ∨ k.spend tick risingEdge context = (some .majesticCharge, { k with
              meter := 0
              chargeStartedTick := some tick
              chargeEndTick := some (tick.satAdd MAJESTIC_CHARGE_TICKS) })) := by
  unfold spend
  by_cases hspend : risingEdge ∧ k.meter = SPUR_METER_MAX ∧ ¬k.chargeActive
  · rw [if_pos hspend]
    have hidle : k.chargeActive = false := Bool.eq_false_iff.mpr hspend.2.2
    cases context with
    | mounted => exact .inr ⟨hspend.2.1, hidle, .inr rfl⟩
    | horseAbsent => exact .inr ⟨hspend.2.1, hidle, .inl rfl⟩
    | ineligible => exact .inl rfl
  · exact .inl (if_neg hspend)

end SpurKernel

/-! ## The invariant -/

open SpurRecord

namespace SpurKernel

/-- Where the clock stands against the charges accepted so far: all are over, or the last one is
running. -/
inductive ChargeKept (k : SpurKernel) (starts : List SimulationTick) : Prop
  | idle (hstarted : k.chargeStartedTick = none) (hend : k.chargeEndTick = none)
      (hover : ∀ start ∈ starts, ∃ now, k.currentTick = some now
        ∧ start.toNat + 360 ≤ now.toNat)
  | running {start chargeEnd now : SimulationTick} (hstarted : k.chargeStartedTick = some start)
      (hend : k.chargeEndTick = some chargeEnd) (hnow : k.currentTick = some now)
      (hlength : chargeEnd = start.satAdd MAJESTIC_CHARGE_TICKS)
      (hexact : chargeEnd.toNat = start.toNat + 360) (hfrom : start.toNat ≤ now.toNat)
      (huntil : now.toNat < chargeEnd.toNat) (hmem : start ∈ starts)
      (hover : ∀ other ∈ starts, other = start ∨ other.toNat + 360 ≤ start.toNat)

/-- What ties the kernel to its history. -/
structure Kept (k : SpurKernel) (h : List SpurRecord) : Prop where
  meter : k.meter.toNat ≤ 100
  balance : total h = k.meter.toNat + 100 * spends h
  movement : SpurRecord.movementTotal h = k.movementStylePoints.toNat
  movementCap : k.movementStylePoints.toNat ≤ 18
  next : 0 < k.nextCreditSequence
  ids : (creditIds h).Pairwise AuthorityReceiptId.precedes
  newest : ∀ id ∈ creditIds h, ∃ last, k.lastCreditId = some last ∧ (id = last ∨ id.precedes last)
  last : ∀ last, k.lastCreditId = some last → last.sequence < k.nextCreditSequence
    ∧ ∃ now, k.currentTick = some now ∧ last.tick ≤ now
  starts : (chargeStarts h).Pairwise fun start other => start.toNat + 360 ≤ other.toNat
  charge : ChargeKept k (chargeStarts h)

theorem kept_default : Kept SpurKernel.default [] where
  meter := by decide
  balance := rfl
  movement := rfl
  movementCap := by decide
  next := by decide
  ids := .nil
  newest := by simp [creditIds]
  last := fun _ he => nomatch he
  starts := .nil
  charge := .idle rfl rfl (by simp [chargeStarts])

/-! ### Credits -/

section Credits

variable {k k' : SpurKernel} {h : List SpurRecord}

/-- The charge is untouched while the clock and the charge fields are. -/
theorem ChargeKept.congr {starts : List SimulationTick} (hcharge : ChargeKept k starts)
    (hclock : k'.currentTick = k.currentTick ∧ k'.chargeStartedTick = k.chargeStartedTick
      ∧ k'.chargeEndTick = k.chargeEndTick) : ChargeKept k' starts := by
  obtain ⟨hnow, hstarted, hend⟩ := hclock
  cases hcharge with
  | idle hs he hover =>
    rw [← hstarted] at hs
    rw [← hend] at he
    rw [← hnow] at hover
    exact .idle hs he hover
  | running hs he hn hlength hexact hfrom huntil hmem hover =>
    exact .running (hstarted.trans hs) (hend.trans he) (hnow.trans hn) hlength hexact hfrom huntil
      hmem hover

/-- A new identity joins the recorded ones at the end. -/
theorem Kept.pairwise_snoc {id : AuthorityReceiptId} (hk : Kept k h)
    (hnewer : ∀ last, k.lastCreditId = some last → last.precedes id) :
    (creditIds h ++ [id]).Pairwise AuthorityReceiptId.precedes := by
  rw [List.pairwise_append]
  refine ⟨hk.ids, List.pairwise_singleton _ _, fun other hother new hnew => ?_⟩
  obtain ⟨last, hlast, horder⟩ := hk.newest other hother
  have hafter := hnewer last hlast
  rw [List.mem_singleton.mp hnew]
  rcases horder with rfl | hbefore
  · exact hafter
  · exact AuthorityReceiptId.precedes_trans hbefore hafter

theorem Kept.credited {command : SpurCreditCommand} {points : UInt8} (hk : Kept k h)
    (hcredit : Credited k command points k') :
    Kept k' (h ++ [.credit command.id command.kind.isMovementStyle points]) where
  meter := hcredit.meterCap
  balance := by
    have hbalance := hk.balance
    have hmeter := hcredit.meter
    have hpoints : total [.credit command.id command.kind.isMovementStyle points]
        = points.toNat := Nat.add_zero _
    have hspends : spends [.credit command.id command.kind.isMovementStyle points] = 0 := rfl
    rw [total_append, spends_append]
    omega
  movement := by
    have hpoints := hcredit.movement
    rw [SpurRecord.movementTotal_append, hk.movement, hpoints]
    cases command.kind.isMovementStyle <;> rfl
  movementCap := hcredit.movementCap
  next := UInt64.lt_of_le_of_lt (UInt64.zero_le) hcredit.sequence
  ids := by
    rw [creditIds_append]
    exact hk.pairwise_snoc hcredit.newer
  newest := by
    intro id hid
    rw [creditIds_append, List.mem_append] at hid
    refine ⟨command.id, hcredit.last, ?_⟩
    rcases hid with hold | hnew
    · have hpair := hk.pairwise_snoc hcredit.newer
      exact .inr ((List.pairwise_append.mp hpair).2.2 id hold _ (List.mem_singleton_self _))
    · exact .inl (List.mem_singleton.mp hnew)
  last := by
    intro last hlast
    obtain rfl : command.id = last := Option.some.inj (hcredit.last.symm.trans hlast)
    obtain ⟨now, hnow, htick⟩ := hcredit.happened
    exact ⟨hcredit.sequence, now, hcredit.clock.1.trans hnow, htick⟩
  starts := by
    rw [chargeStarts_append]
    exact (List.append_nil _).symm ▸ hk.starts
  charge := by
    rw [chargeStarts_append]
    exact (List.append_nil _).symm ▸ hk.charge.congr hcredit.clock

end Credits

/-! ### Ticks -/

section Ticks

variable {k : SpurKernel} {h : List SpurRecord} {tick : SimulationTick}

theorem expireCharge_frame (k : SpurKernel) (tick : SimulationTick) :
    (k.expireCharge tick).currentTick = some tick ∧ (k.expireCharge tick).meter = k.meter
      ∧ (k.expireCharge tick).movementStylePoints = k.movementStylePoints
      ∧ (k.expireCharge tick).lastCreditId = k.lastCreditId
      ∧ (k.expireCharge tick).nextCreditSequence = k.nextCreditSequence := by
  unfold expireCharge
  split_ifs <;> exact ⟨rfl, rfl, rfl, rfl, rfl⟩

/-- The hold level of the button is not part of the invariant. -/
theorem Kept.held (hk : Kept k h) (held : Bool) : Kept { k with spendHeld := held } h where
  meter := hk.meter
  balance := hk.balance
  movement := hk.movement
  movementCap := hk.movementCap
  next := hk.next
  ids := hk.ids
  newest := hk.newest
  last := hk.last
  starts := hk.starts
  charge := hk.charge.congr ⟨rfl, rfl, rfl⟩

section Later

variable (hlater : ∀ now, k.currentTick = some now → now < tick)

include hlater in
/-- A later tick leaves the charge running or finds it over. -/
theorem ChargeKept.expired {starts : List SimulationTick} (hcharge : ChargeKept k starts) :
    ChargeKept (k.expireCharge tick) starts := by
  unfold expireCharge
  cases hcharge with
  | idle hstarted hend hover =>
    have hnone : ¬(k.chargeEndTick.any fun chargeEnd => tick ≥ chargeEnd) := by
      rw [hend]
      exact Bool.false_ne_true
    rw [if_neg hnone]
    refine .idle hstarted hend fun start hstart => ?_
    obtain ⟨now, hnow, hafter⟩ := hover start hstart
    have hless := UInt64.lt_iff_toNat_lt.mp (hlater now hnow)
    exact ⟨tick, rfl, by omega⟩
  | @running start chargeEnd now hstarted hend hnow hlength hexact hfrom huntil hmem hover =>
    have hless := UInt64.lt_iff_toNat_lt.mp (hlater now hnow)
    by_cases hdone : k.chargeEndTick.any fun chargeEnd => tick ≥ chargeEnd
    · rw [if_pos hdone]
      rw [hend, Option.any_some, decide_eq_true_iff, ge_iff_le, UInt64.le_iff_toNat_le] at hdone
      refine .idle rfl rfl fun other hother => ⟨tick, rfl, ?_⟩
      rcases hover other hother with rfl | hbefore <;> omega
    · rw [if_neg hdone]
      rw [hend, Option.any_some, decide_eq_true_iff, ge_iff_le, UInt64.le_iff_toNat_le] at hdone
      exact .running hstarted hend rfl hlength hexact (by omega) (by omega) hmem hover

include hlater in
theorem Kept.expired (hk : Kept k h) : Kept (k.expireCharge tick) h := by
  obtain ⟨hclock, hmeter, hmovement, hlast, hnext⟩ := expireCharge_frame k tick
  exact {
    meter := hmeter ▸ hk.meter
    balance := hmeter ▸ hk.balance
    movement := hmovement ▸ hk.movement
    movementCap := hmovement ▸ hk.movementCap
    next := hnext ▸ hk.next
    ids := hk.ids
    newest := hlast ▸ hk.newest
    last := by
      rw [hlast, hnext, hclock]
      intro last he
      obtain ⟨hsequence, now, hnow, htick⟩ := hk.last last he
      exact ⟨hsequence, tick, rfl, UInt64.le_of_lt (UInt64.lt_of_le_of_lt htick (hlater now hnow))⟩
    starts := hk.starts
    charge := hk.charge.expired hlater }

end Later

/-- The kernel reports a charge exactly inside the window of an accepted one. -/
theorem ChargeKept.active_iff {starts : List SimulationTick} (hcharge : ChargeKept k starts) :
    k.chargeActive ↔ ∃ now, k.currentTick = some now ∧ ∃ start ∈ starts,
      now.toNat ∈ chargeWindow start := by
  have hticks : MAJESTIC_CHARGE_TICKS.toNat = 360 := rfl
  unfold chargeActive chargeWindow
  rw [hticks]
  cases hcharge with
  | idle hstarted hend hover =>
    rw [hend]
    refine iff_of_false (by cases k.currentTick <;> exact Bool.false_ne_true) ?_
    rintro ⟨now, hnow, start, hstart, hwindow⟩
    obtain ⟨now', hnow', hafter⟩ := hover start hstart
    obtain rfl : now = now' := Option.some.inj (hnow.symm.trans hnow')
    have hbefore := hwindow.2
    omega
  | @running start chargeEnd now hstarted hend hnow hlength hexact hfrom huntil hmem hover =>
    rw [hend, hnow]
    refine iff_of_true (decide_eq_true (UInt64.lt_iff_toNat_lt.mpr huntil)) ?_
    exact ⟨now, rfl, start, hmem, hfrom, by omega⟩

/-- Emptying a full meter is one spend, whatever becomes of the charge. -/
theorem Kept.emptied {outcome : SpurSpendOutcome} {started chargeEnd : Option SimulationTick}
    (hk : Kept k h) (hfull : k.meter = SPUR_METER_MAX)
    (hstarts : (chargeStarts (h ++ [.spend tick outcome])).Pairwise
      fun start other => start.toNat + 360 ≤ other.toNat)
    (hcharge : ChargeKept
      { k with meter := 0, chargeStartedTick := started, chargeEndTick := chargeEnd }
      (chargeStarts (h ++ [.spend tick outcome]))) :
    Kept { k with meter := 0, chargeStartedTick := started, chargeEndTick := chargeEnd }
      (h ++ [.spend tick outcome]) where
  meter := Nat.zero_le _
  balance := by
    have hbalance := hk.balance
    have hmeter : k.meter.toNat = 100 := congrArg UInt8.toNat hfull
    have hpoints : total [.spend tick outcome] = 0 := rfl
    have hspends : spends [.spend tick outcome] = 1 := rfl
    rw [total_append, spends_append, hpoints, hspends]
    change total h + 0 = 0 + 100 * (spends h + 1)
    omega
  movement := by
    rw [SpurRecord.movementTotal_append, hk.movement]
    rfl
  movementCap := hk.movementCap
  next := hk.next
  ids := by
    rw [creditIds_append]
    exact (List.append_nil _).symm ▸ hk.ids
  newest := by
    rw [creditIds_append]
    exact (List.append_nil (creditIds h)).symm ▸ hk.newest
  last := hk.last
  starts := hstarts
  charge := hcharge

theorem ChargeKept.over {starts : List SimulationTick} (hcharge : ChargeKept k starts)
    (hclock : k.currentTick = some tick) (hidle : k.chargeActive = false) :
    ∀ start ∈ starts, start.toNat + 360 ≤ tick.toNat := by
  cases hcharge with
  | idle hstarted hend hover =>
    intro start hstart
    obtain ⟨now, hnow, hafter⟩ := hover start hstart
    obtain rfl : now = tick := Option.some.inj (hnow.symm.trans hclock)
    exact hafter
  | running hstarted hend hnow hlength hexact hfrom huntil hmem hover =>
    have hactive : k.chargeActive = true := by
      unfold chargeActive
      rw [hend, hnow]
      exact decide_eq_true (UInt64.lt_iff_toNat_lt.mpr huntil)
    rw [hidle] at hactive
    cases hactive

/-- A spend keeps the invariant with its record. -/
theorem Kept.spent (hk : Kept k h) (hclock : k.currentTick = some tick)
    (hfits : tick.toNat < 2 ^ 63) (risingEdge : Bool) (context : SpurSpendContext) :
    Kept (k.spend tick risingEdge context).2
      (h ++ (k.spend tick risingEdge context).1.toList.map (.spend tick)) := by
  rcases spend_cases k tick risingEdge context with hnone | ⟨hfull, hidle, hreturn | hcharge⟩
  · rw [hnone]
    exact (List.append_nil h).symm ▸ hk
  · rw [hreturn]
    have hsame : chargeStarts (h ++ [.spend tick .instantMajesticReturn]) = chargeStarts h := by
      rw [chargeStarts_append]
      exact List.append_nil _
    refine Kept.emptied hk hfull (hsame ▸ hk.starts) ?_
    rw [hsame]
    exact hk.charge.congr ⟨rfl, rfl, rfl⟩
  · rw [hcharge]
    have hover := hk.charge.over hclock hidle
    have hticks : MAJESTIC_CHARGE_TICKS.toNat = 360 := rfl
    have hexact : (tick.satAdd MAJESTIC_CHARGE_TICKS).toNat = tick.toNat + 360 := by
      rw [UInt64.toNat_satAdd]
      omega
    have hsnoc : chargeStarts (h ++ [.spend tick .majesticCharge]) = chargeStarts h ++ [tick] :=
      chargeStarts_append _ _
    refine Kept.emptied hk hfull ?_ ?_
    · rw [hsnoc, List.pairwise_append]
      refine ⟨hk.starts, List.pairwise_singleton _ _, fun start hstart other hother => ?_⟩
      rw [List.mem_singleton.mp hother]
      exact hover start hstart
    · rw [hsnoc]
      refine .running rfl rfl hclock rfl hexact le_rfl (by omega)
        (List.mem_append_right _ (List.mem_singleton_self _)) fun other hother => ?_
      rcases List.mem_append.mp hother with hold | hnew
      · exact .inr (hover other hold)
      · exact .inl (List.mem_singleton.mp hnew)

theorem Kept.advanced (hk : Kept k h) (hfits : tick.toNat < 2 ^ 63) (spendPressed : Bool)
    (context : SpurSpendContext) :
    Kept (k.advanceTick tick spendPressed context).2
      (h ++ spendNote tick (k.advanceTick tick spendPressed context).1) := by
  unfold advanceTick
  by_cases hreplay : k.currentTick.any fun current => tick ≤ current
  · rw [if_pos hreplay]
    exact (List.append_nil h).symm ▸ hk
  · rw [if_neg hreplay]
    have hlater : ∀ now, k.currentTick = some now → now < tick := by
      intro now hnow
      rw [hnow, Option.any_some, decide_eq_true_iff, UInt64.not_le] at hreplay
      exact hreplay
    have hexpired := (hk.expired hlater).held spendPressed
    exact hexpired.spent (expireCharge_frame k tick).1 hfits _ context

end Ticks

/-! ## Runs -/

/-- One call keeps the invariant with what it records. -/
theorem Kept.step {k : SpurKernel} {h : List SpurRecord} (hk : Kept k h) {call : SpurCall}
    (hfits : call.TickFits) : Kept (k.step call).2 (h ++ k.note call) := by
  have hcredit (command : SpurCreditCommand) :
      Kept (k.applyCredit command).2 (h ++ creditNote command (k.applyCredit command).1) := by
    rcases applyCredit_cases hk.meter hk.movementCap command with hrefused | ⟨points, hp, hc⟩
    · rw [hrefused]
      exact (List.append_nil h).symm ▸ hk
    · rw [hp]
      exact hk.credited hc
  cases call with
  | applyCredit command => exact hcredit command
  | issueCredit authorityEpoch tick kind => exact hcredit ⟨⟨authorityEpoch, tick, _⟩, kind⟩
  | advanceTick tick spendPressed context => exact hk.advanced hfits spendPressed context

theorem ChargeKept.chargeIsValid {k : SpurKernel} {starts : List SimulationTick}
    (hcharge : ChargeKept k starts) : k.chargeIsValid = true := by
  unfold SpurKernel.chargeIsValid
  cases hcharge with
  | idle hstarted hend hover =>
    rw [hstarted, hend]
  | running hstarted hend hnow hlength hexact hfrom huntil hmem hover =>
    rw [hstarted, hend, hnow]
    refine decide_eq_true ⟨hlength, decide_eq_true ⟨?_, ?_⟩⟩
    · exact UInt64.le_iff_toNat_le.mpr hfrom
    · exact UInt64.lt_iff_toNat_lt.mpr huntil

/-- The invariant implies what the checkpoint validators demand. -/
theorem Kept.stateIsValid {k : SpurKernel} {h : List SpurRecord} (hk : Kept k h) :
    k.stateIsValid = true := by
  have hlast : (k.lastCreditId.all fun id => id.sequence < k.nextCreditSequence
      ∧ (k.currentTick.any fun current => id.tick ≤ current)) = true := by
    cases he : k.lastCreditId with
    | none => rfl
    | some last =>
      obtain ⟨hsequence, now, hnow, htick⟩ := hk.last last he
      rw [hnow]
      exact decide_eq_true ⟨hsequence, decide_eq_true htick⟩
  unfold SpurKernel.stateIsValid
  simp only [Bool.and_eq_true, decide_eq_true_eq]
  refine ⟨⟨⟨⟨?_, ?_⟩, hk.next⟩, by simpa using hlast⟩, hk.charge.chargeIsValid⟩
  · exact UInt8.le_iff_toNat_le.mpr hk.meter
  · exact UInt8.le_iff_toNat_le.mpr hk.movementCap

end SpurKernel

/-- **The Spur economy conserves points over whole runs.**  In every state of a run the kernel is
valid, the points of all credits are the meter and 100 for each spend, movement style contributed at
most 18 of them, no credit identity was accepted twice, and accepted charges have disjoint windows
which say exactly when a charge is active. -/
theorem spur_economy (calls : List SpurCall) (hticks : ∀ call ∈ calls, call.TickFits) :
    let k := Runs.run SpurKernel.step SpurKernel.default calls
    let h := Runs.history SpurKernel.step SpurKernel.note SpurKernel.default calls
    k.stateIsValid = true
      ∧ total h = k.meter.toNat + 100 * spends h
      ∧ SpurRecord.movementTotal h ≤ 18
      ∧ (creditIds h).Nodup
      ∧ (chargeStarts h).Pairwise (fun start other => Disjoint (chargeWindow start)
          (chargeWindow other))
      ∧ (k.chargeActive ↔ ∃ now, k.currentTick = some now ∧ ∃ start ∈ chargeStarts h,
          now.toNat ∈ chargeWindow start) := by
  intro k h
  have halong : Runs.Along SpurKernel.step (fun _ call => call.TickFits) SpurKernel.default calls :=
    Runs.along_of_forall hticks
  have hk : SpurKernel.Kept k h :=
    Runs.run_history (fun _ _ _ hfits hkept => hkept.step hfits) SpurKernel.kept_default halong
  refine ⟨hk.stateIsValid, hk.balance, hk.movement.trans_le hk.movementCap, ?_, ?_,
    hk.charge.active_iff⟩
  · refine hk.ids.imp fun horder he => ?_
    exact AuthorityReceiptId.precedes_irrefl _ (he ▸ horder)
  · refine hk.starts.imp fun hbefore => Set.disjoint_left.mpr fun now hstart hother => ?_
    have hticks : MAJESTIC_CHARGE_TICKS.toNat = 360 := rfl
    have hend := hstart.2
    have hfrom := hother.1
    omega

/-- Thirteen dive eliminations fill the meter, and the next tick spends it. -/
def chargedRun : List SpurCall :=
  .advanceTick 1 false .ineligible
    :: (List.replicate 13 (.issueCredit 1 1 .saddleDiveElimination)
      ++ [.advanceTick 2 true .mounted])

theorem spur_economy_chargedRun :
    let k := Runs.run SpurKernel.step SpurKernel.default chargedRun
    let h := Runs.history SpurKernel.step SpurKernel.note SpurKernel.default chargedRun
    (chargeStarts h = [2] ∧ k.chargeActive)
      ∧ k.stateIsValid = true
      ∧ total h = k.meter.toNat + 100 * spends h
      ∧ SpurRecord.movementTotal h ≤ 18
      ∧ (creditIds h).Nodup
      ∧ (chargeStarts h).Pairwise (fun start other => Disjoint (chargeWindow start)
          (chargeWindow other))
      ∧ (k.chargeActive ↔ ∃ now, k.currentTick = some now ∧ ∃ start ∈ chargeStarts h,
          now.toNat ∈ chargeWindow start) := by
  have hcalls : ∀ call ∈ chargedRun, call.TickFits := by
    intro call hcall
    rcases List.mem_cons.mp hcall with rfl | hrest
    · exact (by decide : (1 : UInt64).toNat < 2 ^ 63)
    · rcases List.mem_append.mp hrest with hcredit | hspend
      · rw [List.eq_of_mem_replicate hcredit]
        trivial
      · rw [List.mem_singleton.mp hspend]
        exact (by decide : (2 : UInt64).toNat < 2 ^ 63)
  exact ⟨by decide +kernel, spur_economy chargedRun hcalls⟩

end Spurfire
