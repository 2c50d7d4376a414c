import MeshStar.Interop.Adapter
import Mathlib.Data.Nat.Periodic

/-!
# Sharing one radio between profiles

A schedule gives each profile a dwell time, one after the other and then from the start.
The active slot is found by taking the dwell times off the time within the period. The
source returns a reference to the slot; it is the slot's position here, so that two slots
with the same contents stay apart.
-/

namespace MeshStar

/-- A named profile with the protocol it belongs to. -/
structure NamedProfile where
  protocol : ProtocolId
  name : Text
  region : Text
  profile : TunedProfile
  verified : Bool

/-- How long the radio listens on a profile before it switches. -/
structure ScanSlot where
  profile : NamedProfile
  dwellMs : UInt32

/-- A time-sharing schedule for one radio. -/
structure ScanSchedule where
  slots : List ScanSlot

namespace ScanSchedule

open List

/-- The time a series of slots takes. -/
def duration (slots : List ScanSlot) : Nat := (slots.map fun slot => slot.dwellMs.toNat).sum

/-- Where a time falls in a series of slots. -/
def locate : List ScanSlot → Nat → Option Nat
  | [], _ => none
  | slot :: rest, time =>
    if time < slot.dwellMs.toNat then some 0
    else (locate rest (time - slot.dwellMs.toNat)).map (· + 1)

/-- Which slot is active. -/
def active (schedule : ScanSchedule) (nowMs : Nat) : Option Nat :=
  if duration schedule.slots = 0 then none
  else locate schedule.slots (nowMs % duration schedule.slots)

/-- A schedule that spends a percentage of the time on the native profile and splits the
remainder evenly across the foreign ones. -/
def timeShare (native : NamedProfile) (foreign : List NamedProfile) (nativePercent : UInt8)
    (periodMs : UInt32) : ScanSchedule :=
  let nativeMs := periodMs.toNat * min nativePercent.toNat 100 / 100
  let each := (periodMs.toNat - nativeMs) / foreign.length
  ⟨⟨native, .ofNat nativeMs⟩ ::
    if foreign.isEmpty then [] else foreign.map fun profile => ⟨profile, .ofNat each⟩⟩

/-- A time falls in the slot whose part of the period it lies in. -/
theorem locate_eq_some_iff {slots : List ScanSlot} {time index : Nat} :
    locate slots time = some index ↔
      duration (slots.take index) ≤ time ∧ time < duration (slots.take (index + 1)) := by
  induction slots generalizing time index with
  | nil => simp [locate, duration]
  | cons slot rest ih =>
    unfold locate
    cases index with
    | zero => simp [duration]
    | succ index =>
      have shifted := @ih (time - slot.dwellMs.toNat) index
      simp only [duration, take_succ_cons, map_cons, sum_cons] at shifted ⊢
      split
      · simp
        omega
      · simp [shifted]
        omega

/-- A time falls in some slot within the period. -/
theorem locate_isSome {slots : List ScanSlot} {time : Nat} :
    (locate slots time).isSome = true ↔ time < duration slots := by
  induction slots generalizing time with
  | nil => simp [locate, duration]
  | cons slot rest ih =>
    have shifted := @ih (time - slot.dwellMs.toNat)
    simp only [locate, duration, map_cons, sum_cons] at shifted ⊢
    split
    · simp
      omega
    · simp [shifted]
      omega

variable {schedule : ScanSchedule}

/-- Without a period no time falls in a slot, so the test for it decides nothing. -/
theorem active_eq {nowMs : Nat} :
    schedule.active nowMs = locate schedule.slots (nowMs % duration schedule.slots) := by
  unfold active
  split
  · rename_i empty
    rw [eq_comm, ← Option.not_isSome_iff_eq_none, locate_isSome, empty]
    exact Nat.not_lt_zero _
  · rfl

/-- A slot is active for its dwell time. -/
theorem active_count (index : Fin schedule.slots.length) :
    (duration schedule.slots).count (schedule.active · = some index.val) =
      schedule.slots[index].dwellMs.toNat := by
  have within : duration (schedule.slots.take (index + 1)) ≤ duration schedule.slots :=
    ((take_sublist _ _).map _).sum_le_sum (by simp)
  have part : {nowMs ∈ Finset.range (duration schedule.slots) |
      schedule.active nowMs = some index.val} =
      Finset.Ico (duration (schedule.slots.take index))
        (duration (schedule.slots.take (index + 1))) := by
    ext nowMs
    rw [Finset.mem_filter, Finset.mem_range, active_eq, locate_eq_some_iff, Finset.mem_Ico]
    constructor
    · rintro ⟨early, inside⟩
      rwa [Nat.mod_eq_of_lt early] at inside
    · intro inside
      have early := inside.2.trans_le within
      rw [Nat.mod_eq_of_lt early]
      exact ⟨early, inside⟩
  rw [Nat.count_eq_card_filter_range, part, Nat.card_Ico, ← take_append_getElem index.isLt]
  simp [duration]

/-- The slots of a shared period do not exceed it. -/
theorem timeShare_duration_le {native : NamedProfile} {foreign : List NamedProfile}
    {nativePercent : UInt8} {periodMs : UInt32} :
    duration (timeShare native foreign nativePercent periodMs).slots ≤ periodMs.toNat := by
  unfold timeShare
  have most := Nat.mul_le_mul_left periodMs.toNat (Nat.min_le_right nativePercent.toNat 100)
  have within := Nat.div_le_of_le_mul (Nat.mul_comm _ 100 ▸ most)
  generalize periodMs.toNat * min nativePercent.toNat 100 / 100 = nativeMs at within
  have shared (each : Nat) :
      duration (foreign.map fun profile => ⟨profile, .ofNat each⟩) ≤ foreign.length * each := by
    simpa [duration, Function.comp_def] using Nat.mul_le_mul_left _ (Nat.mod_le each _)
  have rest := (shared _).trans (Nat.mul_div_le (periodMs.toNat - nativeMs) foreign.length)
  have cut : (UInt32.ofNat nativeMs).toNat ≤ nativeMs := Nat.mod_le _ _
  simp only [duration, map_cons, sum_cons] at rest ⊢
  split
  · simp only [map_nil, sum_nil]
    omega
  · omega

/-- A schedule with a period is on the slot that the time of the period lies in, every slot
is active for its dwell time in each period, and a shared period is not exceeded. -/
theorem active_slots (schedule : ScanSchedule) :
    (∀ nowMs, (schedule.active nowMs).isSome = true ↔ 0 < duration schedule.slots) ∧
    (∀ nowMs index, schedule.active nowMs = some index ↔
      duration (schedule.slots.take index) ≤ nowMs % duration schedule.slots ∧
        nowMs % duration schedule.slots < duration (schedule.slots.take (index + 1))) ∧
    (∀ start (index : Fin schedule.slots.length),
      {nowMs ∈ Finset.Ico start (start + duration schedule.slots) |
        schedule.active nowMs = some index.val}.card = schedule.slots[index].dwellMs.toNat) ∧
    ∀ native foreign nativePercent periodMs,
      duration (timeShare native foreign nativePercent periodMs).slots ≤ periodMs.toNat := by
  refine ⟨fun nowMs => ?_, fun nowMs index => ?_, fun start index => ?_,
    fun _ _ _ _ => timeShare_duration_le⟩
  · rw [active_eq, locate_isSome]
    exact ⟨Nat.zero_lt_of_lt, Nat.mod_lt nowMs⟩
  · rw [active_eq, locate_eq_some_iff]
  · rw [Nat.filter_Ico_card_eq_of_periodic _ _ _ (by intro nowMs; simp [active_eq]), active_count]

end ScanSchedule

end MeshStar
