import MeshStar.Power
import Mathlib.Algebra.BigOperators.Group.List.Basic
import Mathlib.Data.List.Basic

/-!
# The regulatory duty cycle

A transmission is permitted when the airtime already accounted for leaves room for it in
the budget of the window. The account is a log of the last transmissions and their sum;
what left the window is dropped when the account is next consulted. As long as everything
that is still in the window is also still in the log, the sum is the airtime of the
window, and no interval of the window's length ever holds more than the budget.

The log keeps at most 4096 transmissions. One more forgets the oldest, even when it is
still in the window, and its airtime becomes available a second time.
-/

namespace MeshStar

open List

/-- The airtime of a list of transmissions. -/
def airtime (log : List (Nat × Nat)) : Nat := (log.map Prod.snd).sum

@[simp] theorem airtime_nil : airtime [] = 0 := rfl

@[simp] theorem airtime_cons (entry : Nat × Nat) (log : List (Nat × Nat)) :
    airtime (entry :: log) = entry.2 + airtime log := by
  simp [airtime]

@[simp] theorem airtime_append (first second : List (Nat × Nat)) :
    airtime (first ++ second) = airtime first + airtime second := by
  simp [airtime]

/-- Leaving transmissions out does not add airtime. -/
theorem airtime_sublist {part whole : List (Nat × Nat)} (sublist : part.Sublist whole) :
    airtime part ≤ airtime whole := by
  induction sublist with
  | slnil => exact Nat.le_refl _
  | cons entry _ ih =>
    rw [airtime_cons]
    omega
  | cons_cons entry _ ih =>
    rw [airtime_cons, airtime_cons]
    omega

/-- The transmissions of a closed interval. -/
def within (sent : List (Nat × Nat)) (opening length : Nat) : List (Nat × Nat) :=
  sent.filter (fun entry => decide (opening ≤ entry.1 ∧ entry.1 ≤ opening + length))

theorem within_append (first second : List (Nat × Nat)) (opening length : Nat) :
    within (first ++ second) opening length =
      within first opening length ++ within second opening length := filter_append _ _

theorem within_singleton (entry : Nat × Nat) (opening length : Nat) :
    within [entry] opening length =
      if opening ≤ entry.1 ∧ entry.1 ≤ opening + length then [entry] else [] := by
  simp [within, filter_cons]

/-- The transmissions that are not older than the window. -/
def recent (sent : List (Nat × Nat)) (now window : Nat) : List (Nat × Nat) :=
  sent.filter (fun entry => decide (now - entry.1 ≤ window))

namespace PowerManager

/-- The airtime that the window may hold. -/
def budget (cfg : PowerConfig) : Nat := cfg.airtimeWindowMs * cfg.maxAirtimePermille / 1000

/-- Pruning an exact account drops only what left the window and leaves an exact account. -/
theorem pruneLog_exact (now window : Nat) (log : List (Nat × Nat)) :
    ∃ gone, log = gone ++ (pruneLog now window log (airtime log)).1 ∧
      (∀ entry ∈ gone, window < now - entry.1) ∧
      (pruneLog now window log (airtime log)).2 =
        airtime (pruneLog now window log (airtime log)).1 := by
  induction log with
  | nil => exact ⟨[], rfl, by simp, rfl⟩
  | cons entry rest ih =>
    obtain ⟨time, spent⟩ := entry
    simp only [pruneLog, airtime_cons, Nat.add_sub_cancel_left]
    by_cases old : now - time > window
    · obtain ⟨gone, split, left, exact⟩ := ih
      rw [if_pos old]
      refine ⟨(time, spent) :: gone, by rw [cons_append, ← split], ?_, exact⟩
      intro other member
      rcases mem_cons.mp member with rfl | member
      · exact old
      · exact left other member
    · rw [if_neg old]
      exact ⟨[], rfl, by simp, (airtime_cons (time, spent) rest).symm⟩

/-- In a log ordered by time, everything that pruning keeps is in the window. -/
theorem pruneLog_recent (now window used : Nat) (log : List (Nat × Nat))
    (ordered : log.Pairwise (fun earlier later => earlier.1 ≤ later.1)) :
    ∀ entry ∈ (pruneLog now window log used).1, now - entry.1 ≤ window := by
  induction log generalizing used with
  | nil => simp [pruneLog]
  | cons first rest ih =>
    obtain ⟨time, spent⟩ := first
    obtain ⟨after, ordered⟩ := pairwise_cons.mp ordered
    rw [pruneLog]
    by_cases old : now - time > window
    · rw [if_pos old]
      exact ih (used - spent) ordered
    · rw [if_neg old]
      intro entry member
      rcases mem_cons.mp member with rfl | member
      · exact Nat.le_of_not_lt old
      · have later : time ≤ entry.1 := after entry member
        omega

end PowerManager

/-- A call of the power manager. `transmit` is `record_tx` right after `can_transmit`
allowed the same transmission. -/
inductive PowerCall where
  | canTransmit (airtimeMs : Nat)
  | transmit (airtimeMs : Nat)
  | airtimePermille
  | onActivity
  | tick
  | delayWake (ms : Nat)
  | beaconMultiplier (neighborhoodChanged : Bool)
  deriving DecidableEq, Repr

/-- A manager, the time of the last call and everything transmitted so far. -/
structure Meter where
  power : PowerManager
  clock : Nat
  sent : List (Nat × Nat)
  deriving DecidableEq, Repr

namespace Meter

def new (cfg : PowerConfig) (now : Nat) : Meter := ⟨.new cfg now, now, []⟩

/-- What a call does at a time. -/
def step (meter : Meter) (now : Nat) : PowerCall → Meter
  | .canTransmit airtimeMs => ⟨(meter.power.canTransmit now airtimeMs).1, now, meter.sent⟩
  | .transmit airtimeMs =>
    let asked := meter.power.canTransmit now airtimeMs
    if asked.2 then ⟨asked.1.recordTx now airtimeMs, now, meter.sent ++ [(now, airtimeMs)]⟩
    else ⟨asked.1, now, meter.sent⟩
  | .airtimePermille => ⟨(meter.power.airtimePermille now).1, now, meter.sent⟩
  | .onActivity => ⟨meter.power.onActivity now, now, meter.sent⟩
  | .tick => ⟨(meter.power.tick now).1, now, meter.sent⟩
  | .delayWake ms => ⟨meter.power.delayWake ms, now, meter.sent⟩
  | .beaconMultiplier changed => ⟨(meter.power.beaconMultiplier changed).1, now, meter.sent⟩

/-- The states reached by calls at times that never go back, each permitted where it is
made. -/
inductive Run (allowed : Meter → Nat → PowerCall → Prop) (start : Meter) : Meter → Prop where
  | refl : Run allowed start start
  | step {meter : Meter} (now : Nat) (call : PowerCall) (earlier : Run allowed start meter)
      (forward : meter.clock ≤ now) (permitted : allowed meter now call) :
      Run allowed start (meter.step now call)

/-- Every call is permitted. -/
def AnyCall (_ : Meter) (_ : Nat) (_ : PowerCall) : Prop := True

/-- A transmission is recorded only while the window holds less than a full log. -/
def LogHasRoom (meter : Meter) (now : Nat) (call : PowerCall) : Prop :=
  ∀ airtimeMs, call = .transmit airtimeMs → (meter.power.canTransmit now airtimeMs).2 = true →
    (recent meter.sent now meter.power.cfg.airtimeWindowMs).length < 4096

/-- The account is exact: the log ends everything transmitted, what it no longer has left
the window, and its sum is right. -/
structure Accounts (cfg : PowerConfig) (meter : Meter) : Prop where
  configured : meter.power.cfg = cfg
  logged : ∃ gone, meter.sent = gone ++ meter.power.txLog ∧
    ∀ entry ∈ gone, cfg.airtimeWindowMs < meter.clock - entry.1
  summed : meter.power.airtimeInWindow = airtime meter.power.txLog
  ordered : meter.sent.Pairwise (fun earlier later => earlier.1 ≤ later.1)
  past : ∀ entry ∈ meter.sent, entry.1 ≤ meter.clock

/-- No interval of the window's length holds more than the budget. -/
def KeepsBudget (cfg : PowerConfig) (meter : Meter) : Prop :=
  ∀ opening, airtime (within meter.sent opening cfg.airtimeWindowMs) ≤ PowerManager.budget cfg

variable {cfg : PowerConfig} {meter : Meter} {now : Nat}

/-- A new manager has an exact account of nothing. -/
theorem accounts_new (cfg : PowerConfig) (now : Nat) : Accounts cfg (new cfg now) where
  configured := rfl
  logged := ⟨[], rfl, by simp⟩
  summed := rfl
  ordered := List.Pairwise.nil
  past := by simp [new]

/-- Time passes over an exact account; calls that leave the log alone keep it exact. -/
theorem Accounts.same (accounts : Accounts cfg meter) {power : PowerManager}
    (forward : meter.clock ≤ now) (configured : power.cfg = meter.power.cfg)
    (logged : power.txLog = meter.power.txLog)
    (summed : power.airtimeInWindow = meter.power.airtimeInWindow) :
    Accounts cfg ⟨power, now, meter.sent⟩ where
  configured := configured.trans accounts.configured
  logged := by
    obtain ⟨gone, split, left⟩ := accounts.logged
    refine ⟨gone, by rw [logged]; exact split, ?_⟩
    intro entry member
    exact Nat.lt_of_lt_of_le (left entry member) (Nat.sub_le_sub_right forward _)
  summed := by rw [summed, logged, accounts.summed]
  ordered := accounts.ordered
  past := fun entry member => Nat.le_trans (accounts.past entry member) forward

/-- Pruning keeps the account exact. -/
theorem Accounts.prune (accounts : Accounts cfg meter) (forward : meter.clock ≤ now) :
    Accounts cfg ⟨meter.power.prune now, now, meter.sent⟩ := by
  obtain ⟨gone, split, left⟩ := accounts.logged
  obtain ⟨dropped, cut, old, exact⟩ :=
    PowerManager.pruneLog_exact now meter.power.cfg.airtimeWindowMs meter.power.txLog
  rw [← accounts.summed] at cut exact
  refine ⟨accounts.configured, ⟨gone ++ dropped, ?_, ?_⟩, exact, accounts.ordered, ?_⟩
  · change meter.sent = gone ++ dropped ++ (meter.power.prune now).txLog
    rw [split, append_assoc]
    exact congrArg _ cut
  · intro entry member
    rcases mem_append.mp member with member | member
    · exact Nat.lt_of_lt_of_le (left entry member) (Nat.sub_le_sub_right forward _)
    · have older := old entry member
      rwa [accounts.configured] at older
  · intro entry member
    exact Nat.le_trans (accounts.past entry member) forward

/-- What pruning keeps is no longer than what the window holds. -/
theorem Accounts.pruned_length (accounts : Accounts cfg meter) (now : Nat) :
    (meter.power.prune now).txLog.length ≤
      (recent meter.sent now meter.power.cfg.airtimeWindowMs).length := by
  obtain ⟨gone, split, _⟩ := accounts.logged
  obtain ⟨dropped, cut, _, _⟩ :=
    PowerManager.pruneLog_exact now meter.power.cfg.airtimeWindowMs meter.power.txLog
  rw [← accounts.summed] at cut
  have ordered : meter.power.txLog.Pairwise (fun earlier later => earlier.1 ≤ later.1) := by
    have whole := accounts.ordered
    rw [split] at whole
    exact (pairwise_append.mp whole).2.1
  have inside := PowerManager.pruneLog_recent now meter.power.cfg.airtimeWindowMs
    meter.power.airtimeInWindow _ ordered
  have sublist : (meter.power.prune now).txLog.Sublist meter.sent := by
    rw [split, cut]
    exact (sublist_append_right dropped _).trans (sublist_append_right gone _)
  have all : (meter.power.prune now).txLog.filter
      (fun entry => decide (now - entry.1 ≤ meter.power.cfg.airtimeWindowMs)) =
      (meter.power.prune now).txLog := by
    apply filter_eq_self.mpr
    intro entry member
    exact decide_eq_true (inside entry member)
  rw [← all]
  exact (sublist.filter _).length_le

variable (power : PowerManager)

/-- An exact account is pruned once and stays as it is. -/
theorem prune_prune (now : Nat) : (power.prune now).prune now = power.prune now := by
  have again : ∀ (log : List (Nat × Nat)) (used : Nat),
      PowerManager.pruneLog now power.cfg.airtimeWindowMs
        (PowerManager.pruneLog now power.cfg.airtimeWindowMs log used).1
        (PowerManager.pruneLog now power.cfg.airtimeWindowMs log used).2 =
      PowerManager.pruneLog now power.cfg.airtimeWindowMs log used := by
    intro log
    induction log with
    | nil => intro used; rfl
    | cons first rest ih =>
      intro used
      obtain ⟨time, spent⟩ := first
      by_cases old : now - time > power.cfg.airtimeWindowMs
      · simp only [PowerManager.pruneLog, if_pos old]
        exact ih _
      · simp only [PowerManager.pruneLog, if_neg old]
  unfold PowerManager.prune
  rw [again]

/-- With room in the log, a permitted transmission is logged and nothing is forgotten. -/
theorem recordTx_room {now airtimeMs : Nat} (room : (power.prune now).txLog.length < 4096) :
    (power.prune now).recordTx now airtimeMs = { power.prune now with
      txLog := (power.prune now).txLog ++ [(now, airtimeMs)]
      airtimeInWindow := (power.prune now).airtimeInWindow + airtimeMs } := by
  unfold PowerManager.recordTx
  rw [prune_prune]
  apply if_neg
  rw [length_append, length_singleton]
  omega

/-- Recording with room in the log keeps the account exact. -/
theorem Accounts.record (accounts : Accounts cfg meter) (airtimeMs : Nat)
    (forward : meter.clock ≤ now) (room : (meter.power.prune now).txLog.length < 4096) :
    Accounts cfg ⟨(meter.power.prune now).recordTx now airtimeMs, now,
      meter.sent ++ [(now, airtimeMs)]⟩ := by
  have pruned := accounts.prune forward
  obtain ⟨gone, split, left⟩ := pruned.logged
  rw [recordTx_room _ room]
  refine ⟨accounts.configured, ⟨gone, ?_, left⟩, ?_, ?_, ?_⟩
  · change meter.sent ++ _ = gone ++ ((meter.power.prune now).txLog ++ _)
    rw [← append_assoc, ← split]
  · have exact := pruned.summed
    simp only at exact ⊢
    rw [airtime_append, ← exact, airtime_cons, airtime_nil, Nat.add_zero]
  · apply pairwise_append.mpr
    refine ⟨accounts.ordered, pairwise_singleton _ _, ?_⟩
    intro earlier member later last
    rw [mem_singleton.mp last]
    exact Nat.le_trans (accounts.past earlier member) forward
  · intro entry member
    rcases mem_append.mp member with member | member
    · exact Nat.le_trans (accounts.past entry member) forward
    · rw [mem_singleton.mp member]

/-- The part of an interval around now that was sent before is in the pruned log. -/
theorem Accounts.interval (accounts : Accounts cfg meter) {opening : Nat}
    (forward : meter.clock ≤ now) (reaches : now ≤ opening + cfg.airtimeWindowMs) :
    airtime (within meter.sent opening cfg.airtimeWindowMs) ≤
      (meter.power.prune now).airtimeInWindow := by
  have pruned := accounts.prune forward
  obtain ⟨gone, split, left⟩ := pruned.logged
  have none : within gone opening cfg.airtimeWindowMs = [] := by
    apply filter_eq_nil_iff.mpr
    intro entry member inside
    have older := left entry member
    have after : opening ≤ entry.1 := (of_decide_eq_true inside).1
    simp only at older
    omega
  have cut : within meter.sent opening cfg.airtimeWindowMs =
      within (meter.power.prune now).txLog opening cfg.airtimeWindowMs := by
    simp only at split
    rw [split, within_append, none, nil_append]
  have exact : (meter.power.prune now).airtimeInWindow = airtime (meter.power.prune now).txLog :=
    pruned.summed
  rw [cut, exact]
  exact airtime_sublist filter_sublist

/-- A permitted transmission keeps every interval within the budget. -/
theorem KeepsBudget.record (keeps : KeepsBudget cfg meter) (accounts : Accounts cfg meter)
    {airtimeMs : Nat} (forward : meter.clock ≤ now) {power : PowerManager}
    (fits : (meter.power.canTransmit now airtimeMs).2 = true) :
    KeepsBudget cfg ⟨power, now, meter.sent ++ [(now, airtimeMs)]⟩ := by
  have fits : (meter.power.prune now).airtimeInWindow + airtimeMs ≤ PowerManager.budget cfg := by
    have asked := of_decide_eq_true fits
    change _ ≤ PowerManager.budget meter.power.cfg at asked
    rwa [accounts.configured] at asked
  intro opening
  change airtime (within (meter.sent ++ [(now, airtimeMs)]) opening _) ≤ _
  rw [within_append, airtime_append, within_singleton]
  by_cases inside : opening ≤ now ∧ now ≤ opening + cfg.airtimeWindowMs
  · have before := accounts.interval forward inside.2
    rw [if_pos inside, airtime_cons, airtime_nil]
    omega
  · have before := keeps opening
    rw [if_neg inside, airtime_nil]
    omega

/-- The calls about sleep and beacons leave the account alone. -/
theorem onActivity_account (now : Nat) :
    (power.onActivity now).cfg = power.cfg ∧ (power.onActivity now).txLog = power.txLog ∧
      (power.onActivity now).airtimeInWindow = power.airtimeInWindow := by
  unfold PowerManager.onActivity
  split
  · split <;> exact ⟨rfl, rfl, rfl⟩
  · exact ⟨rfl, rfl, rfl⟩

theorem step_account {now awakeLen sleepLen : Nat} :
    (power.step now awakeLen sleepLen).1.cfg = power.cfg ∧
      (power.step now awakeLen sleepLen).1.txLog = power.txLog ∧
      (power.step now awakeLen sleepLen).1.airtimeInWindow = power.airtimeInWindow := by
  unfold PowerManager.step
  repeat' split
  all_goals exact ⟨rfl, rfl, rfl⟩

theorem tick_account (now : Nat) :
    (power.tick now).1.cfg = power.cfg ∧ (power.tick now).1.txLog = power.txLog ∧
      (power.tick now).1.airtimeInWindow = power.airtimeInWindow := by
  unfold PowerManager.tick
  split
  · split <;> exact ⟨rfl, rfl, rfl⟩
  · exact step_account _
  · exact step_account _

theorem delayWake_account (ms : Nat) :
    (power.delayWake ms).cfg = power.cfg ∧ (power.delayWake ms).txLog = power.txLog ∧
      (power.delayWake ms).airtimeInWindow = power.airtimeInWindow := by
  unfold PowerManager.delayWake
  split <;> exact ⟨rfl, rfl, rfl⟩

/-- One call made with room in the log keeps the account exact and the budget. -/
theorem step_keeps (accounts : Accounts cfg meter) (keeps : KeepsBudget cfg meter)
    {call : PowerCall} (forward : meter.clock ≤ now) (room : LogHasRoom meter now call) :
    Accounts cfg (meter.step now call) ∧ KeepsBudget cfg (meter.step now call) := by
  cases call with
  | canTransmit airtimeMs => exact ⟨accounts.prune forward, keeps⟩
  | transmit airtimeMs =>
    unfold Meter.step
    cases fits : (meter.power.canTransmit now airtimeMs).2 with
    | true =>
      simp only [fits, if_true]
      have short := Nat.lt_of_le_of_lt (accounts.pruned_length now) (room airtimeMs rfl fits)
      exact ⟨accounts.record airtimeMs forward short, keeps.record accounts forward fits⟩
    | false =>
      simp only [fits, Bool.false_eq_true, if_false]
      exact ⟨accounts.prune forward, keeps⟩
  | airtimePermille => exact ⟨accounts.prune forward, keeps⟩
  | onActivity =>
    obtain ⟨configured, logged, summed⟩ := onActivity_account meter.power now
    exact ⟨accounts.same forward configured logged summed, keeps⟩
  | tick =>
    obtain ⟨configured, logged, summed⟩ := tick_account meter.power now
    exact ⟨accounts.same forward configured logged summed, keeps⟩
  | delayWake ms =>
    obtain ⟨configured, logged, summed⟩ := delayWake_account meter.power ms
    exact ⟨accounts.same forward configured logged summed, keeps⟩
  | beaconMultiplier changed => exact ⟨accounts.same forward rfl rfl rfl, keeps⟩

/-- In every run that records only while the window holds less than a full log, no
interval of the window's length ever holds more airtime than the budget. -/
theorem airtime_within_budget (cfg : PowerConfig) (start : Nat) (meter : Meter)
    (run : Run LogHasRoom (new cfg start) meter) (opening : Nat) :
    airtime (within meter.sent opening cfg.airtimeWindowMs) ≤
      cfg.airtimeWindowMs * cfg.maxAirtimePermille / 1000 := by
  have both : Accounts cfg meter ∧ KeepsBudget cfg meter := by
    induction run with
    | refl => exact ⟨accounts_new cfg start, fun _ => Nat.zero_le _⟩
    | step now call _ forward permitted ih =>
      exact step_keeps ih.1 ih.2 forward permitted
  exact both.2 opening

end Meter

namespace Overrun

open Meter

/-- A node that may use a tenth of an hour, as the 869.4 MHz sub-band permits. -/
def tenth : PowerConfig := { PowerConfig.default with maxAirtimePermille := 100 }

/-- The first transmissions of a run that sends 50 ms frames back to back. -/
def frames (count : Nat) : List (Nat × Nat) :=
  (List.range count).map (fun index => (50 * index, 50))

/-- The log after so many frames: the last 4096 of them, all still in the window. -/
structure Streams (count : Nat) (meter : Meter) : Prop where
  configured : meter.power.cfg = tenth
  clock : meter.clock ≤ 50 * count
  sent : meter.sent = frames count
  length : meter.power.txLog.length = min count 4096
  each : ∀ entry ∈ meter.power.txLog, entry.2 = 50
  summed : meter.power.airtimeInWindow = 50 * min count 4096

/-- Six minutes of frames stay in the hour: pruning drops none of them. -/
theorem Streams.prune {count : Nat} {meter : Meter} (streams : Streams count meter)
    (early : count ≤ 7200) : meter.power.prune (50 * count) = meter.power := by
  unfold PowerManager.prune
  have window : meter.power.cfg.airtimeWindowMs = 3600000 := by
    rw [streams.configured]
    rfl
  cases logged : meter.power.txLog with
  | nil =>
    rw [PowerManager.pruneLog, ← logged]
  | cons first rest =>
    have young : ¬ 50 * count - first.1 > meter.power.cfg.airtimeWindowMs := by omega
    rw [PowerManager.pruneLog, if_neg young, ← logged]

/-- The account of at most 4096 frames never refuses the next one. -/
theorem Streams.permitted {count : Nat} {meter : Meter} (streams : Streams count meter)
    (early : count ≤ 7200) : (meter.power.canTransmit (50 * count) 50).2 = true := by
  unfold PowerManager.canTransmit
  rw [streams.prune early]
  apply decide_eq_true
  rw [streams.summed, streams.configured]
  change 50 * min count 4096 + 50 ≤ 360000
  omega

/-- The log after one more frame: a full log forgets its oldest. -/
theorem Streams.record {count : Nat} {meter : Meter} (streams : Streams count meter)
    (early : count ≤ 7200) : Streams (count + 1) (meter.step (50 * count) (.transmit 50)) := by
  have taken : meter.step (50 * count) (.transmit 50) =
      ⟨meter.power.recordTx (50 * count) 50, 50 * count, meter.sent ++ [(50 * count, 50)]⟩ := by
    unfold Meter.step
    simp only [streams.permitted early, if_true]
    rw [PowerManager.canTransmit, streams.prune early]
  have grown : (meter.power.txLog ++ [(50 * count, 50)]).length = min count 4096 + 1 := by
    rw [length_append, streams.length, length_singleton]
  have each : ∀ entry ∈ meter.power.txLog ++ [(50 * count, 50)], entry.2 = 50 := by
    intro entry member
    rcases mem_append.mp member with member | member
    · exact streams.each entry member
    · rw [mem_singleton.mp member]
  have sent : meter.sent ++ [(50 * count, 50)] = frames (count + 1) := by
    rw [streams.sent, frames, frames, range_succ, map_append]
    rfl
  rw [taken, PowerManager.recordTx, streams.prune early]
  by_cases full : (meter.power.txLog ++ [(50 * count, 50)]).length > 4096
  · rw [if_pos full]
    refine ⟨streams.configured, Nat.mul_le_mul_left _ (Nat.le_succ _), sent, ?_, ?_, ?_⟩
    · change (meter.power.txLog ++ [(50 * count, 50)]).tail.length = _
      rw [length_tail]
      omega
    · intro entry member
      exact each entry (mem_of_mem_tail member)
    · have head : ((meter.power.txLog ++ [(50 * count, 50)]).headD (0, 0)).2 = 50 := by
        cases logged : meter.power.txLog ++ [(50 * count, 50)] with
        | nil => simp at logged
        | cons first rest => exact each first (by rw [logged]; exact mem_cons_self)
      change meter.power.airtimeInWindow + 50 - _ = _
      rw [head, streams.summed]
      omega
  · rw [if_neg full]
    refine ⟨streams.configured, Nat.mul_le_mul_left _ (Nat.le_succ _), sent, ?_, each, ?_⟩
    · change (meter.power.txLog ++ [(50 * count, 50)]).length = _
      omega
    · change meter.power.airtimeInWindow + 50 = _
      rw [streams.summed]
      omega

/-- Frames can be sent back to back for as long as one likes. -/
theorem streams (count : Nat) (early : count ≤ 7201) :
    ∃ meter, Meter.Run AnyCall (new tenth 0) meter ∧ Streams count meter := by
  induction count with
  | zero =>
    refine ⟨_, .refl, rfl, Nat.le_refl _, rfl, rfl, ?_, rfl⟩
    intro entry member
    exact absurd member (not_mem_nil)
  | succ count ih =>
    obtain ⟨meter, run, streams⟩ := ih (by omega)
    exact ⟨_, run.step _ _ streams.clock trivial, streams.record (by omega)⟩

/-- The airtime of frames sent back to back, as far as an interval from the start covers
them. -/
theorem airtime_frames (count length : Nat) (covered : 50 * count ≤ length) :
    airtime (within (frames count) 0 length) = 50 * count := by
  have all : within (frames count) 0 length = frames count := by
    apply filter_eq_self.mpr
    intro entry member
    obtain ⟨index, inRange, rfl⟩ := mem_map.mp member
    have below : index < count := mem_range.mp inRange
    apply decide_eq_true
    constructor
    · exact Nat.zero_le _
    · change 50 * index ≤ 0 + length
      omega
  rw [all]
  clear all covered
  induction count with
  | zero => rfl
  | succ count ih =>
    have last : frames (count + 1) = frames count ++ [(50 * count, 50)] := by
      rw [frames, frames, range_succ, map_append]
      rfl
    rw [last, airtime_append, ih, airtime_cons, airtime_nil]
    omega

/-- With a budget of 360 seconds in the hour, 7201 frames of 50 ms, each permitted, use
360.05 seconds in a little over six minutes. -/
theorem budget_exceeded : ∃ meter, Meter.Run AnyCall (new tenth 0) meter ∧
      ¬ airtime (within meter.sent 0 tenth.airtimeWindowMs) ≤
        tenth.airtimeWindowMs * tenth.maxAirtimePermille / 1000 := by
  obtain ⟨meter, run, streams⟩ := streams 7201 (Nat.le_refl _)
  refine ⟨meter, run, ?_⟩
  rw [streams.sent, airtime_frames 7201 _ (by decide)]
  decide

/-- Four frames at times across a window: two that use up the budget, one that is refused, and
one after the first has left the window. -/
def crossing : Meter :=
  ((((new tenth 0).step 0 (.transmit 200000)).step 1000 (.transmit 160000)).step 2000
    (.transmit 50)).step 3600001 (.transmit 100000)

/-- They stay within the budget, in every interval. -/
theorem crossing_within_budget :
    crossing.sent = [(0, 200000), (1000, 160000), (3600001, 100000)] ∧
      crossing.power.txLog = [(1000, 160000), (3600001, 100000)] ∧
      ∀ opening, airtime (within crossing.sent opening tenth.airtimeWindowMs) ≤
        tenth.airtimeWindowMs * tenth.maxAirtimePermille / 1000 := by
  have run : Meter.Run LogHasRoom (new tenth 0) crossing := by
    refine .step _ _ (.step _ _ (.step _ _ (.step _ _ .refl ?_ ?_) ?_ ?_) ?_ ?_) ?_ ?_
    · decide
    · exact fun _ _ _ => by decide
    · decide
    · exact fun _ _ _ => by decide
    · decide
    · exact fun _ _ _ => by decide
    · decide
    · exact fun _ _ _ => by decide
  exact ⟨by decide, by decide, airtime_within_budget tenth 0 crossing run⟩

end Overrun

end MeshStar
