import MeshStar.Power

/-!
# How long a node stays awake

A node that sleeps is awake for its window after every wake-up, and traffic extends the
time up to five windows. The extension is a maximum cut by a minimum with the current
deadline, so it does not shorten the time, and it does not pass the cap unless the deadline
did. As a deadline `timeMax` says that the window has not begun, hence all times here are
such that five windows end before it.
-/

namespace MeshStar

/-- The awake window of a mode that sleeps. -/
def PowerMode.window : PowerMode → Option Nat
  | .alwaysOn => none
  | .dutyCycle listenMs _ => some listenMs
  | .leaf _ awakeWindowMs => some awakeWindowMs.toNat

namespace PowerManager

/-- A call that moves the sleep schedule. -/
inductive Call where
  | tick (now : Nat)
  | activity (now : Nat)

def Call.time : Call → Nat
  | .tick now => now
  | .activity now => now

def call (power : PowerManager) : Call → PowerManager
  | .tick now => (power.tick now).1
  | .activity now => power.onActivity now

/-- The manager after a number of calls. -/
def calls (cfg : PowerConfig) (start : Nat) (made : List Call) : PowerManager :=
  made.foldl call (new cfg start)

/-- The window has begun, and its end is within the cap. -/
structure Capped (window : Nat) (power : PowerManager) : Prop where
  mode : power.cfg.mode.window = some window
  cap : power.awakeUntil ≤ power.awakeSince + 5 * max window 1
  early : power.awakeSince + 5 * max window 1 < timeMax

variable {window : Nat} {power : PowerManager}

/-- In a mode that sleeps, a tick is a step of the cycle. -/
theorem tick_cycle (mode : power.cfg.mode.window = some window) :
    ∃ sleepLen, ∀ now, power.tick now = power.step now window sleepLen := by
  unfold tick
  generalize power.cfg.mode = kind at mode
  cases kind with
  | alwaysOn => cases mode
  | _ =>
    cases mode
    exact ⟨_, fun _ => rfl⟩

/-- Traffic moves the end of the window alone, not back and not past the cap. -/
theorem onActivity_capped (capped : Capped window power) (now : Nat) :
    Capped window (power.onActivity now) ∧
      power.awakeUntil ≤ (power.onActivity now).awakeUntil := by
  obtain ⟨mode, cap, early⟩ := capped
  unfold onActivity
  split
  · cases kind : power.cfg.mode with
    | alwaysOn => exact ⟨⟨mode, cap, early⟩, Nat.le_refl _⟩
    | _ =>
      cases (congrArg PowerMode.window kind).symm.trans mode
      refine ⟨⟨mode, ?_, early⟩, ?_⟩ <;> simp only <;> omega
  · exact ⟨⟨mode, cap, early⟩, Nat.le_refl _⟩

/-- A window that begins is within the cap. -/
theorem Capped.begins {now : Nat} (mode : power.cfg.mode.window = some window)
    (early : now + 5 * max window 1 < timeMax) :
    Capped window { power with awake := true, awakeUntil := now + window, awakeSince := now } :=
  ⟨mode, by simp only; omega, early⟩

/-- Every call keeps the end of the window within the cap. No call moves it back while the
node is awake, and a tick ends the window exactly when its time has come. -/
theorem Capped.call (capped : Capped window power) (next : Call)
    (early : next.time + 5 * max window 1 < timeMax) :
    Capped window (power.call next) ∧ (power.awake = true →
      ((power.call next).awake = true → power.awakeUntil ≤ (power.call next).awakeUntil) ∧
      ∀ now, next = .tick now → ((power.call next).awake = false ↔ power.awakeUntil ≤ now)) := by
  cases next with
  | activity now =>
    obtain ⟨kept, later⟩ := onActivity_capped capped now
    exact ⟨kept, fun _ => ⟨fun _ => later, nofun⟩⟩
  | tick now =>
    obtain ⟨mode, cap, soon⟩ := capped
    obtain ⟨sleepLen, tick⟩ := tick_cycle mode
    rw [PowerManager.call, tick, step]
    by_cases awake : power.awake = true
    · rw [if_pos awake, if_neg (by omega)]
      split
      · rename_i due
        refine ⟨⟨mode, cap, soon⟩, fun _ => ⟨nofun, fun _ same => ?_⟩⟩
        cases same
        exact iff_of_true rfl due
      · rename_i waits
        refine ⟨⟨mode, cap, soon⟩, fun _ => ⟨fun _ => Nat.le_refl _, fun _ same => ?_⟩⟩
        cases same
        exact iff_of_false (by simp [awake]) waits
    · rw [if_neg awake]
      refine ⟨?_, fun up => absurd up awake⟩
      split
      · exact .begins mode early
      · exact ⟨mode, cap, soon⟩

/-- From the first tick on the end of the window is within the cap. -/
theorem calls_capped {cfg : PowerConfig} (start : Nat) (mode : cfg.mode.window = some window)
    {made : List Call} (early : ∀ call ∈ made, call.time + 5 * max window 1 < timeMax)
    (ticked : ∃ now, .tick now ∈ made) : Capped window (calls cfg start made) := by
  obtain ⟨first, ticked⟩ := ticked
  induction made with
  | nil => cases ticked
  | cons next rest ih =>
    obtain ⟨soon, later⟩ := List.forall_mem_cons.mp early
    cases next with
    | activity now =>
      -- Without an end there is nothing to extend.
      have idle : (new cfg start).call (.activity now) = new cfg start := by
        simp [PowerManager.call, onActivity, new]
      rw [calls, List.foldl_cons, idle]
      exact ih later ((List.mem_cons.mp ticked).resolve_left nofun)
    | tick now =>
      have begun : Capped window ((new cfg start).call (.tick now)) := by
        obtain ⟨sleepLen, tick⟩ := @tick_cycle window (new cfg start) mode
        rw [PowerManager.call, tick]
        exact Capped.begins mode soon
      exact rest.foldlRecOn _ begun
        (fun _ capped other member => (capped.call other (later _ member)).1)

/-- While a node that sleeps is awake after its first tick, the end of its window is at most
five windows after its beginning, the next call does not move it back, and a tick puts the
node to sleep exactly when it comes at or after the end. The order of the times does not
matter. -/
theorem awake_time_bounded {cfg : PowerConfig} (start : Nat) (made : List Call) (next : Call)
    (mode : cfg.mode.window = some window)
    (early : ∀ call ∈ next :: made, call.time + 5 * max window 1 < timeMax)
    (ticked : ∃ now, .tick now ∈ made) (awake : (calls cfg start made).awake = true) :
    let power := calls cfg start made
    power.awakeUntil ≤ power.awakeSince + 5 * max window 1 ∧
      ((power.call next).awake = true → power.awakeUntil ≤ (power.call next).awakeUntil) ∧
      ∀ now, next = .tick now → ((power.call next).awake = false ↔ power.awakeUntil ≤ now) := by
  obtain ⟨soon, earlier⟩ := List.forall_mem_cons.mp early
  have capped := calls_capped start mode earlier ticked
  exact ⟨capped.cap, (capped.call next soon).2 awake⟩

/-- A leaf that hears traffic twice is awake for five windows. -/
theorem awake_time_bounded_leaf :
    let power := calls { PowerConfig.default with mode := .leaf 60 1000 } 0
      [.tick 10, .activity 500, .activity 900]
    power.awakeUntil = 5010 ∧ (power.call (.tick 5010)).awake = false :=
  ⟨rfl, ((awake_time_bounded 0 _ (.tick 5010) rfl (by decide) ⟨10, by simp⟩ rfl).2.2 5010
    rfl).mpr (by decide)⟩

/-- At the end of time a window of no length never ends. -/
theorem awake_at_the_end_of_time :
    let power := calls { PowerConfig.default with mode := .dutyCycle 0 1000 } 0 [.tick timeMax]
    power.awake = true ∧ power.awakeUntil ≤ timeMax ∧
      (power.call (.tick timeMax)).awake = true := by
  decide

end PowerManager

end MeshStar
