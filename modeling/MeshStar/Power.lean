import MeshStar.Protocol

/-!
# Energy management

The manager keeps the airtime used in the regulatory window and the sleep schedule of
a duty-cycled or sleeping node. Time `timeMax` stands for "no end".
-/

namespace MeshStar

/-- Operating mode. -/
inductive PowerMode where
  | alwaysOn
  | dutyCycle (listenMs sleepMs : Nat)
  | leaf (wakeIntervalS awakeWindowMs : UInt16)
  deriving DecidableEq, Repr

structure PowerConfig where
  mode : PowerMode
  maxAirtimePermille : Nat
  airtimeWindowMs : Nat
  maxBeaconSlowdown : Nat
  activityExtensionMs : Nat
  deriving DecidableEq, Repr

def PowerConfig.default : PowerConfig := ⟨.alwaysOn, 10, 3600000, 4, 6000⟩

/-- Runtime power state. -/
structure PowerManager where
  cfg : PowerConfig
  txLog : List (Nat × Nat)
  airtimeInWindow : Nat
  awake : Bool
  awakeUntil : Nat
  awakeSince : Nat
  nextWake : Nat
  stableIntervals : Nat
  deriving DecidableEq, Repr

namespace PowerManager

def new (cfg : PowerConfig) (now : Nat) : PowerManager :=
  ⟨cfg, [], 0, true, timeMax, now, now, 0⟩

/-- Drop the leading transmissions that left the window. -/
def pruneLog (now window : Nat) : List (Nat × Nat) → Nat → List (Nat × Nat) × Nat
  | [], used => ([], used)
  | (time, airtime) :: rest, used =>
    if now - time > window then pruneLog now window rest (used - airtime)
    else ((time, airtime) :: rest, used)

def prune (power : PowerManager) (now : Nat) : PowerManager :=
  let kept := pruneLog now power.cfg.airtimeWindowMs power.txLog power.airtimeInWindow
  { power with txLog := kept.1, airtimeInWindow := kept.2 }

/-- Whether a transmission fits the regulatory budget. -/
def canTransmit (power : PowerManager) (now airtimeMs : Nat) : PowerManager × Bool :=
  let pruned := power.prune now
  let budget := pruned.cfg.airtimeWindowMs * pruned.cfg.maxAirtimePermille / 1000
  (pruned, pruned.airtimeInWindow + airtimeMs ≤ budget)

def recordTx (power : PowerManager) (now airtimeMs : Nat) : PowerManager :=
  let pruned := power.prune now
  let logged := pruned.txLog ++ [(now, airtimeMs)]
  let used := pruned.airtimeInWindow + airtimeMs
  if logged.length > 4096 then
    { pruned with txLog := logged.tail, airtimeInWindow := used - (logged.headD (0, 0)).2 }
  else { pruned with txLog := logged, airtimeInWindow := used }

/-- Airtime used in the window, in permille of the window. -/
def airtimePermille (power : PowerManager) (now : Nat) : PowerManager × Nat :=
  let pruned := power.prune now
  (pruned, pruned.airtimeInWindow * 1000 / max pruned.cfg.airtimeWindowMs 1 % 2 ^ 16)

/-- Traffic for us extends the awake window, at most to five windows after waking. -/
def onActivity (power : PowerManager) (now : Nat) : PowerManager :=
  if power.awake && power.awakeUntil ≠ timeMax then
    let extend (window : Nat) : PowerManager :=
      let cap := power.awakeSince + 5 * max window 1
      let extended := max power.awakeUntil (now + power.cfg.activityExtensionMs)
      { power with awakeUntil := min extended (max cap power.awakeUntil) }
    match power.cfg.mode with
    | .leaf _ awakeWindowMs => extend awakeWindowMs.toNat
    | .dutyCycle listenMs _ => extend listenMs
    | .alwaysOn => power
  else power

/-- One step of a listen and sleep cycle: `some true` on waking, `some false` on falling
asleep. -/
def step (power : PowerManager) (now awakeLen sleepLen : Nat) : PowerManager × Option Bool :=
  if power.awake then
    if power.awakeUntil = timeMax then
      ({ power with awakeUntil := now + awakeLen, awakeSince := now }, none)
    else if now ≥ power.awakeUntil then
      ({ power with awake := false, nextWake := now + sleepLen }, some false)
    else (power, none)
  else if now ≥ power.nextWake then
    ({ power with awake := true, awakeUntil := now + awakeLen, awakeSince := now }, some true)
  else (power, none)

/-- Advance the schedule. -/
def tick (power : PowerManager) (now : Nat) : PowerManager × Option Bool :=
  match power.cfg.mode with
  | .alwaysOn =>
    if !power.awake then ({ power with awake := true, awakeUntil := timeMax }, some true)
    else (power, none)
  | .dutyCycle listenMs sleepMs => power.step now listenMs sleepMs
  | .leaf wakeIntervalS awakeWindowMs =>
    power.step now awakeWindowMs.toNat (wakeIntervalS.toNat * 1000)

/-- Postpone the next wake-up. -/
def delayWake (power : PowerManager) (ms : Nat) : PowerManager :=
  if !power.awake then { power with nextWake := power.nextWake + ms } else power

/-- Adaptive beacon slow-down. -/
def beaconMultiplier (power : PowerManager) (neighborhoodChanged : Bool) : PowerManager × Nat :=
  let stable := if neighborhoodChanged then 0 else min (power.stableIntervals + 1) 255
  ({ power with stableIntervals := stable },
    min (1 + stable / 4) (max power.cfg.maxBeaconSlowdown 1))

end PowerManager

end MeshStar
