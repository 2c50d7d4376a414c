import MeshStar.Interop.Gateway
import MeshStar.Interop.Native

/-!
# What bridging accounts for

For every target a message is denied by the policy, stopped by the loop guard, not
representable, held back by the rate limit, or sent, and each of these has its counter.
One way out has none: a message that passes all of them and then fails to encode. The
losses of a translation are counted as soon as it is made, before the rate limit and the
encoder have decided.

`Ready` says that a message has reached the rate limiter. `targetAccounted_iff` says when
one target is accounted for, and `bridgeAll_accounted_iff` extends it to all of them.
-/

namespace MeshStar

open List

/-- The targets whose outcome has been counted. -/
def GatewayStats.settled (stats : GatewayStats) : Nat :=
  stats.policyDenied + stats.loopsPrevented + stats.unsupported + stats.rateLimited +
    stats.translated

namespace Gateway

/-- The message may cross, and this is its translation for the target. -/
structure Ready (gateway : Gateway) (message : UnifiedMessage) (target : ProtocolId)
    (context : ProtocolContext) (adapter : RadioProtocol) (translated : UnifiedMessage)
    (outcome : TranslationOutcome) : Prop where
  allowed : (gateway.policy.evaluate message target).allowed = true
  checked : gateway.loops.check message target = .ok
  present : gateway.detector.adapter target = some adapter
  translates : translate message target adapter.capabilities gateway.id context.nowMs
    gateway.senderPrefix = (some translated, outcome)

/-- A translation that gives a message is exact or has lost something. -/
theorem Ready.named {gateway : Gateway} {message : UnifiedMessage} {target : ProtocolId}
    {context : ProtocolContext} {adapter : RadioProtocol} {translated : UnifiedMessage}
    {outcome : TranslationOutcome}
    (ready : gateway.Ready message target context adapter translated outcome) :
    outcome = .exact ∨ ∃ losses, outcome = .degraded losses := by
  rcases translate_cases message target adapter.capabilities gateway.id context.nowMs
      gateway.senderPrefix with ⟨why, _, unsupported⟩ | ⟨payload, cut, other, _, carried, named⟩
  · cases ready.translates.symm.trans unsupported
  · cases ready.translates.symm.trans carried
    exact named

/-- Count a lossy translation. -/
def countLoss (gateway : Gateway) : TranslationOutcome → Gateway
  | .degraded _ => { gateway with stats.degraded := gateway.stats.degraded + 1 }
  | _ => gateway

/-! ## The rate limiter -/

variable (gateway : Gateway) (outcome : TranslationOutcome)

/-- Taking a token changes nothing but the buckets. -/
theorem bucket_eq (target : ProtocolId) (now : Nat) : (gateway.bucket target now).1 =
      { gateway with buckets := (gateway.bucket target now).1.buckets } := by
  unfold bucket
  cases takeToken target now gateway.buckets with
  | some taken => rfl
  | none =>
    dsimp only
    cases takeToken target now (gateway.setRateLimit target 6 3).buckets with
    | some taken => rfl
    | none => rfl

/-- A protocol without a limit starts with the default one. -/
theorem granted_of_unlimited {gateway : Gateway} (unlimited : gateway.buckets = [])
    (target : ProtocolId) (now : Nat) :
    (gateway.bucket target now).2 =
      (Bucket.take ⟨single 3, single (6 / 60), single 3, 0⟩ now).2 := by
  simp [bucket, setRateLimit, takeToken, unlimited]

/-- Whether a token is granted depends on the buckets alone. -/
theorem granted_countLoss (target : ProtocolId) (now : Nat) :
    ((gateway.countLoss outcome).bucket target now).2 = (gateway.bucket target now).2 := by
  cases outcome with
  | exact => rfl
  | unsupported why => rfl
  | degraded losses =>
    unfold bucket countLoss
    dsimp only
    cases takeToken target now gateway.buckets with
    | some taken => rfl
    | none =>
      dsimp only [setRateLimit]
      split
      · rfl
      · rfl

variable [Primitives]

/-! ## The exits of one target -/

omit [Primitives] in
theorem countLoss_settled : (gateway.countLoss outcome).stats.settled = gateway.stats.settled := by
  cases outcome with
  | exact => rfl
  | unsupported why => rfl
  | degraded losses => rfl

omit [Primitives] in
theorem countLoss_loops : (gateway.countLoss outcome).loops = gateway.loops := by
  cases outcome with
  | exact => rfl
  | unsupported why => rfl
  | degraded losses => rfl

variable {gateway : Gateway} {message : UnifiedMessage} {target : ProtocolId}
  {context : ProtocolContext} {adapter : RadioProtocol} {translated : UnifiedMessage}
  {outcome : TranslationOutcome}

/-- A ready message goes to the rate limiter, its losses already counted. -/
theorem bridgeOne_ready (ready : gateway.Ready message target context adapter translated outcome) :
    gateway.bridgeOne message target context =
      (gateway.countLoss outcome).emit adapter translated target context := by
  have named := ready.named
  unfold bridgeOne
  rw [if_neg (by rw [ready.allowed]; decide), if_neg (by rw [ready.checked]; decide), ready.present]
  dsimp only
  rw [ready.translates]
  rcases named with exactly | ⟨losses, lossy⟩
  · subst exactly
    rfl
  · subst lossy
    rfl

/-- A message that is not ready is counted once, as refused. -/
theorem bridgeOne_refused (present : gateway.detector.adapter target = some adapter)
    (refused : ∀ translated outcome,
      ¬gateway.Ready message target context adapter translated outcome) :
    ∃ stats, gateway.bridgeOne message target context = ({ gateway with stats := stats }, none) ∧
      stats.settled = gateway.stats.settled + 1 ∧ stats.degraded = gateway.stats.degraded := by
  unfold bridgeOne
  by_cases allowed : (gateway.policy.evaluate message target).allowed = true
  case neg =>
    rw [if_pos (by rw [(Bool.not_eq_true _).mp allowed]; rfl)]
    refine ⟨_, rfl, ?_, rfl⟩
    dsimp only [GatewayStats.settled]
    omega
  rw [if_neg (by rw [allowed]; decide)]
  by_cases checked : gateway.loops.check message target = .ok
  case neg =>
    rw [if_pos checked]
    refine ⟨_, rfl, ?_, rfl⟩
    dsimp only [GatewayStats.settled]
    omega
  rw [if_neg (not_not.mpr checked), present]
  dsimp only
  cases made : translate message target adapter.capabilities gateway.id context.nowMs
      gateway.senderPrefix with
  | mk result outcome =>
    cases result with
    | some translated => exact absurd ⟨allowed, checked, present, made⟩ (refused translated outcome)
    | none =>
      rcases translate_cases message target adapter.capabilities gateway.id context.nowMs
          gateway.senderPrefix with ⟨why, _, unsupported⟩ | ⟨payload, cut, named, _, carried, _⟩
      · cases made.symm.trans unsupported
        refine ⟨_, rfl, ?_, rfl⟩
        dsimp only [GatewayStats.settled]
        omega
      · cases made.symm.trans carried

/-- Without a token the message is counted as held back. -/
theorem emit_limited (limited : (gateway.bucket target context.nowMs).2 = false) :
    (gateway.emit adapter translated target context).2 = none ∧
    (gateway.emit adapter translated target context).1.stats.settled = gateway.stats.settled + 1 ∧
    (gateway.emit adapter translated target context).1.stats.degraded = gateway.stats.degraded := by
  unfold emit
  dsimp only
  rw [if_pos (by rw [limited]; rfl), bucket_eq]
  dsimp only [GatewayStats.settled]
  exact ⟨rfl, by omega, rfl⟩

/-- A message that does not encode is not counted. -/
theorem emit_failed {error : AdapterError}
    (granted : (gateway.bucket target context.nowMs).2 = true)
    (failed : adapter.encode (gateway.loops.stamp translated target context.nowMs) context =
      .error error) :
    (gateway.emit adapter translated target context).2 = none ∧
    (gateway.emit adapter translated target context).1.stats = gateway.stats := by
  unfold emit
  dsimp only
  rw [if_neg (by rw [granted]; decide), bucket_eq]
  dsimp only
  rw [failed]
  exact ⟨rfl, rfl⟩

/-- A message that encodes is counted as translated. -/
theorem emit_sent {frame : OutboundFrame} (granted : (gateway.bucket target context.nowMs).2 = true)
    (encoded : adapter.encode (gateway.loops.stamp translated target context.nowMs) context =
      .ok frame) :
    (gateway.emit adapter translated target context).2 = some frame ∧
    (gateway.emit adapter translated target context).1.stats.settled = gateway.stats.settled + 1 ∧
    (gateway.emit adapter translated target context).1.stats.degraded = gateway.stats.degraded := by
  unfold emit
  dsimp only
  rw [if_neg (by rw [granted]; decide), bucket_eq]
  dsimp only
  rw [encoded]
  dsimp only [GatewayStats.settled]
  exact ⟨rfl, by omega, rfl⟩

/-- A frame comes of a ready message that the encoder takes. -/
theorem bridgeOne_frame {frame : OutboundFrame}
    (sent : (gateway.bridgeOne message target context).2 = some frame) :
    ∃ adapter translated outcome, gateway.Ready message target context adapter translated outcome ∧
      adapter.encode (gateway.loops.stamp translated target context.nowMs) context = .ok frame := by
  cases present : gateway.detector.adapter target with
  | none =>
    unfold bridgeOne at sent
    rw [present] at sent
    split at sent
    · cases sent
    · split at sent
      · cases sent
      · cases sent
  | some adapter =>
    by_cases some_ : ∃ translated outcome,
        gateway.Ready message target context adapter translated outcome
    · obtain ⟨translated, outcome, ready⟩ := some_
      refine ⟨adapter, translated, outcome, ready, ?_⟩
      rw [bridgeOne_ready ready] at sent
      cases granted : ((gateway.countLoss outcome).bucket target context.nowMs).2 with
      | false =>
        rw [(emit_limited granted).1] at sent
        cases sent
      | true =>
        rw [← countLoss_loops gateway outcome]
        cases encoded : adapter.encode ((gateway.countLoss outcome).loops.stamp translated target
            context.nowMs) context with
        | error error =>
          rw [(emit_failed granted encoded).1] at sent
          cases sent
        | ok other =>
          rw [(emit_sent granted encoded).1] at sent
          rw [Option.some.inj sent]
    · obtain ⟨stats, result, _⟩ := bridgeOne_refused present
        (fun translated outcome ready => some_ ⟨translated, outcome, ready⟩)
      rw [result] at sent
      cases sent

/-- A ready message goes out when a token is there and the encoder takes it. -/
theorem bridgeOne_sends {frame : OutboundFrame}
    (ready : gateway.Ready message target context adapter translated outcome)
    (granted : (gateway.bucket target context.nowMs).2 = true)
    (encoded : adapter.encode (gateway.loops.stamp translated target context.nowMs) context =
      .ok frame) :
    (gateway.bridgeOne message target context).2 = some frame := by
  rw [bridgeOne_ready ready]
  rw [← granted_countLoss gateway outcome] at granted
  rw [← countLoss_loops gateway outcome] at encoded
  exact (emit_sent granted encoded).1

/-- What bridging may change: the counters, the buckets and what is remembered. -/
def SameSettings (before after : Gateway) : Prop :=
  ∃ dedup stats buckets,
    after = { before with dedup := dedup, stats := stats, buckets := buckets }

omit [Primitives] in
theorem SameSettings.trans {first second third : Gateway} (earlier : SameSettings first second)
    (later : SameSettings second third) : SameSettings first third := by
  obtain ⟨_, _, _, rfl⟩ := earlier
  obtain ⟨_, _, _, rfl⟩ := later
  exact ⟨_, _, _, rfl⟩

theorem emit_settings {gateway : Gateway} {adapter : RadioProtocol} {translated : UnifiedMessage}
    {target : ProtocolId} {context : ProtocolContext} :
    SameSettings gateway (gateway.emit adapter translated target context).1 := by
  unfold emit
  dsimp only
  rw [bucket_eq]
  split
  · exact ⟨_, _, _, rfl⟩
  · split
    · exact ⟨_, _, _, rfl⟩
    · exact ⟨_, _, _, rfl⟩

theorem bridgeOne_settings (gateway : Gateway) (message : UnifiedMessage) (target : ProtocolId)
    (context : ProtocolContext) :
    SameSettings gateway (gateway.bridgeOne message target context).1 := by
  unfold bridgeOne
  repeat' split
  all_goals first
    | exact ⟨_, _, _, rfl⟩
    | exact emit_settings

/-! ## One target -/

/-- One target is accounted for: it is counted once, and a loss only with a frame. -/
def TargetAccounted (gateway : Gateway) (message : UnifiedMessage) (target : ProtocolId)
    (context : ProtocolContext) : Prop :=
  (gateway.bridgeOne message target context).1.stats.settled = gateway.stats.settled + 1 ∧
  (gateway.stats.degraded < (gateway.bridgeOne message target context).1.stats.degraded →
    (gateway.bridgeOne message target context).2.isSome = true)

/-- Once a message is ready, either a token is there and the encoder takes the message, or
no token is there and the translation lost nothing. -/
def Clears (gateway : Gateway) (message : UnifiedMessage) (target : ProtocolId)
    (context : ProtocolContext) : Prop :=
  ∀ adapter translated outcome,
    gateway.Ready message target context adapter translated outcome →
    if (gateway.bucket target context.nowMs).2 then
      (adapter.encode (gateway.loops.stamp translated target context.nowMs) context).isOk = true
    else outcome = .exact

section

variable (ready : gateway.Ready message target context adapter translated outcome)

include ready

omit [Primitives] in
/-- A translation counts as lossy unless it is exact. -/
theorem countLoss_degraded :
    ¬gateway.stats.degraded < (gateway.countLoss outcome).stats.degraded ↔ outcome = .exact := by
  cases outcome with
  | exact => simp [countLoss]
  | degraded losses => simp [countLoss]
  | unsupported why =>
    rcases ready.named with exactly | ⟨losses, lossy⟩
    · cases exactly
    · cases lossy

/-- A ready message is accounted for exactly when it clears the last two gates. -/
theorem targetAccounted_of_ready : gateway.TargetAccounted message target context ↔
      if (gateway.bucket target context.nowMs).2 then
        (adapter.encode (gateway.loops.stamp translated target context.nowMs) context).isOk = true
      else outcome = .exact := by
  unfold TargetAccounted
  rw [bridgeOne_ready ready, ← countLoss_degraded ready]
  have sameGrant := gateway.granted_countLoss outcome target context.nowMs
  cases granted : (gateway.bucket target context.nowMs).2 with
  | false =>
    obtain ⟨noFrame, settled, degraded⟩ := @emit_limited _ (gateway.countLoss outcome) target
      context adapter translated (sameGrant.trans granted)
    rw [noFrame, settled, degraded, countLoss_settled]
    simp
  | true =>
    cases encoded : adapter.encode (gateway.loops.stamp translated target context.nowMs)
      context with
    | error error =>
      obtain ⟨_, same⟩ := @emit_failed _ (gateway.countLoss outcome) target context adapter
        translated error (sameGrant.trans granted) (by rw [countLoss_loops]; exact encoded)
      rw [same, countLoss_settled]
      simp [Except.isOk, Except.toBool]
    | ok frame =>
      obtain ⟨sent, settled, _⟩ := @emit_sent _ (gateway.countLoss outcome) target context adapter
        translated frame (sameGrant.trans granted) (by rw [countLoss_loops]; exact encoded)
      rw [sent, settled, countLoss_settled]
      simp [Except.isOk, Except.toBool]

end

/-- One target is accounted for exactly when a ready message clears the last two gates. -/
theorem targetAccounted_iff (present : gateway.detector.adapter target = some adapter) :
    gateway.TargetAccounted message target context ↔ gateway.Clears message target context := by
  by_cases some_ : ∃ translated outcome,
      gateway.Ready message target context adapter translated outcome
  · obtain ⟨translated, outcome, ready⟩ := some_
    rw [targetAccounted_of_ready ready]
    constructor
    · intro clears other result verdict another
      cases another.present.symm.trans present
      cases another.translates.symm.trans ready.translates
      exact clears
    · intro clears
      exact clears adapter translated outcome ready
  · have refused : ∀ translated outcome,
        ¬gateway.Ready message target context adapter translated outcome :=
      fun translated outcome ready => some_ ⟨translated, outcome, ready⟩
    obtain ⟨stats, result, settled, degraded⟩ := bridgeOne_refused present refused
    constructor
    · intro _ other translated outcome ready
      cases ready.present.symm.trans present
      exact absurd ready (refused translated outcome)
    · intro _
      unfold TargetAccounted
      rw [result]
      exact ⟨settled, fun more => absurd more (by rw [degraded]; exact Nat.lt_irrefl _)⟩

/-! ## All targets -/

/-- The gateway when the turn comes to the target after these. -/
def afterTargets (gateway : Gateway) (message : UnifiedMessage) (context : ProtocolContext)
    (earlier : List ProtocolId) : Gateway :=
  (bridgeEach message context gateway earlier).1

/-- Bridging is accounted for: each target in its turn, hence all of them together. -/
def Accounted (gateway : Gateway) (message : UnifiedMessage) (context : ProtocolContext) : Prop :=
  (gateway.bridgeAll message context).1.stats.settled =
    gateway.stats.settled + (gateway.targets message).length ∧
  ∀ (earlier later : List ProtocolId) (target : ProtocolId),
    gateway.targets message = earlier ++ target :: later →
    (gateway.afterTargets message context earlier).TargetAccounted message target context

theorem afterTargets_settings (gateway : Gateway) (message : UnifiedMessage)
    (context : ProtocolContext) (earlier : List ProtocolId) :
    SameSettings gateway (gateway.afterTargets message context earlier) := by
  induction earlier generalizing gateway with
  | nil => exact ⟨_, _, _, rfl⟩
  | cons first rest ih =>
    exact (bridgeOne_settings gateway message first context).trans
      (ih (gateway.bridgeOne message first context).1)

omit [Primitives] in
/-- Every target has an adapter. -/
theorem adapter_of_target (member : target ∈ gateway.targets message) :
    ∃ adapter, gateway.detector.adapter target = some adapter := by
  unfold targets at member
  obtain ⟨candidate, held, sameId⟩ := mem_map.mp (mem_filter.mp member).1
  apply Option.isSome_iff_exists.mp
  unfold Detector.adapter
  rw [List.find?_isSome]
  exact ⟨candidate, held, by simpa using sameId⟩

/-- Targets that are each counted once add up. -/
theorem settled_bridgeEach (message : UnifiedMessage) (context : ProtocolContext)
    {targets : List ProtocolId} (gateway : Gateway)
    (each : ∀ (earlier later : List ProtocolId) (target : ProtocolId),
      targets = earlier ++ target :: later →
      (gateway.afterTargets message context earlier).TargetAccounted message target context) :
    (bridgeEach message context gateway targets).1.stats.settled =
      gateway.stats.settled + targets.length := by
  induction targets generalizing gateway with
  | nil => rfl
  | cons first rest ih =>
    have one := (each [] rest first rfl).1
    have others := ih (gateway.bridgeOne message first context).1
      (fun earlier later target split => each (first :: earlier) later target (by rw [split]; rfl))
    simp only [bridgeEach, length_cons]
    simp only [afterTargets, bridgeEach] at one
    omega

end Gateway

/-- Bridging is accounted for exactly when every message that reaches the rate limiter
either is granted a token and encodes, or is refused one and had lost nothing. -/
theorem bridgeAll_accounted_iff [Primitives] (gateway : Gateway) (message : UnifiedMessage)
    (context : ProtocolContext) (bridging : gateway.mode = .bridge) :
    gateway.Accounted message context ↔ ∀ (earlier later : List ProtocolId) (target : ProtocolId),
        gateway.targets message = earlier ++ target :: later →
        (gateway.afterTargets message context earlier).Clears message target context := by
  have turn : ∀ (earlier later : List ProtocolId) (target : ProtocolId),
      gateway.targets message = earlier ++ target :: later →
      ((gateway.afterTargets message context earlier).TargetAccounted message target context ↔
        (gateway.afterTargets message context earlier).Clears message target context) := by
    intro earlier later target split
    have member : target ∈ gateway.targets message := by
      rw [split]
      exact mem_append_right _ mem_cons_self
    obtain ⟨adapter, present⟩ := Gateway.adapter_of_target member
    obtain ⟨dedup, stats, buckets, settings⟩ :=
      gateway.afterTargets_settings message context earlier
    rw [settings]
    exact Gateway.targetAccounted_iff present
  constructor
  · rintro ⟨_, each⟩ earlier later target split
    exact (turn earlier later target split).mp (each earlier later target split)
  · intro clears
    have each := fun earlier later target split =>
      (turn earlier later target split).mpr (clears earlier later target split)
    refine ⟨?_, each⟩
    unfold Gateway.bridgeAll
    rw [if_neg (not_not.mpr bridging)]
    exact Gateway.settled_bridgeEach message context gateway each

/-! ## A message that vanishes -/

namespace Vanishing

local instance vanishingSuite : Primitives := Transparent.primitives

/-- A bridge towards the native protocol under a policy that allows everything. -/
def gateway : Gateway :=
  { Gateway.new "gw".toList
      (.new [MeshStarAdapter.protocol ⟨none, some (Transparent.identity 1).address⟩]) with
    mode := .bridge
    policy := ⟨[Policy.anyRule .allow "allow everything".toList]⟩ }

/-- A text of some length heard on Meshtastic. -/
def message (length : Nat) : UnifiedMessage :=
  .ofText (.meshtastic 1) (.broadcast .meshtastic) .meshtastic (List.replicate length 'x')

def context : ProtocolContext where
  nowMs := 1000
  unixTimeS := 0
  profile := ⟨.meshstarEu868, 869525000, meshStarSyncWord⟩
  localIdentity := none
  channels := []
  peerKeys := []
  random := ⟨List.replicate 32 7, rfl⟩

/-- A text that fits the advertised size but no frame is translated, encoded in vain and
counted nowhere. -/
theorem uncounted_target : gateway.mode = .bridge ∧ gateway.targets (message 300) = [.meshStar] ∧
      (gateway.bridgeAll (message 300) context).1.stats.settled = gateway.stats.settled ∧
      ¬gateway.Accounted (message 300) context := by
  have settled : (gateway.bridgeAll (message 300) context).1.stats.settled = 0 := by
    decide +kernel
  have one : gateway.targets (message 300) = [.meshStar] := by decide +kernel
  refine ⟨rfl, one, settled, ?_⟩
  rintro ⟨total, _⟩
  rw [settled, one] at total
  exact absurd total (by decide)

/-- A short text on the same bridge is accounted for. -/
theorem short_text_accounted : gateway.mode = .bridge ∧ gateway.Accounted (message 3) context := by
  refine ⟨rfl, (bridgeAll_accounted_iff gateway (message 3) context rfl).mpr ?_⟩
  intro earlier later target split adapter translated outcome ready
  have one : gateway.targets (message 3) = [.meshStar] := by decide +kernel
  have first : earlier = [] ∧ target = .meshStar := by
    rw [one] at split
    cases earlier with
    | nil => exact ⟨rfl, (List.cons.inj split).1.symm⟩
    | cons head rest => simp at split
  obtain ⟨isFirst, isTarget⟩ := first
  subst isFirst isTarget
  have granted : (gateway.bucket .meshStar context.nowMs).2 = true := by decide +kernel
  have encodes : ((gateway.detector.adapter .meshStar).bind (fun adapter =>
      (translate (message 3) .meshStar adapter.capabilities gateway.id context.nowMs
        gateway.senderPrefix).1.map (fun translated =>
          (adapter.encode (gateway.loops.stamp translated .meshStar context.nowMs)
            context).isOk))) = some true := by
    decide +kernel
  have present : gateway.detector.adapter .meshStar = some adapter := ready.present
  have translates : translate (message 3) .meshStar adapter.capabilities gateway.id context.nowMs
      gateway.senderPrefix = (some translated, outcome) := ready.translates
  rw [present, Option.bind_some, translates, Option.map_some] at encodes
  have sent := Option.some.inj encodes
  exact (if_pos granted).symm ▸ sent

end Vanishing

end MeshStar
