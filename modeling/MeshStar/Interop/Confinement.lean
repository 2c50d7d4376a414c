import MeshStar.Interop.Bridging
import MeshStar.Interop.Residency

/-!
# Whether end-to-end traffic stays at home

The gateway has no rule of its own about end-to-end traffic: the policy decides alone. A
policy keeps it at home exactly when it allows none of it, in a form the translator can
carry, to cross. `confines_iff` says so of every policy, over every gateway that holds it
and both ways a message enters. The suggested policy keeps it (`publicTextBridging_confines`);
one that allows everything does not.
-/

namespace MeshStar

open List

/-- The content a translation can carry. -/
def ContentType.isCarried (content : ContentType) : Bool :=
  content = .text || content = .position || content = .binary

/-- A carried message has carried content. -/
theorem translateContent_carried {message : UnifiedMessage} {caps : ProtocolCapabilities}
    {senderPrefix : Bool} {result : Bytes × List Text}
    (carries : translateContent message caps senderPrefix = .ok result) :
    message.contentType.isCarried = true := by
  unfold translateContent at carries
  cases content : message.contentType with
  | text => rfl
  | position => rfl
  | binary => rfl
  | _ =>
    rw [content] at carries
    cases carries

namespace Policy

/-- The policy lets some end-to-end message cross. -/
def Leaks (policy : Policy) : Prop :=
  ∃ (message : UnifiedMessage) (target : ProtocolId),
    message.security.isMeshStarE2E = true ∧ message.contentType.isCarried = true ∧
    target ≠ message.protocol ∧ (policy.evaluate message target).allowed = true

/-- No gateway with the policy sends a frame for an end-to-end message, whichever way it
comes in. -/
def Confines [Primitives] (policy : Policy) : Prop :=
  ∀ (gateway : Gateway) (context : ProtocolContext) (message : UnifiedMessage),
    gateway.policy = policy → message.security.isMeshStarE2E = true →
    (gateway.bridgeMessage message context).2 = [] ∧
    ∀ (frame : Bytes) (rx : RxMeta),
      (gateway.detector.classify frame rx context).2 = some (.ok message) →
      (gateway.onFrame frame rx context).2.frames = []

end Policy

namespace Gateway

variable [Primitives] {gateway : Gateway} {message : UnifiedMessage} {context : ProtocolContext}

/-- A frame for some target comes of that target's turn. -/
theorem frame_of_bridgeEach {frame : OutboundFrame} {targets : List ProtocolId}
    (sent : frame ∈ (bridgeEach message context gateway targets).2) :
    ∃ earlier later target, targets = earlier ++ target :: later ∧
      ((gateway.afterTargets message context earlier).bridgeOne message target context).2 =
        some frame := by
  induction targets generalizing gateway with
  | nil => cases sent
  | cons first rest ih =>
    simp only [bridgeEach, mem_append, Option.mem_toList] at sent
    rcases sent with here | later
    · exact ⟨[], rest, first, rfl, here⟩
    · obtain ⟨earlier, later, target, split, there⟩ := ih later
      exact ⟨first :: earlier, later, target, by rw [split]; rfl, there⟩

/-- Under a policy that lets no end-to-end message cross, none is bridged. -/
theorem bridgeAll_confined (tight : ¬gateway.policy.Leaks)
    (secret : message.security.isMeshStarE2E = true) :
    (gateway.bridgeAll message context).2 = [] := by
  unfold bridgeAll
  split
  · rfl
  · apply eq_nil_iff_forall_not_mem.mpr
    intro frame sent
    obtain ⟨earlier, later, target, split, there⟩ := frame_of_bridgeEach sent
    obtain ⟨adapter, translated, outcome, ready, _⟩ := bridgeOne_frame there
    obtain ⟨dedup, stats, buckets, settings⟩ :=
      gateway.afterTargets_settings message context earlier
    rw [settings] at ready
    have member : target ∈ gateway.targets message := by
      rw [split]
      exact mem_append_right _ mem_cons_self
    have elsewhere : target ≠ message.protocol := by
      simpa using (mem_filter.mp member).2
    rcases translate_cases message target adapter.capabilities gateway.id context.nowMs
        gateway.senderPrefix with ⟨why, _, unsupported⟩ | ⟨payload, cut, named, carries, _⟩
    · cases ready.translates.symm.trans unsupported
    · exact tight ⟨message, target, secret, translateContent_carried carries, elsewhere,
        ready.allowed⟩

theorem bridgeMessage_confined (tight : ¬gateway.policy.Leaks)
    (secret : message.security.isMeshStarE2E = true) :
    (gateway.bridgeMessage message context).2 = [] := by
  unfold bridgeMessage
  dsimp only
  split
  · rfl
  · exact bridgeAll_confined tight secret

theorem onFrame_confined {frame : Bytes} {rx : RxMeta} (tight : ¬gateway.policy.Leaks)
    (secret : message.security.isMeshStarE2E = true)
    (decoded : (gateway.detector.classify frame rx context).2 = some (.ok message)) :
    (gateway.onFrame frame rx context).2.frames = [] := by
  unfold onFrame
  dsimp only
  rw [decoded]
  dsimp only
  split
  · rfl
  · exact bridgeAll_confined tight secret

/-- A new message goes to every target. -/
theorem bridgeMessage_of_new (bridging : gateway.mode = .bridge)
    (new : (gateway.dedup.observe message context.nowMs).2 = true) :
    (gateway.bridgeMessage message context).2 = (bridgeEach message context
        { gateway with dedup := (gateway.dedup.observe message context.nowMs).1 }
        (gateway.targets message)).2 := by
  unfold bridgeMessage
  dsimp only
  rw [if_neg (by rw [new]; decide)]
  unfold bridgeAll
  dsimp only
  rw [if_neg (not_not.mpr bridging)]
  rfl

end Gateway

/-! ## A gateway that carries what the policy lets through -/

namespace Carrier

/-- An adapter that can send anything. -/
def adapter (target : ProtocolId) : RadioProtocol where
  id := target
  capabilities :=
    { text := true, binary := true, replies := true, channels := true, storeForward := true,
      e2eIdentity := true, forwardSecrecy := true, position := true, acknowledgements := true,
      maxTextBytes := 2048, maxBinaryBytes := 2048, maxHops := 7 }
  detect := fun _ _ _ => .none target
  decode := fun _ _ _ => .error .noKey
  encode := fun _ context => .ok ⟨target, [], context.profile⟩

/-- A fresh gateway with the policy and the adapter. -/
def gateway (policy : Policy) (target : ProtocolId) : Gateway :=
  { Gateway.new "gw".toList (.new [adapter target]) with mode := .bridge, policy := policy }

def context : ProtocolContext where
  nowMs := 0
  unixTimeS := 0
  profile := ⟨.meshstarEu868, 869525000, meshStarSyncWord⟩
  localIdentity := none
  channels := []
  peerKeys := []
  random := ⟨List.replicate 32 0, rfl⟩

/-- The message with no path, a small payload and the coordinates a position needs. The
policy sees no difference. -/
def carried (message : UnifiedMessage) : UnifiedMessage :=
  { message with payload := [], bridgePath := [],
                 protocolMetadata := [("lat".toList, "0".toList)] }

theorem carried_content {message : UnifiedMessage} (target : ProtocolId)
    (carriable : message.contentType.isCarried = true) :
    ∃ result, translateContent (carried message) (adapter target).capabilities true =
      .ok result := by
  unfold translateContent
  have same : (carried message).contentType = message.contentType := rfl
  rw [same]
  cases content : message.contentType with
  | text => exact ⟨_, rfl⟩
  | position => exact ⟨_, rfl⟩
  | binary => exact ⟨_, rfl⟩
  | _ =>
    rw [content] at carriable
    cases carriable

section

variable {policy : Policy} {message : UnifiedMessage} {target : ProtocolId}

/-- The message is ready at the gateway, whatever it remembers. -/
theorem ready_of_allowed (dedup : Deduplicator)
    (carriable : message.contentType.isCarried = true) (elsewhere : target ≠ message.protocol)
    (allowed : (policy.evaluate message target).allowed = true) :
    ∃ translated outcome,
      Gateway.Ready { gateway policy target with dedup := dedup } (carried message) target context
        (adapter target) translated outcome := by
  have sameDecision : policy.evaluate (carried message) target = policy.evaluate message target :=
    rfl
  have checked : (LoopGuard.new "gw".toList).check (carried message) target = .ok :=
    (LoopGuard.check_ok_iff).mpr ⟨Nat.zero_lt_two, by simp [carried], elsewhere, by simp [carried]⟩
  have present : (Detector.new [adapter target]).adapter target = some (adapter target) := by
    simp [Detector.new, Detector.adapter, adapter]
  obtain ⟨result, carries⟩ := carried_content target carriable
  rcases translate_cases (carried message) target (adapter target).capabilities "gw".toList
      context.nowMs true with ⟨why, failed, _⟩ | ⟨payload, cut, outcome, _, translates, _⟩
  · cases failed.symm.trans carries
  · exact ⟨_, outcome, by rw [← sameDecision] at allowed; exact allowed, checked, present,
      translates⟩

/-- What the policy lets through is sent. -/
theorem sends [Primitives] (carriable : message.contentType.isCarried = true)
    (elsewhere : target ≠ message.protocol)
    (allowed : (policy.evaluate message target).allowed = true) :
    ((gateway policy target).bridgeMessage (carried message) context).2 ≠ [] := by
  have new : ((gateway policy target).dedup.observe (carried message) context.nowMs).2 = true := by
    rw [Deduplicator.observe_new_iff, Deduplicator.Knows, Deduplicator.known_iff]
    rintro ⟨key, _, present⟩
    cases key <;> cases present
  have one : (gateway policy target).targets (carried message) = [target] := by
    have elsewhere : target ≠ (carried message).protocol := elsewhere
    simp [Gateway.targets, gateway, Gateway.new, Detector.new, adapter, elsewhere]
  rw [Gateway.bridgeMessage_of_new rfl new, one]
  obtain ⟨translated, outcome, ready⟩ := ready_of_allowed
    ((gateway policy target).dedup.observe (carried message) context.nowMs).1 carriable elsewhere
    allowed
  have granted : (Gateway.bucket { gateway policy target with
      dedup := ((gateway policy target).dedup.observe (carried message) context.nowMs).1 } target
      context.nowMs).2 = true :=
    (Gateway.granted_of_unlimited rfl target context.nowMs).trans (by decide +kernel)
  have sent := Gateway.bridgeOne_sends ready granted rfl
  simp only [Gateway.bridgeEach, sent]
  exact cons_ne_nil _ _

end

end Carrier

/-- A policy that lets no end-to-end message cross keeps it at home. -/
theorem Policy.confines_of_tight [Primitives] {policy : Policy} (tight : ¬policy.Leaks) :
    policy.Confines := by
  intro gateway context message held secret
  subst held
  exact ⟨Gateway.bridgeMessage_confined tight secret,
    fun frame rx decoded => Gateway.onFrame_confined tight secret decoded⟩

/-- A policy keeps end-to-end traffic at home exactly when it allows none of it, with
content that can be carried, to cross into another protocol. -/
theorem confines_iff [Primitives] (policy : Policy) : policy.Confines ↔ ¬policy.Leaks := by
  constructor
  · rintro confines ⟨message, target, secret, carriable, elsewhere, allowed⟩
    exact Carrier.sends carriable elsewhere allowed
      (confines (Carrier.gateway policy target) Carrier.context (Carrier.carried message) rfl
        secret).1
  · exact Policy.confines_of_tight

/-! ## A text that leaves -/

namespace Carrier

local instance carrierSuite : Primitives := Transparent.primitives

/-- One rule that allows everything. -/
def allowAll : Policy := ⟨[Policy.anyRule .allow "allow all".toList]⟩

/-- A text of an end-to-end session, as the node hands it to the gateway. -/
def privateText : UnifiedMessage :=
  { UnifiedMessage.ofText (.meshStar (Transparent.identity 1).address)
      (.meshStar (Transparent.identity 2).address) .meshStar "hi".toList with
    encrypted := true, security := .meshStarE2E }

/-- Under that rule an end-to-end text is sent on another network. -/
theorem private_text_leaves : privateText.security.isMeshStarE2E = true ∧
    ((gateway allowAll .meshCore).bridgeMessage privateText context).2 =
      [⟨.meshCore, [], context.profile⟩] := by
  decide +kernel

end Carrier

/-! ## The suggested policy -/

/-- The suggested policy keeps end-to-end traffic at home: what it allows is public. -/
theorem publicTextBridging_confines [Primitives] : Policy.publicTextBridging.Confines := by
  apply Policy.confines_of_tight
  rintro ⟨message, target, secret, _, _, allowed⟩
  have private_ : SecurityMatch.publicOnly.accepts message.security = false := by
    cases security : message.security with
    | meshStarE2E => rfl
    | meshStarEnvelope => rfl
    | _ =>
      rw [security] at secret
      cases secret
  simp [Policy.evaluate, Policy.publicTextBridging, Policy.anyRule, Rule.matchesMessage,
    Rule.accepts, private_] at allowed

end MeshStar
