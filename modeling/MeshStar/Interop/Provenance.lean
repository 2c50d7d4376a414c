import MeshStar.Interop.Bridging
import Mathlib.Data.List.Nodup

/-!
# Provenance across a chain of gateways

A message carries the bridges it has crossed, and each gateway consults that record before
it translates. The record is written after the translation, when the message already
belongs to the far protocol: a hop therefore names the protocol it entered twice, and the
protocol it left not at all. `Chain.hops` says so of every chain.

Gateways and entered protocols are still never repeated, and the number of crossings stays
within every guard's limit. Only the protocol where the message originated is unprotected:
`chain_sound_iff` says that the documented law holds of a chain exactly when no gateway
after the first aims at it.
-/

namespace MeshStar

open List

/-- One gateway's part in a chain, with the parameters its translation has. -/
structure Crossing where
  guard : LoopGuard
  target : ProtocolId
  caps : ProtocolCapabilities
  gateway : Text
  now : Nat
  senderPrefix : Bool

/-- Check, translate and stamp, in the order of the gateway. -/
def Crossing.cross (crossing : Crossing) (message : UnifiedMessage) : Option UnifiedMessage :=
  if crossing.guard.check message crossing.target ≠ .ok then none
  else
    (translate message crossing.target crossing.caps crossing.gateway crossing.now
      crossing.senderPrefix).1.map
      (fun translated => crossing.guard.stamp translated crossing.target crossing.now)

/-- A frame that a gateway sends is the encoding of a crossing's result. -/
theorem bridgeOne_crosses [Primitives] {gateway : Gateway} {message : UnifiedMessage}
    {target : ProtocolId} {context : ProtocolContext} {frame : OutboundFrame}
    (sent : (gateway.bridgeOne message target context).2 = some frame) :
    ∃ adapter next, gateway.detector.adapter target = some adapter ∧
      Crossing.cross ⟨gateway.loops, target, adapter.capabilities, gateway.id, context.nowMs,
        gateway.senderPrefix⟩ message = some next ∧
      adapter.encode next context = .ok frame := by
  obtain ⟨adapter, translated, outcome, ready, encoded⟩ := Gateway.bridgeOne_frame sent
  refine ⟨adapter, gateway.loops.stamp translated target context.nowMs, ready.present, ?_, encoded⟩
  unfold Crossing.cross
  rw [if_neg (not_not.mpr ready.checked), ready.translates]
  rfl

/-- A message that has crossed these bridges in turn since it originated. -/
inductive Chain (origin : UnifiedMessage) : List Crossing → UnifiedMessage → Prop where
  | start : origin.bridgePath = [] → Chain origin [] origin
  | cross {crossed : List Crossing} {message next : UnifiedMessage} {crossing : Crossing} :
      Chain origin crossed message → crossing.cross message = some next →
      Chain origin (crossed ++ [crossing]) next

namespace Chain

variable {origin message : UnifiedMessage} {crossed : List Crossing}

/-- One crossing: what was checked, and the hop that is recorded. Both ends of the hop are
the protocol entered. -/
theorem crossing_inv {crossing : Crossing} {next : UnifiedMessage}
    (crosses : crossing.cross message = some next) :
    crossing.guard.check message crossing.target = .ok ∧
      next.protocol = crossing.target ∧
      next.bridgePath = message.bridgePath ++
        [⟨crossing.guard.gatewayId, crossing.target, crossing.target, crossing.now⟩] := by
  unfold Crossing.cross at crosses
  split at crosses
  · cases crosses
  · next passed =>
    obtain ⟨out, translated, stamped⟩ := Option.map_eq_some_iff.mp crosses
    subst stamped
    rcases translate_cases message crossing.target crossing.caps crossing.gateway crossing.now
        crossing.senderPrefix with
      ⟨why, _, unsupported⟩ | ⟨payload, cut, outcome, _, carried, _⟩
    · rw [unsupported] at translated
      cases translated
    · rw [carried] at translated
      cases translated
      exact ⟨Decidable.not_not.mp passed, rfl, rfl⟩

section

variable (chain : Chain origin crossed message)

include chain

/-- The record of a chain: each crossing's gateway, with the protocol entered at both ends. -/
theorem hops : message.bridgePath = crossed.map (fun crossing =>
      ⟨crossing.guard.gatewayId, crossing.target, crossing.target, crossing.now⟩) := by
  induction chain with
  | start fresh => exact fresh
  | cross _ crosses ih =>
    rw [(crossing_inv crosses).2.2, ih, map_append]
    rfl

/-- The message is on the protocol last entered, or where it originated. -/
theorem protocol_eq :
    message.protocol = ((crossed.map Crossing.target).getLast?).getD origin.protocol := by
  cases chain with
  | start fresh => rfl
  | cross _ crosses =>
    rw [(crossing_inv crosses).2.1]
    simp

/-- What the guard of one more gateway has checked, in terms of the chain so far. -/
theorem next_checked {crossing : Crossing} {next : UnifiedMessage}
    (crosses : crossing.cross message = some next) :
    crossed.length < crossing.guard.maxCrossings ∧
      crossing.guard.gatewayId ∉ crossed.map (fun earlier => earlier.guard.gatewayId) ∧
      crossing.target ∉ crossed.map Crossing.target ∧
      (crossed = [] → crossing.target ≠ origin.protocol) := by
  obtain ⟨short, others, elsewhere, unvisited⟩ :=
    (LoopGuard.check_ok_iff).mp (crossing_inv crosses).1
  rw [hops chain] at short others unvisited
  simp only [length_map] at short
  simp only [mem_map, forall_exists_index, and_imp, forall_apply_eq_imp_iff₂] at others unvisited
  refine ⟨short, ?_, ?_, ?_⟩
  · intro repeated
    obtain ⟨earlier, member, same⟩ := mem_map.mp repeated
    exact others earlier member same
  · intro repeated
    obtain ⟨earlier, member, same⟩ := mem_map.mp repeated
    exact (unvisited earlier member).1 same
  · intro first same
    have here := protocol_eq chain
    rw [first] at here
    exact elsewhere (same.trans here.symm)

end

/-- Every crossing is within the limit of the guard that let it pass. -/
def WithinLimits (crossed : List Crossing) : Prop :=
  ∀ (earlier later : List Crossing) (crossing : Crossing),
    crossed = earlier ++ crossing :: later → earlier.length + 1 ≤ crossing.guard.maxCrossings

/-- The documented law: no gateway twice, no protocol twice, the origin's included, and no
more crossings than allowed. -/
def Sound (origin : UnifiedMessage) (crossed : List Crossing) : Prop :=
  (crossed.map (fun crossing => crossing.guard.gatewayId)).Nodup ∧
  (origin.protocol :: crossed.map Crossing.target).Nodup ∧
  WithinLimits crossed

/-- What every gateway checks to be new is never repeated along a chain. -/
theorem nodup_of_checked {β : Type} {value : Crossing → β}
    (checked : ∀ (crossed : List Crossing) (message next : UnifiedMessage) (crossing : Crossing),
      Chain origin crossed message → crossing.cross message = some next →
      value crossing ∉ crossed.map value)
    (chain : Chain origin crossed message) : (crossed.map value).Nodup := by
  induction chain with
  | start _ => exact nodup_nil
  | cross chain crosses ih =>
    rw [map_append, map_singleton, nodup_middle, append_nil]
    exact nodup_cons.mpr ⟨checked _ _ _ _ chain crosses, ih⟩

variable (chain : Chain origin crossed message)

include chain

theorem gateways_nodup : (crossed.map (fun crossing => crossing.guard.gatewayId)).Nodup :=
  nodup_of_checked (fun _ _ _ _ chain crosses => (next_checked chain crosses).2.1) chain

theorem targets_nodup : (crossed.map Crossing.target).Nodup :=
  nodup_of_checked (fun _ _ _ _ chain crosses => (next_checked chain crosses).2.2.1) chain

theorem within_limits : WithinLimits crossed := by
  induction chain with
  | start _ =>
    intro earlier later crossing split
    simp at split
  | @cross crossed _ _ last chain crosses ih =>
    intro earlier later crossing split
    rcases eq_nil_or_concat later with none | ⟨rest, final, some⟩
    · subst none
      obtain ⟨sameCrossed, sameLast⟩ := append_inj' split rfl
      cases sameLast
      subst sameCrossed
      exact (next_checked chain crosses).1
    · subst some
      rw [concat_eq_append, ← cons_append, ← append_assoc] at split
      exact ih earlier rest crossing (append_inj' split rfl).1

/-- The first gateway never aims at the protocol it hears the message on. -/
theorem first_leaves : ∀ first ∈ crossed.head?, first.target ≠ origin.protocol := by
  induction chain with
  | start _ => simp
  | @cross crossed _ _ last chain crosses ih =>
    cases crossed with
    | nil =>
      intro first isFirst
      cases isFirst
      exact (next_checked chain crosses).2.2.2 rfl
    | cons first rest => exact ih

end Chain

/-- The documented law holds of a chain exactly when no gateway after the first aims at
the protocol where the message originated. -/
theorem chain_sound_iff {origin message : UnifiedMessage} {crossed : List Crossing}
    (chain : Chain origin crossed message) :
    Chain.Sound origin crossed ↔ ∀ later ∈ crossed.tail, later.target ≠ origin.protocol := by
  constructor
  · rintro ⟨_, distinct, _⟩ later member same
    apply (nodup_cons.mp distinct).1
    exact mem_map.mpr ⟨later, mem_of_mem_tail member, same⟩
  · intro elsewhere
    refine ⟨chain.gateways_nodup, nodup_cons.mpr ⟨?_, chain.targets_nodup⟩, chain.within_limits⟩
    intro entered
    obtain ⟨crossing, member, same⟩ := mem_map.mp entered
    cases crossed with
    | nil => cases member
    | cons first rest =>
      rcases mem_cons.mp member with isFirst | inRest
      · subst isFirst
        exact chain.first_leaves crossing rfl same
      · exact elsewhere crossing inRest same

/-! ## A message that returns -/

namespace Return

/-- A channel message heard on Meshtastic. -/
def heard : UnifiedMessage :=
  .ofText (.meshtastic 1) (.broadcast .meshtastic) .meshtastic "x".toList

/-- What both far protocols can express here. -/
def caps : ProtocolCapabilities where
  text := true
  binary := true
  replies := false
  channels := true
  storeForward := false
  e2eIdentity := true
  forwardSecrecy := false
  position := true
  acknowledgements := true
  maxTextBytes := 160
  maxBinaryBytes := 160
  maxHops := 7

/-- A gateway with a fresh loop guard. -/
def crossing (id : Text) (target : ProtocolId) (now : Nat) : Crossing :=
  ⟨.new id, target, caps, id, now, true⟩

/-- The message after the first gateway, or unchanged if it does not pass. -/
def outbound : UnifiedMessage :=
  ((crossing "gw1".toList .meshCore 0).cross heard).getD heard

def returned : UnifiedMessage :=
  ((crossing "gw2".toList .meshtastic 1).cross outbound).getD outbound

theorem outbound_chain : Chain heard [crossing "gw1".toList .meshCore 0] outbound :=
  .cross (.start rfl) (by decide +kernel)

/-- A second gateway carries the message back into the protocol it came from. -/
theorem origin_reentered :
    ∃ origin crossed message, Chain origin crossed message ∧ ¬Chain.Sound origin crossed := by
  refine ⟨heard, [crossing "gw1".toList .meshCore 0, crossing "gw2".toList .meshtastic 1],
    returned, .cross outbound_chain (by decide +kernel), ?_⟩
  rintro ⟨_, distinct, _⟩
  exact absurd distinct (by decide)

/-- The second gateway aiming at a third protocol instead. -/
def onward : List Crossing :=
  [crossing "gw1".toList .meshCore 0, crossing "gw2".toList .meshStar 1]

/-- A chain over three protocols keeps the law. -/
theorem onward_chain_sound : (∃ message, Chain heard onward message) ∧
    Chain.Sound heard onward := by
  have chain : Chain heard onward
      (((crossing "gw2".toList .meshStar 1).cross outbound).getD outbound) :=
    .cross outbound_chain (by decide +kernel)
  exact ⟨⟨_, chain⟩, (chain_sound_iff chain).mpr (by decide)⟩

end Return

end MeshStar
