import MeshStar.Node.SecureEffects

/-!
# What sealing does to the envelopes in flight

A node tracks its envelopes by their ids. While it handles a packet it may seal further
envelopes, for keys it has just learned or sessions it has just got, and an envelope for a
neighbour it hosts is marked stored at once, by id. The lemmas below follow the functions
that seal: either another message is tracked under a given id, or the messages under that id
stay as they are. What may seal on the way is described by its effects together with this.
-/

namespace MeshStar

open List

variable [Primitives]

namespace Transport

variable {envelopeId other : UInt32} {messages : List Outstanding}

section

omit [Primitives]

theorem inEnvelope_markStored (message : Outstanding) :
    inEnvelope envelopeId (markStored message) = inEnvelope envelopeId message := rfl

/-- Marking a message keeps the number of messages under every id. -/
theorem filter_updateFirst_length (test : Outstanding → Bool) (messages : List Outstanding) :
    ((updateFirst test messages).filter (inEnvelope envelopeId)).length =
      (messages.filter (inEnvelope envelopeId)).length := by
  induction messages with
  | nil => rfl
  | cons message rest ih =>
    rw [updateFirst]
    cases named : inEnvelope envelopeId message with
    | true =>
      split
      · simp [inEnvelope_markStored, named]
      · simp [named, ih]
    | false =>
      split
      · simp [inEnvelope_markStored, named]
      · simp [named, ih]

/-- Marking the message under one id leaves those under another alone. -/
theorem filter_updateFirst_other (distinct : other ≠ envelopeId) {messages : List Outstanding} :
    (updateFirst (inEnvelope other) messages).filter (inEnvelope envelopeId) =
      messages.filter (inEnvelope envelopeId) := by
  induction messages with
  | nil => rfl
  | cons message rest ih =>
    rw [updateFirst]
    split
    · rename_i selected
      have named : message.envelopeId = some other := by simpa [inEnvelope] using selected
      have passed : inEnvelope envelopeId message = false := by
        simp [inEnvelope, named, distinct]
      rw [filter_cons_of_neg (by rw [inEnvelope_markStored, passed]; exact Bool.false_ne_true),
        filter_cons_of_neg (by rw [passed]; exact Bool.false_ne_true)]
    · simp only [filter_cons]
      rw [ih]

end

end Transport

/-- The effects that may change the tracked messages. -/
def Effect.touchesOutstanding : Effect → Bool
  | .track | .shelter | .confirm | .settle | .lose | .retime => true
  | _ => false

theorem CoreStep.outstanding_same {effect : Effect} {before after : Core}
    (step : CoreStep effect before after)
    (spared : effect.touchesOutstanding = false) : after.outstanding = before.outstanding := by
  cases step <;> first | rfl | cases spared

/-- Tracking appends a message. -/
theorem CoreStep.tracked {before after : Core} (step : CoreStep .track before after) :
    ∃ message, after.outstanding = before.outstanding ++ [message] := by
  cases step with
  | track _ message => exact ⟨message, rfl⟩

/-- Sheltering marks a message. -/
theorem CoreStep.sheltered {before after : Core} (step : CoreStep .shelter before after) :
    ∃ test, after.outstanding = Transport.updateFirst test before.outstanding := by
  cases step with
  | shelter _ _ _ _ _ request _ _ => exact ⟨Transport.inEnvelope request.envelopeId, rfl⟩

/-- Whether an effect changes the tracked messages at most by tracking another. -/
def Effect.onlyTracks (effect : Effect) : Bool :=
  !effect.touchesOutstanding || effect == .track

namespace Node

variable (node : Node) (packet : Packet) (prev : Option Address) (dst : Address) (rxMeta : RxMeta)
  (peer : Address) (now : Nat)

/-- The tracked messages under an envelope id. -/
def envelopes (node : Node) (envelopeId : UInt32) : List Outstanding :=
  node.transport.outstanding.filter (Transport.inEnvelope envelopeId)

/-- A change after which another message is tracked under the id, or the messages under it
are the same. -/
structure Retains (envelopeId : UInt32) (before after : Node) : Prop where
  more : (before.envelopes envelopeId).length ≤ (after.envelopes envelopeId).length
  same : (after.envelopes envelopeId).length ≤ (before.envelopes envelopeId).length →
    after.envelopes envelopeId = before.envelopes envelopeId

variable {envelopeId : UInt32} {before middle after : Node} {law : Prop}
  {effect : Effect} {effects more : List Effect}

section

omit [Primitives]

theorem Retains.ofSame (same : after.envelopes envelopeId = before.envelopes envelopeId) :
    Retains envelopeId before after := ⟨(congrArg List.length same).ge, fun _ => same⟩

theorem Retains.ofGrowth
    (grown : (before.envelopes envelopeId).length < (after.envelopes envelopeId).length) :
    Retains envelopeId before after :=
  ⟨grown.le, fun bound => absurd bound (Nat.not_le_of_lt grown)⟩

theorem Retains.refl : Retains envelopeId node node := .ofSame rfl

theorem Retains.trans (first : Retains envelopeId before middle)
    (second : Retains envelopeId middle after) : Retains envelopeId before after := by
  refine ⟨first.more.trans second.more, ?_⟩
  intro bound
  have late := second.same (bound.trans first.more)
  have early := first.same (second.more.trans bound)
  exact late.trans early

end

/-- Tracking a message adds to the messages under its own id only. -/
theorem Move.retains (move : Move law effect before after)
    (tracks : effect.onlyTracks = true) : Retains envelopeId before after := by
  by_cases touched : effect.touchesOutstanding = false
  · refine .ofSame ?_
    unfold envelopes
    rw [show after.transport.outstanding = before.transport.outstanding from
      move.core.outstanding_same touched]
  · have tracking : effect = .track := by
      simpa [Effect.onlyTracks, touched] using tracks
    subst tracking
    obtain ⟨message, appended⟩ := move.core.tracked
    have grown : after.envelopes envelopeId = before.envelopes envelopeId ++
        [message].filter (Transport.inEnvelope envelopeId) := by
      unfold envelopes
      rw [show after.transport.outstanding = before.transport.outstanding ++
        [message] from appended,
        filter_append]
    refine ⟨?_, ?_⟩
    · rw [grown, length_append]
      exact Nat.le_add_right _ _
    · intro bound
      rw [grown, length_append] at bound
      have nothing : [message].filter (Transport.inEnvelope envelopeId) = [] :=
        eq_nil_of_length_eq_zero (by omega)
      rw [grown, nothing, append_nil]

theorem Moves.retains (moves : Moves False effects before after)
    (tracks : ∀ effect ∈ effects, effect.onlyTracks = true) : Retains envelopeId before after :=
  moves.invariant (fun node => Retains envelopeId before node) (.refl before)
    (fun effect member _ _ move retained => retained.trans (move.retains (tracks effect member)))

theorem Reroutes.retains (reroutes : Reroutes False before after) :
    Retains envelopeId before after := Moves.retains reroutes (by decide)

theorem Quiet.retains (quiet : Quiet False before after) : Retains envelopeId before after :=
  Moves.retains (quiet.moves (show Effect.silent ∈ [Effect.silent] by decide)) (by decide)

/-- Keeping an envelope for a neighbour we host marks the message under its own id. -/
theorem depositForHosted_retains {other : UInt32} (envelope : Bytes)
    (now : Nat) (distinct : other ≠ envelopeId) :
    Retains envelopeId node (node.depositForHosted dst other envelope now).1 := by
  have marked (mailbox : Mailbox) : Retains envelopeId node { node with
      mailbox := some mailbox
      transport := (node.transport.onStoreAccepted other).1 } :=
    .ofSame (Transport.filter_updateFirst_other distinct)
  simp only [depositForHosted]
  split
  · split
    · split
      · split
        · have flushed (state : Node) : Retains envelopeId state (state.flushMailboxTo dst now) :=
            Moves.retains (flushMailboxTo_moves _ _ _) (by decide)
          exact (marked _).trans (flushed _)
        · exact marked _
      · exact .refl node
    · exact .refl node
  · exact .refl node

theorem deliverEnvelope_retains {other : UInt32} {envelope : Bytes}
    {now : Nat} (distinct : other ≠ envelopeId) :
    Retains envelopeId node (node.deliverEnvelope dst other envelope now) := by
  have stored (state : Node) (anchor : Address) :
      Retains envelopeId state (state.sendStore anchor dst other envelope now) :=
    Moves.retains (sendStore_moves _) (by decide)
  simp only [deliverEnvelope]
  split
  · exact depositForHosted_retains node dst envelope now distinct
  · split
    · exact stored _ _
    · have routed : Retains envelopeId node (node.routeUnicastEnvelope dst other envelope now).1 :=
        (routeUnicastEnvelope_quiet _ _ _ _ _).retains
      split
      · rename_i outcome
        rw [outcome] at routed
        exact routed
      · rename_i outcome
        rw [outcome] at routed
        split
        · exact routed.trans (stored _ _)
        · exact routed

/-- Delivering an envelope keeps the number of messages under every id. -/
theorem deliverEnvelope_more (envelopeId : UInt32) (node : Node) (dst : Address) (other : UInt32)
    (envelope : Bytes) (now : Nat) : (node.envelopes envelopeId).length ≤
      ((node.deliverEnvelope dst other envelope now).envelopes envelopeId).length := by
  have moves : Moves False Effects.delivering node _ :=
    node.deliverEnvelope_moves dst other envelope now
  refine moves.invariant (fun state => (node.envelopes envelopeId).length ≤
    (state.envelopes envelopeId).length) (Nat.le_refl _) ?_
  intro effect member first second move bound
  by_cases sheltering : effect = .shelter
  · subst sheltering
    obtain ⟨test, marked⟩ := move.core.sheltered
    have same : (second.envelopes envelopeId).length = (first.envelopes envelopeId).length := by
      unfold envelopes
      rw [show second.transport.outstanding = Transport.updateFirst test
        first.transport.outstanding from marked, Transport.filter_updateFirst_length]
    exact bound.trans same.ge
  · have tracks : ∀ other ∈ Effects.delivering, other ≠ .shelter → other.onlyTracks = true := by
      decide
    exact bound.trans (move.retains (tracks effect member sheltering)).more

omit [Primitives] in
/-- A message that is accepted for tracking is one more under its id. -/
theorem trackOrFail_more {node : Node} {message : Outstanding} {now : Nat}
    (named : message.envelopeId = some envelopeId)
    (accepted : (node.trackOrFail message now).2 = true) :
    ((node.trackOrFail message now).1.envelopes envelopeId).length =
      (node.envelopes envelopeId).length + 1 := by
  simp only [trackOrFail, Transport.track] at accepted ⊢
  split at accepted
  · split at accepted
    · rename_i impossible
      cases impossible
    · cases accepted
  · rename_i room
    simp only [if_neg room, if_true, envelopes, filter_append, length_append]
    simp [Transport.inEnvelope, named]

variable (payload : Bytes) (handle : UInt32)

theorem sealAndSendEnvelope_retains {now : Nat} :
    Retains envelopeId node (node.sealAndSendEnvelope dst payload handle now) := by
  have emitted (state : Node) (event : NodeEvent) : Retains envelopeId state (state.emit event) :=
    Moves.retains (emit_moves _ _) (by decide)
  simp only [sealAndSendEnvelope]
  split
  · exact emitted _ _
  · rename_i recipient _
    generalize sealEnvelope node.id recipient node.newPacketId.2 payload node.newPacketId.1.rng =
      sealed
    let drained : Node := { node.newPacketId.1 with rng := sealed.1 }
    have drawn : Retains envelopeId node drained := .ofSame rfl
    split
    · exact drawn.trans (emitted _ _)
    · rename_i envelope _
      split
      · exact drawn.trans (emitted _ _)
      · let message : Outstanding := ⟨dst, 0, handle, .storeAndForward, envelope, 0, 0, now,
          some node.newPacketId.2, false⟩
        have tracked : Retains envelopeId drained (drained.trackOrFail message now).1 :=
          Moves.retains (trackOrFail_moves _ _ _) (by decide)
        split
        · rename_i accepted
          by_cases fresh : node.newPacketId.2 = envelopeId
          · -- The new message is itself one more under the id.
            have grown := trackOrFail_more
              (show message.envelopeId = some envelopeId from congrArg some fresh) accepted
            have kept := deliverEnvelope_more envelopeId (drained.trackOrFail message now).1 dst
              node.newPacketId.2 envelope now
            refine .ofGrowth (drawn.more.trans_lt (Nat.lt_of_lt_of_le ?_ kept))
            rw [grown]
            exact Nat.lt_succ_self _
          · exact (drawn.trans tracked).trans (deliverEnvelope_retains _ _ fresh)
        · exact drawn.trans tracked

/-- A change by the given effects, in which an envelope is marked only with the message it
was sealed for. -/
structure Seals (law : Prop) (effects : List Effect) (before after : Node) : Prop where
  moves : Moves law effects before after
  retains : ∀ envelopeId, Retains envelopeId before after

namespace Seals

theorem refl : Seals law effects node node := ⟨.refl, fun _ => .refl node⟩

theorem trans (first : Seals law effects before middle) (second : Seals law effects middle after) :
    Seals law effects before after :=
  ⟨first.moves.trans second.moves, fun id => (first.retains id).trans (second.retains id)⟩

theorem mono (seals : Seals law effects before after) (included : effects ⊆ more) :
    Seals law more before after := ⟨seals.moves.mono included, seals.retains⟩

/-- Effects that only track messages seal nothing. -/
theorem of (moves : Moves law effects before after)
    (tracks : ∀ effect ∈ effects, effect.onlyTracks = true ∧ effect ∈ more) :
    Seals law more before after :=
  ⟨moves.mono (fun effect member => (tracks effect member).2),
    fun id => moves.invariant (Retains id before) (.refl before) (fun effect member _ _ move kept =>
      kept.trans (move.retains (tracks effect member).1))⟩

theorem single (move : Move law effect before after)
    (tracks : effect.onlyTracks = true ∧ effect ∈ effects) : Seals law effects before after :=
  ⟨Trail.single move tracks.2, fun _ => move.retains tracks.1⟩

theorem quiet (quiet : Quiet law before after) (permitted : Effect.silent ∈ effects) :
    Seals law effects before after :=
  ⟨quiet.moves permitted, fun _ => Quiet.retains { quiet with lawful := False.elim }⟩

end Seals

theorem sealAndSendEnvelope_seals {now : Nat} :
    Seals law Effects.sealing node (node.sealAndSendEnvelope dst payload handle now) :=
  ⟨sealAndSendEnvelope_moves _ _, fun _ => sealAndSendEnvelope_retains _ _ _ _⟩

theorem queueEnvelope_seals {now : Nat} :
    Seals law Effects.sealing node (node.queueEnvelope dst payload handle now) := by
  simp only [queueEnvelope]
  split
  · exact sealAndSendEnvelope_seals _ _ _ _
  · split
    · exact .of (emit_moves _ _) (by decide)
    · have waiting : Seals law Effects.sealing node _ := .single (node.envelopes_move
        (node.pendingEnvelopes ++ [PendingEnvelope.mk dst payload handle now])) (by decide)
      split
      · refine waiting.trans (.quiet (startDiscovery_quiet _ _ _ _ ?_) (by decide))
        intro _ packet impossible
        cases impossible
      · exact waiting

theorem tryPendingEnvelopes_seals :
    Seals law Effects.sealing node (node.tryPendingEnvelopes dst now) := by
  have taken : Seals law Effects.sealing node _ := .single (node.envelopes_move
    (node.pendingEnvelopes.filter (fun pending => pending.dst != dst))) (by decide)
  exact taken.trans (Trail.loop (Seals law _) (fun _ => .refl _) .trans _ _
    (fun state pending _ _ => sealAndSendEnvelope_seals state _ _ _))

end Node

end MeshStar
