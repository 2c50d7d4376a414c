import MeshStar.Node.Accounting

/-!
# Who may settle an envelope

An envelope in flight is removed, marked as stored or failed as rejected when a packet says
so. What the packet says should come from the party that can know: from the destination for
a delivery, from a host that was given the envelope for the rest. The handlers look the
envelope up by its id, or by a sequence number that all envelopes share, and do not ask who
sent the packet until the table has changed. The theorem below says for which packets the
right party spoke.
-/

namespace MeshStar

open List

variable [Primitives]

namespace Transport

variable {test : Outstanding → Bool} {messages : List Outstanding} {message : Outstanding}

section

omit [Primitives]

/-- Erasing the first message a test selects removes exactly that message. -/
theorem count_eraseP_lt_iff {test : Outstanding → Bool} {messages : List Outstanding}
    {message : Outstanding} : (messages.eraseP test).count message < messages.count message ↔
      messages.find? test = some message := by
  induction messages with
  | nil => simp
  | cons first rest ih =>
    cases selected : test first with
    | true =>
      rw [eraseP_cons_of_pos selected, List.find?_cons_of_pos selected, count_cons]
      by_cases same : first = message
      · simp [same]
      · simp [same]
    | false =>
      have passed : ¬test first = true := by simp [selected]
      rw [eraseP_cons_of_neg passed, List.find?_cons_of_neg passed, count_cons, count_cons, ← ih]
      omega

/-- Marking the first message a test selects takes exactly that message away, unless it was
marked before. -/
theorem count_updateFirst_lt_iff (unstored : message.stored = false) {messages : List Outstanding} :
    (updateFirst test messages).count message < messages.count message ↔
      messages.find? test = some message := by
  induction messages with
  | nil => simp [updateFirst]
  | cons first rest ih =>
    rw [updateFirst]
    cases selected : test first with
    | true =>
      have other : ¬markStored first = message := by
        intro same
        rw [← same] at unstored
        cases unstored
      rw [List.find?_cons_of_pos selected, if_pos rfl, count_cons, count_cons]
      by_cases same : first = message
      · simp [same, beq_false_of_ne (same ▸ other)]
      · simp [same, beq_false_of_ne other]
    | false =>
      have passed : ¬test first = true := by simp [selected]
      rw [List.find?_cons_of_neg passed, if_neg Bool.false_ne_true, count_cons, count_cons, ← ih]
      omega

/-- The marked copy is one more. -/
theorem count_markStored_updateFirst (unstored : message.stored = false)
    (found : messages.find? test = some message) :
    messages.count (markStored message) < (updateFirst test messages).count
      (markStored message) := by
  induction messages with
  | nil => cases found
  | cons first rest ih =>
    rw [updateFirst]
    cases selected : test first with
    | true =>
      rw [List.find?_cons_of_pos selected] at found
      cases found
      have other : ¬message = markStored message := by
        intro same
        rw [same] at unstored
        cases unstored
      simp [count_cons_of_ne other]
    | false =>
      have passed : ¬test first = true := by simp [selected]
      rw [List.find?_cons_of_neg passed] at found
      have grown := ih found
      rw [if_neg Bool.false_ne_true, count_cons, count_cons]
      omega

theorem updateFirst_unselected (absent : messages.find? test = none) :
    updateFirst test messages = messages := by
  induction messages with
  | nil => rfl
  | cons first rest ih =>
    rw [List.find?_cons] at absent
    rw [updateFirst]
    cases selected : test first with
    | true => simp [selected] at absent
    | false =>
      rw [selected] at absent
      rw [if_neg Bool.false_ne_true, ih absent]

end

end Transport

/-- Whether an event reports a message as rejected. -/
def NodeEvent.rejects (message : Outstanding) : NodeEvent → Bool
  | .failed handle dst .rejected => handle == message.handle && dst == message.dst
  | _ => false

namespace Node

open Transport (inEnvelope acknowledges markStored updateFirst)

variable {before middle after : Node}

/-- How often a message is in the table. -/
def copies (node : Node) (message : Outstanding) : Nat := node.transport.outstanding.count message

/-- How many events report a message as rejected. -/
def rejections (node : Node) (message : Outstanding) : Nat :=
  node.events.countP (NodeEvent.rejects message)

/-- The message leaves the table. -/
def Removes (before after : Node) (message : Outstanding) : Prop :=
  after.copies message < before.copies message

/-- The message is replaced by its copy that is marked as stored. -/
def Marks (before after : Node) (message : Outstanding) : Prop :=
  message.stored = false ∧ Removes before after message ∧
    before.copies (markStored message) < after.copies (markStored message)

/-- The message leaves the table and is reported as rejected. -/
def Rejects (before after : Node) (message : Outstanding) : Prop :=
  Removes before after message ∧ before.rejections message < after.rejections message

/-- Whether a frame carries an acknowledgement of an envelope. -/
def carriesEnvelopeAck (node : Node) (frame : Bytes) : Bool :=
  match node.incoming frame with
  | some packet => packet.header.ptype == .ack && packet.header.has Flags.envelope
  | none => false

/-- The node asked a host to keep an envelope. -/
def Deposited (node : Node) (host : Address) (envelopeId : UInt32) : Prop :=
  ∃ dst, Deposit.mk host dst envelopeId ∈ node.history.deposits

/-- A frame carries, in a session, the answer of a host that was asked to keep an envelope. -/
def AnswersDeposit (node : Node) (frame : Bytes) (rxMeta : RxMeta) (answer : UInt8)
    (envelopeId : UInt32) : Prop :=
  ∃ host rest reason, node.controlBody frame rxMeta = some (host, answer :: rest) ∧
    decodeStoreResult rest = .ok (envelopeId, reason) ∧ node.Deposited host envelopeId

/-- Every change of an envelope in flight rests on the word of the right party. -/
def ChangesOnProof (node : Node) (frame : Bytes) (rxMeta : RxMeta) : Prop :=
  ∀ message ∈ node.transport.outstanding, ∀ envelopeId, message.envelopeId = some envelopeId →
    (node.carriesEnvelopeAck frame = true → Removes node (node.onRadioRx frame rxMeta) message →
      node.receipt frame rxMeta = some (.envelope message.dst envelopeId)) ∧
    (Marks node (node.onRadioRx frame rxMeta) message →
      node.AnswersDeposit frame rxMeta Control.storeAccepted envelopeId) ∧
    (Rejects node (node.onRadioRx frame rxMeta) message →
      node.AnswersDeposit frame rxMeta Control.storeRejected envelopeId)

/-- An acknowledgement speaks for the message it selects: an envelope's comes from the
message's destination, and a session's selects no envelope that it would mark or report. -/
def ReceiptVouched (node : Node) : Receipt → Prop
  | .envelope sender envelopeId => ∀ message,
      node.transport.outstanding.find? (inEnvelope envelopeId) = some message →
      message.dst = sender
  | .session sender ack => ∀ message,
      node.transport.outstanding.find? (acknowledges sender ack) = some message →
      message.envelopeId ≠ none →
      (ack.status = AckStatus.stored → message.stored = true) ∧
      (ack.status ≠ AckStatus.stored → ack.status ≠ AckStatus.delivered →
        256 ≤ node.events.length)

/-- A host that answers for an envelope in flight was asked to keep it, if the answer marks
or reports the message. -/
def AnswerVouched (node : Node) (host : Address) (answer : UInt8) (rest : Bytes) : Prop :=
  ∀ envelopeId reason message, decodeStoreResult rest = .ok (envelopeId, reason) →
    node.transport.outstanding.find? (inEnvelope envelopeId) = some message →
    (answer = Control.storeAccepted → message.stored = false → node.Deposited host envelopeId) ∧
    (answer = Control.storeRejected → node.events.length < 256 → node.Deposited host envelopeId)

/-- Whoever a frame lets speak for an envelope in flight may do so. -/
def Vouched (node : Node) (frame : Bytes) (rxMeta : RxMeta) : Prop :=
  (∀ given, node.receipt frame rxMeta = some given → node.ReceiptVouched given) ∧
    ∀ host answer rest, node.controlBody frame rxMeta = some (host, answer :: rest) →
      node.AnswerVouched host answer rest

/-- The ids drawn while a frame is handled differ from those in flight. -/
def DrawsFreshIds (node : Node) (frame : Bytes) (rxMeta : RxMeta) : Prop :=
  ∀ message ∈ node.transport.outstanding, ∀ envelopeId, message.envelopeId = some envelopeId →
    ((node.onRadioRx frame rxMeta).envelopes envelopeId).length ≤ (node.envelopes envelopeId).length

variable {message : Outstanding} {envelopeId : UInt32} {event : NodeEvent} {src : Address}
  {ack : Ack} {node : Node} {frame : Bytes} {rxMeta : RxMeta}

section

omit [Primitives]

/-- A message is counted among those under its own id. -/
theorem copies_eq {node : Node} (named : message.envelopeId = some envelopeId) :
    node.copies message = (node.envelopes envelopeId).count message := by
  unfold copies envelopes
  rw [count_filter]
  simp [inEnvelope, named]

theorem emit_rejections (node : Node) (other : event.rejects message = false) :
    (node.emit event).rejections message = node.rejections message := by
  unfold emit rejections
  split
  · simp [other]
  · rfl

theorem emit_rejections_lt_iff (node : Node) (rejected : event.rejects message = true) :
    node.rejections message < (node.emit event).rejections message ↔ node.events.length < 256 := by
  unfold emit rejections
  by_cases room : node.events.length < 256
  · simp [room, rejected]
  · simp [room]

@[simp] theorem emit_transport (node : Node) (event : NodeEvent) :
    (node.emit event).transport = node.transport := by
  unfold emit
  split <;> rfl

end

/-- A change that sends messages again: no envelope is touched, nothing is reported as
rejected. -/
structure Resends (before after : Node) : Prop where
  envelopes : ∀ envelopeId, after.envelopes envelopeId = before.envelopes envelopeId
  rejections : ∀ message, after.rejections message = before.rejections message

section

omit [Primitives]

theorem Resends.refl (node : Node) : Resends node node := ⟨fun _ => rfl, fun _ => rfl⟩

theorem Resends.trans (first : Resends before middle) (second : Resends middle after) :
    Resends before after :=
  ⟨fun envelopeId => (second.envelopes envelopeId).trans (first.envelopes envelopeId),
    fun message => (second.rejections message).trans (first.rejections message)⟩

theorem Resends.ofSame (outstanding : after.transport.outstanding = before.transport.outstanding)
    (events : after.events = before.events) : Resends before after := by
  constructor
  · intro envelopeId
    unfold Node.envelopes
    rw [outstanding]
  · intro message
    unfold Node.rejections
    rw [events]

end

theorem Moves.resends {effects : List Effect} (moves : Moves False effects before after)
    (tracked : ∀ effect ∈ effects, effect.touchesOutstanding = false)
    (reported : ∀ effect ∈ effects, effect.touchesEvents = false) : Resends before after :=
  .ofSame (moves.same CoreStep.outstanding_same tracked) (moves.same CoreStep.events_same reported)

omit [Primitives] in
theorem emit_resends (node : Node)
    (other : ∀ message, event.rejects message = false) : Resends node (node.emit event) := by
  constructor
  · intro envelopeId
    unfold Node.envelopes
    rw [emit_transport]
  · exact fun message => node.emit_rejections (other message)

omit [Primitives] in
/-- A message without an envelope is tracked, or reported as refused for lack of room. -/
theorem trackOrFail_resends {node : Node} (now : Nat)
    (bare : message.envelopeId = none) : Resends node (node.trackOrFail message now).1 := by
  unfold trackOrFail Transport.track
  dsimp only
  split
  · exact node.emit_resends (fun _ => rfl)
  · refine ⟨fun envelopeId => ?_, fun _ => rfl⟩
    simp [Node.envelopes, inEnvelope, bare]

theorem sendDataInSession_resends (node : Node) (send : QueuedSend) (now : Nat) :
    Resends node (node.sendDataInSession send now) := by
  have numbered : Resends node { node with transport := node.transport.nextSeq.1 } :=
    .ofSame rfl rfl
  have sent (state : Node) (seq : UInt16) (ack : Bool) : Resends state
      (state.sendSessionPacket send.dst .data send.payload seq ack now).1 :=
    Moves.resends (sendSessionPacket_moves _ _ _ _ _ _ _) (by decide) (by decide)
  have through := numbered.trans (sent { node with transport := node.transport.nextSeq.1 }
    node.transport.nextSeq.2 (send.reliability == .acknowledged))
  simp only [sendDataInSession]
  split
  · rename_i outcome
    rw [outcome] at through
    split
    · exact through.trans (trackOrFail_resends now rfl)
    · exact through
  all_goals
    rename_i outcome
    rw [outcome] at through
    exact through.trans (emit_resends _ (fun _ => rfl))

theorem sendOrQueue_resends {node : Node} {send : QueuedSend} {now : Nat} :
    Resends node (node.sendOrQueue send now) := by
  have queued (state : Node) : Resends state (state.pushQueued send.dst send) := .ofSame rfl rfl
  have started : Resends node (node.startHandshake send.dst now) :=
    Moves.resends (startHandshake_moves _ _ _) (by decide) (by decide)
  unfold sendOrQueue
  split
  · exact node.sendDataInSession_resends send now
  · split
    · split
      · exact queued node
      · exact node.emit_resends (fun _ => rfl)
    · dsimp only
      split
      · exact started.trans (queued _)
      · exact started.trans (emit_resends _ (fun _ => rfl))

/-- Messages are removed, but no envelope is marked and none rejected. -/
def Withdraws (before after : Node) : Prop :=
  (∀ envelopeId, (after.envelopes envelopeId).Sublist (before.envelopes envelopeId)) ∧
    ∀ message, after.rejections message = before.rejections message

theorem onNoSessionNotice_withdraws (node : Node) (peer : Address) (now : Nat) :
    Withdraws node (node.onNoSessionNotice peer now) := by
  have again (state : Node) (message : Outstanding) :
      Resends state (requeue peer now state message) := by
    unfold requeue
    split
    · exact .refl state
    · exact sendOrQueue_resends
  have reset : Withdraws node (node.resetSession peer now) := by
    have closed (state : Node) : Resends state (state.emit (.sessionClosed peer)) :=
      state.emit_resends (fun _ => rfl)
    have dropped : Resends node (node.dropSession peer) := by
      apply Resends.trans _ (closed _)
      exact .ofSame rfl rfl
    have resent := Trail.loop Resends .refl .trans
        ((node.dropSession peer).transport.failAllTo peer).2
      { node.dropSession peer with
        transport := ((node.dropSession peer).transport.failAllTo peer).1 }
      (fun state message _ _ => again state message)
    constructor
    · intro envelopeId
      rw [← dropped.envelopes, show (node.resetSession peer now).envelopes envelopeId = _ from
        resent.envelopes envelopeId]
      exact List.Sublist.filter _ filter_sublist
    · intro message
      rw [← dropped.rejections]
      exact resent.rejections message
  have kept (state : Node) (same : Resends node state) : Withdraws node state :=
    ⟨fun envelopeId => (same.envelopes envelopeId) ▸ List.Sublist.refl _, same.rejections⟩
  have repeated (state : Node) (message : Bytes) :
      Resends state (state.sendHandshakePacket peer .three message now) :=
    Moves.resends ((sendHandshakePacket_quiet _ _ _ _ _).moves
      (show Effect.silent ∈ [Effect.silent] by decide)) (by decide) (by decide)
  unfold onNoSessionNotice
  split
  · exact kept node (.refl node)
  · split
    · dsimp only
      split
      · apply kept
        apply Resends.trans _ (repeated _ _)
        exact .ofSame rfl rfl
      · exact reset
    · exact reset

section

omit [Primitives]

theorem removes_eraseP_iff {test : Outstanding → Bool} (message : Outstanding)
    (erased : after.transport.outstanding = before.transport.outstanding.eraseP test) :
    Removes before after message ↔ before.transport.outstanding.find? test = some message := by
  unfold Removes copies
  rw [erased]
  exact Transport.count_eraseP_lt_iff

theorem not_marks_of_sublist
    (fewer : after.transport.outstanding.Sublist before.transport.outstanding) :
    ¬Marks before after message := by
  rintro ⟨_, _, grown⟩
  exact absurd (fewer.count_le (markStored message)) (Nat.not_le_of_lt grown)

theorem marks_updateFirst_iff {test : Outstanding → Bool} (message : Outstanding)
    (marked : after.transport.outstanding = updateFirst test before.transport.outstanding) :
    Marks before after message ↔ message.stored = false ∧
      before.transport.outstanding.find? test = some message := by
  unfold Marks Removes copies
  rw [marked]
  constructor
  · rintro ⟨unstored, removed, _⟩
    exact ⟨unstored, (Transport.count_updateFirst_lt_iff unstored).mp removed⟩
  · rintro ⟨unstored, found⟩
    exact ⟨unstored, (Transport.count_updateFirst_lt_iff unstored).mpr found,
      Transport.count_markStored_updateFirst unstored found⟩

theorem not_rejects_of_same (unreported : after.rejections message = before.rejections message) :
    ¬Rejects before after message := fun rejected => absurd unreported (Nat.ne_of_gt rejected.2)

theorem onEnvelopeAck_table (node : Node) (sender : Address) (envelopeId : UInt32) (now : Nat) :
    (node.onEnvelopeAck sender envelopeId now).transport.outstanding =
        node.transport.outstanding.eraseP (inEnvelope envelopeId) ∧
      ∀ message, (node.onEnvelopeAck sender envelopeId now).rejections message =
        node.rejections message := by
  unfold onEnvelopeAck
  dsimp only
  split
  · split
    · exact ⟨by rw [emit_transport]; rfl, fun _ => emit_rejections _ rfl⟩
    · exact ⟨rfl, fun _ => rfl⟩
  · exact ⟨rfl, fun _ => rfl⟩

theorem onStoreAccepted_table (node : Node) (src : Address) (envelopeId : UInt32) :
    (node.onStoreAccepted src envelopeId).transport.outstanding =
        updateFirst (inEnvelope envelopeId) node.transport.outstanding ∧
      ∀ message, (node.onStoreAccepted src envelopeId).rejections message =
        node.rejections message := by
  unfold onStoreAccepted
  dsimp only
  split
  · split
    · exact ⟨by rw [emit_transport]; rfl, fun _ => emit_rejections _ rfl⟩
    · exact ⟨rfl, fun _ => rfl⟩
  · rename_i absent
    have unselected : node.transport.outstanding.find? (inEnvelope envelopeId) = none := by
      rw [List.find?_eq_none]
      intro message member selected
      exact absent (any_eq_true.mpr ⟨message, member, selected⟩)
    rw [Transport.updateFirst_unselected unselected]
    split
    · exact ⟨rfl, fun _ => rfl⟩
    · split <;> exact ⟨rfl, fun _ => rfl⟩

/-- The message that is erased is reported as rejected, if there is room for the report. -/
theorem onStoreRejected_table (node : Node) (envelopeId : UInt32) :
    (node.onStoreRejected envelopeId).transport.outstanding =
        node.transport.outstanding.eraseP (inEnvelope envelopeId) ∧
      ∀ message, node.transport.outstanding.find? (inEnvelope envelopeId) = some message →
        (node.rejections message < (node.onStoreRejected envelopeId).rejections message ↔
          node.events.length < 256) := by
  let cleared : Node := { node with transport := (node.transport.onEnvelopeDelivered envelopeId).1 }
  unfold onStoreRejected Transport.onEnvelopeDelivered
  dsimp only
  cases selected : node.transport.outstanding.find? (inEnvelope envelopeId) with
  | none => exact ⟨rfl, fun _ impossible => nomatch impossible⟩
  | some first =>
    refine ⟨by rw [emit_transport], ?_⟩
    intro message found
    cases found
    have rejected : (NodeEvent.failed first.handle first.dst .rejected).rejects first = true := by
      simp [NodeEvent.rejects]
    exact cleared.emit_rejections_lt_iff rejected

/-- A session acknowledgement that selects no message does nothing. -/
theorem onAck_unselected (node : Node) {now : Nat}
    (absent : node.transport.outstanding.find? (acknowledges src ack) = none) :
    node.onAck src ack now = node := by
  simp only [onAck, Transport.onAck, absent, reportAck]
  split <;> rfl

/-- A session acknowledgement that says "stored" marks the message it selects. -/
theorem onAck_marks (node : Node) (now : Nat)
    (found : node.transport.outstanding.find? (acknowledges src ack) = some message)
    (stored : ack.status = AckStatus.stored) :
    (node.onAck src ack now).transport.outstanding =
        updateFirst (acknowledges src ack) node.transport.outstanding ∧
      ∀ other, (node.onAck src ack now).rejections other = node.rejections other := by
  simp only [onAck, Transport.onAck, found, if_pos stored, reportAck]
  split
  · exact ⟨by rw [emit_transport], fun _ => emit_rejections _ rfl⟩
  · exact ⟨rfl, fun _ => rfl⟩

/-- Any other session acknowledgement erases the message it selects, and reports it as
rejected unless it was delivered. -/
theorem onAck_settles (node : Node) (now : Nat)
    (found : node.transport.outstanding.find? (acknowledges src ack) = some message)
    (unstored : ack.status ≠ AckStatus.stored) :
    (node.onAck src ack now).transport.outstanding =
        node.transport.outstanding.eraseP (acknowledges src ack) ∧
      (ack.status = AckStatus.delivered →
        ∀ other, (node.onAck src ack now).rejections other = node.rejections other) ∧
      (ack.status ≠ AckStatus.delivered →
        (node.rejections message < (node.onAck src ack now).rejections message ↔
          node.events.length < 256)) := by
  simp only [onAck, Transport.onAck, found, if_neg unstored, reportAck]
  generalize remaining : node.transport.outstanding.eraseP (acknowledges src ack) = rest
  generalize erased : ({ node with transport :=
    { node.transport with outstanding := rest } } : Node) = cleared
  have confirmed : (cleared.confirmRoute src now).transport = cleared.transport ∧
      (cleared.confirmRoute src now).events = node.events := by
    subst erased
    unfold confirmRoute
    split <;> exact ⟨rfl, rfl⟩
  have rejections (other : Outstanding) :
      (cleared.confirmRoute src now).rejections other = node.rejections other := by
    unfold Node.rejections
    rw [confirmed.2]
  by_cases delivered : ack.status = AckStatus.delivered
  · rw [if_pos delivered]
    refine ⟨?_, fun _ other => ?_, fun undelivered => absurd delivered undelivered⟩
    · rw [emit_transport, confirmed.1, ← erased]
    · rw [emit_rejections _ rfl, rejections]
  · rw [if_neg delivered]
    have rejected : (NodeEvent.failed message.handle message.dst .rejected).rejects
        message = true := by
      simp [NodeEvent.rejects]
    refine ⟨?_, fun impossible => absurd impossible delivered, fun _ => ?_⟩
    · rw [emit_transport, confirmed.1, ← erased]
    · rw [← rejections, ← confirmed.2]
      exact emit_rejections_lt_iff _ rejected

end

/-- Control messages other than the answers of hosts leave the table alone. -/
theorem onControl_unanswering {node : Node} {src : Address} {sub : UInt8} {rest : Bytes} {now : Nat}
    (unaccepted : sub ≠ Control.storeAccepted) (unrejected : sub ≠ Control.storeRejected) :
    (node.onControl src sub rest now).transport.outstanding = node.transport.outstanding := by
  have kept {effects : List Effect} {after : Node} (moves : Moves False effects node after)
      (spared : ∀ effect ∈ effects, effect.touchesOutstanding = false) :
      after.transport.outstanding = node.transport.outstanding :=
    moves.same CoreStep.outstanding_same spared
  unfold onControl
  rw [if_neg unaccepted, if_neg unrejected]
  split
  · exact kept (dropSession_moves _ _) (by decide)
  · split
    · exact kept (sendControl_moves _ _ _ _ _) (by decide)
    · split
      · rfl
      · split
        · split
          · exact kept (onMailboxAck_moves _ _ _) (by decide)
          · rfl
        · rfl

/-- Whether a receipt is for an envelope. -/
def Receipt.isEnvelope : Receipt → Bool
  | .envelope _ _ => true
  | .session _ _ => false

/-- A frame with a receipt is handled by applying the receipt, to a state with the table and
the events of the node before it. It carries no control message. -/
theorem receipt_handled {given : Receipt} (received : node.receipt frame rxMeta = some given) :
    (∃ opened : Node, opened.transport.outstanding = node.transport.outstanding ∧
      opened.events = node.events ∧
      node.onRadioRx frame rxMeta = opened.onReceipt (node.clock rxMeta) given) ∧
    node.controlBody frame rxMeta = none ∧ node.carriesEnvelopeAck frame = given.isEnvelope := by
  simp only [receipt] at received
  split at received
  · cases received
  · rename_i packet incoming
    split at received
    · rename_i addressed
      obtain ⟨mine, kind⟩ := addressed
      split at received
      · cases received
      · rename_i ready arrived
        have quiet : Reroutes False (node.noted frame rxMeta packet) ready :=
          arrival_reroutes arrived
        have engaged : Moves False (.reroute :: Effects.opening) (node.noted frame rxMeta packet)
            (ready.engaged packet (node.clock rxMeta)) :=
          Reroutes.moves (arrival_engaged arrived) (by decide)
        have opened : Moves False (.reroute :: Effects.opening)
            (node.noted frame rxMeta packet) _ :=
          engaged.trans ((openReceipt_moves _ packet (node.clock rxMeta)).mono (by decide))
        refine ⟨⟨_, opened.same CoreStep.outstanding_same (by decide),
          opened.same CoreStep.events_same (by decide), ?_⟩, ?_, ?_⟩
        · rw [onRadioRx_incoming incoming, onPacket_arrival arrived,
            dispatch_mine (mine.trans quiet.address.symm) (by simp [kind]) (by simp [kind])]
          simp only [handleForMe, kind]
          refine (handleAck_eq (ready.engaged packet _) packet _).trans ?_
          rw [received]
        · simp [controlBody, incoming, kind]
        · simp only [openReceipt] at received
          simp only [carriesEnvelopeAck, incoming, kind, beq_self_eq_true, Bool.true_and]
          split at received
          · rename_i flagged
            obtain ⟨_, _, same⟩ := Option.map_eq_some_iff.mp received
            rw [flagged, ← same]
            rfl
          · rename_i unflagged
            obtain ⟨_, _, same⟩ := Option.map_eq_some_iff.mp received
            rw [Bool.eq_false_of_not_eq_true unflagged, ← same]
            rfl
    · cases received

/-- A frame with a control body carries no acknowledgement. -/
theorem controlBody_unacknowledged
    {content : Address × Bytes} (received : node.controlBody frame rxMeta = some content) :
    node.receipt frame rxMeta = none ∧ node.carriesEnvelopeAck frame = false := by
  simp only [controlBody] at received
  split at received
  · cases received
  · rename_i packet incoming
    split at received
    · rename_i addressed
      obtain ⟨_, kind, _⟩ := addressed
      simp [receipt, carriesEnvelopeAck, incoming, kind]
    · cases received

/-- A frame with a control message is handled by applying it, to a state with the table and
the events of the node before it. -/
theorem controlBody_applied
    {body : Bytes} (received : node.controlBody frame rxMeta = some (src, body)) :
    ∃ opened : Node, opened.transport.outstanding = node.transport.outstanding ∧
      opened.events = node.events ∧
      (body = [] → node.onRadioRx frame rxMeta = opened) ∧
      ∀ sub rest, body = sub :: rest → node.onRadioRx frame rxMeta =
        opened.onControl src sub rest (node.clock rxMeta) := by
  obtain ⟨ready, packet, quiet, rfl, decrypted, handled⟩ := controlBody_handled received
  have opened : Moves False (.reroute :: Effects.opening) (node.noted frame rxMeta packet) _ :=
    (quiet.moves (by decide)).trans
      ((ready.openSessionPayload_moves packet (node.clock rxMeta)).mono (by decide))
  refine ⟨_, opened.same CoreStep.outstanding_same (by decide),
    opened.same CoreStep.events_same (by decide), ?_, ?_⟩
  · rintro rfl
    rw [handled, handleControl]
    split
    · rename_i outcome
      rw [outcome]
    · rename_i outcome
      rw [outcome]
    · rename_i outcome
      rw [outcome] at decrypted
      cases decrypted
  · rintro sub rest rfl
    rw [handled, handleControl]
    split
    · rename_i outcome
      rw [outcome] at decrypted
      cases decrypted
    · rename_i outcome
      rw [outcome] at decrypted
      cases decrypted
    · rename_i outcome
      rw [outcome] at decrypted
      cases decrypted
      rw [outcome]

/-- A frame with neither leaves the envelopes to sealing, or it is a notice. -/
theorem unsettled (unacknowledged : node.receipt frame rxMeta = none)
    (uncontrolled : node.controlBody frame rxMeta = none) :
    (∀ envelopeId, Retains envelopeId node (node.onRadioRx frame rxMeta)) ∨
      node.carriesEnvelopeAck frame = false ∧ Withdraws node (node.onRadioRx frame rxMeta) := by
  rcases node.onRadioRx_cases frame rxMeta with ⟨_, quiet⟩ | ⟨packet, incoming, foreign, _, handled⟩
  · exact .inl (fun _ => (quiet False).retains)
  · have noted (envelopeId : UInt32) : Retains envelopeId node (node.noted frame rxMeta packet) :=
      .ofSame rfl
    have ruling : Ruling (node.noted frame rxMeta packet) packet rxMeta
        (node.clock rxMeta) (node.onRadioRx frame rxMeta) := by
      rw [handled]
      exact onPacket_ruling _ _ _ _ foreign ⟨packet, mem_append_right _ mem_cons_self, rfl⟩
    generalize node.onRadioRx frame rxMeta = after at ruling
    cases ruling with
    | retained _ each => exact .inl (fun envelopeId => (noted envelopeId).trans (each envelopeId))
    | notice active quiet noticed =>
      refine .inr ⟨?_, ?_⟩
      · simp only [isNoSessionNotice, Bool.and_eq_true, beq_iff_eq] at noticed
        simp [carriesEnvelopeAck, incoming, noticed.1.1]
      · have same : Resends (node.noted frame rxMeta packet) active :=
          Moves.resends (quiet.moves (show Effect.silent ∈ [Effect.silent] by decide)) (by decide)
            (by decide)
        obtain ⟨fewer, unrejected⟩ :=
          active.onNoSessionNotice_withdraws packet.header.src (node.clock rxMeta)
        exact ⟨fun envelopeId => same.envelopes envelopeId ▸ fewer envelopeId,
          fun message => (unrejected message).trans (same.rejections message)⟩
    | ack ready arrived mine kind =>
      have unopened := unacknowledged
      rw [receipt_eq incoming mine kind arrived] at unopened
      have engaged : Reroutes False (node.noted frame rxMeta packet) (ready.engaged packet _) :=
        arrival_engaged arrived
      rw [handleAck_eq, unopened]
      exact .inl (fun envelopeId =>
        ((noted envelopeId).trans engaged.retains).trans
        (Moves.retains (openReceipt_moves _ _ _) (by decide)))
    | control ready arrived mine kind untraced =>
      have engaged : Reroutes False (node.noted frame rxMeta packet) (ready.engaged packet _) :=
        arrival_engaged arrived
      have opened (envelopeId : UInt32) : Retains envelopeId node _ :=
        ((noted envelopeId).trans engaged.retains).trans
          (Moves.retains (openSessionPayload_moves _ packet (node.clock rxMeta)) (by decide))
      rw [handleControl]
      split
      · rename_i outcome
        rw [outcome] at opened
        exact .inl opened
      all_goals
        rename_i outcome
        have carried := controlBody_eq incoming mine kind untraced arrived
          (congrArg Prod.snd outcome)
        cases uncontrolled.symm.trans carried

section Cases

variable {node : Node} {frame : Bytes} {rxMeta : RxMeta}

omit [Primitives] in
theorem named_of_inEnvelope {messages : List Outstanding}
    (found : messages.find? (inEnvelope envelopeId) = some message) :
    message.envelopeId = some envelopeId := by
  simpa [inEnvelope] using List.find?_some found

/-- The acknowledgement of an envelope removes the message on proof exactly if its
destination sealed the acknowledgement. -/
theorem changesOnProof_envelope_iff {sender : Address}
    (received : node.receipt frame rxMeta = some (.envelope sender envelopeId)) :
    node.ChangesOnProof frame rxMeta ↔ node.ReceiptVouched (.envelope sender envelopeId) := by
  obtain ⟨⟨opened, tracked, reported, handled⟩, _, flagged⟩ := receipt_handled received
  obtain ⟨erased, unrejected⟩ := opened.onEnvelopeAck_table sender envelopeId (node.clock rxMeta)
  replace erased : (node.onRadioRx frame rxMeta).transport.outstanding =
      node.transport.outstanding.eraseP (inEnvelope envelopeId) := by
    rw [handled, ← tracked]
    exact erased
  replace unrejected (message : Outstanding) :
      (node.onRadioRx frame rxMeta).rejections message = node.rejections message := by
    rw [handled, show node.rejections message = opened.rejections message from
      (congrArg (List.countP (NodeEvent.rejects message)) reported).symm]
    exact unrejected message
  constructor
  · intro proven message found
    obtain ⟨removed, _, _⟩ := proven message (mem_of_find?_eq_some found) envelopeId
      (named_of_inEnvelope found)
    have spoken := removed flagged ((removes_eraseP_iff message erased).mpr found)
    obtain ⟨same, _⟩ := Receipt.envelope.inj (Option.some.inj (received.symm.trans spoken))
    exact same.symm
  · intro vouched message _ other named
    refine ⟨fun _ removed => ?_, fun marked => ?_, fun rejected => ?_⟩
    · have found := (removes_eraseP_iff message erased).mp removed
      have same := Option.some.inj (named.symm.trans (named_of_inEnvelope found))
      rw [received, vouched message found, same]
    · exact absurd marked (not_marks_of_sublist (erased ▸ eraseP_sublist))
    · exact absurd rejected (not_rejects_of_same (unrejected message))

/-- A session acknowledgement is no proof for an envelope: it must mark none and reject none. -/
theorem changesOnProof_session_quiet {sender : Address}
    (received : node.receipt frame rxMeta = some (.session sender ack)) :
    node.ChangesOnProof frame rxMeta ↔ ∀ message ∈ node.transport.outstanding,
      message.envelopeId ≠ none → ¬Marks node (node.onRadioRx frame rxMeta) message ∧
        ¬Rejects node (node.onRadioRx frame rxMeta) message := by
  obtain ⟨_, uncontrolled, flagged⟩ := receipt_handled received
  have unflagged : ¬node.carriesEnvelopeAck frame = true := by
    rw [flagged]
    exact Bool.false_ne_true
  have unanswered (answer : UInt8) (envelopeId : UInt32) :
      ¬node.AnswersDeposit frame rxMeta answer envelopeId := by
    rintro ⟨_, _, _, carried, _⟩
    cases uncontrolled.symm.trans carried
  constructor
  · intro proven message member enveloped
    obtain ⟨envelopeId, named⟩ := Option.ne_none_iff_exists'.mp enveloped
    obtain ⟨_, accepted, rejected⟩ := proven message member envelopeId named
    exact ⟨fun marked => unanswered _ _ (accepted marked),
      fun failed => unanswered _ _ (rejected failed)⟩
  · intro quiet message member envelopeId named
    obtain ⟨unmarked, unrejected⟩ := quiet message member (named ▸ Option.some_ne_none envelopeId)
    exact ⟨fun carried => absurd carried unflagged, fun marked => absurd marked unmarked,
      fun rejected => absurd rejected unrejected⟩

/-- A session acknowledgement leaves an envelope alone, or the envelope changes without the
proof it needs. -/
theorem changesOnProof_session_iff {sender : Address}
    (received : node.receipt frame rxMeta = some (.session sender ack)) :
    node.ChangesOnProof frame rxMeta ↔ node.ReceiptVouched (.session sender ack) := by
  obtain ⟨⟨opened, tracked, reported, handled⟩, _, _⟩ := receipt_handled received
  have counted (message : Outstanding) : opened.rejections message = node.rejections message :=
    congrArg (List.countP (NodeEvent.rejects message)) reported
  rw [changesOnProof_session_quiet received]
  cases selected : node.transport.outstanding.find? (acknowledges sender ack) with
  | none =>
    have idle : node.onRadioRx frame rxMeta = opened :=
      handled.trans (opened.onAck_unselected (tracked ▸ selected))
    have same : (node.onRadioRx frame rxMeta).transport.outstanding =
        node.transport.outstanding := by rw [idle, tracked]
    constructor
    · intro _ message found
      cases selected.symm.trans found
    · intro _ message _ _
      refine ⟨not_marks_of_sublist (same ▸ List.Sublist.refl _), not_rejects_of_same ?_⟩
      rw [idle, counted]
  | some first =>
    have found := tracked ▸ selected
    have member := mem_of_find?_eq_some selected
    by_cases stored : ack.status = AckStatus.stored
    · obtain ⟨marked, unrejected⟩ :=
        opened.onAck_marks (node.clock rxMeta) found stored
      have updated : (node.onRadioRx frame rxMeta).transport.outstanding =
          updateFirst (acknowledges sender ack) node.transport.outstanding := by
        rw [handled, ← tracked]
        exact marked
      constructor
      · intro quiet message chosen enveloped
        cases selected.symm.trans chosen
        refine ⟨fun _ => ?_, fun unstored => absurd stored unstored⟩
        refine Bool.eq_true_of_not_eq_false (fun unmarked => (quiet first member enveloped).1 ?_)
        exact (marks_updateFirst_iff first updated).mpr ⟨unmarked, selected⟩
      · intro vouched message _ enveloped
        constructor
        · intro marks
          obtain ⟨unmarked, chosen⟩ := (marks_updateFirst_iff message updated).mp marks
          cases unmarked.symm.trans ((vouched message chosen enveloped).1 stored)
        · refine not_rejects_of_same ?_
          rw [handled, ← counted]
          exact unrejected message
    · obtain ⟨settled, delivers, fails⟩ :=
        opened.onAck_settles (node.clock rxMeta) found stored
      have erased : (node.onRadioRx frame rxMeta).transport.outstanding =
          node.transport.outstanding.eraseP (acknowledges sender ack) := by
        rw [handled, ← tracked]
        exact settled
      rw [counted, reported, show (opened.onAck sender ack _) = node.onRadioRx frame rxMeta from
        handled.symm] at fails
      constructor
      · intro quiet message chosen enveloped
        cases selected.symm.trans chosen
        refine ⟨fun impossible => absurd impossible stored, fun _ undelivered => ?_⟩
        refine Nat.le_of_not_lt (fun room => (quiet first member enveloped).2 ?_)
        exact ⟨(removes_eraseP_iff first erased).mpr selected, (fails undelivered).mpr room⟩
      · intro vouched message _ enveloped
        refine ⟨not_marks_of_sublist (erased ▸ eraseP_sublist), ?_⟩
        intro rejected
        have chosen := (removes_eraseP_iff message erased).mp rejected.1
        cases selected.symm.trans chosen
        by_cases delivered : ack.status = AckStatus.delivered
        · refine not_rejects_of_same ?_ rejected
          rw [handled, ← counted]
          exact delivers delivered first
        · have full := (vouched first selected enveloped).2 stored delivered
          exact absurd ((fails delivered).mp rejected.2) (Nat.not_lt_of_le full)

/-- Whatever leaves the table alone changes no envelope. -/
theorem ChangesOnProof.ofSame
    (same : (node.onRadioRx frame rxMeta).transport.outstanding = node.transport.outstanding) :
    node.ChangesOnProof frame rxMeta := by
  intro message _ envelopeId _
  have kept : ¬Removes node (node.onRadioRx frame rxMeta) message := by
    unfold Removes copies
    rw [same]
    exact Nat.lt_irrefl _
  exact ⟨fun _ removed => absurd removed kept, fun marked => absurd marked.2.1 kept,
    fun rejected => absurd rejected.1 kept⟩

section Answers

variable {host : Address} {rest : Bytes} {envelopeId : UInt32} {reason : Option UInt8}

/-- A decoded answer is an answer to a deposit if the host was asked. -/
theorem answersDeposit_iff {answer : UInt8}
    (received : node.controlBody frame rxMeta = some (host, answer :: rest))
    (decoded : decodeStoreResult rest = .ok (envelopeId, reason)) :
    node.AnswersDeposit frame rxMeta answer envelopeId ↔ node.Deposited host envelopeId := by
  constructor
  · rintro ⟨other, tail, _, carried, parsed, deposited⟩
    cases received.symm.trans carried
    cases decoded.symm.trans parsed
    exact deposited
  · intro deposited
    exact ⟨host, rest, reason, received, decoded, deposited⟩

/-- A control message carries no acknowledgement of an envelope. -/
theorem controlBody_unflagged {answer : UInt8}
    (received : node.controlBody frame rxMeta = some (host, answer :: rest)) :
    ¬node.carriesEnvelopeAck frame = true := by
  rw [(controlBody_unacknowledged received).2]
  exact Bool.false_ne_true

/-- An accepting answer marks the first message in flight with its envelope. -/
theorem changesOnProof_accepted_iff
    (received : node.controlBody frame rxMeta = some (host, Control.storeAccepted :: rest))
    (decoded : decodeStoreResult rest = .ok (envelopeId, reason)) :
    node.ChangesOnProof frame rxMeta ↔ node.AnswerVouched host Control.storeAccepted rest := by
  obtain ⟨opened, tracked, reported, _, applied⟩ := controlBody_applied received
  have handled : node.onRadioRx frame rxMeta = opened.onStoreAccepted host envelopeId := by
    rw [applied Control.storeAccepted rest rfl, onControl, if_pos rfl, decoded]
  obtain ⟨marked, unrejected⟩ := opened.onStoreAccepted_table host envelopeId
  rw [← handled, tracked] at marked
  constructor
  · intro proven other _ message parsed found
    cases decoded.symm.trans parsed
    have named := named_of_inEnvelope found
    obtain ⟨_, accepted, _⟩ := proven message (mem_of_find?_eq_some found) _ named
    refine ⟨fun _ unstored => ?_, fun rejecting => absurd rejecting (by decide)⟩
    exact (answersDeposit_iff received decoded).mp
      (accepted ((marks_updateFirst_iff message marked).mpr ⟨unstored, found⟩))
  · intro vouched message _ other named
    refine ⟨fun carried => absurd carried (controlBody_unflagged received), fun marks => ?_,
      fun rejected => ?_⟩
    · obtain ⟨unstored, found⟩ := (marks_updateFirst_iff message marked).mp marks
      cases named.symm.trans (named_of_inEnvelope found)
      exact (answersDeposit_iff received decoded).mpr
        ((vouched _ _ message decoded found).1 rfl unstored)
    · refine absurd rejected (not_rejects_of_same ?_)
      rw [handled, ← show opened.rejections message = node.rejections message from
        congrArg (List.countP (NodeEvent.rejects message)) reported]
      exact unrejected message

/-- A rejecting answer removes the first message in flight with its envelope. -/
theorem changesOnProof_rejected_iff
    (received : node.controlBody frame rxMeta = some (host, Control.storeRejected :: rest))
    (decoded : decodeStoreResult rest = .ok (envelopeId, reason)) :
    node.ChangesOnProof frame rxMeta ↔ node.AnswerVouched host Control.storeRejected rest := by
  obtain ⟨opened, tracked, reported, _, applied⟩ := controlBody_applied received
  have counted (message : Outstanding) : opened.rejections message = node.rejections message :=
    congrArg (List.countP (NodeEvent.rejects message)) reported
  have handled : node.onRadioRx frame rxMeta = opened.onStoreRejected envelopeId := by
    rw [applied Control.storeRejected rest rfl, onControl, if_neg (by decide), if_pos rfl, decoded]
  obtain ⟨erased, fails⟩ := opened.onStoreRejected_table envelopeId
  rw [← handled, tracked] at erased
  rw [tracked, ← handled, reported] at fails
  constructor
  · intro proven other _ message parsed found
    cases decoded.symm.trans parsed
    have named := named_of_inEnvelope found
    obtain ⟨_, _, rejected⟩ := proven message (mem_of_find?_eq_some found) _ named
    refine ⟨fun accepting => absurd accepting (by decide), fun _ room => ?_⟩
    refine (answersDeposit_iff received decoded).mp (rejected ?_)
    refine ⟨(removes_eraseP_iff message erased).mpr found, ?_⟩
    rw [← counted]
    exact (fails message found).mpr room
  · intro vouched message _ other named
    refine ⟨fun carried => absurd carried (controlBody_unflagged received), fun marks => ?_,
      fun rejected => ?_⟩
    · exact absurd marks (not_marks_of_sublist (erased ▸ eraseP_sublist))
    · have found := (removes_eraseP_iff message erased).mp rejected.1
      cases named.symm.trans (named_of_inEnvelope found)
      have grown := rejected.2
      rw [← counted] at grown
      exact (answersDeposit_iff received decoded).mpr
        ((vouched _ _ message decoded found).2 rfl ((fails message found).mp grown))

/-- The answer of a host changes an envelope on proof exactly if the host was asked. -/
theorem changesOnProof_answer_iff {answer : UInt8}
    (received : node.controlBody frame rxMeta = some (host, answer :: rest)) :
    node.ChangesOnProof frame rxMeta ↔ node.AnswerVouched host answer rest := by
  obtain ⟨opened, tracked, _, _, applied⟩ := controlBody_applied received
  replace applied := applied answer rest rfl
  by_cases answers : answer = Control.storeAccepted ∨ answer = Control.storeRejected
  · cases decoded : decodeStoreResult rest with
    | ok content =>
      rcases answers with rfl | rfl
      · exact changesOnProof_accepted_iff received decoded
      · exact changesOnProof_rejected_iff received decoded
    | error error =>
      have idle : node.onRadioRx frame rxMeta = opened := by
        rw [applied, onControl, decoded]
        rcases answers with rfl | rfl
        · rfl
        · rfl
      refine iff_of_true (.ofSame (by rw [idle, tracked])) ?_
      intro _ _ _ parsed
      cases decoded.symm.trans parsed
  · rw [not_or] at answers
    refine iff_of_true (.ofSame ?_) ?_
    · rw [applied, onControl_unanswering answers.1 answers.2, tracked]
    · intro _ _ _ _ _
      exact ⟨fun impossible => absurd impossible answers.1,
        fun impossible => absurd impossible answers.2⟩

end Answers

/-- Frames without an acknowledgement and without a control message change no envelope
without proof, as long as the ids that are drawn are fresh. -/
theorem ChangesOnProof.ofUnsettled (fresh : node.DrawsFreshIds frame rxMeta)
    (unacknowledged : node.receipt frame rxMeta = none)
    (uncontrolled : node.controlBody frame rxMeta = none) : node.ChangesOnProof frame rxMeta := by
  intro message member envelopeId named
  rcases unsettled unacknowledged uncontrolled with retained | ⟨unflagged, fewer, unrejected⟩
  · have same := (retained envelopeId).same (fresh message member envelopeId named)
    have kept : ¬Removes node (node.onRadioRx frame rxMeta) message := by
      unfold Removes
      rw [copies_eq named, copies_eq named, same]
      exact Nat.lt_irrefl _
    exact ⟨fun _ removed => absurd removed kept, fun marked => absurd marked.2.1 kept,
      fun rejected => absurd rejected.1 kept⟩
  · refine ⟨fun carried => ?_, fun marked => ?_, fun rejected => ?_⟩
    · cases unflagged.symm.trans carried
    · have grown := marked.2.2
      rw [copies_eq (show (markStored message).envelopeId = some envelopeId from named),
        copies_eq (show (markStored message).envelopeId = some envelopeId from named)]
        at grown
      exact absurd ((fewer envelopeId).count_le _) (Nat.not_le_of_lt grown)
    · exact absurd rejected (not_rejects_of_same (unrejected message))

end Cases

/-- In every state and for every frame, an envelope in flight is removed by an
acknowledgement only on the destination's word, and marked or rejected only on the word of
a host that was asked to keep it, exactly if whoever the frame lets speak may do so. -/
theorem envelopes_change_on_proof_iff (node : Node) (frame : Bytes) (rxMeta : RxMeta)
    (fresh : node.DrawsFreshIds frame rxMeta) :
    node.ChangesOnProof frame rxMeta ↔ node.Vouched frame rxMeta := by
  cases received : node.receipt frame rxMeta with
  | some given =>
    obtain ⟨_, uncontrolled, _⟩ := receipt_handled received
    have vouched_iff : node.Vouched frame rxMeta ↔ node.ReceiptVouched given := by
      constructor
      · intro vouched
        exact vouched.1 given received
      · intro vouched
        refine ⟨fun other carried => ?_, fun _ _ _ carried => ?_⟩
        · cases received.symm.trans carried
          exact vouched
        · cases uncontrolled.symm.trans carried
    rw [vouched_iff]
    cases given with
    | envelope sender envelopeId => exact changesOnProof_envelope_iff received
    | session sender ack => exact changesOnProof_session_iff received
  | none =>
    cases carried : node.controlBody frame rxMeta with
    | none =>
      refine iff_of_true (.ofUnsettled fresh received carried)
        ⟨fun _ other => ?_, fun _ _ _ other => ?_⟩
      · cases received.symm.trans other
      · cases carried.symm.trans other
    | some content =>
      obtain ⟨host, body⟩ := content
      cases body with
      | nil =>
        obtain ⟨opened, tracked, _, idle, _⟩ := controlBody_applied carried
        refine iff_of_true (.ofSame (by rw [idle rfl, tracked]))
          ⟨fun _ other => ?_, fun _ _ _ other => ?_⟩
        · cases received.symm.trans other
        · cases carried.symm.trans other
      | cons answer rest =>
        rw [changesOnProof_answer_iff carried]
        constructor
        · intro vouched
          refine ⟨fun _ other => ?_, fun _ _ _ other => ?_⟩
          · cases received.symm.trans other
          · cases carried.symm.trans other
            exact vouched
        · intro vouched
          exact vouched.2 host answer rest carried

end Node

end MeshStar

namespace MeshStar

local instance vouchingSuite : Primitives := Transparent.primitives

open Transparent Accounting List

namespace Vouching

/-- The acknowledgement of the one envelope in flight, sealed by an identity, arrives. -/
def settled (sealer : Identity) : Node :=
  sent.onRadioRx (acknowledgement sealer) (heardAt 20)

/-- A table that becomes empty has drawn no id twice. -/
theorem fresh_of_settled {sealer : Identity}
    (vacant : (settled sealer).transport.outstanding = []) :
    sent.DrawsFreshIds (acknowledgement sealer) (heardAt 20) := by
  intro _ _ envelopeId _
  have none : (settled sealer).envelopes envelopeId = [] := by
    unfold Node.envelopes
    rw [vacant]
    rfl
  rw [show (sent.onRadioRx _ _).envelopes envelopeId = [] from none]
  exact Nat.zero_le _

end Vouching

open Vouching

/-- A stranger's acknowledgement removes an envelope that is for somebody else. -/
theorem envelope_settled_by_stranger : sent.DrawsFreshIds (acknowledgement (identity 2))
        (heardAt 20) ∧
      ¬sent.ChangesOnProof (acknowledgement (identity 2)) (heardAt 20) := by
  have facts : (settled (identity 2)).transport.outstanding = [] ∧
      sent.transport.outstanding.map (fun message => (message.dst, message.envelopeId)) =
        [((identity 3).address, some 11)] ∧
      sent.carriesEnvelopeAck (acknowledgement (identity 2)) ∧
      sent.receipt (acknowledgement (identity 2))
        (heardAt 20) = some (.envelope (identity 2).address 11) ∧
      (identity 2).address ≠ (identity 3).address := by
    decide +kernel
  obtain ⟨vacant, table, flagged, received, distinct⟩ := facts
  refine ⟨fresh_of_settled vacant, fun proven => distinct ?_⟩
  obtain ⟨message, tracked, named⟩ := map_eq_singleton_iff.mp table
  obtain ⟨addressed, enveloped⟩ := Prod.mk.inj named
  have member : message ∈ sent.transport.outstanding := tracked ▸ mem_cons_self
  have removed : Node.Removes sent (settled (identity 2)) message := by
    unfold Node.Removes Node.copies
    rw [vacant, tracked, count_singleton_self]
    exact Nat.one_pos
  have spoken := (proven message member 11 enveloped).1 flagged removed
  obtain ⟨same, _⟩ := Node.Receipt.envelope.inj (Option.some.inj (received.symm.trans spoken))
  exact same.trans addressed

/-- The destination's own acknowledgement removes its envelope on proof. -/
theorem envelope_settled_by_destination : sent.ChangesOnProof (acknowledgement (identity 3))
      (heardAt 20) := by
  have facts : (settled (identity 3)).transport.outstanding = [] ∧
      (∀ message ∈ sent.transport.outstanding, message.dst = (identity 3).address) ∧
      sent.controlBody (acknowledgement (identity 3)) (heardAt 20) = none ∧
      sent.receipt (acknowledgement (identity 3))
        (heardAt 20) = some (.envelope (identity 3).address 11) := by
    decide +kernel
  obtain ⟨vacant, addressed, uncontrolled, received⟩ := facts
  refine (Node.envelopes_change_on_proof_iff _ _ _ (fresh_of_settled vacant)).mpr ⟨?_, ?_⟩
  · intro given carried
    cases received.symm.trans carried
    intro message found
    exact addressed message (mem_of_find?_eq_some found)
  · intro _ _ _ carried
    cases uncontrolled.symm.trans carried

end MeshStar
