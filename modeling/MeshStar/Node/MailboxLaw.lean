import MeshStar.Node.Handling
import MeshStar.Node.Partner

/-!
# What happens to mail at a host

Mail stays in a mailbox until it is collected as expired or exhausted, until its
destination acknowledges it, or until another host confirms that it took the mail over.
The last case needs a condition: the confirmation is matched by envelope id alone.
The answer to a deposit needs one too, because a duplicate is recognised by destination
and envelope id and never by its content.
-/

namespace MeshStar

open List

variable [Primitives]

/-- Whether an effect may remove mail. -/
def Effect.deletesMail : Effect → Bool
  | .collect | .discard => true
  | _ => false

/-- The mailbox has this mail, possibly after more delivery attempts. -/
def Core.Keeps (core : Core) (mail : StoredEnvelope) : Prop :=
  ∃ mailbox, core.mailbox = some mailbox ∧ ∃ kept ∈ mailbox.entries, kept.SameMail mail

/-- Mail is only removed by collection and by deletion. -/
theorem CoreStep.keeps {effect : Effect} {before after : Core} {mail : StoredEnvelope}
    (step : CoreStep effect before after) (spared : effect.deletesMail = false)
    (keeps : before.Keeps mail) : after.Keeps mail := by
  obtain ⟨mailbox, present, kept, member, same⟩ := keeps
  cases step with
  | shelter _ other stored now depositor request found accepted =>
    cases present.symm.trans found
    exact ⟨stored, rfl, kept, Mailbox.store_keeps accepted member, same⟩
  | deposit _ other stored now depositor request found accepted =>
    cases present.symm.trans found
    exact ⟨stored, rfl, kept, Mailbox.store_keeps accepted member, same⟩
  | attempt _ other dst now maximum found =>
    cases present.symm.trans found
    obtain ⟨tried, triedMember, triedSame⟩ :=
      Mailbox.takeFrom_keeps mailbox.cfg dst now maximum member
    exact ⟨_, rfl, tried, triedMember, triedSame.trans same⟩
  | collect => cases spared
  | discard => cases spared
  | _ => exact ⟨mailbox, present, kept, member, same⟩

/-- No two entries of the mailbox share destination and envelope id. -/
def Core.Filed (core : Core) : Prop :=
  ∀ mailbox, core.mailbox = some mailbox → mailbox.Distinct

/-- Every effect keeps the mail filed under distinct keys. -/
theorem CoreStep.filed {effect : Effect} {before after : Core}
    (step : CoreStep effect before after) (filed : before.Filed) : after.Filed := by
  intro mailbox present
  cases step with
  | shelter _ other stored now depositor request found accepted =>
    cases present
    exact Mailbox.store_distinct accepted (filed other found)
  | deposit _ other stored now depositor request found accepted =>
    cases present
    exact Mailbox.store_distinct accepted (filed other found)
  | attempt _ other dst now maximum found =>
    cases present
    exact Mailbox.takeDeliverable_distinct dst now maximum (filed other found)
  | collect _ other now found =>
    cases present
    exact Mailbox.gc_distinct now (filed other found)
  | discard _ other dst envelopeId found =>
    cases present
    exact Mailbox.delivered_distinct dst envelopeId (filed other found)
  | _ => exact filed mailbox present

namespace Node

variable (node : Node) (src : Address) (request : StoreRequest) (now : Nat)

variable {law : Prop} {effects : List Effect} {before after : Node} {mail : StoredEnvelope}

/-- The node keeps this mail. -/
def Keeps (node : Node) (mail : StoredEnvelope) : Prop := node.core.Keeps mail

theorem keeps_iff (mail : StoredEnvelope) :
    node.Keeps mail ↔ ∃ mailbox, node.mailbox = some mailbox ∧
      ∃ kept ∈ mailbox.entries, kept.SameMail mail := Iff.rfl

theorem Moves.keeps (moves : Moves law effects before after)
    (spared : ∀ effect ∈ effects, effect.deletesMail = false) (keeps : before.Keeps mail) :
    after.Keeps mail :=
  moves.invariant (fun node => node.Keeps mail) keeps
    (fun effect member _ _ move => move.core.keeps (spared effect member))

/-- Mail for a destination with an envelope id and a content is in the mailbox. -/
def Holds (node : Node) (request : StoreRequest) : Prop :=
  ∃ mailbox, node.mailbox = some mailbox ∧ ∃ entry ∈ mailbox.entries,
    entry.dst = request.dst ∧ entry.envelopeId = request.envelopeId ∧
      entry.envelope = request.envelope

/-- Mail for a destination with an envelope id is in the mailbox, whatever its content. -/
def HasEnvelope (node : Node) (dst : Address) (envelopeId : UInt32) : Prop :=
  ∃ mailbox, node.mailbox = some mailbox ∧
    mailbox.entries.any (Mailbox.isFor dst envelopeId) = true

/-- Held content stays as long as no mail is deleted. -/
theorem Moves.holds {request : StoreRequest} (moves : Moves law effects before after)
    (spared : ∀ effect ∈ effects, effect.deletesMail = false) (holds : before.Holds request) :
    after.Holds request := by
  obtain ⟨mailbox, present, entry, member, sameDst, sameId, sameContent⟩ := holds
  obtain ⟨later, laterPresent, kept, keptMember, same⟩ :=
    Moves.keeps moves spared ⟨mailbox, present, entry, member, .refl entry⟩
  exact ⟨later, laterPresent, kept, keptMember, same.dst.trans sameDst,
    same.envelopeId.trans sameId, same.envelope.trans sameContent⟩

/-- Opening a session payload leaves the mailbox alone. -/
theorem openSessionPayload_mailbox (packet : Packet) (now : Nat) :
    (node.openSessionPayload packet now).1.mailbox = node.mailbox := by
  have opened : Moves False Effects.opening node _ := node.openSessionPayload_moves packet now
  exact opened.same CoreStep.mailbox_same (by decide)

omit [Primitives] in
/-- A deposit is kept, or it is a duplicate of what is there, or it is refused for another
reason. -/
theorem storeDeposit_outcome : (¬node.HasEnvelope request.dst request.envelopeId ∧
      (node.storeDeposit src request now).2 = .ok () ∧
      (node.storeDeposit src request now).1.Holds request) ∨
    (node.HasEnvelope request.dst request.envelopeId ∧
      node.storeDeposit src request now = (node, .error RejectReason.duplicate)) ∨
    (¬node.HasEnvelope request.dst request.envelopeId ∧
      ∃ reason, (node.storeDeposit src request now).2 = .error reason ∧
        reason ≠ RejectReason.duplicate) := by
  unfold storeDeposit
  cases present : node.mailbox with
  | none =>
    refine .inr (.inr ⟨?_, RejectReason.notAnchor, rfl, by decide⟩)
    rintro ⟨mailbox, found, _⟩
    cases present.symm.trans found
  | some mailbox =>
    have absent (free : mailbox.entries.any
        (Mailbox.isFor request.dst request.envelopeId) = false) :
        ¬node.HasEnvelope request.dst request.envelopeId := by
      rintro ⟨other, found, taken⟩
      cases present.symm.trans found
      exact Bool.false_ne_true (free.symm.trans taken)
    simp only
    rcases mailbox.store_outcome now src request with ⟨taken, duplicate⟩ |
      ⟨free, ⟨stored, accepted⟩ | ⟨reason, refused, other⟩⟩
    · refine .inr (.inl ⟨⟨mailbox, present, taken⟩, ?_⟩)
      rw [duplicate, withMailbox, ← present]
    · obtain ⟨entry, sameDst, sameId, sameContent, appended⟩ := Mailbox.store_accepted accepted
      rw [accepted]
      refine .inl ⟨absent free, rfl, stored, rfl, entry, ?_, sameDst, sameId, sameContent⟩
      rw [appended]
      exact mem_append_right _ mem_cons_self
    · rw [refused]
      exact .inr (.inr ⟨absent free, reason, rfl, other⟩)

/-- Answering a deposit and passing it on keeps the mail the deposit left. -/
theorem handleDeposit_holds (holds : (node.storeDeposit src request now).1.Holds request) :
    (node.handleDeposit src request now).Holds request := by
  have answered : (sendControl (node.storeDeposit src request now).1 src
      (node.depositAnswer src request now).1 (node.depositAnswer src request now).2
      now).Holds request := by
    have sent : Moves False Effects.sending _ _ := sendControl_moves
      (node.storeDeposit src request now).1 src
      (node.depositAnswer src request now).1 (node.depositAnswer src request now).2 now
    exact Moves.holds sent (by decide) holds
  have flushed (state : Node) (kept : state.Holds request) :
      (state.flushMailboxTo request.dst now).Holds request := by
    have moved : Moves False _ state _ := state.flushMailboxTo_moves request.dst now
    exact Moves.holds moved (by decide) kept
  simp only [handleDeposit]
  split
  · split
    · exact flushed _ answered
    · exact answered
  · exact answered

/-- A duplicate deposit leaves the mailbox as it is. -/
theorem handleDeposit_duplicate
    (duplicate : node.storeDeposit src request now = (node, .error RejectReason.duplicate)) :
    (node.handleDeposit src request now).mailbox = node.mailbox := by
  have sent : Moves False Effects.sending node _ := sendControl_moves _ src
    (node.depositAnswer src request now).1 (node.depositAnswer src request now).2 now
  simp only [handleDeposit, duplicate]
  exact sent.same CoreStep.mailbox_same (by decide)

/-- A deposit that is answered as accepted is in the mailbox afterwards, exactly when mail
that is there for the same destination and envelope id has the same content. -/
theorem accepted_deposit_held_iff (node : Node) (packet : Packet) (now : Nat) (body : Bytes)
    (request : StoreRequest) (opens : (node.openSessionPayload packet now).2 = some body)
    (decodes : StoreRequest.decode body = .ok request) :
    (((node.openSessionPayload packet now).1.depositAnswer packet.header.src request now).1 =
        Control.storeAccepted → (node.handleStore packet now).Holds request) ↔
      (node.HasEnvelope request.dst request.envelopeId → node.Holds request) := by
  have sameMailbox := node.openSessionPayload_mailbox packet now
  have handled : node.handleStore packet now =
      (node.openSessionPayload packet now).1.handleDeposit packet.header.src request now := by
    unfold handleStore
    generalize node.openSessionPayload packet now = result at opens
    obtain ⟨state, opened⟩ := result
    cases opens
    simp only [decodes]
  rw [handled, depositAnswer]
  generalize (node.openSessionPayload packet now).1 = opened at sameMailbox
  have sameHolds : node.Holds request ↔ opened.Holds request := by
    simp only [Holds, sameMailbox]
  have sameEnvelope : node.HasEnvelope request.dst request.envelopeId ↔
      opened.HasEnvelope request.dst request.envelopeId := by
    simp only [HasEnvelope, sameMailbox]
  rw [sameHolds, sameEnvelope]
  rcases opened.storeDeposit_outcome packet.header.src request now with
    ⟨free, accepted, holds⟩ | ⟨taken, duplicate⟩ | ⟨free, reason, refused, other⟩
  · -- A new deposit is kept, and the condition says nothing about it.
    refine ⟨fun _ has => absurd has free, fun _ _ => ?_⟩
    exact opened.handleDeposit_holds packet.header.src request now holds
  · -- A duplicate is answered as accepted and the mailbox stays as it is.
    have unchanged : (opened.handleDeposit packet.header.src request now).Holds request ↔
        opened.Holds request := by
      simp only [Holds, opened.handleDeposit_duplicate packet.header.src request now duplicate]
    rw [unchanged, duplicate]
    exact ⟨fun law _ => law rfl, fun same _ => same taken⟩
  · -- A refused deposit is not answered as accepted.
    rw [refused]
    refine ⟨fun _ has => absurd has free, fun _ answer => ?_⟩
    simp only [storeAnswer, if_neg other] at answer
    exact absurd answer (by decide)

/-- The ways mail may leave a mailbox: it is collected as expired or exhausted, its
destination acknowledges it, or a host confirms the mail this node deposited there. -/
inductive Removal (node : Node) (mail : StoredEnvelope) : Operation → Prop where
  | collected (time : Nat) (mailbox : Mailbox) (aged : StoredEnvelope)
      (present : (node.beforeService time).mailbox = some mailbox)
      (member : aged ∈ mailbox.entries) (same : aged.SameMail mail)
      (dead : Mailbox.live mailbox.cfg (max node.now time) aged = false) :
      Removal node mail (.poll time)
  | acknowledged (frame : Bytes) (rxMeta : RxMeta) (rest : Bytes)
      (received : node.controlBody frame rxMeta = some (mail.dst, Control.mailboxAck :: rest))
      (sized : rest.length = 4)
      (names : UInt32.ofNat (BigEndian.decode rest) = mail.envelopeId) :
      Removal node mail (.receive frame rxMeta)
  | handedOver (frame : Bytes) (rxMeta : RxMeta) (host : Address) (rest : Bytes)
      (reason : Option UInt8)
      (received : node.controlBody frame rxMeta = some (host, Control.storeAccepted :: rest))
      (names : decodeStoreResult rest = .ok (mail.envelopeId, reason))
      (forwarded : Deposit.mk host mail.dst mail.envelopeId ∈ node.history.deposits) :
      Removal node mail (.receive frame rxMeta)

/-- A confirmed deposit that belongs to no tracked message and to mail in the mailbox comes
from a host where the node deposited that mail. -/
def Attributed (node : Node) : Operation → Prop
  | .receive frame rxMeta => ∀ host rest envelopeId reason mailbox entry,
      node.controlBody frame rxMeta = some (host, Control.storeAccepted :: rest) →
      decodeStoreResult rest = .ok (envelopeId, reason) →
      node.transport.outstanding.any (Transport.inEnvelope envelopeId) = false →
      node.mailbox = some mailbox →
      mailbox.entries.find? (fun entry => entry.envelopeId == envelopeId) = some entry →
      Deposit.mk host entry.dst envelopeId ∈ node.history.deposits
  | _ => True

/-- The timers before the mail is served remove no mail. -/
theorem beforeService_keeps (time : Nat) (keeps : node.Keeps mail) :
    (node.beforeService time).Keeps mail := by
  have powered : Moves False Effects.powering node _ := node.powered_moves time
  have timed : Moves False Effects.ticking (node.powered time) _ :=
    pollTimers_moves _ (max node.now time) False.elim
  have early : Moves False Effects.tidying ((node.powered time).pollTimers (max node.now time)) _ :=
    housekeepingEarly_moves _ (max node.now time)
  exact Moves.keeps early (by decide) (Moves.keeps timed (by decide)
    (Moves.keeps powered (by decide) keeps))

/-- Collecting and serving the mail keeps what is alive. -/
theorem serveMailbox_keeps (keeps : node.Keeps mail) :
    (node.serveMailbox now).Keeps mail ∨ ∃ mailbox, node.mailbox = some mailbox ∧
      ∃ aged ∈ mailbox.entries, aged.SameMail mail ∧ Mailbox.live mailbox.cfg now aged = false := by
  obtain ⟨mailbox, present, kept, member, same⟩ := keeps
  change node.mailbox = some mailbox at present
  cases alive : Mailbox.live mailbox.cfg now kept with
  | false => exact .inr ⟨mailbox, present, kept, member, same, alive⟩
  | true =>
    refine .inl ?_
    have collected : (node.withMailbox (mailbox.gc now)).Keeps mail :=
      ⟨mailbox.gc now, rfl, kept, mem_filter.mpr ⟨member, alive⟩, same⟩
    have served : Moves False Effects.serving (node.withMailbox (mailbox.gc now))
        (node.serveMailbox now) := by
      unfold serveMailbox
      rw [present]
      exact Trail.foldl _ _ (fun state dst _ => serveDestination_moves now state dst)
    exact Moves.keeps served (by decide) collected

/-- A quiet change keeps the mail. -/
theorem Quiet.keeps (quiet : Quiet law before after) (keeps : before.Keeps mail) :
    after.Keeps mail := by
  unfold Keeps
  rw [quiet.core]
  exact keeps

/-- A poll keeps mail that is alive. -/
theorem poll_keeps (time : Nat) (keeps : node.Keeps mail) :
    (node.poll time).Keeps mail ∨ node.Removal mail (.poll time) := by
  have powered : Moves False Effects.powering node _ := node.powered_moves time
  have timed : Moves False Effects.ticking (node.powered time) _ :=
    pollTimers_moves _ (max node.now time) False.elim
  have poweredKeeps := Moves.keeps powered (by decide) keeps
  simp only [poll, pollAwake]
  split
  · exact .inl poweredKeeps
  · split
    · rcases serveMailbox_keeps _ (max node.now time) (node.beforeService_keeps time keeps) with
        served | ⟨mailbox, present, aged, member, same, dead⟩
      · have last : Quiet False ((node.beforeService time).serveMailbox (max node.now time)) _ :=
          expireQueues_quiet _ (max node.now time)
        exact .inl (last.keeps served)
      · exact .inr (.collected time mailbox aged present member same dead)
    · exact .inl (Moves.keeps timed (by decide) poweredKeeps)

/-- Deleting one entry removes no mail but the one for its destination and envelope id. -/
theorem discard_keeps {mailbox : Mailbox} (dst : Address) (envelopeId : UInt32)
    (present : node.mailbox = some mailbox) (keeps : node.Keeps mail) :
    (node.withMailbox (mailbox.delivered dst envelopeId).1).Keeps mail ∨
      (mail.dst = dst ∧ mail.envelopeId = envelopeId) := by
  obtain ⟨other, found, kept, member, same⟩ := keeps
  cases present.symm.trans found
  rcases Mailbox.delivered_keeps dst envelopeId member with stays | removed
  · exact .inl ⟨_, rfl, kept, stays, same⟩
  · have selected : Mailbox.isFor dst envelopeId kept = true := List.find?_some removed
    simp only [Mailbox.isFor, Bool.and_eq_true, beq_iff_eq] at selected
    exact .inr ⟨same.dst.symm.trans selected.1, same.envelopeId.symm.trans selected.2⟩

/-- A confirmed deposit removes the first mail with its envelope id, unless a tracked
message has it. -/
theorem onStoreAccepted_keeps (host : Address) (envelopeId : UInt32) (keeps : node.Keeps mail) :
    (node.onStoreAccepted host envelopeId).Keeps mail ∨
      (node.transport.outstanding.any (Transport.inEnvelope envelopeId) = false ∧
        mail.envelopeId = envelopeId ∧
        ∃ mailbox entry, node.mailbox = some mailbox ∧
          mailbox.entries.find? (fun entry => entry.envelopeId == envelopeId) = some entry ∧
            mail.dst = entry.dst) := by
  cases tracked : node.transport.outstanding.any (Transport.inEnvelope envelopeId) with
  | true =>
    have marked : (node.transport.onStoreAccepted envelopeId).2 = true := tracked
    have confirmed : Moves False [.confirm, .report] node
        (node.onStoreAccepted host envelopeId) := by
      have moved : Moves False [.confirm, .report] node { node with
          transport := (node.transport.onStoreAccepted envelopeId).1 } :=
        .single (node.confirm_move (Transport.inEnvelope envelopeId) rfl) (by decide)
      simp only [onStoreAccepted, marked, if_true]
      split
      · exact moved.tail (emit_move _ _) (by decide)
      · exact moved
    exact .inl (Moves.keeps confirmed (by decide) keeps)
  | false =>
    have unmarked : (node.transport.onStoreAccepted envelopeId).2 = false := tracked
    simp only [onStoreAccepted, unmarked, Bool.false_eq_true, if_false]
    cases present : node.mailbox with
    | none => exact .inl keeps
    | some mailbox =>
      simp only
      cases found : mailbox.entries.find? (fun entry => entry.envelopeId == envelopeId) with
      | none => exact .inl keeps
      | some entry =>
        rcases node.discard_keeps entry.dst envelopeId present keeps with
          stays | ⟨sameDst, sameId⟩
        · exact .inl stays
        · exact .inr ⟨trivial, sameId, mailbox, entry, rfl, found, sameDst⟩

/-- An acknowledgement removes only mail for its sender. -/
theorem onMailboxAck_keeps {envelopeId : UInt32} (keeps : node.Keeps mail) :
    (node.onMailboxAck src envelopeId).Keeps mail ∨
      (mail.dst = src ∧ mail.envelopeId = envelopeId) := by
  unfold onMailboxAck
  cases present : node.mailbox with
  | none => exact .inl keeps
  | some mailbox =>
    rcases node.discard_keeps src envelopeId present keeps with stays | removed
    · simp only
      split
      · have reported : Moves False [.report] _ _ := emit_moves
          (node.withMailbox (mailbox.delivered src envelopeId).1)
          (.mailboxDelivered src envelopeId)
        exact .inl (Moves.keeps reported (by decide) stays)
      · exact .inl stays
    · exact .inr removed

/-- A control body that removes mail: the receiver acknowledges it, or another node confirms
a deposit that is not tracked. -/
def Clears (node : Node) (mail : StoredEnvelope) (src : Address) (sub : UInt8)
    (rest : Bytes) : Prop :=
  (sub = Control.mailboxAck ∧ mail.dst = src ∧ rest.length = 4 ∧
    UInt32.ofNat (BigEndian.decode rest) = mail.envelopeId) ∨
  (sub = Control.storeAccepted ∧ ∃ reason,
    decodeStoreResult rest = .ok (mail.envelopeId, reason) ∧
    node.transport.outstanding.any (Transport.inEnvelope mail.envelopeId) = false ∧
    ∃ mailbox entry, node.mailbox = some mailbox ∧
      mailbox.entries.find? (fun entry => entry.envelopeId == mail.envelopeId) = some entry ∧
        mail.dst = entry.dst)

theorem onControl_keeps (sub : UInt8) (rest : Bytes) (now : Nat) (keeps : node.Keeps mail) :
    (node.onControl src sub rest now).Keeps mail ∨ node.Clears mail src sub rest := by
  unfold onControl
  split
  · rename_i accepted
    split
    · rename_i envelopeId reason decoded
      rcases node.onStoreAccepted_keeps src envelopeId keeps with stays | ⟨untracked, sameId, rest⟩
      · exact .inl stays
      · subst sameId
        exact .inr (.inr ⟨accepted, reason, decoded, untracked, rest⟩)
    · exact .inl keeps
  · split
    · split
      · rename_i envelopeId _ _
        have settled : Moves False [.settle] node _ := node.onStoreRejected_moves envelopeId
        exact .inl (Moves.keeps settled (by decide) keeps)
      · exact .inl keeps
    · split
      · have dropped : Moves False [.close, .report] node _ := node.dropSession_moves src
        exact .inl (Moves.keeps dropped (by decide) keeps)
      · split
        · have sent : Moves False Effects.sending node _ :=
            node.sendControl_moves src Control.pong rest now
          exact .inl (Moves.keeps sent (by decide) keeps)
        · split
          · exact .inl keeps
          · split
            · rename_i acked
              split
              · rename_i sized
                rcases node.onMailboxAck_keeps src keeps with stays | ⟨sameDst, sameId⟩
                · exact .inl stays
                · exact .inr (.inl ⟨acked, sameDst, sized, sameId.symm⟩)
              · exact .inl keeps
            · exact .inl keeps

/-- Handling a control packet in a state with the core of the node before the frame. -/
theorem handleControl_keeps {ready : Node} (packet : Packet) (now : Nat)
    (sameCore : ready.core = node.core) (keeps : node.Keeps mail) :
    (ready.handleControl packet now).Keeps mail ∨
      ∃ sub rest, (ready.openSessionPayload packet now).2 = some (sub :: rest) ∧
        node.Clears mail packet.header.src sub rest := by
  have readyKeeps : ready.Keeps mail := by
    unfold Keeps
    rw [sameCore]
    exact keeps
  have opened : Moves False Effects.opening ready _ := ready.openSessionPayload_moves packet now
  have openedKeeps := Moves.keeps opened (by decide) readyKeeps
  have sameMailbox : (ready.openSessionPayload packet now).1.mailbox = node.mailbox :=
    (opened.same CoreStep.mailbox_same (by decide)).trans (congrArg Core.mailbox sameCore)
  have sameOutstanding : (ready.openSessionPayload packet now).1.transport.outstanding =
      node.transport.outstanding :=
    (opened.same CoreStep.outstanding_same (by decide)).trans (congrArg Core.outstanding sameCore)
  unfold handleControl
  generalize ready.openSessionPayload packet now = result at openedKeeps sameMailbox sameOutstanding
  obtain ⟨state, body⟩ := result
  cases body with
  | none => exact .inl openedKeeps
  | some content =>
    cases content with
    | nil => exact .inl openedKeeps
    | cons sub rest =>
      rcases state.onControl_keeps packet.header.src sub rest now openedKeeps with
        stays | acked | accepted
      · exact .inl stays
      · exact .inr ⟨sub, rest, rfl, .inl acked⟩
      · rw [sameMailbox, sameOutstanding] at accepted
        exact .inr ⟨sub, rest, rfl, .inr accepted⟩

/-- A received frame keeps mail, or carries a control body that may remove it. -/
theorem receive_keeps {frame : Bytes} {rxMeta : RxMeta}
    (attributed : node.Attributed (.receive frame rxMeta)) (keeps : node.Keeps mail) :
    (node.onRadioRx frame rxMeta).Keeps mail ∨ node.Removal mail (.receive frame rxMeta) := by
  rcases node.onRadioRx_handling frame rxMeta with ⟨_, quiet⟩ |
    ⟨packet, incoming, foreign, handling⟩
  · exact .inl (Moves.keeps quiet (by decide) keeps)
  · rcases handling.uncontrolled_or_control foreign with moves |
      ⟨ready, quiet, arrived, mine, kind, untraced, handled⟩
    · have notedKeeps : (node.noted frame rxMeta packet).Keeps mail := keeps
      exact .inl (Moves.keeps moves (by decide) notedKeeps)
    · rw [handled]
      rcases handleControl_keeps node packet (node.clock rxMeta) quiet.core keeps with
        stays | ⟨sub, rest, opened, removing⟩
      · exact .inl stays
      · have received := controlBody_eq incoming mine kind untraced arrived opened
        rcases removing with ⟨acked, sameDst, sized, names⟩ |
          ⟨accepted, reason, names, untracked, mailbox, entry, present, found, sameDst⟩
        · rw [acked, ← sameDst] at received
          exact .inr (.acknowledged frame rxMeta rest received sized names)
        · rw [accepted] at received
          have forwarded := attributed packet.header.src rest mail.envelopeId reason mailbox entry
            received names untracked present found
          rw [← sameDst] at forwarded
          exact .inr (.handedOver frame rxMeta packet.header.src rest reason received names
            forwarded)

/-- A step keeps mail or removes it in one of the permitted ways. -/
theorem step_keeps (operation : Operation) (attributed : node.Attributed operation)
    (keeps : node.Keeps mail) :
    (node.step operation).Keeps mail ∨ node.Removal mail operation := by
  cases called : operation.isCall with
  | true => exact .inl (Moves.keeps (node.call_moves called) (by decide) keeps)
  | false =>
    cases operation with
    | receive frame rxMeta => exact node.receive_keeps attributed keeps
    | poll time => exact node.poll_keeps time keeps
    | _ => cases called

/-- No two entries of the mailbox share destination and envelope id. -/
def Filed (node : Node) : Prop := node.core.Filed

/-- A step keeps the mail filed under distinct keys. -/
theorem step_filed (operation : Operation) (filed : node.Filed) : (node.step operation).Filed := by
  obtain ⟨receiver, core, _, _, _, moves⟩ := node.step_moves operation
  refine moves.invariant Filed ?_ (fun _ _ _ _ move kept => move.core.filed kept)
  unfold Filed
  rw [core]
  exact filed

theorem run_filed {config : NodeConfig} {id : Identity} {rng : Rng} {start : Nat} {node : Node}
    (run : Run Unrestricted (new config id rng start) node) : node.Filed := by
  refine run.invariant Filed ?_ (fun before operation _ filed => before.step_filed operation filed)
  intro mailbox present
  have vacant : mailbox.entries = [] := by
    simp only [new] at present
    split at present
    · cases present
      rfl
    · cases present
      rfl
    · cases present
  unfold Mailbox.Distinct
  rw [vacant]
  exact nodup_nil

/-- A confirmed deposit of no tracked message deletes the first mail with its id. -/
theorem accepted_removes (frame : Bytes) (rxMeta : RxMeta) (host : Address)
    (rest : Bytes) (reason : Option UInt8) (mailbox : Mailbox) (entry : StoredEnvelope)
    (filed : node.Filed)
    (received : node.controlBody frame rxMeta = some (host, Control.storeAccepted :: rest))
    (names : decodeStoreResult rest = .ok (entry.envelopeId, reason))
    (untracked : node.transport.outstanding.any (Transport.inEnvelope entry.envelopeId) = false)
    (present : node.mailbox = some mailbox)
    (found : mailbox.entries.find? (fun other => other.envelopeId == entry.envelopeId) =
      some entry) : ¬(node.onRadioRx frame rxMeta).Keeps entry := by
  obtain ⟨ready, packet, quiet, _, opened, handled⟩ := controlBody_handled received
  have moves : Moves False Effects.opening ready _ :=
    ready.openSessionPayload_moves packet (node.clock rxMeta)
  have sameMailbox := (moves.same CoreStep.mailbox_same (by decide)).trans
    (congrArg Core.mailbox quiet.core)
  have sameOutstanding := (moves.same CoreStep.outstanding_same (by decide)).trans
    (congrArg Core.outstanding quiet.core)
  rw [handled, handleControl]
  generalize ready.openSessionPayload packet _ = result at opened sameMailbox sameOutstanding
  obtain ⟨state, body⟩ := result
  cases opened
  have unmarked : (state.transport.onStoreAccepted entry.envelopeId).2 = false := by
    exact (congrArg (List.any · _) sameOutstanding).trans untracked
  have held : state.mailbox = some mailbox := sameMailbox.trans present
  simp only [onControl, if_true, names, onStoreAccepted, unmarked, Bool.false_eq_true, if_false,
    held, found]
  rintro ⟨later, same, kept, member, sameMail⟩
  cases same
  exact Mailbox.delivered_removes (filed mailbox present) kept member
    (Prod.ext sameMail.dst sameMail.envelopeId)

/-- A confirmed deposit removes mail rightly only if its host was sent that mail. -/
theorem Removal.forwarded {node : Node} {frame : Bytes} {rxMeta : RxMeta} {host : Address}
    {rest : Bytes} (removal : node.Removal mail (.receive frame rxMeta))
    (received : node.controlBody frame rxMeta = some (host, Control.storeAccepted :: rest)) :
    Deposit.mk host mail.dst mail.envelopeId ∈ node.history.deposits := by
  cases removal with
  | acknowledged _ _ _ other _ _ => cases received.symm.trans other
  | handedOver _ _ _ _ _ other _ forwarded =>
    cases received.symm.trans other
    exact forwarded

/-- In every reachable state and for every operation, mail leaves the mailbox only when it is
collected, acknowledged by its destination or confirmed by a host it was sent to, exactly
when a confirmed deposit that concerns the mailbox comes from such a host. -/
theorem mail_removed_by_owner_iff (config : NodeConfig) (id : Identity) (rng : Rng) (start : Nat)
    (node : Node) (run : Run Unrestricted (new config id rng start) node)
    (operation : Operation) :
    (∀ mailbox mail, node.mailbox = some mailbox → mail ∈ mailbox.entries →
      (node.step operation).Keeps mail ∨ node.Removal mail operation) ↔
        node.Attributed operation := by
  constructor
  · intro owned
    cases operation with
    | receive frame rxMeta =>
      intro host rest envelopeId reason mailbox entry received names untracked present found
      have sameId : entry.envelopeId = envelopeId := by simpa using List.find?_some found
      subst sameId
      rcases owned mailbox entry present (mem_of_find?_eq_some found) with keeps | removal
      · exact absurd keeps (node.accepted_removes frame rxMeta host rest reason mailbox entry
          (run_filed run) received names untracked present found)
      · exact removal.forwarded received
    | _ => trivial
  · intro attributed mailbox mail present member
    exact node.step_keeps operation attributed ⟨mailbox, present, mail, member, .refl mail⟩

end Node

end MeshStar

namespace MeshStar

local instance mailboxSuite : Primitives := Transparent.primitives

open Transparent

namespace MailboxLaw

/-- A host that knows nobody. -/
def host : Node := Node.new NodeConfig.default (identity 1) generator 0

/-- A partner and the host after they established a session. -/
def encounter : Partner × Node := Partner.meet (identity 2) host 10

/-- A deposit for a third node whose envelope repeats one byte. -/
def request (byte : UInt8) : StoreRequest :=
  ⟨(identity 3).address, 5, 600, List.replicate 130 byte⟩

/-- A deposit as the partner sends it. -/
def deposit (counter : Nat) (byte : UInt8) : Packet :=
  encounter.1.sealedPacket .store counter (request byte).encode

/-- The host after a deposit. -/
def deposited : Node :=
  encounter.2.step (.receive (frame (deposit 0 7)) (heardAt 20))

/-- What the host keeps of the deposit. -/
def stored : StoredEnvelope :=
  ⟨(identity 3).address, 5, (identity 2).address, 20, 600020, 0, 0,
    List.replicate 130 7⟩

/-- The mailbox after the deposit. -/
def filled : Mailbox := ⟨Node.smallMailbox MailboxConfig.default, [stored], 130⟩

theorem deposited_run : Node.Run Node.Unrestricted host deposited :=
  .step _ Partner.meet_run trivial

theorem deposited_filled : deposited.mailbox = some filled := by
  decide +kernel

/-- The owner of the mail and the host after they met. -/
def visited : Partner × Node := Partner.meet (identity 3) deposited 30

/-- The owner acknowledges the mail. -/
def receipt : Node.Operation :=
  .receive (visited.1.sealedFrame .control 0 (Control.mailboxAck :: BigEndian.encode 4 5))
    (heardAt 40)

theorem visited_run : Node.Run Node.Unrestricted host visited.2 :=
  Partner.meet_later deposited_run

/-- The depositor claims to have accepted the envelope itself. -/
def confirmation : Bytes :=
  encounter.1.sealedFrame .control 1 (Control.storeAccepted :: encodeStoreResult 5 none)

end MailboxLaw

open MailboxLaw

/-- A session peer to which the host never forwarded anything deletes mail for a third
node by confirming its envelope id. -/
theorem mail_deleted_by_stranger :
    Node.Run Node.Unrestricted host deposited ∧ deposited.mailbox = some filled ∧
      stored ∈ filled.entries ∧
      ¬(deposited.step (.receive confirmation (heardAt 30))).Keeps stored ∧
      ¬deposited.Removal stored (.receive confirmation (heardAt 30)) := by
  refine ⟨deposited_run, deposited_filled, List.mem_cons_self, ?_, ?_⟩
  · have vacant : (deposited.step (.receive confirmation (heardAt 30))).mailbox =
        some ⟨Node.smallMailbox MailboxConfig.default, [], 0⟩ := by decide +kernel
    rw [Node.keeps_iff, vacant]
    rintro ⟨mailbox, present, kept, member, _⟩
    cases present
    cases member
  · have received : deposited.controlBody confirmation (heardAt 30) = some
        ((identity 2).address, Control.storeAccepted :: encodeStoreResult 5 none) := by
      decide +kernel
    have undeposited : deposited.history.deposits = [] := by decide +kernel
    intro removal
    have forwarded := removal.forwarded received
    rw [undeposited] at forwarded
    cases forwarded

/-- The owner of the mail meets the host and acknowledges it: the mail goes, as it may. -/
theorem mail_removed_by_owner_iff_ack : ¬(visited.2.step receipt).Keeps stored ∧
    visited.2.Removal stored receipt := by
  have body : visited.2.controlBody (visited.1.sealedFrame .control 0
      (Control.mailboxAck :: BigEndian.encode 4 5)) (heardAt 40) =
      some ((identity 3).address, Control.mailboxAck :: BigEndian.encode 4 5) := by
    decide +kernel
  have attributed : visited.2.Attributed receipt := by
    intro _ _ _ _ _ _ received
    have same := (Prod.mk.inj (Option.some.inj (body.symm.trans received))).2
    exact absurd (List.cons.inj same).1 (by decide)
  have vacant : (visited.2.step receipt).mailbox =
      some ⟨Node.smallMailbox MailboxConfig.default, [], 0⟩ := by decide +kernel
  have removed : ¬(visited.2.step receipt).Keeps stored := by
    rw [Node.keeps_iff, vacant]
    rintro ⟨mailbox, present, kept, member, _⟩
    cases present
    cases member
  have held : visited.2.mailbox = some filled := by decide +kernel
  exact ⟨removed, ((Node.mail_removed_by_owner_iff NodeConfig.default (identity 1) generator 0
    visited.2 visited_run receipt).mpr attributed filled stored held
      List.mem_cons_self).resolve_left removed⟩

/-- A second deposit under the same envelope id is answered as accepted, and the mailbox
still has the first content only. -/
theorem duplicate_deposit_not_held :
    (deposited.openSessionPayload (deposit 1 8) 30).2 = some (request 8).encode ∧
      StoreRequest.decode (request 8).encode = .ok (request 8) ∧
      ((deposited.openSessionPayload (deposit 1 8) 30).1.depositAnswer (deposit 1 8).header.src
        (request 8) 30).1 = Control.storeAccepted ∧
      ¬(deposited.handleStore (deposit 1 8) 30).Holds (request 8) := by
  refine ⟨by decide +kernel, by decide +kernel, by decide +kernel, ?_⟩
  have unchanged : (deposited.handleStore (deposit 1 8) 30).mailbox = some filled := by
    decide +kernel
  rintro ⟨mailbox, present, entry, member, _, _, content⟩
  cases unchanged.symm.trans present
  rw [List.mem_singleton.mp member] at content
  exact absurd content (by decide +kernel)

/-- The first deposit is answered as accepted and kept. -/
theorem accepted_deposit_held_iff_first :
    (encounter.2.handleStore (deposit 0 7) 20).Holds (request 7) := by
  have opened : (encounter.2.openSessionPayload (deposit 0 7) 20).2 = some (request 7).encode := by
    decide +kernel
  have decoded : StoreRequest.decode (request 7).encode = .ok (request 7) := by decide +kernel
  have vacant : encounter.2.mailbox = some ⟨Node.smallMailbox MailboxConfig.default, [], 0⟩ := by
    decide +kernel
  refine (Node.accepted_deposit_held_iff encounter.2 (deposit 0 7) 20 _ (request 7) opened
    decoded).mpr ?_ (by decide +kernel)
  rintro ⟨mailbox, present, taken⟩
  cases vacant.symm.trans present
  cases taken

end MeshStar
