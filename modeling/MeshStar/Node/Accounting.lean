import MeshStar.Node.Handling
import MeshStar.Node.Partner

/-!
# What becomes of a tracked message

A tracked message that no host keeps must not vanish: the step in which it leaves the
table reports it to the application or puts it into a queue again. Reports are never
taken back and a queued send stays queued until its handshake ends, so it is enough to
look at the few places where messages leave the table. Three of them can lose a message:
an envelope acknowledgement sealed by somebody else, a reset session with envelopes in
flight, and a retry that finds its session gone while other messages wait for the same
peer.
-/

namespace MeshStar

open List OrderedMap

variable [Primitives]

namespace Outstanding

omit [Primitives] in
theorem SameMessage.refl (message : Outstanding) : message.SameMessage message :=
  ⟨rfl, rfl, rfl, rfl, rfl, rfl⟩

omit [Primitives] in
theorem SameMessage.trans {first second third : Outstanding} (left : first.SameMessage second)
    (right : second.SameMessage third) : first.SameMessage third :=
  ⟨left.dst.trans right.dst, left.seq.trans right.seq, left.handle.trans right.handle,
    left.reliability.trans right.reliability, left.body.trans right.body,
    left.envelopeId.trans right.envelopeId⟩

/-- A copy of a message, with other timers. A strict copy is not kept by a host. -/
def IsCopy (strict : Bool) (message copy : Outstanding) : Prop :=
  copy.SameMessage message ∧ (strict = true → copy.stored = false)

omit [Primitives] in
theorem SameMessage.isCopy {message copy : Outstanding} (same : copy.SameMessage message) :
    message.IsCopy false copy := ⟨same, fun strictly => nomatch strictly⟩

end Outstanding

namespace Transport

section

omit [Primitives]

theorem markStored_same (message : Outstanding) : (markStored message).SameMessage message :=
  ⟨rfl, rfl, rfl, rfl, rfl, rfl⟩

/-- Marking a message keeps every message up to the mark. -/
theorem updateFirst_keeps (test : Outstanding → Bool) {messages : List Outstanding}
    {message : Outstanding} (member : message ∈ messages) :
    ∃ copy ∈ updateFirst test messages, copy.SameMessage message := by
  induction messages with
  | nil => cases member
  | cons head rest ih =>
    unfold updateFirst
    split
    · rcases mem_cons.mp member with here | later
      · exact ⟨markStored head, mem_cons_self, here ▸ markStored_same head⟩
      · exact ⟨message, mem_cons_of_mem _ later, .refl message⟩
    · rcases mem_cons.mp member with here | later
      · exact ⟨head, mem_cons_self, here ▸ .refl head⟩
      · obtain ⟨copy, kept, same⟩ := ih later
        exact ⟨copy, mem_cons_of_mem _ kept, same⟩

/-- The retry timers keep a message that no host keeps, or give it up. -/
theorem tickList_outcome (cfg : TransportConfig) (now : Nat) {messages : List Outstanding}
    {message : Outstanding} (member : message ∈ messages) (unstored : message.stored = false)
    (rng : Rng) :
    message ∈ (tickList cfg now messages rng).failed ∨
      ∃ copy ∈ (tickList cfg now messages rng).kept, message.IsCopy true copy := by
  induction messages generalizing rng with
  | nil => cases member
  | cons head rest ih =>
    have later (present : message ∈ rest) (following : Rng) := ih present following
    simp only [tickList]
    rcases mem_cons.mp member with rfl | present
    · simp only [unstored, Bool.false_eq_true, if_false]
      split
      · split
        · exact .inl mem_cons_self
        · exact .inr ⟨_, mem_cons_self, ⟨rfl, rfl, rfl, rfl, rfl, rfl⟩, fun _ => rfl⟩
      · exact .inr ⟨message, mem_cons_self, .refl message, fun _ => unstored⟩
    · split
      · split
        · exact (later present _).imp (mem_cons_of_mem _) id
        · exact (later present _).imp id (fun ⟨copy, kept, same⟩ =>
            ⟨copy, mem_cons_of_mem _ kept, same⟩)
      · split
        · split
          · exact (later present _).imp (mem_cons_of_mem _) id
          · exact (later present _).imp id (fun ⟨copy, kept, same⟩ =>
              ⟨copy, mem_cons_of_mem _ kept, same⟩)
        · exact (later present _).imp id (fun ⟨copy, kept, same⟩ =>
            ⟨copy, mem_cons_of_mem _ kept, same⟩)

end

end Transport

namespace Effect

/-- The effects that may take a message from the table, or a report from the queue. -/
def losesMessages : Effect → Bool
  | .lose | .consume => true
  | _ => false

/-- The effects that mark messages as kept by a host. -/
def marksMessages : Effect → Bool
  | .shelter | .confirm => true
  | _ => false

/-- The effects that may take a send from behind a handshake, or a report from the queue. -/
def losesSends : Effect → Bool
  | .install | .abandon | .consume => true
  | _ => false

end Effect

namespace Core

section

omit [Primitives]

theorem pushEvent_extends {events : List NodeEvent} {event : NodeEvent} :
    events <+: pushEvent events event := by
  unfold pushEvent
  split
  · exact prefix_append _ _
  · exact prefix_refl _

theorem pushEvents_extends {added events : List NodeEvent} :
    events <+: added.foldl pushEvent events := ⟨_, (pushEvents_take added events).symm⟩

/-- A queue that is not full after several events has them all. -/
theorem pushEvents_eq {added events : List NodeEvent}
    (room : (added.foldl pushEvent events).length < 256) :
    added.foldl pushEvent events = events ++ added := by
  rw [pushEvents_take, length_append, length_take] at room
  rw [pushEvents_take, take_of_length_le (by omega)]

end

/-- Since the events of a moment, a report concluded a message. -/
def Reports (start : List NodeEvent) (handle : UInt32) (core : Core) : Prop :=
  ∃ fresh, core.events = start ++ fresh ∧ ∃ event ∈ fresh, event.concludes handle = true

/-- A send with a message's handle and payload waits behind a handshake. -/
def Queues (message : Outstanding) (core : Core) : Prop :=
  ∃ peer, ∃ send ∈ core.queueOf peer, send.handle = message.handle ∧ send.payload = message.body

/-- A message is in the table, or was reported since a moment. -/
structure Answers (start : List NodeEvent) (strict : Bool) (message : Outstanding)
    (core : Core) : Prop where
  since : start <+: core.events
  answered : core.events.length < 256 →
    (∃ copy ∈ core.outstanding, message.IsCopy strict copy) ∨ core.Reports start message.handle

/-- A message is queued again, or was reported since a moment. -/
structure Settles (start : List NodeEvent) (message : Outstanding) (core : Core) : Prop where
  since : start <+: core.events
  settled : core.events.length < 256 → core.Queues message ∨ core.Reports start message.handle

end Core

variable {strict : Bool}

namespace CoreStep

variable {effect : Effect} {before after : Core} {start : List NodeEvent} {message : Outstanding}

variable (step : CoreStep effect before after)

include step

/-- Only the application takes events from the queue. -/
theorem events_prefix (spared : effect ≠ .consume) : before.events <+: after.events := by
  cases step with
  | report _ event => exact Core.pushEvent_extends
  | settle _ kept events fewer concluded => exact Core.pushEvents_extends
  | dismiss _ peer pending present => exact Core.pushEvents_extends
  | consume => exact absurd rfl spared
  | _ => exact prefix_refl _

theorem reports (spared : effect ≠ .consume)
    (reported : before.Reports start message.handle) : after.Reports start message.handle := by
  obtain ⟨fresh, events, event, member, concludes⟩ := reported
  obtain ⟨more, grown⟩ := step.events_prefix spared
  refine ⟨fresh ++ more, ?_, event, mem_append_left _ member, concludes⟩
  rw [← grown, events, append_assoc]

/-- Only reports and losses take a message from the table. -/
theorem copy_kept (unsettled : effect ≠ .settle) (unlost : effect ≠ .lose)
    (unmarked : strict = true → effect.marksMessages = false)
    (holds : ∃ copy ∈ before.outstanding, message.IsCopy strict copy) :
    ∃ copy ∈ after.outstanding, message.IsCopy strict copy := by
  obtain ⟨copy, member, same, unstored⟩ := holds
  have updated (test : Outstanding → Bool) (marks : effect.marksMessages = true) :
      ∃ other ∈ Transport.updateFirst test before.outstanding, message.IsCopy strict other := by
    obtain ⟨other, kept, copied⟩ := Transport.updateFirst_keeps test member
    refine ⟨other, kept, copied.trans same, ?_⟩
    exact fun strictly => absurd ((unmarked strictly).symm.trans marks) Bool.false_ne_true
  cases step with
  | track _ other => exact ⟨copy, mem_append_left _ member, same, unstored⟩
  | shelter _ mailbox stored now depositor request present accepted => exact updated _ rfl
  | confirm _ test => exact updated _ rfl
  | retime _ change sameAs sameStored =>
    refine ⟨change copy, mem_map_of_mem member, (sameAs copy).trans same, ?_⟩
    exact fun strictly => (sameStored copy).trans (unstored strictly)
  | settle _ kept events fewer concluded => exact absurd rfl unsettled
  | lose _ kept => exact absurd rfl unlost
  | _ => exact ⟨copy, member, same, unstored⟩

/-- A message in the table stays there or is reported, unless it is lost. -/
theorem answers (spared : effect.losesMessages = false)
    (unmarked : strict = true → effect.marksMessages = false)
    (holds : before.Answers start strict message) : after.Answers start strict message := by
  have untaken : effect ≠ .consume := by
    rintro rfl
    cases spared
  have unlost : effect ≠ .lose := by
    rintro rfl
    cases spared
  have grown := step.events_prefix untaken
  refine ⟨holds.since.trans grown, ?_⟩
  intro room
  rcases holds.answered (Nat.lt_of_le_of_lt grown.length_le room) with tracked | reported
  · by_cases settles : effect = .settle
    · subst settles
      obtain ⟨copy, member, same, unstored⟩ := tracked
      cases step with
      | settle _ kept events fewer concluded =>
        rcases concluded copy member with still | ⟨event, fired, concludes⟩
        · exact .inl ⟨copy, still, same, unstored⟩
        · obtain ⟨fresh, earlier⟩ := holds.since
          refine .inr ⟨fresh ++ events, ?_, event, mem_append_right _ fired,
            same.handle ▸ concludes⟩
          rw [← append_assoc, earlier]
          exact Core.pushEvents_eq room
    · exact .inl (step.copy_kept settles unlost unmarked tracked)
  · exact .inr (step.reports untaken reported)

/-- A send behind a handshake stays there or is reported, unless the handshake ends. -/
theorem settles (spared : effect.losesSends = false)
    (holds : before.Settles start message) : after.Settles start message := by
  have untaken : effect ≠ .consume := by
    rintro rfl
    cases spared
  have grown := step.events_prefix untaken
  refine ⟨holds.since.trans grown, ?_⟩
  intro room
  rcases holds.settled (Nat.lt_of_le_of_lt grown.length_le room) with
    ⟨peer, send, member, named, content⟩ | reported
  · have queued {core : Core} (kept : send ∈ core.queueOf peer) : core.Queues message :=
      ⟨peer, send, kept, named, content⟩
    unfold Core.queueOf at member
    cases found : before.handshakes.get peer with
    | none =>
      rw [found] at member
      cases member
    | some pending =>
      rw [found] at member
      replace member : send ∈ pending.queued := member
      have placed {handshakes : OrderedMap Address PendingHandshake} {other : PendingHandshake}
          (at_ : handshakes.get peer = some other) (kept : send ∈ other.queued) :
          send ∈ Core.queueOf { before with handshakes := handshakes } peer := by
        simp only [Core.queueOf, at_]
        exact kept
      cases step with
      | install _ other remote epoch keys now bound foreign => cases spared
      | abandon _ other => cases spared
      | consume => cases spared
      | rekey _ other handshakes started =>
        refine .inl (queued ?_)
        rcases started with ⟨same, _⟩ | ⟨fresh, _, absent, same⟩
        · rw [same]
          exact placed found member
        · rw [same]
          refine placed ?_ member
          rw [get_insert_of_ne _ _ (by rintro rfl; cases found.symm.trans absent)]
          exact found
      | contact _ other fresh absent emptyQueue =>
        refine .inl (queued (placed ?_ member))
        rw [get_insert_of_ne _ _ (by rintro rfl; cases found.symm.trans absent)]
        exact found
      | answer _ other fresh sameQueue =>
        refine .inl (queued ?_)
        by_cases here : peer = other
        · subst here
          refine placed (get_insert_self _ _ _) ?_
          rw [sameQueue]
          exact placed found member
        · exact placed ((get_insert_of_ne _ _ here).trans found) member
      | adjust _ change sameQueue =>
        have changed : (before.handshakes.mapValues change).get peer =
            some (change peer pending) := by
          rw [get_mapValues, found]
          rfl
        refine .inl (queued (placed changed ?_))
        rw [sameQueue]
        exact member
      | enlist _ other added =>
        refine .inl (queued ?_)
        by_cases here : peer = other
        · subst here
          have extended : (before.handshakes.modify peer (fun waiting =>
              { waiting with queued := waiting.queued ++ [added] })).get peer =
              some { pending with queued := pending.queued ++ [added] } := by
            rw [get_modify_self, found]
            rfl
          exact placed extended (mem_append_left _ member)
        · exact placed ((get_modify_of_ne _ _ here).trans found) member
      | dismiss _ other ended present =>
        by_cases here : peer = other
        · subst here
          cases found.symm.trans present
          obtain ⟨fresh, earlier⟩ := holds.since
          refine .inr ⟨fresh ++ pending.reports, ?_, _, mem_append_right _
            (mem_map_of_mem member), ?_⟩
          · rw [← append_assoc, earlier]
            exact Core.pushEvents_eq room
          · rw [← named]
            exact beq_self_eq_true send.handle
        · refine .inl (queued ?_)
          exact placed ((get_remove_of_ne _ here).trans found) member
      | _ => exact .inl (queued (placed found member))
  · exact .inr (step.reports untaken reported)

/-- Only an ended or a fresh session changes with whom there is one. -/
theorem contains_same (unclosed : effect ≠ .close)
    (uninstalled : effect ≠ .install) (peer : Address) :
    after.sessions.contains peer = before.sessions.contains peer := by
  cases step with
  | advance _ other session advanced present _ _ =>
    by_cases here : peer = other
    · subst here
      simp only [OrderedMap.contains, get_insert_self, present, Option.isSome_some]
    · simp only [OrderedMap.contains, get_insert_of_ne _ _ here]
  | rekey _ other handshakes started =>
    by_cases here : peer = other
    · subst here
      simp only [OrderedMap.contains, get_modify_self, Option.isSome_map]
    · simp only [OrderedMap.contains, get_modify_of_ne _ _ here]
  | close _ other => exact absurd rfl unclosed
  | install _ other remote epoch keys now bound foreign => exact absurd rfl uninstalled
  | _ => rfl

end CoreStep

namespace Node

variable {effects : List Effect} {start before after : Node} {message : Outstanding}

/-- A message is in the table, or was reported since a state. -/
def Answers (start : Node) (strict : Bool) (message : Outstanding) (node : Node) : Prop :=
  node.core.Answers start.events strict message

/-- A message is queued again, or was reported since a state. -/
def Settles (start : Node) (message : Outstanding) (node : Node) : Prop :=
  node.core.Settles start.events message

namespace Moves

variable (moves : Moves False effects before after)

include moves

theorem answers (spared : ∀ effect ∈ effects, effect.losesMessages = false)
    (holds : start.Answers false message before) : start.Answers false message after :=
  moves.invariant (start.Answers false message) holds (fun effect member _ _ move =>
    move.core.answers (spared effect member) (fun strictly => nomatch strictly))

theorem answers_unstored
    (spared : ∀ effect ∈ effects, effect.losesMessages = false ∧ effect.marksMessages = false)
    (holds : start.Answers true message before) : start.Answers true message after :=
  moves.invariant (start.Answers true message) holds (fun effect member _ _ move =>
    move.core.answers (spared effect member).1 (fun _ => (spared effect member).2))

theorem settles (spared : ∀ effect ∈ effects, effect.losesSends = false)
    (holds : start.Settles message before) : start.Settles message after :=
  moves.invariant (start.Settles message) holds (fun effect member _ _ move =>
    move.core.settles (spared effect member))

theorem copy_kept (spared : ∀ effect ∈ effects, effect ≠ .settle ∧ effect ≠ .lose)
    (holds : ∃ copy ∈ before.transport.outstanding, message.IsCopy false copy) :
    ∃ copy ∈ after.transport.outstanding, message.IsCopy false copy :=
  moves.invariant (fun node => ∃ copy ∈ node.transport.outstanding, message.IsCopy false copy) holds
    (fun effect member _ _ move kept => move.core.copy_kept (spared effect member).1
      (spared effect member).2 (by intro strictly; cases strictly) kept)

theorem events_prefix (spared : ∀ effect ∈ effects, effect ≠ .consume) :
    before.events <+: after.events :=
  moves.invariant (fun node => before.events <+: node.events) (prefix_refl _)
    (fun effect member _ _ move earlier =>
      earlier.trans (move.core.events_prefix (spared effect member)))

theorem contains_same (unclosed : ∀ effect ∈ effects, effect ≠ .close)
    (uninstalled : ∀ effect ∈ effects, effect ≠ .install) (peer : Address) :
    after.sessions.contains peer = before.sessions.contains peer :=
  moves.unchanged (fun node => node.core.sessions.contains peer) (fun effect member _ _ move =>
      move.core.contains_same (unclosed effect member) (uninstalled effect member) peer)

end Moves

variable {node : Node} {retries : List Outstanding}

/-- A message that is in the table now is answered from now on. -/
theorem Answers.initially {copy : Outstanding}
    (member : copy ∈ node.transport.outstanding) (copied : message.IsCopy strict copy) :
    node.Answers strict message node := ⟨prefix_refl _, fun _ => .inl ⟨copy, member, copied⟩⟩

/-- A report concludes a message. -/
theorem emit_settles {event : NodeEvent} (since : start.events <+: node.events)
    (concludes : event.concludes message.handle = true) :
    start.Settles message (node.emit event) := by
  have reported : (node.emit event).core.events = [event].foldl Core.pushEvent node.events := by
    unfold emit
    split
    · rename_i room
      simp only [foldl_cons, foldl_nil, Core.pushEvent, if_pos room]
      rfl
    · rename_i full
      simp only [foldl_cons, foldl_nil, Core.pushEvent, if_neg full]
      rfl
  have grown : node.events <+: (node.emit event).core.events := by
    rw [reported]
    exact Core.pushEvents_extends
  refine ⟨since.trans grown, ?_⟩
  intro room
  obtain ⟨fresh, earlier⟩ := since
  refine .inr ⟨fresh ++ [event], ?_, event, mem_append_right _ mem_cons_self, concludes⟩
  rw [reported] at room ⊢
  rw [Core.pushEvents_eq room, ← append_assoc, earlier]

/-- A send behind a handshake settles its message. -/
theorem pushQueued_settles {send : QueuedSend}
    (since : start.events <+: node.events) (present : node.handshakes.contains send.dst = true)
    (named : send.handle = message.handle) (content : send.payload = message.body) :
    start.Settles message (node.pushQueued send.dst send) := by
  refine ⟨since, fun _ => .inl ⟨send.dst, send, ?_, named, content⟩⟩
  obtain ⟨pending, found⟩ := (contains_eq_true_iff _ _).mp present
  have extended : (node.pushQueued send.dst send).core.handshakes.get send.dst =
      some { pending with queued := pending.queued ++ [send] } := by
    change (node.handshakes.modify send.dst _).get send.dst = _
    rw [get_modify_self, found]
    rfl
  simp only [Core.queueOf, extended]
  exact mem_append_right _ mem_cons_self

/-- Without a session, a send is queued behind a handshake or reported. -/
theorem sendOrQueue_settles {send : QueuedSend} (now : Nat)
    (since : start.events <+: node.events) (absent : node.sessions.contains send.dst = false)
    (named : send.handle = message.handle) (content : send.payload = message.body) :
    start.Settles message (node.sendOrQueue send now) := by
  have concludes (reason : FailReason) :
      (NodeEvent.failed send.handle send.dst reason).concludes message.handle = true :=
    named ▸ beq_self_eq_true send.handle
  simp only [sendOrQueue, absent, Bool.false_eq_true, if_false]
  split
  · rename_i pending found
    split
    · exact pushQueued_settles since ((contains_eq_true_iff _ _).mpr ⟨pending, found⟩) named content
    · exact emit_settles since (concludes _)
  · have started : Moves False _ node _ := node.startHandshake_moves send.dst now
    have later := since.trans (Moves.events_prefix started (by decide))
    split
    · rename_i present
      exact pushQueued_settles later present named content
    · exact emit_settles later (concludes _)

/-- A loop that settles a message at one of its items has settled it at the end. -/
theorem Settles.ofLoop {α : Type} {body : Node → α → Node} {items : List α} {item : α}
    (member : item ∈ items) (first : Node)
    (each : ∀ state other, Moves False effects state (body state other))
    (spared : ∀ effect ∈ effects, effect.losesSends = false)
    (settles : ∀ state, Moves False effects first state → start.Settles message (body state item)) :
    start.Settles message (items.foldl body first) := by
  obtain ⟨front, back, rfl⟩ := append_of_mem member
  rw [foldl_append, foldl_cons]
  have reached : Moves False effects first (front.foldl body first) :=
    Trail.foldl front first (fun state other _ => each state other)
  have rest : Moves False effects (body (front.foldl body first) item) _ :=
    Trail.foldl back _ (fun state other _ => each state other)
  exact Moves.settles rest spared (settles _ reached)

/-- A message is in the table or queued again, or was reported since a state. -/
def Accounted (start : Node) (message : Outstanding) (node : Node) : Prop :=
  start.Answers false message node ∨ start.Settles message node

theorem Moves.accounted (moves : Moves False effects before after)
    (spared : ∀ effect ∈ effects, effect.losesMessages = false ∧ effect.losesSends = false)
    (holds : start.Accounted message before) : start.Accounted message after := by
  rcases holds with answers | settles
  · exact .inl (Moves.answers moves (fun effect member => (spared effect member).1) answers)
  · exact .inr (Moves.settles moves (fun effect member => (spared effect member).2) settles)

/-- Starting over with a peer accounts for every message, unless an envelope to the peer is
in flight. -/
theorem resetSession_accounts {node : Node} (peer : Address) (now : Nat) {message : Outstanding}
    (tracked : message ∈ node.transport.outstanding)
    (direct : Transport.failsTo peer message = true → message.reliability ≠ .storeAndForward) :
    node.Accounted message (node.resetSession peer now) := by
  have dropped : Moves False _ node (node.dropSession peer) := node.dropSession_moves peer
  have since := Moves.events_prefix dropped (by decide)
  have same : (node.dropSession peer).transport.outstanding = node.transport.outstanding :=
    dropped.same CoreStep.outstanding_same (by decide)
  have kept : message ∈ (node.dropSession peer).transport.outstanding := same ▸ tracked
  have absent : (node.dropSession peer).sessions.contains peer = false := by
    have removed : (node.dropSession peer).sessions = node.sessions.remove peer := by
      unfold dropSession emit
      split <;> rfl
    rw [removed, OrderedMap.contains, get_remove_self]
    rfl
  simp only [resetSession]
  generalize node.dropSession peer = closed at since kept absent
  have each (state : Node) (other : Outstanding) :
      Moves False Effects.messaging state (requeue peer now state other) :=
    requeue_moves peer now state other
  cases failing : Transport.failsTo peer message with
  | true =>
    refine .inr (Settles.ofLoop (mem_filter.mpr ⟨kept, failing⟩) _ each (by decide) ?_)
    intro state reached
    have later := Moves.events_prefix reached (by decide)
    simp only [requeue, if_neg (direct failing)]
    refine sendOrQueue_settles now (since.trans later) ?_ rfl rfl
    exact (Moves.contains_same reached (by decide) (by decide) peer).trans absent
  | false =>
    have cleared : node.Answers false message { closed with
        transport := (closed.transport.failAllTo peer).1 } := by
      refine ⟨since, fun _ => .inl ⟨message, mem_filter.mpr ⟨kept, ?_⟩,
        (Outstanding.SameMessage.refl message).isCopy⟩⟩
      rw [failing]
      rfl
    exact .inl (Moves.answers (Trail.foldl _ _ (fun state other _ => each state other))
      (by decide) cleared)

/-- The session with a peer is dropped when the peer knows nothing of it, unless its third
handshake message can be repeated. -/
def resetsSession (node : Node) (peer : Address) (now : Nat) : Bool :=
  match node.sessions.get peer with
  | none => false
  | some session => !(session.m3.isSome && decide (session.m3Resends < 3) &&
      decide (now - session.establishedAt ≤ node.cfg.handshakeTimeoutMs))

theorem onNoSessionNotice_accounts (node : Node) (peer : Address) (now : Nat)
    (message : Outstanding) (tracked : message ∈ node.transport.outstanding)
    (direct : node.resetsSession peer now = true → Transport.failsTo peer message = true →
      message.reliability ≠ .storeAndForward) :
    node.Accounted message (node.onNoSessionNotice peer now) := by
  have here : node.Answers false message node :=
    .initially tracked (Outstanding.SameMessage.refl message).isCopy
  unfold onNoSessionNotice
  unfold resetsSession at direct
  cases found : node.sessions.get peer with
  | none => exact .inl here
  | some session =>
    simp only [found, Bool.not_eq_true', Bool.and_eq_false_iff, decide_eq_false_iff_not] at direct
    simp only
    split
    · rename_i m3 third
      split
      · have counted : Moves False Effects.sending node _ := Trail.single (node.advance_move peer
          session { session with m3Resends := session.m3Resends + 1 } found ⟨rfl, rfl⟩) (by decide)
        have repeated : Moves False Effects.sending node _ := counted.trans
          ((sendHandshakePacket_quiet _ peer .three m3 now).moves (by decide))
        exact .inl (Moves.answers repeated (by decide) here)
      · rename_i exhausted
        refine resetSession_accounts peer now tracked (direct ?_)
        rcases not_and_or.mp exhausted with often | late
        · exact .inl (.inr often)
        · exact .inr late
    · rename_i third
      refine resetSession_accounts peer now tracked (direct ?_)
      exact .inl (.inl (by rw [third]; rfl))

/-- A retry that finds no session queues its message again. -/
theorem retryOutstanding_settles {retried : Outstanding} (now : Nat)
    (since : start.events <+: node.events) (direct : retried.reliability ≠ .storeAndForward)
    (absent : node.sessions.contains retried.dst = false) (same : retried.SameMessage message) :
    start.Settles message (node.retryOutstanding retried now) := by
  have doubted : Moves False _ node (node.doubtRoute retried now) :=
    node.doubtRoute_moves retried now
  have gone : (node.doubtRoute retried now).sessions.contains retried.dst = false :=
    (Moves.contains_same doubted (by decide) (by decide) retried.dst).trans absent
  have later := since.trans (Moves.events_prefix doubted (by decide))
  cases kind : retried.reliability with
  | storeAndForward => exact absurd kind direct
  | _ =>
    simp only [retryOutstanding, kind, gone, Bool.not_false, if_true]
    exact sendOrQueue_settles now later gone same.handle same.body

/-- A retry loses no message to another peer, nor any message when its session exists. -/
theorem retryOutstanding_answers (retried : Outstanding) (now : Nat)
    (harmless : retried.reliability ≠ .storeAndForward →
      node.sessions.contains retried.dst = false → retried.dst ≠ message.dst)
    (holds : start.Answers false message node) :
    start.Answers false message (node.retryOutstanding retried now) := by
  have doubted : Moves False _ node (node.doubtRoute retried now) :=
    node.doubtRoute_moves retried now
  have answered := Moves.answers doubted (by decide) holds
  have sameSession := Moves.contains_same doubted (by decide) (by decide) retried.dst
  have resent (direct : retried.reliability ≠ .storeAndForward) : start.Answers false message
      (if !(node.doubtRoute retried now).sessions.contains retried.dst then
        sendOrQueue { node.doubtRoute retried now with
          transport := ((node.doubtRoute retried now).transport.failAllTo retried.dst).1 }
          ⟨retried.dst, retried.body, retried.reliability, retried.handle, now⟩ now
      else ((node.doubtRoute retried now).sendSessionPacket retried.dst .data retried.body
        retried.seq true now).1) := by
    generalize node.doubtRoute retried now = state at answered sameSession
    split
    · rename_i gone
      rw [sameSession] at gone
      have elsewhere := harmless direct (by simpa using gone)
      have cleared : start.Answers false message { state with
          transport := (state.transport.failAllTo retried.dst).1 } := by
        refine ⟨answered.since, fun room => (answered.answered room).imp ?_
          (fun reported => reported)⟩
        rintro ⟨copy, member, copied⟩
        refine ⟨copy, mem_filter.mpr ⟨member, ?_⟩, copied⟩
        have other : (copy.dst == retried.dst) = false :=
          beq_false_of_ne (fun same => elsewhere (same.symm.trans copied.1.dst))
        simp only [Transport.failsTo, other, Bool.false_and, Bool.not_false]
      exact Moves.answers (sendOrQueue_moves _ _ _) (by decide) cleared
    · exact Moves.answers (sendSessionPacket_moves _ _ _ _ _ _ _) (by decide) answered
  cases kind : retried.reliability with
  | storeAndForward =>
    simp only [retryOutstanding, kind]
    split
    · exact Moves.answers (deliverEnvelope_moves _ _ _ _ _) (by decide) answered
    · exact holds
  | unreliable =>
    have sent := resent (by rw [kind]; decide)
    rw [kind] at sent
    simp only [retryOutstanding, kind]
    exact sent
  | acknowledged =>
    have sent := resent (by rw [kind]; decide)
    rw [kind] at sent
    simp only [retryOutstanding, kind]
    exact sent

/-- The retries of a tick of the reliability timers that find no session drop no message
that is not retried in a session itself. -/
def SparesRetries (node : Node) (now : Nat) : Prop :=
  ∀ retried ∈ (node.transport.tick now node.rng).2.retry,
    retried.reliability ≠ .storeAndForward → node.sessions.contains retried.dst = false →
    ∀ other ∈ (node.transport.tick now node.rng).2.kept,
      other.dst = retried.dst → other.stored = false →
      other.reliability ≠ .storeAndForward ∧
        ∃ again ∈ (node.transport.tick now node.rng).2.retry, again.SameMessage other

/-- Retries that never give up on a message's destination keep it in the table. -/
theorem retryAll_answers (now : Nat)
    (harmless : ∀ retried ∈ retries, retried.reliability ≠ .storeAndForward →
      node.sessions.contains retried.dst = false → retried.dst ≠ message.dst)
    (holds : start.Answers false message node) :
    start.Answers false message (retries.foldl (retryOne now) node) := by
  induction retries generalizing node with
  | nil => exact holds
  | cons head rest ih =>
    have retried : Moves False _ node (node.retryOutstanding head now) :=
      node.retryOutstanding_moves head now
    refine ih ?_ (retryOutstanding_answers head now (harmless head mem_cons_self) holds)
    intro later member direct absent
    refine harmless later (mem_cons_of_mem _ member) direct ?_
    exact (Moves.contains_same retried (by decide) (by decide) later.dst).symm.trans absent

/-- Retries followed by the reports of exhausted messages account for a message that is
exhausted or still in the table, if the retries drop none that is not retried itself. -/
theorem retryAndReport_accounts (now : Nat) {exhausted : List Outstanding}
    (spares : ∀ retried ∈ retries, retried.reliability ≠ .storeAndForward →
      node.sessions.contains retried.dst = false → ∀ other ∈ node.transport.outstanding,
        other.dst = retried.dst → other.stored = false → other.reliability ≠ .storeAndForward ∧
          ∃ again ∈ retries, again.SameMessage other)
    (since : start.events <+: node.events)
    (present : ∃ copy, message.IsCopy true copy ∧
      (copy ∈ exhausted ∨ copy ∈ node.transport.outstanding)) :
    start.Accounted message
      (exhausted.foldl reportExhausted (retries.foldl (retryOne now) node)) := by
  obtain ⟨copy, ⟨same, unstored⟩, gone | kept⟩ := present
  · have retried : Moves False _ node (retries.foldl (retryOne now) node) :=
      Trail.foldl _ _ (fun state other _ => state.retryOutstanding_moves other now)
    have later := since.trans (Moves.events_prefix retried (by decide))
    refine .inr (Settles.ofLoop gone _ (fun state other => state.reportExhausted_moves other)
      (by decide) ?_)
    intro state reached
    have latest := later.trans (Moves.events_prefix reached (by decide))
    simp only [reportExhausted, unstored rfl, Bool.false_eq_true, if_false]
    exact emit_settles latest (same.handle ▸ beq_self_eq_true _)
  · have reported (first : Node) : Moves False _ first (exhausted.foldl reportExhausted first) :=
      Trail.foldl _ _ (fun state other _ => state.reportExhausted_moves other)
    refine Moves.accounted (reported _) (by decide) ?_
    by_cases endangered : ∃ retried ∈ retries, retried.reliability ≠ .storeAndForward ∧
        node.sessions.contains retried.dst = false ∧ retried.dst = message.dst
    · obtain ⟨retried, listed, direct, absent, here⟩ := endangered
      have toward : copy.dst = retried.dst := same.dst.trans here.symm
      obtain ⟨directly, again, repeated, alike⟩ :=
        spares retried listed direct absent copy kept toward (unstored rfl)
      refine .inr (Settles.ofLoop repeated node (fun state other =>
        state.retryOutstanding_moves other now) (by decide) ?_)
      intro state reached
      refine retryOutstanding_settles now (since.trans (Moves.events_prefix reached (by decide)))
        ?_ ?_ (alike.trans same)
      · rw [alike.reliability]
        exact directly
      · rw [Moves.contains_same reached (by decide) (by decide), alike.dst, toward]
        exact absent
    · refine .inl (retryAll_answers now ?_ ⟨since, fun _ =>
        Or.inl ⟨copy, kept, same.isCopy⟩⟩)
      intro retried listed direct absent here
      exact endangered ⟨retried, listed, direct, absent, here⟩

/-- The reliability timers account for a message that no host keeps. -/
theorem pollTransport_accounts {node : Node} (now : Nat) (spares : node.SparesRetries now)
    (holds : start.Answers true message node) :
    start.Accounted message (node.pollTransport now) := by
  have timed : Moves False _ node (node.pollTransport now) := node.pollTransport_moves now
  have grown := Moves.events_prefix timed (by decide)
  by_cases room : node.events.length < 256
  · rcases holds.answered room with ⟨copy, member, same, unstored⟩ | reported
    · refine retryAndReport_accounts now spares holds.since ?_
      rcases Transport.tickList_outcome node.transport.cfg now member (unstored rfl) node.rng with
        exhausted | ⟨kept, present, alike, fresh⟩
      · exact ⟨copy, ⟨same, unstored⟩, .inl exhausted⟩
      · exact ⟨kept, ⟨alike.trans same, fresh⟩, .inr present⟩
    · exact .inr (Moves.settles timed (by decide) ⟨holds.since, fun _ => .inr reported⟩)
  · refine .inl ⟨holds.since.trans grown, ?_⟩
    exact fun later => absurd (Nat.lt_of_le_of_lt grown.length_le later) room

/-- An envelope acknowledgement accounts for a message that no host keeps, if it is sealed by
the destination of the message it removes. -/
theorem onEnvelopeAck_answers {node : Node} (sender : Address) (envelopeId : UInt32) (now : Nat)
    (unstored : message.stored = false) (tracked : message ∈ node.transport.outstanding)
    (right : ∀ found, node.transport.outstanding.find? (Transport.inEnvelope envelopeId) =
      some found → found.stored = true ∨ found.dst = sender)
    (since : start.events <+: node.events) :
    start.Answers false message (node.onEnvelopeAck sender envelopeId now) := by
  have holds : start.Answers false message node :=
    ⟨since, fun _ => .inl ⟨message, tracked, (Outstanding.SameMessage.refl message).isCopy⟩⟩
  cases found : node.transport.outstanding.find? (Transport.inEnvelope envelopeId) with
  | none =>
    have settled : Moves False _ node _ := node.settleEnvelope_moves envelopeId
      (fun other => .delivered other.handle other.dst 0)
        (fun other => beq_self_eq_true other.handle)
    have answered := Moves.answers settled (by decide) holds
    simp only [onEnvelopeAck, Transport.onEnvelopeDelivered, found] at answered ⊢
    exact answered
  | some removed =>
    by_cases addressed : removed.dst = sender
    · have settled : Moves False _ node _ := node.settleEnvelope_moves envelopeId
        (fun other => .delivered other.handle other.dst (now - other.startedAt))
        (fun other => beq_self_eq_true other.handle)
      have answered := Moves.answers settled (by decide) holds
      simp only [onEnvelopeAck, Transport.onEnvelopeDelivered, found, if_pos addressed]
        at answered ⊢
      exact answered
    · have stored : removed.stored = true := (right removed found).resolve_right addressed
      simp only [onEnvelopeAck, Transport.onEnvelopeDelivered, found, if_neg addressed]
      refine ⟨since, fun _ => .inl ⟨message, ?_, (Outstanding.SameMessage.refl message).isCopy⟩⟩
      rcases Selection.mem_eraseP_or_found tracked with kept | first
      · exact kept
      · cases found.symm.trans first
        exact absurd (unstored.symm.trans stored) Bool.false_ne_true

/-- The node whose reliability timers run in a poll. -/
def beforeTick (node : Node) (time : Nat) : Node :=
  ((node.powered time).pollRadio (max node.now time)).pollDiscovery (max node.now time)

/-- No message that no host keeps is dropped without a report: a peer whose session is reset
has no envelope of ours in flight, an envelope is acknowledged by its destination, and a
retry that finds no session drops no message that is not retried in a session itself. -/
def SparesTracked (node : Node) : Operation → Prop
  | .receive frame rxMeta =>
    (∀ packet, node.incoming frame = some packet → node.isNoSessionNotice packet = true →
      node.resetsSession packet.header.src (max node.now rxMeta.timestampMs) = true →
      ∀ message ∈ node.transport.outstanding,
        Transport.failsTo packet.header.src message = true →
        message.reliability ≠ .storeAndForward) ∧
    ∀ sender envelopeId, node.receipt frame rxMeta = some (.envelope sender envelopeId) →
      ∀ message, node.transport.outstanding.find? (Transport.inEnvelope envelopeId) =
        some message → message.stored = true ∨ message.dst = sender
  | .poll time =>
    (node.powered time).power.awake = true →
      (node.beforeTick time).SparesRetries (max node.now time)
  | _ => True

/-- An acknowledgement accounts for a message that no host keeps. -/
theorem handleAck_accounts {node : Node} (packet : Packet) (now : Nat)
    (unstored : message.stored = false) (tracked : message ∈ node.transport.outstanding)
    (right : ∀ sender envelopeId,
      (node.openReceipt packet now).2 = some (.envelope sender envelopeId) →
      ∀ found, node.transport.outstanding.find? (Transport.inEnvelope envelopeId) =
        some found → found.stored = true ∨ found.dst = sender)
    (since : start.events <+: node.events) :
    start.Accounted message (node.handleAck packet now) := by
  have opened : Moves False _ node _ := node.openReceipt_moves packet now
  have later := since.trans (Moves.events_prefix opened (by decide))
  have same : (node.openReceipt packet now).1.transport.outstanding = node.transport.outstanding :=
    opened.same CoreStep.outstanding_same (by decide)
  rw [← same] at tracked right
  rw [handleAck_eq]
  generalize node.openReceipt packet now = result at right later tracked
  obtain ⟨state, content⟩ := result
  have holds : start.Answers false message state :=
    ⟨later, fun _ => .inl ⟨message, tracked, (Outstanding.SameMessage.refl message).isCopy⟩⟩
  cases content with
  | none => exact .inl holds
  | some receipt =>
    cases receipt with
    | envelope sender envelopeId =>
      exact .inl (onEnvelopeAck_answers sender envelopeId now unstored tracked
        (right sender envelopeId rfl) later)
    | session sender ack =>
      have applied : Moves False _ state _ := state.onAck_moves sender ack now
      exact .inl (Moves.answers applied (by decide) holds)

/-- A received frame accounts for every message that no host keeps. -/
theorem receive_accounts (node : Node) {frame : Bytes} {rxMeta : RxMeta}
    (spares : node.SparesTracked (.receive frame rxMeta))
    (tracked : message ∈ node.transport.outstanding) (unstored : message.stored = false) :
    node.Accounted message (node.onRadioRx frame rxMeta) := by
  have here : node.Answers false message node :=
    .initially tracked (Outstanding.SameMessage.refl message).isCopy
  rcases node.onRadioRx_handling frame rxMeta with ⟨_, quiet⟩ |
    ⟨packet, incoming, foreign, handling⟩
  · exact .inl (Moves.answers quiet (by decide) here)
  · have noted : node.Answers false message (node.noted frame rxMeta packet) := here
    generalize node.onRadioRx frame rxMeta = after at handling
    cases handling with
    | ordinary _ moves => exact .inl (Moves.answers moves (by decide) noted)
    | notice active quiet noticed =>
      have sameTable : active.transport.outstanding = node.transport.outstanding :=
        congrArg Core.outstanding quiet.core
      have sameEvents : active.events = node.events := congrArg Core.events quiet.core
      have sameSessions : active.sessions = node.sessions := congrArg Core.sessions quiet.core
      have accounted := active.onNoSessionNotice_accounts packet.header.src
        (node.clock rxMeta) message (sameTable ▸ tracked) (by
          intro resets failing
          refine spares.1 packet incoming noticed ?_ message tracked failing
          have sameCfg : active.cfg = node.cfg := quiet.cfg
          simp only [resetsSession, sameSessions, sameCfg] at resets ⊢
          exact resets)
      unfold Accounted Answers Settles at accounted ⊢
      rw [← sameEvents]
      exact accounted
    | ack ready quiet arrived mine kind =>
      have engaged : Reroutes False (node.noted frame rxMeta packet) (ready.engaged packet
          (node.clock rxMeta)) := quiet.trans (engaged_quiet _ _ _)
      have sameTable : (ready.engaged packet (node.clock rxMeta)).transport.outstanding =
          node.transport.outstanding := congrArg Core.outstanding engaged.core
      have sameEvents : (ready.engaged packet (node.clock rxMeta)).events =
          node.events := congrArg Core.events engaged.core
      have named := receipt_eq incoming mine kind arrived
      refine handleAck_accounts packet (node.clock rxMeta) unstored
        (sameTable.symm ▸ tracked) ?_ (sameEvents ▸ prefix_refl _)
      intro sender envelopeId opened found first
      exact spares.2 sender envelopeId (named.trans opened) found (sameTable ▸ first)
    | control ready quiet arrived mine kind untraced =>
      have engaged := quiet.trans (engaged_quiet ready packet (node.clock rxMeta))
      exact .inl (Moves.answers (handleControl_moves _ _ _) (by decide)
        (Moves.answers engaged (by decide) noted))
    | handshake ready quiet arrived mine kind =>
      have engaged := quiet.trans (engaged_quiet ready packet (node.clock rxMeta))
      refine .inl (Moves.answers (handleHandshake_seals _ _ _ ?_).moves (by decide)
        (Moves.answers engaged (by decide) noted))
      rw [engaged.address]
      exact foreign
    | reply ready quiet arrived mine kind =>
      have overheard := quiet.trans (overhearReply_quiet ready packet)
      refine .inl (Moves.answers (handleRouteReply_seals _ _ _ _ ?_ False.elim).moves (by decide)
        (Moves.answers overheard (by decide) noted))
      rw [overheard.address]
      exact foreign
    | request ready quiet arrived kind heard =>
      have overheard := quiet.trans (overhearReply_quiet ready packet)
      exact .inl (Moves.answers (handleRouteRequest_moves _ _ _ _ _ (overheard.heard heard))
        (by decide) (Moves.answers overheard (by decide) noted))

/-- A poll accounts for every message that no host keeps. -/
theorem poll_accounts (node : Node) {time : Nat} (spares : node.SparesTracked (.poll time))
    (tracked : message ∈ node.transport.outstanding) (unstored : message.stored = false) :
    node.Accounted message (node.poll time) := by
  have here : node.Answers true message node :=
    .initially tracked ⟨.refl message, fun _ => unstored⟩
  have powered : Moves False _ node (node.powered time) := node.powered_moves time
  have woken := Moves.answers_unstored powered (by decide) here
  simp only [poll]
  split
  · refine .inl ⟨woken.since, fun room => (woken.answered room).imp ?_ (fun reported => reported)⟩
    rintro ⟨copy, member, same, _⟩
    exact ⟨copy, member, same.isCopy⟩
  · rename_i waking
    have radio : Moves False _ (node.powered time) _ :=
      pollRadio_moves _ (max node.now time) False.elim
    have discovered : Moves False _ ((node.powered time).pollRadio (max node.now time))
      (node.beforeTick time) := pollDiscovery_moves _ (max node.now time)
    have ready := Moves.answers_unstored discovered (by decide)
      (Moves.answers_unstored radio (by decide) woken)
    have ticked := pollTransport_accounts (max node.now time) (spares (by simpa using waking)) ready
    have late : Moves False _ ((node.beforeTick time).pollTransport (max node.now time))
      ((node.powered time).pollTimers (max node.now time)) := pollLate_moves _ (max node.now time)
    have timed := Moves.accounted late (by decide) ticked
    simp only [pollAwake]
    split
    · exact Moves.accounted (housekeeping_moves _ (max node.now time)) (by decide) timed
    · exact timed

/-- What a step owes to a tracked message that no host keeps: it is still tracked, a report
in this step concluded it, or a send with its handle and payload waits for a session or for
a key. -/
def AccountsFor (before after : Node) (message : Outstanding) : Prop :=
  (∃ copy ∈ after.transport.outstanding, copy.SameMessage message) ∨
    (∃ fresh, after.events = before.events ++ fresh ∧
      ∃ event ∈ fresh, event.concludes message.handle = true) ∨
    (∃ peer pending, after.handshakes.get peer = some pending ∧ ∃ send ∈ pending.queued,
      send.handle = message.handle ∧ send.payload = message.body) ∨
    ∃ waiting ∈ after.pendingEnvelopes,
      waiting.handle = message.handle ∧ waiting.payload = message.body

/-- With room for its reports, a step that accounts for a message owes it nothing. -/
theorem Accounted.accountsFor (accounted : start.Accounted message after)
    (room : after.events.length < 256) : start.AccountsFor after message := by
  rcases accounted with answers | settles
  · rcases answers.answered room with ⟨copy, member, same, _⟩ | reported
    · exact .inl ⟨copy, member, same⟩
    · exact .inr (.inl reported)
  · rcases settles.settled room with ⟨peer, send, member, named, content⟩ | reported
    · refine .inr (.inr (.inl ⟨peer, ?_⟩))
      cases found : after.handshakes.get peer with
      | none =>
        have vacant : after.core.handshakes.get peer = none := found
        simp only [Core.queueOf, vacant] at member
        cases member
      | some pending =>
        have present : after.core.handshakes.get peer = some pending := found
        simp only [Core.queueOf, present] at member
        exact ⟨pending, rfl, send, member, named, content⟩
    · exact .inr (.inl reported)

/-- What a step owes to its tracked messages: everything that no host keeps is accounted
for. -/
def AccountsForAll (node : Node) (operation : Operation) : Prop :=
  ∀ message ∈ node.transport.outstanding, message.stored = false →
    node.AccountsFor (node.step operation) message

/-- A step that drops no message unreported and has room for its reports accounts for all. -/
def Spares (node : Node) (operation : Operation) : Prop :=
  node.SparesTracked operation ∧ (node.step operation).events.length < 256

theorem step_accounts (node : Node) (operation : Operation) (permitted : node.Spares operation) :
    node.AccountsForAll operation := by
  obtain ⟨spares, room⟩ := permitted
  intro message tracked unstored
  cases called : operation.isCall with
  | true =>
    obtain ⟨copy, member, same, _⟩ := Moves.copy_kept (node.call_moves called) (by decide)
      ⟨message, tracked, (Outstanding.SameMessage.refl message).isCopy⟩
    exact .inl ⟨copy, member, same⟩
  | false =>
    cases operation with
    | receive frame rxMeta =>
      exact (node.receive_accounts spares tracked unstored).accountsFor room
    | poll time => exact (node.poll_accounts spares tracked unstored).accountsFor room
    | _ => cases called

/-- No reliable message is lost silently: in every run whose steps drop no message
unreported and whose event queue is never full, every step accounts for every tracked
message that no host keeps. -/
theorem reliable_messages_accounted (config : NodeConfig) (id : Identity) (rng : Rng) (start : Nat)
    (operations : List Operation)
    (permitted : Throughout Spares (new config id rng start) operations) :
    Throughout AccountsForAll (new config id rng start) operations := permitted.imp step_accounts

end Node

end MeshStar

namespace MeshStar

local instance accountingSuite : Primitives := Transparent.primitives

open Transparent List

namespace Accounting

def host : Node := Node.new NodeConfig.default (identity 1) generator 0

/-- The host learns a key and sends an envelope to its owner; then something happens. -/
def sending (last : Node.Operation) : List Node.Operation :=
  [.addKnownIdentity (identity 3).publicIdentity,
    .sendMessage (identity 3).address [1, 2, 3] .storeAndForward, last]

/-- The host after it sent the envelope. -/
def sent : Node :=
  (host.step (.addKnownIdentity (identity 3).publicIdentity)).step
    (.sendMessage (identity 3).address [1, 2, 3] .storeAndForward)

/-- An acknowledgement of that envelope sealed by an identity. -/
def acknowledgement (sealer : Identity) : Bytes :=
  match (sealEnvelope sealer host.id.publicIdentity 11 [] generator).2 with
  | .ok envelope => frame ⟨{ Header.new .ack sealer.address host.address 7 0 2 with
      flags := Flags.envelope }, frameEnvelope 11 envelope⟩
  | .error _ => []

/-- The host receives an acknowledgement. -/
def acknowledged (sealer : Identity) : Node.Operation :=
  .receive (acknowledgement sealer) (heardAt 20)

/-- The one tracked message. -/
theorem sent_tracked : ∃ message, sent.transport.outstanding = [message] ∧
    message.stored = false := by
  have single : sent.transport.outstanding.map Outstanding.stored = [false] := by decide +kernel
  cases table : sent.transport.outstanding with
  | nil =>
    rw [table] at single
    cases single
  | cons message rest =>
    rw [table, map_cons] at single
    obtain ⟨unstored, vacant⟩ := List.cons.inj single
    exact ⟨message, by rw [map_eq_nil_iff.mp vacant], unstored⟩

/-- The destination's own acknowledgement meets the condition. -/
theorem acknowledged_spares : sent.Spares (acknowledged (identity 3)) := by
  refine ⟨⟨?_, ?_⟩, by decide +kernel⟩
  · have unnoticed : (sent.incoming (acknowledgement (identity 3))).all
        (fun packet => !sent.isNoSessionNotice packet) = true := by decide +kernel
    intro packet incoming noticed
    rw [incoming, Option.all_some, noticed] at unnoticed
    cases unnoticed
  · have received : sent.receipt (acknowledgement (identity 3))
        (heardAt 20) = some (.envelope (identity 3).address 11) := by
      decide +kernel
    have addressed : ∀ other ∈ sent.transport.outstanding,
        other.dst = (identity 3).address := by decide +kernel
    intro sender envelopeId opened other found
    obtain ⟨sameSender, _⟩ :=
      Node.Receipt.envelope.inj (Option.some.inj (received.symm.trans opened))
    exact .inr ((addressed other (mem_of_find?_eq_some found)).trans sameSender)

end Accounting

open Accounting

/-- An acknowledgement sealed by a stranger removes the message, and nobody is told. -/
theorem envelope_lost_to_stranger : (sent.step (acknowledged (identity 2))).events.length < 256 ∧
      ¬Node.Throughout Node.AccountsForAll host (sending (acknowledged (identity 2))) := by
  refine ⟨by decide +kernel, ?_⟩
  rintro ⟨_, _, accounts, _⟩
  replace accounts : sent.AccountsForAll (acknowledged (identity 2)) := accounts
  obtain ⟨message, table, unstored⟩ := sent_tracked
  have tracked : message ∈ sent.transport.outstanding := table ▸ mem_cons_self
  have vacant : (sent.step (acknowledged (identity 2))).transport.outstanding = [] ∧
      (sent.step (acknowledged (identity 2))).events.length = 0 ∧
      (sent.step (acknowledged (identity 2))).handshakes.keys = [] ∧
      (sent.step (acknowledged (identity 2))).pendingEnvelopes = [] := by
    decide +kernel
  obtain ⟨untracked, silent, unqueued, unsealed⟩ := vacant
  rcases accounts message tracked unstored with ⟨copy, member, _⟩ |
    ⟨fresh, events, event, member, _⟩ | ⟨peer, pending, found, _⟩ | ⟨waiting, member, _⟩
  · rw [untracked] at member
    cases member
  · rw [events, length_append] at silent
    rw [length_eq_zero_iff.mp (Nat.eq_zero_of_add_eq_zero_left silent)] at member
    cases member
  · have key := mem_map_of_mem (f := Prod.fst) ((OrderedMap.get_eq_some_iff _ _ _).mp found)
    change peer ∈ (sent.step (acknowledged (identity 2))).handshakes.keys at key
    rw [unqueued] at key
    cases key
  · rw [unsealed] at member
    cases member

/-- The destination's own acknowledgement accounts for the message. -/
theorem reliable_messages_accounted_delivered :
    Node.Throughout Node.AccountsForAll host (sending (acknowledged (identity 3))) :=
  Node.reliable_messages_accounted NodeConfig.default (identity 1) generator 0 _
    ⟨⟨trivial, by decide +kernel⟩, ⟨trivial, by decide +kernel⟩, acknowledged_spares, trivial⟩

end MeshStar
