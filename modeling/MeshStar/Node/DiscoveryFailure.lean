import MeshStar.Node.Announcement
import MeshStar.Node.Handling

/-!
# Giving up on a destination

When a discovery fails, the envelopes parked behind it are deposited at an anchor, if
there is one among the neighbours. After that every tracked message to the destination
that no host keeps yet is given up, and the message whose envelope has just been deposited
is one of them: it is reported as failed and no longer tracked, so the acceptance of the
deposit finds nothing to mark.

The messages of the deposited envelopes survive exactly when none of them is an unstored
message to the destination and no report carries one of their handles.
-/

namespace MeshStar

open List

variable [Primitives]

namespace Node

/-- The anchor that takes the envelopes of a failed discovery. -/
def lastResort (node : Node) : Option Address :=
  (node.neighbors.bestAnchor.map Neighbor.addr).filter (fun addr => addr != node.address)

/-- The deposit made for a parked packet. -/
def rescue (anchor target : Address) (packet : Packet) : Option Deposit :=
  if packet.header.has Flags.envelope && packet.header.has Flags.storeForward then
    match parseEnvelopeFrame packet.payload with
    | .ok (envelopeId, _) => some ⟨anchor, target, envelopeId⟩
    | .error _ => none
  else none

/-- The deposits a failed discovery makes. -/
def rescues (node : Node) (target : Address) (queued : List Packet) : List Deposit :=
  match node.lastResort with
  | some anchor => queued.filterMap (rescue anchor target)
  | none => []

/-- The sends behind a handshake whose failure is reported when there is no route. -/
def audible (queue : List QueuedSend) : List QueuedSend :=
  queue.filter (fun send => send.handle != 0 && send.handle != queuedStore)

/-- What a failed discovery reports besides the parked envelopes: the sends behind the
handshake with the destination, the tracked messages to it that no host keeps, and the
envelopes that wait for its key. -/
def failureReports (node : Node) (target : Address) : List NodeEvent :=
  (audible (node.core.queueOf target)).map (fun send => .failed send.handle send.dst .noRoute) ++
    ((node.transport.failAllTo target).2.map (fun message =>
        .failed message.handle target .noRoute) ++
      (node.pendingEnvelopes.filter (fun pending => pending.dst == target)).map (fun pending =>
        .failed pending.handle pending.dst .noKey))

/-- What a failed discovery depends on: the waiting sends of the application, the tracked
messages, the waiting envelopes, the events. -/
structure SameAccounts (before after : Node) : Prop where
  queues : ∀ peer, audible (after.core.queueOf peer) = audible (before.core.queueOf peer)
  outstanding : after.transport.outstanding = before.transport.outstanding
  envelopes : after.pendingEnvelopes = before.pendingEnvelopes
  events : after.events = before.events

variable {before after : Node} {effects : List Effect}

theorem SameAccounts.trans {last : Node} (earlier : before.SameAccounts after)
    (later : after.SameAccounts last) : before.SameAccounts last :=
  ⟨fun peer => (later.queues peer).trans (earlier.queues peer),
    later.outstanding.trans earlier.outstanding, later.envelopes.trans earlier.envelopes,
    later.events.trans earlier.events⟩

/-- Effects that may change what a failed discovery depends on. -/
def touchesAccounts (effect : Effect) : Bool :=
  effect.touchesHandshakes || effect.touchesOutstanding || effect.touchesEnvelopes ||
    effect.touchesEvents

theorem SameAccounts.ofMoves (moves : Moves False effects before after)
    (spared : ∀ effect ∈ effects, touchesAccounts effect = false) : before.SameAccounts after := by
  have each (effect : Effect) (member : effect ∈ effects) := spared effect member
  simp only [touchesAccounts, Bool.or_eq_false_iff] at each
  refine ⟨?_, ?_, ?_, ?_⟩
  · intro peer
    have same : after.core.handshakes = before.core.handshakes :=
      moves.same CoreStep.handshakes_same (fun effect member => (each effect member).1.1.1)
    unfold Core.queueOf
    rw [same]
  · exact moves.same CoreStep.outstanding_same (fun effect member => (each effect member).1.1.2)
  · exact moves.same CoreStep.envelopes_same (fun effect member => (each effect member).1.2)
  · exact moves.same CoreStep.events_same (fun effect member => (each effect member).2)

variable (node : Node)

/-- A fresh handshake has no sends. -/
theorem startHandshake_accounts {peer : Address} {now : Nat} :
    node.SameAccounts (node.startHandshake peer now) := by
  rcases node.startHandshake_cases peer now with ⟨_, same⟩ |
    ⟨pending, started, emptyQueue, absent, core, _, _, sent⟩
  · rw [same]
    exact ⟨fun _ => rfl, rfl, rfl, rfl⟩
  · have contacted : node.SameAccounts started := by
      refine ⟨?_, congrArg Core.outstanding core, congrArg Core.pendingEnvelopes core,
        congrArg Core.events core⟩
      intro other
      rw [core]
      unfold Core.queueOf
      simp only [OrderedMap.get_insert, KeyRank.rank_eq_iff]
      by_cases known : other = peer
      · rw [if_pos known, known, show node.core.handshakes.get peer = none from absent]
        simp only [emptyQueue]
      · rw [if_neg known]
        rfl
    have transmitted : Moves False [.silent] started _ :=
      (sendHandshakePacket_quiet started peer .one pending.m1 now).moves (by decide)
    rw [sent]
    exact contacted.trans (SameAccounts.ofMoves transmitted (by decide))

/-- A deposit that waits for a session is not reported. -/
theorem pushQueued_accounts {peer : Address} {send : QueuedSend}
    (silent : send.handle = queuedStore) : node.SameAccounts (node.pushQueued peer send) := by
  refine ⟨?_, rfl, rfl, rfl⟩
  intro other
  have queues : (node.pushQueued peer send).core.handshakes = node.handshakes.modify peer
      (fun pending => { pending with queued := pending.queued ++ [send] }) := rfl
  unfold Core.queueOf
  rw [queues, OrderedMap.get_modify, show node.core.handshakes = node.handshakes from rfl]
  simp only [KeyRank.rank_eq_iff]
  by_cases same : other = peer
  · rw [if_pos same]
    cases node.handshakes.get other with
    | none => rfl
    | some pending => simp [audible, silent]
  · rw [if_neg same]

variable (target anchor : Address)

/-- A deposit leaves the accounts alone and is recorded. -/
theorem sendStore_accounts (dst : Address) (envelopeId : UInt32) (envelope : Bytes) (now : Nat) :
    node.SameAccounts (node.sendStore anchor dst envelopeId envelope now) ∧
      (node.sendStore anchor dst envelopeId envelope now).history.deposits =
        node.history.deposits ++ [⟨anchor, dst, envelopeId⟩] := by
  simp only [sendStore]
  generalize isRecorded : { node with history := { node.history with
      deposits := node.history.deposits ++ [Deposit.mk anchor dst envelopeId] } } = recorded
  have accounts : node.SameAccounts recorded := by
    rw [← isRecorded]
    exact ⟨fun _ => rfl, rfl, rfl, rfl⟩
  have deposits : recorded.history.deposits =
      node.history.deposits ++ [⟨anchor, dst, envelopeId⟩] := by
    rw [← isRecorded]
  split
  · have sent : Moves False Effects.sending recorded _ := recorded.sendSequenced_moves anchor .store
      (StoreRequest.mk dst envelopeId node.cfg.envelopeTtlS envelope).encode now
    exact ⟨accounts.trans (SameAccounts.ofMoves sent (by decide)),
      (sent.same CoreStep.deposits_same (by decide)).trans deposits⟩
  · have started : Moves False [.silent, .contact] recorded (recorded.startHandshake anchor now) :=
      startHandshake_moves _ _ _
    refine ⟨?_, (started.same CoreStep.deposits_same (by decide)).trans deposits⟩
    exact (accounts.trans (startHandshake_accounts _)).trans (pushQueued_accounts _ rfl)

/-- The parked envelopes are deposited at the anchor, one after the other. -/
theorem failParked_accounts (now : Nat) (node : Node) (packet : Packet) :
    node.SameAccounts (failParked target (some anchor) now node packet) ∧
      (failParked target (some anchor) now node packet).history.deposits =
        node.history.deposits ++ (rescue anchor target packet).toList := by
  have same : node.SameAccounts node := ⟨fun _ => rfl, rfl, rfl, rfl⟩
  unfold failParked rescue
  split
  · cases parsed : parseEnvelopeFrame packet.payload with
    | error _ => exact ⟨same, (append_nil _).symm⟩
    | ok framed => exact node.sendStore_accounts anchor target framed.1 framed.2 now
  · exact ⟨same, (append_nil _).symm⟩

theorem failAllParked_accounts (now : Nat) (queued : List Packet) (node : Node) :
    node.SameAccounts (queued.foldl (failParked target (some anchor) now) node) ∧
      (queued.foldl (failParked target (some anchor) now) node).history.deposits =
        node.history.deposits ++ queued.filterMap (rescue anchor target) := by
  induction queued generalizing node with
  | nil => exact ⟨⟨fun _ => rfl, rfl, rfl, rfl⟩, (append_nil _).symm⟩
  | cons packet rest ih =>
    obtain ⟨first, deposited⟩ := failParked_accounts target anchor now node packet
    obtain ⟨later, recorded⟩ := ih (failParked target (some anchor) now node packet)
    refine ⟨first.trans later, ?_⟩
    rw [foldl_cons, recorded, deposited, append_assoc, filterMap_cons]
    cases rescue anchor target packet with
    | none => rfl
    | some deposit => rfl

/-- Without an anchor nothing is deposited. -/
theorem failParked_alone (now : Nat) (node : Node) (packet : Packet) :
    (failParked target none now node packet).history.deposits = node.history.deposits := by
  have removed (state : Node) (transport : Transport) :
      { state with transport := transport }.history.deposits = state.history.deposits := rfl
  unfold failParked
  split
  · cases parsed : parseEnvelopeFrame packet.payload with
    | error _ => rfl
    | ok framed =>
      simp only
      split
      · exact (congrArg Core.deposits (emit_core _ _)).trans (removed _ _)
      · rfl
  · rfl

/-- Dropping the handshake reports its sends and changes nothing else. -/
theorem failHandshake_core : ∃ handshakes, (node.failHandshake target).core = { node.core with
      handshakes := handshakes
      events := ((audible (node.core.queueOf target)).map (fun send =>
        NodeEvent.failed send.handle send.dst .noRoute)).foldl Core.pushEvent node.events } := by
  cases present : node.handshakes.get target with
  | none =>
    have queue : node.core.queueOf target = [] := by
      unfold Core.queueOf
      rw [show node.core.handshakes.get target = none from present]
    have same : node.failHandshake target = node := by
      unfold failHandshake
      rw [present]
    rw [queue, same]
    exact ⟨node.handshakes, rfl⟩
  | some pending =>
    have queue : node.core.queueOf target = pending.queued := by
      unfold Core.queueOf
      rw [show node.core.handshakes.get target = some pending from present]
    have reported : node.failHandshake target = ((audible pending.queued).map (fun send =>
        NodeEvent.failed send.handle send.dst .noRoute)).foldl emit
          { node with handshakes := node.handshakes.remove target } := by
      unfold failHandshake
      rw [present]
      rfl
    rw [queue, reported, (emitAll_frame _ _).1]
    exact ⟨node.handshakes.remove target, rfl⟩

/-- Giving up the tracked messages reports them and keeps the others. -/
theorem failTracked_core : (node.failTracked target).core = { node.core with
      outstanding := node.transport.outstanding.filter (fun message =>
        !Transport.failsTo target message)
      events := ((node.transport.outstanding.filter (Transport.failsTo target)).map (fun message =>
        NodeEvent.failed message.handle target .noRoute)).foldl Core.pushEvent node.events } :=
  (emitAll_frame _ _).1

/-- Giving up the waiting envelopes reports them. -/
theorem failEnvelopes_core : (node.failEnvelopes target).core = { node.core with
      pendingEnvelopes := node.pendingEnvelopes.filter (fun pending => pending.dst != target)
      events := ((node.pendingEnvelopes.filter (fun pending => pending.dst == target)).map
        (fun pending => NodeEvent.failed pending.handle pending.dst .noKey)).foldl Core.pushEvent
          node.events } := (emitAll_frame _ _).1

/-- The steps after the parked packets: what is reported and what stays tracked. -/
theorem failRest_core :
    (((node.failHandshake target).failTracked target).failEnvelopes target).events =
        (node.failureReports target).foldl Core.pushEvent node.events ∧
      (((node.failHandshake target).failTracked target).failEnvelopes
        target).transport.outstanding =
        node.transport.outstanding.filter (fun message => !Transport.failsTo target message) ∧
      (((node.failHandshake target).failTracked target).failEnvelopes target).history.deposits =
        node.history.deposits := by
  obtain ⟨handshakes, unlinked⟩ := node.failHandshake_core target
  have tracked := (node.failHandshake target).failTracked_core target
  have envelopes := ((node.failHandshake target).failTracked target).failEnvelopes_core target
  generalize node.failHandshake target = first at unlinked tracked envelopes ⊢
  generalize first.failTracked target = second at tracked envelopes ⊢
  generalize second.failEnvelopes target = third at envelopes ⊢
  have outstanding : first.transport.outstanding = node.transport.outstanding :=
    congrArg Core.outstanding unlinked
  have waiting : second.pendingEnvelopes = node.pendingEnvelopes :=
    (congrArg Core.pendingEnvelopes tracked).trans (congrArg Core.pendingEnvelopes unlinked)
  refine ⟨?_, ?_, ?_⟩
  · have heard : first.events = _ := congrArg Core.events unlinked
    have later : second.events = _ := congrArg Core.events tracked
    have last : third.events = _ := congrArg Core.events envelopes
    unfold failureReports Transport.failAllTo
    rw [foldl_append, foldl_append, last, later, heard, waiting, outstanding]
  · have later : second.transport.outstanding = _ := congrArg Core.outstanding tracked
    have last : third.transport.outstanding = second.transport.outstanding :=
      congrArg Core.outstanding envelopes
    rw [last, later, outstanding]
  · have last : third.history.deposits = second.history.deposits :=
      congrArg Core.deposits envelopes
    have later : second.history.deposits = first.history.deposits := congrArg Core.deposits tracked
    rw [last, later]
    exact congrArg Core.deposits unlinked

/-- Only the accounts decide what is reported. -/
theorem SameAccounts.reports (same : before.SameAccounts after) (target : Address) :
    after.failureReports target = before.failureReports target := by
  unfold failureReports Transport.failAllTo
  rw [same.queues, same.outstanding, same.envelopes]

/-- Without an anchor a failed discovery deposits nothing. -/
theorem onDiscoveryFailed_alone {node : Node} (resort : node.lastResort = none) (target : Address)
    (queued : List Packet) (now : Nat) :
    (node.onDiscoveryFailed target queued now).history.deposits = node.history.deposits := by
  have parked : (queued.foldl (failParked target none now) node).history.deposits =
      node.history.deposits :=
    foldl_same (fun state => state.history.deposits) (failParked_alone target now) queued node
  unfold onDiscoveryFailed
  simp only
  rw [show (node.neighbors.bestAnchor.map Neighbor.addr).filter (fun addr => addr != node.address) =
    none from resort, (failRest_core _ target).2.2]
  exact parked

/-- The messages whose envelopes a step deposits at a host stay tracked, and no failure is
reported for their handles. -/
def KeepsDeposited (before after : Node) : Prop :=
  ∀ deposit ∈ after.history.deposits.drop before.history.deposits.length,
    ∀ message ∈ before.transport.outstanding, message.envelopeId = some deposit.envelopeId →
      message ∈ after.transport.outstanding ∧
      ∀ recipient reason, .failed message.handle recipient reason ∉
        after.events.drop before.events.length

/-- None of the messages whose envelopes would be deposited is an unstored message to the
destination, and none of the reports that find room in the event queue has their handle. -/
def SparesDeposited (node : Node) (target : Address) (queued : List Packet) : Prop :=
  ∀ deposit ∈ node.rescues target queued,
    ∀ message ∈ node.transport.outstanding, message.envelopeId = some deposit.envelopeId →
      Transport.failsTo target message = false ∧
      ∀ recipient reason, .failed message.handle recipient reason ∉
        (node.failureReports target).take (256 - node.events.length)

/-- A failed discovery keeps the messages whose envelopes it deposits exactly when it spares
them in its last steps. -/
theorem deposited_envelopes_kept_iff (node : Node) (target : Address) (queued : List Packet)
    (now : Nat) :
    node.KeepsDeposited (node.onDiscoveryFailed target queued now) ↔
      node.SparesDeposited target queued := by
  unfold KeepsDeposited SparesDeposited
  cases resort : node.lastResort with
  | none =>
    rw [onDiscoveryFailed_alone resort, rescues, resort, drop_length]
    exact iff_of_true nofun nofun
  | some anchor =>
    obtain ⟨same, deposits⟩ := failAllParked_accounts target anchor now queued node
    unfold rescues onDiscoveryFailed
    simp only [resort]
    rw [show (node.neighbors.bestAnchor.map Neighbor.addr).filter (fun addr =>
      addr != node.address) = some anchor from resort]
    generalize queued.foldl (failParked target (some anchor) now) node = parked at same deposits
    obtain ⟨events, outstanding, untouched⟩ := parked.failRest_core target
    rw [events, outstanding, untouched, same.reports, same.events, same.outstanding, deposits,
      Core.pushEvents_take, drop_left, drop_left]
    have kept {message : Outstanding} (tracked : message ∈ node.transport.outstanding) :
        message ∈ node.transport.outstanding.filter (fun message =>
          !Transport.failsTo target message) ↔ Transport.failsTo target message = false := by
      simp [tracked]
    constructor
    · intro keeps deposit made message tracked envelope
      obtain ⟨still, silent⟩ := keeps deposit made message tracked envelope
      exact ⟨(kept tracked).mp still, silent⟩
    · intro spares deposit made message tracked envelope
      obtain ⟨still, silent⟩ := spares deposit made message tracked envelope
      exact ⟨(kept tracked).mpr still, silent⟩

end Node

end MeshStar

namespace MeshStar

local instance discoveryFailureSuite : Primitives := Transparent.primitives

namespace DiscoveryFailure

open Transparent

/-- An anchor next door. -/
def harbor : Node :=
  Node.new { NodeConfig.default with role := .anchor } (identity 5) generator 0

/-- A node with an anchor next door and the key of a distant destination, to which it sends
an envelope. The envelope waits for a route. -/
def sender : Node :=
  ((relay 1).step (announced harbor 10)).step (.addKnownIdentity (identity 4).publicIdentity)

def waiting : Node := sender.step (.sendMessage (relay 4).address [1, 2, 3] .storeAndForward)

/-- The packets behind the discovery. -/
def parked : List Packet :=
  match waiting.ierp.pending.get (relay 4).address with
  | some discovery => discovery.queued
  | none => []

/-- The node after the discovery failed. -/
def gaveUp : Node := waiting.onDiscoveryFailed (relay 4).address parked 700000

end DiscoveryFailure

open DiscoveryFailure List

/-- The envelope goes to the anchor, and its message is reported as failed and dropped in the
same call. -/
theorem deposited_envelope_reported_failed :
    waiting.transport.outstanding.map Outstanding.handle = [1] ∧
      gaveUp.history.deposits.map (fun deposit => some deposit.envelopeId) =
        waiting.transport.outstanding.map Outstanding.envelopeId ∧
      (gaveUp.events.drop waiting.events.length).any (NodeEvent.concludes 1) = true ∧
      gaveUp.transport.outstanding = [] ∧ ¬waiting.KeepsDeposited gaveUp := by
  have facts : waiting.transport.outstanding.map Outstanding.handle = [1] ∧
      gaveUp.history.deposits.map (fun deposit => some deposit.envelopeId) =
        waiting.transport.outstanding.map Outstanding.envelopeId ∧
      gaveUp.transport.outstanding.length = 0 ∧ waiting.history.deposits.length = 0 := by
    decide +kernel
  obtain ⟨handles, deposits, dropped, fresh⟩ := facts
  have none := eq_nil_of_length_eq_zero dropped
  refine ⟨handles, deposits, by decide +kernel, none, ?_⟩
  intro keeps
  obtain ⟨message, tracked, _⟩ := mem_map.mp (handles ▸ mem_cons_self : (1 : UInt32) ∈
    waiting.transport.outstanding.map Outstanding.handle)
  have envelope : message.envelopeId ∈ waiting.transport.outstanding.map Outstanding.envelopeId :=
    mem_map_of_mem tracked
  rw [← deposits] at envelope
  obtain ⟨deposit, made, same⟩ := mem_map.mp envelope
  have still := (keeps deposit (by rw [fresh]; exact made) message tracked same.symm).1
  rw [none] at still
  cases still

end MeshStar
