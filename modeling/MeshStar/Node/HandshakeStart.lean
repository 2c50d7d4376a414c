import MeshStar.Node.HandshakeEffects
import MeshStar.Transparent

/-!
# A first handshake message that cannot be answered

The responder takes the pending handshake with a peer out of the table, with the sends
queued behind it, before it reads the first message and writes the second. When either
fails the handshake is not put back: the sends are gone, and nobody is told. A peer that
offers an ephemeral key of low order makes the second message fail.
-/

namespace MeshStar

variable [Primitives]

namespace Node

variable {node : Node} {peer : Address} {message : Bytes} {now : Nat}

/-- A restart that gives no second message leaves no handshake with the peer. -/
theorem restartHandshake_refused {queued : List QueuedSend}
    (refused : (node.restartHandshake peer message queued now).2 = none) :
    (node.restartHandshake peer message queued now).1.handshakes = node.handshakes.remove peer := by
  simp only [restartHandshake] at refused ⊢
  split
  · rfl
  · rename_i read
    simp only [read] at refused
    split
    · rfl
    · rename_i written
      simp only [written] at refused
      cases refused

/-- The role in the pending handshake with a peer and the sends behind it. -/
def pendingWith (node : Node) (peer : Address) : Option (NoiseRole × List QueuedSend) :=
  (node.handshakes.get peer).map (fun pending => (pending.hs.role, pending.queued))

/-- A first message that is not answered leaves the pending handshakes, their roles and their
queued sends alone if and only if it does not restart a pending handshake. -/
theorem failed_start_keeps_handshakes_iff (node : Node) (peer : Address) (message : Bytes)
    (now : Nat) (refused : (node.responderStart peer message now).2 = none) :
    (∀ other, (node.responderStart peer message now).1.pendingWith other = node.pendingWith other) ↔
      (node.restarts peer message = true → node.handshakes.get peer = none) := by
  rw [responderStart_eq] at refused ⊢
  cases restarted : node.restarts peer message with
  | false => simp
  | true =>
    simp only [restarted, if_true] at refused
    simp only [if_true, pendingWith, restartHandshake_refused refused, forall_const]
    constructor
    · intro same
      have gone := same peer
      rw [OrderedMap.get_remove_self] at gone
      exact Option.map_eq_none_iff.mp gone.symm
    · intro absent other
      by_cases here : other = peer
      · rw [here, OrderedMap.get_remove_self, absent]
      · rw [OrderedMap.get_remove_of_ne _ here]

end Node

end MeshStar

namespace MeshStar.LowOrder

/-- An exchange with the zero key gives zero, which is not contributory. -/
local instance lowOrderSuite : Primitives :=
  { Transparent.primitives with
    x25519 := fun secret publicKey =>
      if publicKey.val.all (· == 0) then publicKey else Transparent.combine secret publicKey
    wasContributory := fun shared => !shared.val.all (· == 0) }

open Transparent

def peer : Address := (identity 1).address

/-- A node that has opened a handshake for a message. -/
def opening : Node :=
  ((Node.new NodeConfig.default (identity 2) generator 0).startHandshake
    peer 0).pushQueued peer ⟨peer, [7], .acknowledged, 5, 0⟩

/-- A first message whose ephemeral key is zero. -/
def zeroKey : Bytes := List.replicate 32 0

/-- The message behind the handshake is lost to a zero key, without a report. -/
theorem zero_key_drops_queued : (opening.responderStart peer zeroKey 10).2 = none ∧
      (opening.pendingWith peer).map (fun pending => pending.2.map QueuedSend.handle) = some [5] ∧
      (opening.responderStart peer zeroKey 10).1.pendingWith peer = none ∧
      (opening.responderStart peer zeroKey 10).1.events.isEmpty = true := by
  decide +kernel

/-- A first message that is too short leaves every pending handshake as it was. -/
theorem failed_start_keeps_handshakes_short :
    ((opening.responderStart peer [1, 2] 10).2 = none ∧ opening.restarts peer [1, 2] = false) ∧
      ∀ other, (opening.responderStart peer [1, 2] 10).1.pendingWith other =
        opening.pendingWith other := by
  have refused : (opening.responderStart peer [1, 2] 10).2 = none := by decide +kernel
  have stays : opening.restarts peer [1, 2] = false := by decide +kernel
  refine ⟨⟨refused, stays⟩, (Node.failed_start_keeps_handshakes_iff opening peer [1, 2] 10
    refused).mpr ?_⟩
  intro restarted
  cases stays.symm.trans restarted

end MeshStar.LowOrder
