import MeshStar.Node.Partner
import MeshStar.Node.TimerEffects

/-!
# Identities are bound to addresses

The address of a node is a hash of its public key. Sessions and the key directory are
filled from beacons, handshakes, route replies, envelopes and the application; whatever
the source, an identity is stored under the address it hashes to and no other. The
signature scheme and the AEAD are opaque here: nothing is assumed of them. No session is
with oneself.
-/

namespace MeshStar

open OrderedMap

variable [Primitives]

/-- Every session and every directory entry belongs to the address its identity hashes to. -/
structure Core.Bound (core : Core) : Prop where
  sessions : ∀ peer session, core.sessions.get peer = some session → session.peer.address = peer
  keys : ∀ addr identity, core.keyDir.get addr = some identity → identity.address = addr

namespace Core

/-- Storing an entry under the address its identity hashes to. -/
theorem bound_insert {α : Type} (identity : α → PublicIdentity) {entries : OrderedMap Address α}
    {addr : Address} {stored : α}
    (bound : ∀ other entry, entries.get other = some entry → (identity entry).address = other)
    (hashes : (identity stored).address = addr) (other : Address) (entry : α)
    (found : (entries.insert addr stored).get other = some entry) :
    (identity entry).address = other := by
  by_cases same : other = addr
  · rw [same, get_insert_self] at found
    cases found
    rw [same]
    exact hashes
  · rw [get_insert_of_ne _ _ same] at found
    exact bound other entry found

/-- No effect breaks the binding. Only four of them touch sessions or keys. -/
theorem bound_step {effect : Effect} {before after : Core} (step : CoreStep effect before after)
    (bound : before.Bound) : after.Bound := by
  cases step with
  | advance _ peer session advanced present samePeer sameFlag =>
    refine ⟨bound_insert Session.peer bound.sessions ?_, bound.keys⟩
    rw [samePeer]
    exact bound.sessions peer session present
  | close _ peer =>
    refine ⟨?_, bound.keys⟩
    intro other session found
    rw [get_remove] at found
    split at found
    · cases found
    · exact bound.sessions other session found
  | install _ peer remote epoch keys now hashes foreign =>
    exact ⟨bound_insert Session.peer bound.sessions hashes, bound_insert id bound.keys hashes⟩
  | rekey _ peer handshakes started =>
    refine ⟨?_, bound.keys⟩
    intro other session found
    rw [get_modify] at found
    split at found
    · obtain ⟨earlier, present, same⟩ := Option.map_eq_some_iff.mp found
      rw [← same]
      exact bound.sessions other earlier present
    · exact bound.sessions other session found
  | learn _ addr identity hashes =>
    exact ⟨bound.sessions, bound_insert id bound.keys hashes⟩
  | _ => exact ⟨bound.sessions, bound.keys⟩

end Core

namespace Node

/-- A step keeps the binding. -/
theorem step_bound (node : Node) (operation : Operation) (bound : node.core.Bound) :
    (node.step operation).core.Bound := by
  obtain ⟨receiver, core, _, _, _, moves⟩ := node.step_moves operation
  refine moves.invariant (fun state => state.core.Bound) ?_ ?_
  · rw [core]
    exact bound
  · exact fun _ _ _ _ move kept => Core.bound_step move.core kept

/-- In every state a node reaches from its start, by any sequence of frames, polls and
application calls, the peer of each session and each key of the directory hash to the
address they are stored under. -/
theorem identities_bound (config : NodeConfig) (id : Identity) (rng : Rng) (now : Nat)
    (node : Node) (run : Run Unrestricted (Node.new config id rng now) node) :
    (∀ peer session, node.sessions.get peer = some session → session.peer.address = peer) ∧
      ∀ addr identity, node.keyDir.get addr = some identity → identity.address = addr := by
  have bound : node.core.Bound := by
    refine run.invariant (fun state => state.core.Bound) ?_ ?_
    · refine ⟨?_, ?_⟩
      · intro peer session found
        cases found
      · intro addr identity found
        cases found
    · exact fun before operation _ kept => before.step_bound operation kept
  exact ⟨bound.sessions, bound.keys⟩

variable (operations : List Operation)

/-- Every sequence of operations keeps what every effect keeps of the core. -/
theorem core_kept (property : Core → Prop) {node : Node} (initially : property node.core)
    (kept : ∀ {effect before after}, CoreStep effect before after → property before →
      property after) : property (operations.foldl step node).core := by
  refine operations.foldlRecOn (motive := fun node => property (core node)) _ initially ?_
  intro before holds operation _
  obtain ⟨receiver, core, _, _, _, moves⟩ := before.step_moves operation
  refine moves.invariant (fun node => property node.core) (core ▸ holds) ?_
  exact fun _ _ _ _ move => kept move.core

/-- No sequence of frames, polls and calls gives a node a session with itself. -/
theorem no_session_with_itself (config : NodeConfig) (id : Identity) (rng : Rng) (now : Nat) :
    let node := operations.foldl step (new config id rng now)
    node.sessions.get node.address = none := by
  refine core_kept operations (fun core => core.sessions.get core.address = none) rfl ?_
  intro _ before _ step absent
  cases step with
  | advance _ peer session advanced present =>
    have other : before.address ≠ peer := by
      intro same
      cases absent.symm.trans (same ▸ present)
    exact (get_insert_of_ne _ _ other).trans absent
  | install _ peer remote epoch keys now bound foreign =>
    exact (get_insert_of_ne _ _ foreign.symm).trans absent
  | close | rekey => simp [get_remove, get_modify, absent]
  | _ => exact absent

end Node

end MeshStar

namespace MeshStar

local instance bindingSuite : Primitives := Transparent.primitives

open Transparent

namespace Binding

def started (byte : UInt8) : Node := Node.new NodeConfig.default (identity byte) generator 0

/-- The first beacon of node 3, which it signs. -/
def beaconFrame : Bytes := (((started 3).sendBeacon 5).txQueue.map TxItem.frame).headD []

/-- Node 1 once it has established a session with node 2 and heard the beacon of node 3. -/
def met : Node :=
  (Partner.meet (identity 2) (started 1) 10).2.step (.receive beaconFrame (heardAt 20))

/-- Both are known under their addresses, as the law says. -/
theorem identities_bound_met :
    met.keyDir.get (identity 3).address = some (identity 3).publicIdentity ∧
      (∃ session, met.sessions.get (identity 2).address = some session ∧
        session.peer.address = (identity 2).address) ∧
      ∀ addr identity, met.keyDir.get addr = some identity → identity.address = addr := by
  have facts : met.keyDir.get (identity 3).address = some (identity 3).publicIdentity ∧
      (met.sessions.get (identity 2).address).isSome = true := by decide +kernel
  obtain ⟨session, found⟩ := Option.isSome_iff_exists.mp facts.2
  have bound := Node.identities_bound NodeConfig.default (identity 1) generator 0 met
    (.step _ Partner.meet_run trivial)
  exact ⟨facts.1, ⟨session, found, bound.1 _ session found⟩, bound.2⟩

end Binding

end MeshStar
