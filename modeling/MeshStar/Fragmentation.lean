import MeshStar.Library.Selection
import MeshStar.Packet

/-!
# Fragmentation and reassembly

A message larger than a frame is split into chunks that share a fragment id. Every
fragment is a packet of its own. The receiver collects the chunks of a source and
fragment id within bounds on the number of partial messages, their bytes and their age.
-/

namespace MeshStar

/-- The consecutive chunks of a body; `count` of them are taken. -/
def chunks (chunk : Nat) : Nat → Bytes → List Bytes
  | 0, _ => []
  | count + 1, body => body.take chunk :: chunks chunk count (body.drop chunk)

/-- Split a body into fragments of at most `chunk` bytes. Fails beyond 255 fragments. -/
def split (fragId : UInt16) (body : Bytes) (chunk : Nat) : Option (List (FragHeader × Bytes)) :=
  if chunk = 0 then none
  else
    let total := max ((body.length + chunk - 1) / chunk) 1
    if total > 255 then none
    else some ((chunks chunk total body).zipIdx.map (fun part =>
      (⟨fragId, UInt8.ofNat part.2, UInt8.ofNat total⟩, part.1)))

/-- Prepend a fragment header to a chunk. -/
def frameFragment (header : FragHeader) (chunk : Bytes) : Bytes := header.write ++ chunk

/-- A partial message is named by its source and fragment id. -/
structure FragKey where
  src : Address
  fragId : UInt16
  deriving DecidableEq, Repr

instance : KeyRank FragKey where
  rank key := key.src.value.toNat * 2 ^ 16 + key.fragId.toNat
  rank_injective left right same := by
    have leftBound : left.fragId.toNat < 2 ^ 16 := left.fragId.toNat_lt
    have rightBound : right.fragId.toNat < 2 ^ 16 := right.fragId.toNat_lt
    simp only at same
    have sameId : left.fragId = right.fragId := UInt16.toNat_inj.mp (by omega)
    have sameSrc : left.src = right.src :=
      KeyRank.rank_injective (κ := Address) (by simp only [KeyRank.rank]; omega)
    cases left
    cases right
    simp only at sameId sameSrc
    rw [sameId, sameSrc]

/-- The chunks of a partial message. -/
structure FragSet where
  parts : List (Option Bytes)
  received : Nat
  bytes : Nat
  startedAt : Nat
  deriving DecidableEq, Repr

structure ReassemblyConfig where
  maxSets : Nat
  maxBytes : Nat
  timeoutMs : Nat
  deriving DecidableEq, Repr

def ReassemblyConfig.default : ReassemblyConfig := ⟨8, 8 * 1024, 60000⟩

/-- Bounded reassembler. -/
structure Reassembler where
  cfg : ReassemblyConfig
  sets : OrderedMap FragKey FragSet
  bytes : Nat

namespace Reassembler

def new (cfg : ReassemblyConfig) : Reassembler := ⟨cfg, OrderedMap.empty, 0⟩

/-- Delete a partial message and release its bytes. -/
def drop (reassembler : Reassembler) (key : FragKey) (set : FragSet) : Reassembler :=
  { reassembler with sets := reassembler.sets.remove key, bytes := reassembler.bytes - set.bytes }

/-- Delete the partial message that was started first. -/
def evictOldest (reassembler : Reassembler) : Reassembler :=
  match Selection.firstMinBy (fun entry : FragKey × FragSet => entry.2.startedAt)
      reassembler.sets.entries with
  | some entry => reassembler.drop entry.1 entry.2
  | none => reassembler

/-- Make sure a fragment has a set to go to. -/
def open_ (reassembler : Reassembler) (now : Nat) (key : FragKey) (total : Nat) :
    Except Error Reassembler :=
  if reassembler.sets.contains key then .ok reassembler
  else
    let room := if reassembler.sets.size ≥ reassembler.cfg.maxSets then reassembler.evictOldest
      else reassembler
    if room.sets.size ≥ room.cfg.maxSets then .error .full
    else .ok { room with sets := room.sets.insert key ⟨List.replicate total none, 0, 0, now⟩ }

/-- Put a chunk in its slot, completing the message with the last one. -/
def fill (reassembler : Reassembler) (key : FragKey) (set : FragSet) (header : FragHeader)
    (chunk : Bytes) : Reassembler × Except Error (Option Bytes) :=
  if set.parts.length ≠ header.total.toNat then (reassembler.drop key set, .error .badField)
  else if (set.parts.getD header.index.toNat none).isSome then (reassembler, .error .duplicate)
  else if reassembler.bytes + chunk.length > reassembler.cfg.maxBytes then
    (reassembler.drop key set, .error .full)
  else
    let parts := set.parts.set header.index.toNat (some chunk)
    if set.received + 1 = parts.length then
      (reassembler.drop key set, .ok (some (parts.flatMap (fun part => part.getD []))))
    else
      let grown := { set with
        parts := parts
        received := set.received + 1
        bytes := set.bytes + chunk.length }
      ({ reassembler with
          sets := reassembler.sets.insert key grown
          bytes := reassembler.bytes + chunk.length }, .ok none)

/-- Feed a fragment. Returns the complete message when the last piece arrives. -/
def push (reassembler : Reassembler) (now : Nat) (src : Address) (header : FragHeader)
    (chunk : Bytes) : Reassembler × Except Error (Option Bytes) :=
  let key : FragKey := ⟨src, header.fragId⟩
  match reassembler.open_ now key header.total.toNat with
  | .error error =>
    (if reassembler.sets.size ≥ reassembler.cfg.maxSets then reassembler.evictOldest
      else reassembler, .error error)
  | .ok opened =>
    match opened.sets.get key with
    | some set => opened.fill key set header chunk
    | none => (opened, .ok none)

/-- Drop the partial messages that timed out. -/
def expire (reassembler : Reassembler) (now : Nat) : Reassembler :=
  (reassembler.sets.entries.filter (fun entry =>
    now - entry.2.startedAt > reassembler.cfg.timeoutMs)).foldl
      (fun kept entry => kept.drop entry.1 entry.2) reassembler

end Reassembler

end MeshStar
