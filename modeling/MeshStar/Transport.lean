import MeshStar.Library.Selection
import MeshStar.Platform

/-!
# Reliable delivery

A tracked message stays in the list of outstanding messages until it is acknowledged,
given up or reported. Retries keep the sequence number, which the receiver's window
uses to deliver a message once.
-/

namespace MeshStar

namespace AckStatus

def delivered : UInt8 := 0
def stored : UInt8 := 1
def rejected : UInt8 := 2

end AckStatus

/-- Decoded acknowledgement payload. -/
structure Ack where
  seq : UInt16
  status : UInt8
  deriving DecidableEq, Repr

namespace Ack

def encode (ack : Ack) : Bytes := BigEndian.encode 2 ack.seq.toNat ++ [ack.status]

def decode (bytes : Bytes) : Except Error Ack :=
  if bytes.length ≠ 3 then .error .truncated
  else if byteAt bytes 2 > AckStatus.rejected then .error .badField
  else .ok ⟨UInt16.ofNat (BigEndian.decode (slice bytes 0 2)), byteAt bytes 2⟩

end Ack

structure TransportConfig where
  maxAttempts : Nat
  initialRtoMs : Nat
  maxRtoMs : Nat
  maxInFlight : Nat
  maxPeers : Nat
  deriving DecidableEq, Repr

def TransportConfig.default : TransportConfig := ⟨4, 4000, 60000, 16, 64⟩

/-- A message awaiting acknowledgement. The copy of the last packet, which only
diagnostics read, is left out. -/
structure Outstanding where
  dst : Address
  seq : UInt16
  handle : UInt32
  reliability : Reliability
  body : Bytes
  attempts : Nat
  nextRetry : Nat
  startedAt : Nat
  envelopeId : Option UInt32
  stored : Bool
  deriving DecidableEq, Repr

/-- Receive window of a peer over sequence numbers. -/
structure SeqWindow where
  top : UInt16
  bitmap : UInt64
  any : Bool
  deriving DecidableEq, Repr

namespace SeqWindow

def default : SeqWindow := ⟨0, 0, false⟩

/-- Record a sequence number; true if it is new. -/
def accept (window : SeqWindow) (seq : UInt16) : SeqWindow × Bool :=
  if !window.any then (⟨seq, 1, true⟩, true)
  else
    let ahead := seq - window.top
    if ahead ≠ 0 ∧ ahead < 0x8000 then
      let shifted := if ahead.toNat ≥ 64 then 0 else window.bitmap <<< ahead.toUInt64
      ({ window with bitmap := shifted ||| 1, top := seq }, true)
    else
      let behind := window.top - seq
      if behind.toNat ≥ 64 then (window, true)
      else if window.bitmap &&& (1 <<< behind.toUInt64) ≠ 0 then (window, false)
      else ({ window with bitmap := window.bitmap ||| (1 <<< behind.toUInt64) }, true)

end SeqWindow

/-- Reliability engine. -/
structure Transport where
  cfg : TransportConfig
  outstanding : List Outstanding
  windows : OrderedMap Address (SeqWindow × Nat)
  seqCounter : UInt16

namespace Transport

def new (cfg : TransportConfig) (firstSeq : UInt16) : Transport :=
  ⟨cfg, [], OrderedMap.empty, firstSeq⟩

/-- Allocate the next sequence number. -/
def nextSeq (transport : Transport) : Transport × UInt16 :=
  let following := transport.seqCounter + 1
  ({ transport with seqCounter := if following = 0 then 1 else following }, transport.seqCounter)

/-- Start tracking a message; false when too many are in flight. -/
def track (transport : Transport) (message : Outstanding) (now : Nat) : Transport × Bool :=
  if transport.outstanding.length ≥ transport.cfg.maxInFlight then (transport, false)
  else
    let tracked := { message with
      attempts := 1
      startedAt := now
      nextRetry := now + transport.cfg.initialRtoMs }
    ({ transport with outstanding := transport.outstanding ++ [tracked] }, true)

/-- Retry timeout of an attempt: exponential, capped, with jitter. -/
def rto (cfg : TransportConfig) (attempts : Nat) (rng : Rng) : Rng × Nat :=
  let base := min (cfg.initialRtoMs * 2 ^ min (attempts - 1) 6) cfg.maxRtoMs
  let drawn := rng.nextU64
  (drawn.1, base + drawn.2 % (base / 2 + 1))

/-- Mark a message as kept by an anchor: never retried again. -/
def markStored (message : Outstanding) : Outstanding :=
  { message with stored := true, nextRetry := timeMax }

/-- Rewrite the first message a test selects. -/
def updateFirst (test : Outstanding → Bool) : List Outstanding → List Outstanding
  | [] => []
  | message :: rest =>
    if test message then markStored message :: rest else message :: updateFirst test rest

/-- Whether an acknowledgement from a peer is about a message. -/
def acknowledges (sender : Address) (ack : Ack) (message : Outstanding) : Bool :=
  message.dst == sender && message.seq == ack.seq

/-- An acknowledgement arrived. Returns the completed message, if any. -/
def onAck (transport : Transport) (sender : Address) (ack : Ack) : Transport × Option Outstanding :=
  match transport.outstanding.find? (acknowledges sender ack) with
  | none => (transport, none)
  | some message =>
    if ack.status = AckStatus.stored then
      ({ transport with
          outstanding := updateFirst (acknowledges sender ack) transport.outstanding }, none)
    else
      ({ transport with
          outstanding := transport.outstanding.eraseP (acknowledges sender ack) }, some message)

/-- Whether a message travels in the envelope with this id. -/
def inEnvelope (envelopeId : UInt32) (message : Outstanding) : Bool :=
  message.envelopeId == some envelopeId

/-- A delivery acknowledgement for an envelope. -/
def onEnvelopeDelivered (transport : Transport) (envelopeId : UInt32) :
    Transport × Option Outstanding :=
  ({ transport with outstanding := transport.outstanding.eraseP (inEnvelope envelopeId) },
    transport.outstanding.find? (inEnvelope envelopeId))

/-- An anchor accepted our envelope. -/
def onStoreAccepted (transport : Transport) (envelopeId : UInt32) : Transport × Bool :=
  ({ transport with outstanding := updateFirst (inEnvelope envelopeId) transport.outstanding },
    transport.outstanding.any (inEnvelope envelopeId))

/-- Whether giving up on a destination drops a message. -/
def failsTo (dst : Address) (message : Outstanding) : Bool :=
  message.dst == dst && !message.stored

/-- Give up on everything addressed to a destination, except what is stored. -/
def failAllTo (transport : Transport) (dst : Address) : Transport × List Outstanding :=
  ({ transport with outstanding := transport.outstanding.filter (fun message =>
      !failsTo dst message) },
    transport.outstanding.filter (failsTo dst))

/-- Result of the retry timers. -/
structure Tick where
  rng : Rng
  kept : List Outstanding
  retry : List Outstanding
  failed : List Outstanding

/-- Advance the timers of the messages in order. -/
def tickList (cfg : TransportConfig) (now : Nat) : List Outstanding → Rng → Tick
  | [], rng => ⟨rng, [], [], []⟩
  | message :: rest, rng =>
    if message.stored then
      let later := tickList cfg now rest rng
      if now - message.startedAt > cfg.maxRtoMs * 8 then
        { later with failed := message :: later.failed }
      else { later with kept := message :: later.kept }
    else if now ≥ message.nextRetry then
      if message.attempts ≥ cfg.maxAttempts then
        let later := tickList cfg now rest rng
        { later with failed := message :: later.failed }
      else
        let attempts := message.attempts + 1
        let drawn := rto cfg attempts rng
        let retried := { message with attempts := attempts, nextRetry := now + drawn.2 }
        let later := tickList cfg now rest drawn.1
        { later with kept := retried :: later.kept, retry := retried :: later.retry }
    else
      let later := tickList cfg now rest rng
      { later with kept := message :: later.kept }

/-- Advance timers: messages to retry and messages that failed permanently. -/
def tick (transport : Transport) (now : Nat) (rng : Rng) : Transport × Tick :=
  let result := tickList transport.cfg now transport.outstanding rng
  ({ transport with outstanding := result.kept }, result)

/-- Postpone a message's timers. -/
def shift (delta : Nat) (message : Outstanding) : Outstanding :=
  { message with
    nextRetry := if message.nextRetry ≠ timeMax then min (message.nextRetry + delta) timeMax
      else message.nextRetry
    startedAt := min (message.startedAt + delta) timeMax }

/-- Postpone every timer, after the node was asleep. -/
def shiftTimers (transport : Transport) (delta : Nat) : Transport :=
  { transport with outstanding := transport.outstanding.map (shift delta) }

/-- Receive-side deduplication. True if the sequence number is new for the peer. -/
def acceptIncoming (transport : Transport) (sender : Address) (seq : UInt16) (now : Nat) :
    Transport × Bool :=
  let room :=
    if !transport.windows.contains sender && transport.windows.size ≥ transport.cfg.maxPeers then
      match Selection.firstMinBy (fun entry : Address × SeqWindow × Nat => entry.2.2)
          transport.windows.entries with
      | some victim => transport.windows.remove victim.1
      | none => transport.windows
    else transport.windows
  let accepted := (room.getOrDefault sender (SeqWindow.default, now)).1.accept seq
  ({ transport with windows := room.insert sender (accepted.1, now) }, accepted.2)

/-- Forget the receive window of a peer. -/
def resetPeer (transport : Transport) (sender : Address) : Transport :=
  { transport with windows := transport.windows.remove sender }

end Transport

end MeshStar
