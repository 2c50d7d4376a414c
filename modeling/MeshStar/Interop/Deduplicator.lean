import MeshStar.Interop.Model

/-!
# Protocol independent deduplication

A message is known by up to three keys: its source and native identifier, its canonical
digest, and the digest of its text alone, without the sender a gateway put in front. Each
key is kept with the time it was recorded, until it is older than the window or the queue
of recorded entries is full and its entry is the oldest.
-/

namespace MeshStar

/-- What one recorded entry put into the maps. -/
abbrev DedupEntry := Option Text × Option Digest

structure Deduplicator where
  cap : Nat
  ttlMs : Nat
  byId : OrderedMap Text Nat
  byDigest : OrderedMap Digest Nat
  order : List DedupEntry
  duplicates : Nat

namespace Deduplicator

def new (cap ttlMs : Nat) : Deduplicator := ⟨max cap 1, ttlMs, .empty, .empty, [], 0⟩

/-- The native identifier, qualified by the source. -/
def idKey (message : UnifiedMessage) : Option Text :=
  if message.messageId.isEmpty then none
  else some (message.source.canonical ++ "/".toList ++ message.messageId)

/-- The text without the sender in front of it. -/
def withoutSender (text : Text) : Text :=
  match text with
  | '[' :: _ =>
    match Utf8.splitOnce "] ".toList text with
    | some (_, rest) => rest
    | none => text
  | _ => text

/-- The two-minute interval of a timestamp. -/
def bucketBytes : Option UInt32 → Bytes
  | some time => BigEndian.encode 4 (time.toNat / 120)
  | none => []

/-- The queue and the maps after the oldest entries were dropped until there is room. -/
def evictGo (cap : Nat) (byId : OrderedMap Text Nat) (byDigest : OrderedMap Digest Nat) :
    List DedupEntry → OrderedMap Text Nat × OrderedMap Digest Nat × List DedupEntry
  | [] => (byId, byDigest, [])
  | entry :: rest =>
    if rest.length + 1 ≥ cap then
      let ids := match entry.1 with
        | some id => byId.remove id
        | none => byId
      let digests := match entry.2 with
        | some digest => byDigest.remove digest
        | none => byDigest
      evictGo cap ids digests rest
    else (byId, byDigest, entry :: rest)

def evict (dedup : Deduplicator) : Deduplicator :=
  let kept := evictGo dedup.cap dedup.byId dedup.byDigest dedup.order
  { dedup with byId := kept.1, byDigest := kept.2.1, order := kept.2.2 }

/-- Forget the keys that are older than the window. -/
def expire (dedup : Deduplicator) (now : Nat) : Deduplicator :=
  { dedup with
    byId := dedup.byId.retain (fun _ time => now - time ≤ dedup.ttlMs)
    byDigest := dedup.byDigest.retain (fun _ time => now - time ≤ dedup.ttlMs) }

/-- Record a digest the gateway produced itself. -/
def rememberDigest (dedup : Deduplicator) (digest : Digest) (now : Nat) : Deduplicator :=
  { dedup with
    byDigest := dedup.byDigest.insert digest now
    order := dedup.order ++ [(none, some digest)] }

/-- Record the keys of a new message: the text digest first, then, behind the eviction,
the others. -/
def record (dedup : Deduplicator) (id : Option Text) (digest : Digest) (text : Option Digest)
    (now : Nat) : Deduplicator :=
  let texted := match text with
    | some key => dedup.rememberDigest key now
    | none => dedup
  let roomy := texted.evict
  let ids := match id with
    | some key => roomy.byId.insert key now
    | none => roomy.byId
  { roomy with
    byId := ids
    byDigest := roomy.byDigest.insert digest now
    order := roomy.order ++ [(id, some digest)] }

/-- Whether one of the keys of a message is known. -/
def known (dedup : Deduplicator) (id : Option Text) (digest : Digest) (text : Option Digest) :
    Bool :=
  (match id with
    | some key => dedup.byId.contains key
    | none => false) ||
  dedup.byDigest.contains digest ||
  (match text with
    | some key => dedup.byDigest.contains key
    | none => false)

variable [Primitives]

/-- The bytes under the text digest. -/
def textInput (text : Text) (timestamp : Option UInt32) : Bytes :=
  ascii "MeshStar/text/v1" ++ Utf8.encode (withoutSender text) ++ bucketBytes timestamp

/-- Digest of the text alone, used to recognise a message after it crossed a bridge. -/
def textDigest (message : UnifiedMessage) : Option Digest :=
  message.textPayload.map (fun text =>
    FixedBytes.ofSlice 16 (Primitives.sha256 (textInput text message.timestamp)).val)

/-- Whether the message is new; a new one is recorded. -/
def observe (dedup : Deduplicator) (message : UnifiedMessage) (now : Nat) :
    Deduplicator × Bool :=
  let fresh := dedup.expire now
  if fresh.known (idKey message) message.canonicalDigest (textDigest message) then
    ({ fresh with duplicates := fresh.duplicates + 1 }, false)
  else (fresh.record (idKey message) message.canonicalDigest (textDigest message) now, true)

end Deduplicator

end MeshStar
