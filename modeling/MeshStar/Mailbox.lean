import MeshStar.Library.Selection
import MeshStar.Noise

/-!
# Store and forward

A mailbox keeps sealed envelopes for nodes that are unreachable. It sees destination,
envelope id and expiry, never the content. It is bounded in entries, bytes and entries
for each destination.
-/

namespace MeshStar

open List

/-- Store request payload. -/
structure StoreRequest where
  dst : Address
  envelopeId : UInt32
  ttlS : UInt32
  envelope : Bytes
  deriving DecidableEq, Repr

namespace StoreRequest

def headerLen : Nat := 16

def encode (request : StoreRequest) : Bytes :=
  request.dst.asBytes ++ BigEndian.encode 4 request.envelopeId.toNat ++
    BigEndian.encode 4 request.ttlS.toNat ++ request.envelope

def decode (bytes : Bytes) : Except Error StoreRequest := do
  if bytes.length < headerLen + envelopeOverhead then throw .truncated
  let dst ← Address.fromBytes (bytes.take 8)
  if dst.isNull || dst.isBroadcast then throw .badField
  let ttlS := UInt32.ofNat (BigEndian.decode (slice bytes 12 16))
  if ttlS = 0 then throw .badField
  return ⟨dst, UInt32.ofNat (BigEndian.decode (slice bytes 8 12)), ttlS, bytes.drop 16⟩

end StoreRequest

/-- Envelope framing: the envelope id in front of the envelope. -/
def frameEnvelope (envelopeId : UInt32) (envelope : Bytes) : Bytes :=
  BigEndian.encode 4 envelopeId.toNat ++ envelope

def parseEnvelopeFrame (bytes : Bytes) : Except Error (UInt32 × Bytes) :=
  if bytes.length < 4 + envelopeOverhead then .error .truncated
  else .ok (UInt32.ofNat (BigEndian.decode (bytes.take 4)), bytes.drop 4)

/-- A stored envelope. Who deposited it and when are kept for accounting only. -/
structure StoredEnvelope where
  dst : Address
  envelopeId : UInt32
  depositor : Address
  storedAt : Nat
  expiresAt : Nat
  deliveryAttempts : Nat
  lastAttempt : Nat
  envelope : Bytes
  deriving DecidableEq, Repr

/-- What mail is filed under. -/
def StoredEnvelope.key (entry : StoredEnvelope) : Address × UInt32 := (entry.dst, entry.envelopeId)

/-- The same mail, up to the count and time of its delivery attempts. -/
structure StoredEnvelope.SameMail (one other : StoredEnvelope) : Prop where
  dst : one.dst = other.dst
  envelopeId : one.envelopeId = other.envelopeId
  depositor : one.depositor = other.depositor
  storedAt : one.storedAt = other.storedAt
  expiresAt : one.expiresAt = other.expiresAt
  envelope : one.envelope = other.envelope

theorem StoredEnvelope.SameMail.refl (entry : StoredEnvelope) : entry.SameMail entry :=
  ⟨rfl, rfl, rfl, rfl, rfl, rfl⟩

theorem StoredEnvelope.SameMail.trans {one two three : StoredEnvelope} (first : one.SameMail two)
    (second : two.SameMail three) : one.SameMail three :=
  ⟨first.dst.trans second.dst, first.envelopeId.trans second.envelopeId,
    first.depositor.trans second.depositor, first.storedAt.trans second.storedAt,
    first.expiresAt.trans second.expiresAt, first.envelope.trans second.envelope⟩

structure MailboxConfig where
  maxEntries : Nat
  maxBytes : Nat
  maxPerDestination : Nat
  maxTtlMs : Nat
  maxDeliveryAttempts : Nat
  retryIntervalMs : Nat
  deriving DecidableEq, Repr

def MailboxConfig.default : MailboxConfig :=
  ⟨64, 16 * 1024, 8, 7 * 24 * 3600 * 1000, 6, 30000⟩

namespace RejectReason

def full : UInt8 := 1
def perDestinationLimit : UInt8 := 2
def duplicate : UInt8 := 3
def notAnchor : UInt8 := 4

end RejectReason

/-- Bounded encrypted mailbox. -/
structure Mailbox where
  cfg : MailboxConfig
  entries : List StoredEnvelope
  bytes : Nat
  deriving DecidableEq, Repr

namespace Mailbox

variable {mailbox : Mailbox} (cfg : MailboxConfig) {stored : Mailbox} (dst : Address)
  (now maximum : Nat)

def new (cfg : MailboxConfig) : Mailbox := ⟨cfg, [], 0⟩

def hasSpace (mailbox : Mailbox) : Bool :=
  mailbox.entries.length < mailbox.cfg.maxEntries && mailbox.bytes < mailbox.cfg.maxBytes

/-- Whether an entry is the one for a destination and envelope id. -/
def isFor (dst : Address) (envelopeId : UInt32) (entry : StoredEnvelope) : Bool :=
  entry.dst == dst && entry.envelopeId == envelopeId

/-- Store an envelope. Returns the rejection reason on failure. -/
def store (mailbox : Mailbox) (now : Nat) (depositor : Address) (request : StoreRequest) :
    Mailbox × Except UInt8 Unit :=
  if mailbox.entries.any (isFor request.dst request.envelopeId) then
    (mailbox, .error RejectReason.duplicate)
  else if (mailbox.entries.filter (fun entry => entry.dst == request.dst)).length ≥
      mailbox.cfg.maxPerDestination then
    (mailbox, .error RejectReason.perDestinationLimit)
  else if mailbox.entries.length ≥ mailbox.cfg.maxEntries ∨
      mailbox.bytes + request.envelope.length > mailbox.cfg.maxBytes then
    (mailbox, .error RejectReason.full)
  else
    let ttl := min (request.ttlS.toNat * 1000) mailbox.cfg.maxTtlMs
    let entry : StoredEnvelope :=
      ⟨request.dst, request.envelopeId, depositor, now, now + ttl, 0, 0, request.envelope⟩
    ({ mailbox with
        entries := mailbox.entries ++ [entry]
        bytes := mailbox.bytes + request.envelope.length }, .ok ())

variable {depositor : Address} {request : StoreRequest} {entry : StoredEnvelope}

/-- A refused envelope leaves the mailbox as it was. -/
theorem store_refused {now : Nat} {reason : UInt8}
    (refused : mailbox.store now depositor request = (stored, .error reason)) :
    stored = mailbox := by
  unfold store at refused
  split at refused
  · cases refused
    rfl
  · split at refused
    · cases refused
      rfl
    · split at refused
      · cases refused
        rfl
      · cases refused

/-- An accepted envelope is appended, and nothing else changes. -/
theorem store_accepted {now : Nat}
    (accepted : mailbox.store now depositor request = (stored, .ok ())) :
    ∃ entry : StoredEnvelope, entry.dst = request.dst ∧ entry.envelopeId = request.envelopeId ∧
      entry.envelope = request.envelope ∧ stored.entries = mailbox.entries ++ [entry] := by
  unfold store at accepted
  split at accepted
  · cases accepted
  · split at accepted
    · cases accepted
    · split at accepted
      · cases accepted
      · cases accepted
        exact ⟨_, rfl, rfl, rfl, rfl⟩

/-- Accepting mail keeps the mail that is there. -/
theorem store_keeps {now : Nat} (accepted : mailbox.store now depositor request = (stored, .ok ()))
    (member : entry ∈ mailbox.entries) : entry ∈ stored.entries := by
  obtain ⟨_, _, _, _, appended⟩ := store_accepted accepted
  rw [appended]
  exact mem_append_left _ member

/-- Exactly the deposits for a destination and envelope id that are present already are
refused as duplicates. -/
theorem store_outcome (mailbox : Mailbox) (now : Nat) (depositor : Address)
    (request : StoreRequest) :
    (mailbox.entries.any (isFor request.dst request.envelopeId) = true ∧
      mailbox.store now depositor request = (mailbox, .error RejectReason.duplicate)) ∨
    (mailbox.entries.any (isFor request.dst request.envelopeId) = false ∧
      ((∃ stored, mailbox.store now depositor request = (stored, .ok ())) ∨
        ∃ reason, mailbox.store now depositor request = (mailbox, .error reason) ∧
          reason ≠ RejectReason.duplicate)) := by
  unfold store
  cases taken : mailbox.entries.any (isFor request.dst request.envelopeId) with
  | true => exact .inl ⟨rfl, rfl⟩
  | false =>
    refine .inr ⟨rfl, ?_⟩
    simp only [Bool.false_eq_true, if_false]
    split
    · exact .inr ⟨_, rfl, by decide⟩
    · split
      · exact .inr ⟨_, rfl, by decide⟩
      · exact .inl ⟨_, rfl⟩

/-- Whether an entry may be tried for a destination now. -/
def deliverable (cfg : MailboxConfig) (dst : Address) (now : Nat) (entry : StoredEnvelope) : Bool :=
  entry.dst == dst &&
    !(entry.deliveryAttempts > 0 && now - entry.lastAttempt < cfg.retryIntervalMs) &&
    entry.deliveryAttempts < cfg.maxDeliveryAttempts

/-- Count a delivery attempt. -/
def attempt (now : Nat) (entry : StoredEnvelope) : StoredEnvelope :=
  { entry with deliveryAttempts := entry.deliveryAttempts + 1, lastAttempt := now }

/-- Mark the first `maximum` deliverable entries and collect their envelopes. -/
def takeFrom (cfg : MailboxConfig) (dst : Address) (now : Nat) : Nat → List StoredEnvelope →
    List StoredEnvelope × List (UInt32 × Bytes)
  | 0, entries => (entries, [])
  | _ + 1, [] => ([], [])
  | maximum + 1, entry :: rest =>
    if deliverable cfg dst now entry then
      let later := takeFrom cfg dst now maximum rest
      (attempt now entry :: later.1, (entry.envelopeId, entry.envelope) :: later.2)
    else
      let later := takeFrom cfg dst now (maximum + 1) rest
      (entry :: later.1, later.2)

/-- Envelopes for a destination that may be tried now. Marks the attempts. -/
def takeDeliverable (mailbox : Mailbox) (dst : Address) (now maximum : Nat) :
    Mailbox × List (UInt32 × Bytes) :=
  let taken := takeFrom mailbox.cfg dst now maximum mailbox.entries
  ({ mailbox with entries := taken.1 }, taken.2)

/-- A delivery attempt changes nothing else about the mail. -/
theorem attempt_sameMail (entry : StoredEnvelope) : (attempt now entry).SameMail entry :=
  ⟨rfl, rfl, rfl, rfl, rfl, rfl⟩

/-- Taking envelopes for delivery keeps every entry. -/
theorem takeFrom_keeps {entries : List StoredEnvelope} (member : entry ∈ entries) :
    ∃ kept ∈ (takeFrom cfg dst now maximum entries).1, kept.SameMail entry := by
  induction entries generalizing maximum with
  | nil => cases member
  | cons head rest ih =>
    cases maximum with
    | zero => exact ⟨entry, member, .refl entry⟩
    | succ maximum =>
      unfold takeFrom
      split
      · rcases mem_cons.mp member with rfl | later
        · exact ⟨_, mem_cons_self, attempt_sameMail now entry⟩
        · obtain ⟨kept, keptMember, same⟩ := ih maximum later
          exact ⟨kept, mem_cons_of_mem _ keptMember, same⟩
      · rcases mem_cons.mp member with rfl | later
        · exact ⟨_, mem_cons_self, .refl entry⟩
        · obtain ⟨kept, keptMember, same⟩ := ih (maximum + 1) later
          exact ⟨kept, mem_cons_of_mem _ keptMember, same⟩

/-- At most as many envelopes are taken as asked for. -/
theorem takeFrom_length (entries : List StoredEnvelope) :
    (takeFrom cfg dst now maximum entries).2.length ≤ maximum := by
  induction entries generalizing maximum with
  | nil => cases maximum <;> simp [takeFrom]
  | cons head rest ih =>
    cases maximum with
    | zero => exact Nat.le_refl 0
    | succ maximum =>
      unfold takeFrom
      split
      · exact Nat.succ_le_succ (ih maximum)
      · exact ih (maximum + 1)

/-- Taking envelopes for delivery leaves the mail filed as it was. -/
theorem takeFrom_keys (entries : List StoredEnvelope) :
    (takeFrom cfg dst now maximum entries).1.map StoredEnvelope.key =
      entries.map StoredEnvelope.key := by
  induction entries generalizing maximum with
  | nil => cases maximum <;> rfl
  | cons head rest ih =>
    cases maximum with
    | zero => rfl
    | succ maximum =>
      unfold takeFrom
      split
      · exact congrArg (head.key :: ·) (ih maximum)
      · exact congrArg (head.key :: ·) (ih (maximum + 1))

/-- Destinations with pending mail, in address order. -/
def destinations (mailbox : Mailbox) : List Address :=
  (mailbox.entries.foldl (fun map entry => map.insert entry.dst ())
    (OrderedMap.empty : OrderedMap Address Unit)).keys

/-- The destination acknowledged an envelope: delete it. -/
def delivered (mailbox : Mailbox) (dst : Address) (envelopeId : UInt32) : Mailbox × Bool :=
  match mailbox.entries.find? (isFor dst envelopeId) with
  | some entry =>
    ({ mailbox with
        entries := mailbox.entries.eraseP (isFor dst envelopeId)
        bytes := mailbox.bytes - entry.envelope.length }, true)
  | none => (mailbox, false)

/-- A deletion removes at most the first entry for its destination and envelope id. -/
theorem delivered_keeps (dst : Address) (envelopeId : UInt32) (member : entry ∈ mailbox.entries) :
    entry ∈ (mailbox.delivered dst envelopeId).1.entries ∨
      mailbox.entries.find? (isFor dst envelopeId) = some entry := by
  unfold delivered
  split
  · exact Selection.mem_eraseP_or_found member
  · exact .inl member

/-- Whether garbage collection keeps an entry. -/
def live (cfg : MailboxConfig) (now : Nat) (entry : StoredEnvelope) : Bool :=
  entry.expiresAt > now && entry.deliveryAttempts < cfg.maxDeliveryAttempts

/-- Drop expired and exhausted envelopes. -/
def gc (mailbox : Mailbox) (now : Nat) : Mailbox :=
  let gone := mailbox.entries.filter (fun entry => !live mailbox.cfg now entry)
  { mailbox with
    entries := mailbox.entries.filter (live mailbox.cfg now)
    bytes := mailbox.bytes - (gone.map (fun entry => entry.envelope.length)).sum }

/-- No two entries share destination and envelope id. -/
def Distinct (mailbox : Mailbox) : Prop := (mailbox.entries.map StoredEnvelope.key).Nodup

theorem store_distinct {now : Nat}
    (accepted : mailbox.store now depositor request = (stored, .ok ()))
    (distinct : mailbox.Distinct) : stored.Distinct := by
  obtain ⟨entry, sameDst, sameId, _, appended⟩ := store_accepted accepted
  have free : entry.key ∉ mailbox.entries.map StoredEnvelope.key := by
    intro taken
    obtain ⟨other, member, same⟩ := mem_map.mp taken
    rcases mailbox.store_outcome now depositor request with ⟨_, duplicate⟩ | ⟨none, _⟩
    · cases accepted.symm.trans duplicate
    · refine any_eq_false.mp none other member ?_
      rw [StoredEnvelope.key, StoredEnvelope.key, Prod.mk.injEq, sameDst, sameId] at same
      simp [isFor, same.1, same.2]
  unfold Distinct
  rw [appended, map_append, map_singleton]
  refine nodup_append.mpr ⟨distinct, pairwise_singleton _ _, ?_⟩
  intro key member new isNew same
  rw [mem_singleton.mp isNew] at same
  exact free (same ▸ member)

theorem takeDeliverable_distinct
    (distinct : mailbox.Distinct) : (mailbox.takeDeliverable dst now maximum).1.Distinct := by
  unfold Distinct takeDeliverable
  rw [takeFrom_keys]
  exact distinct

theorem gc_distinct (distinct : mailbox.Distinct) : (mailbox.gc now).Distinct :=
  distinct.sublist (filter_sublist.map _)

theorem delivered_distinct (envelopeId : UInt32)
    (distinct : mailbox.Distinct) : (mailbox.delivered dst envelopeId).1.Distinct := by
  unfold delivered
  split
  · exact distinct.sublist (eraseP_sublist.map _)
  · exact distinct

/-- In a mailbox without duplicates a deletion leaves nothing under its key. -/
theorem delivered_removes (distinct : mailbox.Distinct) {dst : Address} {envelopeId : UInt32} :
    ∀ entry ∈ (mailbox.delivered dst envelopeId).1.entries, entry.key ≠ (dst, envelopeId) := by
  have selects (entry : StoredEnvelope) :
      isFor dst envelopeId entry = true ↔ entry.key = (dst, envelopeId) := by
    simp [isFor, StoredEnvelope.key]
  unfold delivered
  split
  · exact Selection.eraseP_unique distinct selects
  · rename_i none
    intro entry member same
    exact List.find?_eq_none.mp none entry member ((selects entry).mpr same)

end Mailbox

/-- Body of a store answer after its sub-type byte. -/
def encodeStoreResult (envelopeId : UInt32) (reason : Option UInt8) : Bytes :=
  BigEndian.encode 4 envelopeId.toNat ++ reason.toList

def decodeStoreResult (bytes : Bytes) : Except Error (UInt32 × Option UInt8) :=
  if bytes.length < 4 then .error .truncated
  else
    let envelopeId := UInt32.ofNat (BigEndian.decode (bytes.take 4))
    match bytes.length with
    | 4 => .ok (envelopeId, none)
    | 5 => .ok (envelopeId, some (byteAt bytes 4))
    | _ => .error .badField

end MeshStar
