import MeshStar.Interop.Deduplicator
import MeshStar.Transparent

/-!
# How long the deduplicator remembers

A key stays known until it is older than the window or until an entry of the queue that
names it is dropped. The entries are dropped oldest first. Hence a key that only young
entries name is safe as long as these young entries are fewer than the queue holds.

A key can leave the maps by age while its entry stays in the queue. When the message is
recorded again, the queue names the key twice, and dropping the older entry forgets the
younger record. A recorded message is therefore certain to be recognised only when the
entries dropped meanwhile do not name one of its keys.

The third key ignores the sender, so a text is also taken for a copy of a stranger's text
that says the same at about the same time, and of no other text.
-/

namespace MeshStar

open List OrderedMap

/-- A key of a message. -/
inductive DedupKey where
  | id (key : Text)
  | digest (key : Digest)
  deriving DecidableEq

/-- Whether an entry put a key into the maps. -/
def DedupEntry.names (entry : DedupEntry) : DedupKey → Prop
  | .id key => entry.1 = some key
  | .digest key => entry.2 = some key

instance (entry : DedupEntry) (key : DedupKey) : Decidable (entry.names key) := by
  cases key
  all_goals
    unfold DedupEntry.names
    infer_instance

namespace Deduplicator

variable {dedup : Deduplicator} {entry : DedupEntry} {key : DedupKey} {now since : Nat}

/-- When a key was recorded, if it is known. -/
def timeOf (dedup : Deduplicator) : DedupKey → Option Nat
  | .id key => dedup.byId.get key
  | .digest key => dedup.byDigest.get key

/-- The keys a message is recognised by. -/
def keysFor (id : Option Text) (digest : Digest) (text : Option Digest) : List DedupKey :=
  id.toList.map .id ++ .digest digest :: text.toList.map .digest

/-- A message is known when one of its keys is. -/
theorem known_iff {dedup : Deduplicator} {id : Option Text} {digest : Digest}
    {text : Option Digest} :
    dedup.known id digest text = true ↔
      ∃ key ∈ keysFor id digest text, (dedup.timeOf key).isSome = true := by
  cases id <;> cases text <;>
    simp [known, keysFor, timeOf, OrderedMap.contains, or_assoc]

/-- The state after the oldest entry was dropped. -/
def drop (dedup : Deduplicator) (entry : DedupEntry) (rest : List DedupEntry) : Deduplicator :=
  { dedup with
    byId := match entry.1 with
      | some id => dedup.byId.remove id
      | none => dedup.byId
    byDigest := match entry.2 with
      | some digest => dedup.byDigest.remove digest
      | none => dedup.byDigest
    order := rest }

/-- Dropping an entry forgets only what it names. -/
theorem drop_timeOf {dedup : Deduplicator} {rest : List DedupEntry} (unnamed : ¬ entry.names key) :
    (dedup.drop entry rest).timeOf key = dedup.timeOf key := by
  cases key with
  | id key =>
    cases named : entry.1 with
    | none => simp only [timeOf, drop, named]
    | some other =>
      have distinct : key ≠ other := by
        rintro rfl
        exact unnamed named
      simp only [timeOf, drop, named, get_remove_of_ne _ distinct]
  | digest key =>
    cases named : entry.2 with
    | none => simp only [timeOf, drop, named]
    | some other =>
      have distinct : key ≠ other := by
        rintro rfl
        exact unnamed named
      simp only [timeOf, drop, named, get_remove_of_ne _ distinct]

theorem evict_nil (empty : dedup.order = []) : dedup.evict = dedup := by
  unfold evict
  rw [empty, evictGo]
  cases dedup
  simp only at empty
  rw [empty]

theorem evict_full {rest : List DedupEntry} (queued : dedup.order = entry :: rest)
    (full : dedup.cap ≤ rest.length + 1) :
    dedup.evict = (dedup.drop entry rest).evict := by
  unfold evict
  rw [queued, evictGo, if_pos full]
  rfl

theorem evict_room {rest : List DedupEntry} (queued : dedup.order = entry :: rest)
    (room : rest.length + 1 < dedup.cap) :
    dedup.evict = dedup := by
  unfold evict
  rw [queued, evictGo, if_neg (Nat.not_le.mpr room), ← queued]

/-- Eviction keeps the young entries when they fit, and every key that no older entry
names. -/
theorem evict_keeps (older : List DedupEntry) {young : List DedupEntry}
    (queued : dedup.order = older ++ young) (fits : young.length < dedup.cap)
    (unnamed : ∀ entry ∈ older, ¬ entry.names key) :
    dedup.evict.timeOf key = dedup.timeOf key ∧
      ∃ remaining, dedup.evict.order = remaining ++ young ∧
        ∀ entry ∈ remaining, ¬ entry.names key := by
  induction older generalizing dedup with
  | nil =>
    have same : dedup.evict = dedup := by
      cases young with
      | nil => exact evict_nil queued
      | cons entry rest => exact evict_room queued fits
    rw [same]
    exact ⟨rfl, [], queued, unnamed⟩
  | cons entry rest ih =>
    have queuedCons : dedup.order = entry :: (rest ++ young) := queued
    by_cases full : dedup.cap ≤ (rest ++ young).length + 1
    · rw [evict_full queuedCons full]
      have tail : (dedup.drop entry (rest ++ young)).order = rest ++ young := rfl
      obtain ⟨known, kept⟩ := ih tail fits
        (fun other member => unnamed other (mem_cons_of_mem _ member))
      rw [known, drop_timeOf (unnamed entry mem_cons_self)]
      exact ⟨rfl, kept⟩
    · rw [evict_room queuedCons (Nat.lt_of_not_le full)]
      exact ⟨rfl, entry :: rest, queued, unnamed⟩

/-- A key known since a time, named by none but the last entries of the queue. -/
structure Resident (dedup : Deduplicator) (key : DedupKey) (since young : Nat) : Prop where
  known : ∃ time, dedup.timeOf key = some time ∧ since ≤ time
  queued : ∃ older latest, dedup.order = older ++ latest ∧ latest.length ≤ young ∧
    ∀ entry ∈ older, ¬ entry.names key

namespace Resident

variable {young : Nat}

/-- A key within the window does not expire. -/
theorem expire (resident : Resident dedup key since young) (recent : now - since ≤ dedup.ttlMs)
    : Resident (dedup.expire now) key since young := by
  obtain ⟨time, known, after⟩ := resident.known
  refine ⟨⟨time, ?_, after⟩, resident.queued⟩
  have inside : decide (now - time ≤ dedup.ttlMs) = true := decide_eq_true (by omega)
  cases key with
  | id key => exact (get_retain_eq_some_iff _).mpr ⟨known, inside⟩
  | digest key => exact (get_retain_eq_some_iff _).mpr ⟨known, inside⟩

/-- The queue grows by one entry at its end. -/
theorem queue_append {order : List DedupEntry} {entry : DedupEntry}
    (queued : ∃ older latest, order = older ++ latest ∧ latest.length ≤ young ∧
      ∀ other ∈ older, ¬ other.names key) :
    ∃ older latest, order ++ [entry] = older ++ latest ∧ latest.length ≤ young + 1 ∧
      ∀ other ∈ older, ¬ other.names key := by
  obtain ⟨older, latest, split, few, unnamed⟩ := queued
  refine ⟨older, latest ++ [entry], ?_, ?_, unnamed⟩
  · rw [split, append_assoc]
  · rw [length_append, length_singleton]
    omega

/-- Storing a key later keeps what is known at least as recent. -/
theorem insert_time {κ : Type} [KeyRank κ] {map : OrderedMap κ Nat} {key stored : κ}
    (known : ∃ time, map.get key = some time ∧ since ≤ time) (forward : since ≤ now) :
    ∃ time, (map.insert stored now).get key = some time ∧ since ≤ time := by
  by_cases same : key = stored
  · subst same
    exact ⟨now, get_insert_self _ _ _, forward⟩
  · rw [get_insert_of_ne _ _ same]
    exact known

variable (resident : Resident dedup key since young)

include resident

/-- Recording a digest of one's own adds one young entry. -/
theorem rememberDigest (digest : Digest) (forward : since ≤ now) :
    Resident (dedup.rememberDigest digest now) key since (young + 1) := by
  refine ⟨?_, queue_append resident.queued⟩
  cases key with
  | id key => exact resident.known
  | digest key => exact insert_time resident.known forward

/-- Eviction keeps a key whose young entries fit in the queue. -/
theorem evict (fits : young < dedup.cap) : Resident dedup.evict key since young := by
  obtain ⟨older, latest, split, few, unnamed⟩ := resident.queued
  obtain ⟨same, remaining, kept, unnamed⟩ :=
    evict_keeps older split (Nat.lt_of_le_of_lt few fits) unnamed
  exact ⟨by rw [same]; exact resident.known, remaining, latest, kept, few, unnamed⟩

/-- The last entry of a record comes behind the eviction. -/
theorem record_last (fits : young < dedup.cap)
    (forward : since ≤ now) (id : Option Text) (digest : Digest) :
    Resident { dedup.evict with
      byId := match id with
        | some key => dedup.evict.byId.insert key now
        | none => dedup.evict.byId
      byDigest := dedup.evict.byDigest.insert digest now
      order := dedup.evict.order ++ [(id, some digest)] } key since (young + 1) := by
  have roomy := resident.evict fits
  refine ⟨?_, queue_append roomy.queued⟩
  cases key with
  | id key =>
    cases id with
    | none => exact roomy.known
    | some other => exact insert_time roomy.known forward
  | digest key => exact insert_time roomy.known forward

/-- Recording another message adds its entries. -/
theorem record (forward : since ≤ now) (id : Option Text) (digest : Digest) (text : Option Digest)
    (fits : young + text.toList.length < dedup.cap) :
    Resident (dedup.record id digest text now) key since (young + text.toList.length + 1) := by
  cases text with
  | none => exact resident.record_last fits forward id digest
  | some digestOfText =>
    exact (resident.rememberDigest digestOfText forward).record_last fits forward id digest

end Resident

theorem toList_length_le {α : Type} (option : Option α) : option.toList.length ≤ 1 := by
  cases option with
  | none => exact Nat.zero_le _
  | some value => exact Nat.le_refl _

/-- The entries of a record, seen from a key that none but the last entries name. -/
theorem record_resident {id : Option Text} {digest : Digest} {text : Option Digest} {young : Nat}
    (room : young + text.toList.length < dedup.cap) (own : key ∈ keysFor id digest text)
    (queued : ∃ older latest, dedup.order = older ++ latest ∧ latest.length ≤ young ∧
      ∀ entry ∈ older, ¬ entry.names key) :
    Resident (dedup.record id digest text now) key now (young + text.toList.length + 1) := by
  -- The text digest is stored before the eviction, the other keys behind it.
  have stored : (∃ other, text = some other ∧ key = .digest other) ∨
      key = .digest digest ∨ ∃ other, id = some other ∧ key = .id other := by
    unfold keysFor at own
    rcases mem_append.mp own with inId | inDigests
    · obtain ⟨other, present, rfl⟩ := mem_map.mp inId
      exact .inr (.inr ⟨other, Option.mem_toList.mp present, rfl⟩)
    · rcases mem_cons.mp inDigests with same | inText
      · exact .inr (.inl same)
      · obtain ⟨other, present, rfl⟩ := mem_map.mp inText
        exact .inl ⟨other, Option.mem_toList.mp present, rfl⟩
  rcases stored with ⟨other, rfl, rfl⟩ | last
  · have texted : Resident (dedup.rememberDigest other now) (.digest other) now (young + 1) :=
      ⟨⟨now, get_insert_self _ _ _, Nat.le_refl _⟩, Resident.queue_append queued⟩
    exact texted.record_last room (Nat.le_refl _) id digest
  · -- The queue before the last entry, with the text entry among the last.
    have texted : ∃ older latest, (match text with
          | some other => dedup.rememberDigest other now
          | none => dedup).order = older ++ latest ∧
        latest.length ≤ young + text.toList.length ∧ ∀ entry ∈ older, ¬ entry.names key := by
      cases text with
      | none => exact queued
      | some other => exact Resident.queue_append queued
    obtain ⟨older, latest, split, few, free⟩ := texted
    have capped : (match text with
        | some other => dedup.rememberDigest other now
        | none => dedup).cap = dedup.cap := by
      cases text <;> rfl
    obtain ⟨_, remaining, kept, unnamed⟩ := evict_keeps older split
        (by rw [capped]; exact Nat.lt_of_le_of_lt few room) free
    refine ⟨?_, Resident.queue_append ⟨remaining, latest, kept, few, unnamed⟩⟩
    rcases last with rfl | ⟨other, rfl, rfl⟩
    · exact ⟨now, get_insert_self _ _ _, Nat.le_refl _⟩
    · exact ⟨now, get_insert_self _ _ _, Nat.le_refl _⟩

/-- Recording changes neither the size of the queue nor the window. -/
theorem record_limits (dedup : Deduplicator) (id : Option Text) (digest : Digest)
    (text : Option Digest) (now : Nat) :
    (dedup.record id digest text now).cap = dedup.cap ∧
      (dedup.record id digest text now).ttlMs = dedup.ttlMs := by
  cases text with
  | none => exact ⟨rfl, rfl⟩
  | some key => exact ⟨rfl, rfl⟩

variable [Primitives] {message : UnifiedMessage}

/-- The keys of a message. -/
def keysOf (message : UnifiedMessage) : List DedupKey :=
  keysFor (idKey message) message.canonicalDigest (textDigest message)

/-- Whether a message is known when it is observed. -/
def Knows (dedup : Deduplicator) (message : UnifiedMessage) (now : Nat) : Prop :=
  (dedup.expire now).known (idKey message) message.canonicalDigest (textDigest message) = true

theorem observe_of_known (known : dedup.Knows message now) : dedup.observe message now =
      ({ dedup.expire now with duplicates := dedup.duplicates + 1 }, false) := by
  unfold observe
  exact if_pos known

theorem observe_of_unknown (unknown : ¬ dedup.Knows message now) :
    dedup.observe message now = ((dedup.expire now).record (idKey message)
      message.canonicalDigest (textDigest message) now, true) := by
  unfold observe
  exact if_neg unknown

/-- A message is new exactly when none of its keys is known. -/
theorem observe_new_iff : (dedup.observe message now).2 = true ↔ ¬ dedup.Knows message now := by
  constructor
  · intro new known
    rw [observe_of_known known] at new
    cases new
  · intro unknown
    rw [observe_of_unknown unknown]

/-- A call of the deduplicator. -/
inductive Call where
  | observe (message : UnifiedMessage)
  | rememberDigest (digest : Digest)

def step (dedup : Deduplicator) (now : Nat) : Call → Deduplicator
  | .observe message => (dedup.observe message now).1
  | .rememberDigest digest => dedup.rememberDigest digest now

/-- The entries a call appends to the queue. -/
def appends (dedup : Deduplicator) (now : Nat) : Call → Nat
  | .observe message =>
    if (dedup.observe message now).2 then (textDigest message).toList.length + 1 else 0
  | .rememberDigest _ => 1

/-- The states that calls at times that never go back lead to, the time of the last call
and the number of entries appended on the way. -/
inductive Run (start : Deduplicator) (since : Nat) : Deduplicator → Nat → Nat → Prop where
  | refl : Run start since start since 0
  | step {dedup : Deduplicator} {clock count : Nat} (now : Nat) (call : Call)
      (earlier : Run start since dedup clock count) (forward : clock ≤ now) :
      Run start since (dedup.step now call) now (count + dedup.appends now call)

/-- One call keeps a resident key resident. -/
theorem Resident.step {young : Nat} (resident : Resident dedup key since young) (call : Call)
    (forward : since ≤ now) (recent : now - since ≤ dedup.ttlMs)
    (fits : young + dedup.appends now call ≤ dedup.cap) :
    Resident (dedup.step now call) key since (young + dedup.appends now call) := by
  cases call with
  | rememberDigest digest => exact resident.rememberDigest digest forward
  | observe message =>
    have fresh := resident.expire recent
    by_cases known : dedup.Knows message now
    · simp only [Deduplicator.step, appends, observe_of_known known]
      exact ⟨fresh.known, fresh.queued⟩
    · simp only [Deduplicator.step, appends, observe_of_unknown known, if_true] at fits ⊢
      exact fresh.record forward (idKey message) message.canonicalDigest (textDigest message) fits

/-- The size of the queue and the window are fixed. -/
theorem step_limits {dedup : Deduplicator} (now : Nat) (call : Call) :
    (dedup.step now call).cap = dedup.cap ∧ (dedup.step now call).ttlMs = dedup.ttlMs := by
  cases call with
  | rememberDigest digest => exact ⟨rfl, rfl⟩
  | observe message =>
    by_cases known : dedup.Knows message now
    · simp only [step, observe_of_known known]
      exact ⟨rfl, rfl⟩
    · simp only [step, observe_of_unknown known]
      exact record_limits _ _ _ _ _

theorem Run.limits {start : Deduplicator} {clock count : Nat}
    (run : Run start since dedup clock count) :
    since ≤ clock ∧ dedup.cap = start.cap ∧ dedup.ttlMs = start.ttlMs := by
  induction run with
  | refl => exact ⟨Nat.le_refl _, rfl, rfl⟩
  | step now call _ forward ih =>
    obtain ⟨order, cap, ttl⟩ := ih
    obtain ⟨capSame, ttlSame⟩ := step_limits now call
    exact ⟨Nat.le_trans order forward, capSame.trans cap, ttlSame.trans ttl⟩

/-- A resident key stays resident through calls within the window that append few
entries. -/
theorem Resident.run {start : Deduplicator} {young clock count : Nat}
    (resident : Resident start key since young) (run : Run start since dedup clock count)
    (recent : clock - since ≤ start.ttlMs) (fits : young + count ≤ start.cap) :
    Resident dedup key since (young + count) := by
  induction run with
  | refl => exact resident
  | step now call rest forward ih =>
    obtain ⟨order, cap, ttl⟩ := rest.limits
    have before := ih (by omega) (by omega)
    have kept := before.step call (Nat.le_trans order forward) (by omega) (by omega)
    rwa [Nat.add_assoc] at kept

/-- A message with a resident key is a duplicate. -/
theorem Resident.duplicate {young : Nat} (resident : Resident dedup key since young)
    (own : key ∈ keysOf message) (recent : now - since ≤ dedup.ttlMs)
    : (dedup.observe message now).2 = false := by
  obtain ⟨time, stored, _⟩ := (resident.expire recent).known
  have known : dedup.Knows message now := by
    apply known_iff.mpr
    exact ⟨key, own, by rw [stored]; rfl⟩
  rw [observe_of_known known]

/-- A message recorded as new is recognised for the whole window while fewer than `cap - 2`
entries are appended behind it, if the entries that make room for these do not name one of its
keys. -/
theorem recorded_recognised (dedup : Deduplicator) (message : UnifiedMessage) (time : Nat)
    (large : 4 ≤ dedup.cap) (new : (dedup.observe message time).2 = true)
    (later : Deduplicator) (clock count : Nat)
    (run : Run (dedup.observe message time).1 time later clock count)
    (few : count < dedup.cap - 2)
    (unnamed : ∃ key ∈ keysOf message, ∀ entry ∈ dedup.order.take (dedup.order.length +
      ((textDigest message).toList.length + 1 + count) - dedup.cap), ¬ entry.names key)
    (now : Nat) (forward : clock ≤ now)
    (recent : now - time ≤ dedup.ttlMs) : (later.observe message now).2 = false := by
  obtain ⟨key, own, unnamed⟩ := unnamed
  rw [observe_of_unknown (observe_new_iff.mp new)] at run
  simp only at run
  have short := toList_length_le (textDigest message)
  have recorded := @record_resident (dedup.expire time) key time (idKey message)
    message.canonicalDigest (textDigest message)
    (dedup.cap - ((textDigest message).toList.length + 1 + count))
    (show _ < dedup.cap by omega) own
    ⟨_, _, (take_append_drop _ dedup.order).symm, by rw [length_drop]; omega, unnamed⟩
  obtain ⟨capSame, ttlSame⟩ := record_limits (dedup.expire time) (idKey message)
    message.canonicalDigest (textDigest message) time
  change _ = dedup.cap at capSame
  change _ = dedup.ttlMs at ttlSame
  obtain ⟨_, _, ttl⟩ := run.limits
  have resident := recorded.run run (by omega) (by omega)
  exact resident.duplicate own (by omega)

end Deduplicator

namespace Residency

open Deduplicator

local instance residencySuite : Primitives := Transparent.primitives

/-- A broadcast of 21 bytes that differ in the first. -/
def parcel (byte : UInt8) : UnifiedMessage :=
  { UnifiedMessage.ofText (.meshtastic 1) (.broadcast .meshtastic) .meshtastic [] with
    contentType := .binary
    payload := byte :: List.replicate 20 0 }

/-- A text with a timestamp, from a node. -/
def notice (node : UInt32) (text : Text) (time : UInt32) : UnifiedMessage :=
  { UnifiedMessage.ofText (.meshtastic node) (.broadcast .meshtastic) .meshtastic text with
    messageId := hexPadded 8 node.toNat
    timestamp := some time }

/-- A deduplicator that has recorded a message, and then the notice of a first node. -/
def listening : Deduplicator := ((new 512 600000).observe (parcel 7) 0).1
/-- The digest of the words of a message. -/
def words (message : UnifiedMessage) : Digest := (textDigest message).getD message.canonicalDigest

/-- Three messages in a queue of four; by time 1001 the first has left the window of a
second. -/
def filled : Deduplicator :=
  ((((new 4 1000).step 0 (.observe (parcel 1))).step 1 (.observe (parcel 2))).step 2
    (.observe (parcel 3)))

/-- The first message is recorded again, and then one more. -/
def again : Deduplicator := (filled.observe (parcel 1) 1001).1

/-- The message recorded again at 1001 is taken for new at 1003: the one entry appended
in between dropped its old entry from the queue, and with it the new record. -/
theorem stale_entry_forgets :
    (∃ count, Run (new 4 1000) 0 filled 2 count) ∧ (filled.observe (parcel 1) 1001).2 = true ∧
      Run (filled.observe (parcel 1) 1001).1 1001 (again.step 1002 (.observe (parcel 4))) 1002 1 ∧
      1 < filled.cap - 2 ∧ 1003 - 1001 ≤ filled.ttlMs ∧
      ((again.step 1002 (.observe (parcel 4))).observe (parcel 1) 1003).2 = true := by
  have one : 0 + again.appends 1002 (.observe (parcel 4)) = 1 := by decide +kernel
  have run : Run again 1001 (again.step 1002 (.observe (parcel 4))) 1002
      (0 + again.appends 1002 (.observe (parcel 4))) := Run.refl.step 1002 _ (by decide)
  rw [one] at run
  refine ⟨?_, by decide +kernel, run, by decide +kernel, by decide +kernel, by decide +kernel⟩
  exact ⟨_, ((Run.refl.step 0 _ (Nat.le_refl _)).step 1 _ (by decide)).step 2 _ (by decide)⟩

/-- The second message is recorded again as well. -/
def repeated : Deduplicator := (filled.observe (parcel 2) 1002).1

/-- It is still recognised at 1004: the entry appended in between dropped that of the first
message, not its own. -/
theorem repeated_message_recognised : (filled.observe (parcel 2) 1002).2 = true ∧
      (repeated.step 1003 (.observe (parcel 4))).order.length = 4 ∧
      ((repeated.step 1003 (.observe (parcel 4))).observe (parcel 2) 1004).2 = false := by
  have facts : (filled.observe (parcel 2) 1002).2 = true ∧
      (repeated.step 1003 (.observe (parcel 4))).order.length = 4 ∧
      0 + repeated.appends 1003 (.observe (parcel 4)) = 1 ∧
      ∀ entry ∈ filled.order.take (filled.order.length +
        ((textDigest (parcel 2)).toList.length + 1 + 1) - filled.cap),
        ¬ entry.names (.digest (parcel 2).canonicalDigest) := by decide +kernel
  obtain ⟨new, full, one, unnamed⟩ := facts
  have run : Run repeated 1002 (repeated.step 1003 (.observe (parcel 4))) 1003
      (0 + repeated.appends 1003 (.observe (parcel 4))) := Run.refl.step 1003 _ (by decide)
  rw [one] at run
  exact ⟨new, full, recorded_recognised filled (parcel 2) 1002 (by decide +kernel) new _ 1003 1
    run (by decide +kernel) ⟨_, by simp [keysOf, keysFor], unnamed⟩ 1004 (by decide)
    (by decide +kernel)⟩

end Residency

end MeshStar
