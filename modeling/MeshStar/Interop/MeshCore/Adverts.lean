import MeshStar.Interop.MeshCore.Adapter
import MeshStar.Transparent

/-!
# The timestamps of MeshCore adverts

Receivers drop an advert whose timestamp is not above the last one they saw. A run is a
sequence of calls to the two ways an advert leaves the adapter. An encoded advert takes the
time it is given. A periodic advert takes its own time, or one more than the last periodic
advert: it reaches the largest of the times of the periodic calls so far, each with the number
of periodic adverts since. The adverts of a run rise exactly when these times fit together:
the adapter does not compare an encoded advert with anything.
-/

namespace MeshStar

variable [Primitives]

open MeshCore List

/-- The timestamp an advert frame carries. -/
def advertTimestamp (frame : Bytes) : Option UInt32 :=
  match MeshCore.Packet.parse frame with
  | .ok packet =>
    if packet.ptype = .advert then (Advert.parse packet.payload).toOption.map Advert.timestamp
    else none
  | .error _ => none

/-- A call that may send an advert. -/
inductive AdvertCall where
  | periodic (context : ProtocolContext)
  | encode (message : UnifiedMessage) (context : ProtocolContext)

namespace AdvertCall

/-- The adapter after a call, and the frames the call gives. -/
def run (adapter : MeshCoreAdapter) : AdvertCall → MeshCoreAdapter × List OutboundFrame
  | periodic context => adapter.periodic context
  | encode message context =>
    match adapter.encodeAdvertMsg message context with
    | .ok frame => (adapter, [frame])
    | .error _ => (adapter, [])

/-- Whether a call sends an advert: there is a key, and the advert is due or has what it
needs. -/
def sends (adapter : MeshCoreAdapter) : AdvertCall → Bool
  | periodic context => (MeshCoreAdapter.localKey context).isOk && adapter.advertDue context
  | encode message context => (MeshCoreAdapter.localKey context).isOk &&
      !(message.contentType = .position && (locationFromMeta message).isNone)

/-- The adapter's record after a call that sends: an encoded advert is not recorded. -/
def recordAfter (adapter : MeshCoreAdapter) : AdvertCall → UInt32
  | periodic context => adapter.nextAdvertTs context
  | encode _ _ => adapter.lastAdvertTs

/-- The timestamp a call gives its advert. -/
def stamp (adapter : MeshCoreAdapter) : AdvertCall → UInt32
  | periodic context => adapter.nextAdvertTs context
  | encode message context => message.timestamp.getD context.unixTimeS

/-- How far periodic adverts at the given times get: the largest of the times, each with the
number of adverts after it, and of the record before them with the number of all. -/
def reach (record : Nat) : List Nat → Nat
  | [] => record
  | time :: later => max (time + later.length) (reach (record + 1) later)

/-- A call fits behind the adverts encoded for some times and sent periodically at others. -/
def Fresh (record : Nat) (encoded periodics : List Nat) : AdvertCall → Prop
  | periodic context =>
    (∀ time ∈ encoded, time < context.unixTimeS.toNat ∨
      (time ≤ reach record periodics ∧ time < 2 ^ 32 - 1)) ∧
    (periodics ≠ [] → reach record periodics < 2 ^ 32 - 1)
  | encode message context =>
    let given := (message.timestamp.getD context.unixTimeS).toNat
    (∀ time ∈ encoded, time < given) ∧ (periodics ≠ [] → reach record periodics < given)

/-- The times of the encoded adverts behind a call that sends one. -/
def encodedAfter (encoded : List Nat) : AdvertCall → List Nat
  | periodic _ => encoded
  | encode message context => encoded ++ [(message.timestamp.getD context.unixTimeS).toNat]

/-- The times of the periodic adverts behind a call that sends one. -/
def periodicsAfter (periodics : List Nat) : AdvertCall → List Nat
  | periodic context => periodics ++ [context.unixTimeS.toNat]
  | encode _ _ => periodics

/-- The frames of a run. -/
def frames (adapter : MeshCoreAdapter) : List AdvertCall → List OutboundFrame
  | [] => []
  | call :: rest => (call.run adapter).2 ++ frames (call.run adapter).1 rest

/-- Every call of a run that sends an advert fits behind those before it. -/
def AllFresh (record : Nat) (adapter : MeshCoreAdapter) (encoded periodics : List Nat) :
    List AdvertCall → Prop
  | [] => True
  | call :: rest =>
    if call.sends adapter then
      call.Fresh record encoded periodics ∧ AllFresh record (call.run adapter).1
        (call.encodedAfter encoded) (call.periodicsAfter periodics) rest
    else AllFresh record (call.run adapter).1 encoded periodics rest

end AdvertCall

/-- Each frame carries a timestamp, above that of every frame before it. -/
def Rising (frames : List OutboundFrame) : Prop :=
  ∃ stamps : List UInt32, frames.map (fun frame => advertTimestamp frame.bytes) =
    stamps.map some ∧ stamps.Pairwise (· < ·)

/-! ## One call -/

/-- An advert can be built whenever there is a key, and carries the timestamp given. -/
theorem MeshCoreAdapter.buildAdvert_stamps (adapter : MeshCoreAdapter)
    (context : ProtocolContext) (timestamp : UInt32) (location : Option (Int × Int))
    (zeroHop : Bool) (keyed : (localKey context).isOk = true) :
    ∃ frame, adapter.buildAdvert context timestamp location zeroHop = .ok frame ∧
      advertTimestamp frame.bytes = some timestamp := by
  unfold buildAdvert
  cases key : localKey context with
  | error fault =>
    rw [key] at keyed
    cases keyed
  | ok identity =>
    simp only [bind, Except.bind]
    generalize (context.localIdentity.map LocalProtocolIdentity.displayName).getD [] = name
    generalize located : (⟨adapter.nodeType, (location.or adapter.locationE6).map Prod.fst,
      (location.or adapter.locationE6).map Prod.snd, none, none, some name⟩ : AdvertData) = data
    have encoded : ∃ appData, data.encode = .ok appData := by
      rw [← located]
      unfold AdvertData.encode
      cases location.or adapter.locationE6 with
      | none =>
        refine ⟨_, if_neg ?_⟩
        simp [AdvertData.location, maxAdvertDataSize]
      | some place =>
        refine ⟨_, if_neg ?_⟩
        simp [AdvertData.location, signed32, maxAdvertDataSize]
    obtain ⟨appData, encodes⟩ := encoded
    have small := AdvertData.encode_length_le encodes
    simp only [Advert.build, encodes, bind, Except.bind, pure, Except.pure]
    generalize built : (Advert.mk _ timestamp _ appData) = advert
    have length : advert.encode.length = advertMinLen + appData.length := by
      rw [Advert.encode_length, ← built]
    have valid (route : RouteType) : (Packet.new route .advert advert.encode).Valid := by
      unfold advertMinLen at length
      unfold maxAdvertDataSize at small
      apply Packet.new_valid .advert
      · intro empty
        rw [empty] at length
        simp at length
        omega
      · unfold maxPacketPayload
        omega
    have stamped := Advert.timestamp_parse advert
    have sent (route : RouteType) :
        ∃ frame, finish (Packet.new route .advert advert.encode) context = .ok frame ∧
          advertTimestamp frame.bytes = some timestamp := by
      refine ⟨⟨.meshCore, (Packet.new route .advert advert.encode).wire, context.profile⟩, ?_, ?_⟩
      · rw [finish, (valid route).encode]
      · rw [advertTimestamp, (valid route).parse_wire]
        exact stamped.trans (congrArg some (by rw [← built]))
    cases zeroHop with
    | false => exact sent .flood
    | true => exact sent .direct

theorem MeshCoreAdapter.buildAdvert_unkeyed (adapter : MeshCoreAdapter)
    (context : ProtocolContext) (timestamp : UInt32) (location : Option (Int × Int))
    (zeroHop : Bool) (unkeyed : (localKey context).isOk = false) :
    ∃ fault, adapter.buildAdvert context timestamp location zeroHop = .error fault := by
  unfold buildAdvert
  cases key : localKey context with
  | error fault => exact ⟨fault, rfl⟩
  | ok identity =>
    rw [key] at unkeyed
    cases unkeyed

namespace AdvertCall

variable (adapter : MeshCoreAdapter) (call : AdvertCall)

/-- A call that sends gives one frame with its timestamp. -/
theorem run_sends (sends : call.sends adapter = true) : ∃ frame, (call.run adapter).2 = [frame] ∧
      advertTimestamp frame.bytes = some (call.stamp adapter) ∧
      (call.run adapter).1.lastAdvertTs = call.recordAfter adapter := by
  cases call with
  | periodic context =>
    obtain ⟨keyed, due⟩ := (Bool.and_eq_true _ _).mp sends
    obtain ⟨frame, built, stamped⟩ := adapter.buildAdvert_stamps context
      (adapter.nextAdvertTs context) none false keyed
    simp only [run, MeshCoreAdapter.periodic]
    cases key : MeshCoreAdapter.localKey context with
    | error fault =>
      rw [key] at keyed
      cases keyed
    | ok identity =>
      simp only [due, Bool.not_true, Bool.false_eq_true, ↓reduceIte, built]
      exact ⟨frame, rfl, stamped, rfl⟩
  | encode message context =>
    obtain ⟨keyed, complete⟩ := (Bool.and_eq_true _ _).mp sends
    obtain ⟨frame, built, stamped⟩ := adapter.buildAdvert_stamps context
      (message.timestamp.getD context.unixTimeS) (locationFromMeta message)
      (message.metaValue Meta.zeroHop = some "true".toList) keyed
    have present : ¬(message.contentType = .position ∧ locationFromMeta message = none) := by
      rintro ⟨position, missing⟩
      simp [position, missing] at complete
    simp only [run, MeshCoreAdapter.encodeAdvertMsg, if_neg present, built]
    exact ⟨frame, rfl, stamped, rfl⟩

/-- A call that does not send changes nothing. -/
theorem run_silent (silent : call.sends adapter = false) :
    (call.run adapter).2 = [] ∧ (call.run adapter).1.lastAdvertTs = adapter.lastAdvertTs := by
  cases call with
  | periodic context =>
    simp only [run, MeshCoreAdapter.periodic]
    cases key : MeshCoreAdapter.localKey context with
    | error fault => exact ⟨rfl, rfl⟩
    | ok identity =>
      have early : adapter.advertDue context = false := by
        simpa [sends, key, Except.isOk, Except.toBool] using silent
      simp only [early, Bool.not_false, ↓reduceIte, and_self]
  | encode message context =>
    unfold run MeshCoreAdapter.encodeAdvertMsg
    cases keyed : (MeshCoreAdapter.localKey context).isOk with
    | false =>
      obtain ⟨fault, refused⟩ := adapter.buildAdvert_unkeyed context
        (message.timestamp.getD context.unixTimeS) (locationFromMeta message)
        (message.metaValue Meta.zeroHop = some "true".toList) keyed
      by_cases missing : message.contentType = .position ∧ locationFromMeta message = none
      · simp only [if_pos missing, and_self]
      · simp only [if_neg missing, refused, and_self]
    | true =>
      have missing : message.contentType = .position ∧ locationFromMeta message = none := by
        simpa [sends, keyed, Option.isNone_iff_eq_none] using silent
      simp only [if_pos missing, and_self]

omit [Primitives] in
/-- One more periodic advert: its own time, or one more than the last. -/
theorem reach_append (record time : Nat) (times : List Nat) :
    reach record (times ++ [time]) = max time (reach record times + 1) := by
  induction times generalizing record with
  | nil => rfl
  | cons first later ih =>
    rw [cons_append, reach, reach, ih, length_append, length_singleton]
    omega

/-- What the times of the calls say of the adverts sent so far: the record is as far as the
periodic adverts reach, and every advert is an encoded one or not above the record. -/
structure Traces (record : Nat) (adapter : MeshCoreAdapter) (encoded periodics : List Nat)
    (sent : List UInt32) : Prop where
  record : adapter.lastAdvertTs.toNat = min (reach record periodics) (2 ^ 32 - 1)
  each : ∀ stamp ∈ sent, stamp.toNat ∈ encoded ∨ (periodics ≠ [] ∧ stamp ≤ adapter.lastAdvertTs)
  encodeds : ∀ time ∈ encoded, ∃ stamp ∈ sent, stamp.toNat = time
  last : periodics ≠ [] → adapter.lastAdvertTs ∈ sent

omit [Primitives] in
/-- A periodic advert is one more than the record, if that is not behind the clock. -/
theorem nextAdvertTs_toNat (adapter : MeshCoreAdapter) (context : ProtocolContext) :
    (adapter.nextAdvertTs context).toNat =
      max context.unixTimeS.toNat (min (adapter.lastAdvertTs.toNat + 1) (2 ^ 32 - 1)) :=
  UInt32.toNat_ofNat_of_lt' (Nat.max_lt.mpr
    ⟨context.unixTimeS.toNat_lt, Nat.lt_of_le_of_lt (Nat.min_le_right _ _) (by decide)⟩)

variable {adapter call} {record : Nat} {encoded periodics : List Nat} {sent : List UInt32}

omit [Primitives] in
/-- A call that fits behind the times of the others is above all they sent. -/
theorem Traces.fresh_iff (traces : Traces record adapter encoded periodics sent) :
    call.Fresh record encoded periodics ↔ ∀ stamp ∈ sent, stamp < call.stamp adapter := by
  have recorded := traces.record
  cases call with
  | encode message context =>
    have small := (message.timestamp.getD context.unixTimeS).toNat_lt
    simp only [Fresh, stamp, UInt32.lt_iff_toNat_lt]
    constructor
    · rintro ⟨above, beyond⟩ stamp member
      rcases traces.each stamp member with old | ⟨some, older⟩
      · exact above _ old
      · have reached := beyond some
        rw [UInt32.le_iff_toNat_le] at older
        omega
    · intro above
      constructor
      · intro time member
        obtain ⟨stamp, there, rfl⟩ := traces.encodeds time member
        exact above stamp there
      · intro some
        have reached := above _ (traces.last some)
        omega
  | periodic context =>
    have small := context.unixTimeS.toNat_lt
    simp only [Fresh, stamp, UInt32.lt_iff_toNat_lt, nextAdvertTs_toNat]
    constructor
    · rintro ⟨above, beyond⟩ stamp member
      rcases traces.each stamp member with old | ⟨some, older⟩
      · have reached := above _ old
        omega
      · have reached := beyond some
        rw [UInt32.le_iff_toNat_le] at older
        omega
    · intro above
      constructor
      · intro time member
        obtain ⟨stamp, there, rfl⟩ := traces.encodeds time member
        have reached := above stamp there
        omega
      · intro some
        have reached := above _ (traces.last some)
        omega

/-- A call that sends adds its time and its advert. -/
theorem Traces.sends (traces : Traces record adapter encoded periodics sent)
    (sends : call.sends adapter = true) :
    Traces record (call.run adapter).1 (call.encodedAfter encoded)
      (call.periodicsAfter periodics) (sent ++ [call.stamp adapter]) := by
  obtain ⟨_, _, _, kept⟩ := run_sends adapter call sends
  have recorded := traces.record
  cases call with
  | encode message context =>
    simp only [recordAfter] at kept
    simp only [encodedAfter, periodicsAfter, stamp]
    refine ⟨by rw [kept]; exact recorded, ?_, ?_, ?_⟩
    · intro stamp member
      rw [kept]
      rcases mem_append.mp member with old | new
      · exact (traces.each stamp old).imp_left (mem_append_left _)
      · rw [mem_singleton.mp new]
        exact .inl (mem_append_right _ mem_cons_self)
    · intro time member
      rcases mem_append.mp member with old | new
      · obtain ⟨stamp, there, same⟩ := traces.encodeds time old
        exact ⟨stamp, mem_append_left _ there, same⟩
      · exact ⟨_, mem_append_right _ mem_cons_self, (mem_singleton.mp new).symm⟩
    · intro some
      rw [kept]
      exact mem_append_left _ (traces.last some)
  | periodic context =>
    have small := context.unixTimeS.toNat_lt
    have next := nextAdvertTs_toNat adapter context
    simp only [recordAfter] at kept
    simp only [encodedAfter, periodicsAfter, stamp]
    refine ⟨?_, ?_, ?_, ?_⟩
    · rw [kept, next, reach_append]
      omega
    · intro stamp member
      rw [kept]
      rcases mem_append.mp member with old | new
      · refine (traces.each stamp old).imp_right (fun older => ⟨by simp, ?_⟩)
        have lower := older.2
        have bounded := adapter.lastAdvertTs.toNat_lt
        rw [UInt32.le_iff_toNat_le] at lower ⊢
        omega
      · rw [mem_singleton.mp new]
        exact .inr ⟨by simp, UInt32.le_refl _⟩
    · intro time member
      obtain ⟨stamp, there, same⟩ := traces.encodeds time member
      exact ⟨stamp, mem_append_left _ there, same⟩
    · intro _
      rw [kept]
      exact mem_append_right _ mem_cons_self

/-! ## Runs -/

/-- The timestamps of a run, behind those sent before it. -/
theorem Traces.rising (traces : Traces record adapter encoded periodics sent)
    (calls : List AdvertCall) : ∃ stamps : List UInt32,
      (frames adapter calls).map (fun frame => advertTimestamp frame.bytes) = stamps.map some ∧
        (sent.Pairwise (· < ·) → (AllFresh record adapter encoded periodics calls ↔
          (sent ++ stamps).Pairwise (· < ·))) := by
  induction calls generalizing adapter encoded periodics sent with
  | nil => exact ⟨[], rfl, fun rising => ⟨fun _ => by simpa using rising, fun _ => trivial⟩⟩
  | cons call rest ih =>
    cases sending : call.sends adapter with
    | false =>
      obtain ⟨none, kept⟩ := run_silent adapter call sending
      have same : Traces record (call.run adapter).1 encoded periodics sent :=
        ⟨kept ▸ traces.record, kept ▸ traces.each, traces.encodeds, kept ▸ traces.last⟩
      obtain ⟨stamps, carried, fresh⟩ := ih same
      refine ⟨stamps, ?_, ?_⟩
      · rw [frames, none, nil_append]
        exact carried
      · rw [AllFresh, if_neg (by rw [sending]; exact Bool.false_ne_true)]
        exact fresh
    | true =>
      obtain ⟨frame, given, stamped, _⟩ := run_sends adapter call sending
      obtain ⟨stamps, carried, fresh⟩ := ih (traces.sends sending)
      refine ⟨call.stamp adapter :: stamps, ?_, ?_⟩
      · rw [frames, given, singleton_append, map_cons, map_cons, stamped, carried]
      · intro rising
        have extended : call.Fresh record encoded periodics ↔
            (sent ++ [call.stamp adapter]).Pairwise (· < ·) := by
          rw [traces.fresh_iff, pairwise_append]
          simp [rising]
        rw [AllFresh, if_pos sending, extended, append_cons sent _ stamps]
        constructor
        · rintro ⟨risen, later⟩
          exact (fresh risen).mp later
        · intro whole
          have risen := (pairwise_append.mp whole).1
          exact ⟨risen, (fresh risen).mpr whole⟩

end AdvertCall

/-- The adverts of a run rise exactly when the times its calls are given fit together: an
encoded advert is given a time above those of the encoded adverts before it and above what the
periodic ones reach, and a periodic one does not fall behind an encoded one. -/
theorem adverts_rise_iff (adapter : MeshCoreAdapter) (calls : List AdvertCall) :
    Rising (AdvertCall.frames adapter calls) ↔
      AdvertCall.AllFresh adapter.lastAdvertTs.toNat adapter [] [] calls := by
  have small := adapter.lastAdvertTs.toNat_lt
  have traces : AdvertCall.Traces adapter.lastAdvertTs.toNat adapter [] [] [] :=
    ⟨by rw [AdvertCall.reach]; omega, by simp, by simp, by simp⟩
  obtain ⟨stamps, carried, fresh⟩ := traces.rising calls
  have exactly := fresh List.Pairwise.nil
  rw [nil_append] at exactly
  rw [exactly]
  constructor
  · rintro ⟨others, same, rising⟩
    have equal : stamps = others :=
      map_injective_iff.mpr (Option.some_injective _) (carried.symm.trans same)
    rwa [equal]
  · intro rising
    exact ⟨stamps, carried, rising⟩

end MeshStar

namespace MeshStar.Replay

local instance replaySuite : Primitives := Transparent.primitives

def context : ProtocolContext :=
  { nowMs := 1000
    unixTimeS := 1700000000
    profile := ⟨.meshstarEu868, 869618000, 0x12⟩
    localIdentity := some ⟨.meshCore, .broadcast .meshCore, "a".toList, "a".toList,
      List.replicate 32 7⟩
    channels := []
    peerKeys := []
    random := FixedBytes.ofSlice 32 [] }

def announce : UnifiedMessage :=
  { UnifiedMessage.ofText (.broadcast .meshCore) (.broadcast .meshCore) .meshCore [] with
    contentType := .advert }

/-- Two adverts encoded in the same second carry the same timestamp. -/
theorem same_second_repeats : ¬Rising (AdvertCall.frames .new
    [.encode announce context, .encode announce context]) := by
  rintro ⟨stamps, carried, rising⟩
  have both : (AdvertCall.frames MeshCoreAdapter.new
      [.encode announce context, .encode announce context]).map
        (fun frame => advertTimestamp frame.bytes) = [some 1700000000, some 1700000000] := by
    decide +kernel
  rw [both] at carried
  match stamps, carried, rising with
  | [first, second], carried, rising =>
    simp only [List.map_cons, List.map_nil, List.cons.injEq, Option.some.injEq, and_true] at carried
    rw [← carried.1, ← carried.2] at rising
    simp at rising

end MeshStar.Replay
