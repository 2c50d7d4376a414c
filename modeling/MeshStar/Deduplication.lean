import MeshStar.Replay
import MeshStar.Transport

/-!
# Receive-side deduplication

The window of a peer keeps the newest sequence number and one bit for each of the 64
numbers up to it. Sequence numbers wrap; the numbers of one peer are therefore counted
without wrapping here, the number 0 that the allocation skips included. As long as all
presented numbers are less than half a turn apart, the window knows which of the last 64
were presented, and takes every older one for new. A number is accepted a second time
exactly when it comes back too old to be known.
-/

namespace MeshStar

open List

variable {later earlier : Nat}

namespace SeqWindow

variable {window : SeqWindow} {places : List Nat}

/-- The bit of the number that lies some way behind the newest. -/
def recorded (window : SeqWindow) (behind : Nat) : Bool := window.bitmap.toBitVec.getLsbD behind

/-- The window after the numbers at these places were presented. -/
structure Records (window : SeqWindow) (places : List Nat) (newest : Nat) : Prop where
  any : window.any = true
  presented : newest ∈ places
  latest : ∀ place ∈ places, place ≤ newest
  top : window.top = UInt16.ofNat newest
  bits : ∀ behind < 64, window.recorded behind = true ↔ ∃ place ∈ places, place + behind = newest

/-- The wrapping difference of two numbers less than a turn apart. -/
theorem ofNat_sub_toNat (ordered : earlier ≤ later) (near : later < earlier + 65536) :
    (UInt16.ofNat later - UInt16.ofNat earlier).toNat = later - earlier := by
  rw [← UInt16.ofNat_sub ordered, UInt16.toNat_ofNat']
  exact Nat.mod_eq_of_lt (by omega)

/-- The wrapping difference the other way round. -/
theorem ofNat_sub_toNat_of_lt (ordered : earlier < later) (near : later < earlier + 65536) :
    (UInt16.ofNat earlier - UInt16.ofNat later).toNat = 65536 - (later - earlier) := by
  have turned : UInt16.ofNat earlier = UInt16.ofNat (earlier + 65536) := by
    apply UInt16.toNat_inj.mp
    simp
  rw [turned, ofNat_sub_toNat (by omega) (by omega)]
  omega

/-- A shift by less than a word is a shift of the bits. -/
theorem toBitVec_shiftLeft_toUInt64 {bitmap : UInt64} {shift : UInt16} (small : shift.toNat < 64) :
    (bitmap <<< shift.toUInt64).toBitVec = bitmap.toBitVec <<< shift.toNat := by
  have amount : (shift.toUInt64.toBitVec % 64).toNat = shift.toNat := by
    simp only [BitVec.toNat_umod, UInt64.toNat_toBitVec, UInt16.toNat_toUInt64]
    exact Nat.mod_eq_of_lt small
  rw [UInt64.toBitVec_shiftLeft, BitVec.shiftLeft_eq', amount]

/-- A one-bit mask has one bit. -/
theorem mask_bit {position : Nat} {gap : Nat} (inside : gap < 64) :
    (1#64 <<< position).getLsbD gap = decide (gap = position) := by
  rw [← BitVec.twoPow_eq, BitVec.getLsbD_twoPow]
  by_cases same : position = gap
  · simp [same, inside]
  · simp [same, Ne.symm same]

/-- The lowest bit stands alone in the number one. -/
theorem lowest_bit (behind : Nat) : (UInt64.toBitVec 1).getLsbD behind = decide (behind = 0) := by
  simp [BitVec.getLsbD_one]

/-- The bit test of the source reads the recorded bit. -/
theorem bit_test {behind : UInt16} (inside : behind.toNat < 64) :
    window.bitmap &&& (1 <<< behind.toUInt64) ≠ 0 ↔ window.recorded behind.toNat = true := by
  have read := ReplayWindow.mask_test window.bitmap.toBitVec inside
  rw [ne_eq, ← UInt64.toBitVec_inj, UInt64.toBitVec_and, toBitVec_shiftLeft_toUInt64 inside]
  unfold recorded
  cases stored : window.bitmap.toBitVec.getLsbD behind.toNat with
  | true =>
    rw [stored] at read
    simpa using read
  | false =>
    rw [stored] at read
    simpa using read

/-- The first number of a peer is accepted and recorded. -/
theorem accept_default (place : Nat) : (default.accept (UInt16.ofNat place)).2 = true ∧
      Records (default.accept (UInt16.ofNat place)).1 [place] place := by
  refine ⟨rfl, rfl, mem_singleton_self _, ?_, rfl, ?_⟩
  · intro other member
    exact (mem_singleton.mp member).le
  · intro behind inside
    change (UInt64.toBitVec 1).getLsbD behind = true ↔ _
    simp only [lowest_bit, decide_eq_true_eq, mem_singleton, exists_eq_left]
    omega

variable {place : Nat}

/-- A number ahead of the newest is accepted; the bits move away from it. -/
theorem accept_ahead {newest : Nat} (records : Records window places newest)
    (ahead : newest < place) (near : place < newest + 32768) :
    (window.accept (UInt16.ofNat place)).2 = true ∧
      Records (window.accept (UInt16.ofNat place)).1 (place :: places) place := by
  have distance : (UInt16.ofNat place - window.top).toNat = place - newest := by
    rw [records.top]
    exact ofNat_sub_toNat ahead.le (by omega)
  have newer : UInt16.ofNat place - window.top ≠ 0 ∧ UInt16.ofNat place - window.top < 0x8000 := by
    constructor
    · intro same
      rw [same] at distance
      change 0 = place - newest at distance
      omega
    · rw [UInt16.lt_iff_toNat_lt, distance]
      change place - newest < 32768
      omega
  have moved : window.accept (UInt16.ofNat place) = ({ window with
      bitmap := (if (UInt16.ofNat place - window.top).toNat ≥ 64 then 0
        else window.bitmap <<< (UInt16.ofNat place - window.top).toUInt64) ||| 1
      top := UInt16.ofNat place }, true) := by
    simp only [accept, records.any, Bool.not_true, Bool.false_eq_true, if_false, if_pos newer]
  rw [moved]
  refine ⟨rfl, records.any, mem_cons_self, ?_, rfl, ?_⟩
  · intro other member
    rcases mem_cons.mp member with rfl | member
    · exact Nat.le_refl _
    · exact (records.latest other member).trans ahead.le
  · intro behind inside
    simp only [recorded, UInt64.toBitVec_or, BitVec.getLsbD_or, lowest_bit, distance]
    by_cases self : behind = 0
    · simp [self]
    · have others : (∃ other ∈ place :: places, other + behind = place) ↔
          place - newest ≤ behind ∧ ∃ other ∈ places, other + (behind - (place - newest)) =
            newest := by
        constructor
        · rintro ⟨other, member, same⟩
          rcases mem_cons.mp member with rfl | member
          · omega
          · have bound := records.latest other member
            exact ⟨by omega, other, member, by omega⟩
        · rintro ⟨_, other, member, same⟩
          exact ⟨other, mem_cons_of_mem _ member, by omega⟩
      rw [others]
      by_cases far : place - newest ≥ 64
      · have beyond : ¬place - newest ≤ behind := by omega
        simp [far, self, beyond]
      · rw [if_neg far, toBitVec_shiftLeft_toUInt64 (by omega), distance, BitVec.getLsbD_shiftLeft]
        have bit := records.bits (behind - (place - newest)) (by omega)
        unfold recorded at bit
        simp [self, inside, bit]

/-- A number that is known or too old to be known leaves the record as it is. -/
theorem Records.again {newest : Nat} (records : Records window places newest)
    (behind : place ≤ newest) (stale : place ∈ places ∨ place + 64 ≤ newest) :
    Records window (place :: places) newest := by
  refine ⟨records.any, mem_cons_of_mem _ records.presented, ?_, records.top, ?_⟩
  · exact forall_mem_cons.mpr ⟨behind, records.latest⟩
  · intro gap inside
    rw [records.bits gap inside, exists_mem_cons_iff]
    refine ⟨Or.inr, fun either => either.elim (fun same => ?_) id⟩
    exact stale.elim (fun member => ⟨place, member, same⟩) (fun old => by omega)

/-- A number that is not ahead of the newest is refused exactly if it was presented before
and lies among the last 64. -/
theorem accept_behind {newest : Nat} (records : Records window places newest)
    (behind : place ≤ newest) (near : newest < place + 32768) :
    ((window.accept (UInt16.ofNat place)).2 = true ↔ place ∉ places ∨ place + 64 ≤ newest) ∧
      Records (window.accept (UInt16.ofNat place)).1 (place :: places) newest := by
  have distance : (window.top - UInt16.ofNat place).toNat = newest - place := by
    rw [records.top]
    exact ofNat_sub_toNat behind (by omega)
  have older : ¬(UInt16.ofNat place - window.top ≠ 0 ∧
      UInt16.ofNat place - window.top < 0x8000) := by
    rintro ⟨different, ahead⟩
    rw [records.top] at different ahead
    rcases Nat.eq_or_lt_of_le behind with same | strictly
    · rw [same] at different
      exact different (UInt16.sub_self _)
    · rw [UInt16.lt_iff_toNat_lt, ofNat_sub_toNat_of_lt strictly (by omega)] at ahead
      change 65536 - (newest - place) < 32768 at ahead
      omega
  have latest : ∀ other ∈ place :: places, other ≤ newest :=
    forall_mem_cons.mpr ⟨behind, records.latest⟩
  by_cases late : newest - place ≥ 64
  · -- Too old to be known: accepted, and nothing is recorded.
    have unchanged : window.accept (UInt16.ofNat place) = (window, true) := by
      simp only [accept, records.any, Bool.not_true, Bool.false_eq_true, if_false, if_neg older,
        distance, if_pos late]
    have old : place + 64 ≤ newest := by omega
    rw [unchanged]
    exact ⟨iff_of_true rfl (.inr old), records.again behind (.inr old)⟩
  · have inside : newest - place < 64 := by omega
    have tested : window.bitmap &&& (1 <<< (window.top - UInt16.ofNat place).toUInt64) ≠ 0 ↔
        window.recorded (newest - place) = true := distance ▸ bit_test (distance ▸ inside)
    have known : window.recorded (newest - place) = true ↔ place ∈ places := by
      rw [records.bits _ inside]
      constructor
      · rintro ⟨other, member, same⟩
        have identical : other = place := by omega
        exact identical ▸ member
      · intro member
        exact ⟨place, member, by omega⟩
    have early : ¬place + 64 ≤ newest := by omega
    by_cases member : place ∈ places
    · have refused : window.accept (UInt16.ofNat place) = (window, false) := by
        simp only [accept, records.any, Bool.not_true, Bool.false_eq_true, if_false,
          if_neg older, distance, if_neg late, if_pos (tested.mpr (known.mpr member))]
      rw [refused]
      refine ⟨?_, records.again behind (.inl member)⟩
      simp [member, early]
    · have unset : ¬(window.bitmap &&& (1 <<< (window.top - UInt16.ofNat place).toUInt64) ≠ 0) :=
        fun set => member (known.mp (tested.mp set))
      have added : window.accept (UInt16.ofNat place) = ({ window with
          bitmap := window.bitmap ||| (1 <<< (window.top - UInt16.ofNat place).toUInt64)
            }, true) := by
        simp only [accept, records.any, Bool.not_true, Bool.false_eq_true, if_false,
          if_neg older, distance, if_neg late, if_neg unset]
      rw [added]
      refine ⟨?_, records.any, mem_cons_of_mem _ records.presented, latest, records.top, ?_⟩
      · simp [member]
      · intro gap bounded
        have single : (1#64 <<< (newest - place)).getLsbD gap = decide (place + gap = newest) := by
          rw [mask_bit bounded]
          congr 1
          apply propext
          omega
        have bit := records.bits gap bounded
        unfold recorded at bit ⊢
        simp only [UInt64.toBitVec_or, BitVec.getLsbD_or, Bool.or_eq_true, bit,
          toBitVec_shiftLeft_toUInt64 (distance ▸ inside), distance]
        change _ ∨ (1#64 <<< (newest - place)).getLsbD gap = true ↔ _
        simp only [single, decide_eq_true_eq, mem_cons, exists_eq_or_imp]
        exact or_comm

/-- The numbers at these places have been presented to the window. -/
def Knows (window : SeqWindow) (places : List Nat) : Prop := ∃ newest, window.Records places newest

/-- A number less than half a turn from all presented ones is accepted exactly if it is new
or lies 64 or more behind one of them. -/
theorem Knows.accept (knows : window.Knows places)
    (near : ∀ other ∈ places, place < other + 32768 ∧ other < place + 32768) :
    ((window.accept (UInt16.ofNat place)).2 = true ↔
        place ∉ places ∨ ∃ newer ∈ places, place + 64 ≤ newer) ∧
      (window.accept (UInt16.ofNat place)).1.Knows (place :: places) := by
  obtain ⟨newest, records⟩ := knows
  obtain ⟨below, above⟩ := near newest records.presented
  rcases Nat.lt_or_ge newest place with ahead | behind
  · obtain ⟨accepted, recorded⟩ := accept_ahead records ahead below
    refine ⟨iff_of_true accepted (.inl ?_), place, recorded⟩
    intro member
    exact absurd (records.latest place member) (Nat.not_le_of_lt ahead)
  · obtain ⟨accepted, recorded⟩ := accept_behind records behind above
    refine ⟨?_, newest, recorded⟩
    rw [accepted]
    constructor
    · rintro (unknown | late)
      · exact .inl unknown
      · exact .inr ⟨newest, records.presented, late⟩
    · rintro (unknown | ⟨newer, member, late⟩)
      · exact .inl unknown
      · exact .inr (late.trans (records.latest newer member))

end SeqWindow

namespace Transport

/-- The sender after it allocated some sequence numbers. -/
def allocated (sender : Transport) : Nat → Transport
  | 0 => sender
  | count + 1 => (sender.allocated count).nextSeq.1

/-- The sequence number of an allocation. -/
def seqAt (sender : Transport) (index : Nat) : UInt16 := (sender.allocated index).nextSeq.2

/-- The sequence number of an allocation, without wrapping and with the skipped zeros
counted. -/
def place (sender : Transport) : Nat → Nat
  | 0 => sender.seqCounter.toNat
  | index + 1 => if (sender.place index + 1) % 65536 = 0 then sender.place index + 2
    else sender.place index + 1

variable (sender : Transport)

theorem seqAt_eq (index : Nat) : sender.seqAt index = UInt16.ofNat (sender.place index) := by
  unfold seqAt
  induction index with
  | zero =>
    change sender.seqCounter = UInt16.ofNat sender.seqCounter.toNat
    rw [UInt16.ofNat_toNat]
  | succ index ih =>
    have counter : (sender.allocated index).seqCounter = UInt16.ofNat (sender.place index) := ih
    change (if (sender.allocated index).seqCounter + 1 = 0 then 1
      else (sender.allocated index).seqCounter + 1) = UInt16.ofNat (sender.place (index + 1))
    have wraps : UInt16.ofNat (sender.place index) + 1 = 0 ↔
        (sender.place index + 1) % 65536 = 0 := by
      rw [← UInt16.toNat_inj]
      simp
    rw [counter, place]
    by_cases wrapped : (sender.place index + 1) % 65536 = 0
    · rw [if_pos (wraps.mpr wrapped), if_pos wrapped]
      apply UInt16.toNat_inj.mp
      simp
      omega
    · rw [if_neg (fun zero => wrapped (wraps.mp zero)), if_neg wrapped]
      apply UInt16.toNat_inj.mp
      simp

theorem place_lt_succ (index : Nat) : sender.place index < sender.place (index + 1) := by
  rw [place]
  split <;> omega

theorem place_strictMono : StrictMono sender.place := strictMono_nat_of_lt_succ sender.place_lt_succ

/-- Numbers less than half a turn apart differ if their allocations do. -/
theorem seqAt_injective {first second : Nat}
    (near : sender.place first < sender.place second + 32768 ∧
      sender.place second < sender.place first + 32768)
    (same : sender.seqAt first = sender.seqAt second) : first = second := by
  apply sender.place_strictMono.injective
  rw [seqAt_eq, seqAt_eq, ← UInt16.toNat_inj, UInt16.toNat_ofNat', UInt16.toNat_ofNat'] at same
  omega

/-- A call of the deduplication: the peer presents one of its numbers, or somebody else
presents any number. -/
inductive Arrival where
  | fromPeer (index now : Nat)
  | fromOther (sender : Address) (seq : UInt16) (now : Nat)

/-- The receiver after a call, and whether the number was new. -/
def arrive (peer : Address) (origin receiver : Transport) : Arrival → Transport × Bool
  | .fromPeer index now => receiver.acceptIncoming peer (origin.seqAt index) now
  | .fromOther sender seq now => receiver.acceptIncoming sender seq now

/-- The indices the peer presents. -/
def presented : List Arrival → List Nat
  | [] => []
  | .fromPeer index _ :: rest => index :: presented rest
  | .fromOther _ _ _ :: rest => presented rest

/-- The numbers of the peer that are accepted, in order. -/
def accepted (peer : Address) (origin : Transport) : Transport → List Arrival → List UInt16
  | _, [] => []
  | receiver, arrival :: rest =>
    let result := arrive peer origin receiver arrival
    match arrival with
    | .fromPeer index _ =>
      if result.2 then origin.seqAt index :: accepted peer origin result.1 rest
      else accepted peer origin result.1 rest
    | .fromOther _ _ _ => accepted peer origin result.1 rest

/-- The calls do not evict the window of the peer, and the others do not speak for it. -/
def Retained (peer : Address) (origin : Transport) : Transport → List Arrival → Prop
  | _, [] => True
  | receiver, arrival :: rest =>
    let result := arrive peer origin receiver arrival
    (match arrival with
      | .fromPeer _ _ => True
      | .fromOther sender _ _ => sender ≠ peer ∧
          (receiver.windows.contains peer = true → result.1.windows.contains peer = true)) ∧
      Retained peer origin result.1 rest

/-- Whenever a sequence number is presented again, none of the numbers presented before lies
64 or more ahead of it. -/
def Timely (origin : Transport) (seq : UInt16) : List Nat → List Arrival → Prop
  | _, [] => True
  | earlier, .fromPeer index _ :: rest =>
    (origin.seqAt index = seq → index ∈ earlier →
      ∀ newer ∈ earlier, origin.place newer < origin.place index + 64) ∧
      Timely origin seq (index :: earlier) rest
  | earlier, .fromOther _ _ _ :: rest => Timely origin seq earlier rest

/-- The window of a peer after it presented some indices. -/
def Remembers (peer : Address) (origin receiver : Transport) (earlier : List Nat) : Prop :=
  match earlier with
  | [] => receiver.windows.get peer = none
  | _ :: _ => ∃ entry, receiver.windows.get peer = some entry ∧
      entry.1.Knows (earlier.map origin.place)

variable {receiver origin : Transport} {sender peer : Address} {earlier : List Nat}

/-- A sender is judged by its window, or by an empty one. -/
theorem acceptIncoming_own (receiver : Transport) (sender : Address) (seq : UInt16) (now : Nat) :
    let window := ((receiver.windows.get sender).map Prod.fst).getD SeqWindow.default
    (receiver.acceptIncoming sender seq now).2 = (window.accept seq).2 ∧
      (receiver.acceptIncoming sender seq now).1.windows.get sender =
        some ((window.accept seq).1, now) := by
  cases found : receiver.windows.get sender with
  | some entry => simp [acceptIncoming, OrderedMap.contains, OrderedMap.getOrDefault, found]
  | none =>
    have missing (victim : Address) : (receiver.windows.remove victim).get sender = none := by
      rw [OrderedMap.get_remove, found, ite_self]
    unfold acceptIncoming
    dsimp only
    split
    · split
      · simp [OrderedMap.getOrDefault, missing]
      · simp [OrderedMap.getOrDefault, found]
    · simp [OrderedMap.getOrDefault, found]

/-- A call for one sender keeps the window of another or evicts it. -/
theorem acceptIncoming_other (receiver : Transport) (distinct : peer ≠ sender)
    (seq : UInt16) (now : Nat) :
    (receiver.acceptIncoming sender seq now).1.windows.get peer = receiver.windows.get peer ∨
      (receiver.acceptIncoming sender seq now).1.windows.get peer = none := by
  unfold acceptIncoming
  dsimp only
  rw [OrderedMap.get_insert_of_ne _ _ distinct]
  split
  · split
    · rw [OrderedMap.get_remove]
      split
      · exact .inr rfl
      · exact .inl rfl
    · exact .inl rfl
  · exact .inl rfl

/-- A new number of the peer is judged by its window. -/
theorem Remembers.fromPeer
    {index : Nat} (now : Nat) (remembers : Remembers peer origin receiver earlier)
    (near : ∀ other ∈ earlier, origin.place index < origin.place other + 32768 ∧
      origin.place other < origin.place index + 32768) :
    ((receiver.acceptIncoming peer (origin.seqAt index) now).2 = true ↔
        index ∉ earlier ∨ ∃ newer ∈ earlier, origin.place index + 64 ≤ origin.place newer) ∧
      Remembers peer origin (receiver.acceptIncoming peer (origin.seqAt index) now).1
        (index :: earlier) := by
  rw [seqAt_eq]
  cases earlier with
  | nil =>
    have own := receiver.acceptIncoming_own peer (UInt16.ofNat (origin.place index)) now
    rw [show receiver.windows.get peer = none from remembers] at own
    obtain ⟨verdict, stored⟩ := own
    obtain ⟨accepted, records⟩ := SeqWindow.accept_default (origin.place index)
    refine ⟨iff_of_true (verdict.trans accepted) (.inl not_mem_nil), _, stored, _, records⟩
  | cons previous older =>
    obtain ⟨entry, known, knows⟩ := remembers
    have own := receiver.acceptIncoming_own peer (UInt16.ofNat (origin.place index)) now
    simp only [known, Option.map_some, Option.getD_some] at own
    obtain ⟨verdict, stored⟩ := own
    have apart : ∀ other ∈ (previous :: older).map origin.place,
        origin.place index < other + 32768 ∧ other < origin.place index + 32768 := by
      intro other member
      obtain ⟨allocation, presented, rfl⟩ := mem_map.mp member
      exact near allocation presented
    obtain ⟨accepted, recorded⟩ := knows.accept apart
    refine ⟨?_, _, stored, recorded⟩
    have fresh : origin.place index ∉ (previous :: older).map origin.place ↔
        index ∉ previous :: older := by
      rw [not_iff_not, mem_map]
      constructor
      · rintro ⟨other, member, same⟩
        exact origin.place_strictMono.injective same ▸ member
      · intro member
        exact ⟨index, member, rfl⟩
    have late : (∃ newer ∈ (previous :: older).map origin.place, origin.place index + 64 ≤ newer) ↔
        ∃ newer ∈ previous :: older, origin.place index + 64 ≤ origin.place newer := by
      constructor
      · rintro ⟨_, member, behind⟩
        obtain ⟨newer, presented, rfl⟩ := mem_map.mp member
        exact ⟨newer, presented, behind⟩
      · rintro ⟨newer, presented, behind⟩
        exact ⟨_, mem_map_of_mem presented, behind⟩
    rw [verdict, accepted, fresh, late]

/-- Somebody else's number leaves the window of the peer alone, unless it evicts it. -/
theorem Remembers.fromOther (seq : UInt16) (now : Nat)
    (remembers : Remembers peer origin receiver earlier) (distinct : sender ≠ peer)
    (retained : receiver.windows.contains peer = true →
      (receiver.acceptIncoming sender seq now).1.windows.contains peer = true) :
    Remembers peer origin (receiver.acceptIncoming sender seq now).1 earlier := by
  have outcome := receiver.acceptIncoming_other distinct.symm seq now
  cases earlier with
  | nil =>
    rcases outcome with same | evicted
    · exact same.trans remembers
    · exact evicted
  | cons previous older =>
    obtain ⟨entry, known, knows⟩ := remembers
    rcases outcome with same | evicted
    · exact ⟨entry, same.trans known, knows⟩
    · have kept := retained (by rw [OrderedMap.contains, known]; rfl)
      rw [OrderedMap.contains, evicted] at kept
      cases kept

/-- What is left of a run accepts a number at most once, and not at all if it was presented
before. -/
theorem accepted_count_le {seq : UInt16} {arrivals : List Arrival}
    (remembers : Remembers peer origin receiver earlier)
    (near : ∀ first ∈ earlier ++ presented arrivals, ∀ second ∈ earlier ++ presented arrivals,
      origin.place first < origin.place second + 32768)
    (retained : Retained peer origin receiver arrivals)
    (timely : Timely origin seq earlier arrivals) :
    (accepted peer origin receiver arrivals).count seq ≤
      if seq ∈ earlier.map origin.seqAt then 0 else 1 := by
  induction arrivals generalizing receiver earlier with
  | nil => exact Nat.zero_le _
  | cons arrival rest ih =>
    obtain ⟨calm, laterRetained⟩ := retained
    cases arrival with
    | fromOther sender other now =>
      exact ih (remembers.fromOther other now calm.1 calm.2) near laterRetained timely
    | fromPeer index now =>
      obtain ⟨punctual, laterTimely⟩ := timely
      have spread : ∀ other ∈ earlier, origin.place index < origin.place other + 32768 ∧
          origin.place other < origin.place index + 32768 := by
        intro other member
        have here : index ∈ earlier ++ presented (.fromPeer index now :: rest) :=
          mem_append_right _ mem_cons_self
        have there := mem_append_left (presented (.fromPeer index now :: rest)) member
        exact ⟨near index here other there, near other there index here⟩
      obtain ⟨verdict, remembered⟩ := remembers.fromPeer now spread
      have later := ih remembered (by
        intro first firstMember second secondMember
        refine near first ?_ second ?_
        · simpa [presented, or_left_comm] using firstMember
        · simpa [presented, or_left_comm] using secondMember) laterRetained laterTimely
      -- The same number means the same allocation.
      have known : origin.seqAt index = seq → (seq ∈ earlier.map origin.seqAt ↔
          index ∈ earlier) := by
        rintro rfl
        constructor
        · intro member
          obtain ⟨other, presentedBefore, same⟩ := mem_map.mp member
          exact origin.seqAt_injective (spread other presentedBefore) same.symm ▸ presentedBefore
        · exact mem_map_of_mem
      change (if (receiver.acceptIncoming peer (origin.seqAt index) now).2 = true then _
        else _ : List UInt16).count seq ≤ _
      by_cases same : origin.seqAt index = seq
      · rw [if_pos (by rw [map_cons, same]; exact mem_cons_self)] at later
        by_cases member : index ∈ earlier
        · have refused : ¬(receiver.acceptIncoming peer (origin.seqAt index) now).2 = true := by
            rw [verdict]
            rintro (unknown | ⟨newer, presentedBefore, behind⟩)
            · exact unknown member
            · exact absurd (punctual same member newer presentedBefore) (Nat.not_lt_of_le behind)
          rw [if_neg refused]
          exact later.trans (Nat.zero_le _)
        · rw [if_neg (fun before => member ((known same).mp before)), if_pos (verdict.mpr
            (.inl member)), same, count_cons_self]
          exact Nat.succ_le_succ later
      · have others : seq ∈ (index :: earlier).map origin.seqAt ↔
            seq ∈ earlier.map origin.seqAt := by
          simp only [map_cons, mem_cons, or_iff_right (Ne.symm same)]
        simp only [others] at later
        split
        · rw [count_cons_of_ne same]
          exact later
        · exact later

/-- Over any calls that do not evict the window of a peer, whose numbers are less than half a
turn apart with skipped zeros counted, a number that is never presented again 64 or more
behind the newest is accepted at most once. -/
theorem accepted_at_most_once (peer : Address) (origin receiver : Transport)
    (arrivals : List Arrival) (unknown : receiver.windows.get peer = none)
    (retained : Retained peer origin receiver arrivals)
    (near : ∀ first ∈ presented arrivals, ∀ second ∈ presented arrivals,
      origin.place first < origin.place second + 32768)
    (seq : UInt16) (timely : Timely origin seq [] arrivals) :
    (accepted peer origin receiver arrivals).count seq ≤ 1 := by
  have remembers : Remembers peer origin receiver [] := unknown
  exact accepted_count_le remembers near retained timely

end Transport

namespace Deduplication

def peer : Address := ⟨7⟩

/-- A transport whose next sequence number is given and which knows nobody. -/
def counting (next : UInt16) : Transport := Transport.new TransportConfig.default next

/-- Two numbers of the peer with a number of somebody else in between, and the first again. -/
def repeated (gap : Nat) : List Transport.Arrival :=
  [.fromPeer 0 10, .fromPeer gap 20, .fromOther ⟨9⟩ 5 30, .fromPeer 0 40]

/-- Counting up from the last number, every later one lies one behind its unwrapped place. -/
theorem place_after_last (index : Nat) (small : index < 65535) :
    (counting 65535).place (index + 1) = 65537 + index := by
  induction index with
  | zero => rfl
  | succ index ih =>
    rw [Transport.place, ih (by omega), if_neg (by omega)]
    omega

end Deduplication

open Deduplication

/-- A number that comes back 64 behind the newest is accepted again. So is a number half a
turn ahead of the newest when the skipped zero lies in between. -/
theorem old_number_accepted_twice : ((counting 1).windows.get peer = none ∧
      Transport.Retained peer (counting 1) (counting 1) (repeated 64) ∧
      Transport.presented (repeated 64) = [0, 64, 0] ∧
      Transport.accepted peer (counting 1) (counting 1) (repeated 64) = [1, 65, 1]) ∧
    Transport.accepted peer (counting 65535) (counting 1)
      [.fromPeer 0 10, .fromPeer 32767 20, .fromPeer 32767 30] = [65535, 32767, 32767] := by
  refine ⟨⟨rfl, ?_, rfl, by decide +kernel⟩, ?_⟩
  · exact ⟨trivial, trivial, ⟨by decide, fun _ => by decide +kernel⟩, trivial, trivial⟩
  · have first : (counting 65535).seqAt 0 = 65535 := rfl
    have second : (counting 65535).seqAt 32767 = 32767 := by
      rw [Transport.seqAt_eq, place_after_last 32766 (by decide)]
      rfl
    simp only [Transport.accepted, Transport.arrive, first, second]
    decide +kernel

/-- A number that comes back in time is accepted once. -/
theorem accepted_at_most_once_in_time :
    (Transport.accepted peer (counting 1) (counting 1) (repeated 63)).count 1 ≤ 1 := by
  have places : ∀ index ≤ 63, (counting 1).place index = 1 + index := by decide
  apply Transport.accepted_at_most_once peer (counting 1) (counting 1) (repeated 63) rfl
  · exact ⟨trivial, trivial, ⟨by decide, fun _ => by decide +kernel⟩, trivial, trivial⟩
  · intro first firstMember second secondMember
    have bound : ∀ index ∈ Transport.presented (repeated 63), index ≤ 63 := by decide
    rw [places first (bound first firstMember), places second (bound second secondMember)]
    have := bound first firstMember
    omega
  · refine ⟨fun _ impossible => (nomatch impossible), ?_, ?_, trivial⟩
    · intro different
      exact absurd different (by decide +kernel)
    · intro _ _ newer member
      have bound : newer ≤ 63 := by
        have small : ∀ index ∈ [63, 0], index ≤ 63 := by decide
        exact small newer member
      rw [places newer bound, places 0 (by decide)]
      omega

end MeshStar
