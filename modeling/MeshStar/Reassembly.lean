import MeshStar.Fragmentation
import MeshStar.Library.Slots
import MeshStar.PacketCodec

/-!
# Reassembly in any order

A message is split into chunks, each under its index and the number of all of them. The
receiver's partial message is described by the indices that have arrived. A repeated
fragment changes nothing, a new one fills its slot, and the one that was missing last
completes the message: the chunks in the order of their indices, however they arrived.
-/

namespace MeshStar

/-- The chunks of a body, joined, are the part of the body they cover. -/
theorem chunks_flatten (chunk count : Nat) (body : Bytes) :
    (chunks chunk count body).flatten = body.take (count * chunk) := by
  induction count generalizing body with
  | zero => simp [chunks]
  | succ count ih =>
    rw [chunks, List.flatten_cons, ih, Nat.succ_mul, Nat.add_comm, List.take_add]

theorem chunks_length (chunk count : Nat) (body : Bytes) :
    (chunks chunk count body).length = count := by
  induction count generalizing body with
  | zero => rfl
  | succ count ih => rw [chunks, List.length_cons, ih]

/-- The sub-header of the chunk at an index. -/
def fragmentHeader (fragId : UInt16) (items : List Bytes) (index : Nat) : FragHeader :=
  ⟨fragId, UInt8.ofNat index, UInt8.ofNat items.length⟩

/-- The chunks of a message under their sub-headers. -/
def fragmentsOf (fragId : UInt16) (items : List Bytes) : List (FragHeader × Bytes) :=
  items.zipIdx.map (fun part => (fragmentHeader fragId items part.2, part.1))

theorem fragmentsOf_getElem (fragId : UInt16) (items : List Bytes) (index : Nat) :
    (fragmentsOf fragId items)[index]? =
      items[index]?.map (fun item => (fragmentHeader fragId items index, item)) := by
  rw [fragmentsOf, List.getElem?_map, List.getElem?_zipIdx, Option.map_map, Nat.zero_add]
  rfl

/-- A list of chunks one byte can count. -/
structure Countable (items : List Bytes) : Prop where
  nonempty : 0 < items.length
  few : items.length ≤ 255

/-- The byte that counts the chunks is their number. -/
theorem Countable.total {items : List Bytes} (countable : Countable items) (fragId : UInt16)
    (index : Nat) : (fragmentHeader fragId items index).total.toNat = items.length := by
  have few := countable.few
  exact UInt8.toNat_ofNat_of_lt' (by rw [UInt8.size]; omega)

/-- The index byte of a chunk is its position. -/
theorem Countable.index {items : List Bytes} (countable : Countable items) (fragId : UInt16)
    {index : Nat} (inside : index < items.length) :
    (fragmentHeader fragId items index).index.toNat = index := by
  have few := countable.few
  exact UInt8.toNat_ofNat_of_lt' (by rw [UInt8.size]; omega)

/-- The index of a chunk is below their number. -/
theorem Countable.proper {items : List Bytes} (countable : Countable items) (fragId : UInt16)
    {index : Nat} (inside : index < items.length) :
    (fragmentHeader fragId items index).index < (fragmentHeader fragId items index).total := by
  rw [UInt8.lt_iff_toNat_lt, countable.total, countable.index fragId inside]
  exact inside

/-- Enough chunks cover the body. -/
theorem chunks_cover {chunk : Nat} (positive : chunk ≠ 0) (body : Bytes) :
    body.length ≤ max ((body.length + chunk - 1) / chunk) 1 * chunk := by
  have rounded := Nat.lt_div_mul_add (a := body.length + chunk - 1) (b := chunk) (by omega)
  have larger : (body.length + chunk - 1) / chunk * chunk ≤
      max ((body.length + chunk - 1) / chunk) 1 * chunk :=
    Nat.mul_le_mul_right chunk (Nat.le_max_left _ _)
  omega

/-- Splitting a body frames chunks that make up the body. -/
theorem split_fragments {fragId : UInt16} {body : Bytes} {chunk : Nat}
    {parts : List (FragHeader × Bytes)} (splitted : split fragId body chunk = some parts) :
    ∃ items, Countable items ∧ items.flatten = body ∧ parts = fragmentsOf fragId items := by
  unfold split at splitted
  split at splitted
  · cases splitted
  rename_i positive
  simp only at splitted
  split at splitted
  · cases splitted
  rename_i few
  have cover := chunks_cover positive body
  have nonempty := Nat.le_max_right ((body.length + chunk - 1) / chunk) 1
  generalize max ((body.length + chunk - 1) / chunk) 1 = total at *
  refine ⟨chunks chunk total body, ⟨?_, ?_⟩, ?_, ?_⟩
  · rwa [chunks_length]
  · rw [chunks_length]
    exact Nat.le_of_not_lt few
  · rw [chunks_flatten, List.take_of_length_le cover]
  · simp only [fragmentsOf, fragmentHeader, chunks_length]
    exact (Option.some.inj splitted).symm

/-- A sub-header with a proper index comes back from the payload it starts. -/
theorem FragHeader.parse_frameFragment {header : FragHeader} (proper : header.index < header.total)
    (chunk : Bytes) : FragHeader.parse (frameFragment header chunk) = .ok header := by
  obtain ⟨fragId, index, total⟩ := header
  have read : UInt16.ofNat (BigEndian.decode (BigEndian.encode 2 fragId.toNat)) = fragId := by
    rw [BigEndian.decode_encode_of_lt 2 _ fragId.toNat_lt, UInt16.ofNat_toNat]
  have digits : (BigEndian.encode 2 fragId.toNat).length = 2 := BigEndian.encode_length _ _
  obtain ⟨high, low, field⟩ := List.length_eq_two.mp digits
  rw [field] at read
  have someTotal : ¬(total = 0 ∨ index ≥ total) := by
    rintro (rfl | large)
    · exact absurd proper (UInt8.not_lt_zero)
    · exact absurd proper (UInt8.not_lt.mpr large)
  have enough : ¬(frameFragment ⟨fragId, index, total⟩ chunk).length < fragHeaderLen := by
    simp [frameFragment, write, field, fragHeaderLen]
  rw [parse, if_neg enough]
  simp only [frameFragment, write, field, slice, byteAt, List.cons_append, List.nil_append,
    List.take_succ_cons, List.take_zero, List.drop_zero, List.getD_cons_succ, List.getD_cons_zero,
    read]
  rw [if_neg someTotal]

/-- Behind the sub-header stands the chunk. -/
theorem frameFragment_drop (header : FragHeader) (chunk : Bytes) :
    (frameFragment header chunk).drop fragHeaderLen = chunk := by
  have length : header.write.length = fragHeaderLen := by
    simp [FragHeader.write, fragHeaderLen]
  rw [frameFragment, ← length, List.drop_left]

/-- A partial message holds the chunks at the indices that have arrived. -/
structure FragSet.Collects (set : FragSet) (items : List Bytes) (seen : List Nat) : Prop where
  parts : set.parts = Slots.collected items seen
  received : set.received = Slots.filled (Slots.collected items seen)

/-- What the reassembler has of a message: nothing before the first fragment. -/
def Collected (items : List Bytes) (seen : List Nat) : Option FragSet → Prop
  | none => seen = []
  | some set => set.Collects items seen

namespace Reassembler

variable {items : List Bytes} {seen : List Nat}

/-- A fresh partial message holds nothing. -/
theorem fresh_collects (items : List Bytes) (now : Nat) :
    FragSet.Collects ⟨List.replicate items.length none, 0, 0, now⟩ items [] := by
  refine ⟨(Slots.collected_nil items).symm, ?_⟩
  rw [Slots.collected_nil, Slots.filled, List.countP_replicate]
  rfl

/-- Unless there is no room, a fragment goes to the partial message of its key. -/
theorem push_eq_fill {reassembler : Reassembler} {now : Nat} {src : Address} {header : FragHeader}
    {chunk : Bytes} (total : header.total.toNat = items.length)
    (sofar : Collected items seen (reassembler.sets.get ⟨src, header.fragId⟩))
    (room : (reassembler.push now src header chunk).2 ≠ .error .full) :
    ∃ (opened : Reassembler) (set : FragSet), set.Collects items seen ∧
      opened.sets.get ⟨src, header.fragId⟩ = some set ∧
      reassembler.push now src header chunk =
        opened.fill ⟨src, header.fragId⟩ set header chunk := by
  cases found : reassembler.sets.get ⟨src, header.fragId⟩ with
  | some set =>
    rw [found] at sofar
    refine ⟨reassembler, set, sofar, found, ?_⟩
    have known : reassembler.sets.contains ⟨src, header.fragId⟩ = true :=
      (OrderedMap.contains_eq_true_iff _ _).mpr ⟨set, found⟩
    simp only [push, open_, known, if_true, found]
  | none =>
    rw [found] at sofar
    have unknown : reassembler.sets.contains ⟨src, header.fragId⟩ = false := by
      rw [OrderedMap.contains, found]
      rfl
    simp only [push, open_, unknown, Bool.false_eq_true, if_false] at room ⊢
    generalize (if reassembler.sets.size ≥ reassembler.cfg.maxSets then reassembler.evictOldest
      else reassembler) = emptied at room ⊢
    by_cases crowded : emptied.sets.size ≥ emptied.cfg.maxSets
    · rw [if_pos crowded] at room
      exact absurd rfl room
    · have fresh : Collected items seen (some ⟨List.replicate header.total.toNat none, 0,
          0, now⟩) := by
        rw [total, sofar]
        exact fresh_collects items now
      rw [if_neg crowded]
      refine ⟨{ emptied with sets := emptied.sets.insert _ _ }, _, fresh,
        OrderedMap.get_insert_self _ _ _, ?_⟩
      simp only [OrderedMap.get_insert_self]

variable {src : Address} {fragId : UInt16} {set : FragSet} {index : Nat} {item : Bytes}

/-- The slot of an index tells whether it has arrived. -/
theorem slot_isSome (present : items[index]? = some item) (collects : set.Collects items seen) :
    (set.parts.getD index none).isSome = decide (index ∈ seen) := by
  rw [collects.parts, List.getD_eq_getElem?_getD, Slots.collected_getElem, present]
  by_cases arrived : index ∈ seen
  · simp [arrived]
  · simp [arrived]

/-- Once every chunk has arrived, the slots joined are the message. -/
theorem collected_flatten (all : ∀ position < items.length, position ∈ seen) :
    (Slots.collected items seen).flatMap (fun part => part.getD []) = items.flatten := by
  rw [Slots.collected_all all, List.flatMap_map, List.flatMap_def]
  simp

section Push

variable {reassembler : Reassembler} {now : Nat} (countable : Countable items)
  (present : items[index]? = some item)
  (sofar : Collected items seen (reassembler.sets.get ⟨src, fragId⟩))
  {result : Reassembler × Except Error (Option Bytes)}
  (arrives : reassembler.push now src (fragmentHeader fragId items index) item = result)
  (room : result.2 ≠ .error .full)

include countable present sofar arrives room

/-- A fragment that arrived before is a duplicate and changes nothing. -/
theorem push_repeated (arrived : index ∈ seen) : result.2 = .error .duplicate ∧
      Collected items seen (result.1.sets.get ⟨src, fragId⟩) := by
  subst arrives
  have inside : index < items.length := (List.getElem?_eq_some_iff.mp present).1
  have total := countable.total fragId index
  obtain ⟨opened, set, collects, found, pushed⟩ := push_eq_fill total sofar room
  have consistent : set.parts.length = items.length := by
    rw [collects.parts, Slots.collected_length]
  have slot : (set.parts.getD index none).isSome = true := by
    rw [slot_isSome present collects, decide_eq_true arrived]
  have repeated : opened.fill ⟨src, fragId⟩ set (fragmentHeader fragId items index) item =
      (opened, .error .duplicate) := by
    rw [fill, total, consistent, if_neg (not_not_intro rfl), countable.index fragId inside,
      if_pos slot]
  rw [pushed]
  have key : (fragmentHeader fragId items index).fragId = fragId := rfl
  rw [key, repeated]
  refine ⟨rfl, ?_⟩
  rw [show opened.sets.get ⟨src, fragId⟩ = some set from found]
  exact collects

variable (missing : index ∉ seen)

include missing

/-- A fragment that is new fills its slot. -/
theorem push_new : (result.2 =
        .ok (some ((Slots.collected items (index :: seen)).flatMap (fun part => part.getD []))) ∧
      Slots.filled (Slots.collected items (index :: seen)) = items.length) ∨
    (result.2 = .ok none ∧ Slots.filled (Slots.collected items (index :: seen)) ≠ items.length ∧
      Collected items (index :: seen) (result.1.sets.get ⟨src, fragId⟩)) := by
  subst arrives
  have inside : index < items.length := (List.getElem?_eq_some_iff.mp present).1
  have total := countable.total fragId index
  obtain ⟨opened, set, collects, found, pushed⟩ := push_eq_fill total sofar room
  have consistent : set.parts.length = items.length := by
    rw [collects.parts, Slots.collected_length]
  have slot : ¬(set.parts.getD index none).isSome = true := by
    rw [slot_isSome present collects, decide_eq_true_eq]
    exact missing
  have empty : (Slots.collected items seen)[index]? = some none := by
    simp [Slots.collected_getElem, present, missing]
  have parts : set.parts.set index (some item) = Slots.collected items (index :: seen) := by
    rw [collects.parts, Slots.collected_set present]
  have received : set.received + 1 = Slots.filled (Slots.collected items (index :: seen)) := by
    rw [collects.received, ← Slots.collected_set present, Slots.filled_set item empty]
  rw [pushed, fill, total, consistent, if_neg (not_not_intro rfl), countable.index fragId inside,
    if_neg slot] at room ⊢
  split at room
  · exact absurd rfl room
  · rename_i fits
    rw [if_neg fits]
    simp only [parts, received, Slots.collected_length]
    split
    · rename_i complete
      exact .inl ⟨rfl, complete⟩
    · rename_i incomplete
      refine .inr ⟨rfl, incomplete, ?_⟩
      rw [show (fragmentHeader fragId items index).fragId = fragId from rfl,
        OrderedMap.get_insert_self]
      exact ⟨rfl, rfl⟩

/-- While another chunk is missing, a new fragment is kept. -/
theorem push_incomplete (other : ∃ position < items.length, position ∉ index :: seen) :
    result.2 = .ok none ∧ Collected items (index :: seen) (result.1.sets.get ⟨src, fragId⟩) := by
  obtain ⟨position, inside, absent⟩ := other
  have short := Slots.filled_lt inside absent
  rcases push_new countable present sofar arrives room missing with ⟨_, full⟩ | ⟨kept, _, collected⟩
  · omega
  · exact ⟨kept, collected⟩

/-- The chunk that was missing last completes the message. -/
theorem push_complete (all : ∀ position < items.length, position ∈ index :: seen) :
    result.2 = .ok (some items.flatten) := by
  have full := Slots.filled_all all
  rcases push_new countable present sofar arrives room missing with ⟨whole, _⟩ | ⟨_, short, _⟩
  · rw [whole, collected_flatten all]
  · exact absurd full short

end Push

end Reassembler

end MeshStar
