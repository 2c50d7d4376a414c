import Mathlib.Data.List.Pairwise
import Mathlib.Logic.Function.Basic

/-!
# Maps kept as key-ordered entry lists

A map is a list of entries whose keys strictly increase. The order is part of the
value, so iteration is deterministic and a key has at most one entry without any
separate distinctness argument. Keys are compared through an injective rank; the
lookup laws below are the only interface later proofs need.

Insertion replaces in place or inserts at the key's position, removal and retention
delete entries, and value updates keep every key. Each operation returns another
ordered map, hence no operation can produce a duplicated or misplaced key.
-/

/-- Keys with an injective natural-number rank, which fixes their order. -/
class KeyRank (κ : Type) where
  rank : κ → Nat
  rank_injective : Function.Injective rank

namespace KeyRank

variable {κ : Type} [KeyRank κ]

theorem rank_eq_iff {left right : κ} : rank left = rank right ↔ left = right :=
  ⟨fun same => rank_injective same, congrArg rank⟩

end KeyRank

/-- Entries with strictly increasing keys. -/
structure OrderedMap (κ ν : Type) [KeyRank κ] where
  entries : List (κ × ν)
  ordered : entries.Pairwise (fun left right => KeyRank.rank left.1 < KeyRank.rank right.1)

namespace OrderedMap

open KeyRank List

variable {κ ν : Type} [KeyRank κ] {entries : List (κ × ν)} {key other : κ}

/-- Two maps with the same entries are equal; the order proof is irrelevant. -/
@[ext] theorem ext {left right : OrderedMap κ ν} (same : left.entries = right.entries) :
    left = right := by
  cases left
  cases right
  simp only [mk.injEq]
  exact same

/-- The map without entries. -/
def empty : OrderedMap κ ν := ⟨[], List.Pairwise.nil⟩

/-- Read the first entry whose key has the requested rank. -/
def lookup (key : κ) : List (κ × ν) → Option ν
  | [] => none
  | entry :: rest => if rank entry.1 = rank key then some entry.2 else lookup key rest

/-- The value stored under a key. -/
def get (map : OrderedMap κ ν) (key : κ) : Option ν := lookup key map.entries

/-- Whether a key has an entry. -/
def contains (map : OrderedMap κ ν) (key : κ) : Bool := (map.get key).isSome

/-- Keys in iteration order. -/
def keys (map : OrderedMap κ ν) : List κ := map.entries.map Prod.fst

/-- Values in iteration order. -/
def values (map : OrderedMap κ ν) : List ν := map.entries.map Prod.snd

/-- The number of entries. -/
def size (map : OrderedMap κ ν) : Nat := map.entries.length

/-- Replace the entry of a key or insert a new one at its position. -/
def place (key : κ) (value : ν) : List (κ × ν) → List (κ × ν)
  | [] => [(key, value)]
  | entry :: rest =>
    if rank key < rank entry.1 then (key, value) :: entry :: rest
    else if rank key = rank entry.1 then (key, value) :: rest
    else entry :: place key value rest

theorem mem_place {value : ν} {entry : κ × ν} (member : entry ∈ place key value entries) :
    entry = (key, value) ∨ entry ∈ entries := by
  induction entries with
  | nil => simpa [place] using member
  | cons head rest ih =>
    simp only [place] at member
    split at member
    · simpa using member
    · split at member
      · rcases mem_cons.mp member with same | later
        · exact .inl same
        · exact .inr (mem_cons_of_mem _ later)
      · rcases mem_cons.mp member with same | later
        · exact .inr (same ▸ mem_cons_self)
        · exact (ih later).imp id (mem_cons_of_mem _)

theorem place_ordered (key : κ) (value : ν)
    (ordered : entries.Pairwise (fun left right => rank left.1 < rank right.1)) :
    (place key value entries).Pairwise (fun left right => rank left.1 < rank right.1) := by
  induction entries with
  | nil => simp [place]
  | cons head rest ih =>
    obtain ⟨below, tail⟩ := pairwise_cons.mp ordered
    simp only [place]
    split
    · rename_i before
      refine pairwise_cons.mpr ⟨?_, ordered⟩
      intro entry member
      rcases mem_cons.mp member with same | later
      · subst same
        exact before
      · exact Nat.lt_trans before (below entry later)
    · split
      · rename_i same
        refine pairwise_cons.mpr ⟨?_, tail⟩
        intro entry member
        have following := below entry member
        simp only [same]
        exact following
      · rename_i notBefore notSame
        refine pairwise_cons.mpr ⟨?_, ih tail⟩
        intro entry member
        rcases mem_place member with same | later
        · subst same
          simp only
          omega
        · exact below entry later

/-- Store a value under a key, replacing any earlier value. -/
def insert (map : OrderedMap κ ν) (key : κ) (value : ν) : OrderedMap κ ν :=
  ⟨place key value map.entries, place_ordered key value map.ordered⟩

/-- Keep only the entries a test accepts. -/
def retain (map : OrderedMap κ ν) (keep : κ → ν → Bool) : OrderedMap κ ν :=
  ⟨map.entries.filter (fun entry => keep entry.1 entry.2), map.ordered.filter _⟩

/-- Delete the entry of a key. -/
def remove (map : OrderedMap κ ν) (key : κ) : OrderedMap κ ν :=
  map.retain (fun other _ => decide (rank other ≠ rank key))

/-- Rewrite every value in place. -/
def mapValues (map : OrderedMap κ ν) (change : κ → ν → ν) : OrderedMap κ ν :=
  ⟨map.entries.map (fun entry => (entry.1, change entry.1 entry.2)),
    List.pairwise_map.mpr map.ordered⟩

/-- Rewrite the value of one key, when it has one. -/
def modify (map : OrderedMap κ ν) (key : κ) (change : ν → ν) : OrderedMap κ ν :=
  map.mapValues (fun other value => if rank other = rank key then change value else value)

/-- The value of a key, inserting a default first when it is absent. -/
def getOrDefault (map : OrderedMap κ ν) (key : κ) (default : ν) : ν := (map.get key).getD default

theorem lookup_place (key other : κ) (value : ν) (entries : List (κ × ν)) :
    lookup other (place key value entries) =
      if rank other = rank key then some value else lookup other entries := by
  induction entries with
  | nil =>
    by_cases same : rank other = rank key
    · simp [place, lookup, same]
    · simp [place, lookup, same, Ne.symm same]
  | cons head rest ih =>
    simp only [place]
    split
    · by_cases same : rank other = rank key
      · simp [lookup, same]
      · simp [lookup, same, Ne.symm same]
    · split
      · rename_i replaced
        by_cases same : rank other = rank key
        · simp [lookup, same]
        · have distinct : ¬rank head.1 = rank other := by omega
          simp [lookup, same, Ne.symm same, distinct]
      · rename_i distinct
        by_cases here : rank head.1 = rank other
        · have apart : ¬rank other = rank key := by omega
          simp [lookup, here, apart]
        · simp [lookup, here, ih]

variable (map : OrderedMap κ ν)

/-- An inserted value is read back under its key and no other key changes. -/
theorem get_insert (key other : κ) (value : ν) :
    (map.insert key value).get other = if rank other = rank key then some value
      else map.get other := lookup_place key other value map.entries

@[simp] theorem get_insert_self (key : κ) (value : ν) :
    (map.insert key value).get key = some value := by
  simp [get_insert]

theorem get_insert_of_ne (value : ν) (distinct : other ≠ key) :
    (map.insert key value).get other = map.get other := by
  rw [get_insert, if_neg (fun same => distinct (rank_injective same))]

theorem lookup_eq_some_iff
    (ordered : entries.Pairwise (fun left right => rank left.1 < rank right.1)) (key : κ)
    (value : ν) : lookup key entries = some value ↔ (key, value) ∈ entries := by
  induction entries with
  | nil => simp [lookup]
  | cons head rest ih =>
    obtain ⟨below, tail⟩ := pairwise_cons.mp ordered
    simp only [lookup, mem_cons]
    split
    · rename_i same
      have sameKey : head.1 = key := rank_injective same
      constructor
      · intro found
        left
        ext
        · exact sameKey.symm
        · exact (Option.some.inj found).symm
      · rintro (found | later)
        · rw [← found]
        · have following := below _ later
          simp only at following
          omega
    · rename_i distinct
      rw [ih tail]
      constructor
      · exact .inr
      · rintro (found | later)
        · rw [← found] at distinct
          exact absurd rfl distinct
        · exact later

/-- Lookup and membership describe the same entries. -/
theorem get_eq_some_iff (key : κ) (value : ν) :
    map.get key = some value ↔ (key, value) ∈ map.entries :=
  lookup_eq_some_iff map.ordered key value

/-- The values of a map are those found under its keys. -/
theorem mem_values_iff {value : ν} : value ∈ map.values ↔ ∃ key, map.get key = some value := by
  simp only [values, mem_map, get_eq_some_iff]
  constructor
  · rintro ⟨⟨key, other⟩, member, rfl⟩
    exact ⟨key, member⟩
  · rintro ⟨key, member⟩
    exact ⟨(key, value), member, rfl⟩

/-- Retention keeps exactly the accepted values. -/
theorem get_retain_eq_some_iff {keep : κ → ν → Bool} {key : κ} {value : ν} :
    (map.retain keep).get key = some value ↔ map.get key = some value ∧ keep key value = true := by
  rw [get_eq_some_iff, get_eq_some_iff]
  simp [retain, mem_filter]

/-- A removed key has no value and no other key changes. -/
theorem get_remove (key other : κ) :
    (map.remove key).get other = if rank other = rank key then none else map.get other := by
  ext value
  rw [remove, get_retain_eq_some_iff]
  split <;> simp [*]

@[simp] theorem get_remove_self {key : κ} : (map.remove key).get key = none := by
  simp [get_remove]

theorem get_remove_of_ne (distinct : other ≠ key) : (map.remove key).get other = map.get other := by
  rw [get_remove, if_neg (fun same => distinct (rank_injective same))]

/-- A value rewrite acts on every stored value and on nothing else. -/
@[simp] theorem get_mapValues (change : κ → ν → ν) (key : κ) :
    (map.mapValues change).get key = (map.get key).map (change key) := by
  ext value
  simp only [get_eq_some_iff, Option.map_eq_some_iff, mapValues, mem_map, Prod.mk.injEq]
  constructor
  · rintro ⟨⟨_, stored⟩, member, rfl, rfl⟩
    exact ⟨stored, member, rfl⟩
  · rintro ⟨stored, member, rfl⟩
    exact ⟨(key, stored), member, rfl, rfl⟩

/-- Modifying one key rewrites its value, if any, and no other. -/
theorem get_modify (key other : κ) (change : ν → ν) : (map.modify key change).get other =
      if rank other = rank key then (map.get other).map change else map.get other := by
  rw [modify, get_mapValues]
  by_cases same : rank other = rank key
  · simp [same]
  · simp [same]

@[simp] theorem get_modify_self (key : κ) (change : ν → ν) :
    (map.modify key change).get key = (map.get key).map change := by
  simp [get_modify]

theorem get_modify_of_ne (change : ν → ν) (distinct : other ≠ key) :
    (map.modify key change).get other = map.get other := by
  rw [get_modify, if_neg (fun same => distinct (rank_injective same))]

/-- Presence is the existence of a stored value. -/
theorem contains_eq_true_iff (key : κ) :
    map.contains key = true ↔ ∃ value, map.get key = some value := by
  rw [contains, Option.isSome_iff_exists]

/-- A key that a map does not contain has no value. -/
theorem get_eq_none {map : OrderedMap κ ν} (unknown : ¬map.contains key = true) :
    map.get key = none := by
  cases found : map.get key with
  | none => rfl
  | some value => exact absurd ((map.contains_eq_true_iff key).mpr ⟨value, found⟩) unknown

/-- Strictly increasing keys are pairwise distinct. -/
theorem keys_nodup : map.keys.Nodup := by
  unfold keys
  rw [List.Nodup, pairwise_map]
  refine map.ordered.imp ?_
  intro left right below same
  rw [same] at below
  exact Nat.lt_irrefl _ below

/-- The entries are pairwise distinct as well. -/
theorem entries_nodup : map.entries.Nodup :=
  (pairwise_map.mp map.keys_nodup).imp fun distinct same => distinct (congrArg Prod.fst same)

/-- Maps that answer every lookup alike are equal. -/
theorem ext_get {left right : OrderedMap κ ν} (same : ∀ key, left.get key = right.get key) :
    left = right := by
  apply ext
  have permuted : left.entries.Perm right.entries := by
    refine (perm_ext_iff_of_nodup left.entries_nodup right.entries_nodup).mpr ?_
    rintro ⟨key, value⟩
    rw [← left.get_eq_some_iff key value, ← right.get_eq_some_iff key value, same key]
  refine permuted.eq_of_pairwise ?_ left.ordered right.ordered
  intro first second _ _ forward backward
  exact absurd (Nat.lt_trans forward backward) (Nat.lt_irrefl _)

/-- Removing a key before storing under it changes nothing. -/
theorem insert_remove (key : κ) (value : ν) :
    (map.remove key).insert key value = map.insert key value := by
  apply ext_get
  intro other
  rw [get_insert, get_insert, get_remove]
  split <;> rfl

/-- Changing a present value is inserting the changed one. -/
theorem modify_eq_insert {value : ν} (present : map.get key = some value) (change : ν → ν) :
    map.modify key change = map.insert key (change value) := by
  apply ext_get
  intro other
  by_cases same : other = key
  · rw [same, get_modify_self, get_insert_self, present]
    rfl
  · rw [get_modify_of_ne _ _ same, get_insert_of_ne _ _ same]

/-- Changing an absent value changes nothing. -/
theorem modify_absent (absent : map.get key = none) (change : ν → ν) :
    map.modify key change = map := by
  apply ext_get
  intro other
  by_cases same : other = key
  · rw [same, get_modify_self, absent]
    rfl
  · rw [get_modify_of_ne _ _ same]

theorem size_retain_le {keep : κ → ν → Bool} : (map.retain keep).size ≤ map.size :=
  length_filter_le _ _

/-- Removing a key that is present makes a map smaller. -/
theorem size_remove_lt {map : OrderedMap κ ν} {value : ν} (present : map.get key = some value) :
    (map.remove key).size < map.size := by
  refine length_filter_lt_length_iff_exists.mpr
    ⟨(key, value), (get_eq_some_iff _ _ _).mp present, ?_⟩
  simp

end OrderedMap
