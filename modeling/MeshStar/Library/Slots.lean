import Mathlib.Data.List.Basic
import Mathlib.Data.List.Count

/-!
# Collecting the items of a list in any order

A row of slots receives the items of a list, each at its own position, in any order and
with repetitions. The slots are a function of the set of positions seen so far. Counting
the filled slots tells when the collection is complete: the count reaches the length of
the list exactly when every position was seen, and the slots then hold the list itself.
-/

namespace Slots

open List

universe u
variable {α : Type u} {items : List α} {seen : List Nat} {position : Nat}

/-- The slots after the items at the positions of a list have arrived. -/
def collected (items : List α) (seen : List Nat) : List (Option α) :=
  items.mapIdx (fun position item => if position ∈ seen then some item else none)

/-- The number of filled slots. -/
def filled (slots : List (Option α)) : Nat := slots.countP Option.isSome

@[simp] theorem collected_length (items : List α) (seen : List Nat) :
    (collected items seen).length = items.length := length_mapIdx

theorem collected_getElem (items : List α) (seen : List Nat) (position : Nat) :
    (collected items seen)[position]? =
      items[position]?.map (fun item => if position ∈ seen then some item else none) :=
  List.getElem?_mapIdx

/-- Nothing has arrived in fresh slots. -/
theorem collected_nil (items : List α) : collected items [] = List.replicate items.length none := by
  apply ext_getElem?
  intro position
  rw [collected_getElem, List.getElem?_replicate]
  by_cases inside : position < items.length
  · simp [inside]
  · simp [inside]

/-- Filling the slot of a position adds the position. -/
theorem collected_set {item : α} (present : items[position]? = some item) :
    (collected items seen).set position (some item) = collected items (position :: seen) := by
  have inside : position < items.length := (List.getElem?_eq_some_iff.mp present).1
  apply ext_getElem?
  intro other
  by_cases same : other = position
  · subst same
    rw [List.getElem?_set_self (by rwa [collected_length]), collected_getElem, present]
    simp
  · have apart : position ≠ other := fun equal => same equal.symm
    simp [collected_getElem, List.getElem?_set_ne apart, same]

/-- Filling an empty slot counts one more. -/
theorem filled_set {slots : List (Option α)} (item : α) (empty : slots[position]? = some none) :
    filled (slots.set position (some item)) = filled slots + 1 := by
  induction slots generalizing position with
  | nil => cases empty
  | cons slot rest ih =>
    cases position with
    | zero =>
      rw [List.getElem?_cons_zero, Option.some.injEq] at empty
      subst empty
      simp [filled]
    | succ position =>
      rw [List.getElem?_cons_succ] at empty
      have later := ih empty
      simp only [filled, set_cons_succ, countP_cons] at later ⊢
      omega

/-- While a position is missing, the count is short. -/
theorem filled_lt (inside : position < items.length) (missing : position ∉ seen) :
    filled (collected items seen) < items.length := by
  have empty : (collected items seen)[position]? = some none := by
    simp [collected_getElem, List.getElem?_eq_getElem inside, missing]
  have more := filled_set (items.get ⟨position, inside⟩) empty
  have bounded : filled ((collected items seen).set position
      (some (items.get ⟨position, inside⟩))) ≤ items.length := by
    have most (slots : List (Option α)) : filled slots ≤ slots.length := countP_le_length
    exact Nat.le_trans (most _) (Nat.le_of_eq (by rw [length_set, collected_length]))
  omega

variable (all : ∀ position < items.length, position ∈ seen)

include all

/-- Once every position was seen, the slots hold the items. -/
theorem collected_all : collected items seen = items.map some := by
  apply ext_getElem?
  intro position
  rw [collected_getElem, List.getElem?_map]
  by_cases inside : position < items.length
  · simp [all position inside]
  · simp [List.getElem?_eq_none (Nat.le_of_not_lt inside)]

/-- Once every position was seen, the count is full. -/
theorem filled_all : filled (collected items seen) = items.length := by
  rw [collected_all all, filled, countP_map]
  exact countP_eq_length.mpr (fun _ _ => rfl)

end Slots
