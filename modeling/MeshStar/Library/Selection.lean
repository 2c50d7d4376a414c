import Mathlib.Data.List.Basic

/-!
# Selecting and ordering by a numeric key

Selection by a key follows the iteration order: a minimum keeps the first of equal
elements and a maximum keeps the last. Ordering is insertion sort, hence stable.
-/

namespace Selection

open List

variable {α : Type}

/-- The first element whose key is minimal. -/
def firstMinBy (key : α → Nat) : List α → Option α
  | [] => none
  | head :: tail =>
    match firstMinBy key tail with
    | none => some head
    | some best => if key head ≤ key best then some head else some best

/-- The last element whose key is maximal. -/
def lastMaxBy (key : α → Nat) : List α → Option α
  | [] => none
  | head :: tail =>
    match lastMaxBy key tail with
    | none => some head
    | some best => if key head > key best then some head else some best

/-- Insert an element in front of the first strictly larger one. -/
def insertByKey (key : α → Nat) (element : α) : List α → List α
  | [] => [element]
  | head :: tail =>
    if key element < key head then element :: head :: tail
    else head :: insertByKey key element tail

/-- Stable insertion sort. -/
def sortByKey (key : α → Nat) (elements : List α) : List α :=
  elements.foldl (fun sorted element => insertByKey key element sorted) []

variable {key : α → Nat} {elements : List α} {element best : α}

/-- A selected minimum is an element of the list. -/
theorem firstMinBy_mem (selected : firstMinBy key elements = some best) : best ∈ elements := by
  induction elements generalizing best with
  | nil => cases selected
  | cons head tail ih =>
    simp only [firstMinBy] at selected
    cases rest : firstMinBy key tail with
    | none =>
      rw [rest] at selected
      cases selected
      exact mem_cons_self
    | some other =>
      rw [rest] at selected
      simp only at selected
      split at selected
      · cases selected
        exact mem_cons_self
      · cases selected
        exact mem_cons_of_mem _ (ih rest)

/-- A selected maximum is an element of the list. -/
theorem lastMaxBy_mem (selected : lastMaxBy key elements = some best) : best ∈ elements := by
  induction elements generalizing best with
  | nil => cases selected
  | cons head tail ih =>
    simp only [lastMaxBy] at selected
    cases rest : lastMaxBy key tail with
    | none =>
      rw [rest] at selected
      cases selected
      exact mem_cons_self
    | some other =>
      rw [rest] at selected
      simp only at selected
      split at selected
      · cases selected
        exact mem_cons_self
      · cases selected
        exact mem_cons_of_mem _ (ih rest)

/-- Erasing the first element that passes a test loses only the element the test finds. -/
theorem mem_eraseP_or_found {test : α → Bool} (member : element ∈ elements) :
    element ∈ elements.eraseP test ∨ elements.find? test = some element := by
  induction elements with
  | nil => cases member
  | cons head tail ih =>
    by_cases passes : test head = true
    · rcases mem_cons.mp member with same | later
      · exact .inr (by rw [List.find?_cons_of_pos passes, same])
      · exact .inl (by rw [eraseP_cons_of_pos passes]; exact later)
    · rw [eraseP_cons_of_neg passes, List.find?_cons_of_neg passes]
      rcases mem_cons.mp member with same | later
      · exact .inl (by rw [same]; exact mem_cons_self)
      · rcases ih later with kept | found
        · exact .inl (mem_cons_of_mem _ kept)
        · exact .inr found

/-- Where keys are unique, erasing the first element under a key leaves none under it. -/
theorem eraseP_unique {κ : Type} {key : α → κ} {wanted : κ} {test : α → Bool}
    (distinct : (elements.map key).Nodup)
    (selects : ∀ element, test element = true ↔ key element = wanted) :
    ∀ element ∈ elements.eraseP test, key element ≠ wanted := by
  induction elements with
  | nil =>
    intro element member
    cases member
  | cons head tail ih =>
    obtain ⟨fresh, rest⟩ := nodup_cons.mp distinct
    intro element member same
    by_cases passes : test head = true
    · rw [eraseP_cons_of_pos passes] at member
      refine fresh (mem_map.mpr ⟨element, member, ?_⟩)
      rw [same, (selects head).mp passes]
    · rw [eraseP_cons_of_neg passes] at member
      rcases mem_cons.mp member with isHead | later
      · exact passes ((selects head).mpr (isHead ▸ same))
      · exact ih rest element later same

theorem insertByKey_perm (key : α → Nat) (element : α) (elements : List α) :
    (insertByKey key element elements).Perm (element :: elements) := by
  induction elements with
  | nil => exact List.Perm.refl _
  | cons head tail ih =>
    simp only [insertByKey]
    split
    · exact List.Perm.refl _
    · exact (ih.cons head).trans (List.Perm.swap element head tail)

/-- Ordering moves elements only. -/
theorem sortByKey_perm {key : α → Nat} {elements : List α} :
    (sortByKey key elements).Perm elements := by
  have accumulated : ∀ sorted : List α,
      (elements.foldl (fun sorted element => insertByKey key element sorted) sorted).Perm
        (elements ++ sorted) := by
    induction elements with
    | nil => exact fun sorted => List.Perm.refl _
    | cons head tail ih =>
      intro sorted
      have inserted := (insertByKey_perm key head sorted).append_left tail
      exact (ih _).trans (inserted.trans perm_middle)
  simpa [sortByKey] using accumulated []

/-- Rewriting elements under their keys does not change which one is selected. -/
theorem firstMinBy_map {change : α → α} (same : ∀ element, key (change element) = key element)
    (elements : List α) :
    firstMinBy key (elements.map change) = (firstMinBy key elements).map change := by
  induction elements with
  | nil => rfl
  | cons head tail ih =>
    simp only [map_cons, firstMinBy, ih]
    cases firstMinBy key tail with
    | none => rfl
    | some best =>
      simp only [Option.map_some, same]
      split
      · rfl
      · rfl

/-- A list with an element has a maximum. -/
theorem lastMaxBy_isSome (member : element ∈ elements) :
    (lastMaxBy key elements).isSome = true := by
  cases elements with
  | nil => cases member
  | cons head tail =>
    simp only [lastMaxBy]
    cases lastMaxBy key tail with
    | none => rfl
    | some best =>
      simp only
      split
      · rfl
      · rfl

/-- Something is selected from a list with an element. -/
theorem firstMinBy_isSome :
    (firstMinBy key elements).isSome = true ↔ ∃ element, element ∈ elements := by
  cases elements with
  | nil => simp [firstMinBy]
  | cons head tail =>
    refine ⟨fun _ => ⟨head, mem_cons_self⟩, fun _ => ?_⟩
    unfold firstMinBy
    split
    · rfl
    · split
      · rfl
      · rfl

/-- What is left of a list cut after an insertion: the new element, if few others come
before it, and then one less of the others. -/
theorem mem_take_insertByKey (new : α) (elements : List α) (count : Nat) :
    element ∈ (insertByKey key new elements).take count ↔
      (element = new ∧ (elements.takeWhile (key · ≤ key new)).length < count) ∨
        element ∈ elements.take
          (if (elements.takeWhile (key · ≤ key new)).length < count then count - 1 else count) := by
  induction elements generalizing count with
  | nil =>
    cases count with
    | zero => simp [insertByKey]
    | succ count => simp [insertByKey]
  | cons head tail ih =>
    cases count with
    | zero => simp
    | succ count =>
      unfold insertByKey
      split
      · rename_i before
        simp [Nat.not_le.mpr before]
      · rename_i after
        have follows : key head ≤ key new := Nat.le_of_not_lt after
        simp only [take_succ_cons, mem_cons, ih, takeWhile_cons, follows,
          decide_true, if_true, length_cons, Nat.add_lt_add_iff_right]
        split
        · rename_i room
          obtain ⟨rest, rfl⟩ : ∃ rest, count = rest + 1 := Nat.exists_eq_succ_of_ne_zero (by omega)
          simp only [Nat.add_sub_cancel, take_succ_cons, mem_cons]
          tauto
        · simp only [take_succ_cons, mem_cons]
          tauto

end Selection
