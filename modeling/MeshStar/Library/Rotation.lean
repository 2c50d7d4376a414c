import Mathlib.Data.Fintype.EquivFin
import Mathlib.Data.List.Basic
import Mathlib.Data.List.Rotate
import Mathlib.Data.List.Nodup

/-!
# Rotating through a list in windows

A list that is too long for one message is sent in windows of a fixed size. The window
of a round starts where the previous one ended, and the last window is filled up from the
front. A sender may cut a window short. Every item is sent exactly when every window is
sent with room for the items that only this window has; the items the last window takes
from the front do not help, since the last item of every window is in no other window.

A counter with a limited range selects the window. Consecutive values of the counter
select every window once, unless the counter wraps in between; then they do so exactly
when the number of windows divides the range.
-/

namespace Rotation

open List

universe u
variable {α : Type u}

/-- The number of windows a list needs. -/
def windows (length size : Nat) : Nat := (length + size - 1) / size

/-- A window, filled up from the front of the list. -/
def window (items : List α) (size index : Nat) : List α :=
  (items.drop (index * size) ++ items.take (index * size)).take (min size items.length)

/-- The number of items of a window before it is filled up. -/
def share (length size index : Nat) : Nat := min size (length - index * size)

variable {size index position kept width : Nat} {items : List α} {item : α}

section

variable (positive : 0 < size)

include positive

/-- A window starts within the list. -/
theorem window_start {length : Nat}
    (inside : index < windows length size) : index * size < length := by
  unfold windows at inside
  rw [Nat.lt_div_iff_mul_lt positive] at inside
  omega

/-- Every position belongs to a window. -/
theorem div_lt_windows {length : Nat}
    (inside : position < length) : position / size < windows length size := by
  unfold windows
  rw [Nat.lt_div_iff_mul_lt positive]
  have below := Nat.div_mul_le_self position size
  omega

theorem window_getElem (inside : index < windows items.length size)
    (near : position < min size items.length) :
    (window items size index)[position]? = items[(index * size + position) % items.length]? := by
  have start := window_start positive inside
  have within : position < items.length := Nat.lt_of_lt_of_le near (min_le_right _ _)
  unfold window
  rw [List.getElem?_take, if_pos near, ← rotate_eq_drop_append_take (Nat.le_of_lt start),
    List.getElem?_rotate within, Nat.add_comm]

/-- What a window holds when it is cut short. -/
theorem mem_cut_iff (inside : index < windows items.length size) :
    item ∈ (window items size index).take kept ↔
      ∃ position, position < kept ∧ position < min size items.length ∧
        items[(index * size + position) % items.length]? = some item := by
  rw [mem_iff_getElem?]
  constructor
  · rintro ⟨position, found⟩
    rw [List.getElem?_take] at found
    split at found
    · rename_i early
      have near : position < min size items.length := by
        by_contra far
        have beyond : (window items size index).length ≤ position := by
          unfold window
          rw [length_take]
          omega
        rw [List.getElem?_eq_none beyond] at found
        cases found
      rw [window_getElem positive inside near] at found
      exact ⟨position, early, near, found⟩
    · cases found
  · rintro ⟨position, early, near, found⟩
    refine ⟨position, ?_⟩
    rw [List.getElem?_take, if_pos early, window_getElem positive inside near]
    exact found

/-- An item is in its own window. -/
theorem mem_own_window (found : items[position]? = some item)
    (room : share items.length size (position / size) ≤ kept) :
    item ∈ (window items size (position / size)).take kept := by
  obtain ⟨inside, _⟩ := List.getElem?_eq_some_iff.mp found
  have remainder := Nat.mod_lt position positive
  have parts : position / size * size + position % size = position := Nat.div_add_mod' position size
  rw [mem_cut_iff positive (div_lt_windows positive inside)]
  unfold share at room
  refine ⟨position % size, by omega, by omega, ?_⟩
  rw [parts, Nat.mod_eq_of_lt inside]
  exact found

end

/-- The last item of a window is in no other window. -/
theorem last_only_in_window {other : Nat} (distinct : items.Nodup) (positive : 0 < size)
    (inside : index < windows items.length size) (elsewhere : other < windows items.length size)
    (last : items[index * size + share items.length size index - 1]? = some item)
    (sent : item ∈ (window items size other).take kept) :
    other = index ∧ share items.length size index ≤ kept := by
  have start := window_start positive inside
  have begins := window_start positive elsewhere
  obtain ⟨position, early, near, found⟩ := (mem_cut_iff positive elsewhere).mp sent
  have ends : index * size + share items.length size index - 1 < items.length := by
    unfold share
    omega
  have same : (other * size + position) % items.length =
      index * size + share items.length size index - 1 := by
    apply (List.getElem?_inj (Nat.mod_lt _ (Nat.zero_lt_of_lt start)) distinct).mp
    rw [found, last]
  by_cases wraps : other * size + position < items.length
  · rw [Nat.mod_eq_of_lt wraps] at same
    have quotient (first offset : Nat) (small : offset < size) :
        (first * size + offset) / size = first := by
      rw [Nat.add_comm, Nat.add_mul_div_right _ _ positive, Nat.div_eq_of_lt small, Nat.zero_add]
    have equal : other = index := by
      rw [← quotient other position (by omega), same,
        show index * size + share items.length size index - 1 =
          index * size + (share items.length size index - 1) by unfold share; omega]
      apply quotient
      unfold share
      omega
    subst equal
    exact ⟨rfl, by omega⟩
  · -- Filled up from the front: these items come before the last one of the first window.
    exfalso
    have value : (other * size + position) % items.length =
        other * size + position - items.length := by
      rw [Nat.mod_eq_sub_mod (by omega), Nat.mod_eq_of_lt (by omega)]
    rw [value] at same
    unfold share at same
    omega

/-- Every item is sent exactly when every window is sent with room for its own items. -/
theorem all_sent_iff (distinct : items.Nodup) (positive : 0 < size) {rounds : Nat}
    (selected kept : Nat → Nat)
    (bounded : ∀ round < rounds, selected round < windows items.length size) :
    (∀ item ∈ items, ∃ round < rounds,
      item ∈ (window items size (selected round)).take (kept round)) ↔
      ∀ index < windows items.length size, ∃ round < rounds, selected round = index ∧
        share items.length size (selected round) ≤ kept round := by
  constructor
  · intro all index inside
    have start := window_start positive inside
    have ends : index * size + share items.length size index - 1 < items.length := by
      unfold share
      omega
    obtain ⟨round, early, sent⟩ := all _ (getElem_mem ends)
    obtain ⟨same, room⟩ := last_only_in_window distinct positive inside (bounded round early)
      (List.getElem?_eq_getElem ends) sent
    exact ⟨round, early, same, same ▸ room⟩
  · intro covered item member
    obtain ⟨position, found⟩ := mem_iff_getElem?.mp member
    obtain ⟨inside, _⟩ := List.getElem?_eq_some_iff.mp found
    obtain ⟨round, early, same, room⟩ := covered _ (div_lt_windows positive inside)
    rw [same] at room
    refine ⟨round, early, ?_⟩
    rw [same]
    exact mem_own_window positive found room

/-! ## Consecutive values of a counter -/

/-- Consecutive numbers have all remainders. -/
theorem remainders_covered (start : Nat) (inside : index < width) :
    ∃ step < width, (start + step) % width = index := by
  have small := Nat.mod_lt start (Nat.zero_lt_of_lt inside)
  by_cases order : start % width ≤ index
  · refine ⟨index - start % width, by omega, ?_⟩
    rw [Nat.add_mod, Nat.mod_eq_of_lt (by omega : index - start % width < width),
      Nat.add_sub_cancel' order, Nat.mod_eq_of_lt inside]
  · refine ⟨index + width - start % width, by omega, ?_⟩
    rw [Nat.add_mod, Nat.mod_eq_of_lt (by omega : index + width - start % width < width),
      Nat.add_sub_cancel' (by omega), Nat.add_mod_right, Nat.mod_eq_of_lt inside]

/-- A counter that wraps at another number than a multiple of the width repeats a
remainder. -/
theorem remainder_repeated {range start : Nat} (bounded : start < range)
    (wraps : range < start + width) (uneven : ¬width ∣ range) :
    ∃ first < width, ∃ second < width, first ≠ second ∧
      (start + first) % range % width = (start + second) % range % width := by
  have remainder : 0 < range % width :=
    Nat.pos_of_ne_zero (fun zero => uneven (Nat.dvd_of_mod_eq_zero zero))
  by_cases long : range < width
  · refine ⟨0, by omega, range, long, by omega, ?_⟩
    rw [Nat.add_zero, Nat.add_mod_right]
  · have small := Nat.mod_lt range (show 0 < width by omega)
    have parts := Nat.div_add_mod range width
    -- The steps until the wrap.
    have after (step : Nat) (late : range - start ≤ step) (inside : step < width) :
        (start + step) % range = step - (range - start) := by
      rw [Nat.mod_eq_sub_mod (by omega), Nat.mod_eq_of_lt (by omega)]
      omega
    by_cases early : range - start ≤ range % width
    · refine ⟨0, by omega, range % width, small, by omega, ?_⟩
      rw [after _ early small, Nat.add_zero, Nat.mod_eq_of_lt bounded,
        Nat.mod_eq_of_lt (by omega : range % width - (range - start) < width)]
      rw [show start = width * (range / width) + (range % width - (range - start)) by omega,
        Nat.mul_add_mod, Nat.mod_eq_of_lt (by omega)]
      omega
    · refine ⟨range - start - range % width, by omega, range - start, by omega, by omega, ?_⟩
      rw [after _ (Nat.le_refl _) (by omega), Nat.mod_eq_of_lt (by omega :
        start + (range - start - range % width) < range)]
      rw [show start + (range - start - range % width) = width * (range / width) by omega,
        Nat.mul_mod_right, Nat.sub_self, Nat.zero_mod]

/-- Consecutive values of a counter select every window with a property exactly when all of
them have the property and the counter does not wrap unevenly. -/
theorem consecutive_rounds_iff {range start : Nat} (positive : 0 < width)
    (bounded : start < range) (room : Nat → Prop) :
    (∀ index < width, ∃ step < width, (start + step) % range % width = index ∧ room step) ↔
      (start + width ≤ range ∨ width ∣ range) ∧ ∀ step < width, room step := by
  constructor
  · intro covered
    let selects : Fin width → Fin width := fun step =>
      ⟨(start + step) % range % width, Nat.mod_lt _ positive⟩
    have onto : Function.Surjective selects := by
      intro index
      obtain ⟨step, inside, same, _⟩ := covered index index.isLt
      exact ⟨⟨step, inside⟩, Fin.ext same⟩
    have once : Function.Injective selects := Finite.injective_iff_surjective.mpr onto
    constructor
    · by_contra neither
      obtain ⟨wraps, uneven⟩ := not_or.mp neither
      obtain ⟨first, one, second, two, differ, same⟩ :=
        remainder_repeated bounded (Nat.lt_of_not_le wraps) uneven
      have equal : (⟨first, one⟩ : Fin width) = ⟨second, two⟩ := once (Fin.ext same)
      exact differ (congrArg Fin.val equal)
    · intro step inside
      obtain ⟨other, within, same, holds⟩ :=
        covered ((start + step) % range % width) (Nat.mod_lt _ positive)
      have equal : (⟨other, within⟩ : Fin width) = ⟨step, inside⟩ := once (Fin.ext same)
      cases congrArg Fin.val equal
      exact holds
  · rintro ⟨even, all⟩ index inside
    obtain ⟨step, within, same⟩ := remainders_covered start inside
    refine ⟨step, within, ?_, all step within⟩
    rcases even with short | divides
    · rw [Nat.mod_eq_of_lt (by omega : start + step < range)]
      exact same
    · rw [Nat.mod_mod_of_dvd _ divides]
      exact same

end Rotation
