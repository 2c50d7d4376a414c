import Mathlib.Data.List.Basic

/-!
# Working block by block

A list that fills whole blocks is rewritten one block at a time. When the rewriting keeps
the size of a block, the length of the list stays; when a second rewriting undoes the first
on a block, it undoes it on the list. A list that does not fill its last block is padded.
-/

namespace BlockMode

open List

variable {α : Type} {size : Nat} {first second : List α → List α}

/-- Rewrite a number of leading blocks. -/
def mapBlocks (size : Nat) (rewrite : List α → List α) : Nat → List α → List α
  | 0, _ => []
  | count + 1, items =>
    rewrite (items.take size) ++ mapBlocks size rewrite count (items.drop size)

/-- How many blocks a list takes. -/
def blockCount (size length : Nat) : Nat := (length + (size - 1)) / size

/-- Fill the last block. -/
def padBlocks (size : Nat) (filler : α) (items : List α) : List α :=
  items ++ List.replicate (blockCount size items.length * size - items.length) filler

theorem padBlocks_length (some : 0 < size) (filler : α) (items : List α) :
    (padBlocks size filler items).length = blockCount size items.length * size := by
  have enough : items.length ≤ blockCount size items.length * size := by
    have split := Nat.div_add_mod (items.length + (size - 1)) size
    have rest := Nat.mod_lt (items.length + (size - 1)) some
    rw [blockCount, Nat.mul_comm]
    omega
  rw [padBlocks, length_append, length_replicate]
  omega

variable (keeps : ∀ block, block.length = size → (first block).length = size)

include keeps

theorem mapBlocks_length {count : Nat} (items : List α) (whole : items.length = count * size) :
    (mapBlocks size first count items).length = count * size := by
  induction count generalizing items with
  | zero => rw [mapBlocks, Nat.zero_mul, length_nil]
  | succ count ih =>
    rw [Nat.succ_mul] at whole ⊢
    have block : (items.take size).length = size := by
      rw [length_take]
      omega
    have rest := ih (items.drop size) (by rw [length_drop]; omega)
    rw [mapBlocks, length_append, keeps _ block, rest]
    omega

/-- What is undone on a block is undone on whole blocks. -/
theorem mapBlocks_inverse (inverse : ∀ block, block.length = size → second (first block) = block)
    (count : Nat) (items : List α) (whole : items.length = count * size) :
    mapBlocks size second count (mapBlocks size first count items) = items := by
  induction count generalizing items with
  | zero =>
    rw [Nat.zero_mul] at whole
    rw [eq_nil_of_length_eq_zero whole]
    rfl
  | succ count ih =>
    rw [Nat.succ_mul] at whole
    have block : (items.take size).length = size := by
      rw [length_take]
      omega
    have rest := ih (items.drop size) (by rw [length_drop]; omega)
    rw [mapBlocks, mapBlocks, take_left' (keeps _ block), drop_left' (keeps _ block),
      inverse _ block, rest, take_append_drop]

end BlockMode
