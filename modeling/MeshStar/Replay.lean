import Mathlib.Tactic.Common

/-!
# The sliding replay window

The window keeps the highest accepted counter and a bitmap of the 64 counters up to
it. A counter is refused when it lies below the window or its bit is set. Acceptance
either shifts the bitmap or sets one bit, and it never makes a refused counter
acceptable again: along a run the refused counters are those accepted before and those
too far below one of them.
-/

namespace MeshStar

/-- The highest accepted counter, the bits of the counters just below it, and whether
any counter has been accepted. -/
structure ReplayWindow where
  top : Nat
  bitmap : BitVec 64
  acceptedAny : Bool
  deriving DecidableEq, Repr

namespace ReplayWindow

def size : Nat := 64

def new : ReplayWindow := ⟨0, 0#64, false⟩

/-- Whether a counter would be accepted; nothing is recorded. -/
def check (window : ReplayWindow) (counter : Nat) : Bool :=
  if !window.acceptedAny then true
  else if counter > window.top then true
  else
    let diff := window.top - counter
    if diff ≥ size then false
    else window.bitmap &&& (1#64 <<< diff) == 0#64

/-- Check and record. The result tells whether the counter was fresh. -/
def accept (window : ReplayWindow) (counter : Nat) : ReplayWindow × Bool :=
  if !window.check counter then (window, false)
  else if !window.acceptedAny then (⟨counter, 1#64, true⟩, true)
  else if counter > window.top then
    let shift := counter - window.top
    let shifted := if shift ≥ size then 0#64 else window.bitmap <<< shift
    ({ window with bitmap := shifted ||| 1#64, top := counter }, true)
  else ({ window with bitmap := window.bitmap ||| (1#64 <<< (window.top - counter)) }, true)

/-- Testing a one-bit mask reads that bit. -/
theorem mask_test (bits : BitVec 64) {index : Nat} (inside : index < 64) :
    (bits &&& (1#64 <<< index) == 0#64) = !bits.getLsbD index := by
  rw [← BitVec.twoPow_eq, BitVec.and_twoPow]
  cases bits.getLsbD index with
  | false => rfl
  | true =>
    simp only [if_true, Bool.not_true, beq_eq_false_iff_ne]
    intro vanished
    simpa [inside] using congrArg (BitVec.getLsbD · index) vanished

variable (window : ReplayWindow) (counter : Nat)

/-- A counter is refused exactly when something was accepted, the counter is not above
the top, and it is below the window or its bit is set. -/
theorem check_eq_false_iff :
    window.check counter = false ↔ window.acceptedAny = true ∧ counter ≤ window.top ∧
      (size ≤ window.top - counter ∨ window.bitmap.getLsbD (window.top - counter) = true) := by
  unfold check
  cases accepted : window.acceptedAny with
  | false => simp
  | true =>
    by_cases above : counter > window.top
    · simp only [Bool.not_true, Bool.false_eq_true, ↓reduceIte, above]
      constructor
      · intro impossible
        cases impossible
      · rintro ⟨_, bounded, _⟩
        omega
    · by_cases old : window.top - counter ≥ size
      · simp only [Bool.not_true, Bool.false_eq_true, ↓reduceIte, above, old, true_iff]
        exact ⟨trivial, by omega, .inl trivial⟩
      · simp only [Bool.not_true, Bool.false_eq_true, ↓reduceIte, above, old,
          mask_test _ (by simpa [size] using old), Bool.not_eq_false', true_and, false_or]
        constructor
        · intro stored
          exact ⟨by omega, stored⟩
        · rintro ⟨_, stored⟩
          exact stored

/-- After a fresh counter is recorded, what was refused before, the counter itself and what
now lies below the window are refused. A shift moves a set bit with its counter. -/
theorem accept_refuses_iff (earlier : Nat) (fresh : window.check counter = true) :
    (window.accept counter).1.check earlier = false ↔
      window.check earlier = false ∨ earlier = counter ∨ earlier + size ≤ counter := by
  have taken : ¬window.check counter = false := by simp [fresh]
  rw [check_eq_false_iff] at taken
  rw [check_eq_false_iff, check_eq_false_iff]
  simp only [accept, fresh, Bool.not_true, Bool.false_eq_true, ↓reduceIte]
  have wide : size = 64 := rfl
  cases accepted : window.acceptedAny with
  | false =>
    simp only [Bool.not_false, ↓reduceIte, BitVec.getLsbD_one]
    grind
  | true =>
    by_cases above : counter > window.top
    · have moved (inside : counter - earlier < 64) : (if counter - window.top ≥ size then 0#64
            else window.bitmap <<< (counter - window.top)).getLsbD (counter - earlier) = true ↔
          counter - window.top ≤ counter - earlier ∧
            window.bitmap.getLsbD (counter - earlier - (counter - window.top)) = true := by
        split
        · simp only [BitVec.getLsbD_zero, Bool.false_eq_true, false_iff]
          omega
        · simp [BitVec.getLsbD_shiftLeft, inside, -BitVec.getLsbD_eq_getElem]
      simp only [above, Bool.not_true, Bool.false_eq_true, ↓reduceIte, BitVec.getLsbD_or,
        Bool.or_eq_true, true_and, BitVec.getLsbD_one]
      have position (kept : earlier ≤ window.top) :
          counter - earlier - (counter - window.top) = window.top - earlier := by omega
      grind
    · simp only [above, Bool.not_true, Bool.false_eq_true, ↓reduceIte, BitVec.getLsbD_or,
        Bool.or_eq_true, true_and, BitVec.getLsbD_shiftLeft, BitVec.getLsbD_one]
      grind

/-- An accepted counter is refused from then on. -/
theorem accept_refuses_self : (window.accept counter).1.check counter = false := by
  cases fresh : window.check counter with
  | false => simp [accept, fresh]
  | true => exact (window.accept_refuses_iff counter counter fresh).mpr (.inr (.inl rfl))

/-- Accepting a counter keeps every earlier refusal. -/
theorem accept_keeps_refusal {earlier : Nat} (refused : window.check earlier = false) :
    (window.accept counter).1.check earlier = false := by
  cases fresh : window.check counter with
  | false => simpa [accept, fresh] using refused
  | true => exact (window.accept_refuses_iff counter earlier fresh).mpr (.inl refused)

/-- A call of `accept`, with the counters accepted so far. -/
def serve (state : ReplayWindow × List Nat) (counter : Nat) : ReplayWindow × List Nat :=
  let taken := state.1.accept counter
  (taken.1, if taken.2 then counter :: state.2 else state.2)

/-- A window after a series of calls, and the counters that it accepted. -/
def served (counters : List Nat) : ReplayWindow × List Nat := counters.foldl serve (new, [])

theorem accept_eq_check : (window.accept counter).2 = window.check counter := by
  unfold accept
  cases window.check counter with
  | false => rfl
  | true =>
    simp only [Bool.not_true, Bool.false_eq_true, ↓reduceIte]
    split
    · rfl
    · split <;> rfl

/-- A window refuses the counters that it accepted and those below them by the size. -/
def Remembers (state : ReplayWindow × List Nat) : Prop :=
  ∀ counter, state.1.check counter = false ↔
    ∃ earlier ∈ state.2, counter = earlier ∨ counter + size ≤ earlier

theorem Remembers.serve {state : ReplayWindow × List Nat} (holds : Remembers state)
    (next : Nat) : Remembers (serve state next) := by
  intro counter
  simp only [ReplayWindow.serve, accept_eq_check]
  cases fresh : state.1.check next with
  | false => simpa [accept, fresh] using holds counter
  | true =>
    rw [accept_refuses_iff _ _ _ fresh, holds counter]
    simp [or_comm]

theorem served_remembers (counters : List Nat) : Remembers (served counters) :=
  List.foldlRecOn counters serve (by simp [Remembers, new, check])
    fun _ holds next _ => holds.serve next

/-- A counter is accepted exactly when it was not accepted before and is not too far below
the highest that was; a check tells so beforehand. -/
theorem served_accepts_iff (counters : List Nat) (counter : Nat) :
    (((served counters).1.accept counter).2 = true ↔ counter ∉ (served counters).2 ∧
      ∀ highest ∈ (served counters).2.max?, counter + size > highest) ∧
    (served counters).1.check counter = ((served counters).1.accept counter).2 := by
  refine ⟨?_, (accept_eq_check _ _).symm⟩
  rw [accept_eq_check, ← Bool.not_eq_false, served_remembers counters counter]
  cases top : (served counters).2.max? with
  | none => simp [List.max?_eq_none_iff.mp top]
  | some highest =>
    obtain ⟨present, most⟩ := List.max?_eq_some_iff.mp top
    constructor
    · intro fresh
      refine ⟨fun member => fresh ⟨counter, member, .inl rfl⟩, ?_⟩
      rintro _ ⟨⟩
      exact Nat.lt_of_not_le fun far => fresh ⟨highest, present, .inr far⟩
    · rintro ⟨fresh, near⟩ ⟨earlier, member, rfl | far⟩
      · exact fresh member
      · exact Nat.not_lt.mpr (Nat.le_trans far (most earlier member)) (near highest rfl)

end ReplayWindow

end MeshStar
