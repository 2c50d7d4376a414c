import Mathlib.Data.List.Basic

/-!
# Trails of labelled moves

A computation that updates a state in small pieces is a trail: a finite sequence of
labelled moves. A function is described once, by the labels its trail may use; what a
label cannot change is then unchanged by every function whose trail does not use it,
and a property kept by every label of a trail is kept by the trail.
-/

variable {κ σ : Type}

/-- A finite sequence of moves whose labels all belong to a list. -/
inductive Trail (move : κ → σ → σ → Prop) (labels : List κ) (start : σ) : σ → Prop where
  | refl : Trail move labels start start
  | tail {middle stop : σ} {label : κ} (earlier : Trail move labels start middle)
      (last : move label middle stop) (permitted : label ∈ labels) : Trail move labels start stop

namespace Trail

variable {move : κ → σ → σ → Prop} {labels more : List κ} {start middle stop : σ}

/-- One move is a trail. -/
theorem single {label : κ} (only : move label start stop) (permitted : label ∈ labels) :
    Trail move labels start stop := .tail .refl only permitted

/-- Trails compose. -/
theorem trans (first : Trail move labels start middle) (second : Trail move labels middle stop) :
    Trail move labels start stop := by
  induction second with
  | refl => exact first
  | tail earlier last permitted ih =>
    exact .tail ih last permitted

/-- A trail may be regarded as one over more labels. -/
theorem mono (trail : Trail move labels start stop) (included : labels ⊆ more) :
    Trail move more start stop := by
  induction trail with
  | refl => exact .refl
  | tail earlier last permitted ih =>
    exact .tail ih last (included permitted)

/-- A loop keeps to a reflexive and transitive relation that its body keeps to. -/
theorem loop {α : Type} (related : σ → σ → Prop) (refl : ∀ state, related state state)
    (trans : ∀ {start middle stop}, related start middle → related middle stop →
      related start stop) {body : σ → α → σ} (items : List α) (first : σ)
    (each : ∀ state, ∀ item ∈ items, related first state → related state (body state item)) :
    related first (items.foldl body first) :=
  List.foldlRecOn (motive := related first) items body (refl first)
    (fun state sofar item member => trans sofar (each state item member sofar))

/-- A loop whose body is a trail is a trail. -/
theorem foldl {α : Type} {body : σ → α → σ} (items : List α) (first : σ)
    (each : ∀ state, ∀ item ∈ items, Trail move labels state (body state item)) :
    Trail move labels first (items.foldl body first) :=
  loop _ (fun _ => .refl) trans items first (fun state item member _ => each state item member)

/-- A property kept by every permitted move is kept by a trail. -/
theorem invariant (property : σ → Prop) (trail : Trail move labels start stop)
    (initially : property start)
    (kept : ∀ label ∈ labels, ∀ before after, move label before after → property before →
      property after) : property stop := by
  induction trail with
  | refl => exact initially
  | tail earlier last permitted ih =>
    exact kept _ permitted _ _ last ih

/-- A view that no permitted move changes is the same at both ends of a trail. -/
theorem unchanged {τ : Type} (view : σ → τ) (trail : Trail move labels start stop)
    (kept : ∀ label ∈ labels, ∀ before after, move label before after → view after = view before) :
    view stop = view start :=
  trail.invariant (fun state => view state = view start) rfl
    (fun label permitted before after last same =>
      (kept label permitted before after last).trans same)

end Trail
