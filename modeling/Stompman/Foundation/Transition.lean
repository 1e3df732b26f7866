import Mathlib.Data.List.Basic
import Mathlib.Logic.Relation

/-!
# Guarded transition systems

A system is an initial state and an executable step function, which is undefined where an action is
not enabled.  Runs may be restricted to steps that meet a condition on the state before the step and
the action; an invariant is proved for all states that such runs reach.
-/

namespace Foundation

/-- A guarded executable transition system. -/
structure System (σ α : Type) where
  /-- The state in which every run starts. -/
  initial : σ
  /-- The state after an action, if the action is enabled. -/
  step : σ → α → Option σ

namespace System

variable {σ α : Type} (system : System σ α)

/-- States reached by runs all of whose steps are allowed. -/
inductive Reaches (allowed : σ → α → Prop) : σ → Prop
  | initial : Reaches allowed system.initial
  | step {before after : σ} {action : α} (reach : Reaches allowed before)
      (meets : allowed before action) (stepped : system.step before action = some after) :
      Reaches allowed after

/-- States reached by any run. -/
def Reachable : σ → Prop := system.Reaches fun _ _ => True

/-- Steps lead from one state to another. -/
def Leads : σ → σ → Prop :=
  Relation.ReflTransGen fun before after => ∃ action, system.step before action = some after

variable {system} {allowed : σ → α → Prop}

theorem Reaches.mono {weaker : σ → α → Prop}
    (implies : ∀ state action, allowed state action → weaker state action) {state : σ}
    (reach : system.Reaches allowed state) : system.Reaches weaker state := by
  induction reach with
  | initial => exact .initial
  | step _ meets stepped ih => exact .step ih (implies _ _ meets) stepped

theorem Reaches.reachable {state : σ} (reach : system.Reaches allowed state) :
    system.Reachable state :=
  reach.mono fun _ _ _ => trivial

/-- Runs are carried to another system whose steps follow, or which stays where it is. -/
theorem Reaches.map {τ β : Type} {other : System τ β} {permitted : τ → β → Prop}
    (project : σ → τ) (initially : project system.initial = other.initial)
    (follows : ∀ {before after : σ} {action : α}, allowed before action →
      system.step before action = some after →
      project after = project before ∨ ∃ move, permitted (project before) move ∧
        other.step (project before) move = some (project after))
    {state : σ} (reach : system.Reaches allowed state) :
    other.Reaches permitted (project state) := by
  induction reach with
  | initial => exact initially ▸ .initial
  | step _ meets stepped ih =>
      rcases follows meets stepped with same | ⟨move, permits, moved⟩
      · exact same ▸ ih
      · exact .step ih permits moved

/-- A property of the initial state that every allowed step preserves holds in every state
reached. -/
theorem Reaches.invariant {property : σ → Prop} (initially : property system.initial)
    (preserved : ∀ {before after : σ} {action : α}, system.Reaches allowed before →
      property before → allowed before action → system.step before action = some after →
      property after)
    {state : σ} (reach : system.Reaches allowed state) : property state := by
  induction reach with
  | initial => exact initially
  | step reach meets stepped ih => exact preserved reach ih meets stepped

variable (system)

/-- Replay actions from a state, as long as each is enabled and passes a test. -/
def replay (test : σ → α → Bool) : σ → List α → Option σ
  | state, [] => some state
  | state, action :: actions =>
      if test state action then (system.step state action).bind fun next => replay test next actions
      else none

variable {system}

theorem reaches_of_replay {test : σ → α → Bool}
    (sound : ∀ state action, test state action = true → allowed state action)
    {actions : List α} {before after : σ} (reach : system.Reaches allowed before)
    (replayed : system.replay test before actions = some after) :
    system.Reaches allowed after := by
  induction actions generalizing before with
  | nil =>
      obtain rfl : before = after := by simpa [replay] using replayed
      exact reach
  | cons action actions ih =>
      rw [replay] at replayed
      split at replayed
      · rename_i passes
        obtain ⟨next, stepped, later⟩ := Option.bind_eq_some_iff.mp replayed
        exact ih (.step reach (sound _ _ passes) stepped) later
      · contradiction

/-- A replay that ends in a state with a property. -/
theorem exists_of_replay {test : σ → α → Bool}
    (sound : ∀ state action, test state action = true → allowed state action)
    {actions : List α} {property : σ → Bool}
    (replayed : (system.replay test system.initial actions).map property = some true) :
    ∃ state, system.Reaches allowed state ∧ property state = true := by
  obtain ⟨state, ends, holds⟩ := Option.map_eq_some_iff.mp replayed
  exact ⟨state, reaches_of_replay sound .initial ends, holds⟩

end System

end Foundation
