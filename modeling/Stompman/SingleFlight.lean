import Stompman.Connecting
import Stompman.Connections

/-!
# Reconnection is single-flight

The reconnect lock is held only by a task inside `_get_active_connection_state`, and only while no
connection is active.  Hence one task at a time connects, and every caller gets the connection that
is active when its call returns; two callers between whose returns nothing is discarded get the same
one.
-/

namespace Stompman

open Foundation Relation

/-- A task is inside `_connect_to_any_server`. -/
def State.ConnectsToAnyServer (state : State) (task : TaskId) : Prop :=
  (state.tasks task).Connecting ∧ ∃ reconnect, state.shared.reconnect = some reconnect ∧
    reconnect.owner = task ∧
      match reconnect.phase with
      | .sleeping => False
      | _ => True

/-- `_get_active_connection_state` up to its first `await`: the check outside the lock. -/
def Shared.getActiveConnectionState (shared : Shared) : Progress Unit ConnectionId :=
  match shared.active with
  | some connection => .returned connection
  | none => .suspended ()

/-- Calls of `_get_active_connection_state` that return during a step, with the shared state at that
moment. -/
inductive Returns (settings : Settings) (state : State) : Action → ConnectionId → Shared → Prop
  | atOnce (action : Action) (connection : ConnectionId)
      (found : state.shared.getActiveConnectionState = .returned connection) :
      Returns settings state action connection state.shared
  | resumed {moment : Shared} (task : TaskId) (reply : Reply) (choice : Choice)
      (connection : ConnectionId) (standing : (state.tasks task).Connecting)
      (resumed : state.shared.resumeConnecting settings task reply choice.pick =
        some (moment, .returned connection)) :
      Returns settings state (.resume task reply choice) connection moment

namespace Shared

variable {settings : Settings} {task : TaskId} {shared after : Shared} {reply : Reply}
  {progress : Progress Unit ConnectionId}

/-- What connecting does to the lock. -/
theorem Reconnects.lock (effects : shared.Reconnects settings task reply after progress) :
    (progress = .suspended () ∧ after.active = shared.active ∧
      (shared.active = none ∨ shared.reconnect.isSome) ∧
      ∃ reconnect, after.reconnect = some reconnect ∧ reconnect.owner = task) ∨
    (progress ≠ .suspended () ∧ after.reconnect = none) ∨
    (progress ≠ .suspended () ∧ after = shared ∧
      ∀ reconnect, shared.reconnect = some reconnect → reconnect.owner ≠ task) := by
  have holds : ∀ {reconnect : Reconnect} {base : Shared} {phase : Phase},
      shared.reconnect = some reconnect → reconnect.owner = task → base.active = shared.active →
      (base.hold reconnect phase).active = shared.active ∧
        (shared.active = none ∨ shared.reconnect.isSome) ∧
        ∃ other, (base.hold reconnect phase).reconnect = some other ∧ other.owner = task := by
    intro reconnect base phase locked owned same
    exact ⟨same, .inr (by rw [locked]; rfl), _, rfl, owned⟩
  cases effects with
  | interrupted failure outside => exact .inr (.inr ⟨by simp, rfl, outside⟩)
  | found connection free => exact .inr (.inl ⟨by simp, free⟩)
  | races issues calm idle => exact .inl ⟨rfl, rfl, idle, _, rfl, rfl⟩
  | sleeps issues calm idle => exact .inl ⟨rfl, rfl, idle, _, rfl, rfl⟩
  | leaves => exact .inr (.inl ⟨by simp, rfl⟩)
  | opens reconnect locked owned => exact .inl ⟨rfl, holds locked owned rfl⟩
  | fails reconnect locked owned => exact .inl ⟨rfl, holds locked owned rfl⟩
  | asks reconnect locked owned => exact .inl ⟨rfl, holds locked owned rfl⟩
  | collects reconnect locked owned => exact .inl ⟨rfl, holds locked owned rfl⟩
  | subscribes reconnect locked owned connection point phase subscription remaining ready =>
      exact .inl ⟨rfl, holds locked owned ready.base.active⟩
  | replays reconnect locked owned connection walk current index frame =>
      rw [replayFrame_eq]
      exact .inl ⟨rfl, holds locked owned rfl⟩
  | picks reconnect locked owned connection point phase ready =>
      rw [replayFrame_eq]
      exact .inl ⟨rfl, holds locked owned ready.base.active⟩
  | changed reconnect locked owned connection point phase ready =>
      exact .inl ⟨rfl, holds locked owned ready.base.active⟩
  | finishes => exact .inr (.inl ⟨by simp, rfl⟩)

end Shared

/-- The lock is held only inside `_get_active_connection_state`, and without an active
connection. -/
structure State.Guarded (state : State) : Prop where
  owner : ∀ reconnect, state.shared.reconnect = some reconnect →
    (state.tasks reconnect.owner).Connecting
  locked : state.shared.reconnect.isSome → state.shared.active = none

namespace State.Guarded

variable {settings : Settings} {state after : State} {action : Action}

/-- A task takes or keeps the lock only while no connection is active. -/
theorem idle_of_locked (guarded : state.Guarded) (drives : Drives settings state action after)
    (locked : after.shared.reconnect.isSome) : state.shared.active = none := by
  cases drives with
  | apart _ beside => exact guarded.locked (by rwa [← beside.reconnect])
  | opens => exact guarded.locked locked
  | waits task reply choice standing resumed =>
      rcases (Shared.reconnects_resumeConnecting resumed).lock with ⟨-, -, idle, -⟩ |
        ⟨ended, -⟩ | ⟨ended, -⟩
      · exact idle.elim id guarded.locked
      · exact absurd rfl ended
      · exact absurd rfl ended
  | leaves task reply choice standing resumed ended beside =>
      rw [beside.reconnect] at locked
      rcases (Shared.reconnects_resumeConnecting resumed).lock with ⟨suspended, -⟩ |
        ⟨-, free⟩ | ⟨-, rfl, -⟩
      · exact absurd suspended ended
      · rw [free] at locked
        contradiction
      · exact guarded.locked locked

theorem drives (guarded : state.Guarded) (drives : Drives settings state action after) :
    after.Guarded := by
  have idle := guarded.idle_of_locked drives
  cases drives with
  | apart _ beside others =>
      refine ⟨?_, ?_⟩
      · intro reconnect locked
        have standing := guarded.owner reconnect (by rwa [← beside.reconnect])
        rwa [others _ standing]
      · intro locked
        obtain ⟨_, -, -, same | ⟨_, -, inactive, -⟩⟩ := beside.events
        · exact same.trans (idle locked)
        · exact inactive
  | opens => exact ⟨guarded.owner, guarded.locked⟩
  | waits task reply choice standing resumed =>
      rcases (Shared.reconnects_resumeConnecting resumed).lock with
        ⟨-, same, -, other, held, owned⟩ | ⟨ended, -⟩ | ⟨ended, -⟩
      · refine ⟨?_, fun locked => same.trans (idle locked)⟩
        intro reconnect locked
        obtain rfl := Option.some.inj (held.symm.trans locked)
        rwa [owned]
      · exact absurd rfl ended
      · exact absurd rfl ended
  | leaves task reply choice standing resumed ended beside others =>
      rcases (Shared.reconnects_resumeConnecting resumed).lock with ⟨suspended, -⟩ |
        ⟨-, free⟩ | ⟨-, rfl, outside⟩
      · exact absurd suspended ended
      · have unlocked := beside.reconnect.trans free
        refine ⟨?_, ?_⟩
        · intro reconnect locked
          rw [unlocked] at locked
          contradiction
        · intro locked
          rw [unlocked] at locked
          contradiction
      · refine ⟨?_, ?_⟩
        · intro reconnect locked
          rw [beside.reconnect] at locked
          have standing := guarded.owner reconnect locked
          rwa [others _ (outside reconnect locked) standing]
        · intro locked
          obtain ⟨_, -, -, same | ⟨_, -, inactive, -⟩⟩ := beside.events
          · exact same.trans (idle locked)
          · exact inactive

end State.Guarded

theorem guarded_initial (settings : Settings) : (client settings).initial.Guarded :=
  ⟨by simp [client], by simp [client]⟩

theorem guarded_of_reaches {settings : Settings} {allowed : State → Action → Prop} {state : State}
    (reach : (client settings).Reaches allowed state) : state.Guarded :=
  reach.invariant (guarded_initial settings) fun reach guarded _ stepped =>
    guarded.drives (Drives.of_step (fits_of_reaches reach) stepped)

/-! ## Returns -/

/-- A connection is active from one moment to a later one, unless it is discarded in between. -/
def Shared.Holds (before : Shared) (connection : ConnectionId) (after : Shared) : Prop :=
  ∃ later, after.trace = before.trace ++ later ∧
    (after.active = some connection ∨ ∃ other, .discarded other ∈ later)

namespace Shared.Holds

variable {before middle after : Shared} {connection : ConnectionId}

theorem refl (active : before.active = some connection) : before.Holds connection before :=
  ⟨[], by simp, .inl active⟩

theorem beside (holds : before.Holds connection middle) (beside : Beside middle after) :
    before.Holds connection after := by
  obtain ⟨early, early_eq, kept⟩ := holds
  obtain ⟨late, late_eq, -, same | ⟨other, -, -, discarded, -⟩⟩ := beside.events
  · refine ⟨early ++ late, by rw [late_eq, early_eq, List.append_assoc], ?_⟩
    rcases kept with active | ⟨other, discarded⟩
    · exact .inl (same.trans active)
    · exact .inr ⟨other, List.mem_append_left _ discarded⟩
  · exact ⟨early ++ late, by rw [late_eq, early_eq, List.append_assoc],
      .inr ⟨other, List.mem_append_right _ discarded⟩⟩

/-- Connecting never replaces an active connection. -/
theorem reconnects {settings : Settings} {task : TaskId} {reply : Reply}
    {progress : Progress Unit ConnectionId} (holds : before.Holds connection middle)
    (locked : middle.reconnect.isSome → middle.active = none)
    (effects : middle.Reconnects settings task reply after progress) :
    before.Holds connection after := by
  obtain ⟨early, early_eq, kept⟩ := holds
  obtain ⟨late, late_eq, -⟩ := effects.extends
  refine ⟨early ++ late, by rw [late_eq, early_eq, List.append_assoc], ?_⟩
  rcases kept with active | ⟨other, discarded⟩
  · left
    have free : middle.reconnect = none := by
      cases held : middle.reconnect with
      | none => rfl
      | some reconnect =>
          rw [locked (by rw [held]; rfl)] at active
          contradiction
    have unlocked : ∀ {reconnect : Reconnect}, middle.reconnect ≠ some reconnect := by
      intro reconnect held
      rw [free] at held
      contradiction
    cases effects with
    | interrupted => exact active
    | found => exact active
    | races => exact active
    | sleeps => exact active
    | leaves => exact active
    | opens _ held => exact absurd held unlocked
    | fails _ held => exact absurd held unlocked
    | asks _ held => exact absurd held unlocked
    | collects _ held => exact absurd held unlocked
    | subscribes _ held => exact absurd held unlocked
    | replays _ held => exact absurd held unlocked
    | picks _ held => exact absurd held unlocked
    | changed _ held => exact absurd held unlocked
    | finishes _ held => exact absurd held unlocked
  · exact .inr ⟨other, List.mem_append_left _ discarded⟩

theorem drives {settings : Settings} {state next : State} {action : Action}
    (holds : before.Holds connection state.shared) (guarded : state.Guarded)
    (drives : Drives settings state action next) : before.Holds connection next.shared := by
  cases drives with
  | apart _ beside => exact holds.beside beside
  | opens =>
      obtain ⟨early, early_eq, kept⟩ := holds
      refine ⟨early ++ [.opened state.shared.connections], ?_, ?_⟩
      · simp [Shared.emit, early_eq]
      · rcases kept with active | ⟨other, discarded⟩
        · exact .inl active
        · exact .inr ⟨other, List.mem_append_left _ discarded⟩
  | waits task reply choice standing resumed =>
      exact holds.reconnects guarded.locked (Shared.reconnects_resumeConnecting resumed)
  | leaves task reply choice standing resumed ended beside =>
      exact (holds.reconnects guarded.locked
        (Shared.reconnects_resumeConnecting resumed)).beside beside

end Shared.Holds

namespace Returns

variable {settings : Settings} {state after : State} {action : Action} {connection : ConnectionId}
  {moment : Shared}

/-- A call returns the connection that is active at that moment. -/
theorem active (returns : Returns settings state action connection moment) :
    moment.active = some connection := by
  cases returns with
  | atOnce _ _ found =>
      unfold Shared.getActiveConnectionState at found
      split at found
      · rename_i active
        obtain rfl : _ = connection := by simpa using found
        exact active
      · contradiction
  | resumed task reply choice _ standing resumed =>
      exact (Shared.reconnects_resumeConnecting resumed).active_of_returned

/-- What is left of the step after the return. -/
theorem holds_after (guarded : state.Guarded)
    (returns : Returns settings state action connection moment)
    (drives : Drives settings state action after) : moment.Holds connection after.shared := by
  have active := returns.active
  cases returns with
  | atOnce => exact (Shared.Holds.refl active).drives guarded drives
  | resumed task reply choice _ standing resumed =>
      cases drives with
      | apart idle => exact absurd standing (idle _ _ _ rfl)
      | waits _ _ _ _ other =>
          have clash := Option.some.inj (other.symm.trans resumed)
          simp at clash
      | leaves _ _ _ _ other _ beside =>
          obtain ⟨rfl, -⟩ := Prod.mk.inj (Option.some.inj (resumed.symm.trans other))
          exact (Shared.Holds.refl active).beside beside

/-- A call that returns while a connection is still active gets that connection. -/
theorem eq_of_holds {earlier : Shared} {first : ConnectionId} (guarded : state.Guarded)
    (holds : earlier.Holds first state.shared)
    (returns : Returns settings state action connection moment) {between : List Event}
    (grows : moment.trace = earlier.trace ++ between)
    (kept : ∀ other, .discarded other ∉ between) : connection = first := by
  have holds_moment : earlier.Holds first moment := by
    cases returns with
    | atOnce => exact holds
    | resumed task reply choice _ standing resumed =>
        exact holds.reconnects guarded.locked (Shared.reconnects_resumeConnecting resumed)
  obtain ⟨later, later_eq, active | ⟨other, discarded⟩⟩ := holds_moment
  · exact Option.some.inj (returns.active.symm.trans active)
  · obtain rfl := List.append_cancel_left (later_eq.symm.trans grows)
    exact absurd discarded (kept other)

end Returns

/-- Reconnection is single-flight and consistent: at most one task connects, it starts only while no
connection is active, a call returns the connection that is active at that moment (so the assignment
in `__aenter__` changes nothing), and two calls between whose returns nothing is discarded return
the same connection. -/
theorem single_flight (settings : Settings) :
    (∀ state, (client settings).Reachable state →
      (∀ task other, state.ConnectsToAnyServer task → state.ConnectsToAnyServer other →
        task = other) ∧
      ∀ reconnect, state.shared.reconnect = some reconnect →
        (state.tasks reconnect.owner).Connecting ∧ state.shared.active = none) ∧
    (∀ state action after, (client settings).Reachable state →
      (client settings).step state action = some after → ∀ task,
        ¬ state.ConnectsToAnyServer task → after.ConnectsToAnyServer task →
        state.shared.active = none) ∧
    (∀ state action connection moment, (client settings).Reachable state →
      Returns settings state action connection moment → moment.active = some connection) ∧
    ∀ state action first earlier after, (client settings).Reachable state →
      Returns settings state action first earlier →
      (client settings).step state action = some after →
      ∀ later other second moment between, (client settings).Leads after later →
        Returns settings later other second moment →
        moment.trace = earlier.trace ++ between → (∀ lost, .discarded lost ∉ between) →
        second = first := by
  refine ⟨?_, ?_, ?_, ?_⟩
  · intro state reach
    have guarded := guarded_of_reaches reach
    refine ⟨?_, ?_⟩
    · rintro task other ⟨-, reconnect, locked, rfl, -⟩ ⟨-, same, held, rfl, -⟩
      rw [Option.some.inj (locked.symm.trans held)]
    · intro reconnect locked
      exact ⟨guarded.owner reconnect locked, guarded.locked (by rw [locked]; rfl)⟩
  · intro state action after reach stepped task _ started
    obtain ⟨-, reconnect, locked, -⟩ := started
    exact (guarded_of_reaches reach).idle_of_locked
      (Drives.of_step (fits_of_reaches reach) stepped) (by rw [locked]; rfl)
  · intro state action connection moment _ returns
    exact returns.active
  · intro state action first earlier after reach returns stepped later other second moment between
      leads returned grows kept
    have reached : (client settings).Reachable after := .step reach trivial stepped
    have held : earlier.Holds first after.shared :=
      returns.holds_after (guarded_of_reaches reach)
        (Drives.of_step (fits_of_reaches reach) stepped)
    have still : (client settings).Reachable later ∧ earlier.Holds first later.shared := by
      clear returned
      induction leads with
      | refl => exact ⟨reached, held⟩
      | tail _ next ih =>
          obtain ⟨action, stepped⟩ := next
          exact ⟨.step ih.1 trivial stepped, ih.2.drives (guarded_of_reaches ih.1)
            (Drives.of_step (fits_of_reaches ih.1) stepped)⟩
    exact returned.eq_of_holds (guarded_of_reaches still.1) still.2 grows kept

end Stompman
