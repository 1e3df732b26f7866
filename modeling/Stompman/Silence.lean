import Stompman.Listening
import Stompman.Rules

/-!
# The no-message monitor

`_monitor_no_message_timeout` forces a reconnect when no MESSAGE has come for an interval.  Here the
client runs beside a clock: what the monitor reads off it is no longer a free choice, and its sleeps
end when their time has come.  The clock counts some unit of time and does not go back.

A monitor takes the active connection away only after an interval in which no connection became
active and no MESSAGE came, and, if sleeping tasks are woken in time, no connection outlasts such an
interval.
-/

namespace Stompman

open Foundation

/-- Events at which a connection becomes active. -/
def Event.activates : Event → Bool
  | .activated _ => true
  | _ => false

/-- Events at which `_last_message_received_time` is set: a connection becomes active, or the
listener takes a MESSAGE. -/
def Event.refreshes : Event → Bool
  | .activated _ => true
  | .received _ _ _ (.frame frame) => frame.type = .message
  | _ => false

/-! ## The client and a clock -/

/-- A client, a clock and what the client has read off it. -/
structure Timed where
  state : State
  now : Nat := 0
  /-- `_last_message_received_time`. -/
  lastMessage : Nat := 0
  /-- When the sleep of a monitor ends; for one that has not run yet, when it was created. -/
  wakes : Nat → Nat := fun _ => 0
  /-- The events so far, with the time of each. -/
  log : List (Event × Nat) := []

/-- Steps of a client, and the passing of time. -/
inductive TimedAction
  | client (action : Action)
  | passes (time : Nat)

namespace Timed

/-- Whether `_monitor_no_message_timeout` finds that the interval has passed. -/
def expired (interval : Nat) (timed : Timed) : Bool :=
  ¬ 0 < interval - (timed.now - timed.lastMessage)

/-- When the sleep ends that a monitor goes to from a position. -/
def sleepsUntil (interval : Nat) (timed : Timed) : Point → Nat
  | .monitor (.discarding _) => timed.now + interval
  | _ =>
      if timed.expired interval then timed.now + interval
      else timed.now + (interval - (timed.now - timed.lastMessage))

/-- A monitor wakes up after its sleep, and compares the clock with the interval. -/
def enabled (interval : Nat) (timed : Timed) : Action → Bool
  | .resume (.monitor generation) .returned choice =>
      match timed.state.tasks (.monitor generation) with
      | .monitor .created => choice.expired = timed.expired interval
      | .monitor .sleeping =>
          timed.wakes generation ≤ timed.now ∧ choice.expired = timed.expired interval
      | _ => true
  | _ => true

/-- The clock readings that a step leaves behind. -/
def advance (interval : Nat) (timed : Timed) (action : Action) (next : State) : Timed :=
  let later := next.shared.trace.drop timed.state.shared.trace.length
  let wakes : Nat → Nat :=
    match action with
    | .resume (.monitor generation) .returned _ =>
        Function.update timed.wakes generation
          (timed.sleepsUntil interval (timed.state.tasks (.monitor generation)))
    | _ => timed.wakes
  { state := next
    now := timed.now
    lastMessage := if later.any Event.refreshes then timed.now else timed.lastMessage
    wakes := fun generation =>
      if timed.state.shared.monitors ≤ generation ∧ generation < next.shared.monitors then timed.now
      else wakes generation
    log := timed.log ++ later.map fun event => (event, timed.now) }

end Timed

/-- One step of a client beside a clock. -/
def timedStep (settings : Settings) (interval : Nat) (timed : Timed) : TimedAction → Option Timed
  | .client action =>
      if timed.enabled interval action then
        (step settings timed.state action).map (timed.advance interval action)
      else none
  | .passes time => some { timed with now := timed.now + time }

/-- The client beside a clock as a transition system. -/
def timedClient (settings : Settings) (interval : Nat) : System Timed TimedAction where
  initial := { state := (client settings).initial }
  step := timedStep settings interval

/-- The last monitor starts and wakes up in time, up to a delay, and it is not cancelled. -/
def Prompt (delay : Nat) (timed : Timed) : TimedAction → Prop
  | .passes time =>
      ∀ generation, generation + 1 = timed.state.shared.monitors →
        timed.state.tasks (.monitor generation) = .monitor .created ∨
          timed.state.tasks (.monitor generation) = .monitor .sleeping →
        timed.now + time ≤ timed.wakes generation + delay
  | .client (.resume (.monitor generation) (.raised _) _) =>
      generation + 1 = timed.state.shared.monitors →
        ∃ connection, timed.state.tasks (.monitor generation) = .monitor (.discarding connection)
  | _ => True

/-! ## What a step does to monitors -/

/-- Every activation creates a monitor, if there are any, and nothing else makes a connection
active. -/
def Renews (settings : Settings) (before after : Shared) : Prop :=
  ∃ later, after.trace = before.trace ++ later ∧
    after.monitors =
      before.monitors + (if settings.monitored then later.countP Event.activates else 0) ∧
    (later.countP Event.activates = 0 → after.active = before.active ∨ after.active = none)

namespace Renews

variable {settings : Settings} {shared before middle after : Shared}

theorem of_same (trace : after.trace = before.trace) (monitors : after.monitors = before.monitors)
    (active : after.active = before.active) : Renews settings before after :=
  ⟨[], by simp [trace], by simp [monitors], fun _ => .inl active⟩

theorem refl (shared : Shared) : Renews settings shared shared := of_same rfl rfl rfl

theorem trans (first : Renews settings before middle) (second : Renews settings middle after) :
    Renews settings before after := by
  obtain ⟨early, early_eq, early_monitors, early_active⟩ := first
  obtain ⟨late, late_eq, late_monitors, late_active⟩ := second
  refine ⟨early ++ late, by rw [late_eq, early_eq, List.append_assoc], ?_, ?_⟩
  · rw [late_monitors, early_monitors, List.countP_append]
    split <;> omega
  · rw [List.countP_append, Nat.add_eq_zero_iff]
    rintro ⟨first, second⟩
    rcases late_active second with same | gone
    · rw [same]
      exact early_active first
    · exact .inr gone

theorem emit (shared : Shared) {event : Event} (calm : event.activates = false) :
    Renews settings shared (shared.emit event) :=
  ⟨[event], rfl, by simp [Shared.emit, calm], fun _ => .inl rfl⟩

theorem discard (shared : Shared) (connection : ConnectionId) :
    Renews settings shared (shared.discard connection) :=
  ⟨[.discarded connection, .closed connection], by simp [Shared.discard, Shared.emit],
    by simp [Shared.discard, Shared.emit, Event.activates], fun _ => .inr rfl⟩

theorem hold (shared : Shared) (reconnect : Reconnect) (phase : Phase) :
    Renews settings shared (shared.hold reconnect phase) :=
  of_same rfl rfl rfl

theorem ready {connection : ConnectionId} {reply : Reply} {point : Enter} {base : Shared}
    {rest : List Subscription} {walk : Walk}
    (ready : shared.Ready settings connection reply point base rest walk) :
    Renews settings shared base := by
  cases ready with
  | confirmed => exact of_same rfl rfl rfl
  | resubscribed => exact emit _ rfl
  | committed => exact emit _ rfl

theorem replayFrame (shared : Shared) (reconnect : Reconnect) (connection : ConnectionId)
    (walk : Walk) (transaction : String) (index : Nat) :
    Renews settings shared
      (shared.replayFrame reconnect connection walk transaction index) := by
  rw [Shared.replayFrame_eq]
  exact trans (emit _ rfl) (hold _ _ _)

theorem activate (shared : Shared) (connection : ConnectionId) :
    Renews settings shared (shared.clearTransactions.activate settings connection) := by
  refine ⟨[.activated connection], rfl, ?_, ?_⟩
  · simp only [Shared.activate, Shared.clearTransactions]
    split <;> simp [Event.activates]
  · simp [Event.activates]

theorem reconnects {task : TaskId} {reply : Reply} {progress : Progress Unit ConnectionId}
    (effects : shared.Reconnects settings task reply after progress) :
    Renews settings shared after := by
  cases effects with
  | interrupted => exact refl _
  | found => exact refl _
  | races => exact hold _ _ _
  | sleeps => exact hold _ _ _
  | leaves => exact of_same rfl rfl rfl
  | opens =>
      exact trans (trans (trans (emit _ rfl) (of_same rfl rfl rfl)) (emit _ rfl)) (hold _ _ _)
  | fails => exact trans (emit _ rfl) (hold _ _ _)
  | asks => exact trans (emit _ rfl) (hold _ _ _)
  | collects => exact hold _ _ _
  | subscribes _ _ _ _ _ _ _ _ base => exact trans (ready base) (trans (emit _ rfl) (hold _ _ _))
  | replays => exact trans (emit _ rfl) (replayFrame _ _ _ _ _ _)
  | picks _ _ _ _ _ _ base => exact trans (ready base) (replayFrame _ _ _ _ _ _)
  | changed _ _ _ _ _ _ base => exact trans (ready base) (trans (emit _ rfl) (hold _ _ _))
  | finishes _ _ _ _ _ _ base => exact trans (ready base) (activate _ _)

theorem relates : RelatesSteps settings (Renews settings) where
  refl := refl
  trans := trans
  hand shared _ _ _ := emit shared rfl
  noteWritten shared _ _ := emit shared rfl
  discard shared connection _ := discard shared connection
  acknowledged shared _ _ _ := emit shared rfl
  unsubscribed shared _ := emit shared rfl
  subscriptions _ _ := of_same rfl rfl rfl
  transactions _ _ _ := of_same rfl rfl rfl
  reconnects := reconnects
  emits shared event own := by
    refine emit shared ?_
    cases event with
    | activated => exact own.elim
    | _ => rfl
  aside unrelated := of_same unrelated.trace unrelated.monitors unrelated.active

end Renews

/-! ## Monitors of the client -/

section Monitors

variable {settings : Settings} {state after : State} {action : Action}

theorem renews_of_step (fits : state.Fits) (stepped : step settings state action = some after) :
    Renews settings state.shared after.shared :=
  Renews.relates.of_step fits stepped

theorem Renews.monitors_le {before after : Shared} (renews : Renews settings before after) :
    before.monitors ≤ after.monitors := by
  obtain ⟨later, -, monitors, -⟩ := renews
  omega

/-- A monitor that has not been created yet does not run. -/
theorem monitor_created_of_step (fits : state.Fits) {generation : Nat}
    (future : state.shared.monitors ≤ generation)
    (created : state.tasks (.monitor generation) = .monitor .created)
    (stepped : step settings state action = some after) :
    after.tasks (.monitor generation) = .monitor .created := by
  by_cases named : action.task = some (.monitor generation)
  · cases steps_of_step stepped with
    | resume task reply choice exists_ =>
        obtain rfl : task = .monitor generation := by simpa [Action.task] using named
        have born : generation < state.shared.monitors := of_decide_eq_true exists_
        omega
    | _ => simp [Action.task] at named
  · rw [tasks_of_step fits stepped named (by simp) (by simp)]
    exact created

theorem monitor_created_of_reaches {allowed : State → Action → Prop}
    (reach : (client settings).Reaches allowed state) {generation : Nat}
    (future : state.shared.monitors ≤ generation) :
    state.tasks (.monitor generation) = .monitor .created := by
  refine @System.Reaches.invariant _ _ (client settings) allowed
    (fun state => state.shared.monitors ≤ generation →
      state.tasks (.monitor generation) = .monitor .created) (fun _ => rfl) ?_ state reach future
  intro before after action reach known _ stepped future
  have fits := fits_of_reaches reach
  have earlier := (renews_of_step fits stepped).monitors_le.trans future
  exact monitor_created_of_step fits earlier (known earlier) stepped

/-- What a monitor does when it is resumed. -/
inductive Monitors (state : State) (generation : Nat) (choice : Choice) : Reply → State → Prop
  | rests (reply : Reply) (connection : ConnectionId)
      (standing : state.tasks (.monitor generation) = .monitor (.discarding connection)) :
      Monitors state generation choice reply
        (state.store (.monitor generation)
          { shared := state.shared, point := .monitor .sleeping })
  | loops
      (standing : state.tasks (.monitor generation) = .monitor .created ∨
        state.tasks (.monitor generation) = .monitor .sleeping) :
      Monitors state generation choice .returned
        (state.store (.monitor generation) (MonitorPoint.loop state.shared choice.expired))
  | raises (failure : Failure) :
      Monitors state generation choice (.raised failure)
        (state.store (.monitor generation) { shared := state.shared, point := .raised failure })

theorem MonitorPoint.active_loop_true (shared : Shared) :
    (MonitorPoint.loop shared true).shared.active = none := by
  unfold MonitorPoint.loop
  split
  · rfl
  · rename_i idle
    cases active : shared.active with
    | none => rfl
    | some connection => exact absurd active (idle connection rfl)

theorem MonitorPoint.loop_false (shared : Shared) :
    MonitorPoint.loop shared false = { shared, point := .monitor .sleeping } := rfl

theorem monitors_of_step (fits : state.Fits) {generation : Nat} {reply : Reply} {choice : Choice}
    (stepped : step settings state (.resume (.monitor generation) reply choice) = some after) :
    Monitors state generation choice reply after := by
  cases steps_of_step stepped with
  | resume _ _ _ created resumes =>
      have own := fits.tasks (.monitor generation)
      generalize standing : state.tasks (.monitor generation) = point at own resumes
      cases point with
      | monitor point =>
          simp only [Point.resume, MonitorPoint.resume] at resumes
          split at resumes
          · obtain rfl := Option.some.inj resumes
            exact .rests _ _ standing
          · rename_i elsewhere
            obtain rfl := Option.some.inj resumes
            refine .loops ?_
            cases point with
            | created => exact .inl standing
            | sleeping => exact .inr standing
            | discarding connection => exact absurd rfl (elsewhere connection)
          · obtain rfl := Option.some.inj resumes
            exact .raises _
          · contradiction
      | _ => simp_all [Point.Fits, Job.Runs, Duty.Runs, Point.resume]

end Monitors

/-! ## Runs -/

section Runs

variable {settings : Settings} {interval delay : Nat} {timed next : Timed}

theorem timedStep_client {action : Action}
    (stepped : timedStep settings interval timed (.client action) = some next) :
    timed.enabled interval action = true ∧ ∃ state, step settings timed.state action = some state ∧
      next = timed.advance interval action state := by
  simp only [timedStep] at stepped
  split at stepped
  · rename_i enabled
    obtain ⟨state, moved, rfl⟩ := Option.map_eq_some_iff.mp stepped
    exact ⟨enabled, state, moved, rfl⟩
  · contradiction

/-- A run beside a clock is a run of the client. -/
theorem reachable_of_timed {allowed : Timed → TimedAction → Prop}
    (reach : (timedClient settings interval).Reaches allowed timed) :
    (client settings).Reachable timed.state := by
  refine @System.Reaches.invariant _ _ _ _ (fun timed => (client settings).Reachable timed.state)
    ?_ ?_ timed reach
  · exact .initial
  · intro before after action _ reachable _ stepped
    cases action with
    | client action =>
        obtain ⟨-, state, moved, rfl⟩ := timedStep_client stepped
        exact .step reachable trivial moved
    | passes time =>
        obtain rfl := Option.some.inj stepped
        exact reachable

namespace Timed

/-- `_last_message_received_time` is the time of the last event that sets it, and there has been one
if a connection is active. -/
structure Dated (timed : Timed) : Prop where
  past : timed.lastMessage ≤ timed.now
  latest : ∀ event time, (event, time) ∈ timed.log → event.refreshes = true →
    time ≤ timed.lastMessage
  attained : timed.state.shared.active ≠ none →
    ∃ event, (event, timed.lastMessage) ∈ timed.log ∧ event.refreshes = true

theorem refreshes_of_activates {event : Event} (activates : event.activates = true) :
    event.refreshes = true := by
  cases event with
  | activated => rfl
  | _ => contradiction

theorem Dated.step {action : Action} {state : State} (dated : timed.Dated)
    (renews : Renews settings timed.state.shared state.shared) :
    (timed.advance interval action state).Dated := by
  obtain ⟨later, trace_eq, -, calm⟩ := renews
  have added : state.shared.trace.drop timed.state.shared.trace.length = later := by
    rw [trace_eq, List.drop_left]
  unfold Timed.advance
  rw [added]
  by_cases refreshed : later.any Event.refreshes = true
  · simp only [refreshed, if_true]
    refine ⟨Nat.le_refl _, ?_, ?_⟩
    · intro event time member refreshes
      rcases List.mem_append.mp member with old | new
      · exact (dated.latest event time old refreshes).trans dated.past
      · obtain ⟨_, _, same⟩ := List.mem_map.mp new
        exact Nat.le_of_eq (Prod.mk.inj same).2.symm
    · intro _
      obtain ⟨event, member, refreshes⟩ := List.any_eq_true.mp refreshed
      exact ⟨event, List.mem_append_right _ (List.mem_map.mpr ⟨event, member, rfl⟩), refreshes⟩
  · simp only [refreshed]
    have silent : ∀ event ∈ later, event.refreshes ≠ true := by
      intro event member refreshes
      exact refreshed (List.any_eq_true.mpr ⟨event, member, refreshes⟩)
    refine ⟨dated.past, ?_, ?_⟩
    · intro event time member refreshes
      rcases List.mem_append.mp member with old | new
      · exact dated.latest event time old refreshes
      · obtain ⟨other, among, same⟩ := List.mem_map.mp new
        obtain ⟨rfl, -⟩ := Prod.mk.inj same
        exact absurd refreshes (silent _ among)
    · intro active
      have unactivated : later.countP Event.activates = 0 := by
        rw [List.countP_eq_zero]
        intro event member activates
        exact silent event member (refreshes_of_activates activates)
      rcases calm unactivated with same | gone
      · obtain ⟨event, member, refreshes⟩ := dated.attained (same ▸ active)
        exact ⟨event, List.mem_append_left _ member, refreshes⟩
      · exact absurd gone active

end Timed

theorem dated_of_reaches {allowed : Timed → TimedAction → Prop}
    (reach : (timedClient settings interval).Reaches allowed timed) : timed.Dated := by
  refine @System.Reaches.invariant _ _ _ _ Timed.Dated ?_ ?_ timed reach
  · exact ⟨Nat.le_refl _, by simp [timedClient], fun active => absurd rfl active⟩
  · intro before after action reach dated _ stepped
    cases action with
    | client action =>
        obtain ⟨-, state, moved, rfl⟩ := timedStep_client stepped
        exact dated.step (renews_of_step (fits_of_reaches (reachable_of_timed reach)) moved)
    | passes time =>
        obtain rfl := Option.some.inj stepped
        exact ⟨Nat.le_add_right_of_le dated.past, dated.latest, dated.attained⟩

namespace Timed

/-- The last monitor is about to start or asleep, and is due not later than the interval allows. -/
structure Watches (interval delay : Nat) (timed : Timed) (generation : Nat) : Prop where
  last : generation + 1 = timed.state.shared.monitors
  standing : timed.state.tasks (.monitor generation) = .monitor .created ∨
    timed.state.tasks (.monitor generation) = .monitor .sleeping
  due : timed.wakes generation ≤ timed.lastMessage + interval
  waiting : timed.now ≤ timed.wakes generation + delay

/-- An active connection is watched. -/
def Watched (interval delay : Nat) (timed : Timed) : Prop :=
  timed.state.shared.active ≠ none → ∃ generation, timed.Watches interval delay generation

theorem lastMessage_le_advance (dated : timed.Dated) (action : Action) (state : State) :
    timed.lastMessage ≤ (timed.advance interval action state).lastMessage := by
  simp only [advance]
  split
  · exact dated.past
  · exact Nat.le_refl _

/-- A new connection is active, and a new monitor has been created. -/
theorem Watches.created {action : Action} {state : State} {later : List Event}
    (monitored : settings.monitored = true)
    (trace_eq : state.shared.trace = timed.state.shared.trace ++ later)
    (monitors : state.shared.monitors = timed.state.shared.monitors +
      (if settings.monitored then later.countP Event.activates else 0))
    (activated : later.countP Event.activates ≠ 0)
    (fresh : ∀ generation, timed.state.shared.monitors ≤ generation →
      state.tasks (.monitor generation) = .monitor .created) :
    (timed.advance interval action state).Watches interval delay (state.shared.monitors - 1) := by
  rw [if_pos monitored] at monitors
  have recent : timed.state.shared.monitors ≤ state.shared.monitors - 1 ∧
      state.shared.monitors - 1 < state.shared.monitors := by omega
  obtain ⟨event, member, activates⟩ := List.countP_pos_iff.mp (Nat.pos_of_ne_zero activated)
  have refreshed : later.any Event.refreshes = true :=
    List.any_eq_true.mpr ⟨event, member, refreshes_of_activates activates⟩
  have added : state.shared.trace.drop timed.state.shared.trace.length = later := by
    rw [trace_eq, List.drop_left]
  have wakes : (timed.advance interval action state).wakes (state.shared.monitors - 1) =
      timed.now := if_pos recent
  have lastMessage : (timed.advance interval action state).lastMessage = timed.now := by
    simp only [advance, added, refreshed, if_true]
  refine ⟨Nat.sub_add_cancel (by omega), .inl (fresh _ recent.1), ?_, ?_⟩
  · rw [wakes, lastMessage]
    exact Nat.le_add_right _ _
  · rw [wakes]
    exact Nat.le_add_right _ _

/-- A monitor that is not late sleeps until the interval has passed. -/
theorem sleepsUntil_of_current (past : timed.lastMessage ≤ timed.now)
    (current : timed.expired interval = false) {point : Point}
    (standing : point = .monitor .created ∨ point = .monitor .sleeping) :
    timed.sleepsUntil interval point = timed.lastMessage + interval := by
  have early : 0 < interval - (timed.now - timed.lastMessage) := by
    simpa [Timed.expired] using current
  rcases standing with rfl | rfl
  · simp only [sleepsUntil, current, Bool.false_eq_true, if_false]
    omega
  · simp only [sleepsUntil, current, Bool.false_eq_true, if_false]
    omega

/-- A step of another task. -/
theorem Watches.other {action : Action} {state : State} {generation : Nat} (dated : timed.Dated)
    (watches : timed.Watches interval delay generation)
    (monitors : state.shared.monitors = timed.state.shared.monitors)
    (other : action.task ≠ some (.monitor generation))
    (tasks : state.tasks (.monitor generation) = timed.state.tasks (.monitor generation)) :
    (timed.advance interval action state).Watches interval delay generation := by
  obtain ⟨last, standing, due, waiting⟩ := watches
  have wakes : (timed.advance interval action state).wakes generation =
      timed.wakes generation := by
    simp only [advance]
    rw [if_neg (by omega)]
    split
    · rename_i own _
      have different : generation ≠ own := by
        rintro rfl
        exact other rfl
      rw [Function.update_of_ne different]
    · rfl
  refine ⟨last.trans monitors.symm, ?_, ?_, ?_⟩
  · change state.tasks _ = _ ∨ state.tasks _ = _
    rw [tasks]
    exact standing
  · rw [wakes]
    exact due.trans (Nat.add_le_add_right (lastMessage_le_advance dated _ _) _)
  · rw [wakes]
    exact waiting

/-- The monitor itself goes on, and the connection stays active. -/
theorem Watches.own {reply : Reply} {choice : Choice} {state : State} {generation : Nat}
    (dated : timed.Dated) (watches : timed.Watches interval delay generation)
    (enabled : timed.enabled interval (.resume (.monitor generation) reply choice) = true)
    (prompt : Prompt delay timed (.client (.resume (.monitor generation) reply choice)))
    (effects : Monitors timed.state generation choice reply state)
    (active : state.shared.active ≠ none) :
    (timed.advance interval (.resume (.monitor generation) reply choice) state).Watches interval
      delay generation := by
  obtain ⟨last, standing, due, waiting⟩ := watches
  cases effects with
  | rests reply connection discarding =>
      rw [discarding] at standing
      simp at standing
  | raises failure =>
      obtain ⟨connection, discarding⟩ := prompt last
      rw [discarding] at standing
      simp at standing
  | loops =>
      have compared : choice.expired = timed.expired interval := by
        rcases standing with created | sleeping
        · simpa [Timed.enabled, created] using enabled
        · simp only [Timed.enabled, sleeping, decide_eq_true_eq] at enabled
          exact enabled.2
      have current : timed.expired interval = false := by
        by_contra late
        rw [Bool.not_eq_false] at late
        rw [State.shared_store, compared, late] at active
        exact active (MonitorPoint.active_loop_true _)
      have wakes : (timed.advance interval (.resume (.monitor generation) .returned choice)
          (timed.state.store (.monitor generation)
            { shared := timed.state.shared, point := .monitor .sleeping })).wakes generation =
          timed.lastMessage + interval := by
        have old : ¬ (timed.state.shared.monitors ≤ generation ∧
            generation < timed.state.shared.monitors) := by omega
        refine (if_neg old).trans ((Function.update_self _ _ _).trans ?_)
        exact sleepsUntil_of_current dated.past current standing
      rw [compared, current, MonitorPoint.loop_false]
      refine ⟨last, .inr ?_, ?_, ?_⟩
      · exact State.tasks_store_of_unspawned rfl
      · rw [wakes]
        exact Nat.add_le_add_right (lastMessage_le_advance dated _ _) _
      · rw [wakes]
        change timed.now ≤ _
        have early : 0 < interval - (timed.now - timed.lastMessage) := by
          simpa [Timed.expired] using current
        omega

/-- A connection that is active after a step is watched. -/
theorem Watched.step {action : Action} {state : State} (monitored : settings.monitored = true)
    (reach : (client settings).Reachable timed.state) (dated : timed.Dated)
    (watched : timed.Watched interval delay) (prompt : Prompt delay timed (.client action))
    (enabled : timed.enabled interval action = true)
    (moved : Stompman.step settings timed.state action = some state) :
    (timed.advance interval action state).Watched interval delay := by
  intro active
  have fits := fits_of_reaches reach
  obtain ⟨later, trace_eq, monitors, calm⟩ := renews_of_step fits moved
  by_cases quiet : later.countP Event.activates = 0
  · have unchanged : state.shared.monitors = timed.state.shared.monitors := by
      simpa [quiet] using monitors
    have before : timed.state.shared.active ≠ none := by
      rcases calm quiet with same | gone
      · rw [← same]
        exact active
      · exact absurd gone active
    obtain ⟨generation, watches⟩ := watched before
    refine ⟨generation, ?_⟩
    by_cases own : action.task = some (.monitor generation)
    · cases steps_of_step moved with
      | resume task reply choice created resumes =>
          obtain rfl : task = .monitor generation := by simpa [Action.task] using own
          exact watches.own dated enabled prompt (monitors_of_step fits moved) active
      | _ => simp [Action.task] at own
    · exact watches.other dated unchanged own (tasks_of_step fits moved own (by simp) (by simp))
  · refine ⟨_, Watches.created monitored trace_eq monitors quiet fun generation future => ?_⟩
    exact monitor_created_of_step fits future (monitor_created_of_reaches reach future) moved

end Timed

theorem watched_of_reaches (monitored : settings.monitored = true)
    (reach : (timedClient settings interval).Reaches (Prompt delay) timed) :
    timed.Watched interval delay := by
  refine @System.Reaches.invariant _ _ _ _ (Timed.Watched interval delay) ?_ ?_ timed reach
  · exact fun active => absurd rfl active
  · intro before after action reach watched prompt stepped
    cases action with
    | client action =>
        obtain ⟨enabled, state, moved, rfl⟩ := timedStep_client stepped
        exact watched.step monitored (reachable_of_timed reach) (dated_of_reaches reach) prompt
          enabled moved
    | passes time =>
        obtain rfl := Option.some.inj stepped
        intro active
        obtain ⟨generation, last, standing, due, -⟩ := watched active
        exact ⟨generation, last, standing, due, prompt generation last standing⟩

/-- Times are recorded for all events. -/
theorem map_log_of_reaches {allowed : Timed → TimedAction → Prop}
    (reach : (timedClient settings interval).Reaches allowed timed) :
    timed.log.map Prod.fst = timed.state.shared.trace := by
  refine @System.Reaches.invariant _ _ _ _
    (fun timed => timed.log.map Prod.fst = timed.state.shared.trace) rfl ?_ timed reach
  intro before after action reach recorded _ stepped
  cases action with
  | client action =>
      obtain ⟨-, state, moved, rfl⟩ := timedStep_client stepped
      obtain ⟨later, trace_eq, -⟩ :=
        renews_of_step (fits_of_reaches (reachable_of_timed reach)) moved
      simp [Timed.advance, trace_eq, recorded, Function.comp_def]
  | passes time =>
      obtain rfl := Option.some.inj stepped
      exact recorded

/-- A monitor that takes the active connection away has found that the interval has passed. -/
theorem expired_of_discards (fits : timed.state.Fits) {generation : Nat} {reply : Reply}
    {choice : Choice}
    (stepped : timedStep settings interval timed
      (.client (.resume (.monitor generation) reply choice)) = some next)
    (discards : next.state.shared.active ≠ timed.state.shared.active) :
    timed.expired interval = true := by
  obtain ⟨enabled, state, moved, rfl⟩ := timedStep_client stepped
  cases monitors_of_step fits moved with
  | rests => exact absurd rfl discards
  | raises => exact absurd rfl discards
  | loops standing =>
      by_contra current
      rw [Bool.not_eq_true] at current
      have compared : choice.expired = false := by
        rcases standing with created | sleeping
        · simpa [Timed.enabled, created, current] using enabled
        · simp only [Timed.enabled, sleeping, decide_eq_true_eq] at enabled
          exact enabled.2.trans current
      rw [compared] at discards
      exact discards rfl

end Runs

/-- Whenever a monitor takes the active connection away, an interval has passed since every time at
which a connection became active or the listener took a MESSAGE.  If the last monitor starts and
wakes up in time, up to a delay, and is not cancelled, one of these times is recent enough as long
as a connection is active. -/
theorem silence_of_reachable {settings : Settings} {interval : Nat} {timed : Timed}
    (reach : (timedClient settings interval).Reachable timed) :
    timed.log.map Prod.fst = timed.state.shared.trace ∧
    (∀ generation reply choice next,
      timedStep settings interval timed (.client (.resume (.monitor generation) reply choice)) =
        some next → next.state.shared.active ≠ timed.state.shared.active →
      ∀ event time, (event, time) ∈ timed.log → event.refreshes = true →
        time + interval ≤ timed.now) ∧
    ∀ delay, settings.monitored = true →
      (timedClient settings interval).Reaches (Prompt delay) timed →
      timed.state.shared.active ≠ none →
      ∃ event time, (event, time) ∈ timed.log ∧ event.refreshes = true ∧
        timed.now ≤ time + interval + delay := by
  have dated := dated_of_reaches reach
  refine ⟨map_log_of_reaches reach, ?_, ?_⟩
  · intro generation reply choice next stepped discards event time member refreshes
    have fits := fits_of_reaches (reachable_of_timed reach)
    have expired := expired_of_discards fits stepped discards
    have passed : ¬ 0 < interval - (timed.now - timed.lastMessage) := by
      simpa [Timed.expired] using expired
    have past := dated.past
    have earlier := dated.latest event time member refreshes
    omega
  · intro delay monitored prompt active
    obtain ⟨generation, -, -, due, waiting⟩ := watched_of_reaches monitored prompt active
    obtain ⟨event, member, refreshes⟩ := dated.attained active
    exact ⟨event, timed.lastMessage, member, refreshes, by omega⟩

/-! ## A silent server -/

/-- A client with a no-message monitor. -/
def monitoredSettings : Settings := { plainSettings with monitored := true }

/-- No time passes that the last monitor should not sleep through, and no monitor is interrupted. -/
def promptly (timed : Timed) : TimedAction → Bool
  | .passes time =>
      timed.state.shared.monitors = 0 ∨
        timed.now + time ≤ timed.wakes (timed.state.shared.monitors - 1)
  | .client (.resume (.monitor _) (.raised _) _) => false
  | _ => true

theorem prompt_of_promptly {timed : Timed} {action : TimedAction}
    (passes : promptly timed action = true) : Prompt 0 timed action := by
  cases action with
  | passes time =>
      intro generation last _
      obtain rfl : generation = timed.state.shared.monitors - 1 := by omega
      rcases of_decide_eq_true passes with none | early
      · omega
      · exact early
  | client action =>
      unfold promptly at passes
      split at passes
      · contradiction
      · contradiction
      · rename_i elsewhere
        unfold Prompt
        split
        · contradiction
        · rename_i same
          exact absurd same (elsewhere _ _ _)
        · trivial

/-- The client connects, a MESSAGE comes after five units of time and none after it; the interval is
ten units. -/
def fallsSilent : List TimedAction :=
  enters.map .client ++ [.client (returns (.monitor 0)), .passes 5,
    .client (.resume .listener (.frame (.frame plainMessage)) {}), .passes 5,
    .client (returns (.monitor 0)), .passes 5]

/-- The monitor finds that the interval has passed. -/
def forcesReconnect : Action := .resume (.monitor 0) .returned { expired := true }

theorem silence_of_reachable_fallsSilent :
    ∃ timed next, (timedClient monitoredSettings 10).Reaches (Prompt 0) timed ∧
      (timed.now = 15 ∧ timed.lastMessage = 5 ∧ timed.state.shared.active = some 0) ∧
      timedStep monitoredSettings 10 timed (.client forcesReconnect) = some next ∧
      next.state.shared.active = none ∧
      (∀ event time, (event, time) ∈ timed.log → event.refreshes = true → time + 10 ≤ 15) ∧
      ∃ event time, (event, time) ∈ timed.log ∧ event.refreshes = true ∧ 15 ≤ time + 10 + 0 := by
  have replayed : ((timedClient monitoredSettings 10).replay promptly
      (timedClient monitoredSettings 10).initial fallsSilent).map (fun timed =>
        decide (timed.now = 15 ∧ timed.lastMessage = 5 ∧ timed.state.shared.active = some 0) &&
          (timedStep monitoredSettings 10 timed (.client forcesReconnect)).any fun next =>
            decide (next.state.shared.active = none)) = some true := by
    decide +kernel
  obtain ⟨timed, reach, happened⟩ :=
    System.exists_of_replay (fun _ _ => prompt_of_promptly) replayed
  obtain ⟨facts, forced⟩ := Bool.and_eq_true_iff.mp happened
  obtain ⟨now, last, active⟩ := of_decide_eq_true facts
  obtain ⟨next, stepped, inactive⟩ := (Option.any_eq_true _ _).mp forced
  obtain ⟨-, discards, watched⟩ := silence_of_reachable reach.reachable
  refine ⟨timed, next, reach, ⟨now, last, active⟩, stepped, of_decide_eq_true inactive, ?_, ?_⟩
  · have gone : next.state.shared.active ≠ timed.state.shared.active := by
      rw [of_decide_eq_true inactive, active]
      simp
    rw [← now]
    exact discards _ _ _ _ stepped gone
  · rw [← now]
    exact watched 0 rfl reach (by simp [active])

end Stompman
