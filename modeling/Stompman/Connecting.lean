import Stompman.Decomposition

/-!
# Connecting and everything beside it

A step either resumes a task that stands inside `_get_active_connection_state`, or happens beside it
and leaves the reconnect lock alone.  `Drives` is this split of the client's steps; what a run does
to the lock, to the active connection and to the connections that were opened is proved from it.
-/

namespace Stompman

open Foundation

/-- Positions inside `_get_active_connection_state`: at the lock, or as its holder. -/
def Point.Connecting : Point → Prop
  | .starting => True
  | .sending _ (.connecting _) => True
  | .subscribing _ (.connecting _) => True
  | .beginning (.connecting _) => True
  | .transacting _ _ (.connecting _) => True
  | .heartbeat (.connecting _) => True
  | .listener .connecting => True
  | _ => False

/-- Changes of the shared state outside `_get_active_connection_state`: at most, the active
connection is discarded. -/
structure Beside (before after : Shared) : Prop where
  reconnect : after.reconnect = before.reconnect
  heartbeats : after.heartbeats = before.heartbeats
  connections : after.connections = before.connections
  events : ∃ later, after.trace = before.trace ++ later ∧
    (∀ connection, .opened connection ∉ later) ∧
    (after.active = before.active ∨ ∃ connection, before.active = some connection ∧
      after.active = none ∧ .discarded connection ∈ later ∧ .closed connection ∈ later)

namespace Beside

variable {shared before middle after : Shared}

theorem of_same (reconnect : after.reconnect = before.reconnect)
    (heartbeats : after.heartbeats = before.heartbeats)
    (connections : after.connections = before.connections) (active : after.active = before.active)
    (trace : after.trace = before.trace) : Beside before after :=
  ⟨reconnect, heartbeats, connections, [], by simp [trace], by simp, .inl active⟩

theorem refl (shared : Shared) : Beside shared shared := of_same rfl rfl rfl rfl rfl

theorem trans (first : Beside before middle) (second : Beside middle after) :
    Beside before after := by
  obtain ⟨early, early_eq, early_opened, early_active⟩ := first.events
  obtain ⟨late, late_eq, late_opened, late_active⟩ := second.events
  refine ⟨second.reconnect.trans first.reconnect, second.heartbeats.trans first.heartbeats,
    second.connections.trans first.connections, early ++ late, ?_, ?_, ?_⟩
  · rw [late_eq, early_eq, List.append_assoc]
  · intro connection member
    exact (List.mem_append.mp member).elim (early_opened connection) (late_opened connection)
  · rcases late_active with same | ⟨connection, active, inactive, discarded, closed⟩
    · rcases early_active with kept | ⟨connection, active, inactive, discarded, closed⟩
      · exact .inl (same.trans kept)
      · exact .inr ⟨connection, active, same.trans inactive, List.mem_append_left _ discarded,
          List.mem_append_left _ closed⟩
    · rcases early_active with kept | ⟨_, _, gone, _⟩
      · exact .inr ⟨connection, kept.symm.trans active, inactive, List.mem_append_right _ discarded,
          List.mem_append_right _ closed⟩
      · rw [gone] at active
        contradiction

theorem emit (shared : Shared) {event : Event} (other : ∀ connection, event ≠ .opened connection) :
    Beside shared (shared.emit event) := by
  refine ⟨rfl, rfl, rfl, [event], rfl, ?_, .inl rfl⟩
  intro connection member
  exact other connection (List.mem_singleton.mp member).symm

theorem hand (shared : Shared) (connection : ConnectionId) (frame : Frame) :
    Beside shared (shared.hand connection frame) :=
  emit shared (by simp)

theorem noteWritten (shared : Shared) (connection : ConnectionId) (frame : Frame) :
    Beside shared (shared.noteWritten connection frame) :=
  emit shared (by simp)

theorem discard {connection : ConnectionId} (active : shared.active = some connection) :
    Beside shared (shared.discard connection) := by
  refine ⟨rfl, rfl, rfl, [.discarded connection, .closed connection], ?_, by simp, ?_⟩
  · simp [Shared.discard, Shared.emit]
  · exact .inr ⟨connection, active, rfl, by simp, by simp⟩

theorem handlerEnd (delivery : Delivery) (suppressed : Bool) (shared : Shared) :
    Beside shared (handlerEnd delivery suppressed shared).shared := by
  unfold Stompman.handlerEnd
  cases suppressed with
  | true => exact emit _ (by simp)
  | false => exact refl _

theorem relatesCalls : RelatesCalls Beside where
  refl := refl
  trans := trans
  hand shared connection frame _ := hand shared connection frame
  noteWritten := noteWritten
  discard _ _ := discard
  acknowledged shared _ _ _ := emit shared (by simp)
  unsubscribed shared _ := emit shared (by simp)
  subscriptions _ _ := of_same rfl rfl rfl rfl rfl
  transactions _ _ _ := of_same rfl rfl rfl rfl rfl

theorem dutyProceed (duty : Duty) (shared : Shared) (progress : Progress MaybeWrite Bool) :
    Beside shared (duty.proceed (shared, progress)).shared :=
  relatesCalls.dutyProceed duty shared
    (fun delivery _ suppressed _ => handlerEnd delivery suppressed _) progress

theorem tends {task : TaskId} {resumed : Resumed} (tends : Tends task shared resumed) :
    Beside shared resumed.shared := by
  cases tends with
  | rests => exact refl _
  | beats => exact emit _ (by simp)
  | discards connection active => exact discard active

theorem createHandler (delivery : Delivery) (shared : Shared) :
    Beside shared (ListenerPoint.createHandler delivery shared).shared :=
  (emit shared (by simp)).trans (of_same rfl rfl rfl rfl rfl)

theorem dispatches {connection : ConnectionId} {epoch : Nat} {frame : AnyFrame}
    {resumed : Resumed} (dispatches : Dispatches connection epoch shared frame resumed) :
    Beside shared resumed.shared := by
  have received : Beside shared
      { shared.emit (.received shared.messages connection epoch frame) with
        messages := shared.messages + 1 } :=
    (emit shared (by simp)).trans (of_same rfl rfl rfl rfl rfl)
  cases dispatches with
  | passes => exact received
  | misses => exact received
  | acquires => exact received
  | creates => exact received.trans (createHandler _ _)

end Beside

/-- A step, seen from `_get_active_connection_state`. -/
inductive Drives (settings : Settings) (state : State) : Action → State → Prop
  /-- Nothing happens in it. -/
  | apart {action : Action} {after : State}
      (idle : ∀ task reply choice, action = .resume task reply choice →
        ¬ (state.tasks task).Connecting)
      (beside : Beside state.shared after.shared)
      (others : ∀ task, (state.tasks task).Connecting → after.tasks task = state.tasks task) :
      Drives settings state action after
  /-- A connection attempt that nobody awaits is accepted. -/
  | opens (server : Nat) (abandoned : List Nat) :
      Drives settings state (.abandonedConnect server true)
        { state with
          shared :=
            { state.shared.emit (.opened state.shared.connections) with
              abandoned := abandoned
              connections := state.shared.connections + 1 } }
  /-- The resumed task goes on to its next `await` in it. -/
  | waits {middle : Shared} (task : TaskId) (reply : Reply) (choice : Choice)
      (standing : (state.tasks task).Connecting)
      (resumed : state.shared.resumeConnecting settings task reply choice.pick =
        some (middle, .suspended ())) :
      Drives settings state (.resume task reply choice) { state with shared := middle }
  /-- The resumed task leaves it and goes on. -/
  | leaves {middle : Shared} {progress : Progress Unit ConnectionId} {after : State} (task : TaskId)
      (reply : Reply) (choice : Choice) (standing : (state.tasks task).Connecting)
      (resumed : state.shared.resumeConnecting settings task reply choice.pick =
        some (middle, progress))
      (ended : progress ≠ .suspended ()) (beside : Beside middle after.shared)
      (others : ∀ other, other ≠ task → (state.tasks other).Connecting →
        after.tasks other = state.tasks other) :
      Drives settings state (.resume task reply choice) after

namespace Drives

variable {settings : Settings} {state : State} {action : Action} {task : TaskId}

theorem tasks_store_of_ne {resumed : Resumed} {other : TaskId} (different : other ≠ task)
    (created : ∀ child point, resumed.spawned = some (child, point) → other ≠ child) :
    (state.store task resumed).tasks other = state.tasks other := by
  unfold State.store
  cases spawned : resumed.spawned with
  | none => simp [different]
  | some pair =>
      have unborn := created pair.1 pair.2 spawned
      simp [different, unborn]

/-- A task that is not connecting moves. -/
theorem store {resumed : Resumed}
    (acts : ∀ other reply choice, action = .resume other reply choice → other = task)
    (idle : ¬ (state.tasks task).Connecting)
    (beside : Beside state.shared resumed.shared)
    (created : ∀ child point, resumed.spawned = some (child, point) →
      ¬ (state.tasks child).Connecting) :
    Drives settings state action (state.store task resumed) := by
  refine .apart ?_ beside ?_
  · intro other reply choice same
    rwa [acts other reply choice same]
  intro other connecting
  refine tasks_store_of_ne ?_ ?_
  · rintro rfl
    exact idle connecting
  · rintro child point spawned rfl
    exact created _ point spawned connecting

/-- A task that is not connecting moves and creates no task. -/
theorem storeAlone {resumed : Resumed}
    (acts : ∀ other reply choice, action = .resume other reply choice → other = task)
    (idle : ¬ (state.tasks task).Connecting)
    (beside : Beside state.shared resumed.shared) (unspawned : resumed.spawned = none) :
    Drives settings state action (state.store task resumed) :=
  store acts idle beside (by simp [unspawned])

/-- A task that is connecting leaves `_get_active_connection_state`. -/
theorem storeLeaves {middle : Shared} {progress : Progress Unit ConnectionId} {resumed : Resumed}
    {reply : Reply} {choice : Choice} (standing : (state.tasks task).Connecting)
    (resumes : state.shared.resumeConnecting settings task reply choice.pick =
      some (middle, progress))
    (ended : progress ≠ .suspended ()) (beside : Beside middle resumed.shared)
    (created : ∀ child point, resumed.spawned = some (child, point) →
      ¬ (state.tasks child).Connecting) :
    Drives settings state (.resume task reply choice) (state.store task resumed) := by
  refine .leaves task reply choice standing resumes ended beside ?_
  intro other different connecting
  refine tasks_store_of_ne different ?_
  rintro child point spawned rfl
  exact created _ point spawned connecting

/-! ## Jobs and duties -/

theorem connecting_jobPoint {job : Job} {writing : WriteFrame} :
    (job.point writing).Connecting ↔ ∃ left, writing = .connecting left := by
  cases job <;> cases writing <;> simp [Job.point, Point.Connecting]

theorem not_connecting_dutyPoint {duty : Duty} {writing : MaybeWrite} :
    ¬ (duty.point writing).Connecting := by
  cases duty <;> simp [Duty.point, Point.Connecting]

theorem job {job : Job} {writing : WriteFrame}
    (standing : state.tasks task = job.point writing) {reply : Reply} {choice : Choice}
    {result : Shared × Progress WriteFrame Unit}
    (written : writing.resume settings task job.frame reply choice.pick state.shared =
      some result) :
    Drives settings state (.resume task reply choice) (state.store task (job.proceed result)) := by
  obtain ⟨shared, progress⟩ := result
  have unspawned := job.spawned_proceed (shared, progress)
  have settled := Beside.relatesCalls.jobProceed job shared progress
  have writes : Beside state.shared shared → (∀ left, writing ≠ .connecting left) →
      Drives settings state (.resume task reply choice)
        (state.store task (job.proceed (shared, progress))) := by
    intro beside elsewhere
    refine storeAlone (by simp) ?_ (beside.trans settled) unspawned
    rw [standing, connecting_jobPoint]
    rintro ⟨left, same⟩
    exact elsewhere left same
  cases writing with
  | connecting left =>
      have connecting : (state.tasks task).Connecting := by
        rw [standing, connecting_jobPoint]
        exact ⟨left, rfl⟩
      obtain ⟨⟨middle, inner⟩, connected, same⟩ := Option.map_eq_some_iff.mp written
      cases inner with
      | suspended =>
          obtain ⟨rfl, rfl⟩ := Prod.mk.inj same
          have unchanged : state.store task (job.proceed (middle, .suspended (.connecting left))) =
              { state with shared := middle } := by
            rw [← State.store_unchanged state task, standing]
            rfl
          rw [unchanged]
          exact .waits task reply choice connecting connected
      | returned connection =>
          obtain ⟨rfl, rfl⟩ := Prod.mk.inj same
          exact storeLeaves connecting connected (by simp) ((Beside.hand _ _ _).trans settled)
            (by simp [unspawned])
      | raised failure =>
          obtain ⟨rfl, rfl⟩ := Prod.mk.inj same
          exact storeLeaves connecting connected (by simp) settled (by simp [unspawned])
  | writing left connection =>
      refine writes ?_ (by simp)
      cases resume_effects written with
      | writes => exact Beside.noteWritten _ _ _
      | loses _ _ active => exact Beside.discard active
      | outlived _ _ _ attempts => exact Beside.relatesCalls.attempts trivial attempts
      | fails => exact Beside.refl _
  | discarding left connection =>
      refine writes ?_ (by simp)
      cases resume_effects written with
      | retries _ _ attempts => exact Beside.relatesCalls.attempts trivial attempts
      | fails => exact Beside.refl _

/-! ## Resumed tasks -/

theorem not_connecting_handler (fits : state.Fits) (number : Nat) :
    ¬ (state.tasks (.handler number)).Connecting := by
  have own := fits.tasks (.handler number)
  generalize state.tasks (.handler number) = point at own
  cases point with
  | starting => simp [Point.Fits] at own
  | sending => simp [Point.Fits, Job.Runs] at own
  | subscribing => simp [Point.Fits, Job.Runs] at own
  | beginning => simp [Point.Fits] at own
  | transacting => simp [Point.Fits, Job.Runs] at own
  | heartbeat => simp [Point.Fits] at own
  | listener => simp [Point.Fits] at own
  | _ => exact id

theorem connecting_of_reconnects {point : Point} (inside : point.Reconnects) :
    point.Connecting := by
  cases point with
  | heartbeat point => cases point <;> trivial
  | listener point => cases point <;> trivial
  | _ => exact inside.elim

theorem not_connecting_of_tending {point : Point} (tending : point.Tending) :
    ¬ point.Connecting := by
  cases point with
  | heartbeat point =>
      cases point with
      | connecting => exact tending.elim
      | _ => exact id
  | listener point =>
      cases point with
      | connecting => exact tending.elim
      | _ => exact id
  | monitor => exact id
  | _ => exact tending.elim

theorem cycles (fits : state.Fits) {reply : Reply} {choice : Choice} {resumed : Resumed}
    (cycles : Cycles settings task reply choice state.shared (state.tasks task) resumed) :
    Drives settings state (.resume task reply choice) (state.store task resumed) := by
  have unborn : ∀ child point, resumed.spawned = some (child, point) →
      ¬ (state.tasks child).Connecting := by
    intro child point created
    rcases cycles.spawned with none | ⟨-, delivery, handler⟩
    · rw [none] at created
      contradiction
    · rw [handler] at created
      obtain ⟨rfl, -⟩ := Prod.mk.inj (Option.some.inj created)
      exact not_connecting_handler fits delivery.number
  generalize standing : state.tasks task = before at cycles
  cases cycles with
  | waits _ inside resumed =>
      have connecting : (state.tasks task).Connecting := by
        rw [standing]
        exact connecting_of_reconnects inside
      rw [← standing, State.store_unchanged]
      exact .waits task reply choice connecting resumed
  | leaves _ inside resumed ended tends =>
      refine storeLeaves ?_ resumed ended (Beside.tends tends) (by simp [tends.unspawned])
      rw [standing]
      exact connecting_of_reconnects inside
  | tends _ tending tends =>
      refine storeAlone (by simp) ?_ (Beside.tends tends) tends.unspawned
      rw [standing]
      exact not_connecting_of_tending tending
  | takes own connection epoch frame replied dispatches =>
      exact store (by simp) (by rw [standing]; exact id) (Beside.dispatches dispatches) unborn
  | creates own delivery free =>
      refine store (by simp) (by rw [standing]; exact id) ?_ unborn
      have taken : Beside state.shared { state.shared with permits := some free } :=
        Beside.of_same rfl rfl rfl rfl rfl
      exact taken.trans (Beside.createHandler _ _)
  | stops => exact storeAlone (by simp) (by rw [standing]; exact id) (Beside.refl _) rfl

theorem resume (fits : state.Fits) {reply : Reply} {choice : Choice} {resumed : Resumed}
    (resumes : (state.tasks task).resume settings task reply choice state.shared = some resumed) :
    Drives settings state (.resume task reply choice) (state.store task resumed) := by
  have own := fits.tasks task
  generalize standing : state.tasks task = point at resumes own
  have starting : point = .starting → (state.tasks task).Connecting := by
    rintro rfl
    rw [standing]
    trivial
  cases Resumption.of_resume own resumes with
  | starts starter after resumed =>
      rw [← standing, State.store_unchanged]
      exact .waits task reply choice (starting rfl) resumed
  | enters starter after connection resumed =>
      obtain rfl := starter
      refine storeLeaves (starting rfl) resumed (by simp) (Beside.of_same rfl rfl rfl rfl rfl) ?_
      intro child point created
      obtain ⟨rfl, -⟩ := Prod.mk.inj (Option.some.inj created)
      rw [fits.listener (.inr standing)]
      exact id
  | refused starter after failure resumed =>
      exact storeLeaves (starting rfl) resumed (by simp) (Beside.refl _) (by simp)
  | cycles before cycles => exact Drives.cycles fits (by rwa [standing])
  | writes job runs writing result written => exact Drives.job standing written
  | maybeWrites duty runs writing result written =>
      have beside := Beside.relatesCalls.maybeWrites (maybeResume_effects written)
      refine storeAlone (by simp) ?_ (beside.trans (Beside.dutyProceed duty _ _))
        (duty.spawned_proceed _)
      rw [standing]
      exact not_connecting_dutyPoint
  | quits => exact storeAlone (by simp) (by rw [standing]; exact id) (Beside.refl _) rfl
  | ends =>
      exact storeAlone (by simp) (by rw [standing]; exact id) (Beside.handlerEnd _ _ _) rfl
  | settles number handles delivery suppressed type effects =>
      have beside := Beside.relatesCalls.settleStarts effects
      exact storeAlone (by simp) (by rw [standing]; exact id)
        (beside.trans (Beside.dutyProceed _ _ _)) (Duty.spawned_proceed _ _)

/-! ## Calls -/

/-- A call of the user by a new task. -/
theorem called {resumed : Resumed}
    (acts : ∀ other reply choice, action = .resume other reply choice → other = task)
    (absent : state.tasks task = .absent)
    (beside : Beside state.shared resumed.shared) (unspawned : resumed.spawned = none) :
    Drives settings state action (state.store task resumed) := by
  refine storeAlone acts ?_ beside unspawned
  rw [absent]
  exact id

theorem jobStarts (job : Job) (shared : Shared) :
    Beside shared (job.proceed (WriteFrame.start settings job.frame shared)).shared :=
  Beside.relatesCalls.jobStarts settings job shared

theorem dutyStarts (duty : Duty) (shared : Shared) :
    Beside shared (duty.proceed (MaybeWrite.start duty.frame shared)).shared :=
  Beside.relatesCalls.dutyStarts duty shared
    (fun _ delivery _ suppressed _ => Beside.handlerEnd delivery suppressed _)

/-- Every step of the client. -/
theorem of_step (fits : state.Fits) {after : State}
    (stepped : step settings state action = some after) : Drives settings state action after := by
  have alone : ∀ {id : String} {failed : Bool}, state.tasks (.transaction id) = .inside failed →
      ¬ (state.tasks (.transaction id)).Connecting := by
    intro transaction failed inside
    rw [inside]
    exact id
  cases steps_of_step stepped with
  | enter absent =>
      refine store (by simp) ?_ (Beside.refl _) (by simp)
      rw [absent]
      exact id
  | send number arguments absent =>
      exact called (by simp) absent (jobStarts (.send (sendFrame arguments none)) _)
        (Job.spawned_proceed (.send (sendFrame arguments none)) _)
  | subscribe subscription absent =>
      exact called (by simp) absent (jobStarts (.subscribe subscription) _)
        (Job.spawned_proceed (.subscribe subscription) _)
  | unsubscribe number id subscribed absent =>
      have asked : Beside state.shared { state.shared.emit (.unsubscribing id) with
          subscriptions := state.shared.subscriptions.deleteById id } :=
        (Beside.emit state.shared (by simp)).trans (Beside.of_same rfl rfl rfl rfl rfl)
      exact called (by simp) absent (asked.trans (dutyStarts (.unsubscribe id) _))
        (Duty.spawned_proceed (.unsubscribe id) _)
  | begin id absent =>
      exact called (by simp) absent (jobStarts (.begin id) _) (Job.spawned_proceed (.begin id) _)
  | transactionSend id arguments failed inside =>
      have appended : Beside state.shared
          (state.shared.appendSent id (sendFrame arguments (some id))) :=
        (Beside.emit state.shared (by simp)).trans (Beside.of_same rfl rfl rfl rfl rfl)
      exact storeAlone (by simp) (alone inside)
        (appended.trans (jobStarts (.transact id failed (sendFrame arguments (some id))) _))
        (Job.spawned_proceed (.transact id failed (sendFrame arguments (some id))) _)
  | commit id failed inside =>
      have exited : Beside state.shared (state.shared.emit (.exited id true)) :=
        Beside.emit _ (by simp)
      rw [← Duty.proceed_commit]
      exact storeAlone (by simp) (alone inside) (exited.trans (dutyStarts (.commit id) _))
        (Duty.spawned_proceed (.commit id) _)
  | abort id failed inside =>
      have exited : Beside state.shared (state.shared.emit (.exited id false)) :=
        Beside.emit _ (by simp)
      exact storeAlone (by simp) (alone inside) (exited.trans (dutyStarts (.abort id) _))
        (Duty.spawned_proceed (.abort id) _)
  | acknowledge number index type delivery found settles absent =>
      have effects := Beside.relatesCalls.settleStarts (settle_effects delivery type state.shared)
      exact called (by simp) absent
        (effects.trans (Beside.dutyProceed (.acknowledge delivery _) _ _))
        (Duty.spawned_proceed (.acknowledge delivery _) _)
  | resume task reply choice created resumes => exact resume fits resumes
  | opens server => exact .opens server _
  | refuses server =>
      exact .apart (by simp) (Beside.of_same rfl rfl rfl rfl rfl) (fun _ _ => rfl)
  | release message =>
      exact storeAlone (by simp) (not_connecting_handler fits message)
        (Beside.of_same rfl rfl rfl rfl rfl) rfl

end Drives

end Stompman
