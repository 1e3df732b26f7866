import Stompman.Resumption

/-!
# Every step is a beginning followed by reactions

The decomposition of the client's steps into the moves of `Begins` and `Reacts`, and the rule that
proves an invariant of all runs from these moves.
-/

namespace Stompman

open Foundation Relation

namespace Moves

variable {settings : Settings} {state after : State} {action : Action}

theorem of_begins (begins : Begins settings state action after) :
    Moves settings state action after :=
  ⟨after, begins, .refl⟩

theorem of_reacts (reacts : Reacts state after) : Moves settings state action after :=
  ⟨state, .idles action, .single reacts⟩

theorem of_elsewhere (changes : Elsewhere state after) : Moves settings state action after :=
  of_reacts (.elsewhere changes)

theorem tail {middle : State} (moves : Moves settings state action middle)
    (reacts : Reacts middle after) : Moves settings state action after := by
  obtain ⟨first, begins, reactions⟩ := moves
  exact ⟨first, begins, reactions.tail reacts⟩

end Moves

/-! ## Jobs -/

section Jobs

variable {settings : Settings} {state middle : State} {action : Action} {task : TaskId}

theorem State.store_store (state : State) (task : TaskId) (resumed : Resumed) (shared : Shared)
    (point : Point) :
    (state.store task { shared, point }).store task resumed = state.store task resumed := by
  simp [State.store]

theorem State.tasks_store_of_unspawned {resumed : Resumed} (unspawned : resumed.spawned = none) :
    (state.store task resumed).tasks task = resumed.point := by
  simp [State.store, unspawned]

theorem State.tasks_store (state : State) (task : TaskId) (shared : Shared) (point : Point) :
    (state.store task { shared, point }).tasks task = point :=
  State.tasks_store_of_unspawned rfl

theorem Moves.fails (moves : Moves settings state action middle) {job : Job}
    (runs : job.Runs task) {writing : WriteFrame} (standing : middle.tasks task = job.point writing)
    (failure : Failure) :
    Moves settings state action
      (middle.store task { shared := middle.shared, point := job.failed failure }) :=
  moves.tail (.fails task job runs writing standing failure)

theorem Moves.waits (moves : Moves settings state action middle) {job : Job}
    (runs : job.Runs task) {writing : WriteFrame} (standing : middle.tasks task = job.point writing)
    (next : WriteFrame) (idle : ∀ left connection, next ≠ .writing left connection) :
    Moves settings state action
      (middle.store task { shared := middle.shared, point := job.point next }) :=
  moves.tail (.waits task job runs writing standing next idle)

/-- The head of the loop of `write_frame_reconnecting`, for a task that has a job. -/
theorem Moves.attempts (moves : Moves settings state action middle) {job : Job}
    (runs : job.Runs task) {writing : WriteFrame} (standing : middle.tasks task = job.point writing)
    {result : Shared × Progress WriteFrame Unit}
    (attempts : Attempts job.frame middle.shared result.1 result.2) :
    Moves settings state action (middle.store task (job.proceed result)) := by
  obtain ⟨shared, progress⟩ := result
  cases attempts with
  | exhausted => exact moves.fails runs standing _
  | hands left connection active =>
      exact moves.tail (.hands task job runs writing standing left connection active)
  | awaits left inactive =>
      exact moves.waits runs standing _ (by simp)

theorem moves_job {job : Job} (runs : job.Runs task) {writing : WriteFrame}
    (standing : state.tasks task = job.point writing) {reply : Reply} {choice : Choice}
    {result : Shared × Progress WriteFrame Unit}
    (written : writing.resume settings task job.frame reply choice.pick state.shared =
      some result) :
    Moves settings state (.resume task reply choice) (state.store task (job.proceed result)) := by
  obtain ⟨shared, progress⟩ := result
  have effects := resume_effects written
  cases effects with
  | waits left reconnects =>
      have same : state.store task (job.proceed (shared, .suspended (.connecting left))) =
          { state with shared } := by
        rw [← State.store_unchanged state task, standing]
        rfl
      rw [same]
      exact .of_begins (.reconnects task reply choice reconnects)
  | connects left connection reconnects =>
      have moves := Moves.of_begins (.reconnects task reply choice reconnects)
      exact moves.attempts runs standing (.hands left connection reconnects.active_of_returned)
  | disconnected left failure reconnects =>
      have moves := Moves.of_begins (.reconnects task reply choice reconnects)
      exact moves.fails runs standing failure
  | writes left connection returned =>
      subst returned
      exact .of_begins (.writes task choice job runs left connection standing)
  | loses left connection active =>
      have moves : Moves settings state (.resume task reply choice)
          { state with shared := state.shared.discard connection } :=
        .of_reacts (.discards connection active)
      exact moves.waits runs standing (.discarding left connection) (by simp)
  | outlived left connection inactive attempts =>
      exact (Moves.of_begins (.idles _)).attempts runs standing attempts
  | retries left connection attempts =>
      exact (Moves.of_begins (.idles _)).attempts runs standing attempts
  | fails point failure => exact .of_reacts (.fails task job runs writing standing failure)

theorem moves_call {job : Job} (runs : job.Runs task) (asked : action.job? = some (task, job))
    (absent : state.tasks task = .absent) :
    Moves settings state action
      (state.store task (job.proceed (WriteFrame.start settings job.frame state.shared))) := by
  have moves : Moves settings state action (state.store task
      { shared := state.shared, point := job.point (.connecting 0) }) :=
    .of_begins (.calls action task job asked absent 0)
  rw [← State.store_store state task _ state.shared (job.point (.connecting 0))]
  exact moves.attempts runs (State.tasks_store _ _ _ _) (start_effects _ _ _)

end Jobs

/-! ## Duties -/

section Duties

variable {settings : Settings} {state : State} {action : Action} {task : TaskId}

theorem moves_duty {duty : Duty} (runs : duty.Runs task) {writing : MaybeWrite}
    (standing : state.tasks task = duty.point writing) {reply : Reply} {choice : Choice}
    {result : Shared × Progress MaybeWrite Bool}
    (written : writing.resume duty.frame reply state.shared = some result) :
    Moves settings state (.resume task reply choice) (state.store task (duty.proceed result)) := by
  obtain ⟨shared, progress⟩ := result
  have effects := maybeResume_effects written
  have replied : ∀ outcome, progress = .returned outcome → reply = .returned ∨
      outcome = false ∧ reply = .raised .connectionLost ∧
        ∃ connection, writing = .writing connection := by
    rintro outcome rfl
    exact MaybeWrite.reply_of_returned written
  cases effects with
  | writes connection =>
      have returned := (replied true rfl).resolve_right (by simp)
      exact .of_begins (.fulfils task reply choice duty runs connection standing returned)
  | loses connection active =>
      have moves : Moves settings state (.resume task reply choice)
          { state with shared := state.shared.discard connection } :=
        .of_reacts (.discards connection active)
      exact moves.tail (@Reacts.loses { state with shared := state.shared.discard connection } task
        duty runs connection standing (by simp [Shared.discard]))
  | outlived connection inactive =>
      refine .of_begins (.drops task reply choice duty runs _ standing ?_
        ((replied false rfl).imp_right And.right))
      intro other same
      obtain rfl : connection = other := by simpa using same
      exact inactive
  | closes connection =>
      exact .of_begins (.drops task reply choice duty runs _ standing (by simp)
        ((replied false rfl).imp_right And.right))
  | fails point failure => exact .of_reacts (.breaks task duty runs writing standing failure)

theorem moves_asked {duty : Duty} {opened : Shared} (asked : duty.Asked state action task opened)
    (unmoved : opened.active = state.shared.active) :
    Moves settings state action
      (state.store task (duty.proceed (MaybeWrite.start duty.frame opened))) := by
  have effects := maybeStart_effects duty.frame opened
  generalize MaybeWrite.start duty.frame opened = result at effects
  obtain ⟨shared, progress⟩ := result
  cases effects with
  | drops inactive => exact .of_begins (.skips asked (unmoved ▸ inactive))
  | hands connection active => exact .of_begins (.hands asked connection (unmoved ▸ active))

end Duties

/-! ## Background tasks -/

theorem Unmoved.refl (shared : Shared) : Unmoved shared shared :=
  ⟨rfl, rfl, rfl, rfl, rfl, rfl, rfl, rfl, rfl, rfl⟩

namespace State

variable {state : State} {task : TaskId} {point : Point}

theorem Fits.of_tasks {after : State} (fits : state.Fits) (same : after.tasks = state.tasks) :
    after.Fits := by
  obtain ⟨tasks, listener⟩ := fits
  exact ⟨by rwa [same], by rwa [same]⟩

/-- A task other than the starter moves. -/
theorem Fits.store (fits : state.Fits) (own : point.Fits task) (shared : Shared)
    (later : task ≠ .starter) (created : task = .listener → state.tasks .listener ≠ .absent) :
    (state.store task { shared, point }).Fits where
  tasks := forall_tasks_store (fun other point => point.Fits other)
    (fun other _ => fits.tasks other) own (by simp)
  listener := by
    have starter : (state.store task { shared, point }).tasks .starter = state.tasks .starter := by
      simp [State.store, Function.update_of_ne (Ne.symm later)]
    rw [starter]
    intro unfinished
    have absent := fits.listener unfinished
    by_cases same : task = .listener
    · exact absurd absent (created same)
    · simpa [State.store, Function.update_of_ne (Ne.symm same)] using absent

end State

section Background

variable {settings : Settings} {state middle : State} {action : Action} {task : TaskId}
  {point : Point}

/-- A background task moves between positions at which it rests. -/
theorem Elsewhere.store {shared : Shared} (unmoved : Unmoved state.shared shared)
    (background : task.Background) (before : (state.tasks task).Aside) (after : point.Aside)
    (own : point.Fits task) (later : task ≠ .starter)
    (created : task = .listener → ∃ before, state.tasks .listener = .listener before) :
    Elsewhere state (state.store task { shared, point }) where
  shared := unmoved
  tasks := by
    intro other
    by_cases same : other = task
    · subst same
      exact .inr ⟨background, before, by rwa [State.tasks_store]⟩
    · exact .inl (by simp [State.store, same])
  listener := by
    intro failure raised
    by_cases same : task = .listener
    · obtain ⟨before, standing⟩ := created same
      rw [standing] at raised
      contradiction
    · simpa [State.store, Ne.symm same] using raised
  fits := by
    refine fun fits => fits.store own shared later ?_
    intro same absent
    obtain ⟨before, standing⟩ := created same
    rw [standing] at absent
    contradiction

theorem Elsewhere.of_shared {shared : Shared} (unmoved : Unmoved state.shared shared) :
    Elsewhere state { state with shared } where
  shared := unmoved
  tasks := fun _ => .inl rfl
  listener := fun _ => id
  fits := fun fits => fits.of_tasks rfl

theorem Moves.discards (moves : Moves settings state action middle) {connection : ConnectionId}
    (active : middle.shared.active = some connection) :
    Moves settings state action { middle with shared := middle.shared.discard connection } :=
  moves.tail (.discards connection active)

/-- A background task comes to rest. -/
theorem Moves.rests (moves : Moves settings state action middle)
    (fits : (middle.tasks task).Fits task)
    (background : (middle.tasks task).Reconnects ∨ (middle.tasks task).Tending)
    (rests : point.Aside ∧ point.Fits task) :
    Moves settings state action (middle.store task { shared := middle.shared, point }) := by
  obtain ⟨apart, later, aside, created⟩ := Point.background fits background
  refine moves.tail (.elsewhere (.store (.refl _) apart aside rests.1 rests.2 later ?_))
  rintro rfl
  exact created rfl

theorem Moves.tends (moves : Moves settings state action middle)
    (fits : (middle.tasks task).Fits task)
    (background : (middle.tasks task).Reconnects ∨ (middle.tasks task).Tending)
    {resumed : Resumed} (tends : Tends task middle.shared resumed) :
    Moves settings state action (middle.store task resumed) := by
  cases tends with
  | rests point rests => exact moves.rests fits background rests.fits
  | beats generation own connection active =>
      exact (moves.tail (.beats connection active)).rests fits background
        ⟨trivial, generation, own⟩
  | discards connection active point rests =>
      exact (moves.discards active).rests fits background rests.fits

end Background

/-! ## The listener -/

section Listener

variable {settings : Settings} {state middle : State} {action : Action}

theorem moves_dispatches {connection : ConnectionId} {epoch : Nat}
    (standing : state.tasks .listener = .listener (.reading connection epoch)) {frame : AnyFrame}
    (choice : Choice) {resumed : Resumed}
    (dispatches : Dispatches connection epoch state.shared frame resumed) :
    Moves settings state (.resume .listener (.frame frame) choice)
      (state.store .listener resumed) := by
  have routes : ∀ {point : Point}, Routes state.shared.subscriptions state.shared.messages
      connection epoch frame point →
      Moves settings state (.resume .listener (.frame frame) choice)
        (state.store .listener
          { shared :=
              { state.shared.emit (.received state.shared.messages connection epoch frame) with
                messages := state.shared.messages + 1 }
            point }) := fun routed =>
    .of_begins (.takes choice connection epoch frame standing _ routed)
  cases dispatches with
  | passes frame unrouted => exact routes (.passes frame _ rfl trivial unrouted)
  | misses message isMessage missing =>
      refine routes (.passes _ _ trivial trivial ?_)
      intro other same _ id named
      obtain rfl : message = other := by simpa using same
      rw [missing] at named
      contradiction
  | acquires message isMessage id named subscription registered =>
      exact routes (.delivers message isMessage id named subscription registered)
  | creates message isMessage id named subscription registered =>
      have routed := routes (.delivers message isMessage id named subscription registered)
      have created := routed.tail (.creates _ (State.tasks_store _ _ _ _))
      rwa [State.store_store] at created

theorem moves_cycles {task : TaskId} {reply : Reply} {choice : Choice} {resumed : Resumed}
    (fits : (state.tasks task).Fits task)
    (cycles : Cycles settings task reply choice state.shared (state.tasks task) resumed) :
    Moves settings state (.resume task reply choice) (state.store task resumed) := by
  have idle : Moves settings state (.resume task reply choice) state := .of_begins (.idles _)
  generalize standing : state.tasks task = before at cycles
  cases cycles with
  | waits _ inside resumed =>
      rw [← standing, State.store_unchanged]
      exact .of_begins (.reconnects task reply choice (Shared.reconnects_resumeConnecting resumed))
  | leaves _ inside resumed ended tends =>
      have moves := Moves.of_begins (.reconnects task reply choice
        (Shared.reconnects_resumeConnecting resumed))
      exact moves.tends fits (.inl (by rwa [standing])) tends
  | tends _ tending tends => exact idle.tends fits (.inr (by rwa [standing])) tends
  | takes own connection epoch frame replied dispatches =>
      obtain rfl := own
      obtain rfl := replied
      exact moves_dispatches standing choice dispatches
  | creates own delivery free returned bounded =>
      obtain rfl := own
      have acquired := idle.tail (.elsewhere (@Elsewhere.of_shared state
        { state.shared with permits := some free }
          ⟨rfl, rfl, rfl, rfl, rfl, rfl, rfl, rfl, rfl, rfl⟩))
      exact acquired.tail (.creates delivery standing)
  | stops own delivery failure =>
      obtain rfl := own
      exact idle.tail (.stops delivery standing failure)

end Listener

/-! ## Handlers -/

section Handlers

variable {settings : Settings} {state middle : State} {action : Action}

theorem Moves.handler (moves : Moves settings state action middle) {number : Nat}
    (aside : (middle.tasks (.handler number)).Aside) {point : Point}
    (rests : point.Aside ∧ point.Fits (.handler number)) :
    Moves settings state action
      (middle.store (.handler number) { shared := middle.shared, point }) :=
  moves.tail (.elsewhere (.store (.refl _) trivial aside rests.1 rests.2 (by simp) (by simp)))

theorem Moves.handlerEnd (moves : Moves settings state action middle) {number : Nat}
    (aside : (middle.tasks (.handler number)).Aside) (delivery : Delivery) (suppressed : Bool) :
    Moves settings state action
      (middle.store (.handler number) (handlerEnd delivery suppressed middle.shared)) := by
  unfold Stompman.handlerEnd
  split
  · exact (moves.tail (.reports delivery.number)).handler aside ⟨trivial, number, rfl⟩
  · exact moves.handler aside ⟨trivial, number, rfl⟩

theorem Moves.settles {number : Nat} (aside : (state.tasks (.handler number)).Aside)
    {delivery : Delivery} {suppressed : Bool} {after : Shared} {frame : Frame}
    {progress : Progress MaybeWrite Bool} (type : frame.type = if suppressed then .nack else .ack)
    (effects : SettleStarts delivery (if suppressed then .nack else .ack) state.shared after frame
      progress) :
    Moves settings state action (state.store (.handler number)
      ((Duty.settle delivery frame suppressed).proceed (after, progress))) := by
  have idle : Moves settings state action state := .of_begins (.idles _)
  have settles : frame.type = .ack ∨ frame.type = .nack := by
    cases suppressed with
    | true => exact .inr type
    | false => exact .inl type
  cases effects with
  | refuses _ _ ended =>
      cases progress with
      | suspended point => exact absurd rfl (ended point)
      | returned written => exact idle.handlerEnd aside delivery suppressed
      | raised failure => exact idle.handler aside ⟨trivial, number, rfl⟩
  | hands ackId acked registered unchanged connection active =>
      exact .of_begins (.acknowledges action (.handler number) aside
        (.settle delivery _ suppressed) ⟨⟨number, rfl⟩, settles⟩ settles delivery.number
        connection active ⟨_, _, _, rfl⟩)

end Handlers

/-! ## All steps -/

section Steps

variable {settings : Settings} {state : State}

/-- The starter ends, and creates the listener if it has connected. -/
theorem Elsewhere.starterEnded (standing : state.tasks .starter = .starting)
    (absent : state.tasks .listener = .absent) {resumed : Resumed}
    (unmoved : Unmoved state.shared resumed.shared)
    (ended : resumed.point = .finished ∨ ∃ failure, resumed.point = .raised failure)
    (spawned : ∀ other point, resumed.spawned = some (other, point) →
      other = .listener ∧ point = .listener .created) :
    Elsewhere state (state.store .starter resumed) where
  shared := unmoved
  tasks := by
    refine State.forall_tasks_store (fun task point => point = state.tasks task ∨
      task.Background ∧ (state.tasks task).Aside ∧ point.Aside) (fun _ _ => .inl rfl) ?_ ?_
    · refine .inr ⟨trivial, by rw [standing]; trivial, ?_⟩
      rcases ended with finished | ⟨failure, raised⟩
      · rw [finished]
        trivial
      · rw [raised]
        trivial
    · intro other point created
      obtain ⟨rfl, rfl⟩ := spawned other point created
      exact .inr ⟨trivial, by rw [absent]; trivial, trivial⟩
  listener := by
    intro failure raised
    rw [absent] at raised
    contradiction
  fits := by
    intro fits
    refine ⟨State.forall_tasks_store (fun task point => point.Fits task)
      (fun other _ => fits.tasks other) ?_ ?_, ?_⟩
    · rcases ended with finished | ⟨failure, raised⟩
      · rw [finished]
        trivial
      · rw [raised]
        trivial
    · intro other point created
      obtain ⟨rfl, rfl⟩ := spawned other point created
      rfl
    · have starter : (state.store .starter resumed).tasks .starter = resumed.point := by
        unfold State.store
        cases created : resumed.spawned with
        | none => simp
        | some pair =>
            obtain ⟨other, point⟩ := pair
            obtain ⟨rfl, rfl⟩ := spawned other point created
            simp
      rw [starter]
      rcases ended with finished | ⟨failure, raised⟩
      · simp [finished]
      · simp [raised]

theorem Elsewhere.starterCalled (standing : state.tasks .starter = .absent) :
    Elsewhere state (state.store .starter { shared := state.shared, point := .starting }) where
  shared := .refl _
  tasks := by
    intro other
    by_cases same : other = .starter
    · subst same
      exact .inr ⟨trivial, by rw [standing]; trivial, trivial⟩
    · exact .inl (by simp [State.store, same])
  listener := by simp [State.store]
  fits := by
    intro fits
    refine ⟨State.forall_tasks_store (fun task point => point.Fits task)
      (fun other _ => fits.tasks other) rfl (by simp), fun _ => ?_⟩
    simpa [State.store] using fits.listener (.inl standing)

theorem moves_resume (fits : state.Fits) {task : TaskId} {reply : Reply} {choice : Choice}
    {resumed : Resumed}
    (resumes : (state.tasks task).resume settings task reply choice state.shared = some resumed) :
    Moves settings state (.resume task reply choice) (state.store task resumed) := by
  have own := fits.tasks task
  have idle : Moves settings state (.resume task reply choice) state := .of_begins (.idles _)
  generalize standing : state.tasks task = point at resumes own
  cases Resumption.of_resume own resumes with
  | starts starter after resumed =>
      rw [← standing, State.store_unchanged]
      exact .of_begins (.reconnects task reply choice (Shared.reconnects_resumeConnecting resumed))
  | enters starter after connection resumed =>
      obtain rfl := starter
      have absent := fits.listener (.inr standing)
      have moves := Moves.of_begins (.reconnects .starter reply choice
        (Shared.reconnects_resumeConnecting resumed))
      exact moves.tail (.elsewhere (@Elsewhere.starterEnded
        { state with shared := after } standing absent _
        ⟨rfl, rfl, rfl, rfl, rfl, rfl, rfl, rfl, rfl, rfl⟩ (.inl rfl) (by simp)))
  | refused starter after failure resumed =>
      obtain rfl := starter
      have absent := fits.listener (.inr standing)
      have moves := Moves.of_begins (.reconnects .starter reply choice
        (Shared.reconnects_resumeConnecting resumed))
      exact moves.tail (.elsewhere (@Elsewhere.starterEnded
        { state with shared := after } standing absent _ (.refl _) (.inr ⟨failure, rfl⟩)
        (by simp)))
  | cycles before cycles => exact moves_cycles (fits.tasks task) (by rwa [standing])
  | writes job runs writing result written => exact moves_job runs standing written
  | maybeWrites duty runs writing result written => exact moves_duty runs standing written
  | quits number handles delivery =>
      obtain rfl := handles
      exact idle.handler (by rw [standing]; trivial) ⟨trivial, number, rfl⟩
  | ends number handles delivery suppressed =>
      obtain rfl := handles
      exact idle.handlerEnd (by rw [standing]; trivial) delivery suppressed
  | settles number handles delivery suppressed type effects =>
      obtain rfl := handles
      exact .settles (by rw [standing]; trivial) type effects

/-- `AckableMessageFrame.ack` and `nack`. -/
theorem moves_acknowledge {number : Nat} {delivery : Delivery} {type : FrameType}
    (settles : type = .ack ∨ type = .nack) {action : Action}
    (absent : state.tasks (.call number) = .absent) :
    Moves settings state action (state.store (.call number) (acknowledged delivery
      (settle delivery type state.shared).2.1
      ((settle delivery type state.shared).1, (settle delivery type state.shared).2.2))) := by
  have aside : (state.tasks (.call number)).Aside := by rw [absent]; trivial
  have idle : Moves settings state action state := .of_begins (.idles _)
  have ends : ∀ {point : Point}, point.Aside → point.Fits (.call number) →
      Moves settings state action
        (state.store (.call number) { shared := state.shared, point }) := fun rests own =>
    idle.tail (.elsewhere (.store (.refl _) trivial aside rests own (by simp) (by simp)))
  have effects := settle_effects delivery type state.shared
  have same := settle_type delivery type state.shared
  generalize settle delivery type state.shared = result at effects same
  obtain ⟨shared, frame, progress⟩ := result
  have settles : frame.type = .ack ∨ frame.type = .nack := by rwa [← same] at settles
  cases effects with
  | refuses _ _ ended =>
      cases progress with
      | suspended point => exact absurd rfl (ended point)
      | returned written => exact ends trivial trivial
      | raised failure => exact ends trivial trivial
  | hands ackId acked registered unchanged connection active =>
      exact .of_begins (.acknowledges action (.call number) aside (.acknowledge delivery _)
        ⟨⟨number, rfl⟩, settles⟩ settles delivery.number connection active ⟨_, _, _, rfl⟩)

/-- Every step of the client is a beginning followed by reactions. -/
theorem moves_of_step (fits : state.Fits) {action : Action} {after : State}
    (stepped : step settings state action = some after) : Moves settings state action after := by
  cases steps_of_step stepped with
  | enter absent => exact .of_elsewhere (.starterCalled absent)
  | send number arguments absent =>
      exact @moves_call settings _ _ _ (.send (sendFrame arguments none))
        ⟨⟨number, rfl⟩, arguments, rfl⟩ rfl absent
  | subscribe subscription absent =>
      exact @moves_call settings _ _ _ (.subscribe subscription) rfl rfl absent
  | unsubscribe number id subscribed absent =>
      exact moves_asked (.unsubscribe number id subscribed absent) rfl
  | begin id absent => exact @moves_call settings _ _ _ (.begin id) rfl rfl absent
  | transactionSend id arguments failed inside =>
      have sends := Moves.of_begins (@Begins.sends settings state id arguments failed inside 0)
      have moves := @Moves.attempts _ _ _ _ (.transaction id) sends
        (.transact id failed (sendFrame arguments (some id))) ⟨rfl, arguments, rfl⟩
        (.connecting 0) (State.tasks_store _ _ _ _) _ (start_effects settings _ _)
      rwa [State.store_store] at moves
  | commit id failed inside =>
      have moves := @moves_asked settings _ _ _ _ _ (.commit id failed inside) rfl
      rwa [Duty.proceed_commit] at moves
  | abort id failed inside => exact moves_asked (.abort id failed inside) rfl
  | acknowledge number index type delivery found settles absent =>
      exact moves_acknowledge settles absent
  | resume task reply choice created resumes => exact moves_resume fits resumes
  | opens server =>
      have erased : Moves settings state (.abandonedConnect server true)
          { state with
            shared := { state.shared with abandoned := state.shared.abandoned.erase server } } :=
        .of_elsewhere (.of_shared ⟨rfl, rfl, rfl, rfl, rfl, rfl, rfl, rfl, rfl, rfl⟩)
      exact erased.tail .opens
  | refuses server =>
      exact .of_elsewhere (.of_shared ⟨rfl, rfl, rfl, rfl, rfl, rfl, rfl, rfl, rfl, rfl⟩)
  | release message handled =>
      exact .of_elsewhere (.store ⟨rfl, rfl, rfl, rfl, rfl, rfl, rfl, rfl, rfl, rfl⟩ trivial
        (by rw [handled]; trivial) trivial trivial (by simp) (by simp))

end Steps

/-! ## Invariants -/

section Fitting

variable {settings : Settings} {state : State} {task : TaskId}

theorem Job.fits_point {job : Job} (runs : job.Runs task) (writing : WriteFrame) :
    (job.point writing).Fits task := by
  cases job with
  | send => exact runs
  | subscribe => exact runs
  | begin transaction => exact ⟨transaction, runs⟩
  | transact transaction => exact ⟨transaction, runs⟩

theorem Job.fits_failed {job : Job} (runs : job.Runs task) (failure : Failure) :
    (job.failed failure).Fits task := by
  cases job with
  | transact transaction => exact ⟨transaction, runs.1⟩
  | _ => trivial

theorem Job.fits_completed {job : Job} (runs : job.Runs task) (shared : Shared) :
    (job.completed shared).point.Fits task := by
  cases job with
  | begin transaction => exact ⟨transaction, runs⟩
  | transact transaction => exact ⟨transaction, runs.1⟩
  | _ => trivial

/-- Jobs are run by tasks of the user. -/
theorem Job.Runs.not_own {job : Job} (runs : job.Runs task) :
    task ≠ .starter ∧ task ≠ .listener := by
  cases job with
  | send =>
      obtain ⟨⟨number, rfl⟩, -⟩ := runs
      simp
  | subscribe =>
      obtain rfl := runs
      simp
  | begin =>
      obtain rfl := runs
      simp
  | transact =>
      obtain ⟨rfl, -⟩ := runs
      simp

theorem Job.runs_of_asked {action : Action} {job : Job}
    (asked : action.job? = some (task, job)) : job.Runs task := by
  cases action with
  | send number arguments =>
      obtain ⟨rfl, rfl⟩ := Prod.mk.inj (Option.some.inj asked)
      exact ⟨⟨number, rfl⟩, arguments, rfl⟩
  | subscribe subscription =>
      obtain ⟨rfl, rfl⟩ := Prod.mk.inj (Option.some.inj asked)
      rfl
  | begin transaction =>
      obtain ⟨rfl, rfl⟩ := Prod.mk.inj (Option.some.inj asked)
      rfl
  | _ => contradiction

theorem Duty.fits_point {duty : Duty} (runs : duty.Runs task) (writing : MaybeWrite) :
    (duty.point writing).Fits task := by
  cases duty with
  | abort transaction => exact ⟨transaction, runs⟩
  | commit transaction => exact ⟨transaction, runs⟩
  | _ => exact runs

theorem Duty.fits_failed {duty : Duty} (runs : duty.Runs task) (failure : Failure) :
    (duty.failed failure).Fits task := by
  cases duty with
  | settle => exact runs.1
  | _ => trivial

theorem Duty.Runs.not_own {duty : Duty} (runs : duty.Runs task) :
    task ≠ .starter ∧ task ≠ .listener := by
  cases duty with
  | unsubscribe =>
      obtain ⟨number, rfl⟩ := runs
      simp
  | abort =>
      obtain rfl := runs
      simp
  | commit =>
      obtain rfl := runs
      simp
  | settle =>
      obtain ⟨⟨number, rfl⟩, -⟩ := runs
      simp
  | acknowledge =>
      obtain ⟨⟨number, rfl⟩, -⟩ := runs
      simp

theorem Duty.Asked.runs {duty : Duty} {action : Action} {opened : Shared}
    (asked : duty.Asked state action task opened) : duty.Runs task := by
  cases asked with
  | unsubscribe number => exact ⟨number, rfl⟩
  | commit => rfl
  | abort => rfl

/-- What is left behind by a duty that is over. -/
theorem Duty.fits_completed {duty : Duty} (runs : duty.Runs task) (written : Bool)
    (shared : Shared) :
    (duty.completed written shared).point.Fits task ∧
      (duty.completed written shared).spawned = none := by
  have removed : ∀ transaction, (removeTransaction transaction shared).point.Fits task ∧
      (removeTransaction transaction shared).spawned = none := by
    intro transaction
    unfold removeTransaction
    split <;> exact ⟨trivial, rfl⟩
  cases duty with
  | unsubscribe => exact ⟨trivial, rfl⟩
  | abort transaction => exact removed transaction
  | commit transaction =>
      cases written with
      | true => exact removed transaction
      | false => exact ⟨trivial, rfl⟩
  | settle => exact ⟨runs.1, rfl⟩
  | acknowledge => exact ⟨trivial, rfl⟩

theorem State.Fits.duty {duty : Duty} (fits : state.Fits) (runs : duty.Runs task) (written : Bool)
    (shared : Shared) : (state.store task (duty.completed written shared)).Fits := by
  obtain ⟨own, spawned⟩ := Duty.fits_completed runs written shared
  generalize duty.completed written shared = resumed at own spawned
  obtain ⟨shared, point, other⟩ := resumed
  obtain rfl : other = none := spawned
  exact fits.store own shared runs.not_own.1 (fun same => absurd same runs.not_own.2)

theorem Begins.fits {action : Action} {middle : State} (fits : state.Fits)
    (begins : Begins settings state action middle) : middle.Fits := by
  cases begins with
  | idles => exact fits
  | reconnects => exact fits.of_tasks rfl
  | calls _ task job asked =>
      have runs := Job.runs_of_asked asked
      exact fits.store (Job.fits_point runs _) _ runs.not_own.1
        (fun same => absurd same runs.not_own.2)
  | sends transaction arguments =>
      refine fits.store ?_ _ (by simp) (by simp)
      exact ⟨transaction, rfl, arguments, rfl⟩
  | writes task _ job runs _ connection =>
      have own := Job.fits_completed runs (state.shared.noteWritten connection job.frame)
      cases job <;> exact fits.store own _ runs.not_own.1 (fun same => absurd same runs.not_own.2)
  | hands asked =>
      exact fits.store (Duty.fits_point asked.runs _) _ asked.runs.not_own.1
        (fun same => absurd same asked.runs.not_own.2)
  | skips asked => exact fits.duty asked.runs _ _
  | fulfils _ _ _ _ runs => exact fits.duty runs _ _
  | drops _ _ _ _ runs => exact fits.duty runs _ _
  | acknowledges _ _ _ _ runs =>
      exact fits.store (Duty.fits_point runs _) _ runs.not_own.1
        (fun same => absurd same runs.not_own.2)
  | takes _ _ _ _ standing _ routes =>
      refine fits.store ?_ _ (by simp) (by simp [standing])
      cases routes with
      | delivers => rfl
      | passes _ _ own => exact own

theorem Reacts.fits {after : State} (fits : state.Fits) (reacts : Reacts state after) :
    after.Fits := by
  cases reacts with
  | hands _ _ runs =>
      exact fits.store (Job.fits_point runs _) _ runs.not_own.1
        (fun same => absurd same runs.not_own.2)
  | waits _ _ runs =>
      exact fits.store (Job.fits_point runs _) _ runs.not_own.1
        (fun same => absurd same runs.not_own.2)
  | fails _ _ runs =>
      exact fits.store (Job.fits_failed runs _) _ runs.not_own.1
        (fun same => absurd same runs.not_own.2)
  | loses _ _ runs =>
      exact fits.store (Duty.fits_point runs _) _ runs.not_own.1
        (fun same => absurd same runs.not_own.2)
  | breaks _ _ runs =>
      exact fits.store (Duty.fits_failed runs _) _ runs.not_own.1
        (fun same => absurd same runs.not_own.2)
  | discards => exact fits.of_tasks rfl
  | opens => exact fits.of_tasks rfl
  | beats => exact fits.of_tasks rfl
  | reports => exact fits.of_tasks rfl
  | creates delivery standing =>
      refine ⟨State.forall_tasks_store (fun task point => point.Fits task)
        (fun other _ => fits.tasks other) rfl ?_, ?_⟩
      · intro other point spawned
        obtain ⟨rfl, rfl⟩ := Prod.mk.inj (Option.some.inj spawned)
        exact ⟨_, rfl⟩
      · intro unfinished
        have absent := fits.listener (by
          simpa [State.store, ListenerPoint.createHandler] using unfinished)
        rw [standing] at absent
        contradiction
  | stops delivery standing =>
      refine fits.store ?_ _ (by simp) (by simp [standing])
      trivial
  | elsewhere changes => exact changes.fits fits

end Fitting

theorem fits_initial (settings : Settings) : (client settings).initial.Fits := by
  refine ⟨?_, fun _ => rfl⟩
  intro task
  cases task with
  | heartbeat generation => exact ⟨generation, rfl⟩
  | monitor generation => exact ⟨generation, rfl⟩
  | _ => trivial

/-- A property that the beginning of a step gives and every reaction keeps holds after the step. -/
theorem holds_of_step {settings : Settings} {state after : State} {action : Action}
    {property : State → Prop} (fits : state.Fits)
    (begun : ∀ {middle : State}, Begins settings state action middle → property middle)
    (reacted : ∀ {middle next : State}, middle.Fits → property middle → Reacts middle next →
      property next) (stepped : step settings state action = some after) : property after := by
  obtain ⟨middle, begins, reactions⟩ := moves_of_step fits stepped
  suffices both : after.Fits ∧ property after from both.2
  clear stepped
  induction reactions with
  | refl => exact ⟨begins.fits fits, begun begins⟩
  | tail _ reacts ih => exact ⟨reacts.fits ih.1, reacted ih.1 ih.2 reacts⟩

/-- A property of the initial state that is kept by the beginning of every allowed step and by every
reaction holds in every state reached.  Steps begin in states that have been reached. -/
theorem invariant_of_beginnings {settings : Settings} {allowed : State → Action → Prop}
    {property : State → Prop} (initially : property (client settings).initial)
    (begun : ∀ {state middle : State} {action : Action}, (client settings).Reaches allowed state →
      state.Fits → property state → allowed state action → Begins settings state action middle →
        property middle)
    (reacted : ∀ {state after : State}, state.Fits → property state → Reacts state after →
      property after)
    {state : State} (reach : (client settings).Reaches allowed state) : property state := by
  suffices both : state.Fits ∧ property state from both.2
  refine @System.Reaches.invariant _ _ (client settings) allowed
    (fun state => state.Fits ∧ property state) ⟨fits_initial settings, initially⟩ ?_ state reach
  rintro before after action reached ⟨fits, holds⟩ meets stepped
  obtain ⟨middle, begins, reactions⟩ := moves_of_step fits stepped
  clear stepped
  induction reactions with
  | refl => exact ⟨begins.fits fits, begun reached fits holds meets begins⟩
  | tail _ reacts ih => exact ⟨reacts.fits ih.1, reacted ih.1 ih.2 reacts⟩

@[inherit_doc invariant_of_beginnings]
theorem invariant_of_moves {settings : Settings} {allowed : State → Action → Prop}
    {property : State → Prop} (initially : property (client settings).initial)
    (begun : ∀ {state middle : State} {action : Action}, state.Fits → property state →
      allowed state action → Begins settings state action middle → property middle)
    (reacted : ∀ {state after : State}, state.Fits → property state → Reacts state after →
      property after)
    {state : State} (reach : (client settings).Reaches allowed state) : property state :=
  invariant_of_beginnings initially (fun _ => begun) reacted reach

theorem State.Fits.step {settings : Settings} {state after : State} {action : Action}
    (fits : state.Fits) (stepped : step settings state action = some after) : after.Fits := by
  obtain ⟨middle, begins, reactions⟩ := moves_of_step fits stepped
  clear stepped
  induction reactions with
  | refl => exact begins.fits fits
  | tail _ reacts ih => exact reacts.fits ih

theorem fits_of_reaches {settings : Settings} {allowed : State → Action → Prop} {state : State}
    (reach : (client settings).Reaches allowed state) : state.Fits :=
  reach.invariant (fits_initial settings) fun _ fits _ stepped => fits.step stepped

end Stompman
