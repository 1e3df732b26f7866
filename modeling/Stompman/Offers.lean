import Stompman.Bracketing
import Stompman.Dispatch
import Stompman.Greeting

/-!
# SUBSCRIBE is passed to a connection once

Two tasks can write the SUBSCRIBE frame of a subscription: its own `subscribe` call, which tries
again on another connection when a write is lost, and the handshakes of later connections.  No
connection gets the frame twice.  The call hands it to the active connection, and goes on to another
one only after the first has been discarded; a handshake takes up a subscription only after its
call has returned.
-/

namespace Stompman

open Foundation

/-! ## Steps of other tasks -/

/-- The state in which a task is over. -/
def State.park (task : TaskId) (state : State) : State :=
  { state with tasks := Function.update state.tasks task .finished }

namespace State

variable {settings : Settings} {state after : State} {action : Action} {task other : TaskId}

@[simp] theorem shared_park (task : TaskId) (state : State) :
    (state.park task).shared = state.shared :=
  rfl

@[simp] theorem tasks_park (task : TaskId) (state : State) :
    (state.park task).tasks task = .finished := by
  simp [park]

theorem tasks_park_of_ne (different : other ≠ task) (state : State) :
    (state.park task).tasks other = state.tasks other := by
  simp [park, different]

theorem Fits.park (fits : state.Fits) (task : TaskId) (unborn : task ≠ .listener)
    (apart : task ≠ .starter) : (state.park task).Fits := by
  refine ⟨fun other => ?_, ?_⟩
  · by_cases same : other = task
    · subst same
      rw [tasks_park]
      trivial
    · rw [tasks_park_of_ne same]
      exact fits.tasks other
  · rw [tasks_park_of_ne (Ne.symm apart), tasks_park_of_ne (Ne.symm unborn)]
    exact fits.listener

theorem park_store {resumed : Resumed} (different : other ≠ task)
    (spawned : ∀ child point, resumed.spawned = some (child, point) → child ≠ task) :
    (state.park task).store other resumed = (state.store other resumed).park task := by
  have updated : Function.update (Function.update state.tasks task .finished) other resumed.point =
      Function.update (Function.update state.tasks other resumed.point) task .finished :=
    Function.update_comm (Ne.symm different) _ _ _
  unfold store park
  cases child : resumed.spawned with
  | none => simp only [updated]
  | some pair =>
      simp only [updated]
      rw [Function.update_comm (Ne.symm (spawned pair.1 pair.2 child))]

theorem call_park {resumed : Resumed} (called : state.call other resumed = some after)
    (different : other ≠ task) (unspawned : resumed.spawned = none) :
    (state.park task).call other resumed = some (after.park task) := by
  unfold State.call at called ⊢
  rw [tasks_park_of_ne different]
  split at called
  · rename_i absent
    split at called
    · rename_i entered
      obtain rfl := Option.some.inj called
      have moved : (state.park task).store other resumed = (state.store other resumed).park task :=
        park_store different (by simp [unspawned])
      simp [entered, moved]
    · contradiction
  · contradiction

/-- A step of another task neither reads nor moves a task that only its own actions concern. -/
theorem step_park (fits : state.Fits) (stepped : step settings state action = some after)
    (different : action.task ≠ some task) (unborn : task ≠ .listener)
    (unhandled : ∀ number, task ≠ .handler number) :
    step settings (state.park task) action = some (after.park task) := by
  have kept : ∀ {other}, action.task = some other → other ≠ task := by
    rintro other named rfl
    exact different named
  cases action with
  | enter =>
      cases steps_of_step stepped with
      | enter absent =>
          simp [step, tasks_park_of_ne (kept rfl), absent, park_store (kept rfl)]
  | send number arguments =>
      exact call_park stepped (kept rfl)
        (Job.spawned_proceed (.send (sendFrame arguments none)) _)
  | subscribe subscription =>
      exact call_park stepped (kept rfl) (Job.spawned_proceed (.subscribe subscription) _)
  | unsubscribe number id =>
      simp only [step] at stepped ⊢
      split at stepped
      · rename_i subscribed
        have finished : (state.park task).tasks (.subscribe id) = .finished := by
          by_cases same : .subscribe id = task
          · rw [same, tasks_park]
          · rw [tasks_park_of_ne same, subscribed]
        rw [finished]
        exact call_park stepped (kept rfl) (Duty.spawned_proceed (.unsubscribe id) _)
      · contradiction
  | begin id =>
      exact call_park stepped (kept rfl) (Job.spawned_proceed (.begin id) _)
  | transactionSend id arguments =>
      cases steps_of_step stepped with
      | transactionSend id arguments failed inside =>
          have unspawned := Job.spawned_proceed
            (.transact id failed (sendFrame arguments (some id)))
            (WriteFrame.start settings (sendFrame arguments (some id))
              (state.shared.appendSent id (sendFrame arguments (some id))))
          simp only [step, tasks_park_of_ne (kept rfl), inside, shared_park]
          rw [park_store (kept rfl)]
          intro child point spawned
          exact absurd (unspawned.symm.trans spawned) (by simp)
  | exit id ok =>
      simp only [step, tasks_park_of_ne (kept rfl)] at stepped ⊢
      split at stepped
      · obtain rfl := Option.some.inj stepped
        rw [shared_park, park_store (kept rfl)]
        cases ok with
        | true =>
            have unspawned := Duty.spawned_proceed (.commit id)
              (MaybeWrite.start (commitFrame id) (state.shared.emit (.exited id true)))
            rw [Duty.proceed_commit] at unspawned
            simp [unspawned]
        | false =>
            have unspawned := Duty.spawned_proceed (.abort id)
              (MaybeWrite.start (abortFrame id) (state.shared.emit (.exited id false)))
            intro child point spawned
            exact absurd (unspawned.symm.trans spawned) (by simp)
      · contradiction
  | acknowledge number index type =>
      simp only [step, shared_park] at stepped ⊢
      split at stepped
      · rename_i delivery found
        split at stepped
        · rename_i settles
          rw [if_pos settles]
          exact call_park stepped (kept rfl)
            (Duty.spawned_proceed (.acknowledge delivery _) _)
        · contradiction
      · contradiction
  | resume actor reply choice =>
      have unmoved := tasks_of_step fits stepped different unborn unhandled
      simp only [step] at stepped ⊢
      split at stepped
      · rename_i created
        obtain ⟨resumed, resumes, rfl⟩ := Option.map_eq_some_iff.mp stepped
        have exists_park : (state.park task).exists? actor = true := by
          cases actor <;> exact created
        rw [if_pos exists_park, tasks_park_of_ne (kept rfl), shared_park, resumes, Option.map_some,
          park_store (kept rfl)]
        intro child point spawned
        rcases spawned_of_resume fits resumes with unspawned | rfl | ⟨-, listener⟩
        · simp [unspawned] at spawned
        · obtain ⟨before, standing⟩ := fits.listening resumes
          rw [standing] at resumes
          obtain ⟨number, rfl⟩ := (listens_of_resume resumes).2 child point spawned
          exact (unhandled number).symm
        · rw [listener] at spawned
          obtain ⟨rfl, -⟩ := Prod.mk.inj (Option.some.inj spawned)
          exact unborn.symm
      · contradiction
  | abandonedConnect server connected =>
      cases steps_of_step stepped with
      | opens server abandoned => exact if_pos abandoned
      | refuses server abandoned => exact if_pos abandoned
  | release message =>
      cases steps_of_step stepped with
      | release message handled =>
          simp [step, tasks_park_of_ne (kept rfl), handled, park_store (kept rfl)]

end State

/-! ## Counting SUBSCRIBE frames -/

namespace Shared

variable {settings : Settings} {before after : Shared} {events : List Event}
  {connection : ConnectionId} {id : String}

/-- How often SUBSCRIBE of a subscription has been passed to `write_frame` of a connection. -/
def offered (shared : Shared) (connection : ConnectionId) (id : String) : Nat :=
  shared.trace.countP (Event.offers connection id)

theorem offered_append (trace_eq : after.trace = before.trace ++ events) :
    after.offered connection id =
      before.offered connection id + events.countP (Event.offers connection id) := by
  rw [offered, trace_eq, List.countP_append]
  rfl

theorem offered_eq (trace_eq : after.trace = before.trace ++ events)
    (silent : ∀ event ∈ events, event.offers connection id = false) :
    after.offered connection id = before.offered connection id := by
  rw [offered_append trace_eq, List.countP_eq_zero.mpr, Nat.add_zero]
  intro event member
  rw [silent event member]
  simp

theorem offered_emit {event : Event} (silent : event.offers connection id = false) :
    (before.emit event).offered connection id = before.offered connection id :=
  @offered_eq before (before.emit event) [event] _ _ rfl (by simpa using silent)

/-- A frame other than this SUBSCRIBE is passed to a connection. -/
theorem offered_hand {frame : Frame} (other : frame.subscribes id = false)
    (used : ConnectionId) :
    (before.hand used frame).offered connection id = before.offered connection id :=
  offered_emit (by simp [Event.offers, other])

theorem offered_noteWritten (frame : Frame) (used : ConnectionId) :
    (before.noteWritten used frame).offered connection id = before.offered connection id :=
  offered_emit rfl

theorem offered_hand_self {frame : Frame} (own : frame.subscribes id = true)
    (used : ConnectionId) :
    (before.hand used frame).offered connection id =
      before.offered connection id + if used = connection then 1 else 0 := by
  have appended : (before.hand used frame).trace = before.trace ++ [.handed used frame] := rfl
  rw [offered_append appended]
  by_cases same : used = connection <;> simp [Event.offers, own, same]

theorem offered_discard (used : ConnectionId) :
    (before.discard used).offered connection id = before.offered connection id :=
  offered_eq (List.append_assoc _ _ _) (by simp [Event.offers])

end Shared

/-! ### Other tasks -/

section Others

variable {settings : Settings} {state : State} {id : String} {connection : ConnectionId}

theorem Duty.subscribes_frame {task : TaskId} {duty : Duty} (runs : duty.Runs task) (id : String) :
    duty.frame.subscribes id = false := by
  refine Frame.subscribes_eq_false ?_ id
  cases duty with
  | unsubscribe => simp [Duty.frame, unsubscribeFrame, Frame.bodyless]
  | abort => simp [Duty.frame, abortFrame, transactionFrame, Frame.bodyless]
  | commit => simp [Duty.frame, commitFrame, transactionFrame, Frame.bodyless]
  | settle delivery frame => obtain ⟨-, type | type⟩ := runs <;> simp [Duty.frame, type]
  | acknowledge delivery frame => obtain ⟨-, type | type⟩ := runs <;> simp [Duty.frame, type]

theorem Duty.Ends.offered {duty : Duty} {shared : Shared} {resumed : Resumed}
    (ends : duty.Ends shared resumed) :
    resumed.shared.offered connection id = shared.offered connection id := by
  obtain ⟨events, trace_eq, listed⟩ := ends.trace
  refine Shared.offered_eq trace_eq ?_
  intro event member
  rcases listed event member with ⟨own, -, rfl⟩ | ⟨number, rfl⟩ <;> rfl

theorem Duty.Asked.offered {duty : Duty} {action : Action} {task : TaskId} {opened : Shared}
    (asked : duty.Asked state action task opened) :
    opened.offered connection id = state.shared.offered connection id := by
  cases asked <;> exact Shared.offered_emit rfl

theorem Job.trace_completed (job : Job) (shared : Shared) :
    (job.completed shared).shared.trace = shared.trace := by
  cases job with
  | begin transaction =>
      simp only [Job.completed, Shared.addTransaction]
      split <;> rfl
  | _ => rfl

/-- A call writes SUBSCRIBE only for its own subscription. -/
theorem Job.subscribes_frame {task : TaskId} {job : Job} (runs : job.Runs task)
    (other : task ≠ .subscribe id) : job.frame.subscribes id = false := by
  cases job with
  | send frame =>
      obtain ⟨-, arguments, rfl⟩ := runs
      exact Frame.subscribes_eq_false (by simp [Job.frame, sendFrame]) id
  | subscribe subscription =>
      obtain rfl := runs
      rw [Job.frame, Subscription.subscribes_frame, decide_eq_false_iff_not]
      rintro rfl
      exact other rfl
  | begin =>
      exact Frame.subscribes_eq_false
        (by simp [Job.frame, beginFrame, transactionFrame, Frame.bodyless]) id
  | transact transaction failed frame =>
      obtain ⟨-, arguments, rfl⟩ := runs
      exact Frame.subscribes_eq_false (by simp [Job.frame, sendFrame]) id

/-- What a step begins with passes on SUBSCRIBE in a handshake only. -/
theorem Begins.offered {action : Action} {middle : State}
    (begins : Begins settings state action middle) :
    (∃ task reply after progress, state.shared.Reconnects settings task reply after progress ∧
      middle = { state with shared := after }) ∨
      ∀ connection, middle.shared.offered connection id = state.shared.offered connection id := by
  cases begins with
  | idles => exact .inr fun _ => rfl
  | reconnects task reply choice effects => exact .inl ⟨task, reply, _, _, effects, rfl⟩
  | calls => exact .inr fun _ => rfl
  | sends => exact .inr fun _ => Shared.offered_emit rfl
  | writes task choice job runs left connection standing =>
      refine .inr fun other => ?_
      exact (congrArg (List.countP _) (job.trace_completed _)).trans
        (Shared.offered_noteWritten _ _)
  | hands asked connection active =>
      exact .inr fun other => (Shared.offered_hand (Duty.subscribes_frame asked.runs id) _).trans
        asked.offered
  | @skips _ _ duty opened asked =>
      exact .inr fun other => (duty.ends_completed false opened).offered.trans asked.offered
  | fulfils task reply choice duty runs connection standing =>
      exact .inr fun other => (duty.ends_completed true _).offered.trans
        (Shared.offered_noteWritten _ _)
  | drops task reply choice duty => exact .inr fun other => (duty.ends_completed false _).offered
  | acknowledges action task aside duty runs settles number connection active =>
      exact .inr fun other => (Shared.offered_emit rfl).trans
        (Shared.offered_hand (Duty.subscribes_frame runs id) _)
  | takes => exact .inr fun other => Shared.offered_emit rfl

variable (finished : state.tasks (.subscribe id) = .finished)

include finished

/-- Once its call is over, what follows passes on no SUBSCRIBE. -/
theorem Reacts.offered {after : State} (reacts : Reacts state after) :
    after.shared.offered connection id = state.shared.offered connection id := by
  cases reacts with
  | hands task job runs writing standing left used active =>
      refine Shared.offered_hand (Job.subscribes_frame runs ?_) _
      rintro rfl
      rw [finished] at standing
      cases job <;> simp [Job.point] at standing
  | waits => rfl
  | fails => rfl
  | loses => rfl
  | breaks => rfl
  | discards used => exact Shared.offered_discard used
  | opens => exact Shared.offered_emit rfl
  | beats => exact Shared.offered_emit rfl
  | reports => exact Shared.offered_emit rfl
  | creates => exact Shared.offered_emit rfl
  | stops => rfl
  | elsewhere changes => rw [Shared.offered, changes.shared.trace, Shared.offered]

/-- A call that is over stays over. -/
theorem SubscriptionMove.stays {meets : Action → Prop} {after : State}
    (move : SubscriptionMove settings meets state after) :
    after.tasks (.subscribe id) = .finished := by
  have stored : ∀ {task : TaskId} {resumed : Resumed}, task ≠ .subscribe id →
      (∀ other point, resumed.spawned = some (other, point) → other ≠ .subscribe id) →
      (state.store task resumed).tasks (.subscribe id) = .finished := by
    intro task resumed different spawned
    rw [Drives.tasks_store_of_ne (Ne.symm different)
      fun child point created => (spawned child point created).symm]
    exact finished
  have busy : ∀ {subscription : Subscription},
      state.tasks (.subscribe subscription.id) ≠ .finished →
      TaskId.subscribe subscription.id ≠ .subscribe id := by
    intro subscription unfinished same
    exact unfinished (same ▸ finished)
  cases move with
  | apart aloof subscribers => rw [subscribers, finished]
  | reconnects => exact finished
  | asks subscription met absent => exact stored (busy (by simp [absent])) (by simp)
  | hands subscription writing standing => exact stored (busy (by simp [standing])) (by simp)
  | waits subscription writing standing => exact stored (busy (by simp [standing])) (by simp)
  | refused subscription writing standing => exact stored (busy (by simp [standing])) (by simp)
  | registers subscription left connection standing =>
      exact stored (busy (by simp [standing])) (by simp)
  | creates delivery =>
      refine stored (by simp) ?_
      intro other point created
      obtain ⟨rfl, -⟩ := Prod.mk.inj (Option.some.inj created)
      simp
  | _ => exact stored (by simp) (by simp)

end Others

/-! ### Handshakes -/

section Handshakes

variable {settings : Settings} {connection : ConnectionId} {id : String}
  {sentFrames : String → List Frame} {log : List Event}

theorem countP_offers_inTurn (frames : List Frame) :
    (inTurn connection frames).countP (Event.offers connection id) =
      frames.countP (Frame.subscribes · id) := by
  induction frames with
  | nil => rfl
  | cons frame frames ih =>
      rw [inTurn_cons, List.countP_cons, List.countP_cons, List.countP_cons, ih]
      simp [Event.offers]

/-- A handshake subscribes to a subscription once. -/
theorem Greeting.Sound.countP_le_one {greeting : Greeting}
    (sound : greeting.Sound settings sentFrames)
    (sends : ∀ transaction, ∀ frame ∈ sentFrames transaction, frame.type = .send) :
    (greeting.frames settings).countP (Frame.subscribes · id) ≤ 1 := by
  have connect : (connectFrame greeting.server settings.protocolVersion
      settings.heartbeat).subscribes id = false :=
    Frame.subscribes_eq_false (by simp [connectFrame, Frame.bodyless]) id
  have replays : (greeting.transactions.flatMap replay).countP (Frame.subscribes · id) = 0 := by
    refine List.countP_eq_zero.mpr ?_
    intro frame member
    obtain ⟨transaction, known, listed⟩ := List.mem_flatMap.mp member
    rw [Bool.not_eq_true]
    refine Frame.subscribes_eq_false ?_ id
    rcases List.mem_append.mp listed with sent | last
    · rw [sends _ frame ((sound.replayed transaction known).subset sent)]
      simp
    · rw [List.mem_singleton.mp last]
      simp [commitFrame, transactionFrame, Frame.bodyless]
  have subscriptions : (greeting.subscriptions.map Subscription.frame).countP
      (Frame.subscribes · id) = (greeting.subscriptions.map Subscription.id).count id := by
    rw [List.countP_map, List.count, List.countP_map]
    refine List.countP_congr ?_
    simp [Subscription.subscribes_frame]
  rw [Greeting.frames, List.countP_cons, connect, List.countP_append, replays, subscriptions]
  exact List.nodup_iff_count_le_one.mp sound.ids id

/-- A connection that has not been active has got SUBSCRIBE from its handshake only. -/
theorem Greets.countP_le_one (greets : Greets settings sentFrames connection log)
    (sends : ∀ transaction, ∀ frame ∈ sentFrames transaction, frame.type = .send)
    (fresh : .activated connection ∉ log) : log.countP (Event.offers connection id) ≤ 1 := by
  cases greets with
  | silent => simp
  | started sound early =>
      refine (early.sublist.countP_le).trans ?_
      rw [countP_offers_inTurn]
      exact sound.countP_le_one sends
  | completed => simp at fresh

theorem Shared.countP_logOn (shared : Shared) :
    (shared.logOn connection).countP (Event.offers connection id) =
      shared.offered connection id := by
  rw [logOn, List.countP_filter, offered]
  refine List.countP_congr ?_
  intro event member
  cases event <;> simp +contextual [Event.offers, Event.connection?]

theorem Shared.Greeted.offered_bound {shared : Shared} (greeted : shared.Greeted settings)
    (sends : ∀ transaction, ∀ frame ∈ shared.sentFrames transaction, frame.type = .send)
    (fresh : .activated connection ∉ shared.trace) : shared.offered connection id ≤ 1 := by
  rw [← countP_logOn]
  refine (greeted.greets connection).countP_le_one sends ?_
  exact fun used => fresh (List.mem_filter.mp used).1

theorem offers_writtenBy (connection other : ConnectionId) (point : Enter) :
    ∀ event ∈ Shared.writtenBy connection point, event.offers other id = false := by
  intro event member
  cases point <;> simp only [Shared.writtenBy, List.not_mem_nil, List.mem_singleton] at member
  all_goals subst member; rfl

/-- The calls of the subscriptions that a handshake takes up have returned. -/
theorem Registry.lists_of_ready {state : State} (registry : Registry state) {reply : Reply}
    {point : Enter} {base : Shared} {rest : List Subscription} {walk : Walk}
    (current : state.shared.handshake = some (connection, point))
    (ready : state.shared.Ready settings connection reply point base rest walk) :
    ∀ subscription ∈ rest, state.Lists subscription := by
  intro subscription member
  cases ready with
  | confirmed => exact registry.lists_of_registered member
  | resubscribed written remaining =>
      exact registry.listed connection _ current subscription (List.mem_cons_of_mem _ member)
  | committed => simp at member

/-- A connection that becomes active has not been active before. -/
theorem Shared.Reconnects.active_cases {task : TaskId} {reply : Reply} {before after : Shared}
    {progress : Progress Unit ConnectionId} (placed : before.Placed)
    (effects : before.Reconnects settings task reply after progress)
    (active : after.active = some connection) :
    before.active = some connection ∨ .activated connection ∉ before.trace := by
  cases effects with
  | subscribes _ _ _ _ _ _ _ _ ready => exact .inl (ready.base.active ▸ active)
  | replays =>
      rw [replayFrame_eq] at active
      exact .inl active
  | picks _ _ _ _ _ _ ready =>
      rw [replayFrame_eq] at active
      exact .inl (ready.base.active ▸ active)
  | changed _ _ _ _ _ _ ready => exact .inl (ready.base.active ▸ active)
  | finishes reconnect locked owned current point phase =>
      obtain rfl : current = connection := Option.some.inj active
      exact .inr (placed.handshake current point (handshake_of_phase locked phase)).2
  | _ => exact .inl active

/-- A handshake passes on SUBSCRIBE only for a subscription whose call has returned, and only to its
own connection, which has not been active. -/
theorem Shared.Reconnects.offered {state : State} {task : TaskId} {reply : Reply} {after : Shared}
    {progress : Progress Unit ConnectionId} (placed : state.Placed) (registry : Registry state)
    (recorded : state.Recorded)
    (effects : state.shared.Reconnects settings task reply after progress) (id : String) :
    (∀ connection, after.offered connection id = state.shared.offered connection id) ∨
      state.tasks (.subscribe id) = .finished ∧ ∃ connection, .activated connection ∉ after.trace ∧
        ∀ other, other ≠ connection →
          after.offered other id = state.shared.offered other id := by
  have unused : ∀ {connection other : ConnectionId} {event : Event} (point : Enter),
      event.offers other id = false → ∀ one ∈ writtenBy connection point ++ [event],
        one.offers other id = false := by
    intro connection other event point silent one member
    rcases List.mem_append.mp member with early | late
    · exact offers_writtenBy connection other point one early
    · rw [List.mem_singleton.mp late]
      exact silent
  have replayed : ∀ {shared : Shared} {own : String} {index : Nat},
      shared.sentFrames = state.shared.sentFrames →
      (replayedFrame own (shared.replayed own index)).subscribes id = false := by
    intro shared own index same
    exact Frame.subscribes_eq_false (Registry.type_replayedFrame recorded same own index) id
  cases effects with
  | interrupted => exact .inl fun _ => rfl
  | found => exact .inl fun _ => rfl
  | races => exact .inl fun _ => rfl
  | sleeps => exact .inl fun _ => rfl
  | leaves => exact .inl fun _ => rfl
  | opens reconnect locked owned calm pending server =>
      have connect : (connectFrame server settings.protocolVersion
          settings.heartbeat).subscribes id = false :=
        Frame.subscribes_eq_false (by simp [connectFrame, Frame.bodyless]) id
      exact .inl fun other => offered_eq (List.append_assoc _ _ _) (by simp [Event.offers, connect])
  | fails => exact .inl fun _ => offered_emit rfl
  | asks => exact .inl fun _ => offered_noteWritten _ _
  | collects => exact .inl fun _ => rfl
  | @subscribes reconnect locked owned connection point phase base _ subscription remaining ready =>
      have current := handshake_of_phase locked phase
      have trace_eq := ready.base.trace_append [.handed connection subscription.frame]
      by_cases own : subscription.id = id
      · refine .inr ⟨?_, connection, ?_, ?_⟩
        · rw [← own]
          exact (registry.lists_of_ready current ready subscription List.mem_cons_self).1
        · intro member
          have listed : .activated connection ∈ base.trace ++ [_] := member
          rw [trace_eq] at listed
          rcases List.mem_append.mp listed with old | new
          · exact (placed.shared.handshake connection point current).2 old
          · simp [(Placed.writtenBy_on connection point).2] at new
        · intro other different
          refine offered_eq trace_eq (unused point ?_)
          simp [Event.offers, Ne.symm different]
      · refine .inl fun other => offered_eq trace_eq (unused point ?_)
        simp [Event.offers, Subscription.subscribes_frame, own]
  | replays reconnect locked owned connection walk own index frame =>
      rw [replayFrame_eq]
      refine .inl fun other => (offered_hand (replayed rfl) connection).trans ?_
      exact offered_noteWritten _ _
  | picks reconnect locked owned connection point phase ready transaction =>
      rw [replayFrame_eq]
      refine .inl fun other => offered_eq (ready.base.trace_append [_]) ?_
      exact unused point (by simp [Event.offers, replayed ready.base.sentFrames])
  | changed reconnect locked owned connection point phase ready =>
      exact .inl fun other => offered_eq (ready.base.trace_append [_]) (unused point rfl)
  | finishes reconnect locked owned connection point phase ready =>
      exact .inl fun other => offered_eq (ready.base.trace_append [_]) (unused point rfl)

end Handshakes

/-! ## The invariant -/

/-- The connections that have got SUBSCRIBE of a subscription, by the position of its call: as long
as the call goes on, they are the one on which it writes and others that are lost. -/
structure Offered (id : String) (shared : Shared) (point : Point) : Prop where
  once : ∀ connection, .activated connection ∈ shared.trace → shared.offered connection id ≤ 1
  spent : ∀ subscription writing, point = .subscribing subscription writing →
    ∀ connection, 0 < shared.offered connection id → writing.on = some connection ∨
      .activated connection ∈ shared.trace ∧ shared.active ≠ some connection

namespace Offered

variable {settings : Settings} {state : State} {id : String} {before after : Shared}
  {point : Point}

theorem leaves (offered : Offered id before point) {next : Point}
    (elsewhere : ∀ subscription writing, next ≠ .subscribing subscription writing) :
    Offered id before next :=
  ⟨offered.once, fun _ _ standing => absurd standing (elsewhere _ _)⟩

/-- Other tasks speak on connections that have been active. -/
theorem speaks (offered : Offered id before point) (speaks : before.Speaks after)
    (same : ∀ connection, after.offered connection id = before.offered connection id) :
    Offered id after point := by
  obtain ⟨events, trace_eq, later⟩ := speaks.trace
  refine ⟨?_, ?_⟩
  · intro connection used
    rw [trace_eq] at used
    rw [same]
    refine offered.once connection ((List.mem_append.mp used).resolve_right fun new => ?_)
    exact later _ new
  · intro subscription writing standing connection positive
    rw [same] at positive
    rcases offered.spent subscription writing standing connection positive with own | ⟨used, lost⟩
    · exact .inl own
    · refine .inr ⟨speaks.grows used, ?_⟩
      rcases speaks.active with kept | none
      · rwa [kept]
      · simp [none]

/-- A handshake goes on. -/
theorem reconnects {task : TaskId} {reply : Reply} {progress : Progress Unit ConnectionId}
    (offered : Offered id state.shared (state.tasks (.subscribe id))) (placed : state.Placed)
    (registry : Registry state) (recorded : state.Recorded)
    (greeted : state.shared.Greeted settings)
    (effects : state.shared.Reconnects settings task reply after progress) :
    Offered id after (state.tasks (.subscribe id)) := by
  have sends : ∀ transaction, ∀ frame ∈ state.shared.sentFrames transaction,
      frame.type = .send := by
    intro transaction frame member
    obtain ⟨arguments, rfl⟩ := recorded.shared.sends transaction frame member
    rfl
  have passed := effects.offered placed registry recorded id
  refine ⟨?_, ?_⟩
  · intro connection used
    have same : after.offered connection id = state.shared.offered connection id := by
      rcases passed with same | ⟨-, other, fresh, same⟩
      · exact same connection
      · refine same connection ?_
        rintro rfl
        exact fresh used
    rw [same]
    by_cases known : .activated connection ∈ state.shared.trace
    · exact offered.once connection known
    · exact greeted.offered_bound sends known
  · intro subscription writing standing connection positive
    rcases passed with same | ⟨finished, -⟩
    · rw [same] at positive
      rcases offered.spent subscription writing standing connection positive with own | ⟨used, lost⟩
      · exact .inl own
      · obtain ⟨events, trace_eq, -⟩ := effects.extends
        refine .inr ⟨?_, fun active => ?_⟩
        · rw [trace_eq]
          exact List.mem_append_left _ used
        · rcases effects.active_cases placed.shared active with kept | fresh
          · exact lost kept
          · exact fresh used
    · rw [finished] at standing
      contradiction

/-- Everything that the call has used is lost, and it tries again. -/
theorem attempts {subscription : Subscription} {writing : WriteFrame}
    {progress : Progress WriteFrame Unit}
    (offered : Offered subscription.id before (.subscribing subscription writing))
    (lost : ∀ connection, writing.on = some connection →
      .activated connection ∈ before.trace ∧ before.active ≠ some connection)
    (effects : Attempts subscription.frame before after progress) :
    Offered subscription.id ((Job.subscribe subscription).proceed (after, progress)).shared
      ((Job.subscribe subscription).proceed (after, progress)).point := by
  have spent : ∀ connection, 0 < before.offered connection subscription.id →
      .activated connection ∈ before.trace ∧ before.active ≠ some connection := by
    intro connection positive
    rcases offered.spent subscription writing rfl connection positive with own | gone
    · exact lost connection own
    · exact gone
  have own : subscription.frame.subscribes subscription.id = true := by
    simp [Subscription.subscribes_frame]
  cases effects with
  | exhausted => exact offered.leaves (by simp [Job.proceed, Job.failed])
  | hands left connection active =>
      have unused : before.offered connection subscription.id = 0 := by
        by_contra positive
        exact (spent connection (Nat.pos_of_ne_zero positive)).2 active
      refine ⟨?_, ?_⟩
      · intro other used
        simp only [Job.proceed, Shared.offered_hand_self own]
        split
        · rename_i same
          rw [← same, unused]
        · exact offered.once other (by simpa [Job.proceed, Shared.hand, Shared.emit] using used)
      · intro current reached standing other positive
        obtain ⟨rfl, rfl⟩ := Point.subscribing.inj standing
        simp only [Job.proceed, Shared.offered_hand_self own] at positive
        split at positive
        · rename_i same
          exact .inl (congrArg some same)
        · obtain ⟨used, gone⟩ := spent other positive
          exact .inr ⟨List.mem_append_left _ used, gone⟩
  | awaits left inactive =>
      refine ⟨offered.once, ?_⟩
      intro current reached standing other positive
      exact .inr (spent other positive)

/-- A step of the call. -/
theorem writes {subscription : Subscription} {writing : WriteFrame} {reply : Reply}
    {progress : Progress WriteFrame Unit} {task : TaskId}
    (offered : Offered subscription.id state.shared (state.tasks (.subscribe subscription.id)))
    (standing : state.tasks (.subscribe subscription.id) = .subscribing subscription writing)
    (placed : state.Placed) (registry : Registry state) (recorded : state.Recorded)
    (greeted : state.shared.Greeted settings)
    (effects : Writes settings task subscription.frame state.shared reply writing after
      progress) :
    Offered subscription.id ((Job.subscribe subscription).proceed (after, progress)).shared
      ((Job.subscribe subscription).proceed (after, progress)).point := by
  have connecting : ∀ {reached : Progress Unit ConnectionId} {connected : Shared},
      state.shared.Reconnects settings task reply connected reached →
      Offered subscription.id connected (.subscribing subscription writing) := by
    intro reached connected effects
    rw [← standing]
    exact offered.reconnects placed registry recorded greeted effects
  have used : ∀ connection, writing.on = some connection →
      .activated connection ∈ state.shared.trace := by
    intro connection on
    refine placed.tasks (.subscribe subscription.id) connection ?_
    rw [standing]
    exact on
  rw [standing] at offered
  have tries : ∀ {result : Shared} {reached : Progress WriteFrame Unit},
      Attempts subscription.frame state.shared result reached →
      (∀ connection, writing.on = some connection → state.shared.active ≠ some connection) →
      Offered subscription.id ((Job.subscribe subscription).proceed (result, reached)).shared
        ((Job.subscribe subscription).proceed (result, reached)).point := by
    intro result reached effects lost
    exact offered.attempts (fun connection on => ⟨used connection on, lost connection on⟩) effects
  cases effects with
  | waits left effects => exact connecting effects
  | connects left connection effects =>
      have middle := connecting effects
      exact middle.attempts (by simp [WriteFrame.on]) (.hands left connection
        effects.active_of_returned)
  | disconnected left failure effects =>
      exact (connecting effects).leaves (by simp [Job.proceed, Job.failed])
  | writes left connection =>
      have wrote := (offered.leaves (by simp) : Offered subscription.id state.shared .finished)
      refine ⟨?_, by simp [Job.proceed, Job.completed]⟩
      intro other known
      refine le_of_eq_of_le (Shared.offered_noteWritten subscription.frame connection)
        (wrote.once other ?_)
      simpa [Job.proceed, Job.completed, Shared.noteWritten, Shared.emit] using known
  | loses left connection active =>
      have lost := offered.speaks (.discard state.shared connection)
        fun other => Shared.offered_discard connection
      refine ⟨lost.once, ?_⟩
      intro current reached moved other positive
      obtain ⟨rfl, rfl⟩ := Point.subscribing.inj moved
      rcases lost.spent _ _ rfl other positive with own | gone
      · refine .inr ⟨?_, by simp [Job.proceed, Shared.discard]⟩
        exact (Shared.Speaks.discard state.shared connection).grows (used other own)
      · exact .inr gone
  | outlived left connection inactive effects =>
      refine tries effects ?_
      intro other on
      obtain rfl := Option.some.inj on
      exact inactive
  | retries left connection effects => exact tries effects (by simp [WriteFrame.on])
  | fails => exact offered.leaves (by simp [Job.proceed, Job.failed])

theorem stored {resumed : Resumed} (unspawned : resumed.spawned = none)
    (offered : Offered id resumed.shared resumed.point) :
    Offered id (state.store (.subscribe id) resumed).shared
      ((state.store (.subscribe id) resumed).tasks (.subscribe id)) := by
  rw [State.tasks_store_of_unspawned unspawned]
  exact offered

/-- A step of another task. -/
theorem of_other {next : State} {action : Action}
    (offered : Offered id state.shared (state.tasks (.subscribe id))) (fits : state.Fits)
    (placed : state.Placed) (registry : Registry state) (recorded : state.Recorded)
    (greeted : state.shared.Greeted settings)
    (different : action.task ≠ some (.subscribe id))
    (stepped : step settings state action = some next) :
    Offered id next.shared (next.tasks (.subscribe id)) := by
  have parked := State.step_park fits stepped different (by simp) (by simp)
  have parkedPlaced : (state.park (.subscribe id)).Placed := by
    refine ⟨placed.shared, fun other connection on => placed.tasks other connection ?_⟩
    by_cases same : other = .subscribe id
    · rw [same, State.tasks_park] at on
      contradiction
    · rwa [State.tasks_park_of_ne same] at on
  have parkedFits := fits.park (.subscribe id) (by simp) (by simp)
  rw [tasks_of_step fits stepped different (by simp) (by simp)]
  generalize position : state.tasks (.subscribe id) = point at offered
  suffices kept : (next.park (.subscribe id)).Placed ∧
      (next.park (.subscribe id)).tasks (.subscribe id) = .finished ∧
      Offered id next.shared point from kept.2.2
  refine @holds_of_step settings (state.park (.subscribe id)) (next.park (.subscribe id)) action
    (fun later => later.Placed ∧ later.tasks (.subscribe id) = .finished ∧
      Offered id later.shared point) parkedFits ?_ ?_ parked
  · intro middle begins
    have ended := State.tasks_park (.subscribe id) state
    have move : SubscriptionMove settings (fun _ => True) (state.park (.subscribe id)) middle :=
      begins.subscriptionMove trivial
    refine ⟨parkedPlaced.begins begins, move.stays ended, ?_⟩
    rcases begins.speaks parkedPlaced with ⟨task, reply, after, progress, effects, rfl⟩ | speaks
    · subst position
      exact offered.reconnects placed registry recorded greeted effects
    · rcases begins.offered with ⟨task, reply, after, progress, effects, rfl⟩ | same
      · subst position
        exact offered.reconnects placed registry recorded greeted effects
      · exact offered.speaks speaks same
  · rintro middle later - ⟨known, ended, kept⟩ reacts
    have move : SubscriptionMove settings (fun _ => True) middle later := reacts.subscriptionMove
    exact ⟨known.reacts reacts, move.stays ended,
      kept.speaks (reacts.speaks known) fun _ => reacts.offered ended⟩

/-- A step of the call itself. -/
theorem of_own {next : State} {action : Action}
    (offered : Offered id state.shared (state.tasks (.subscribe id))) (fits : state.Fits)
    (placed : state.Placed) (registry : Registry state) (recorded : state.Recorded)
    (greeted : state.shared.Greeted settings) (own : action.task = some (.subscribe id))
    (stepped : step settings state action = some next) :
    Offered id next.shared (next.tasks (.subscribe id)) := by
  cases steps_of_step stepped with
  | subscribe subscription absent =>
      obtain rfl : subscription.id = id := by simpa [Action.task] using own
      have unused : ∀ connection, state.shared.offered connection subscription.id = 0 := by
        intro connection
        refine List.countP_eq_zero.mpr ?_
        intro event member offers
        cases event with
        | handed other frame =>
            simp only [Event.offers, Bool.and_eq_true] at offers
            have known := registry.known other frame subscription.id member offers.2
            rw [absent] at known
            exact known
        | _ => simp [Event.offers] at offers
      have fresh : Offered subscription.id state.shared
          (.subscribing subscription (.connecting 0)) :=
        ⟨offered.once, fun _ _ _ connection positive => absurd (unused connection) positive.ne'⟩
      have tried := fresh.attempts (by simp [WriteFrame.on])
        (start_effects settings subscription.frame state.shared)
      exact stored (Job.spawned_proceed (.subscribe subscription) _) tried
  | @resume task reply choice created resumed resumes =>
      obtain rfl : task = .subscribe id := by simpa [Action.task] using own
      have position := fits.tasks (.subscribe id)
      cases standing : state.tasks (.subscribe id) with
      | subscribing subscription writing =>
          rw [standing] at position resumes
          obtain rfl : id = subscription.id := by simpa [Point.Fits, Job.Runs] using position
          obtain ⟨⟨after, progress⟩, written, rfl⟩ := Option.map_eq_some_iff.mp resumes
          have wrote := offered.writes standing placed registry recorded greeted
            (resume_effects written)
          exact stored (Job.spawned_proceed (.subscribe subscription) _) wrote
      | _ => simp_all [Point.Fits, Job.Runs, Duty.Runs, Point.resume]
  | _ => simp [Action.task] at own

end Offered

theorem registry_of_reaches {settings : Settings} {allowed : State → Action → Prop} {state : State}
    (reach : (client settings).Reaches allowed state) : Registry state := by
  have initially : Registry (client settings).initial :=
    ⟨by simp [client, ActiveSubscriptions.getById], by simp [client],
      by simp [client, Shared.handshake]⟩
  suffices both : state.Recorded ∧ Registry state from both.2
  refine @invariant_of_moves settings allowed (fun state => state.Recorded ∧ Registry state)
    ⟨recorded_initial settings, initially⟩ ?_ ?_ state reach
  · rintro state middle action _ ⟨recorded, registry⟩ met begins
    exact ⟨recorded.transactionMove (begins.transactionMove met),
      registry.subscriptionMove recorded (begins.subscriptionMove met)⟩
  · rintro state after _ ⟨recorded, registry⟩ reacts
    exact ⟨recorded.transactionMove (@Reacts.transactionMove settings (fun _ => True) _ _ reacts),
      @Registry.subscriptionMove settings _ registry recorded (fun _ => True) _
        reacts.subscriptionMove⟩

theorem offered_of_reaches {settings : Settings} {allowed : State → Action → Prop} {state : State}
    (reach : (client settings).Reaches allowed state) (id : String) :
    Offered id state.shared (state.tasks (.subscribe id)) := by
  refine @System.Reaches.invariant _ _ _ _ (fun state =>
    Offered id state.shared (state.tasks (.subscribe id))) ?_ ?_ state reach
  · exact ⟨by simp [client], by simp [client, initialTasks]⟩
  · intro before after action reach offered _ stepped
    have fits := fits_of_reaches reach
    have placed := placed_of_reaches reach
    have registry := registry_of_reaches reach
    have recorded := recorded_of_reaches reach
    have greeted := (Session.greeted_of_reaches (reaches_session reach)).shared
    by_cases own : action.task = some (.subscribe id)
    · exact offered.of_own fits placed registry recorded greeted own stepped
    · exact offered.of_other fits placed registry recorded greeted own stepped

/-- In every run, SUBSCRIBE of a subscription is passed to each connection at most once, whether by
its own call, by a retry of it or by a handshake. -/
theorem offered_le_one {settings : Settings} {state : State}
    (reach : (client settings).Reachable state) (connection : ConnectionId) (id : String) :
    state.shared.trace.countP (Event.offers connection id) ≤ 1 := by
  by_cases used : .activated connection ∈ state.shared.trace
  · exact (offered_of_reaches reach id).once connection used
  · have recorded := recorded_of_reaches reach
    have greeted := (Session.greeted_of_reaches (reaches_session reach)).shared
    refine greeted.offered_bound ?_ used
    intro transaction frame member
    obtain ⟨arguments, rfl⟩ := recorded.shared.sends transaction frame member
    rfl

/-- The write of SUBSCRIBE is lost on one connection and tried again on the next, which is lost as
well; a third connection takes the subscription up in its handshake. -/
def offersThrice : List Action :=
  enters ++ [.subscribe plainSubscription, raises (.subscribe "1") .connectionLost,
    returns (.subscribe "1")] ++ connects (.subscribe "1") ++
  [returns (.subscribe "1"), raises .listener .connectionLost, raises .listener .connectionLost,
    returns .listener] ++ connects .listener ++ [returns .listener]

theorem offered_le_one_offersThrice :
    ∃ state, (client plainSettings).Reachable state ∧
      (.handed 0 plainSubscription.frame ∈ state.shared.trace ∧
        .handed 1 plainSubscription.frame ∈ state.shared.trace ∧
        .handed 2 plainSubscription.frame ∈ state.shared.trace) ∧
      state.shared.trace.countP (Event.offers 2 "1") ≤ 1 := by
  have replayed : ((client plainSettings).replay (fun _ _ => true) (client plainSettings).initial
      offersThrice).map (fun state =>
        decide (.handed 0 plainSubscription.frame ∈ state.shared.trace ∧
          .handed 1 plainSubscription.frame ∈ state.shared.trace ∧
          .handed 2 plainSubscription.frame ∈ state.shared.trace)) = some true := by
    decide +kernel
  obtain ⟨state, reach, happened⟩ := System.exists_of_replay (fun _ _ _ => trivial) replayed
  exact ⟨state, reach, of_decide_eq_true happened, offered_le_one reach 2 "1"⟩

end Stompman
