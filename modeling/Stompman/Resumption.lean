import Stompman.Moves

/-!
# What a resumed task does

A resumed task is the starter, a background task in its loop, or it has a job, a duty or a handler
to finish.  `Resumption` lists what it can do up to its next `await`, once for all tasks; what a
step does to the shared state and to the tasks is proved from this list.
-/

namespace Stompman

open Foundation

/-! ## Jobs and duties -/

section Calls

variable {settings : Settings} {task : TaskId}

theorem Job.resume_point {job : Job} (runs : job.Runs task) (writing : WriteFrame) (reply : Reply)
    (choice : Choice) (shared : Shared) :
    (job.point writing).resume settings task reply choice shared =
      (writing.resume settings task job.frame reply choice.pick shared).map job.proceed := by
  cases job with
  | send frame => rfl
  | subscribe subscription => rfl
  | begin transaction =>
      obtain rfl := runs
      rfl
  | transact transaction failed frame => rfl

theorem Duty.proceed_commit (transaction : String) :
    (Duty.commit transaction).proceed = committed transaction := by
  funext result
  obtain ⟨shared, progress⟩ := result
  cases progress with
  | returned written => cases written <;> rfl
  | _ => rfl

theorem Duty.resume_point {duty : Duty} (runs : duty.Runs task) (writing : MaybeWrite)
    (reply : Reply) (choice : Choice) (shared : Shared) :
    (duty.point writing).resume settings task reply choice shared =
      (writing.resume duty.frame reply shared).map duty.proceed := by
  cases duty with
  | unsubscribe subscription => rfl
  | abort transaction =>
      obtain rfl := runs
      rfl
  | commit transaction =>
      obtain rfl := runs
      rw [Duty.proceed_commit]
      rfl
  | settle delivery frame suppressed =>
      refine congrArg (fun proceed => Option.map proceed (writing.resume frame reply shared)) ?_
      funext result
      obtain ⟨shared, progress⟩ := result
      cases progress <;> rfl
  | acknowledge delivery frame => rfl

theorem Job.spawned_proceed (job : Job) (result : Shared × Progress WriteFrame Unit) :
    (job.proceed result).spawned = none := by
  obtain ⟨shared, progress⟩ := result
  cases progress with
  | returned => cases job <;> rfl
  | _ => rfl

theorem Duty.spawned_proceed (duty : Duty) (result : Shared × Progress MaybeWrite Bool) :
    (duty.proceed result).spawned = none := by
  obtain ⟨shared, progress⟩ := result
  cases progress with
  | returned written =>
      cases duty with
      | abort transaction => exact spawned_removeTransaction _ _
      | commit transaction =>
          cases written with
          | true => exact spawned_removeTransaction _ _
          | false => rfl
      | _ => rfl
  | _ => rfl

theorem Job.unready_proceed (job : Job) (result : Shared × Progress WriteFrame Unit)
    (delivery : Delivery) : (job.proceed result).point ≠ .listener (.acquiring delivery) := by
  obtain ⟨shared, progress⟩ := result
  cases progress <;> cases job <;> simp [Job.proceed, Job.point, Job.completed, Job.failed]

theorem Duty.unready_proceed (duty : Duty) (result : Shared × Progress MaybeWrite Bool)
    (delivery : Delivery) : (duty.proceed result).point ≠ .listener (.acquiring delivery) := by
  obtain ⟨shared, progress⟩ := result
  have removed : ∀ transaction,
      (removeTransaction transaction shared).point ≠ .listener (.acquiring delivery) := by
    intro transaction
    rcases @point_removeTransaction transaction shared with ended | ended <;> simp [ended]
  cases progress with
  | returned written =>
      cases duty with
      | abort transaction => exact removed transaction
      | commit transaction =>
          cases written with
          | true => exact removed transaction
          | false => simp [Duty.proceed, Duty.completed]
      | _ => simp [Duty.proceed, Duty.completed, handlerEnd]
  | _ => cases duty <;> simp [Duty.proceed, Duty.point, Duty.failed]

end Calls

/-! ## Background tasks -/

/-- Where a background task comes to rest. -/
def Point.Rests (task : TaskId) (shared : Shared) : Point → Prop
  | .raised _ => True
  | .heartbeat _ => ∃ generation, task = .heartbeat generation
  | .monitor _ => ∃ generation, task = .monitor generation
  | .listener (.reading connection epoch) =>
      task = .listener ∧ shared.active = some connection ∧ epoch = shared.reconnectionCount
  | .listener (.acquiring _) => False
  | .listener _ => task = .listener
  | _ => False

theorem Point.Rests.fits {task : TaskId} {shared : Shared} {point : Point}
    (rests : point.Rests task shared) : point.Aside ∧ point.Fits task := by
  cases point with
  | raised => exact ⟨trivial, trivial⟩
  | heartbeat => exact ⟨trivial, rests⟩
  | monitor => exact ⟨trivial, rests⟩
  | listener point =>
      cases point with
      | reading => exact ⟨trivial, rests.1⟩
      | acquiring => exact rests.elim
      | _ => exact ⟨trivial, rests⟩
  | _ => exact rests.elim

/-- What a background task does with the active connection before it comes to rest. -/
inductive Tends (task : TaskId) (shared : Shared) : Resumed → Prop
  | rests (point : Point) (rests : point.Rests task shared) : Tends task shared { shared, point }
  | beats (generation : Nat) (own : task = .heartbeat generation) (connection : ConnectionId)
      (active : shared.active = some connection) :
      Tends task shared
        { shared := shared.emit (.beat connection), point := .heartbeat .sleeping }
  | discards (connection : ConnectionId) (active : shared.active = some connection)
      (point : Point) (rests : point.Rests task (shared.discard connection)) :
      Tends task shared { shared := shared.discard connection, point }

namespace Tends

variable {settings : Settings} {task : TaskId} {shared : Shared} {resumed : Resumed}

theorem unspawned (tends : Tends task shared resumed) : resumed.spawned = none := by
  cases tends <;> rfl

theorem point_rests (tends : Tends task shared resumed) :
    resumed.point.Rests task resumed.shared := by
  cases tends with
  | rests point rests => exact rests
  | beats generation own => exact ⟨generation, own⟩
  | discards connection active point rests => exact rests

/-- A task that comes to rest has no message to deliver. -/
theorem unready (tends : Tends task shared resumed) (delivery : Delivery) :
    resumed.point ≠ .listener (.acquiring delivery) := by
  intro acquiring
  have rests := tends.point_rests
  rw [acquiring] at rests
  exact rests

theorem heartbeatEnded (generation : Nat) (shared : Shared) (failure : Option Failure) :
    Tends (.heartbeat generation) shared (HeartbeatPoint.ended settings shared failure) := by
  unfold HeartbeatPoint.ended
  split
  · exact .rests _ ⟨generation, rfl⟩
  · split
    · exact .rests _ ⟨generation, rfl⟩
    · exact .rests _ trivial
  · split
    · exact .rests _ ⟨generation, rfl⟩
    · exact .rests _ trivial
  · exact .rests _ trivial

theorem beat (generation : Nat) {connection : ConnectionId}
    (active : shared.active = some connection) (left : Nat) (beats : Bool) :
    Tends (.heartbeat generation) shared (HeartbeatPoint.beat shared left connection beats) := by
  cases beats with
  | true => exact .beats generation rfl connection active
  | false => exact .discards connection active _ ⟨generation, rfl⟩

theorem heartbeatAttempts (generation : Nat) (shared : Shared) (beats : Bool) (count : Nat) :
    Tends (.heartbeat generation) shared
      (HeartbeatPoint.attempts settings shared beats count) := by
  unfold HeartbeatPoint.attempts
  split
  · exact heartbeatEnded _ _ _
  · split
    · rename_i active
      exact beat generation active _ beats
    · exact .rests _ ⟨generation, rfl⟩

theorem monitorLoop (generation : Nat) (shared : Shared) (expired : Bool) :
    Tends (.monitor generation) shared (MonitorPoint.loop shared expired) := by
  unfold MonitorPoint.loop
  split
  · rename_i active
    exact .discards _ active _ ⟨generation, rfl⟩
  · exact .rests _ ⟨generation, rfl⟩

theorem listenerLoop (shared : Shared) : Tends .listener shared (ListenerPoint.loop shared) := by
  unfold ListenerPoint.loop
  split
  · rename_i active
    exact .rests _ ⟨rfl, active, rfl⟩
  · exact .rests _ rfl

theorem disconnected (failure : Failure) (shared : Shared) :
    Tends .listener shared (ListenerPoint.disconnected settings failure shared) := by
  unfold ListenerPoint.disconnected
  split
  · split
    · exact .rests _ rfl
    · exact .rests _ trivial
  · exact .rests _ trivial

end Tends

/-! ## Messages -/

/-- What the listener does with a frame that it has taken. -/
inductive Dispatches (connection : ConnectionId) (epoch : Nat) (shared : Shared) :
    AnyFrame → Resumed → Prop
  | passes (frame : AnyFrame)
      (unrouted : ∀ message, frame = .frame message → message.type = .message →
        ∀ id, message.headers.get? "subscription" = some id →
          shared.subscriptions.getById id = none) :
      Dispatches connection epoch shared frame
        { shared :=
            { shared.emit (.received shared.messages connection epoch frame) with
              messages := shared.messages + 1 }
          point := .listener (.reading connection epoch) }
  | misses (message : Frame) (isMessage : message.type = .message)
      (missing : message.headers.get? "subscription" = none) :
      Dispatches connection epoch shared (.frame message)
        { shared :=
            { shared.emit (.received shared.messages connection epoch (.frame message)) with
              messages := shared.messages + 1 }
          point := .raised .keyError }
  | acquires (message : Frame) (isMessage : message.type = .message) (id : String)
      (named : message.headers.get? "subscription" = some id) (subscription : Subscription)
      (registered : shared.subscriptions.getById id = some subscription)
      (bounded : shared.permits ≠ none) :
      Dispatches connection epoch shared (.frame message)
        { shared :=
            { shared.emit (.received shared.messages connection epoch (.frame message)) with
              messages := shared.messages + 1 }
          point := .listener (.acquiring
            ⟨shared.messages, connection, epoch, message, subscription, isMessage⟩) }
  | creates (message : Frame) (isMessage : message.type = .message) (id : String)
      (named : message.headers.get? "subscription" = some id) (subscription : Subscription)
      (registered : shared.subscriptions.getById id = some subscription)
      (unbounded : shared.permits = none) :
      Dispatches connection epoch shared (.frame message)
        (ListenerPoint.createHandler
          ⟨shared.messages, connection, epoch, message, subscription, isMessage⟩
          { shared.emit (.received shared.messages connection epoch (.frame message)) with
            messages := shared.messages + 1 })

theorem dispatches (connection : ConnectionId) (epoch : Nat) (frame : AnyFrame) (shared : Shared) :
    Dispatches connection epoch shared frame
      (ListenerPoint.dispatch connection epoch frame shared) := by
  unfold ListenerPoint.dispatch
  cases frame with
  | heartbeat => exact .passes _ (by simp)
  | frame message =>
      simp only
      split
      · rename_i isMessage
        split
        · rename_i missing
          exact .misses message isMessage missing
        · rename_i id named
          split
          · rename_i unregistered
            refine .passes _ ?_
            intro other same _ otherId otherNamed
            obtain rfl : message = other := by simpa using same
            obtain rfl : id = otherId := Option.some.inj (named.symm.trans otherNamed)
            exact unregistered
          · rename_i subscription registered
            split
            · rename_i unbounded
              exact .creates message isMessage id named subscription registered unbounded
            · rename_i bounded
              exact .acquires message isMessage id named subscription registered
                (Option.ne_none_iff_exists'.mpr ⟨_, bounded⟩)
      · rename_i other_type
        refine .passes _ ?_
        intro other same is_message
        obtain rfl : message = other := by simpa using same
        exact absurd is_message other_type

/-! ## Loops of background tasks -/

/-- Positions of a background task inside `_get_active_connection_state`. -/
def Point.Reconnects : Point → Prop
  | .heartbeat (.connecting _) | .listener .connecting => True
  | _ => False

/-- Positions of a background task outside it, unless it has a message to deliver. -/
def Point.Tending : Point → Prop
  | .heartbeat (.connecting _) | .listener .connecting | .listener (.acquiring _) => False
  | .heartbeat _ | .monitor _ | .listener _ => True
  | _ => False

/-- A background task at one of its own positions. -/
theorem Point.background {task : TaskId} {point : Point} (fits : point.Fits task)
    (background : point.Reconnects ∨ point.Tending) :
    task.Background ∧ task ≠ .starter ∧ point.Aside ∧
      (task = .listener → ∃ before, point = .listener before) := by
  cases point with
  | heartbeat point =>
      obtain ⟨generation, rfl⟩ := fits
      exact ⟨trivial, by simp, trivial, by simp⟩
  | monitor point =>
      obtain ⟨generation, rfl⟩ := fits
      exact ⟨trivial, by simp, trivial, by simp⟩
  | listener point =>
      obtain rfl : task = .listener := fits
      refine ⟨trivial, by simp, ?_, fun _ => ⟨point, rfl⟩⟩
      cases point with
      | acquiring => exact (background.elim id id).elim
      | _ => trivial
  | _ => exact (background.elim id id).elim

/-- What a background task does from one `await` of its loop to the next. -/
inductive Cycles (settings : Settings) (task : TaskId) (reply : Reply) (choice : Choice)
    (shared : Shared) : Point → Resumed → Prop
  | waits {after : Shared} (before : Point) (inside : before.Reconnects)
      (resumed : shared.resumeConnecting settings task reply choice.pick =
        some (after, .suspended ())) :
      Cycles settings task reply choice shared before { shared := after, point := before }
  | leaves {after : Shared} {progress : Progress Unit ConnectionId} {outcome : Resumed}
      (before : Point) (inside : before.Reconnects)
      (resumed : shared.resumeConnecting settings task reply choice.pick = some (after, progress))
      (ended : progress ≠ .suspended ()) (tends : Tends task after outcome)
      (raised : ∀ failure, outcome.point = .raised failure → progress = .raised failure) :
      Cycles settings task reply choice shared before outcome
  | tends {outcome : Resumed} (before : Point) (tending : before.Tending)
      (tends : Tends task shared outcome)
      (raised : ∀ failure, outcome.point = .raised failure →
        (reply = .raised failure ∧ ∀ connection epoch,
          before = .listener (.reading connection epoch) → failure ≠ .connectionLost) ∨
        failure = .failedAllWriteAttempts ∧ ∃ generation, task = .heartbeat generation) :
      Cycles settings task reply choice shared before outcome
  | takes {outcome : Resumed} (own : task = .listener) (connection : ConnectionId) (epoch : Nat)
      (frame : AnyFrame) (replied : reply = .frame frame)
      (dispatches : Dispatches connection epoch shared frame outcome) :
      Cycles settings task reply choice shared (.listener (.reading connection epoch)) outcome
  | creates (own : task = .listener) (delivery : Delivery) (free : Nat)
      (returned : reply = .returned) (bounded : shared.permits = some (free + 1)) :
      Cycles settings task reply choice shared (.listener (.acquiring delivery))
        (ListenerPoint.createHandler delivery { shared with permits := some free })
  | stops (own : task = .listener) (delivery : Delivery) (failure : Failure)
      (raised : reply = .raised failure) :
      Cycles settings task reply choice shared (.listener (.acquiring delivery))
        { shared, point := .raised failure }

namespace Cycles

variable {settings : Settings} {task : TaskId} {reply : Reply} {choice : Choice} {shared : Shared}
  {resumed : Resumed}

theorem raised_of_ended {failure leaving : Failure}
    (ended : (HeartbeatPoint.ended settings shared (some failure)).point = .raised leaving) :
    leaving = failure := by
  unfold HeartbeatPoint.ended at ended
  split at ended
  · contradiction
  · split at ended
    · contradiction
    · simp_all
  · split at ended
    · contradiction
    · simp_all
  · simp_all

theorem raised_of_beat {left : Nat} {connection : ConnectionId} {beats : Bool} {failure : Failure} :
    (HeartbeatPoint.beat shared left connection beats).point ≠ .raised failure := by
  unfold HeartbeatPoint.beat
  split <;> simp

theorem raised_of_attempts {beats : Bool} {count : Nat} {failure : Failure}
    (attempted : (HeartbeatPoint.attempts settings shared beats count).point = .raised failure) :
    failure = .failedAllWriteAttempts := by
  unfold HeartbeatPoint.attempts at attempted
  split at attempted
  · exact raised_of_ended attempted
  · split at attempted
    · exact absurd attempted raised_of_beat
    · contradiction

theorem heartbeat (generation : Nat) {point : HeartbeatPoint}
    (resumes : point.resume settings (.heartbeat generation) reply choice shared = some resumed) :
    Cycles settings (.heartbeat generation) reply choice shared (.heartbeat point) resumed := by
  have attempts : ∀ count, (Point.heartbeat point).Tending →
      Cycles settings (.heartbeat generation) reply choice shared (.heartbeat point)
        (HeartbeatPoint.attempts settings shared choice.beats count) :=
    fun count tending => .tends _ tending (.heartbeatAttempts generation _ _ count)
      fun failure raised => .inr ⟨raised_of_attempts raised, generation, rfl⟩
  unfold HeartbeatPoint.resume at resumes
  split at resumes
  · rename_i left
    obtain ⟨⟨after, progress⟩, connected, rfl⟩ := Option.map_eq_some_iff.mp resumes
    cases progress with
    | suspended => exact .waits _ trivial connected
    | returned connection =>
        have active := (Shared.reconnects_resumeConnecting connected).active_of_returned
        exact .leaves _ trivial connected (by simp) (.beat generation active left _)
          fun failure raised => absurd raised raised_of_beat
    | raised failure =>
        refine .leaves _ trivial connected (by simp) (.heartbeatEnded generation _ _) ?_
        intro leaving raised
        rw [raised_of_ended raised]
  · obtain rfl := Option.some.inj resumes
    exact attempts _ trivial
  · rename_i elsewhere _
    obtain rfl := Option.some.inj resumes
    cases point with
    | connecting left => exact absurd rfl (elsewhere left)
    | _ => exact attempts _ trivial
  · rename_i failure elsewhere
    obtain rfl := Option.some.inj resumes
    have tending : (Point.heartbeat point).Tending := by
      cases point with
      | connecting left => exact absurd rfl (elsewhere left)
      | _ => trivial
    refine .tends _ tending (.heartbeatEnded generation _ _) fun leaving raised => .inl ⟨?_, ?_⟩
    · rw [raised_of_ended raised]
    · simp
  · contradiction

theorem monitor (generation : Nat) {point : MonitorPoint}
    (resumes : point.resume reply choice shared = some resumed) :
    Cycles settings (.monitor generation) reply choice shared (.monitor point) resumed := by
  unfold MonitorPoint.resume at resumes
  split at resumes
  · obtain rfl := Option.some.inj resumes
    exact .tends _ trivial (.rests _ ⟨generation, rfl⟩) (by simp)
  · obtain rfl := Option.some.inj resumes
    refine .tends _ trivial (.monitorLoop generation _ _) ?_
    unfold MonitorPoint.loop
    split <;> simp
  · obtain rfl := Option.some.inj resumes
    exact .tends _ trivial (.rests _ trivial) (by simp)
  · contradiction

theorem listener {point : ListenerPoint}
    (resumes : point.resume settings reply choice shared = some resumed) :
    Cycles settings .listener reply choice shared (.listener point) resumed := by
  have loops : (Point.listener point).Tending →
      Cycles settings .listener reply choice shared (.listener point)
        (ListenerPoint.loop shared) := by
    intro tending
    refine .tends _ tending (.listenerLoop _) ?_
    unfold ListenerPoint.loop
    split <;> simp
  have again : (Point.listener point).Tending →
      (∀ connection epoch, point ≠ .reading connection epoch) →
      ListenerPoint.again reply shared = some resumed →
      Cycles settings .listener reply choice shared (.listener point) resumed := by
    intro tending unread answered
    unfold ListenerPoint.again at answered
    split at answered
    · obtain rfl := Option.some.inj answered
      exact loops tending
    · obtain rfl := Option.some.inj answered
      refine .tends _ tending (.rests _ trivial) fun leaving raised => .inl ⟨?_, ?_⟩
      · rw [Point.raised.inj raised]
      · intro connection epoch same
        exact absurd (Point.listener.inj same) (unread connection epoch)
    · contradiction
  cases point with
  | created => exact again trivial (by simp) resumes
  | pausing => exact again trivial (by simp) resumes
  | discarding => exact again trivial (by simp) resumes
  | connecting =>
      obtain ⟨⟨after, progress⟩, connected, rfl⟩ := Option.map_eq_some_iff.mp resumes
      cases progress with
      | suspended => exact .waits _ trivial connected
      | returned connection =>
          have active := (Shared.reconnects_resumeConnecting connected).active_of_returned
          exact .leaves _ trivial connected (by simp) (.rests _ ⟨rfl, active, rfl⟩) (by simp)
      | raised failure =>
          refine .leaves _ trivial connected (by simp) (.disconnected failure _) ?_
          intro leaving raised
          simp only [ListenerPoint.disconnected] at raised
          split at raised
          · split at raised
            · contradiction
            · rw [Point.raised.inj raised]
          · rw [Point.raised.inj raised]
  | reading connection epoch =>
      simp only [ListenerPoint.resume] at resumes
      split at resumes
      · obtain rfl := Option.some.inj resumes
        exact .takes rfl connection epoch _ rfl (dispatches connection epoch _ shared)
      · obtain rfl := Option.some.inj resumes
        exact loops trivial
      · split at resumes
        · rename_i active
          obtain rfl := Option.some.inj resumes
          exact .tends _ trivial (.discards connection active _ rfl) (by simp)
        · obtain rfl := Option.some.inj resumes
          exact loops trivial
      · rename_i failure other
        obtain rfl := Option.some.inj resumes
        refine .tends _ trivial (.rests _ trivial) fun leaving raised => .inl ⟨?_, ?_⟩
        · rw [Point.raised.inj raised]
        · rintro _ _ - rfl
          exact other (Point.raised.inj raised)
      · contradiction
  | acquiring delivery =>
      simp only [ListenerPoint.resume] at resumes
      split at resumes
      · rename_i bounded
        obtain rfl := Option.some.inj resumes
        exact .creates rfl delivery _ rfl bounded
      · obtain rfl := Option.some.inj resumes
        exact .stops rfl delivery _ rfl
      · contradiction

/-- Only the listener creates tasks, which are handlers. -/
theorem spawned {point : Point} (cycles : Cycles settings task reply choice shared point resumed) :
    resumed.spawned = none ∨ task = .listener ∧ ∃ delivery,
      resumed.spawned = some (.handler delivery.number, .handling delivery) := by
  cases cycles with
  | waits => exact .inl rfl
  | leaves _ _ _ _ tends => exact .inl tends.unspawned
  | tends _ _ tends => exact .inl tends.unspawned
  | takes own connection epoch frame replied dispatches =>
      cases dispatches with
      | creates => exact .inr ⟨own, _, rfl⟩
      | _ => exact .inl rfl
  | creates own delivery => exact .inr ⟨own, delivery, rfl⟩
  | stops => exact .inl rfl

end Cycles

/-! ## All tasks -/

theorem settle_type (delivery : Delivery) (type : FrameType) (shared : Shared) :
    (settle delivery type shared).2.1.type = type := by
  unfold settle
  simp only
  split
  · rfl
  · split
    · rfl
    · split
      · rfl
      · split <;> rfl

/-- What a task does when it is resumed. -/
inductive Resumption (settings : Settings) (task : TaskId) (reply : Reply) (choice : Choice)
    (shared : Shared) : Point → Resumed → Prop
  | starts (own : task = .starter) (after : Shared)
      (resumed : shared.resumeConnecting settings task reply choice.pick =
        some (after, .suspended ())) :
      Resumption settings task reply choice shared .starting { shared := after, point := .starting }
  | enters (own : task = .starter) (after : Shared) (connection : ConnectionId)
      (resumed : shared.resumeConnecting settings task reply choice.pick =
        some (after, .returned connection)) :
      Resumption settings task reply choice shared .starting
        { shared := { after with entered := true }
          point := .finished
          spawned := some (.listener, .listener .created) }
  | refused (own : task = .starter) (after : Shared) (failure : Failure)
      (resumed : shared.resumeConnecting settings task reply choice.pick =
        some (after, .raised failure)) :
      Resumption settings task reply choice shared .starting
        { shared := after, point := .raised failure }
  | cycles {outcome : Resumed} (before : Point)
      (cycles : Cycles settings task reply choice shared before outcome) :
      Resumption settings task reply choice shared before outcome
  | writes (job : Job) (runs : job.Runs task) (writing : WriteFrame)
      (result : Shared × Progress WriteFrame Unit)
      (written : writing.resume settings task job.frame reply choice.pick shared = some result) :
      Resumption settings task reply choice shared (job.point writing) (job.proceed result)
  | maybeWrites (duty : Duty) (runs : duty.Runs task) (writing : MaybeWrite)
      (result : Shared × Progress MaybeWrite Bool)
      (written : writing.resume duty.frame reply shared = some result) :
      Resumption settings task reply choice shared (duty.point writing) (duty.proceed result)
  | quits (number : Nat) (own : task = .handler number) (delivery : Delivery) :
      Resumption settings task reply choice shared (.handling delivery)
        { shared, point := .handled }
  | ends (number : Nat) (own : task = .handler number) (delivery : Delivery) (suppressed : Bool) :
      Resumption settings task reply choice shared (.handling delivery)
        (handlerEnd delivery suppressed shared)
  | settles (number : Nat) (own : task = .handler number) (delivery : Delivery)
      (suppressed : Bool) {after : Shared} {frame : Frame} {progress : Progress MaybeWrite Bool}
      (type : frame.type = if suppressed then .nack else .ack)
      (effects : SettleStarts delivery (if suppressed then .nack else .ack) shared after frame
        progress) :
      Resumption settings task reply choice shared (.handling delivery)
        ((Duty.settle delivery frame suppressed).proceed (after, progress))

namespace Resumption

variable {settings : Settings} {task : TaskId} {reply : Reply} {choice : Choice} {shared : Shared}
  {resumed : Resumed}

theorem handlerReturned {number : Nat} (delivery : Delivery) (suppressed : Bool)
    (shared : Shared) :
    Resumption settings (.handler number) reply choice shared (.handling delivery)
      (handlerReturned delivery suppressed shared) := by
  unfold Stompman.handlerReturned
  split
  · exact .quits number rfl delivery
  · split
    · have effects := settle_effects delivery (if suppressed then .nack else .ack) shared
      have type := settle_type delivery (if suppressed then .nack else .ack) shared
      generalize settle delivery (if suppressed then .nack else .ack) shared = result
        at effects type
      obtain ⟨after, frame, progress⟩ := result
      have settles := @Resumption.settles settings _ reply choice shared number rfl delivery
        suppressed _ _ _ type effects
      cases progress <;> exact settles
    · exact .ends number rfl delivery suppressed

theorem handling {number : Nat} {delivery : Delivery}
    (resumes : (Point.handling delivery).resume settings (.handler number) reply choice shared =
      some resumed) :
    Resumption settings (.handler number) reply choice shared (.handling delivery) resumed := by
  simp only [Point.resume] at resumes
  split at resumes
  · obtain rfl := Option.some.inj resumes
    exact handlerReturned delivery false shared
  · split at resumes
    · obtain rfl := Option.some.inj resumes
      exact .quits number rfl delivery
    · obtain rfl := Option.some.inj resumes
      exact handlerReturned delivery true shared
  · obtain rfl := Option.some.inj resumes
    exact .quits number rfl delivery
  · contradiction

theorem job (job : Job) (runs : job.Runs task) {writing : WriteFrame}
    (resumes : (job.point writing).resume settings task reply choice shared = some resumed) :
    Resumption settings task reply choice shared (job.point writing) resumed := by
  rw [Job.resume_point runs] at resumes
  obtain ⟨result, written, rfl⟩ := Option.map_eq_some_iff.mp resumes
  exact .writes job runs writing result written

theorem duty (duty : Duty) (runs : duty.Runs task) {writing : MaybeWrite}
    (resumes : (duty.point writing).resume settings task reply choice shared = some resumed) :
    Resumption settings task reply choice shared (duty.point writing) resumed := by
  rw [Duty.resume_point runs] at resumes
  obtain ⟨result, written, rfl⟩ := Option.map_eq_some_iff.mp resumes
  exact .maybeWrites duty runs writing result written

/-- A task that stands at a position of its own does one of these things. -/
theorem of_resume {point : Point} (fits : point.Fits task)
    (resumes : point.resume settings task reply choice shared = some resumed) :
    Resumption settings task reply choice shared point resumed := by
  cases point with
  | starting =>
      obtain ⟨⟨after, progress⟩, connected, rfl⟩ := Option.map_eq_some_iff.mp resumes
      cases progress with
      | suspended => exact .starts fits after connected
      | returned connection => exact .enters fits after connection connected
      | raised failure => exact .refused fits after failure connected
  | sending frame writing => exact job (.send frame) fits resumes
  | subscribing subscription writing => exact job (.subscribe subscription) fits resumes
  | beginning writing =>
      obtain ⟨transaction, rfl⟩ := fits
      exact job (.begin transaction) rfl resumes
  | transacting failed frame writing =>
      obtain ⟨transaction, runs⟩ := fits
      exact job (.transact transaction failed frame) runs resumes
  | unsubscribing id writing => exact duty (.unsubscribe id) fits resumes
  | aborting writing =>
      obtain ⟨transaction, rfl⟩ := fits
      exact duty (.abort transaction) rfl resumes
  | committing writing =>
      obtain ⟨transaction, rfl⟩ := fits
      exact duty (.commit transaction) rfl resumes
  | settling delivery frame suppressed writing =>
      exact duty (.settle delivery frame suppressed) fits resumes
  | acknowledging delivery frame writing => exact duty (.acknowledge delivery frame) fits resumes
  | handling delivery =>
      obtain ⟨number, rfl⟩ := fits
      exact handling resumes
  | heartbeat point =>
      obtain ⟨generation, rfl⟩ := fits
      exact .cycles _ (.heartbeat generation resumes)
  | monitor point =>
      obtain ⟨generation, rfl⟩ := fits
      exact .cycles _ (.monitor generation resumes)
  | listener point =>
      obtain rfl : task = .listener := fits
      exact .cycles _ (.listener resumes)
  | _ => contradiction

/-- The starter creates the listener, the listener creates handlers, and no other task creates a
task. -/
theorem spawned {point : Point}
    (resumption : Resumption settings task reply choice shared point resumed) :
    resumed.spawned = none ∨
      (task = .starter ∧ resumed.spawned = some (.listener, .listener .created)) ∨
      task = .listener ∧ ∃ delivery,
        resumed.spawned = some (.handler delivery.number, .handling delivery) := by
  cases resumption with
  | starts => exact .inl rfl
  | enters own => exact .inr (.inl ⟨own, rfl⟩)
  | refused => exact .inl rfl
  | cycles _ cycles => exact cycles.spawned.imp_right .inr
  | writes job => exact .inl (job.spawned_proceed _)
  | maybeWrites duty => exact .inl (duty.spawned_proceed _)
  | quits => exact .inl rfl
  | ends => exact .inl rfl
  | settles => exact .inl (Duty.spawned_proceed _ _)

end Resumption

end Stompman
