import Stompman.Decomposition

/-!
# Acknowledgements stay on the connection of their message

The program links a message to its connection by the reconnection count alone.  The link is sound
because the lock is held only while no connection is active, so that a connection becomes active
only after the count has left the values at which earlier connections were read.
-/

namespace Stompman

open Foundation

namespace Shared

/-- While the lock is held no connection is active. -/
def Locked (shared : Shared) : Prop := shared.reconnect.isSome → shared.active = none

/-- A connection that was active at a reconnection count still is while the count has that value. -/
def Current (shared : Shared) (connection : ConnectionId) (epoch : Nat) : Prop :=
  epoch ≤ shared.reconnectionCount ∧
    (shared.reconnectionCount = epoch → shared.active = some connection)

/-- Transactions replay SEND frames. -/
def SendsOnly (shared : Shared) : Prop :=
  ∀ transaction, ∀ frame ∈ shared.sentFrames transaction, frame.type = .send

end Shared

/-- Frames that acknowledge a message. -/
def Frame.Settles (frame : Frame) : Prop := frame.type = .ack ∨ frame.type = .nack

/-- Events other than the receipt of a frame and the hand-over of an ACK or NACK. -/
def Event.Plain : Event → Prop
  | .received .. => False
  | .handed _ frame => ¬ frame.Settles
  | _ => True

/-- What every effect other than receiving and acknowledging leaves intact. -/
structure Follows (before after : Shared) : Prop where
  locked : before.Locked → after.Locked
  current : ∀ connection epoch, before.Locked → before.Current connection epoch →
    after.Current connection epoch
  trace : ∃ events, after.trace = before.trace ++ events ∧ ∀ event ∈ events, event.Plain
  deliveries : after.deliveries = before.deliveries
  sentFrames : after.sentFrames = before.sentFrames

namespace Follows

theorem trans {first second third : Shared} (left : Follows first second)
    (right : Follows second third) : Follows first third where
  locked := fun initial => right.locked (left.locked initial)
  current := fun connection epoch initial held =>
    right.current connection epoch (left.locked initial)
      (left.current connection epoch initial held)
  trace := by
    obtain ⟨before, before_eq, before_plain⟩ := left.trace
    obtain ⟨later, later_eq, later_plain⟩ := right.trace
    refine ⟨before ++ later, by rw [later_eq, before_eq, List.append_assoc], ?_⟩
    intro event member
    rcases List.mem_append.mp member with early | late
    · exact before_plain event early
    · exact later_plain event late
  deliveries := right.deliveries.trans left.deliveries
  sentFrames := right.sentFrames.trans left.sentFrames

/-- Effects that touch neither the connection nor the lock. -/
theorem of_same {before after : Shared} (active : after.active = before.active)
    (reconnect : after.reconnect = before.reconnect)
    (count : after.reconnectionCount = before.reconnectionCount)
    (trace : ∃ events, after.trace = before.trace ++ events ∧ ∀ event ∈ events, event.Plain)
    (deliveries : after.deliveries = before.deliveries)
    (sentFrames : after.sentFrames = before.sentFrames) : Follows before after where
  locked := by simp only [Shared.Locked, active, reconnect]; exact id
  current := by simp only [Shared.Current, active, count]; exact fun _ _ _ held => held
  trace := trace
  deliveries := deliveries
  sentFrames := sentFrames

theorem refl (shared : Shared) : Follows shared shared :=
  of_same rfl rfl rfl ⟨[], by simp, by simp⟩ rfl rfl

theorem emit (shared : Shared) (event : Event) (plain : event.Plain) :
    Follows shared (shared.emit event) :=
  of_same rfl rfl rfl ⟨[event], rfl, by simpa using plain⟩ rfl rfl

theorem hand (shared : Shared) (connection : ConnectionId) {frame : Frame}
    (other : ¬ frame.Settles) : Follows shared (shared.hand connection frame) :=
  emit shared (.handed connection frame) other

theorem noteWritten (shared : Shared) (connection : ConnectionId) (frame : Frame) :
    Follows shared (shared.noteWritten connection frame) :=
  emit shared (.wrote connection frame) trivial

/-- The holder of the lock moves on. -/
theorem hold (shared : Shared) (inactive : shared.Locked → shared.active = none)
    (reconnect : Reconnect) (phase : Phase) : Follows shared (shared.hold reconnect phase) where
  locked := fun locked _ => inactive locked
  current := fun _ _ _ held => held
  trace := ⟨[], by simp [Shared.hold], by simp⟩
  deliveries := rfl
  sentFrames := rfl

theorem leaveRace (shared : Shared) (pending : List Nat) :
    Follows shared (shared.leaveRace pending) where
  locked := fun _ held => by simp [Shared.leaveRace, Shared.release] at held
  current := fun _ _ _ held => held
  trace := ⟨[], by simp [Shared.leaveRace, Shared.release], by simp⟩
  deliveries := rfl
  sentFrames := rfl

theorem discard (shared : Shared) (connection : ConnectionId) :
    Follows shared (shared.discard connection) where
  locked := fun _ _ => rfl
  current := by
    intro other epoch _ held
    have bound := held.1
    refine ⟨?_, fun count => ?_⟩
    · simp only [Shared.discard]
      omega
    · simp only [Shared.discard] at count
      omega
  trace := ⟨[.discarded connection, .closed connection], by simp [Shared.discard, Shared.emit],
    by simp [Event.Plain]⟩
  deliveries := rfl
  sentFrames := rfl

theorem abandon (shared : Shared) (inactive : shared.Locked → shared.active = none)
    (reconnect : Reconnect) (connection : ConnectionId)
    (outcome : Except Failure ConnectionIssue) :
    Follows shared (shared.abandon reconnect connection outcome) :=
  (emit shared (.closed connection) trivial).trans (hold (shared.emit _) inactive _ _)

theorem activate (shared : Shared) (settings : Settings)
    (inactive : shared.Locked → shared.active = none) (connection : ConnectionId) :
    Follows shared (shared.activate settings connection) where
  locked := fun _ held => by simp [Shared.activate] at held
  current := by
    intro other epoch locked held
    refine ⟨held.1, fun count => ?_⟩
    have impossible := (inactive locked).symm.trans (held.2 count)
    contradiction
  trace := ⟨[.activated connection], rfl, by simp [Event.Plain]⟩
  deliveries := rfl
  sentFrames := rfl

theorem clearTransactions (shared : Shared) : Follows shared shared.clearTransactions :=
  of_same rfl rfl rfl ⟨[], by simp [Shared.clearTransactions], by simp⟩ rfl rfl

theorem not_settles_commitFrame (transaction : String) : ¬ (commitFrame transaction).Settles := by
  simp [Frame.Settles, commitFrame, transactionFrame, Frame.bodyless]

theorem not_settles_frame (subscription : Subscription) : ¬ subscription.frame.Settles := by
  simp [Frame.Settles, Subscription.frame, subscribeFrame, Frame.bodyless]

theorem not_settles_connectFrame (server : ConnectionParameters) (version : String)
    (heartbeat : Heartbeat) : ¬ (connectFrame server version heartbeat).Settles := by
  simp [Frame.Settles, connectFrame, Frame.bodyless]

theorem replayFrame (shared : Shared) (sends : shared.SendsOnly)
    (inactive : shared.Locked → shared.active = none) (reconnect : Reconnect)
    (connection : ConnectionId) (walk : Walk) (transaction : String) (index : Nat) :
    Follows shared (shared.replayFrame reconnect connection walk transaction index) := by
  unfold Shared.replayFrame
  split
  · rename_i frame found
    have is_send := sends transaction frame (List.mem_of_getElem? found)
    have other : ¬ frame.Settles := by simp [Frame.Settles, is_send]
    exact (hand shared connection other).trans (hold (shared.hand _ _) inactive _ _)
  · exact (hand shared connection (not_settles_commitFrame _)).trans
      (hold (shared.hand _ _) inactive _ _)

theorem ready {settings : Settings} {shared base : Shared} {connection : ConnectionId}
    {reply : Reply} {point : Enter} {rest : List Subscription} {walk : Walk}
    (ready : shared.Ready settings connection reply point base rest walk) :
    Follows shared base := by
  cases ready with
  | confirmed collected =>
      exact of_same rfl rfl rfl ⟨[], by simp [Shared.restartBackgroundTasks], by simp⟩ rfl rfl
  | resubscribed current => exact noteWritten _ _ _
  | committed walk current => exact noteWritten _ _ _

theorem startHandshake (shared : Shared) (settings : Settings)
    (inactive : shared.Locked → shared.active = none) (reconnect : Reconnect) (pending : List Nat)
    (server : ConnectionParameters) :
    Follows shared (shared.startHandshake settings reconnect pending server) where
  locked := fun locked _ => inactive locked
  current := fun _ _ _ held => held
  trace := ⟨_, List.append_assoc _ _ _, by
    simp [Event.Plain, not_settles_connectFrame]⟩
  deliveries := rfl
  sentFrames := rfl

theorem reconnects {settings : Settings} {task : TaskId} {shared after : Shared} {reply : Reply}
    {progress : Progress Unit ConnectionId} (sends : shared.SendsOnly)
    (effects : shared.Reconnects settings task reply after progress) : Follows shared after := by
  have inactive : ∀ {reconnect}, shared.reconnect = some reconnect →
      shared.Locked → shared.active = none := by
    intro reconnect held locked
    exact locked (by rw [held]; rfl)
  have based : ∀ {connection point base rest walk},
      shared.Ready settings connection reply point base rest walk →
      base.SendsOnly ∧ (∀ {reconnect}, shared.reconnect = some reconnect →
        base.Locked → base.active = none) := by
    intro connection point base rest walk ready
    refine ⟨?_, ?_⟩
    · simpa only [Shared.SendsOnly, (Follows.ready ready).sentFrames] using sends
    · intro reconnect held locked
      apply locked
      cases ready <;> exact Option.isSome_of_mem held
  cases effects with
  | interrupted => exact refl _
  | found => exact refl _
  | races issues calm idle pending =>
      refine hold _ (fun locked => ?_) _ _
      rcases idle with none_active | held
      · exact none_active
      · exact locked held
  | sleeps issues calm idle =>
      refine hold _ (fun locked => ?_) _ _
      rcases idle with none_active | held
      · exact none_active
      · exact locked held
  | leaves calm pending => exact leaveRace _ _
  | opens reconnect held owned calm pending server => exact startHandshake _ _ (inactive held) _ _ _
  | fails reconnect held owned connection point phase reason outcome =>
      exact abandon _ (inactive held) _ _ _
  | asks reconnect held owned connection server phase =>
      exact (noteWritten _ _ _).trans (hold (shared.noteWritten _ _) (inactive held) _ _)
  | collects reconnect held => exact hold _ (inactive held) _ _
  | subscribes reconnect held owned connection point phase subscription remaining ready =>
      exact (Follows.ready ready).trans ((hand _ _ (not_settles_frame _)).trans
        (hold (Shared.hand _ _ _) ((based ready).2 held) _ _))
  | replays reconnect held owned connection walk current index frame phase =>
      exact (noteWritten _ _ _).trans
        (replayFrame (shared.noteWritten _ _) sends (inactive held) _ _ _ _ _)
  | picks reconnect held owned connection point phase ready transaction =>
      exact (Follows.ready ready).trans
        (replayFrame _ (based ready).1 ((based ready).2 held) _ _ _ _ _)
  | changed reconnect held owned connection point phase ready =>
      exact (Follows.ready ready).trans (abandon _ ((based ready).2 held) _ _ _)
  | finishes reconnect held owned connection point phase ready =>
      exact (Follows.ready ready).trans ((clearTransactions _).trans
        (activate (Shared.clearTransactions _) _ ((based ready).2 held) _))

theorem admits : Admits (fun frame => ¬ frame.Settles) Follows where
  refl := refl
  trans := trans
  hand shared connection _ := hand shared connection
  noteWritten := noteWritten
  discard shared connection _ := discard shared connection

end Follows

/-! ## The invariant -/

/-- The listener has received the message of a delivery. -/
def Shared.Received (shared : Shared) (delivery : Delivery) : Prop :=
  .received delivery.number delivery.connection delivery.receivedAtReconnectionCount
    (.frame delivery.message) ∈ shared.trace

/-- What the position of a task says about where its messages come from, and that other writes do
not acknowledge. -/
def Point.Sourced (shared : Shared) : Point → Prop
  | .sending frame _ => ¬ frame.Settles
  | .transacting _ frame _ => ¬ frame.Settles
  | .listener (.reading connection epoch) => shared.Current connection epoch
  | .listener (.acquiring delivery) =>
      shared.Received delivery ∧
        shared.Current delivery.connection delivery.receivedAtReconnectionCount
  | .handling delivery => shared.Received delivery
  | _ => True

/-- The invariant behind the acknowledgement of messages. -/
structure Consistent (state : State) : Prop where
  locked : state.shared.Locked
  epochs : ∀ number connection epoch frame,
    .received number connection epoch frame ∈ state.shared.trace →
      state.shared.Current connection epoch
  sends : state.shared.SendsOnly
  deliveries : ∀ delivery ∈ state.shared.deliveries, state.shared.Received delivery
  tasks : ∀ task, (state.tasks task).Sourced state.shared

/-- Every ACK or NACK among the events is for a message from the same connection, carries the `ack`
header of that message and belongs to an active subscription. -/
def Justified (shared : Shared) (events : List Event) : Prop :=
  ∀ connection frame, frame.Settles → .handed connection frame ∈ events →
    ∃ number epoch message ackId id,
      .acknowledged number connection frame ∈ events ∧
        .received number connection epoch (.frame message) ∈ shared.trace ∧
        message.type = .message ∧ message.headers.get? "ack" = some ackId ∧
        frame = settleFrame frame.type ackId id ∧
        shared.subscriptions.containsById id = true

/-- A step keeps the invariant and justifies its acknowledgements. -/
structure Accountable (before after : State) : Prop where
  consistent : Consistent after
  justified : ∃ events, after.shared.trace = before.shared.trace ++ events ∧
    Justified before.shared events

theorem Point.Sourced.of_current {before after : Shared} {point : Point}
    (grows : before.trace ⊆ after.trace)
    (current : ∀ connection epoch, before.Current connection epoch →
      after.Current connection epoch)
    (sourced : point.Sourced before) : point.Sourced after := by
  cases point with
  | listener listening =>
      cases listening with
      | reading connection epoch => exact current _ _ sourced
      | acquiring delivery => exact ⟨grows sourced.1, current _ _ sourced.2⟩
      | _ => trivial
  | handling delivery => exact grows sourced
  | sending => exact sourced
  | transacting => exact sourced
  | _ => trivial

section Store

variable {state : State} {task : TaskId} {resumed : Resumed}

/-- The parts of the invariant that a step has to show. -/
theorem Consistent.store (consistent : Consistent state) (locked : resumed.shared.Locked)
    (current : ∀ connection epoch, state.shared.Current connection epoch →
      resumed.shared.Current connection epoch)
    (grows : state.shared.trace ⊆ resumed.shared.trace)
    (received : ∀ number connection epoch frame,
      .received number connection epoch frame ∈ resumed.shared.trace →
        .received number connection epoch frame ∈ state.shared.trace ∨
          resumed.shared.Current connection epoch)
    (sends : resumed.shared.SendsOnly)
    (deliveries : ∀ delivery ∈ resumed.shared.deliveries,
      delivery ∈ state.shared.deliveries ∨ resumed.shared.Received delivery)
    (point : resumed.point.Sourced resumed.shared)
    (created : ∀ other point, resumed.spawned = some (other, point) →
      point.Sourced resumed.shared) :
    Consistent (state.store task resumed) where
  locked := locked
  epochs := by
    intro number connection epoch frame member
    rcases received number connection epoch frame member with old | fresh
    · exact current _ _ (consistent.epochs _ _ _ _ old)
    · exact fresh
  sends := sends
  deliveries := by
    intro delivery member
    rcases deliveries delivery member with old | fresh
    · exact grows (consistent.deliveries delivery old)
    · exact fresh
  tasks := by
    have others : ∀ other, other ≠ task → (state.tasks other).Sourced resumed.shared :=
      fun other _ => (consistent.tasks other).of_current grows current
    exact State.forall_tasks_store (fun _ point => point.Sourced resumed.shared) others point
      created

/-- Effects that neither receive nor acknowledge. -/
structure Quietly (shared : Shared) (resumed : Resumed) : Prop where
  follows : Follows shared resumed.shared
  point : resumed.point.Sourced resumed.shared
  created : ∀ other point, resumed.spawned = some (other, point) → point.Sourced resumed.shared

theorem Consistent.quietly (consistent : Consistent state) (quiet : Quietly state.shared resumed) :
    Accountable state (state.store task resumed) := by
  obtain ⟨events, trace_eq, plain⟩ := quiet.follows.trace
  refine ⟨consistent.store (quiet.follows.locked consistent.locked) ?_ ?_ ?_ ?_ ?_ quiet.point
    quiet.created, events, trace_eq, ?_⟩
  · exact fun connection epoch => quiet.follows.current connection epoch consistent.locked
  · rw [trace_eq]
    exact List.subset_append_left _ _
  · intro number connection epoch frame member
    rw [trace_eq, List.mem_append] at member
    rcases member with old | fresh
    · exact .inl old
    · exact absurd (plain _ fresh) id
  · simpa only [Shared.SendsOnly, quiet.follows.sentFrames] using consistent.sends
  · rw [quiet.follows.deliveries]
    exact fun delivery member => .inl member
  · intro connection frame settles member
    exact absurd settles (plain _ member)

end Store

/-! ## Steps that neither receive nor acknowledge -/

theorem not_settles_transactionFrame {type : FrameType} (other : type ≠ .ack ∧ type ≠ .nack)
    (transaction : String) : ¬ (transactionFrame type transaction).Settles := by
  simp [Frame.Settles, transactionFrame, Frame.bodyless, other]

theorem not_settles_sendFrame (arguments : SendArguments) (transaction : Option String) :
    ¬ (sendFrame arguments transaction).Settles := by
  simp [Frame.Settles, sendFrame]

theorem Job.not_settles {task : TaskId} {job : Job} (runs : job.Runs task) :
    ¬ job.frame.Settles := by
  cases job with
  | send =>
      obtain ⟨-, arguments, rfl⟩ := runs
      exact not_settles_sendFrame arguments none
  | subscribe subscription => exact Follows.not_settles_frame subscription
  | begin transaction => exact not_settles_transactionFrame (by decide) transaction
  | transact transaction =>
      obtain ⟨-, arguments, rfl⟩ := runs
      exact not_settles_sendFrame arguments (some transaction)

namespace Quietly

variable {before shared : Shared}

theorem of_follows {point : Point} (follows : Follows before shared)
    (sourced : point.Sourced shared) : Quietly before { shared, point } :=
  ⟨follows, sourced, by simp⟩

theorem trans {resumed : Resumed} (first : Follows before shared)
    (second : Quietly shared resumed) : Quietly before resumed :=
  ⟨first.trans second.follows, second.point, second.created⟩

theorem subscriptions (shared : Shared) (active : ActiveSubscriptions) :
    Follows shared { shared with subscriptions := active } :=
  .of_same rfl rfl rfl ⟨[], by simp, by simp⟩ rfl rfl

theorem addTransaction (shared : Shared) (id : String) :
    Follows shared (shared.addTransaction id) := by
  unfold Shared.addTransaction
  split
  · exact .refl _
  · exact .of_same rfl rfl rfl ⟨[], by simp, by simp⟩ rfl rfl

theorem removeTransaction (id : String) (shared : Shared) :
    Quietly shared (removeTransaction id shared) := by
  unfold Stompman.removeTransaction
  split
  · exact of_follows (.of_same rfl rfl rfl ⟨[], by simp [Shared.removeTransaction], by simp⟩
      rfl rfl) trivial
  · exact of_follows (.refl _) trivial

theorem handlerEnd (delivery : Delivery) (suppressed : Bool) (shared : Shared) :
    Quietly shared (handlerEnd delivery suppressed shared) := by
  unfold Stompman.handlerEnd
  split
  · exact of_follows (.emit _ _ trivial) trivial
  · exact of_follows (.refl _) trivial

/-- The rest of a job. -/
theorem jobProceed {task : TaskId} (job : Job) (runs : job.Runs task)
    (result : Shared × Progress WriteFrame Unit) : Quietly result.1 (job.proceed result) := by
  have other := Job.not_settles runs
  obtain ⟨shared, progress⟩ := result
  cases progress with
  | suspended =>
      cases job with
      | send => exact of_follows (.refl _) other
      | transact => exact of_follows (.refl _) other
      | _ => exact of_follows (.refl _) trivial
  | returned =>
      cases job with
      | subscribe => exact of_follows (subscriptions _ _) trivial
      | begin => exact of_follows (addTransaction _ _) trivial
      | _ => exact of_follows (.refl _) trivial
  | raised => cases job <;> exact of_follows (.refl _) trivial

theorem jobStarts (settings : Settings) {task : TaskId} (job : Job) (runs : job.Runs task)
    (shared : Shared) :
    Quietly shared (job.proceed (WriteFrame.start settings job.frame shared)) :=
  trans (Follows.admits.attempts (Job.not_settles runs) (start_effects settings job.frame shared))
    (jobProceed job runs _)

/-- The rest of a duty. -/
theorem dutyProceed (duty : Duty) (result : Shared × Progress MaybeWrite Bool) :
    Quietly result.1 (duty.proceed result) := by
  obtain ⟨shared, progress⟩ := result
  cases progress with
  | suspended => cases duty <;> exact of_follows (.refl _) trivial
  | returned written =>
      cases duty with
      | unsubscribe => exact of_follows (.emit _ _ trivial) trivial
      | abort => exact removeTransaction _ _
      | commit =>
          cases written with
          | true => exact removeTransaction _ _
          | false => exact of_follows (.refl _) trivial
      | settle => exact handlerEnd _ _ _
      | acknowledge => exact of_follows (.refl _) trivial
  | raised => cases duty <;> exact of_follows (.refl _) trivial

theorem dutyStarts (duty : Duty) (other : ¬ duty.frame.Settles) (shared : Shared) :
    Quietly shared (duty.proceed (MaybeWrite.start duty.frame shared)) :=
  trans (Follows.admits.maybeStarts other (maybeStart_effects duty.frame shared))
    (dutyProceed duty _)

end Quietly

theorem Shared.current_of_active {shared : Shared} {connection : ConnectionId}
    (active : shared.active = some connection) :
    shared.Current connection shared.reconnectionCount :=
  ⟨Nat.le_refl _, fun _ => active⟩

theorem Point.Rests.sourced {task : TaskId} {shared : Shared} {point : Point}
    (rests : point.Rests task shared) : point.Sourced shared := by
  cases point with
  | listener point =>
      cases point with
      | reading connection epoch =>
          obtain ⟨-, active, rfl⟩ := rests
          exact Shared.current_of_active active
      | acquiring => exact rests.elim
      | _ => trivial
  | raised => trivial
  | heartbeat => trivial
  | monitor => trivial
  | _ => exact rests.elim

theorem Point.Reconnects.sourced {shared : Shared} {point : Point} (inside : point.Reconnects) :
    point.Sourced shared := by
  cases point with
  | heartbeat => trivial
  | listener point =>
      cases point with
      | connecting => trivial
      | _ => exact inside.elim
  | _ => exact inside.elim

theorem Quietly.tends {task : TaskId} {shared : Shared} {resumed : Resumed}
    (tends : Tends task shared resumed) : Quietly shared resumed := by
  cases tends with
  | rests point rests => exact of_follows (.refl _) rests.sourced
  | beats generation own connection => exact of_follows (.emit _ _ trivial) trivial
  | discards connection active point rests => exact of_follows (.discard _ _) rests.sourced

/-! ## The listener -/

section Listener

variable {state : State} {task : TaskId} {shared : Shared}

/-- What the listener does to the shared state when it takes a frame. -/
structure Takes (state : State) (shared : Shared) : Prop where
  active : shared.active = state.shared.active
  reconnect : shared.reconnect = state.shared.reconnect
  count : shared.reconnectionCount = state.shared.reconnectionCount
  sentFrames : shared.sentFrames = state.shared.sentFrames
  deliveries : ∀ delivery ∈ shared.deliveries,
    delivery ∈ state.shared.deliveries ∨ shared.Received delivery
  trace : ∃ events, shared.trace = state.shared.trace ++ events ∧
    (∀ connection frame, .handed connection frame ∉ events) ∧
    ∀ number connection epoch frame, .received number connection epoch frame ∈ events →
      state.shared.Current connection epoch

theorem Takes.accountable (consistent : Consistent state) {resumed : Resumed}
    (takes : Takes state resumed.shared) (point : resumed.point.Sourced resumed.shared)
    (created : ∀ other point, resumed.spawned = some (other, point) →
      point.Sourced resumed.shared) :
    Accountable state (state.store task resumed) := by
  obtain ⟨events, trace_eq, not_handed, received⟩ := takes.trace
  have current : ∀ connection epoch, state.shared.Current connection epoch →
      resumed.shared.Current connection epoch := by
    simp only [Shared.Current, takes.active, takes.count]
    exact fun _ _ held => held
  refine ⟨consistent.store ?_ current ?_ ?_ ?_ takes.deliveries point created,
    events, trace_eq, ?_⟩
  · simpa only [Shared.Locked, takes.active, takes.reconnect] using consistent.locked
  · rw [trace_eq]
    exact List.subset_append_left _ _
  · intro number connection epoch frame member
    rw [trace_eq, List.mem_append] at member
    rcases member with old | fresh
    · exact .inl old
    · exact .inr (current _ _ (received _ _ _ _ fresh))
  · simpa only [Shared.SendsOnly, takes.sentFrames] using consistent.sends
  · intro connection frame _ member
    exact absurd member (not_handed connection frame)

theorem Shared.Received.createHandler {delivery other : Delivery}
    (received : shared.Received other) :
    (ListenerPoint.createHandler delivery shared).shared.Received other :=
  List.mem_append_left _ received

theorem Takes.createHandler (takes : Takes state shared) (delivery : Delivery)
    (received : shared.Received delivery) :
    Takes state (ListenerPoint.createHandler delivery shared).shared where
  active := takes.active
  reconnect := takes.reconnect
  count := takes.count
  sentFrames := takes.sentFrames
  deliveries := by
    intro other member
    have listed : other ∈ shared.deliveries ∨ other = delivery := by
      simp only [ListenerPoint.createHandler] at member
      split at member
      · simpa using member
      · exact .inl member
    rcases listed with old | rfl
    · exact (takes.deliveries other old).imp id fun member => member.createHandler
    · exact .inr received.createHandler
  trace := by
    obtain ⟨events, trace_eq, not_handed, current⟩ := takes.trace
    refine ⟨events ++ [.created delivery.number delivery.subscription], ?_, ?_, ?_⟩
    · simp [ListenerPoint.createHandler, Shared.emit, trace_eq]
    · simpa using not_handed
    · simpa using current

theorem Takes.accountable_createHandler (consistent : Consistent state)
    (takes : Takes state shared) (delivery : Delivery) (received : shared.Received delivery)
    (current : state.shared.Current delivery.connection delivery.receivedAtReconnectionCount) :
    Accountable state (state.store task (ListenerPoint.createHandler delivery shared)) := by
  have taken := takes.createHandler delivery received
  refine taken.accountable consistent ?_ ?_
  · show (ListenerPoint.createHandler delivery shared).shared.Current _ _
    rw [Shared.Current, taken.active, taken.count]
    exact current
  · intro other point spawned
    obtain ⟨rfl, rfl⟩ : TaskId.handler delivery.number = other ∧
        Point.handling delivery = point := by
      simpa [ListenerPoint.createHandler] using spawned
    exact received.createHandler

theorem Takes.dispatch (state : State) {connection : ConnectionId} {epoch : Nat}
    (current : state.shared.Current connection epoch) (frame : AnyFrame) :
    Takes state
      { state.shared.emit (.received state.shared.messages connection epoch frame) with
        messages := state.shared.messages + 1 } where
  active := rfl
  reconnect := rfl
  count := rfl
  sentFrames := rfl
  deliveries := fun delivery member => .inl member
  trace := by
    refine ⟨[.received state.shared.messages connection epoch frame], rfl, by simp, ?_⟩
    intro number other otherEpoch otherFrame member
    simp only [List.mem_singleton, Event.received.injEq] at member
    obtain ⟨-, rfl, rfl, -⟩ := member
    exact current

theorem Consistent.dispatches (consistent : Consistent state) {connection : ConnectionId}
    {epoch : Nat} (current : state.shared.Current connection epoch) {frame : AnyFrame}
    {resumed : Resumed} (dispatches : Dispatches connection epoch state.shared frame resumed) :
    Accountable state (state.store task resumed) := by
  have takes := Takes.dispatch state current frame
  cases dispatches with
  | passes => exact takes.accountable consistent current (by simp)
  | misses => exact takes.accountable consistent trivial (by simp)
  | acquires =>
      exact takes.accountable consistent
        ⟨List.mem_append_right _ (List.mem_singleton_self _), current⟩ (by simp)
  | creates =>
      exact takes.accountable_createHandler consistent _
        (List.mem_append_right _ (List.mem_singleton_self _)) current

theorem Consistent.cycles {settings : Settings} (consistent : Consistent state) {reply : Reply}
    {choice : Choice} {point : Point} (standing : point.Sourced state.shared) {resumed : Resumed}
    (cycles : Cycles settings task reply choice state.shared point resumed) :
    Accountable state (state.store task resumed) := by
  cases cycles with
  | waits _ inside connecting =>
      have follows := Follows.reconnects consistent.sends
        (Shared.reconnects_resumeConnecting connecting)
      exact consistent.quietly (.of_follows follows inside.sourced)
  | leaves _ inside connecting ended tends =>
      have follows := Follows.reconnects consistent.sends
        (Shared.reconnects_resumeConnecting connecting)
      exact consistent.quietly (.trans follows (.tends tends))
  | tends _ tending tends => exact consistent.quietly (.tends tends)
  | takes own connection epoch frame replied dispatches =>
      exact consistent.dispatches standing dispatches
  | creates own delivery free =>
      have takes : Takes state { state.shared with permits := some free } :=
        ⟨rfl, rfl, rfl, rfl, fun _ member => .inl member, [], by simp, by simp, by simp⟩
      exact takes.accountable_createHandler consistent delivery standing.1 standing.2
  | stops => exact consistent.quietly (.of_follows (.refl _) trivial)

end Listener

/-! ## Acknowledging -/

section Settle

variable {state : State} {task : TaskId}

/-- An acknowledgement that is handed over goes to the connection of its message. -/
theorem Consistent.settles (consistent : Consistent state) {delivery : Delivery} {type : FrameType}
    (received : state.shared.Received delivery) {shared : Shared} {frame : Frame}
    {progress : Progress MaybeWrite Bool}
    (effects : SettleStarts delivery type state.shared shared frame progress) {resumed : Resumed}
    (quiet : Quietly shared resumed) : Accountable state (state.store task resumed) := by
  cases effects with
  | refuses => exact consistent.quietly quiet
  | hands ackId acked registered unchanged connection active =>
      have origin : connection = delivery.connection := by
        have current := (consistent.epochs _ _ _ _ received).2 unchanged.symm
        rw [active] at current
        exact Option.some.inj current
      obtain ⟨events, trace_eq, plain⟩ := quiet.follows.trace
      set frame := settleFrame type ackId delivery.subscription.id with frame_eq
      have whole : resumed.shared.trace = state.shared.trace ++
          (.handed connection frame :: .acknowledged delivery.number connection frame ::
            events) := by
        rw [trace_eq]
        simp [Shared.hand, Shared.emit]
      refine ⟨consistent.store (quiet.follows.locked consistent.locked) ?_ ?_ ?_ ?_ ?_ quiet.point
        quiet.created, _, whole, ?_⟩
      · exact fun other epoch => quiet.follows.current other epoch consistent.locked
      · rw [whole]
        exact List.subset_append_left _ _
      · intro number other epoch otherFrame member
        simp only [whole, List.mem_append, List.mem_cons, reduceCtorEq, false_or] at member
        rcases member with old | fresh
        · exact .inl old
        · exact absurd (plain _ fresh) id
      · rw [Shared.SendsOnly, quiet.follows.sentFrames]
        exact consistent.sends
      · rw [quiet.follows.deliveries]
        exact fun other member => .inl member
      · intro other otherFrame settles member
        simp only [List.mem_cons, Event.handed.injEq, reduceCtorEq, false_or] at member
        rcases member with ⟨rfl, rfl⟩ | later
        · refine ⟨delivery.number, delivery.receivedAtReconnectionCount, delivery.message, ackId,
            delivery.subscription.id, by simp, ?_, delivery.isMessage, acked, rfl, registered⟩
          rw [origin]
          exact received
        · exact absurd settles (plain _ later)

end Settle

/-! ## All steps -/

theorem Consistent.resume {settings : Settings} {state : State} (consistent : Consistent state)
    (fits : state.Fits) {task : TaskId} {reply : Reply} {choice : Choice} {resumed : Resumed}
    (resumes : (state.tasks task).resume settings task reply choice state.shared = some resumed) :
    Accountable state (state.store task resumed) := by
  have standing := consistent.tasks task
  have resumption := Resumption.of_resume (fits.tasks task) resumes
  have connects : ∀ {after : Shared} {progress : Progress Unit ConnectionId},
      state.shared.resumeConnecting settings task reply choice.pick = some (after, progress) →
      Follows state.shared after :=
    fun connecting =>
      Follows.reconnects consistent.sends (Shared.reconnects_resumeConnecting connecting)
  generalize state.tasks task = point at resumption standing
  cases resumption with
  | starts own after connecting =>
      exact consistent.quietly (.of_follows (connects connecting) trivial)
  | enters own after connection connecting =>
      refine consistent.quietly ⟨(connects connecting).trans ?_, trivial, ?_⟩
      · exact .of_same rfl rfl rfl ⟨[], by simp, by simp⟩ rfl rfl
      · intro other point spawned
        obtain ⟨rfl, rfl⟩ := Prod.mk.inj (Option.some.inj spawned)
        trivial
  | refused own after failure connecting =>
      exact consistent.quietly (.of_follows (connects connecting) trivial)
  | cycles _ cycles => exact consistent.cycles standing cycles
  | writes job runs writing result written =>
      have follows := Follows.admits.writes (Job.not_settles runs)
        (Follows.reconnects consistent.sends) (resume_effects written)
      exact consistent.quietly (.trans follows (.jobProceed job runs result))
  | maybeWrites duty runs writing result written =>
      have follows := Follows.admits.maybeWrites (maybeResume_effects written)
      exact consistent.quietly (.trans follows (.dutyProceed duty result))
  | quits => exact consistent.quietly (.of_follows (.refl _) trivial)
  | ends => exact consistent.quietly (.handlerEnd _ _ _)
  | settles number own delivery suppressed type effects =>
      exact consistent.settles standing effects (.dutyProceed _ (_, _))

theorem Consistent.called {state : State} (consistent : Consistent state) (id : String)
    (arguments : SendArguments) :
    Consistent
      { state with shared := state.shared.appendSent id (sendFrame arguments (some id)) } := by
  have grows : state.shared.trace ⊆
      (state.shared.appendSent id (sendFrame arguments (some id))).trace :=
    List.subset_append_left _ _
  refine ⟨consistent.locked, ?_, ?_, fun delivery member => grows (consistent.deliveries _ member),
    fun task => (consistent.tasks task).of_current grows fun _ _ held => held⟩
  · intro number connection epoch frame member
    refine consistent.epochs number connection epoch frame ?_
    simpa [Shared.appendSent, Shared.emit] using member
  · intro transaction frame member
    by_cases same : transaction = id
    · subst same
      simp only [Shared.appendSent, Function.update_self, List.mem_append, List.mem_singleton]
        at member
      rcases member with old | rfl
      · exact consistent.sends transaction frame old
      · rfl
    · simp only [Shared.appendSent, Function.update_of_ne same] at member
      exact consistent.sends transaction frame member

theorem Accountable.after_called {state after : State} {id : String} {frame : Frame}
    (accountable : Accountable { state with shared := state.shared.appendSent id frame } after) :
    Accountable state after := by
  obtain ⟨events, trace_eq, justified⟩ := accountable.justified
  refine ⟨accountable.consistent, .called id frame :: events, ?_, ?_⟩
  · rw [trace_eq]
    simp [Shared.appendSent, Shared.emit]
  · intro connection other settles member
    rw [List.mem_cons] at member
    rcases member with impossible | later
    · simp at impossible
    · obtain ⟨number, epoch, message, ackId, subscription, acknowledged, received, rest⟩ :=
        justified connection other settles later
      refine ⟨number, epoch, message, ackId, subscription, List.mem_cons_of_mem _ acknowledged, ?_,
        rest⟩
      simpa [Shared.appendSent, Shared.emit] using received

theorem Consistent.step {settings : Settings} {state after : State} (consistent : Consistent state)
    (fits : state.Fits) {action : Action}
    (stepped : Stompman.step settings state action = some after) : Accountable state after := by
  cases steps_of_step stepped with
  | enter => exact consistent.quietly (.of_follows (.refl _) trivial)
  | send number arguments =>
      exact consistent.quietly
        (.jobStarts settings (.send _) ⟨⟨number, rfl⟩, arguments, rfl⟩ state.shared)
  | subscribe subscription =>
      exact consistent.quietly (.jobStarts settings (.subscribe subscription) rfl state.shared)
  | unsubscribe number id =>
      have deleted := (Follows.emit state.shared (.unsubscribing id) trivial).trans
        (Quietly.subscriptions _ (state.shared.subscriptions.deleteById id))
      have other : ¬ (unsubscribeFrame id).Settles := by
        simp [Frame.Settles, unsubscribeFrame, Frame.bodyless]
      exact consistent.quietly (.trans deleted (.dutyStarts (.unsubscribe id) other _))
  | begin id => exact consistent.quietly (.jobStarts settings (.begin id) rfl state.shared)
  | transactionSend id arguments failed =>
      have called := consistent.called id arguments
      exact (called.quietly (.jobStarts settings (.transact id failed _) ⟨rfl, arguments, rfl⟩ _))
        |>.after_called
  | commit id =>
      have left := Follows.emit state.shared (.exited id true) trivial
      have other : ¬ (commitFrame id).Settles := not_settles_transactionFrame (by decide) id
      rw [← Duty.proceed_commit]
      exact consistent.quietly (.trans left (.dutyStarts (.commit id) other _))
  | abort id =>
      have left := Follows.emit state.shared (.exited id false) trivial
      have other : ¬ (abortFrame id).Settles := not_settles_transactionFrame (by decide) id
      exact consistent.quietly (.trans left (.dutyStarts (.abort id) other _))
  | acknowledge number index type delivery found =>
      have received := consistent.deliveries delivery (List.mem_of_getElem? found)
      exact consistent.settles received (settle_effects _ _ _)
        (.dutyProceed (.acknowledge delivery _) (_, (settle delivery type state.shared).2.2))
  | resume task reply choice created resumes => exact consistent.resume fits resumes
  | opens server =>
      rw [← State.store_unchanged state .starter]
      refine consistent.quietly ⟨?_, ?_, by simp⟩
      · exact .of_same rfl rfl rfl ⟨[.opened state.shared.connections], rfl, by
          simp [Event.Plain]⟩ rfl rfl
      · exact (consistent.tasks .starter).of_current (List.subset_append_left _ _)
          (fun _ _ held => held)
  | refuses server =>
      rw [← State.store_unchanged state .starter]
      refine consistent.quietly ⟨?_, ?_, by simp⟩
      · exact .of_same rfl rfl rfl ⟨[], by simp, by simp⟩ rfl rfl
      · exact (consistent.tasks .starter).of_current (List.Subset.refl _) (fun _ _ held => held)
  | release message =>
      exact consistent.quietly
        ⟨.of_same rfl rfl rfl ⟨[], by simp, by simp⟩ rfl rfl, trivial, by simp⟩

theorem consistent_initial (settings : Settings) : Consistent (client settings).initial where
  locked := fun held => by simp [client] at held
  epochs := by simp [client]
  sends := by simp [client, Shared.SendsOnly]
  deliveries := by simp [client]
  tasks := by
    intro task
    cases task <;> trivial

theorem consistent_of_reachable {settings : Settings} {state : State}
    (reach : (client settings).Reachable state) : Consistent state :=
  System.Reaches.invariant (consistent_initial settings)
    (fun reached consistent _ stepped =>
      (consistent.step (fits_of_reaches reached) stepped).consistent) reach

/-- Whenever an ACK or NACK is handed to a connection, it acknowledges a MESSAGE that was received
from this very connection, carries the `ack` header of that message and belongs to a subscription
that is active at that moment. -/
theorem acknowledgement_on_origin {settings : Settings} {state after : State} {action : Action}
    (reach : (client settings).Reachable state)
    (stepped : (client settings).step state action = some after) {events : List Event}
    (happened : after.shared.trace = state.shared.trace ++ events) {connection : ConnectionId}
    {frame : Frame} (settles : frame.type = .ack ∨ frame.type = .nack)
    (handed : .handed connection frame ∈ events) :
    ∃ number epoch message ackId id,
      .acknowledged number connection frame ∈ events ∧
        .received number connection epoch (.frame message) ∈ state.shared.trace ∧
        message.type = .message ∧ message.headers.get? "ack" = some ackId ∧
        frame = settleFrame frame.type ackId id ∧
        state.shared.subscriptions.containsById id = true := by
  obtain ⟨others, trace_eq, justified⟩ :=
    ((consistent_of_reachable reach).step (fits_of_reaches reach) stepped).justified
  obtain rfl : others = events := List.append_cancel_left (trace_eq.symm.trans happened)
  exact justified connection frame settles handed

/-- The client subscribes and the listener reads a message. -/
def receives : List Action :=
  enters ++ [.subscribe plainSubscription, returns (.subscribe "1"),
    .resume .listener (.frame (.frame plainMessage)) {}]

/-- The ACK of this message. -/
def plainAck : Frame := settleFrame .ack "a" "1"

/-- What happens when its handler returns. -/
def plainAcknowledgement : List Event := [.handed 0 plainAck, .acknowledged 0 0 plainAck]

theorem acknowledgement_on_origin_sample :
    ∃ state after, (client plainSettings).Reachable state ∧
      (client plainSettings).step state (returns (.handler 0)) = some after ∧
      after.shared.trace = state.shared.trace ++ plainAcknowledgement ∧
      ∃ number epoch message ackId id,
        .acknowledged number 0 plainAck ∈ plainAcknowledgement ∧
          .received number 0 epoch (.frame message) ∈ state.shared.trace ∧
          message.type = .message ∧ message.headers.get? "ack" = some ackId ∧
          plainAck = settleFrame plainAck.type ackId id ∧
          state.shared.subscriptions.containsById id = true := by
  have replayed : ((client plainSettings).replay (fun _ _ => true) (client plainSettings).initial
      receives).map (fun state =>
        ((client plainSettings).step state (returns (.handler 0))).any fun after =>
          after.shared.trace = state.shared.trace ++ plainAcknowledgement) = some true := by
    decide +kernel
  obtain ⟨state, reach, acknowledges⟩ := System.exists_of_replay (fun _ _ _ => trivial) replayed
  obtain ⟨after, stepped, happened⟩ := (Option.any_eq_true _ _).mp acknowledges
  have happened := of_decide_eq_true happened
  have handed : .handed 0 plainAck ∈ plainAcknowledgement := List.mem_cons_self
  exact ⟨state, after, reach, stepped, happened,
    acknowledgement_on_origin reach stepped happened (.inl rfl) handed⟩

end Stompman
