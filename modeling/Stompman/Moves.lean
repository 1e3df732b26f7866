import Mathlib.Logic.Relation
import Stompman.Effects

/-!
# What one step of the client can do

A step is cut into a beginning, which is what the call or the reply itself brings about, and the
reactions of the resumed task up to its next `await`.  Both are listed here once for all tasks; the
invariants of transactions and subscriptions are proved from these lists.
-/

namespace Stompman

open Foundation Relation

/-! ## Jobs and duties -/

/-- Calls of `write_frame_reconnecting`. -/
inductive Job
  | send (frame : Frame)
  | subscribe (subscription : Subscription)
  | begin (transaction : String)
  | transact (transaction : String) (failed : Bool) (frame : Frame)

namespace Job

/-- The frame that a job writes. -/
def frame : Job → Frame
  | .send frame => frame
  | .subscribe subscription => subscription.frame
  | .begin transaction => beginFrame transaction
  | .transact _ _ frame => frame

/-- The position of the task that runs a job. -/
def point : Job → WriteFrame → Point
  | .send frame, writing => .sending frame writing
  | .subscribe subscription, writing => .subscribing subscription writing
  | .begin _, writing => .beginning writing
  | .transact _ failed frame, writing => .transacting failed frame writing

/-- The task that runs a job. -/
def Runs (task : TaskId) : Job → Prop
  | .send frame => (∃ number, task = .call number) ∧ ∃ arguments, frame = sendFrame arguments none
  | .subscribe subscription => task = .subscribe subscription.id
  | .begin transaction => task = .transaction transaction
  | .transact transaction _ frame =>
      task = .transaction transaction ∧ ∃ arguments, frame = sendFrame arguments (some transaction)

/-- What a task does once its frame is written. -/
def completed (shared : Shared) : Job → Resumed
  | .send _ => { shared, point := .finished }
  | .subscribe subscription =>
      { shared := { shared with subscriptions := shared.subscriptions.add subscription }
        point := .finished }
  | .begin transaction => { shared := shared.addTransaction transaction, point := .inside false }
  | .transact _ failed _ => { shared, point := .inside failed }

/-- Where an exception takes the task. -/
def failed (failure : Failure) : Job → Point
  | .transact .. => .inside true
  | _ => .raised failure

/-- The rest of a job, by the progress of `write_frame_reconnecting`. -/
def proceed (job : Job) : Shared × Progress WriteFrame Unit → Resumed
  | (shared, .suspended writing) => { shared, point := job.point writing }
  | (shared, .returned ()) => job.completed shared
  | (shared, .raised failure) => { shared, point := job.failed failure }

end Job

/-- Calls of `maybe_write_frame`. -/
inductive Duty
  | unsubscribe (subscription : String)
  | abort (transaction : String)
  | commit (transaction : String)
  | settle (delivery : Delivery) (frame : Frame) (suppressed : Bool)
  | acknowledge (delivery : Delivery) (frame : Frame)

namespace Duty

/-- The frame that a duty writes. -/
def frame : Duty → Frame
  | .unsubscribe subscription => unsubscribeFrame subscription
  | .abort transaction => abortFrame transaction
  | .commit transaction => commitFrame transaction
  | .settle _ frame _ => frame
  | .acknowledge _ frame => frame

/-- The position of the task that has a duty. -/
def point : Duty → MaybeWrite → Point
  | .unsubscribe subscription, writing => .unsubscribing subscription writing
  | .abort _, writing => .aborting writing
  | .commit _, writing => .committing writing
  | .settle delivery frame suppressed, writing => .settling delivery frame suppressed writing
  | .acknowledge delivery frame, writing => .acknowledging delivery frame writing

/-- The task that has a duty. -/
def Runs (task : TaskId) : Duty → Prop
  | .unsubscribe _ => ∃ number, task = .call number
  | .abort transaction => task = .transaction transaction
  | .commit transaction => task = .transaction transaction
  | .settle _ frame _ =>
      (∃ number, task = .handler number) ∧ (frame.type = .ack ∨ frame.type = .nack)
  | .acknowledge _ frame =>
      (∃ number, task = .call number) ∧ (frame.type = .ack ∨ frame.type = .nack)

/-- What a task does once `maybe_write_frame` has returned. -/
def completed (written : Bool) (shared : Shared) : Duty → Resumed
  | .unsubscribe subscription =>
      { shared := shared.emit (.unsubscribed subscription), point := .finished }
  | .abort transaction => removeTransaction transaction shared
  | .commit transaction =>
      if written then removeTransaction transaction shared else { shared, point := .finished }
  | .settle delivery _ suppressed => handlerEnd delivery suppressed shared
  | .acknowledge .. => { shared, point := .finished }

/-- Where an exception takes the task. -/
def failed (failure : Failure) : Duty → Point
  | .settle .. => .handled
  | _ => .raised failure

/-- The rest of a duty, by the progress of `maybe_write_frame`. -/
def proceed (duty : Duty) : Shared × Progress MaybeWrite Bool → Resumed
  | (shared, .suspended writing) => { shared, point := duty.point writing }
  | (shared, .returned written) => duty.completed written shared
  | (shared, .raised failure) => { shared, point := duty.failed failure }

/-- Calls that give a task a duty, with the shared state at the call of `maybe_write_frame`. -/
inductive Asked (state : State) : Action → TaskId → Duty → Shared → Prop
  | unsubscribe (number : Nat) (id : String)
      (subscribed : state.tasks (.subscribe id) = .finished)
      (absent : state.tasks (.call number) = .absent) :
      Asked state (.unsubscribe number id) (.call number) (.unsubscribe id)
        { state.shared.emit (.unsubscribing id) with
          subscriptions := state.shared.subscriptions.deleteById id }
  | commit (transaction : String) (failed : Bool)
      (inside : state.tasks (.transaction transaction) = .inside failed) :
      Asked state (.exit transaction true) (.transaction transaction) (.commit transaction)
        (state.shared.emit (.exited transaction true))
  | abort (transaction : String) (failed : Bool)
      (inside : state.tasks (.transaction transaction) = .inside failed) :
      Asked state (.exit transaction false) (.transaction transaction) (.abort transaction)
        (state.shared.emit (.exited transaction false))

end Duty

/-- The job that a call gives to a new task. -/
def Action.job? : Action → Option (TaskId × Job)
  | .send number arguments => some (.call number, .send (sendFrame arguments none))
  | .subscribe subscription => some (.subscribe subscription.id, .subscribe subscription)
  | .begin transaction => some (.transaction transaction, .begin transaction)
  | _ => none

/-! ## Relations that calls keep to -/

/-- The relation holds between the shared states before and after each effect that a part of a call
is made of. -/
structure RelatesCalls (relation : Shared → Shared → Prop) : Prop
    extends Admits (fun _ => True) relation where
  acknowledged : ∀ shared number connection frame,
    relation shared (shared.emit (.acknowledged number connection frame))
  unsubscribed : ∀ shared id, relation shared (shared.emit (.unsubscribed id))
  subscriptions : ∀ shared active, relation shared { shared with subscriptions := active }
  transactions : ∀ shared ids revision,
    relation shared { shared with transactions := ids, revision := revision }

namespace RelatesCalls

variable {relation : Shared → Shared → Prop} {shared after : Shared}

theorem settleStarts (relates : RelatesCalls relation) {delivery : Delivery} {type : FrameType}
    {frame : Frame} {progress : Progress MaybeWrite Bool}
    (effects : SettleStarts delivery type shared after frame progress) :
    relation shared after := by
  cases effects with
  | refuses => exact relates.refl _
  | hands ackId acked registered unchanged connection =>
      exact relates.trans (relates.hand _ _ trivial) (relates.acknowledged _ _ _ _)

theorem jobProceed (relates : RelatesCalls relation) (job : Job) (shared : Shared)
    (progress : Progress WriteFrame Unit) :
    relation shared (job.proceed (shared, progress)).shared := by
  cases progress with
  | suspended => exact relates.refl _
  | raised => exact relates.refl _
  | returned =>
      cases job with
      | send => exact relates.refl _
      | subscribe => exact relates.subscriptions _ _
      | begin transaction =>
          change relation shared (shared.addTransaction transaction)
          unfold Shared.addTransaction
          split
          · exact relates.refl _
          · exact relates.transactions _ _ _
      | transact => exact relates.refl _

theorem removed (relates : RelatesCalls relation) (id : String) (shared : Shared) :
    relation shared (removeTransaction id shared).shared := by
  unfold removeTransaction
  split
  · exact relates.transactions _ _ _
  · exact relates.refl _

/-- What the done-callback of a handler reports is left to the relation. -/
theorem dutyProceed (relates : RelatesCalls relation) (duty : Duty) (shared : Shared)
    (ends : ∀ delivery frame suppressed, duty = .settle delivery frame suppressed →
      relation shared (handlerEnd delivery suppressed shared).shared)
    (progress : Progress MaybeWrite Bool) :
    relation shared (duty.proceed (shared, progress)).shared := by
  cases progress with
  | suspended => exact relates.refl _
  | raised => exact relates.refl _
  | returned written =>
      cases duty with
      | unsubscribe => exact relates.unsubscribed _ _
      | abort transaction => exact relates.removed _ _
      | commit transaction =>
          cases written with
          | true => exact relates.removed _ _
          | false => exact relates.refl _
      | settle delivery frame suppressed => exact ends delivery frame suppressed rfl
      | acknowledge => exact relates.refl _

theorem jobStarts (relates : RelatesCalls relation) (settings : Settings) (job : Job)
    (shared : Shared) :
    relation shared (job.proceed (WriteFrame.start settings job.frame shared)).shared :=
  relates.trans (relates.attempts trivial (start_effects settings job.frame shared))
    (relates.jobProceed job _ _)

theorem dutyStarts (relates : RelatesCalls relation) (duty : Duty) (shared : Shared)
    (ends : ∀ before delivery frame suppressed, duty = .settle delivery frame suppressed →
      relation before (handlerEnd delivery suppressed before).shared) :
    relation shared (duty.proceed (MaybeWrite.start duty.frame shared)).shared :=
  relates.trans (relates.maybeStarts trivial (maybeStart_effects duty.frame shared))
    (relates.dutyProceed duty _ (ends _) _)

end RelatesCalls

/-! ## Positions of tasks -/

/-- Tasks other than transactions and `subscribe` calls. -/
def TaskId.Background : TaskId → Prop
  | .transaction _ | .subscribe _ => False
  | _ => True

/-- Positions at which a task neither writes a frame nor has a message to deliver. -/
def Point.Aside : Point → Prop
  | .sending .. | .subscribing .. | .beginning _ | .inside _ | .transacting .. => False
  | .unsubscribing .. | .aborting _ | .committing _ | .settling .. | .acknowledging .. => False
  | .listener (.acquiring _) => False
  | _ => True

/-- The tasks that can stand at a position. -/
def Point.Fits (task : TaskId) : Point → Prop
  | .absent | .finished | .raised _ => True
  | .starting => task = .starter
  | .sending frame _ => (Job.send frame).Runs task
  | .subscribing subscription _ => (Job.subscribe subscription).Runs task
  | .beginning _ => ∃ transaction, task = .transaction transaction
  | .inside _ => ∃ transaction, task = .transaction transaction
  | .transacting failed frame _ =>
      ∃ transaction, (Job.transact transaction failed frame).Runs task
  | .unsubscribing id _ => (Duty.unsubscribe id).Runs task
  | .aborting _ => ∃ transaction, task = .transaction transaction
  | .committing _ => ∃ transaction, task = .transaction transaction
  | .settling delivery frame suppressed _ => (Duty.settle delivery frame suppressed).Runs task
  | .acknowledging delivery frame _ => (Duty.acknowledge delivery frame).Runs task
  | .handling _ => ∃ number, task = .handler number
  | .handled => ∃ number, task = .handler number
  | .heartbeat _ => ∃ generation, task = .heartbeat generation
  | .monitor _ => ∃ generation, task = .monitor generation
  | .listener _ => task = .listener

/-- Every task stands at one of its own positions, and the listener is created by the starter. -/
structure State.Fits (state : State) : Prop where
  tasks : ∀ task, (state.tasks task).Fits task
  listener : state.tasks .starter = .absent ∨ state.tasks .starter = .starting →
    state.tasks .listener = .absent

/-! ## Steps -/

/-- Where the listener goes with a frame that it has taken. -/
inductive Routes (subscriptions : ActiveSubscriptions) (number : Nat) (connection : ConnectionId)
    (epoch : Nat) : AnyFrame → Point → Prop
  | delivers (message : Frame) (isMessage : message.type = .message) (id : String)
      (named : message.headers.get? "subscription" = some id) (subscription : Subscription)
      (registered : subscriptions.getById id = some subscription) :
      Routes subscriptions number connection epoch (.frame message)
        (.listener (.acquiring ⟨number, connection, epoch, message, subscription, isMessage⟩))
  | passes (frame : AnyFrame) (point : Point) (fits : point.Fits .listener) (aside : point.Aside)
      (unrouted : ∀ message, frame = .frame message → message.type = .message →
        ∀ id, message.headers.get? "subscription" = some id → subscriptions.getById id = none) :
      Routes subscriptions number connection epoch frame point

/-- The effects of a call or a reply. -/
inductive Begins (settings : Settings) (state : State) : Action → State → Prop
  | idles (action : Action) : Begins settings state action state
  | reconnects {after : Shared} {progress : Progress Unit ConnectionId} (task : TaskId)
      (reply : Reply) (choice : Choice)
      (effects : state.shared.Reconnects settings task reply after progress) :
      Begins settings state (.resume task reply choice) { state with shared := after }
  | calls (action : Action) (task : TaskId) (job : Job) (asked : action.job? = some (task, job))
      (absent : state.tasks task = .absent) (left : Nat) :
      Begins settings state action
        (state.store task { shared := state.shared, point := job.point (.connecting left) })
  | sends (transaction : String) (arguments : SendArguments) (failed : Bool)
      (inside : state.tasks (.transaction transaction) = .inside failed) (left : Nat) :
      Begins settings state (.transactionSend transaction arguments)
        (state.store (.transaction transaction)
          { shared :=
              state.shared.appendSent transaction (sendFrame arguments (some transaction))
            point := .transacting failed (sendFrame arguments (some transaction))
              (.connecting left) })
  | writes (task : TaskId) (choice : Choice) (job : Job) (runs : job.Runs task) (left : Nat)
      (connection : ConnectionId)
      (standing : state.tasks task = job.point (.writing left connection)) :
      Begins settings state (.resume task .returned choice)
        (state.store task (job.completed (state.shared.noteWritten connection job.frame)))
  | hands {action : Action} {task : TaskId} {duty : Duty} {opened : Shared}
      (asked : duty.Asked state action task opened) (connection : ConnectionId)
      (active : state.shared.active = some connection) :
      Begins settings state action
        (state.store task
          { shared := opened.hand connection duty.frame
            point := duty.point (.writing connection) })
  | skips {action : Action} {task : TaskId} {duty : Duty} {opened : Shared}
      (asked : duty.Asked state action task opened) (inactive : state.shared.active = none) :
      Begins settings state action (state.store task (duty.completed false opened))
  | fulfils (task : TaskId) (reply : Reply) (choice : Choice) (duty : Duty)
      (runs : duty.Runs task) (connection : ConnectionId)
      (standing : state.tasks task = duty.point (.writing connection))
      (returned : reply = .returned) :
      Begins settings state (.resume task reply choice)
        (state.store task
          (duty.completed true (state.shared.noteWritten connection duty.frame)))
  | drops (task : TaskId) (reply : Reply) (choice : Choice) (duty : Duty) (runs : duty.Runs task)
      (point : MaybeWrite) (standing : state.tasks task = duty.point point)
      (gone : ∀ connection, point = .writing connection → state.shared.active ≠ some connection)
      (ended : reply = .returned ∨ reply = .raised .connectionLost ∧
        ∃ connection, point = .writing connection) :
      Begins settings state (.resume task reply choice)
        (state.store task (duty.completed false state.shared))
  | acknowledges (action : Action) (task : TaskId) (aside : (state.tasks task).Aside) (duty : Duty)
      (runs : duty.Runs task) (settles : duty.frame.type = .ack ∨ duty.frame.type = .nack)
      (number : Nat) (connection : ConnectionId) (active : state.shared.active = some connection)
      (built : ∃ type ackId subscription, duty.frame = settleFrame type ackId subscription) :
      Begins settings state action
        (state.store task
          { shared :=
              (state.shared.hand connection duty.frame).emit
                (.acknowledged number connection duty.frame)
            point := duty.point (.writing connection) })
  | takes (choice : Choice) (connection : ConnectionId) (epoch : Nat) (frame : AnyFrame)
      (standing : state.tasks .listener = .listener (.reading connection epoch)) (point : Point)
      (routes : Routes state.shared.subscriptions state.shared.messages connection epoch frame
        point) :
      Begins settings state (.resume .listener (.frame frame) choice)
        (state.store .listener
          { shared :=
              { state.shared.emit
                  (.received state.shared.messages connection epoch frame) with
                messages := state.shared.messages + 1 }
            point })

/-- Changes of the shared state that concern neither connections nor transactions nor subscriptions
nor messages. -/
structure Unmoved (before after : Shared) : Prop where
  active : after.active = before.active
  reconnect : after.reconnect = before.reconnect
  reconnectionCount : after.reconnectionCount = before.reconnectionCount
  subscriptions : after.subscriptions = before.subscriptions
  transactions : after.transactions = before.transactions
  revision : after.revision = before.revision
  sentFrames : after.sentFrames = before.sentFrames
  connections : after.connections = before.connections
  messages : after.messages = before.messages
  trace : after.trace = before.trace

/-- Such changes, with moves of background tasks that rest before and after. -/
structure Elsewhere (before after : State) : Prop where
  shared : Unmoved before.shared after.shared
  tasks : ∀ task, after.tasks task = before.tasks task ∨
    task.Background ∧ (before.tasks task).Aside ∧ (after.tasks task).Aside
  listener : ∀ failure, before.tasks .listener = .raised failure →
    after.tasks .listener = .raised failure
  fits : before.Fits → after.Fits

/-- What the resumed task does before its next `await`. -/
inductive Reacts (state : State) : State → Prop
  | hands (task : TaskId) (job : Job) (runs : job.Runs task) (writing : WriteFrame)
      (standing : state.tasks task = job.point writing) (left : Nat) (connection : ConnectionId)
      (active : state.shared.active = some connection) :
      Reacts state (state.store task
        { shared := state.shared.hand connection job.frame
          point := job.point (.writing left connection) })
  | waits (task : TaskId) (job : Job) (runs : job.Runs task) (writing : WriteFrame)
      (standing : state.tasks task = job.point writing) (next : WriteFrame)
      (idle : ∀ left connection, next ≠ .writing left connection) :
      Reacts state (state.store task { shared := state.shared, point := job.point next })
  | fails (task : TaskId) (job : Job) (runs : job.Runs task) (writing : WriteFrame)
      (standing : state.tasks task = job.point writing) (failure : Failure) :
      Reacts state (state.store task { shared := state.shared, point := job.failed failure })
  | loses (task : TaskId) (duty : Duty) (runs : duty.Runs task) (connection : ConnectionId)
      (standing : state.tasks task = duty.point (.writing connection))
      (gone : state.shared.active ≠ some connection) :
      Reacts state (state.store task
        { shared := state.shared, point := duty.point (.discarding connection) })
  | breaks (task : TaskId) (duty : Duty) (runs : duty.Runs task) (writing : MaybeWrite)
      (standing : state.tasks task = duty.point writing) (failure : Failure) :
      Reacts state (state.store task { shared := state.shared, point := duty.failed failure })
  | discards (connection : ConnectionId) (active : state.shared.active = some connection) :
      Reacts state { state with shared := state.shared.discard connection }
  | opens :
      Reacts state
        { state with
          shared :=
            { state.shared.emit (.opened state.shared.connections) with
              connections := state.shared.connections + 1 } }
  | beats (connection : ConnectionId) (active : state.shared.active = some connection) :
      Reacts state { state with shared := state.shared.emit (.beat connection) }
  | reports (number : Nat) :
      Reacts state { state with shared := state.shared.emit (.reported number) }
  | creates (delivery : Delivery)
      (standing : state.tasks .listener = .listener (.acquiring delivery)) :
      Reacts state (state.store .listener (ListenerPoint.createHandler delivery state.shared))
  | stops (delivery : Delivery)
      (standing : state.tasks .listener = .listener (.acquiring delivery)) (failure : Failure) :
      Reacts state (state.store .listener { shared := state.shared, point := .raised failure })
  | elsewhere {after : State} (changes : Elsewhere state after) : Reacts state after

/-- A step is a beginning and a sequence of reactions. -/
def Moves (settings : Settings) (state : State) (action : Action) (after : State) : Prop :=
  ∃ middle, Begins settings state action middle ∧ ReflTransGen Reacts middle after

end Stompman
