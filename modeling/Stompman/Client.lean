import Mathlib.Logic.Function.Basic
import Stompman.Foundation.Transition
import Stompman.Manager

/-!
# The client as a transition system

Every task stands at one of its `await`s.  An action is a call of the user, or the end of the
operation that a task awaits; it runs the task up to its next `await`.  Any task may be resumed in
any order, and an awaited operation may end in any way, cancellation included.

A transaction block is a sequential program: it makes its `Transaction.send` calls one after another
and may catch their exceptions.
-/

namespace Stompman

open Foundation

/-- `await`s of `_send_heartbeats_forever`. -/
inductive HeartbeatPoint
  | created
  | connecting (left : Nat)
  | discarding (left : Nat) (connection : ConnectionId)
  | sleeping

/-- `await`s of `_monitor_no_message_timeout`. -/
inductive MonitorPoint
  | created
  | discarding (connection : ConnectionId)
  | sleeping

/-- `await`s of `_listen_to_frames` and `read_frames_reconnecting`. -/
inductive ListenerPoint
  | created
  | connecting
  /-- The pause after an exhausted cycle of connection attempts. -/
  | pausing
  | reading (connection : ConnectionId) (epoch : Nat)
  /-- The semaphore, between the look-up of a subscription and the creation of the handler. -/
  | acquiring (delivery : Delivery)
  | discarding (connection : ConnectionId)

/-- Where a task stands. -/
inductive Point
  | absent
  | finished
  | raised (failure : Failure)
  /-- `Client.__aenter__`. -/
  | starting
  /-- `Client.send`. -/
  | sending (frame : Frame) (point : WriteFrame)
  /-- `BaseSubscription._subscribe`. -/
  | subscribing (subscription : Subscription) (point : WriteFrame)
  /-- `BaseSubscription.unsubscribe`. -/
  | unsubscribing (subscription : String) (point : MaybeWrite)
  /-- `Transaction.__aenter__`. -/
  | beginning (point : WriteFrame)
  /-- Inside a transaction block; `failed` if one of its sends raised. -/
  | inside (failed : Bool)
  /-- `Transaction.send`. -/
  | transacting (failed : Bool) (frame : Frame) (point : WriteFrame)
  /-- `Transaction.__aexit__` of a block that raised. -/
  | aborting (point : MaybeWrite)
  /-- `Transaction.__aexit__` of a block that did not raise. -/
  | committing (point : MaybeWrite)
  /-- A handler. -/
  | handling (delivery : Delivery)
  /-- `_ack` or `_nack` in `AutoAckSubscription._run_handler`. -/
  | settling (delivery : Delivery) (frame : Frame) (suppressed : Bool) (point : MaybeWrite)
  /-- A finished handler whose done-callback has not run. -/
  | handled
  /-- `AckableMessageFrame.ack` or `nack`. -/
  | acknowledging (delivery : Delivery) (frame : Frame) (point : MaybeWrite)
  | heartbeat (point : HeartbeatPoint)
  | monitor (point : MonitorPoint)
  | listener (point : ListenerPoint)

/-- A state of the client. -/
structure State where
  shared : Shared
  tasks : TaskId → Point

/-- What a task leaves behind at its next `await`: the shared state, its own position and a task
that it has created. -/
structure Resumed where
  shared : Shared
  point : Point
  spawned : Option (TaskId × Point) := none

/-- Calls of the user and ends of awaited operations. -/
inductive Action
  /-- `Client.__aenter__`. -/
  | enter
  /-- `Client.send`. -/
  | send (number : Nat) (arguments : SendArguments)
  /-- `Client.subscribe` or `Client.subscribe_with_manual_ack`. -/
  | subscribe (subscription : Subscription)
  /-- `BaseSubscription.unsubscribe`. -/
  | unsubscribe (number : Nat) (subscription : String)
  /-- `Transaction.__aenter__`. -/
  | begin (transaction : String)
  /-- `Transaction.send`. -/
  | transactionSend (transaction : String) (arguments : SendArguments)
  /-- The end of a transaction block, with or without an exception. -/
  | exit (transaction : String) (ok : Bool)
  /-- `AckableMessageFrame.ack` or `nack`. -/
  | acknowledge (number : Nat) (delivery : Nat) (type : FrameType)
  /-- The operation that a task awaits is over. -/
  | resume (task : TaskId) (reply : Reply) (choice : Choice)
  /-- A connection attempt that nobody awaits is over, with or without a connection. -/
  | abandonedConnect (server : Nat) (connected : Bool)
  /-- The done-callback of a handler. -/
  | release (message : Nat)

variable (settings : Settings)

/-! ## Acknowledgement -/

/-- `BaseSubscription._ack` and `_nack` up to their first `await`.  Every refusal logs the
`message-id` header, and fails if there is none. -/
def settle (delivery : Delivery) (type : FrameType) (shared : Shared) :
    Shared × Frame × Progress MaybeWrite Bool :=
  let refused : Progress MaybeWrite Bool :=
    if delivery.message.headers.contains "message-id" then .returned false else .raised .keyError
  let ackId := (delivery.message.headers.get? "ack").getD ""
  let frame := settleFrame type ackId delivery.subscription.id
  if shared.subscriptions.containsById delivery.subscription.id = false then
    (shared, frame, refused)
  else if ackId = "" then (shared, frame, refused)
  else if delivery.receivedAtReconnectionCount ≠ shared.reconnectionCount then
    (shared, frame, refused)
  else
    match shared.active with
    | none => (shared, frame, .returned false)
    | some connection =>
        ((shared.hand connection frame).emit (.acknowledged delivery.number connection frame),
          frame, .suspended (.writing connection))

/-- The end of a handler task: its exception is logged. -/
def handlerEnd (delivery : Delivery) (suppressed : Bool) (shared : Shared) : Resumed :=
  { shared := if suppressed then shared.emit (.reported delivery.number) else shared
    point := .handled }

/-- `AutoAckSubscription._run_handler` and `ManualAckSubscription.handler` after the user's handler
is over. -/
def handlerReturned (delivery : Delivery) (suppressed : Bool) (shared : Shared) : Resumed :=
  if delivery.subscription.manual then { shared, point := .handled }
  else if delivery.subscription.shouldHandleAckNack then
    match settle delivery (if suppressed then .nack else .ack) shared with
    | (shared, frame, .suspended point) =>
        { shared, point := .settling delivery frame suppressed point }
    | (shared, _, .returned _) => handlerEnd delivery suppressed shared
    | (shared, _, .raised _) => { shared, point := .handled }
  else handlerEnd delivery suppressed shared

/-! ## Background tasks -/

namespace HeartbeatPoint

/-- The end of `write_heartbeat_reconnecting` in `_send_heartbeats_forever`. -/
def ended (shared : Shared) (failure : Option Failure) : Resumed :=
  match failure with
  | none => { shared, point := .heartbeat .sleeping }
  | some (.failedAllConnectAttempts issues) =>
      if settings.keepAlive then { shared, point := .heartbeat .sleeping }
      else { shared, point := .raised (.failedAllConnectAttempts issues) }
  | some .failedAllWriteAttempts =>
      if settings.keepAlive then { shared, point := .heartbeat .sleeping }
      else { shared, point := .raised .failedAllWriteAttempts }
  | some failure => { shared, point := .raised failure }

/-- `write_heartbeat` on a connection. -/
def beat (shared : Shared) (left : Nat) (connection : ConnectionId) (beats : Bool) : Resumed :=
  if beats then { shared := shared.emit (.beat connection), point := .heartbeat .sleeping }
  else { shared := shared.discard connection, point := .heartbeat (.discarding left connection) }

/-- The head of the loop of `write_heartbeat_reconnecting`. -/
def attempts (shared : Shared) (beats : Bool) : Nat → Resumed
  | 0 => ended settings shared (some .failedAllWriteAttempts)
  | left + 1 =>
      match shared.active with
      | some connection => beat shared left connection beats
      | none => { shared, point := .heartbeat (.connecting left) }

/-- `_send_heartbeats_forever` from an `await` on. -/
def resume (task : TaskId) (point : HeartbeatPoint) (reply : Reply) (choice : Choice)
    (shared : Shared) : Option Resumed :=
  match reply, point with
  | reply, .connecting left =>
      (shared.resumeConnecting settings task reply choice.pick).map fun (shared, progress) =>
        match progress with
        | .suspended () => { shared, point := .heartbeat (.connecting left) }
        | .returned connection => beat shared left connection choice.beats
        | .raised failure => ended settings shared (some failure)
  | .returned, .discarding left _ => some (attempts settings shared choice.beats left)
  | .returned, _ => some (attempts settings shared choice.beats settings.writeRetryAttempts)
  | .raised failure, _ => some (ended settings shared (some failure))
  | _, _ => none

end HeartbeatPoint

namespace MonitorPoint

/-- The head of the loop of `_monitor_no_message_timeout`. -/
def loop (shared : Shared) (expired : Bool) : Resumed :=
  match expired, shared.active with
  | true, some connection =>
      { shared := shared.discard connection, point := .monitor (.discarding connection) }
  | _, _ => { shared, point := .monitor .sleeping }

/-- `_monitor_no_message_timeout` from an `await` on. -/
def resume (point : MonitorPoint) (reply : Reply) (choice : Choice) (shared : Shared) :
    Option Resumed :=
  match reply, point with
  | .returned, .discarding _ => some { shared, point := .monitor .sleeping }
  | .returned, _ => some (loop shared choice.expired)
  | .raised failure, _ => some { shared, point := .raised failure }
  | _, _ => none

end MonitorPoint

/-! ## The listener -/

namespace ListenerPoint

/-- The head of the loop of `read_frames_reconnecting`. -/
def loop (shared : Shared) : Resumed :=
  match shared.active with
  | some connection =>
      { shared, point := .listener (.reading connection shared.reconnectionCount) }
  | none => { shared, point := .listener .connecting }

/-- Start, or a pause or a `close` that is over. -/
def again (reply : Reply) (shared : Shared) : Option Resumed :=
  match reply with
  | .returned => some (loop shared)
  | .raised failure => some { shared, point := .raised failure }
  | _ => none

/-- Create the handler task of a message and go back to `read_frames`. -/
def createHandler (delivery : Delivery) (shared : Shared) : Resumed :=
  { shared :=
      { shared.emit (.created delivery.number delivery.subscription) with
        deliveries :=
          if delivery.subscription.manual then shared.deliveries ++ [delivery]
          else shared.deliveries }
    point := .listener (.reading delivery.connection delivery.receivedAtReconnectionCount)
    spawned := some (.handler delivery.number, .handling delivery) }

/-- The body of the loop of `_listen_to_frames`. -/
def dispatch (connection : ConnectionId) (epoch : Nat) (frame : AnyFrame) (shared : Shared) :
    Resumed :=
  let number := shared.messages
  let shared :=
    { shared.emit (.received number connection epoch frame) with messages := number + 1 }
  let again : Resumed := { shared, point := .listener (.reading connection epoch) }
  match frame with
  | .heartbeat => again
  | .frame message =>
      if isMessage : message.type = .message then
        match message.headers.get? "subscription" with
        | none => { shared, point := .raised .keyError }
        | some id =>
            match shared.subscriptions.getById id with
            | none => again
            | some subscription =>
                let delivery : Delivery :=
                  ⟨number, connection, epoch, message, subscription, isMessage⟩
                match shared.permits with
                | none => createHandler delivery shared
                | some _ => { shared, point := .listener (.acquiring delivery) }
      else again

/-- An exception of `_get_active_connection_state` in `read_frames_reconnecting`. -/
def disconnected (failure : Failure) (shared : Shared) : Resumed :=
  match failure with
  | .failedAllConnectAttempts issues =>
      if settings.keepAlive then { shared, point := .listener .pausing }
      else { shared, point := .raised (.failedAllConnectAttempts issues) }
  | failure => { shared, point := .raised failure }

/-- `_listen_to_frames` from an `await` on. -/
def resume (point : ListenerPoint) (reply : Reply) (choice : Choice) (shared : Shared) :
    Option Resumed :=
  match point with
  | .created | .pausing | .discarding _ => again reply shared
  | .connecting =>
      (shared.resumeConnecting settings .listener reply choice.pick).map fun (shared, progress) =>
        match progress with
        | .suspended () => { shared, point := .listener .connecting }
        | .returned connection =>
            { shared, point := .listener (.reading connection shared.reconnectionCount) }
        | .raised failure => disconnected settings failure shared
  | .reading connection epoch =>
      match reply with
      | .frame frame => some (dispatch connection epoch frame shared)
      | .returned => some (loop shared)
      | .raised .connectionLost =>
          if shared.active = some connection then
            some { shared := shared.discard connection,
                   point := .listener (.discarding connection) }
          else some (loop shared)
      | .raised failure => some { shared, point := .raised failure }
      | _ => none
  | .acquiring delivery =>
      match reply, shared.permits with
      | .returned, some (permits + 1) =>
          some (createHandler delivery { shared with permits := some permits })
      | .raised failure, _ => some { shared, point := .raised failure }
      | _, _ => none

end ListenerPoint

/-! ## Transactions -/

/-- `Transaction.__aexit__` after the ABORT, or after a COMMIT that was written. -/
def removeTransaction (id : String) (shared : Shared) : Resumed :=
  if id ∈ shared.transactions then
    { shared := shared.removeTransaction id, point := .finished }
  else { shared, point := .raised .keyError }

/-- `Transaction.__aexit__` of a block that raised, by the progress of `maybe_write_frame`. -/
def aborted (id : String) : Shared × Progress MaybeWrite Bool → Resumed
  | (shared, .suspended point) => { shared, point := .aborting point }
  | (shared, .returned _) => removeTransaction id shared
  | (shared, .raised failure) => { shared, point := .raised failure }

/-- `Transaction.__aexit__` of a block that did not raise, by the progress of
`maybe_write_frame`. -/
def committed (id : String) : Shared × Progress MaybeWrite Bool → Resumed
  | (shared, .suspended point) => { shared, point := .committing point }
  | (shared, .returned true) => removeTransaction id shared
  | (shared, .returned false) => { shared, point := .finished }
  | (shared, .raised failure) => { shared, point := .raised failure }

/-- `Transaction.__aenter__`, by the progress of `write_frame_reconnecting`. -/
def begun (id : String) : Shared × Progress WriteFrame Unit → Resumed
  | (shared, .suspended point) => { shared, point := .beginning point }
  | (shared, .returned ()) => { shared := shared.addTransaction id, point := .inside false }
  | (shared, .raised failure) => { shared, point := .raised failure }

/-- `Transaction.send`, by the progress of `write_frame_reconnecting`. -/
def transacted (failed : Bool) (frame : Frame) : Shared × Progress WriteFrame Unit → Resumed
  | (shared, .suspended point) => { shared, point := .transacting failed frame point }
  | (shared, .returned ()) => { shared, point := .inside failed }
  | (shared, .raised _) => { shared, point := .inside true }

/-! ## Other calls -/

/-- `Client.send`, by the progress of `write_frame_reconnecting`. -/
def sent (frame : Frame) : Shared × Progress WriteFrame Unit → Resumed
  | (shared, .suspended point) => { shared, point := .sending frame point }
  | (shared, .returned ()) => { shared, point := .finished }
  | (shared, .raised failure) => { shared, point := .raised failure }

/-- `BaseSubscription._subscribe`, by the progress of `write_frame_reconnecting`. -/
def subscribed (subscription : Subscription) : Shared × Progress WriteFrame Unit → Resumed
  | (shared, .suspended point) => { shared, point := .subscribing subscription point }
  | (shared, .returned ()) =>
      { shared := { shared with subscriptions := shared.subscriptions.add subscription }
        point := .finished }
  | (shared, .raised failure) => { shared, point := .raised failure }

/-- `BaseSubscription.unsubscribe`, by the progress of `maybe_write_frame`. -/
def unsubscribed (id : String) : Shared × Progress MaybeWrite Bool → Resumed
  | (shared, .suspended point) => { shared, point := .unsubscribing id point }
  | (shared, .returned _) => { shared := shared.emit (.unsubscribed id), point := .finished }
  | (shared, .raised failure) => { shared, point := .raised failure }

/-- `AckableMessageFrame.ack` and `nack`, by the progress of `maybe_write_frame`. -/
def acknowledged (delivery : Delivery) (frame : Frame) :
    Shared × Progress MaybeWrite Bool → Resumed
  | (shared, .suspended point) => { shared, point := .acknowledging delivery frame point }
  | (shared, .returned _) => { shared, point := .finished }
  | (shared, .raised failure) => { shared, point := .raised failure }

/-! ## Steps -/

/-- Resume a task at its `await`. -/
def Point.resume (task : TaskId) (reply : Reply) (choice : Choice) (shared : Shared) :
    Point → Option Resumed
  | .starting =>
      (shared.resumeConnecting settings task reply choice.pick).map fun (shared, progress) =>
        match progress with
        | .suspended () => { shared, point := .starting }
        | .returned _ =>
            { shared := { shared with entered := true }
              point := .finished
              spawned := some (.listener, .listener .created) }
        | .raised failure => { shared, point := .raised failure }
  | .sending frame point =>
      (point.resume settings task frame reply choice.pick shared).map (sent frame)
  | .subscribing subscription point =>
      (point.resume settings task subscription.frame reply choice.pick shared).map
        (subscribed subscription)
  | .unsubscribing id point =>
      (point.resume (unsubscribeFrame id) reply shared).map (unsubscribed id)
  | .beginning point =>
      match task with
      | .transaction id =>
          (point.resume settings task (beginFrame id) reply choice.pick shared).map (begun id)
      | _ => none
  | .transacting failed frame point =>
      (point.resume settings task frame reply choice.pick shared).map (transacted failed frame)
  | .aborting point =>
      match task with
      | .transaction id => (point.resume (abortFrame id) reply shared).map (aborted id)
      | _ => none
  | .committing point =>
      match task with
      | .transaction id => (point.resume (commitFrame id) reply shared).map (committed id)
      | _ => none
  | .handling delivery =>
      match reply with
      | .returned => some (handlerReturned delivery false shared)
      | .suppressed =>
          if delivery.subscription.manual then some { shared, point := .handled }
          else some (handlerReturned delivery true shared)
      | .raised _ => some { shared, point := .handled }
      | _ => none
  | .settling delivery frame suppressed point =>
      (point.resume frame reply shared).map fun (shared, progress) =>
        match progress with
        | .suspended point => { shared, point := .settling delivery frame suppressed point }
        | .returned _ => handlerEnd delivery suppressed shared
        | .raised _ => { shared, point := .handled }
  | .acknowledging delivery frame point =>
      (point.resume frame reply shared).map (acknowledged delivery frame)
  | .heartbeat point => point.resume settings task reply choice shared
  | .monitor point => point.resume reply choice shared
  | .listener point => point.resume settings reply choice shared
  | .absent | .finished | .raised _ | .inside _ | .handled => none

/-- Store what a task left behind. -/
def State.store (state : State) (task : TaskId) (resumed : Resumed) : State :=
  let tasks := Function.update state.tasks task resumed.point
  { shared := resumed.shared
    tasks :=
      match resumed.spawned with
      | none => tasks
      | some (other, point) => Function.update tasks other point }

/-- Tasks that exist: background tasks do once they have been created. -/
def State.exists? (state : State) : TaskId → Bool
  | .heartbeat generation => generation < state.shared.heartbeats
  | .monitor generation => generation < state.shared.monitors
  | _ => true

/-- A call of the user, by a task that does not exist yet. -/
def State.call (state : State) (task : TaskId) (resumed : Resumed) : Option State :=
  match state.tasks task with
  | .absent => if state.shared.entered then some (state.store task resumed) else none
  | _ => none

/-- One step of the client. -/
def step (state : State) : Action → Option State
  | .enter =>
      match state.tasks .starter with
      | .absent => some (state.store .starter { shared := state.shared, point := .starting })
      | _ => none
  | .send number arguments =>
      let frame := sendFrame arguments none
      state.call (.call number) (sent frame (WriteFrame.start settings frame state.shared))
  | .subscribe subscription =>
      state.call (.subscribe subscription.id)
        (subscribed subscription (WriteFrame.start settings subscription.frame state.shared))
  | .unsubscribe number id =>
      match state.tasks (.subscribe id) with
      | .finished =>
          let shared :=
            { state.shared.emit (.unsubscribing id) with
              subscriptions := state.shared.subscriptions.deleteById id }
          state.call (.call number)
            (unsubscribed id (MaybeWrite.start (unsubscribeFrame id) shared))
      | _ => none
  | .begin id =>
      state.call (.transaction id)
        (begun id (WriteFrame.start settings (beginFrame id) state.shared))
  | .transactionSend id arguments =>
      match state.tasks (.transaction id) with
      | .inside failed =>
          let frame := sendFrame arguments (some id)
          some (state.store (.transaction id) (transacted failed frame
            (WriteFrame.start settings frame (state.shared.appendSent id frame))))
      | _ => none
  | .exit id ok =>
      match state.tasks (.transaction id) with
      | .inside _ =>
          let shared := state.shared.emit (.exited id ok)
          some (state.store (.transaction id)
            (if ok then committed id (MaybeWrite.start (commitFrame id) shared)
              else aborted id (MaybeWrite.start (abortFrame id) shared)))
      | _ => none
  | .acknowledge number index type =>
      match state.shared.deliveries[index]? with
      | some delivery =>
          if type = .ack ∨ type = .nack then
            let (shared, frame, progress) := settle delivery type state.shared
            state.call (.call number) (acknowledged delivery frame (shared, progress))
          else none
      | none => none
  | .resume task reply choice =>
      if state.exists? task then
        ((state.tasks task).resume settings task reply choice state.shared).map (state.store task)
      else none
  | .abandonedConnect server connected =>
      if server ∈ state.shared.abandoned then
        let shared := { state.shared with abandoned := state.shared.abandoned.erase server }
        some { state with
          shared :=
            if connected then
              { shared.emit (.opened shared.connections) with
                connections := shared.connections + 1 }
            else shared }
      else none
  | .release message =>
      match state.tasks (.handler message) with
      | .handled =>
          some (state.store (.handler message)
            { shared := { state.shared with permits := state.shared.permits.map (· + 1) }
              point := .finished })
      | _ => none

/-- Positions of the tasks at the start: background tasks wait for their creation. -/
def initialTasks : TaskId → Point
  | .heartbeat _ => .heartbeat .created
  | .monitor _ => .monitor .created
  | _ => .absent

/-- The client as a transition system. -/
def client : System State Action where
  initial := { shared := { permits := settings.maxConcurrentHandlers }, tasks := initialTasks }
  step := step settings

/-! ## Runs -/

/-- A client of one server, without a bound on handlers and without the no-message monitor. -/
def plainSettings : Settings where
  servers := [{ host := "localhost", port := 61613, login := "guest", passcode := "guest" }]
  monitored := false
  maxConcurrentHandlers := none

/-- The CONNECTED frame of a server. -/
def plainConnected : Frame :=
  .bodyless .connected (Dict.empty.update [("version", "1.2"), ("heart-beat", "0,0")])

/-- A subscription. -/
def plainSubscription : Subscription where
  id := "1"
  destination := "/queue"

/-- A MESSAGE frame of this subscription. -/
def plainMessage : Frame :=
  .bodyless .message
    (Dict.empty.update [("subscription", "1"), ("message-id", "m"), ("ack", "a")])

/-- A task that a missing key ended. -/
def Point.missesKey : Point → Bool
  | .raised .keyError => true
  | _ => false

theorem Point.eq_of_missesKey {point : Point} (missing : point.missesKey = true) :
    point = .raised .keyError := by
  unfold Point.missesKey at missing
  split at missing
  · rfl
  · contradiction

/-- The operation that a task awaits returns. -/
def returns (task : TaskId) (pick : Option String := none) : Action :=
  .resume task .returned { pick := pick }

/-- The operation that a task awaits raises. -/
def raises (task : TaskId) (failure : Failure) : Action := .resume task (.raised failure) {}

/-- A task takes the lock, connects and reads CONNECTED. -/
def connects (task : TaskId) (pick : Option String := none) : List Action :=
  [returns task, .resume task (.connected 0) {}, returns task,
    .resume task (.frame (.frame plainConnected)) { pick := pick }]

/-- `Client.__aenter__` connects and the listener starts to read. -/
def enters : List Action := .enter :: connects .starter ++ [returns .listener]

end Stompman
