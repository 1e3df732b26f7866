import Stompman.Session

/-!
# The connection manager

The coroutines of `ConnectionManager` and `ConnectionLifespan.enter` over the shared state.  Each
function runs a coroutine from one `await` to the next; `none` means that the reply is not one that
the awaited operation can give.
-/

namespace Stompman

open Foundation

namespace Shared

variable (settings : Settings)

/-! ## Connecting -/

/-- The head of the loop over attempts in `_get_active_connection_state`. -/
def attempt (reconnect : Reconnect) (shared : Shared) : Shared × Progress Unit ConnectionId :=
  if reconnect.issues.length < settings.connectRetryAttempts then
    if settings.servers = [] then
      (shared.hold { reconnect with issues := reconnect.issues ++ [.allServersUnavailable] }
        .sleeping, .suspended ())
    else
      (shared.hold reconnect (.racing (List.range settings.servers.length)), .suspended ())
  else (shared.release, .raised (.failedAllConnectAttempts reconnect.issues))

/-- The `finally` clause of `_connect_to_any_server` for a connection that is not established. -/
def abandon (reconnect : Reconnect) (connection : ConnectionId)
    (outcome : Except Failure ConnectionIssue) (shared : Shared) : Shared :=
  (shared.emit (.closed connection)).hold reconnect (.closing connection outcome)

/-- An exception of `lifespan.enter()` in `_connect_to_any_server`. -/
def failEnter (reconnect : Reconnect) (connection : ConnectionId) (failure : Failure)
    (shared : Shared) : Shared :=
  shared.abandon reconnect connection
    (if failure = .connectionLost then .ok .connectionLostOnLifespanEnter else .error failure)

/-- `_restart_background_tasks`, where `create_task` takes the new task: the task group does so as
long as it is not aborting. -/
def restartBackgroundTasks (shared : Shared) : Shared :=
  { shared with heartbeats := shared.heartbeats + 1 }

/-- The end of `_get_active_connection_state` after a successful attempt: the connection becomes
active, the no-message monitor is restarted, in a task group that is not aborting, and the lock is
released. -/
def activate (connection : ConnectionId) (shared : Shared) : Shared :=
  { shared.emit (.activated connection) with
    active := some connection
    reconnect := none
    monitors := if settings.monitored then shared.monitors + 1 else shared.monitors }

/-- Write the frame with an index of a transaction that is being replayed, or its COMMIT after the
last one.  The loop reads `sent_frames` as it is now. -/
def replayFrame (reconnect : Reconnect) (connection : ConnectionId) (walk : Walk)
    (transaction : String) (index : Nat) (shared : Shared) : Shared :=
  match (shared.sentFrames transaction)[index]? with
  | some frame =>
      (shared.hand connection frame).hold reconnect
        (.entering connection (.replaying walk transaction (some (index, frame))))
  | none =>
      (shared.hand connection (commitFrame transaction)).hold reconnect
        (.entering connection (.replaying walk transaction none))

/-- The head of the outer loop of `commit_pending_transactions`.  A set whose size has changed
raises; a set that has not changed is visited exactly once; a set that was changed and has its old
size again may give any of its elements, or stop. -/
def nextTransaction (reconnect : Reconnect) (connection : ConnectionId) (walk : Walk)
    (pick : Option String) (shared : Shared) : Option (Shared × Progress Unit ConnectionId) :=
  if shared.transactions.length ≠ walk.size then
    some (shared.failEnter reconnect connection .runtimeError, .suspended ())
  else
    match pick with
    | none =>
        if walk.revision = shared.revision ∧
            ¬ ∀ transaction ∈ shared.transactions, transaction ∈ walk.visited then none
        else some (shared.clearTransactions.activate settings connection, .returned connection)
    | some transaction =>
        if transaction ∈ shared.transactions ∧
            (walk.revision = shared.revision → transaction ∉ walk.visited) then
          some (shared.replayFrame reconnect connection walk transaction 0, .suspended ())
        else none

/-- `commit_pending_transactions`. -/
def commitPendingTransactions (reconnect : Reconnect) (connection : ConnectionId)
    (pick : Option String) (shared : Shared) : Option (Shared × Progress Unit ConnectionId) :=
  shared.nextTransaction settings reconnect connection
    { size := shared.transactions.length, revision := shared.revision } pick

/-- The loop of `resubscribe_to_active_subscriptions`, and what `enter` does after it. -/
def resubscribe (reconnect : Reconnect) (connection : ConnectionId) (pick : Option String)
    (shared : Shared) : List Subscription → Option (Shared × Progress Unit ConnectionId)
  | [] => shared.commitPendingTransactions settings reconnect connection pick
  | subscription :: remaining =>
      some ((shared.hand connection subscription.frame).hold reconnect
        (.entering connection (.resubscribing subscription remaining)), .suspended ())

/-- `_establish_connection` after the CONNECTED frame, and what `enter` does after it. -/
def confirmConnected (reconnect : Reconnect) (connection : ConnectionId) (connected : Frame)
    (pick : Option String) (shared : Shared) : Option (Shared × Progress Unit ConnectionId) :=
  match confirm settings.protocolVersion connected with
  | .error (.keyError _) => some (shared.failEnter reconnect connection .keyError, .suspended ())
  | .error .valueError => some (shared.failEnter reconnect connection .valueError, .suspended ())
  | .ok (.unsupportedProtocolVersion given supported) =>
      some (shared.abandon reconnect connection (.ok (.unsupportedProtocolVersion given supported)),
        .suspended ())
  | .ok (.established _) =>
      shared.restartBackgroundTasks.resubscribe settings reconnect connection pick
        shared.subscriptions.getAll

/-- `ConnectionLifespan.enter`. -/
def resumeEnter (reconnect : Reconnect) (connection : ConnectionId) (point : Enter) (reply : Reply)
    (pick : Option String) (shared : Shared) : Option (Shared × Progress Unit ConnectionId) :=
  match reply, point with
  | .raised failure, _ => some (shared.failEnter reconnect connection failure, .suspended ())
  | .returned, .writingConnect server =>
      some ((shared.noteWritten connection (connectFrame server settings.protocolVersion
        settings.heartbeat)).hold reconnect (.entering connection (.readingConnected [])),
        .suspended ())
  | .frame frame, .readingConnected collected =>
      match frame with
      | .frame connected =>
          if connected.type = .connected then
            shared.confirmConnected settings reconnect connection connected pick
          else
            some (shared.hold reconnect
              (.entering connection (.readingConnected (collected ++ [frame]))), .suspended ())
      | .heartbeat =>
          some (shared.hold reconnect
            (.entering connection (.readingConnected (collected ++ [frame]))), .suspended ())
  | .timeout, .readingConnected collected =>
      some (shared.abandon reconnect connection (.ok (.connectionConfirmationTimeout collected)),
        .suspended ())
  | .returned, .readingConnected _ =>
      -- `read_frames` ended: the `AssertionError` marked as unreachable
      some (shared.failEnter reconnect connection .other, .suspended ())
  | .returned, .resubscribing current remaining =>
      (shared.noteWritten connection current.frame).resubscribe settings reconnect connection pick
        remaining
  | .returned, .replaying walk current (some (index, frame)) =>
      some ((shared.noteWritten connection frame).replayFrame reconnect connection walk current
        (index + 1), .suspended ())
  | .returned, .replaying walk current none =>
      (shared.noteWritten connection (commitFrame current)).nextTransaction settings reconnect
        connection { walk with visited := walk.visited ++ [current] } pick
  | _, _ => none

/-- `connect` to one server returned a connection: the others go on unattended and the handshake
starts. -/
def startHandshake (reconnect : Reconnect) (pending : List Nat) (server : ConnectionParameters)
    (shared : Shared) : Shared :=
  let connection := shared.connections
  let opened :=
    { shared.emit (.opened connection) with
      connections := connection + 1
      abandoned := shared.abandoned ++ pending }
  (opened.hand connection (connectFrame server settings.protocolVersion settings.heartbeat)).hold
    reconnect (.entering connection (.writingConnect server))

/-- An exception leaves the race: the connection attempts in progress go on unattended. -/
def leaveRace (pending : List Nat) (shared : Shared) : Shared :=
  { shared.release with abandoned := shared.abandoned ++ pending }

/-- `_get_active_connection_state` with the lock held. -/
def resumeReconnect (reconnect : Reconnect) (reply : Reply) (pick : Option String)
    (shared : Shared) : Option (Shared × Progress Unit ConnectionId) :=
  match reconnect.phase with
  | .racing pending =>
      match reply with
      | .connected index =>
          if index ∈ pending then
            settings.servers[index]?.map fun server =>
              (shared.startHandshake settings reconnect (pending.erase index) server, .suspended ())
          else none
      | .refused index =>
          if index ∈ pending then
            if pending.erase index = [] then
              some (shared.hold
                { reconnect with issues := reconnect.issues ++ [.allServersUnavailable] } .sleeping,
                .suspended ())
            else some (shared.hold reconnect (.racing (pending.erase index)), .suspended ())
          else none
      | .failed index failure =>
          if index ∈ pending then
            some (shared.leaveRace (pending.erase index), .raised failure)
          else none
      | .raised failure => some (shared.leaveRace pending, .raised failure)
      | _ => none
  | .entering connection point =>
      shared.resumeEnter settings reconnect connection point reply pick
  | .closing _ outcome =>
      match reply with
      | .returned =>
          match outcome with
          | .error failure => some (shared.release, .raised failure)
          | .ok issue =>
              some (shared.hold { reconnect with issues := reconnect.issues ++ [issue] } .sleeping,
                .suspended ())
      | .raised failure => some (shared.release, .raised failure)
      | _ => none
  | .sleeping =>
      match reply with
      | .returned => some (shared.attempt settings reconnect)
      | .raised failure => some (shared.release, .raised failure)
      | _ => none

/-- `_get_active_connection_state` from an `await` on: the lock, or what its holder awaits. -/
def resumeConnecting (task : TaskId) (reply : Reply) (pick : Option String) (shared : Shared) :
    Option (Shared × Progress Unit ConnectionId) :=
  match shared.reconnect with
  | some reconnect =>
      if reconnect.owner = task then shared.resumeReconnect settings reconnect reply pick
      else
        match reply with
        | .raised failure => some (shared, .raised failure)
        | _ => none
  | none =>
      match reply with
      | .returned =>
          match shared.active with
          | some connection => some (shared, .returned connection)
          | none => some (shared.attempt settings ⟨task, [], .sleeping⟩)
      | .raised failure => some (shared, .raised failure)
      | _ => none

end Shared

/-! ## Writing -/

/-- `await`s of `write_frame_reconnecting`, with the number of attempts after this one. -/
inductive WriteFrame
  | connecting (left : Nat)
  | writing (left : Nat) (connection : ConnectionId)
  | discarding (left : Nat) (connection : ConnectionId)
  deriving DecidableEq

namespace WriteFrame

variable (settings : Settings)

/-- The head of the loop of `write_frame_reconnecting`. -/
def attempts (frame : Frame) (shared : Shared) : Nat → Shared × Progress WriteFrame Unit
  | 0 => (shared, .raised .failedAllWriteAttempts)
  | left + 1 =>
      match shared.active with
      | some connection => (shared.hand connection frame, .suspended (.writing left connection))
      | none => (shared, .suspended (.connecting left))

/-- `write_frame_reconnecting` up to its first `await`. -/
def start (frame : Frame) (shared : Shared) : Shared × Progress WriteFrame Unit :=
  attempts frame shared settings.writeRetryAttempts

/-- `write_frame_reconnecting` from an `await` on. -/
def resume (task : TaskId) (frame : Frame) (point : WriteFrame) (reply : Reply)
    (pick : Option String) (shared : Shared) : Option (Shared × Progress WriteFrame Unit) :=
  match point with
  | .connecting left =>
      (shared.resumeConnecting settings task reply pick).map fun (shared, progress) =>
        match progress with
        | .suspended () => (shared, .suspended (.connecting left))
        | .returned connection =>
            (shared.hand connection frame, .suspended (.writing left connection))
        | .raised failure => (shared, .raised failure)
  | .writing left connection =>
      match reply with
      | .returned => some (shared.noteWritten connection frame, .returned ())
      | .raised .connectionLost =>
          if shared.active = some connection then
            some (shared.discard connection, .suspended (.discarding left connection))
          else some (attempts frame shared left)
      | .raised failure => some (shared, .raised failure)
      | _ => none
  | .discarding left _ =>
      match reply with
      | .returned => some (attempts frame shared left)
      | .raised failure => some (shared, .raised failure)
      | _ => none

end WriteFrame

/-- `await`s of `maybe_write_frame`. -/
inductive MaybeWrite
  | writing (connection : ConnectionId)
  | discarding (connection : ConnectionId)
  deriving DecidableEq

namespace MaybeWrite

/-- `maybe_write_frame` up to its first `await`. -/
def start (frame : Frame) (shared : Shared) : Shared × Progress MaybeWrite Bool :=
  match shared.active with
  | none => (shared, .returned false)
  | some connection => (shared.hand connection frame, .suspended (.writing connection))

/-- `maybe_write_frame` from an `await` on. -/
def resume (frame : Frame) (point : MaybeWrite) (reply : Reply) (shared : Shared) :
    Option (Shared × Progress MaybeWrite Bool) :=
  match point with
  | .writing connection =>
      match reply with
      | .returned => some (shared.noteWritten connection frame, .returned true)
      | .raised .connectionLost =>
          if shared.active = some connection then
            some (shared.discard connection, .suspended (.discarding connection))
          else some (shared, .returned false)
      | .raised failure => some (shared, .raised failure)
      | _ => none
  | .discarding _ =>
      match reply with
      | .returned => some (shared, .returned false)
      | .raised failure => some (shared, .raised failure)
      | _ => none

end MaybeWrite

end Stompman
