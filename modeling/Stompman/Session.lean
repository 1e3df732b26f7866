import Mathlib.Data.List.Basic
import Mathlib.Logic.Function.Basic
import Stompman.Config

/-!
# State shared by the tasks of a client

The fields of `ConnectionManager`, `ActiveSubscriptions`, the set of active transactions and the
parts of `Client` that several tasks use, with the operations on them that contain no `await`.

The reconnect lock is held by at most one task, and what that task does while it holds the lock is
part of the shared state: `reconnect` is the holder together with the `await` at which it stands.
`trace` records, in order, the calls and returns that the properties speak about.
-/

namespace Stompman

open Foundation

/-- Connections are numbered in the order in which `connect` returned them. -/
abbrev ConnectionId := Nat

/-- Tasks of a client. -/
inductive TaskId
  /-- `Client.__aenter__`. -/
  | starter
  /-- `Client._listen_to_frames`. -/
  | listener
  /-- `_send_heartbeats_forever`, numbered in the order of creation. -/
  | heartbeat (generation : Nat)
  /-- `_monitor_no_message_timeout`, numbered in the order of creation. -/
  | monitor (generation : Nat)
  /-- The handler of a message. -/
  | handler (message : Nat)
  /-- An `async with client.begin()` block. -/
  | transaction (id : String)
  /-- A `subscribe` or `subscribe_with_manual_ack` call. -/
  | subscribe (id : String)
  /-- Any other call of the user: `send`, `unsubscribe`, `ack`, `nack`. -/
  | call (number : Nat)
  deriving DecidableEq

/-- `AnyConnectionIssue`. -/
inductive ConnectionIssue
  | allServersUnavailable
  | connectionLostOnLifespanEnter
  | connectionConfirmationTimeout (frames : List AnyFrame)
  | unsupportedProtocolVersion (givenVersion supportedVersion : String)
  deriving DecidableEq

/-- Exceptions. -/
inductive Failure
  | connectionLost
  | cancelled
  | failedAllConnectAttempts (issues : List ConnectionIssue)
  | failedAllWriteAttempts
  | keyError
  | valueError
  | runtimeError
  | other
  deriving DecidableEq

/-- What a task gets when the operation that it awaits is over. -/
inductive Reply
  /-- The operation returned; for the lock and the semaphore, it was acquired. -/
  | returned
  /-- `connect` to the server with this index returned a connection. -/
  | connected (server : Nat)
  /-- `connect` to the server with this index returned `None`. -/
  | refused (server : Nat)
  /-- `connect` to the server with this index raised. -/
  | failed (server : Nat) (failure : Failure)
  /-- `read_frames` yielded a frame. -/
  | frame (frame : AnyFrame)
  /-- The confirmation timeout passed. -/
  | timeout
  /-- A handler raised an exception of `suppressed_exception_classes`. -/
  | suppressed
  /-- Any other exception. -/
  | raised (failure : Failure)
  deriving DecidableEq

/-- Choices that are neither the program's nor a reply's: the next element of a set iteration,
whether `write_heartbeat` succeeds and whether the no-message interval has passed. -/
structure Choice where
  pick : Option String := none
  beats : Bool := true
  expired : Bool := false
  deriving DecidableEq

/-- Where a coroutine is after it has been resumed. -/
inductive Progress (π ρ : Type)
  | suspended (point : π)
  | returned (value : ρ)
  | raised (failure : Failure)

/-- The attributes of `Client` that its tasks read. -/
structure Settings where
  servers : List ConnectionParameters
  connectRetryAttempts : Nat := 3
  writeRetryAttempts : Nat := 3
  /-- `keep_alive_on_connection_failure`. -/
  keepAlive : Bool := false
  /-- Whether `no_message_restart_interval` is set. -/
  monitored : Bool := true
  maxConcurrentHandlers : Option Nat := some 100
  protocolVersion : String := "1.2"
  heartbeat : Heartbeat := ⟨1000, 1000⟩

/-- `AutoAckSubscription` and `ManualAckSubscription`. -/
structure Subscription where
  id : String
  destination : String
  headers : Option Headers := none
  ack : AckMode := .clientIndividual
  /-- Whether this is a `ManualAckSubscription`. -/
  manual : Bool := false
  deriving DecidableEq

namespace Subscription

/-- `AutoAckSubscription._should_handle_ack_nack`. -/
def shouldHandleAckNack (subscription : Subscription) : Bool :=
  subscription.ack = .client ∨ subscription.ack = .clientIndividual

/-- The SUBSCRIBE frame of a subscription. -/
def frame (subscription : Subscription) : Frame :=
  subscribeFrame subscription.id subscription.destination subscription.ack subscription.headers

end Subscription

/-- A message on its way to a handler, with the connection that it was read from.  The program
itself keeps only the message and the reconnection count. -/
structure Delivery where
  number : Nat
  connection : ConnectionId
  receivedAtReconnectionCount : Nat
  message : Frame
  subscription : Subscription
  /-- Only MESSAGE frames are delivered. -/
  isMessage : message.type = .message
  deriving DecidableEq

/-- Calls and returns that the properties of the client speak about. -/
inductive Event
  /-- `connect` returned this connection. -/
  | opened (connection : ConnectionId)
  /-- `write_frame` was called. -/
  | handed (connection : ConnectionId) (frame : Frame)
  /-- `write_frame` returned. -/
  | wrote (connection : ConnectionId) (frame : Frame)
  /-- `_active_connection_state` was set to this connection. -/
  | activated (connection : ConnectionId)
  /-- `_discard_failed_connection_state` discarded the active connection. -/
  | discarded (connection : ConnectionId)
  /-- `close` was called. -/
  | closed (connection : ConnectionId)
  /-- `write_heartbeat` wrote a heartbeat. -/
  | beat (connection : ConnectionId)
  /-- The listener took a frame from `read_frames`. -/
  | received (number : Nat) (connection : ConnectionId) (epoch : Nat) (frame : AnyFrame)
  /-- The listener created the handler task of a message. -/
  | created (number : Nat) (subscription : Subscription)
  /-- An ACK or NACK for a message was passed to `write_frame`. -/
  | acknowledged (number : Nat) (connection : ConnectionId) (frame : Frame)
  /-- `on_suppressed_exception` was called for a message. -/
  | reported (number : Nat)
  /-- `Transaction.send` was called. -/
  | called (transaction : String) (frame : Frame)
  /-- A transaction block was left, with or without an exception. -/
  | exited (transaction : String) (ok : Bool)
  /-- `unsubscribe` was called. -/
  | unsubscribing (subscription : String)
  /-- `unsubscribe` returned. -/
  | unsubscribed (subscription : String)
  deriving DecidableEq

/-- The connection and the frame of a `write_frame` call. -/
def Event.handed? : Event → Option (ConnectionId × Frame)
  | .handed connection frame => some (connection, frame)
  | _ => none

/-- An iteration over the set of active transactions. -/
structure Walk where
  /-- Size of the set when the iteration started. -/
  size : Nat
  /-- Number of changes made to the set before the iteration started. -/
  revision : Nat
  visited : List String := []

/-- `await`s of `ConnectionLifespan.enter`. -/
inductive Enter
  | writingConnect (server : ConnectionParameters)
  | readingConnected (collected : List AnyFrame)
  /-- A SUBSCRIBE is being written and these subscriptions are left. -/
  | resubscribing (current : Subscription) (remaining : List Subscription)
  /-- Replay of a transaction: the frame with this index, or COMMIT, is being written. -/
  | replaying (walk : Walk) (current : String) (frame : Option (Nat × Frame))

/-- `await`s of `_get_active_connection_state` with the lock held. -/
inductive Phase
  /-- `connect` to these servers is in progress. -/
  | racing (pending : List Nat)
  | entering (connection : ConnectionId) (point : Enter)
  /-- `close` after a failed handshake, with the exception or the issue that comes of it. -/
  | closing (connection : ConnectionId) (outcome : Except Failure ConnectionIssue)
  | sleeping

/-- The holder of the reconnect lock and where it stands. -/
structure Reconnect where
  owner : TaskId
  issues : List ConnectionIssue
  phase : Phase

/-- `ActiveSubscriptions`. -/
structure ActiveSubscriptions where
  subscriptions : Dict String Subscription := Dict.empty
  /-- Whether `event` is set. -/
  event : Bool := true

namespace ActiveSubscriptions

/-- `ActiveSubscriptions.get_by_id`. -/
def getById (active : ActiveSubscriptions) (id : String) : Option Subscription :=
  active.subscriptions.get? id

/-- `ActiveSubscriptions.get_all`. -/
def getAll (active : ActiveSubscriptions) : List Subscription := active.subscriptions.values

/-- `ActiveSubscriptions.contains_by_id`. -/
def containsById (active : ActiveSubscriptions) (id : String) : Bool :=
  active.subscriptions.contains id

/-- `ActiveSubscriptions.delete_by_id`. -/
def deleteById (active : ActiveSubscriptions) (id : String) : ActiveSubscriptions :=
  let subscriptions := active.subscriptions.erase id
  { subscriptions, event := active.event || subscriptions.entries.isEmpty }

/-- `ActiveSubscriptions.add`. -/
def add (active : ActiveSubscriptions) (subscription : Subscription) : ActiveSubscriptions :=
  { subscriptions := active.subscriptions.set subscription.id subscription, event := false }

end ActiveSubscriptions

/-- The state that the tasks share. -/
structure Shared where
  /-- `_active_connection_state`. -/
  active : Option ConnectionId := none
  /-- `_reconnect_lock`, with the progress of its holder. -/
  reconnect : Option Reconnect := none
  /-- `_reconnection_count`. -/
  reconnectionCount : Nat := 0
  subscriptions : ActiveSubscriptions := {}
  /-- `_active_transactions`. -/
  transactions : List String := []
  /-- Number of changes made to `transactions`. -/
  revision : Nat := 0
  /-- `Transaction.sent_frames`. -/
  sentFrames : String → List Frame := fun _ => []
  /-- Heartbeat tasks created; all but the last have been cancelled. -/
  heartbeats : Nat := 0
  /-- No-message monitors created; all but the last have been cancelled. -/
  monitors : Nat := 0
  /-- Free permits of `_handler_semaphore`. -/
  permits : Option Nat := none
  /-- `AckableMessageFrame`s given to handlers. -/
  deliveries : List Delivery := []
  /-- Connections opened so far. -/
  connections : Nat := 0
  /-- Frames received by the listener so far. -/
  messages : Nat := 0
  /-- Connection attempts of earlier races that nobody awaits any more. -/
  abandoned : List Nat := []
  /-- Whether `Client.__aenter__` has returned. -/
  entered : Bool := false
  trace : List Event := []

namespace Shared

/-- Record an event. -/
def emit (shared : Shared) (event : Event) : Shared :=
  { shared with trace := shared.trace ++ [event] }

/-- Call `write_frame`. -/
def hand (shared : Shared) (connection : ConnectionId) (frame : Frame) : Shared :=
  shared.emit (.handed connection frame)

/-- `write_frame` returns. -/
def noteWritten (shared : Shared) (connection : ConnectionId) (frame : Frame) : Shared :=
  shared.emit (.wrote connection frame)

/-- Move the holder of the lock to another `await`. -/
def hold (shared : Shared) (reconnect : Reconnect) (phase : Phase) : Shared :=
  { shared with reconnect := some { reconnect with phase } }

/-- Release the reconnect lock. -/
def release (shared : Shared) : Shared := { shared with reconnect := none }

/-- `ActiveTransactions.add`. -/
def addTransaction (shared : Shared) (id : String) : Shared :=
  if id ∈ shared.transactions then shared
  else
    { shared with
      transactions := shared.transactions ++ [id]
      revision := shared.revision + 1 }

/-- `ActiveTransactions.remove` of a transaction that is present. -/
def removeTransaction (shared : Shared) (id : String) : Shared :=
  { shared with
    transactions := shared.transactions.erase id
    revision := shared.revision + 1 }

/-- `ActiveTransactions.clear`. -/
def clearTransactions (shared : Shared) : Shared :=
  { shared with transactions := [], revision := shared.revision + 1 }

/-- `sent_frames.append(frame)` in `Transaction.send`. -/
def appendSent (shared : Shared) (id : String) (frame : Frame) : Shared :=
  { shared.emit (.called id frame) with
    sentFrames := Function.update shared.sentFrames id (shared.sentFrames id ++ [frame]) }

/-- The part of `_discard_failed_connection_state` before its `await`, for the active connection. -/
def discard (shared : Shared) (connection : ConnectionId) : Shared :=
  { (shared.emit (.discarded connection)).emit (.closed connection) with
    active := none
    reconnectionCount := shared.reconnectionCount + 1 }

end Shared

end Stompman
