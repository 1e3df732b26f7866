import Stompman.Effects

/-!
# Leaving a client

`Client.__aexit__` and what it calls: `ConnectionManager.__aexit__`,
`_close_active_connection_state` and `ConnectionLifespan.exit`.  The task that leaves the client
runs beside the tasks of the client: it awaits some of them, and tasks of the user may use the
client in the meantime and even afterwards.
-/

namespace Stompman

open Foundation

/-- `DisconnectFrame(headers={"receipt": id})`. -/
def disconnectFrame (receipt : String) : Frame :=
  .bodyless .disconnect (Dict.empty.set "receipt" receipt)

/-- `await`s of `Client.__aexit__`. -/
inductive ExitPoint
  /-- `Client.__aexit__` has not been called. -/
  | inUse
  /-- `wait_until_empty`; `released` once the event has been set. -/
  | waitingUntilEmpty (released : Bool)
  /-- `asyncio.wait` for the listener, which has been cancelled. -/
  | stoppingListener
  /-- `asyncio.wait` for the background tasks, which have been cancelled. -/
  | stoppingTasks (tasks : List TaskId)
  /-- The task group of the manager is left. -/
  | leavingManager
  /-- `unsubscribe` in `ConnectionLifespan.exit`, with the subscriptions that are left. -/
  | unsubscribing (connection : ConnectionId) (current : String) (remaining : List Subscription)
      (point : MaybeWrite)
  /-- DISCONNECT is being written. -/
  | disconnecting (connection : ConnectionId) (receipt : String)
  | awaitingReceipt (connection : ConnectionId)
  /-- `close` in `_close_active_connection_state`. -/
  | closing (connection : ConnectionId)
  /-- The task group of the client is left. -/
  | leavingClient
  | exited

/-- A client together with the task that leaves it. -/
structure Session where
  state : State
  exit : ExitPoint := .inUse
  /-- The exception that `Client.__aexit__` is about to raise. -/
  failure : Option Failure := none

/-- Steps of a client and of the task that leaves it. -/
inductive SessionAction
  | client (action : Action)
  /-- `Client.__aexit__` is called, with or without an exception. -/
  | exit (raised : Bool)
  /-- The operation that `Client.__aexit__` awaits is over; `receipt` is what `_make_receipt_id`
  gives if it is called. -/
  | resume (reply : Reply) (receipt : String)

/-- Tasks that are over. -/
def Point.done : Point → Bool
  | .finished | .raised _ => true
  | _ => false

/-- The tasks that `ConnectionManager.__aexit__` cancels. -/
def Shared.backgroundTasks (shared : Shared) : List TaskId :=
  (if shared.heartbeats = 0 then [] else [.heartbeat (shared.heartbeats - 1)]) ++
    if shared.monitors = 0 then [] else [.monitor (shared.monitors - 1)]

/-- The task group of the manager has no unfinished task. -/
def State.managerDone (state : State) : Bool :=
  (List.range state.shared.heartbeats).all (fun generation =>
    (state.tasks (.heartbeat generation)).done) &&
    (List.range state.shared.monitors).all fun generation =>
      (state.tasks (.monitor generation)).done

/-- A waiter in `wait_until_empty` is released as soon as the event is set. -/
def ExitPoint.notices (shared : Shared) : ExitPoint → ExitPoint
  | .waitingUntilEmpty released => .waitingUntilEmpty (released || shared.subscriptions.event)
  | exit => exit

namespace Session

/-- The task that leaves the client goes on to its next `await`. -/
def moves (session : Session) (shared : Shared) (exit : ExitPoint) : Session :=
  { session with state := { session.state with shared }, exit }

/-- An exception that has not been caught. -/
def raises (session : Session) (failure : Failure) : Session :=
  { session with failure := some failure }

/-! ## The connection -/

/-- The `finally` clause of `_close_active_connection_state`. -/
def close (session : Session) (connection : ConnectionId) : Session :=
  let shared := session.state.shared
  session.moves
    { shared.emit (.closed connection) with
      active := if shared.active = some connection then none else shared.active }
    (.closing connection)

/-- An exception of `lifespan.exit()`. -/
def failExit (session : Session) (connection : ConnectionId) (failure : Failure) : Session :=
  if failure = .connectionLost then session.close connection
  else (session.raises failure).close connection

/-- The loop of `unsubscribe_from_all_active_subscriptions`, and what `ConnectionLifespan.exit` does
after it. -/
def unsubscribeFromAll (connection : ConnectionId) (receipt : String) :
    List Subscription → Session → Session
  | [], session =>
      session.moves (session.state.shared.hand connection (disconnectFrame receipt))
        (.disconnecting connection receipt)
  | subscription :: remaining, session =>
      let shared := session.state.shared
      let deleted :=
        { shared.emit (.unsubscribing subscription.id) with
          subscriptions := shared.subscriptions.deleteById subscription.id }
      match MaybeWrite.start (unsubscribeFrame subscription.id) deleted with
      | (shared, .suspended point) =>
          session.moves shared (.unsubscribing connection subscription.id remaining point)
      | (shared, .returned _) =>
          unsubscribeFromAll connection receipt remaining
            (session.moves (shared.emit (.unsubscribed subscription.id)) session.exit)
      | (shared, .raised failure) =>
          (session.moves shared session.exit).failExit connection failure

/-- `_close_active_connection_state`. -/
def closeActiveConnectionState (session : Session) (receipt : String) : Session :=
  match session.state.shared.active with
  | none => { session with exit := .leavingClient }
  | some connection =>
      unsubscribeFromAll connection receipt session.state.shared.subscriptions.getAll session

/-! ## The tasks -/

/-- `ConnectionManager.__aexit__`. -/
def leaveManager (session : Session) : Session :=
  { session with exit := .stoppingTasks session.state.shared.backgroundTasks }

/-- `Client.__aexit__`. -/
def leave (session : Session) (raised : Bool) : Session :=
  -- `Event.wait` returns at once if the event is set
  if raised || session.state.shared.subscriptions.event then
    { session with exit := .stoppingListener }
  else { session with exit := .waitingUntilEmpty false }

/-- `Client.__aexit__` from an `await` on. -/
def resume (session : Session) (reply : Reply) (receipt : String) : Option Session :=
  match session.exit, reply with
  | .waitingUntilEmpty released, .returned =>
      if released then some { session with exit := .stoppingListener } else none
  | .waitingUntilEmpty _, .raised failure =>
      some { session.raises failure with exit := .stoppingListener }
  | .stoppingListener, .returned =>
      if (session.state.tasks .listener).done then some session.leaveManager else none
  | .stoppingListener, .raised failure => some { session.raises failure with exit := .exited }
  | .stoppingTasks tasks, .returned =>
      if tasks.all fun task => (session.state.tasks task).done then
        some { session with exit := .leavingManager }
      else none
  | .stoppingTasks _, .raised failure =>
      some { session.raises failure with exit := .leavingClient }
  | .leavingManager, .returned =>
      if session.state.managerDone then some (session.closeActiveConnectionState receipt) else none
  | .leavingManager, .raised failure =>
      if session.state.managerDone then
        some ((session.raises failure).closeActiveConnectionState receipt)
      else none
  | .unsubscribing connection current remaining point, reply =>
      (point.resume (unsubscribeFrame current) reply session.state.shared).map
        fun (shared, progress) =>
          match progress with
          | .suspended point =>
              session.moves shared (.unsubscribing connection current remaining point)
          | .returned _ =>
              unsubscribeFromAll connection receipt remaining
                (session.moves (shared.emit (.unsubscribed current)) session.exit)
          | .raised failure => (session.moves shared session.exit).failExit connection failure
  | .disconnecting connection receipt, .returned =>
      some (session.moves
        (session.state.shared.noteWritten connection (disconnectFrame receipt))
        (.awaitingReceipt connection))
  | .disconnecting connection _, .raised failure => some (session.failExit connection failure)
  | .awaitingReceipt connection, .frame frame =>
      match frame with
      | .frame given =>
          if given.type = .receipt then some (session.close connection) else some session
      | .heartbeat => some session
  | .awaitingReceipt connection, .returned => some (session.close connection)
  | .awaitingReceipt connection, .timeout => some (session.close connection)
  | .awaitingReceipt connection, .raised failure => some (session.failExit connection failure)
  | .closing _, .returned => some { session with exit := .leavingClient }
  | .closing _, .raised failure => some { session.raises failure with exit := .leavingClient }
  | .leavingClient, .returned =>
      if (session.state.tasks .listener).done then some { session with exit := .exited } else none
  | .leavingClient, .raised failure =>
      if (session.state.tasks .listener).done then
        some { session.raises failure with exit := .exited }
      else none
  | _, _ => none

end Session

variable (settings : Settings)

/-- One step of a client or of the task that leaves it. -/
def sessionStep (session : Session) : SessionAction → Option Session
  | .client action =>
      (step settings session.state action).map fun state =>
        { session with state, exit := session.exit.notices state.shared }
  | .exit raised =>
      match session.exit with
      | .inUse => if session.state.shared.entered then some (session.leave raised) else none
      | _ => none
  | .resume reply receipt => session.resume reply receipt

/-- A client that may be left, as a transition system. -/
def session : System Session SessionAction where
  initial := { state := (client settings).initial }
  step := sessionStep settings

variable {settings}

/-! ## Steps -/

/-- What `Client.__aexit__` does from an `await` on. -/
inductive Session.Resumes (session : Session) (reply : Reply) (receipt : String) : Session → Prop
  /-- The client itself is left alone. -/
  | stays {next : Session} (same : next.state = session.state)
      (ahead : ∀ released, next.exit ≠ .waitingUntilEmpty released) :
      Resumes session reply receipt next
  /-- `_close_active_connection_state` starts. -/
  | closesActive {other : Session} (same : other.state = session.state) :
      Resumes session reply receipt (other.closeActiveConnectionState receipt)
  | closes (connection : ConnectionId) : Resumes session reply receipt (session.close connection)
  | fails (connection : ConnectionId) (failure : Failure) :
      Resumes session reply receipt (session.failExit connection failure)
  /-- The UNSUBSCRIBE of a lost connection: the connection is closed first. -/
  | loses (connection : ConnectionId) (current : String) (remaining : List Subscription)
      (point next : MaybeWrite) (shared : Shared)
      (standing : session.exit = .unsubscribing connection current remaining point)
      (resumed : point.resume (unsubscribeFrame current) reply session.state.shared =
        some (shared, .suspended next)) :
      Resumes session reply receipt
        (session.moves shared (.unsubscribing connection current remaining next))
  | unsubscribes (connection : ConnectionId) (current : String) (remaining : List Subscription)
      (point : MaybeWrite) (shared : Shared) (written : Bool)
      (standing : session.exit = .unsubscribing connection current remaining point)
      (resumed : point.resume (unsubscribeFrame current) reply session.state.shared =
        some (shared, .returned written)) :
      Resumes session reply receipt (Session.unsubscribeFromAll connection receipt remaining
        (session.moves (shared.emit (.unsubscribed current)) session.exit))
  | breaks (connection : ConnectionId) (current : String) (remaining : List Subscription)
      (point : MaybeWrite) (shared : Shared) (failure : Failure)
      (standing : session.exit = .unsubscribing connection current remaining point)
      (resumed : point.resume (unsubscribeFrame current) reply session.state.shared =
        some (shared, .raised failure)) :
      Resumes session reply receipt
        ((session.moves shared session.exit).failExit connection failure)
  | disconnects (connection : ConnectionId) (asked : String) :
      Resumes session reply receipt
        (session.moves (session.state.shared.noteWritten connection (disconnectFrame asked))
          (.awaitingReceipt connection))

theorem Session.resumes_of_resume {session next : Session} {reply : Reply} {receipt : String}
    (resumed : session.resume reply receipt = some next) :
    session.Resumes reply receipt next := by
  have stays : ∀ {other : Session}, some other = some next → other.state = session.state →
      (∀ released, other.exit ≠ .waitingUntilEmpty released) →
      session.Resumes reply receipt next := by
    intro other stepped kept ahead
    obtain rfl := Option.some.inj stepped
    exact .stays kept ahead
  have closesActive : ∀ {other : Session},
      some (other.closeActiveConnectionState receipt) = some next →
      other.state = session.state → session.Resumes reply receipt next := by
    intro other stepped kept
    obtain rfl := Option.some.inj stepped
    exact .closesActive kept
  have closes : ∀ connection, some (session.close connection) = some next →
      session.Resumes reply receipt next := by
    intro connection stepped
    obtain rfl := Option.some.inj stepped
    exact .closes connection
  have fails : ∀ connection failure, some (session.failExit connection failure) = some next →
      session.Resumes reply receipt next := by
    intro connection failure stepped
    obtain rfl := Option.some.inj stepped
    exact .fails connection failure
  unfold Session.resume at resumed
  split at resumed
  · split at resumed
    · exact stays resumed rfl (by simp)
    · contradiction
  · exact stays resumed rfl (by simp)
  · split at resumed
    · exact stays resumed rfl (by simp [Session.leaveManager])
    · contradiction
  · exact stays resumed rfl (by simp)
  · split at resumed
    · exact stays resumed rfl (by simp)
    · contradiction
  · exact stays resumed rfl (by simp)
  · split at resumed
    · exact closesActive resumed rfl
    · contradiction
  · split at resumed
    · exact closesActive resumed rfl
    · contradiction
  · rename_i connection current remaining point standing
    obtain ⟨⟨shared, progress⟩, written, rfl⟩ := Option.map_eq_some_iff.mp resumed
    cases progress with
    | suspended next =>
        exact .loses connection current remaining point next shared standing written
    | returned done =>
        exact .unsubscribes connection current remaining point shared done standing written
    | raised failure =>
        exact .breaks connection current remaining point shared failure standing written
  · rename_i connection asked _
    obtain rfl := Option.some.inj resumed
    exact .disconnects connection asked
  · exact fails _ _ resumed
  · rename_i standing
    split at resumed
    · split at resumed
      · exact closes _ resumed
      · exact stays resumed rfl (by simp [standing])
    · exact stays resumed rfl (by simp [standing])
  · exact closes _ resumed
  · exact closes _ resumed
  · exact fails _ _ resumed
  · exact stays resumed rfl (by simp)
  · exact stays resumed rfl (by simp)
  · split at resumed
    · exact stays resumed rfl (by simp)
    · contradiction
  · split at resumed
    · exact stays resumed rfl (by simp)
    · contradiction
  · contradiction

/-- The relation holds between the shared states before and after each effect that a stretch of
`Client.__aexit__` is made of. -/
structure RelatesExit (relation : Shared → Shared → Prop) : Prop where
  refl : ∀ shared, relation shared shared
  trans : ∀ {before middle after}, relation before middle → relation middle after →
    relation before after
  hands : ∀ shared connection frame, relation shared (shared.hand connection frame)
  writes : ∀ shared connection frame, relation shared (shared.noteWritten connection frame)
  discards : ∀ shared connection, shared.active = some connection →
    relation shared (shared.discard connection)
  closes : ∀ shared connection, relation shared
    { shared.emit (.closed connection) with
      active := if shared.active = some connection then none else shared.active }
  unsubscribing : ∀ shared id, relation shared
    { shared.emit (.unsubscribing id) with subscriptions := shared.subscriptions.deleteById id }
  unsubscribed : ∀ shared id, relation shared (shared.emit (.unsubscribed id))

namespace RelatesExit

variable {relation : Shared → Shared → Prop} {session next : Session} {shared after : Shared}
  {frame : Frame} {progress : Progress MaybeWrite Bool}

theorem admits (relates : RelatesExit relation) : Admits (fun _ => True) relation where
  refl := relates.refl
  trans := relates.trans
  hand shared connection frame _ := relates.hands shared connection frame
  noteWritten := relates.writes
  discard := relates.discards

theorem failExit (relates : RelatesExit relation) (session : Session) (connection : ConnectionId)
    (failure : Failure) :
    relation session.state.shared (session.failExit connection failure).state.shared := by
  unfold Session.failExit
  split
  · exact relates.closes _ _
  · exact relates.closes _ _

theorem unsubscribeFromAll (relates : RelatesExit relation) (connection : ConnectionId)
    (receipt : String) (subscriptions : List Subscription) (session : Session) :
    relation session.state.shared
      (Session.unsubscribeFromAll connection receipt subscriptions session).state.shared := by
  induction subscriptions generalizing session with
  | nil => exact relates.hands _ _ _
  | cons subscription remaining ih =>
      have started := relates.trans (relates.unsubscribing session.state.shared subscription.id)
        (relates.admits.maybeStarts trivial
          (maybeStart_effects (unsubscribeFrame subscription.id) _))
      rw [Session.unsubscribeFromAll]
      generalize MaybeWrite.start (unsubscribeFrame subscription.id) _ = result at started
      obtain ⟨shared, progress⟩ := result
      cases progress with
      | suspended point => exact started
      | returned written =>
          have ended := relates.trans started (relates.unsubscribed shared subscription.id)
          have rest := ih
            (session.moves (shared.emit (.unsubscribed subscription.id)) session.exit)
          exact relates.trans ended rest
      | raised failure =>
          have failed := relates.failExit (session.moves shared session.exit) connection failure
          exact relates.trans started failed

theorem resume (relates : RelatesExit relation) {reply : Reply} {receipt : String}
    (resumed : session.resume reply receipt = some next) :
    relation session.state.shared next.state.shared := by
  cases Session.resumes_of_resume resumed with
  | stays same =>
      rw [same]
      exact relates.refl _
  | @closesActive other same =>
      rw [← same]
      unfold Session.closeActiveConnectionState
      split
      · exact relates.refl _
      · exact relates.unsubscribeFromAll _ _ _ other
  | closes connection => exact relates.closes _ _
  | fails connection failure => exact relates.failExit session connection failure
  | loses connection current remaining point next shared standing written =>
      exact relates.admits.maybeWrites (maybeResume_effects written)
  | unsubscribes connection current remaining point shared done standing written =>
      have wrote := relates.admits.maybeWrites (maybeResume_effects written)
      have ended := relates.trans wrote (relates.unsubscribed shared current)
      have rest := relates.unsubscribeFromAll connection receipt remaining
        (session.moves (shared.emit (.unsubscribed current)) session.exit)
      exact relates.trans ended rest
  | breaks connection current remaining point shared failure standing written =>
      have wrote := relates.admits.maybeWrites (maybeResume_effects written)
      have failed := relates.failExit (session.moves shared session.exit) connection failure
      exact relates.trans wrote failed
  | disconnects connection asked => exact relates.writes _ _ _

end RelatesExit

namespace Session

variable {session next : Session} {connection : ConnectionId} {receipt : String}

theorem tasks_failExit (session : Session) (connection : ConnectionId) (failure : Failure) :
    (session.failExit connection failure).state.tasks = session.state.tasks := by
  unfold Session.failExit
  split <;> rfl

theorem tasks_unsubscribeFromAll (subscriptions : List Subscription) (session : Session) :
    (unsubscribeFromAll connection receipt subscriptions session).state.tasks =
      session.state.tasks := by
  induction subscriptions generalizing session with
  | nil => rfl
  | cons subscription remaining ih =>
      rw [unsubscribeFromAll]
      split
      · rfl
      · rw [ih]
        rfl
      · rw [tasks_failExit]
        rfl

/-- The task that leaves the client resumes no other task itself. -/
theorem tasks_resume {reply : Reply} (resumed : session.resume reply receipt = some next) :
    next.state.tasks = session.state.tasks := by
  cases Session.resumes_of_resume resumed with
  | stays same => rw [same]
  | @closesActive other same =>
      rw [← same]
      unfold Session.closeActiveConnectionState
      split
      · rfl
      · exact tasks_unsubscribeFromAll _ other
  | closes => rfl
  | fails connection failure => exact tasks_failExit session connection failure
  | loses => rfl
  | unsubscribes => exact tasks_unsubscribeFromAll _ _
  | breaks connection current remaining point shared failure =>
      exact tasks_failExit (session.moves shared session.exit) connection failure
  | disconnects => rfl

end Session

/-- The runs of a client are the runs of a session in which the client is not left. -/
theorem reaches_session {allowed : State → Action → Prop} {state : State}
    (reach : (client settings).Reaches allowed state) :
    (session settings).Reaches
      (fun current action => ∃ own, action = .client own ∧
        allowed current.state own) { state } := by
  induction reach with
  | initial => exact .initial
  | step _ meets stepped ih =>
      refine .step ih ⟨_, rfl, meets⟩ ?_
      exact Option.map_eq_some_iff.mpr ⟨_, stepped, rfl⟩

end Stompman
