import Stompman.Traffic

/-!
# The last frames on a connection

`ConnectionManager.__aexit__` waits for its tasks and then closes the connection: each subscription
is unsubscribed in turn, DISCONNECT is written, and `close` is called.  `Farewell` is this shape of
what happens.  It is kept, whatever the writes do, as long as the user has no call or handler in
progress, because no other task of the client runs any more.
-/

namespace Stompman

open Foundation

/-! ## Farewells -/

/-- What `_close_active_connection_state` does on a connection up to its `close`, with the
subscriptions that are left; `alive` is false once an UNSUBSCRIBE has been lost. -/
inductive Farewell (connection : ConnectionId) : Bool → List Subscription → List Event → Prop
  | writes {subscription : Subscription} {remaining : List Subscription} {events : List Event}
      (later : Farewell connection true remaining events) :
      Farewell connection true (subscription :: remaining)
        (.unsubscribing subscription.id ::
          .handed connection (unsubscribeFrame subscription.id) ::
          .wrote connection (unsubscribeFrame subscription.id) ::
          .unsubscribed subscription.id :: events)
  /-- The UNSUBSCRIBE is lost, and the connection is discarded. -/
  | loses {subscription : Subscription} {remaining : List Subscription} {events : List Event}
      (later : Farewell connection false remaining events) :
      Farewell connection true (subscription :: remaining)
        (.unsubscribing subscription.id ::
          .handed connection (unsubscribeFrame subscription.id) ::
          .discarded connection :: .closed connection ::
          .unsubscribed subscription.id :: events)
  /-- The write raises another exception. -/
  | breaks {subscription : Subscription} {remaining : List Subscription} :
      Farewell connection true (subscription :: remaining)
        [.unsubscribing subscription.id, .handed connection (unsubscribeFrame subscription.id),
          .closed connection]
  /-- The `close` of the lost connection raises. -/
  | losesAndBreaks {subscription : Subscription} {remaining : List Subscription} :
      Farewell connection true (subscription :: remaining)
        [.unsubscribing subscription.id, .handed connection (unsubscribeFrame subscription.id),
          .discarded connection, .closed connection, .closed connection]
  /-- There is no connection any more, and the UNSUBSCRIBE is dropped. -/
  | skips {subscription : Subscription} {remaining : List Subscription} {events : List Event}
      (later : Farewell connection false remaining events) :
      Farewell connection false (subscription :: remaining)
        (.unsubscribing subscription.id :: .unsubscribed subscription.id :: events)
  | disconnects (alive : Bool) (receipt : String) :
      Farewell connection alive []
        [.handed connection (disconnectFrame receipt), .wrote connection (disconnectFrame receipt),
          .closed connection]
  /-- DISCONNECT is lost. -/
  | fails (alive : Bool) (receipt : String) :
      Farewell connection alive []
        [.handed connection (disconnectFrame receipt), .closed connection]

namespace Farewell

variable {connection : ConnectionId} {alive : Bool} {subscriptions : List Subscription}
  {events : List Event}

/-- UNSUBSCRIBE frames of some of the subscriptions, in order, and then DISCONNECT are written. -/
theorem sublist (farewell : Farewell connection alive subscriptions events) :
    ∃ receipt, (events.filterMap Event.handed?).Sublist
      ((subscriptions.map fun subscription => (connection, unsubscribeFrame subscription.id)) ++
        [(connection, disconnectFrame receipt)]) := by
  induction farewell with
  | writes later ih =>
      obtain ⟨receipt, ih⟩ := ih
      exact ⟨receipt, ih.cons_cons _⟩
  | loses later ih =>
      obtain ⟨receipt, ih⟩ := ih
      exact ⟨receipt, ih.cons_cons _⟩
  | breaks => exact ⟨"", (List.nil_sublist _).cons_cons _⟩
  | losesAndBreaks => exact ⟨"", (List.nil_sublist _).cons_cons _⟩
  | skips later ih =>
      obtain ⟨receipt, ih⟩ := ih
      exact ⟨receipt, ih.cons _⟩
  | disconnects alive receipt => exact ⟨receipt, List.Sublist.refl _⟩
  | fails alive receipt => exact ⟨receipt, List.Sublist.refl _⟩

end Farewell

/-- What is left of a farewell at an `await` of `Client.__aexit__`. -/
inductive ExitPoint.Remains (connection : ConnectionId) : ExitPoint → List Event → Prop
  | writes (id : String) (remaining : List Subscription) {events : List Event}
      (later : Farewell connection true remaining events) :
      Remains connection (.unsubscribing connection id remaining (.writing connection))
        (.wrote connection (unsubscribeFrame id) :: .unsubscribed id :: events)
  | loses (id : String) (remaining : List Subscription) {events : List Event}
      (later : Farewell connection false remaining events) :
      Remains connection (.unsubscribing connection id remaining (.writing connection))
        (.discarded connection :: .closed connection :: .unsubscribed id :: events)
  | breaks (id : String) (remaining : List Subscription) :
      Remains connection (.unsubscribing connection id remaining (.writing connection))
        [.closed connection]
  | losesAndBreaks (id : String) (remaining : List Subscription) :
      Remains connection (.unsubscribing connection id remaining (.writing connection))
        [.discarded connection, .closed connection, .closed connection]
  | skips (id : String) (remaining : List Subscription) {events : List Event}
      (later : Farewell connection false remaining events) :
      Remains connection (.unsubscribing connection id remaining (.discarding connection))
        (.unsubscribed id :: events)
  | stops (id : String) (remaining : List Subscription) :
      Remains connection (.unsubscribing connection id remaining (.discarding connection))
        [.closed connection]
  | disconnects (receipt : String) :
      Remains connection (.disconnecting connection receipt)
        [.wrote connection (disconnectFrame receipt), .closed connection]
  | fails (receipt : String) :
      Remains connection (.disconnecting connection receipt) [.closed connection]
  | awaits : Remains connection (.awaitingReceipt connection) [.closed connection]
  | closes : Remains connection (.closing connection) []
  | leaves : Remains connection .leavingClient []
  | exits : Remains connection .exited []

/-- The `close` of the connection has been called. -/
def ExitPoint.Over (connection : ConnectionId) (exit : ExitPoint) : Prop :=
  exit = .closing connection ∨ exit = .leavingClient ∨ exit = .exited

theorem ExitPoint.Over.remains_iff {connection : ConnectionId} {exit : ExitPoint}
    (shut : exit.Over connection) (rest : List Event) :
    exit.Remains connection rest ↔ rest = [] := by
  constructor
  · intro remains
    rcases shut with rfl | rfl | rfl <;> cases remains <;> rfl
  · rintro rfl
    rcases shut with rfl | rfl | rfl
    · exact .closes
    · exact .leaves
    · exact .exits

/-- The return of `connect`. -/
def Event.opens : Event → Bool
  | .opened _ => true
  | _ => false

/-- What has happened, apart from connections that were opened. -/
def Shared.log (shared : Shared) : List Event := shared.trace.filter fun event => !event.opens

@[simp] theorem Shared.log_emit (shared : Shared) {event : Event} (kept : event.opens = false) :
    (shared.emit event).log = shared.log ++ [event] := by
  simp [Shared.log, Shared.emit, kept]

theorem Shared.log_emit_emit (shared : Shared) {first second : Event} (early : first.opens = false)
    (late : second.opens = false) :
    ((shared.emit first).emit second).log = shared.log ++ [first, second] := by
  simp [early, late]

/-! ## Steps of `Client.__aexit__` -/

namespace Session

/-- What has happened leads to a list of events with a property, whatever is left. -/
structure Approaches (connection : ConnectionId) (earlier : List Event)
    (goal : List Event → Prop) (session : Session) : Prop where
  log : ∃ events, session.state.shared.log = earlier ++ events ∧
    ∀ rest, session.exit.Remains connection rest → goal (events ++ rest)
  remains : ∃ rest, session.exit.Remains connection rest
  active : session.state.shared.active = none ∨ session.state.shared.active = some connection
  /-- An UNSUBSCRIBE is written on the active connection, and a lost connection is not active. -/
  writing : ∀ id remaining point,
    session.exit = .unsubscribing connection id remaining point →
      (session.state.shared.active.isSome = true ↔ point = .writing connection)
  /-- After its `close` the connection is not active. -/
  shut : session.exit.Over connection → session.state.shared.active = none

variable {connection : ConnectionId} {earlier : List Event} {goal : List Event → Prop}
  {session next : Session}

/-- Events that have happened before. -/
theorem Approaches.behind {between : List Event → Prop} {base middle : List Event}
    (approaches : session.Approaches connection base between) (split : base = earlier ++ middle)
    (leads : ∀ events, between events → goal (middle ++ events)) :
    session.Approaches connection earlier goal where
  log := by
    obtain ⟨events, log_eq, joins⟩ := approaches.log
    refine ⟨middle ++ events, by rw [log_eq, split, List.append_assoc], fun rest left => ?_⟩
    rw [List.append_assoc]
    exact leads _ (joins rest left)
  remains := approaches.remains
  active := approaches.active
  writing := approaches.writing
  shut := approaches.shut

theorem active_close (active : session.state.shared.active = none ∨
    session.state.shared.active = some connection) :
    (session.close connection).state.shared.active = none := by
  rcases active with idle | held
  · simp [close, moves, idle]
  · simp [close, moves, held]

theorem approaches_close (active : session.state.shared.active = none ∨
    session.state.shared.active = some connection) (ends : goal [.closed connection]) :
    (session.close connection).Approaches connection session.state.shared.log goal where
  log := by
    refine ⟨[.closed connection], Shared.log_emit _ rfl, fun rest left => ?_⟩
    cases left with
    | closes => exact ends
  remains := ⟨[], .closes⟩
  active := .inl (active_close active)
  writing id remaining point standing := by contradiction
  shut _ := active_close active

theorem approaches_failExit (active : session.state.shared.active = none ∨
    session.state.shared.active = some connection) (ends : goal [.closed connection])
    (failure : Failure) :
    (session.failExit connection failure).Approaches connection session.state.shared.log goal := by
  unfold failExit
  split
  · exact approaches_close active ends
  · exact @approaches_close _ _ (session.raises failure) active ends

/-- The shared state after `delete_by_id` in `unsubscribe`. -/
def deleting (session : Session) (id : String) : Shared :=
  { session.state.shared.emit (.unsubscribing id) with
    subscriptions := session.state.shared.subscriptions.deleteById id }

theorem unsubscribeFromAll_of_idle (idle : session.state.shared.active = none)
    (subscription : Subscription) (remaining : List Subscription) (receipt : String) :
    unsubscribeFromAll connection receipt (subscription :: remaining) session =
      unsubscribeFromAll connection receipt remaining
        (session.moves ((session.deleting subscription.id).emit (.unsubscribed subscription.id))
          session.exit) := by
  simp [unsubscribeFromAll, MaybeWrite.start, Shared.emit, deleting, idle]

theorem unsubscribeFromAll_of_held (held : session.state.shared.active = some connection)
    (subscription : Subscription) (remaining : List Subscription) (receipt : String) :
    unsubscribeFromAll connection receipt (subscription :: remaining) session =
      session.moves
        ((session.deleting subscription.id).hand connection (unsubscribeFrame subscription.id))
        (.unsubscribing connection subscription.id remaining (.writing connection)) := by
  simp [unsubscribeFromAll, MaybeWrite.start, Shared.emit, deleting, held]

/-- The loop of `unsubscribe_from_all_active_subscriptions` starts a farewell. -/
theorem approaches_unsubscribeFromAll (connection : ConnectionId) (session : Session) (alive : Bool)
    (receipt : String) (subscriptions : List Subscription) {goal : List Event → Prop}
    (active : session.state.shared.active = if alive then some connection else none)
    (completes : ∀ events, Farewell connection alive subscriptions events → goal events) :
    (unsubscribeFromAll connection receipt subscriptions session).Approaches connection
      session.state.shared.log goal := by
  induction subscriptions generalizing session goal with
  | nil =>
      refine ⟨⟨[.handed connection (disconnectFrame receipt)], Shared.log_emit _ rfl, ?_⟩,
        ⟨_, .fails receipt⟩, ?_, ?_, ?_⟩
      · intro rest left
        cases left with
        | disconnects => exact completes _ (.disconnects _ receipt)
        | fails => exact completes _ (.fails _ receipt)
      · cases alive with
        | true => exact .inr active
        | false => exact .inl active
      · intro id remaining point standing
        contradiction
      · rintro (impossible | impossible | impossible) <;> contradiction
  | cons subscription remaining ih =>
      cases alive with
      | false =>
          have later := ih (session.moves ((session.deleting subscription.id).emit
            (.unsubscribed subscription.id)) session.exit) active fun events rest => rest
          rw [unsubscribeFromAll_of_idle active]
          exact later.behind (Shared.log_emit_emit _ rfl rfl)
            fun events rest => completes _ (.skips rest)
      | true =>
          rw [unsubscribeFromAll_of_held active]
          refine ⟨⟨_, Shared.log_emit_emit _ rfl rfl, ?_⟩, ⟨_, .breaks _ _⟩, .inr active, ?_, ?_⟩
          · intro rest left
            cases left with
            | writes _ _ later => exact completes _ (.writes later)
            | loses _ _ later => exact completes _ (.loses later)
            | breaks => exact completes _ .breaks
            | losesAndBreaks => exact completes _ .losesAndBreaks
          · rintro id others point ⟨⟩
            simp [moves, Shared.hand, Shared.emit, deleting, active]
          · rintro (impossible | impossible | impossible) <;> contradiction

/-- Where a farewell can stand. -/
theorem standing_of_remains {exit : ExitPoint} {rest : List Event}
    (remains : exit.Remains connection rest) :
    (∃ id remaining, exit = .unsubscribing connection id remaining (.writing connection)) ∨
      (∃ id remaining, exit = .unsubscribing connection id remaining (.discarding connection)) ∨
      (∃ receipt, exit = .disconnecting connection receipt) ∨
      exit = .awaitingReceipt connection ∨ exit.Over connection := by
  cases remains <;> simp [ExitPoint.Over]

section Resume

variable {id receipt : String} {remaining : List Subscription} {reply : Reply}

/-- An UNSUBSCRIBE is being written. -/
theorem approaches_writing
    (standing : session.exit = .unsubscribing connection id remaining (.writing connection))
    (held : session.state.shared.active = some connection)
    (resumed : session.resume reply receipt = some next) :
    next.Approaches connection session.state.shared.log (session.exit.Remains connection) := by
  rw [standing]
  simp only [Session.resume, standing, MaybeWrite.resume] at resumed
  split at resumed
  · obtain rfl := Option.some.inj resumed
    have later := approaches_unsubscribeFromAll connection (session.moves
      ((session.state.shared.noteWritten connection (unsubscribeFrame id)).emit (.unsubscribed id))
      session.exit) true receipt remaining held fun events rest => rest
    rw [standing] at later
    exact later.behind (Shared.log_emit_emit _ rfl rfl)
      fun events rest => .writes id remaining rest
  · rw [if_pos held] at resumed
    obtain rfl := Option.some.inj resumed
    refine ⟨⟨_, Shared.log_emit_emit _ rfl rfl, ?_⟩, ⟨_, .stops id remaining⟩, .inl rfl, ?_, ?_⟩
    · intro rest left
      cases left with
      | skips _ _ later => exact .loses id remaining later
      | stops => exact .losesAndBreaks id remaining
    · rintro other others point ⟨⟩
      simp [moves, Shared.discard]
    · rintro (impossible | impossible | impossible) <;> contradiction
  · obtain rfl := Option.some.inj resumed
    exact approaches_failExit (.inr held) (.breaks id remaining) _
  · contradiction

/-- The lost connection is being closed. -/
theorem approaches_discarding
    (standing : session.exit = .unsubscribing connection id remaining (.discarding connection))
    (idle : session.state.shared.active = none)
    (resumed : session.resume reply receipt = some next) :
    next.Approaches connection session.state.shared.log (session.exit.Remains connection) := by
  rw [standing]
  simp only [Session.resume, standing, MaybeWrite.resume] at resumed
  split at resumed
  · obtain rfl := Option.some.inj resumed
    have later := approaches_unsubscribeFromAll connection (session.moves
      (session.state.shared.emit (.unsubscribed id)) session.exit) false receipt remaining idle
      fun events rest => rest
    rw [standing] at later
    exact later.behind (Shared.log_emit _ rfl) fun events rest => .skips id remaining rest
  · obtain rfl := Option.some.inj resumed
    exact approaches_failExit (.inl idle) (.stops id remaining) _
  · contradiction

/-- DISCONNECT is being written. -/
theorem approaches_disconnecting {asked : String}
    (standing : session.exit = .disconnecting connection asked)
    (active : session.state.shared.active = none ∨ session.state.shared.active = some connection)
    (resumed : session.resume reply receipt = some next) :
    next.Approaches connection session.state.shared.log (session.exit.Remains connection) := by
  rw [standing]
  cases reply with
  | returned =>
      simp only [Session.resume, standing] at resumed
      obtain rfl := Option.some.inj resumed
      refine ⟨⟨_, Shared.log_emit _ rfl, ?_⟩, ⟨_, .awaits⟩, active, ?_, ?_⟩
      · intro rest left
        cases left with
        | awaits => exact .disconnects asked
      · intro other others point impossible
        contradiction
      · rintro (impossible | impossible | impossible) <;> contradiction
  | raised failure =>
      simp only [Session.resume, standing] at resumed
      obtain rfl := Option.some.inj resumed
      exact approaches_failExit active (.fails asked) failure
  | _ => simp [Session.resume, standing] at resumed

/-- Nothing happens. -/
theorem approaches_of_same (same : next.state = session.state)
    (active : session.state.shared.active = none ∨ session.state.shared.active = some connection)
    (remains : ∃ rest, next.exit.Remains connection rest)
    (narrows : ∀ rest, next.exit.Remains connection rest → session.exit.Remains connection rest)
    (past : ∀ id remaining point, next.exit ≠ .unsubscribing connection id remaining point)
    (shut : next.exit.Over connection → session.state.shared.active = none) :
    next.Approaches connection session.state.shared.log (session.exit.Remains connection) where
  log := ⟨[], by rw [same, List.append_nil], narrows⟩
  remains := remains
  active := by rwa [same]
  writing id remaining point standing := absurd standing (past id remaining point)
  shut ended := by
    rw [same]
    exact shut ended

/-- The receipt is awaited. -/
theorem approaches_awaiting (standing : session.exit = .awaitingReceipt connection)
    (active : session.state.shared.active = none ∨ session.state.shared.active = some connection)
    (resumed : session.resume reply receipt = some next) :
    next.Approaches connection session.state.shared.log (session.exit.Remains connection) := by
  have left : session.exit.Remains connection [.closed connection] := standing ▸ .awaits
  have stays : session.Approaches connection session.state.shared.log
      (session.exit.Remains connection) := by
    refine approaches_of_same rfl active ⟨_, left⟩ (fun rest left => left) ?_ ?_
    · simp [standing]
    · simp [standing, ExitPoint.Over]
  have closes := approaches_close active left
  cases reply with
  | frame read =>
      cases read with
      | heartbeat =>
          simp only [Session.resume, standing] at resumed
          obtain rfl := Option.some.inj resumed
          exact stays
      | frame given =>
          simp only [Session.resume, standing] at resumed
          split at resumed
          · obtain rfl := Option.some.inj resumed
            exact closes
          · obtain rfl := Option.some.inj resumed
            exact stays
  | returned | timeout =>
      simp only [Session.resume, standing] at resumed
      obtain rfl := Option.some.inj resumed
      exact closes
  | raised failure =>
      simp only [Session.resume, standing] at resumed
      obtain rfl := Option.some.inj resumed
      exact approaches_failExit active left failure
  | _ => simp [Session.resume, standing] at resumed

/-- The connection is closed, or the task group of the client is left. -/
theorem approaches_over (shut : session.exit.Over connection)
    (idle : session.state.shared.active = none)
    (resumed : session.resume reply receipt = some next) :
    next.Approaches connection session.state.shared.log (session.exit.Remains connection) := by
  have ahead : next.state = session.state ∧ (next.exit = .leavingClient ∨ next.exit = .exited) := by
    rcases shut with standing | standing | standing
    · cases reply with
      | returned | raised =>
          simp only [Session.resume, standing] at resumed
          obtain rfl := Option.some.inj resumed
          exact ⟨rfl, .inl rfl⟩
      | _ => simp [Session.resume, standing] at resumed
    · cases reply with
      | returned | raised =>
          simp only [Session.resume, standing] at resumed
          split at resumed
          · obtain rfl := Option.some.inj resumed
            exact ⟨rfl, .inr rfl⟩
          · contradiction
      | _ => simp [Session.resume, standing] at resumed
    · simp [Session.resume, standing] at resumed
  obtain ⟨same, past⟩ := ahead
  have ends : next.exit.Over connection := .inr past
  refine approaches_of_same same (.inl idle) ⟨[], (ends.remains_iff []).mpr rfl⟩ ?_ ?_ fun _ => idle
  · intro rest remains
    rw [ends.remains_iff] at remains
    exact (shut.remains_iff rest).mpr remains
  · rcases past with leaving | exited
    · simp [leaving]
    · simp [exited]

end Resume

/-- `Client.__aexit__` goes on. -/
theorem Approaches.resume (approaches : session.Approaches connection earlier goal) {reply : Reply}
    {receipt : String} (resumed : session.resume reply receipt = some next) :
    next.Approaches connection earlier goal := by
  obtain ⟨middle, split, leads⟩ := approaches.log
  obtain ⟨rest, left⟩ := approaches.remains
  have active := approaches.active
  suffices next.Approaches connection session.state.shared.log
      (session.exit.Remains connection) from this.behind split leads
  rcases standing_of_remains left with ⟨id, remaining, standing⟩ | ⟨id, remaining, standing⟩ |
    ⟨asked, standing⟩ | standing | shut
  · have alive := (approaches.writing id remaining _ standing).mpr rfl
    refine approaches_writing standing ?_ resumed
    exact active.resolve_left (Option.isSome_iff_ne_none.mp alive)
  · have lost : ¬ session.state.shared.active.isSome = true := by
      rw [approaches.writing id remaining _ standing]
      simp
    exact approaches_discarding standing (by simpa using lost) resumed
  · exact approaches_disconnecting standing active resumed
  · exact approaches_awaiting standing active resumed
  · exact approaches_over shut (approaches.shut shut) resumed

end Session

/-! ## The other tasks -/

/-- Steps of the tasks that the client creates for itself, ends of connection attempts that nobody
awaits and done-callbacks: neither a call of the user nor a handler. -/
def Action.unattended : Action → Bool
  | .resume task _ _ =>
      match task with
      | .starter | .listener | .heartbeat _ | .monitor _ => true
      | _ => false
  | .abandonedConnect .. | .release _ => true
  | _ => false

/-- Steps of the task that leaves the client, and unattended steps of the client. -/
def SessionAction.unattended : SessionAction → Bool
  | .client action => action.unattended
  | _ => true

/-- The tasks that the client creates for itself are over. -/
structure State.Stopped (state : State) : Prop where
  starter : state.tasks .starter = .absent ∨ (state.tasks .starter).done = true
  listener : (state.tasks .listener).done = true
  manager : state.managerDone = true

theorem Point.resume_of_done (settings : Settings) {point : Point} (ended : point.done = true)
    (task : TaskId) (reply : Reply) (choice : Choice) (shared : Shared) :
    point.resume settings task reply choice shared = none := by
  cases point with
  | finished | raised => rfl
  | _ => contradiction

namespace State.Stopped

variable {settings : Settings} {state after : State}

theorem of_listener (fits : state.Fits) (listener : (state.tasks .listener).done = true)
    (manager : state.managerDone = true) : state.Stopped where
  starter := by
    have born : state.tasks .listener ≠ .absent := by
      intro absent
      rw [absent] at listener
      contradiction
    have started := mt fits.listener born
    have own := fits.tasks .starter
    generalize state.tasks .starter = point at started own
    cases point <;> simp_all [Point.Fits, Job.Runs, Duty.Runs, Point.done]
  listener := listener
  manager := manager

/-- A stopped task is not resumed. -/
theorem resume_eq_none (stopped : state.Stopped) {task : TaskId} {reply : Reply} {choice : Choice}
    (unattended : (Action.resume task reply choice).unattended = true) :
    step settings state (.resume task reply choice) = none := by
  have manager := stopped.manager
  simp only [State.managerDone, Bool.and_eq_true, List.all_eq_true, List.mem_range] at manager
  simp only [step]
  split
  · rename_i created
    suffices (state.tasks task).resume settings task reply choice state.shared = none by
      rw [this]
      rfl
    cases task with
    | starter =>
        rcases stopped.starter with absent | ended
        · rw [absent]
          rfl
        · exact Point.resume_of_done settings ended _ _ _ _
    | listener => exact Point.resume_of_done settings stopped.listener _ _ _ _
    | heartbeat generation =>
        exact Point.resume_of_done settings
          (manager.1 generation (of_decide_eq_true created)) _ _ _ _
    | monitor generation =>
        exact Point.resume_of_done settings
          (manager.2 generation (of_decide_eq_true created)) _ _ _ _
    | _ => contradiction
  · rfl

/-- Without the user nothing happens but that attempts of earlier races end. -/
theorem step (stopped : state.Stopped) {action : Action} (unattended : action.unattended = true)
    (stepped : Stompman.step settings state action = some after) :
    after.Stopped ∧ after.shared.log = state.shared.log ∧
      after.shared.active = state.shared.active := by
  cases action with
  | resume task reply choice =>
      rw [stopped.resume_eq_none unattended] at stepped
      contradiction
  | abandonedConnect server connected =>
      simp only [Stompman.step] at stepped
      split at stepped
      · obtain rfl := Option.some.inj stepped
        cases connected with
        | true =>
            refine ⟨⟨stopped.starter, stopped.listener, stopped.manager⟩, ?_, rfl⟩
            simp [Shared.log, Shared.emit, Event.opens]
        | false => exact ⟨⟨stopped.starter, stopped.listener, stopped.manager⟩, rfl, rfl⟩
      · contradiction
  | release message =>
      simp only [Stompman.step] at stepped
      split at stepped
      · obtain rfl := Option.some.inj stepped
        refine ⟨⟨?_, ?_, ?_⟩, rfl, rfl⟩
        · simpa [State.store] using stopped.starter
        · simpa [State.store] using stopped.listener
        · simpa [State.store, State.managerDone] using stopped.manager
      · contradiction
  | _ => contradiction

end State.Stopped

/-! ## Runs -/

namespace Session

variable {settings : Settings} {session next : Session} {connection : ConnectionId}
  {earlier : List Event} {goal : List Event → Prop}

theorem relatesExit_sameTasks :
    RelatesExit fun before after =>
      after.heartbeats = before.heartbeats ∧ after.monitors = before.monitors where
  refl _ := ⟨rfl, rfl⟩
  trans first second := ⟨second.1.trans first.1, second.2.trans first.2⟩
  hands _ _ _ := ⟨rfl, rfl⟩
  writes _ _ _ := ⟨rfl, rfl⟩
  discards _ _ _ := ⟨rfl, rfl⟩
  closes _ _ := ⟨rfl, rfl⟩
  unsubscribing _ _ := ⟨rfl, rfl⟩
  unsubscribed _ _ := ⟨rfl, rfl⟩

/-- The task that leaves the client starts no other task. -/
theorem stopped_resume (stopped : session.state.Stopped) {reply : Reply} {receipt : String}
    (resumed : session.resume reply receipt = some next) : next.state.Stopped := by
  have tasks := tasks_resume resumed
  obtain ⟨heartbeats, monitors⟩ := relatesExit_sameTasks.resume resumed
  refine ⟨?_, ?_, ?_⟩
  · rw [tasks]
    exact stopped.starter
  · rw [tasks]
    exact stopped.listener
  · rw [State.managerDone, tasks, heartbeats, monitors]
    exact stopped.manager

/-- A farewell goes on, and no other task of the client runs. -/
structure Departing (connection : ConnectionId) (earlier : List Event)
    (goal : List Event → Prop) (session : Session) : Prop where
  stopped : session.state.Stopped
  approaches : session.Approaches connection earlier goal

theorem Departing.step (departing : session.Departing connection earlier goal)
    {action : SessionAction} (unattended : action.unattended = true)
    (stepped : sessionStep settings session action = some next) :
    next.Departing connection earlier goal := by
  obtain ⟨stopped, approaches⟩ := departing
  obtain ⟨rest, left⟩ := approaches.remains
  cases action with
  | client action =>
      obtain ⟨state, moved, rfl⟩ := Option.map_eq_some_iff.mp stepped
      obtain ⟨still, log, active⟩ := stopped.step unattended moved
      have stays : session.exit.notices state.shared = session.exit := by
        cases exit : session.exit <;> first | rfl | (rw [exit] at left; cases left)
      refine ⟨still, ?_⟩
      rw [stays]
      refine ⟨?_, approaches.remains, ?_, ?_, ?_⟩
      · simpa only [log] using approaches.log
      · simpa only [active] using approaches.active
      · simpa only [active] using approaches.writing
      · simpa only [active] using approaches.shut
  | exit raised =>
      simp only [sessionStep] at stepped
      split at stepped
      · rename_i unused
        rw [unused] at left
        cases left
      · contradiction
  | resume reply receipt => exact ⟨stopped_resume stopped stepped, approaches.resume stepped⟩

/-- `_close_active_connection_state` starts. -/
theorem departing_of_leavingManager {start : Session}
    (reach : (Stompman.session settings).Reachable start) (leaving : start.exit = .leavingManager)
    (active : start.state.shared.active = some connection) {reply : Reply} {receipt : String}
    (resumed : start.resume reply receipt = some next) :
    next.Departing connection start.state.shared.log
      (Farewell connection true start.state.shared.subscriptions.getAll) := by
  have attached := attached_of_reaches reach
  have listener := attached.stopped (by rw [leaving]; rfl)
  have starts : ∀ session : Session, session.state = start.state →
      (session.closeActiveConnectionState receipt).Approaches connection start.state.shared.log
        (Farewell connection true start.state.shared.subscriptions.getAll) := by
    intro session same
    unfold closeActiveConnectionState
    rw [same, active]
    rw [← same] at active ⊢
    exact approaches_unsubscribeFromAll connection session true receipt _ active
      fun events farewell => farewell
  have closes : start.state.managerDone = true ∧ ∃ session : Session,
      session.state = start.state ∧ next = session.closeActiveConnectionState receipt := by
    cases reply with
    | returned =>
        simp only [Session.resume, leaving] at resumed
        split at resumed
        · rename_i manager
          exact ⟨manager, start, rfl, (Option.some.inj resumed).symm⟩
        · contradiction
    | raised failure =>
        simp only [Session.resume, leaving] at resumed
        split at resumed
        · rename_i manager
          exact ⟨manager, start.raises failure, rfl, (Option.some.inj resumed).symm⟩
        · contradiction
    | _ => simp [Session.resume, leaving] at resumed
  obtain ⟨manager, session, same, rfl⟩ := closes
  exact ⟨stopped_resume (.of_listener attached.placed.fits listener manager) resumed,
    starts session same⟩

end Session

/-- If the user has no call and no handler in progress, then from the moment at which
`ConnectionManager.__aexit__` has waited for its tasks, whatever the writes do: each subscription
is unsubscribed in turn, DISCONNECT is passed to the connection at most once and last, nothing else
is passed to any connection, and once the connection is closed none is active. -/
theorem farewell_of_reachable {settings : Settings} {start next current : Session}
    (reach : (session settings).Reachable start) (leaving : start.exit = .leavingManager)
    {connection : ConnectionId} (active : start.state.shared.active = some connection)
    {reply : Reply} {receipt : String} (resumed : start.resume reply receipt = some next)
    (run : ({ session settings with initial := next } : System Session SessionAction).Reaches
      (fun _ action => action.unattended = true) current) :
    ∃ events whole asked, current.state.shared.log = start.state.shared.log ++ events ∧
      events <+: whole ∧
      Farewell connection true start.state.shared.subscriptions.getAll whole ∧
      (events.filterMap Event.handed?).Sublist
        ((start.state.shared.subscriptions.getAll.map fun subscription =>
          (connection, unsubscribeFrame subscription.id)) ++
            [(connection, disconnectFrame asked)]) ∧
      current.state.Stopped ∧
      (current.exit.Over connection → events = whole ∧ current.state.shared.active = none) := by
  obtain ⟨stopped, approaches⟩ := run.invariant
    (Session.departing_of_leavingManager reach leaving active resumed)
    fun _ departing unattended stepped => departing.step unattended stepped
  obtain ⟨events, log, leads⟩ := approaches.log
  obtain ⟨rest, left⟩ := approaches.remains
  have farewell := leads rest left
  obtain ⟨asked, frames⟩ := farewell.sublist
  refine ⟨events, events ++ rest, asked, log, List.prefix_append _ _, farewell, ?_, stopped, ?_⟩
  · rw [List.filterMap_append] at frames
    exact (List.sublist_append_left _ _).trans frames
  · intro shut
    obtain rfl := (shut.remains_iff rest).mp left
    exact ⟨(List.append_nil _).symm, approaches.shut shut⟩

/-- `Client.__aexit__` of a client with a subscription has waited for its tasks. -/
def stopsSubscribed : List SessionAction :=
  (enters ++ [.subscribe plainSubscription, returns (.subscribe "1")]).map .client ++
    [.exit true, .client (raises .listener .cancelled), .resume .returned "",
      .client (raises (.heartbeat 0) .cancelled), .resume .returned ""]

/-- The UNSUBSCRIBE is lost, DISCONNECT is written and no receipt comes. -/
def losesUnsubscribe : List SessionAction :=
  [.resume (.raised .connectionLost) "", .resume .returned "receipt", .resume .returned "",
    .resume .timeout "", .resume .returned "", .resume .returned ""]

theorem farewell_of_losesUnsubscribe :
    ∃ start next current, (session plainSettings).Reachable start ∧
      start.exit = .leavingManager ∧ start.state.shared.active = some 0 ∧
      start.resume .returned "" = some next ∧
      ({ session plainSettings with initial := next } : System Session SessionAction).Reaches
        (fun _ action => action.unattended = true) current ∧
      current.exit.Over 0 ∧ ∃ events, current.state.shared.log = start.state.shared.log ++ events ∧
        Farewell 0 true start.state.shared.subscriptions.getAll events ∧
        current.state.shared.active = none := by
  have replayed : ((session plainSettings).replay (fun _ _ => true)
      (session plainSettings).initial stopsSubscribed).map (fun start =>
        (start.exit matches .leavingManager) && decide (start.state.shared.active = some 0) &&
          (start.resume .returned "").any fun next =>
            (({ session plainSettings with initial := next } :
              System Session SessionAction).replay (fun _ action => action.unattended) next
                losesUnsubscribe).any fun current => current.exit matches .exited) = some true := by
    decide +kernel
  obtain ⟨start, reach, leaves⟩ := System.exists_of_replay (fun _ _ _ => trivial) replayed
  simp only [Bool.and_eq_true, Option.any_eq_true, decide_eq_true_eq] at leaves
  obtain ⟨⟨at_manager, active⟩, next, resumed, current, goes, ended⟩ := leaves
  have leaving : start.exit = .leavingManager := by
    cases exit : start.exit <;> simp_all
  have shut : current.exit.Over 0 := by
    refine .inr (.inr ?_)
    cases exit : current.exit <;> simp_all
  have run := System.reaches_of_replay (fun _ _ passes => passes)
    (@System.Reaches.initial _ _ { session plainSettings with initial := next }
      fun _ action => action.unattended = true) goes
  obtain ⟨events, whole, asked, log, -, farewell, -, -, complete⟩ :=
    farewell_of_reachable reach leaving active resumed run
  obtain ⟨rfl, idle⟩ := complete shut
  exact ⟨start, next, current, reach, leaving, active, resumed, run, shut, events, log, farewell,
    idle⟩

end Stompman
