import Stompman.Listening

/-!
# Errors of the transport

`Connection` translates the errors of asyncio at five places, and each place has its own list of
exception classes: `connect` catches `TimeoutError`, `ConnectionError` and `gaierror`, the others
only `ConnectionError`.  An `OSError` of another class leaves `write_frame_reconnecting`,
`maybe_write_frame`, the heartbeat task or the listener as it is.
-/

namespace Stompman

open Foundation

/-! ## Translation of errors -/

/-- The classes of `OSError` that the program tells apart. -/
inductive OsError
  | connectionError
  | timeoutError
  | gaierror
  /-- An unreachable host, the combined error of several addresses, a TLS error. -/
  | other

namespace Connection

/-- `Connection.connect`, by the end of `asyncio.open_connection` under its timeout. -/
def connect (parameters : ConnectionParameters) (server : Nat) (ending : Except OsError Unit) :
    Reply :=
  if parameters.wsUriPath.getD "" ≠ "" then .failed server .other
  else
    match ending with
    | .ok () => .connected server
    | .error .timeoutError | .error .connectionError | .error .gaierror => .refused server
    | .error .other => .failed server .other

/-- `reraise_connection_lost(ConnectionError)`. -/
def reraiseConnectionLost : OsError → Failure
  | .connectionError => .connectionLost
  | _ => .other

/-- `Connection.write_frame`: `write` raises `RuntimeError` on a transport that is closing, and
`drain` may raise. -/
def writeFrame (closing : Bool) (ending : Except OsError Unit) : Reply :=
  if closing then .raised .connectionLost
  else
    match ending with
    | .ok () => .returned
    | .error error => .raised (reraiseConnectionLost error)

/-- `Connection.read_frames` up to its next frame; `none` is the end of the stream. -/
def readFrames : Except OsError (Option AnyFrame) → Reply
  | .ok (some frame) => .frame frame
  | .ok none => .raised .connectionLost
  | .error error => .raised (reraiseConnectionLost error)

/-- `Connection.close`, by the end of `wait_closed`. -/
def close : Except OsError Unit → Reply
  | .ok () | .error .connectionError => .returned
  | .error _ => .raised .other

end Connection

/-- A read of `take_connected_frame_and_collect_other_frames`: `_establish_connection` takes every
`TimeoutError` of it for that of `wait_for`. -/
def readConnectedFrame : Except OsError (Option AnyFrame) → Reply
  | .error .timeoutError => .timeout
  | ending => Connection.readFrames ending

/-! ## Steps over TCP -/

/-- Operations that a task awaits. -/
inductive Operation
  | connect
  | write
  | read
  /-- `read_frames` in `_establish_connection`. -/
  | confirm
  | close
  /-- The lock, the semaphore or a sleep. -/
  | wait

/-- The operation that a task awaits in `write_frame_reconnecting`. -/
def WriteFrame.awaits : WriteFrame → Operation
  | .connecting _ => .wait
  | .writing .. => .write
  | .discarding .. => .close

/-- The operation that a task awaits in `maybe_write_frame`. -/
def MaybeWrite.awaits : MaybeWrite → Operation
  | .writing _ => .write
  | .discarding _ => .close

/-- The operation that a task without the lock awaits. -/
def Point.awaits : Point → Operation
  | .sending _ point | .subscribing _ point | .beginning point | .transacting _ _ point =>
      point.awaits
  | .unsubscribing _ point | .aborting point | .committing point | .settling _ _ _ point
  | .acknowledging _ _ point => point.awaits
  | .heartbeat (.discarding ..) | .monitor (.discarding _) | .listener (.discarding _) => .close
  | .listener (.reading ..) => .read
  | _ => .wait

/-- The operation that the holder of the lock awaits. -/
def Phase.awaits : Phase → Operation
  | .racing _ => .connect
  | .entering _ (.readingConnected _) => .confirm
  | .entering .. => .write
  | .closing .. => .close
  | .sleeping => .wait

/-- The operation that a task awaits. -/
def State.awaits (state : State) (task : TaskId) : Operation :=
  match state.shared.reconnect with
  | some reconnect =>
      if reconnect.owner = task then reconnect.phase.awaits else (state.tasks task).awaits
  | none => (state.tasks task).awaits

/-- An operation of asyncio that returns or raises one of these errors. -/
def Among {α : Type} (raised : OsError → Prop) : Except OsError α → Prop
  | .ok _ => True
  | .error error => raised error

/-- The replies of an operation in which these errors may be raised. -/
inductive Operation.Gives (settings : Settings) (raised : Operation → OsError → Prop) :
    Operation → Reply → Prop
  | connect (server : Nat) (parameters : ConnectionParameters)
      (found : settings.servers[server]? = some parameters) (ending : Except OsError Unit)
      (among : Among (raised .connect) ending) :
      Gives settings raised .connect (Connection.connect parameters server ending)
  | write (closing : Bool) (ending : Except OsError Unit) (among : Among (raised .write) ending) :
      Gives settings raised .write (Connection.writeFrame closing ending)
  | read (ending : Except OsError (Option AnyFrame)) (among : Among (raised .read) ending) :
      Gives settings raised .read (Connection.readFrames ending)
  | confirm (ending : Except OsError (Option AnyFrame)) (among : Among (raised .confirm) ending) :
      Gives settings raised .confirm (readConnectedFrame ending)
  | late : Gives settings raised .confirm .timeout
  | close (ending : Except OsError Unit) (among : Among (raised .close) ending) :
      Gives settings raised .close (Connection.close ending)
  | wait : Gives settings raised .wait .returned

/-- Steps of a client over TCP connections.  A user's handler ends in any way, and tasks that are
not spared may be cancelled. -/
def OverTcp (settings : Settings) (raised : Operation → OsError → Prop) (spared : TaskId → Prop)
    (state : State) : Action → Prop
  | .resume task reply _ =>
      (reply = .raised .cancelled ∧ ¬ spared task) ∨
        (∃ delivery, state.tasks task = .handling delivery) ∨
        (state.awaits task).Gives settings raised reply
  | _ => True

/-- The errors that are caught where an operation is awaited. -/
def Operation.Catches : Operation → OsError → Prop
  | .connect, error => error ≠ .other
  | .confirm, error => error = .connectionError ∨ error = .timeoutError
  | _, error => error = .connectionError

/-- Steps over TCP in which every error that is raised is caught where it is raised, every CONNECTED
frame can be read, the task group takes the tasks of every handshake, and no set of transactions
changes its size under a replay. -/
def Translates (settings : Settings) (spared : TaskId → Prop) (state : State) (action : Action) :
    Prop :=
  OverTcp settings Operation.Catches spared state action ∧ enlists state action = true ∧
    confirms settings state action = true ∧ steady state action = true

/-! ## What the translation leaves -/

namespace Operation

variable {settings : Settings} {reply : Reply}

/-- Replies of an operation whose errors are caught. -/
theorem Gives.caught
    (plain : ∀ parameters ∈ settings.servers, parameters.wsUriPath.getD "" = "")
    {operation : Operation} (gives : operation.Gives settings Catches reply) :
    (∀ failure, reply = .raised failure → failure = .connectionLost ∧
      (operation = .write ∨ operation = .read ∨ operation = .confirm)) ∧
    (∀ server failure, reply ≠ .failed server failure) ∧
    (operation = .confirm → reply ≠ .returned) := by
  have reads : ∀ {ending : Except OsError (Option AnyFrame)}, Among (· = .connectionError) ending →
      (∀ failure, Connection.readFrames ending = .raised failure → failure = .connectionLost) ∧
      (∀ server failure, Connection.readFrames ending ≠ .failed server failure) ∧
      Connection.readFrames ending ≠ .returned := by
    intro ending among
    match ending, among with
    | .ok (some frame), _ => simp [Connection.readFrames]
    | .ok none, _ => simp [Connection.readFrames]
    | .error .connectionError, _ => simp [Connection.readFrames, Connection.reraiseConnectionLost]
  cases gives with
  | connect server parameters found ending among =>
      have direct := plain parameters (List.mem_of_getElem? found)
      match ending, among with
      | .ok (), _ => simp [Connection.connect, direct]
      | .error .timeoutError, _ => simp [Connection.connect, direct]
      | .error .connectionError, _ => simp [Connection.connect, direct]
      | .error .gaierror, _ => simp [Connection.connect, direct]
      | .error .other, uncaught => exact absurd rfl uncaught
  | write closing ending among =>
      match ending, among with
      | .ok (), _ => cases closing <;> simp [Connection.writeFrame]
      | .error .connectionError, _ =>
          cases closing <;> simp [Connection.writeFrame, Connection.reraiseConnectionLost]
  | read ending among =>
      obtain ⟨raised, failed, -⟩ := reads among
      exact ⟨fun failure same => ⟨raised failure same, .inr (.inl rfl)⟩, failed, by simp⟩
  | confirm ending among =>
      match ending, among with
      | .error .timeoutError, _ => simp [readConnectedFrame]
      | .ok taken, _ =>
          obtain ⟨raised, failed, ended⟩ := @reads (.ok taken) trivial
          exact ⟨fun failure same => ⟨raised failure same, .inr (.inr rfl)⟩, failed, fun _ => ended⟩
      | .error .connectionError, _ =>
          obtain ⟨raised, failed, ended⟩ := @reads (.error .connectionError) rfl
          exact ⟨fun failure same => ⟨raised failure same, .inr (.inr rfl)⟩, failed, fun _ => ended⟩
  | late => simp
  | close ending among =>
      match ending, among with
      | .ok (), _ => simp [Connection.close]
      | .error .connectionError, _ => simp [Connection.close]
  | wait => simp

end Operation

section Steps

variable {settings : Settings} {spared : TaskId → Prop} {state : State} {task : TaskId}
  {reply : Reply} {choice : Choice}

theorem WriteFrame.awaits_eq {point : WriteFrame}
    (exchanges : point.awaits = .write ∨ point.awaits = .read ∨ point.awaits = .confirm) :
    ∃ left connection, point = .writing left connection := by
  cases point with
  | writing left connection => exact ⟨left, connection, rfl⟩
  | connecting => simp [WriteFrame.awaits] at exchanges
  | discarding => simp [WriteFrame.awaits] at exchanges

theorem MaybeWrite.awaits_eq {point : MaybeWrite}
    (exchanges : point.awaits = .write ∨ point.awaits = .read ∨ point.awaits = .confirm) :
    ∃ connection, point = .writing connection := by
  cases point with
  | writing connection => exact ⟨connection, rfl⟩
  | discarding => simp [MaybeWrite.awaits] at exchanges

/-- A task that awaits a write or a read stands at one. -/
theorem Point.communicates_of_awaits {point : Point}
    (exchanges : point.awaits = .write ∨ point.awaits = .read ∨ point.awaits = .confirm) :
    point.communicates = true := by
  unfold Point.awaits at exchanges
  split at exchanges
  case h_10 | h_11 | h_12 | h_14 => simp at exchanges
  case h_13 => rfl
  all_goals
    first
    | obtain ⟨left, connection, rfl⟩ := WriteFrame.awaits_eq exchanges
      rfl
    | obtain ⟨connection, rfl⟩ := MaybeWrite.awaits_eq exchanges
      rfl

theorem Phase.awaits_eq {phase : Phase}
    (exchanges : phase.awaits = .write ∨ phase.awaits = .read ∨ phase.awaits = .confirm) :
    ∃ connection point, phase = .entering connection point := by
  cases phase with
  | entering connection point => exact ⟨connection, point, rfl⟩
  | racing => simp [Phase.awaits] at exchanges
  | closing => simp [Phase.awaits] at exchanges
  | sleeping => simp [Phase.awaits] at exchanges

/-- A task that awaits a write or a read stands at one, or at one of its handshake. -/
theorem State.communicates_of_awaits (exchanges : state.awaits task = .write ∨
      state.awaits task = .read ∨ state.awaits task = .confirm) :
    (state.tasks task).communicates = true ∨ (state.shared.entering task).isSome := by
  unfold State.awaits at exchanges
  split at exchanges
  · rename_i reconnect locked
    split at exchanges
    · rename_i owned
      obtain ⟨connection, point, phase⟩ := Phase.awaits_eq exchanges
      exact .inr (by rw [Shared.entering_of_phase locked owned phase]; rfl)
    · exact .inl (Point.communicates_of_awaits exchanges)
  · exact .inl (Point.communicates_of_awaits exchanges)

theorem State.awaits_of_entering {collected : List AnyFrame}
    (inside : state.shared.entering task = some (.readingConnected collected)) :
    state.awaits task = .confirm := by
  obtain ⟨reconnect, connection, locked, owned, phase⟩ := Shared.handshake_of_entering inside
  simp [State.awaits, locked, owned, phase, Phase.awaits]

/-- A task that is spared and whose errors are caught sees only lost connections. -/
theorem Translates.mild
    (plain : ∀ parameters ∈ settings.servers, parameters.wsUriPath.getD "" = "")
    (named : spared task)
    (translates : Translates settings spared state (.resume task reply choice))
    (unhandled : ∀ delivery, state.tasks task ≠ .handling delivery) :
    mild state (.resume task reply choice) = true := by
  obtain ⟨⟨-, free⟩ | ⟨delivery, handling⟩ | gives, -, -⟩ := translates
  · exact absurd named free
  · exact absurd handling (unhandled delivery)
  · obtain ⟨raised, failed, ended⟩ := gives.caught plain
    cases reply with
    | raised failure =>
        obtain ⟨rfl, exchanges⟩ := raised failure rfl
        have stands := State.communicates_of_awaits exchanges
        simpa [Stompman.mild, unhandled] using stands
    | failed server failure => exact absurd rfl (failed server failure)
    | returned =>
        simp only [Stompman.mild]
        split
        · rename_i collected inside
          exact absurd rfl (ended (State.awaits_of_entering inside))
        · rfl
    | _ => rfl

end Steps

/-! ## What leaves the functions that write and read -/

/-- The exceptions of a retry loop that has used up its attempts. -/
def Failure.Exhausted : Failure → Prop
  | .failedAllConnectAttempts _ | .failedAllWriteAttempts => True
  | _ => False

theorem WriteFrame.raised_of_attempts {frame : Frame} {shared after : Shared} {count : Nat}
    {failure : Failure}
    (attempted : WriteFrame.attempts frame shared count = (after, .raised failure)) :
    failure = .failedAllWriteAttempts := by
  have effects := attempts_effects frame shared count
  rw [attempted] at effects
  cases effects with
  | exhausted => rfl

/-- What leaves `write_frame_reconnecting`: an exception of `_get_active_connection_state`, its own,
or one of a write or a `close` that it does not catch. -/
theorem WriteFrame.raised_of_resume {settings : Settings} {task : TaskId} {frame : Frame}
    {point : WriteFrame} {reply : Reply} {pick : Option String} {shared after : Shared}
    {failure : Failure}
    (resumed : point.resume settings task frame reply pick shared = some (after, .raised failure)) :
    (∃ left, point = .connecting left ∧
      shared.resumeConnecting settings task reply pick = some (after, .raised failure)) ∨
    failure = .failedAllWriteAttempts ∨
    reply = .raised failure ∧ ((∃ left connection, point = .writing left connection) →
      failure ≠ .connectionLost) ∧ ∀ left, point ≠ .connecting left := by
  cases point with
  | connecting left =>
      obtain ⟨⟨middle, progress⟩, connecting, same⟩ := Option.map_eq_some_iff.mp resumed
      cases progress with
      | suspended => simp at same
      | returned => simp at same
      | raised leaving =>
          obtain ⟨rfl, rfl⟩ : middle = after ∧ leaving = failure := by simpa using same
          exact .inl ⟨left, rfl, connecting⟩
  | writing left connection =>
      simp only [WriteFrame.resume] at resumed
      split at resumed
      · simp at resumed
      · split at resumed
        · simp at resumed
        · exact .inr (.inl (WriteFrame.raised_of_attempts (Option.some.inj resumed)))
      · rename_i leaving unlike
        obtain ⟨rfl, rfl⟩ : shared = after ∧ leaving = failure := by simpa using resumed
        exact .inr (.inr ⟨rfl, fun _ => by simpa using unlike, by simp⟩)
      · contradiction
  | discarding left connection =>
      simp only [WriteFrame.resume] at resumed
      split at resumed
      · exact .inr (.inl (WriteFrame.raised_of_attempts (Option.some.inj resumed)))
      · rename_i leaving
        obtain ⟨rfl, rfl⟩ : shared = after ∧ leaving = failure := by simpa using resumed
        exact .inr (.inr ⟨rfl, by simp, by simp⟩)
      · contradiction

/-- What leaves `maybe_write_frame`: an exception of a write or a `close` that it does not catch. -/
theorem MaybeWrite.raised_of_resume {frame : Frame} {point : MaybeWrite} {reply : Reply}
    {shared after : Shared} {failure : Failure}
    (resumed : point.resume frame reply shared = some (after, .raised failure)) :
    reply = .raised failure ∧ ((∃ connection, point = .writing connection) →
      failure ≠ .connectionLost) := by
  cases point with
  | writing connection =>
      simp only [MaybeWrite.resume] at resumed
      split at resumed
      · simp at resumed
      · split at resumed <;> simp at resumed
      · rename_i leaving unlike
        obtain ⟨rfl, rfl⟩ : shared = after ∧ leaving = failure := by simpa using resumed
        exact ⟨rfl, fun _ => by simpa using unlike⟩
      · contradiction
  | discarding connection =>
      simp only [MaybeWrite.resume] at resumed
      split at resumed
      · simp at resumed
      · rename_i leaving
        obtain ⟨rfl, rfl⟩ : shared = after ∧ leaving = failure := by simpa using resumed
        exact ⟨rfl, by simp⟩
      · contradiction

/-- No error of the transport leaves the functions that write and read, when this task gets this
reply. -/
structure State.Absorbs (settings : Settings) (state : State) (task : TaskId) (reply : Reply)
    (choice : Choice) : Prop where
  /-- `write_frame_reconnecting`. -/
  writes : ∀ (job : Job) (writing : WriteFrame) (after : Shared) (failure : Failure),
    job.Runs task → state.tasks task = job.point writing →
    writing.resume settings task job.frame reply choice.pick state.shared =
      some (after, .raised failure) → failure.Exhausted
  /-- `maybe_write_frame`. -/
  maybeWrites : ∀ (duty : Duty) (writing : MaybeWrite) (after : Shared) (failure : Failure),
    duty.Runs task → state.tasks task = duty.point writing →
    writing.resume duty.frame reply state.shared ≠ some (after, .raised failure)
  /-- `write_heartbeat_reconnecting`, in the task that calls it. -/
  beats : ∀ (point : HeartbeatPoint) (resumed : Resumed) (failure : Failure),
    state.tasks task = .heartbeat point →
    point.resume settings task reply choice state.shared = some resumed →
    resumed.point = .raised failure → failure.Exhausted
  /-- `read_frames_reconnecting`, in the task that iterates it.  The body of that task's loop, which
  runs when a frame has been read, is not part of it. -/
  reads : ∀ (point : ListenerPoint) (resumed : Resumed) (failure : Failure),
    state.tasks task = .listener point →
    point.resume settings reply choice state.shared = some resumed →
    resumed.point = .raised failure →
    (∀ connection epoch frame, point = .reading connection epoch → reply ≠ .frame frame) →
    ∃ issues, failure = .failedAllConnectAttempts issues

section Absorption

variable {settings : Settings} {state : State} {task : TaskId} {reply : Reply} {choice : Choice}

theorem Job.writing_of_communicates {job : Job} {writing : WriteFrame}
    (communicates : (job.point writing).communicates = true) :
    ∃ left connection, writing = .writing left connection := by
  cases writing with
  | writing left connection => exact ⟨left, connection, rfl⟩
  | connecting => cases job <;> contradiction
  | discarding => cases job <;> contradiction

theorem Duty.writing_of_communicates {duty : Duty} {writing : MaybeWrite}
    (communicates : (duty.point writing).communicates = true) :
    ∃ connection, writing = .writing connection := by
  cases writing with
  | writing connection => exact ⟨connection, rfl⟩
  | discarding => cases duty <;> contradiction

/-- Without cancellation and over connections that keep their contract, nothing but the exceptions
of the retry loops leaves the functions that write and read. -/
theorem State.absorbs_of_mild (fits : state.Fits) (guarded : state.Guarded) {spared : TaskId → Prop}
    (clean : state.shared.Clean settings spared) (named : spared task)
    (meets : (∀ delivery, state.tasks task ≠ .handling delivery) →
      mild state (.resume task reply choice) = true) :
    state.Absorbs settings task reply choice := by
  have exhausted : ∀ {after : Shared} {failure : Failure}, (state.tasks task).Connecting →
      state.shared.resumeConnecting settings task reply choice.pick =
        some (after, .raised failure) →
      ∃ issues, failure = .failedAllConnectAttempts issues := by
    intro after failure standing resumed
    have unhandled : ∀ delivery, state.tasks task ≠ .handling delivery := by
      intro delivery handling
      rw [handling] at standing
      exact standing.elim
    exact ⟨_, (clean.raised named (mild_of_step standing (meets unhandled))
      (Shared.reconnects_resumeConnecting resumed)).1⟩
  have exchanges : ∀ {failure : Failure}, reply = .raised failure →
      ¬ (state.tasks task).Connecting →
      (∀ delivery, state.tasks task ≠ .handling delivery) →
      failure = .connectionLost ∧ (state.tasks task).communicates = true := by
    rintro failure rfl outside unhandled
    exact communicates_of_mild guarded outside unhandled (meets unhandled)
  refine ⟨?_, ?_, ?_, ?_⟩
  · intro job writing after failure runs standing resumed
    rcases WriteFrame.raised_of_resume resumed with ⟨left, rfl, connecting⟩ | rfl |
      ⟨raised, uncaught, elsewhere⟩
    · obtain ⟨issues, rfl⟩ :=
        exhausted (by rw [standing, Drives.connecting_jobPoint]; exact ⟨left, rfl⟩) connecting
      trivial
    · trivial
    · obtain ⟨lost, stands⟩ := exchanges raised
        (by rw [standing, Drives.connecting_jobPoint]; simpa using elsewhere)
        (by rw [standing]; cases job <;> simp [Job.point])
      rw [standing] at stands
      exact absurd lost (uncaught (Job.writing_of_communicates stands))
  · intro duty writing after failure runs standing resumed
    obtain ⟨raised, uncaught⟩ := MaybeWrite.raised_of_resume resumed
    obtain ⟨lost, stands⟩ := exchanges raised
      (by rw [standing]; exact Drives.not_connecting_dutyPoint)
      (by rw [standing]; cases duty <;> simp [Duty.point])
    rw [standing] at stands
    exact uncaught (Duty.writing_of_communicates stands) lost
  · intro point resumed failure standing resumes raised
    obtain ⟨generation, rfl⟩ : ∃ generation, task = .heartbeat generation := by
      have own := fits.tasks task
      rwa [standing] at own
    cases Cycles.heartbeat generation resumes with
    | waits => contradiction
    | leaves _ inside connecting _ _ leaves =>
        obtain rfl := leaves failure raised
        obtain ⟨issues, rfl⟩ :=
          exhausted (standing ▸ Drives.connecting_of_reconnects inside) connecting
        trivial
    | tends _ tending _ leaves =>
        rcases leaves failure raised with ⟨replied, -⟩ | ⟨rfl, -⟩
        · have stands := (exchanges replied (standing ▸ Drives.not_connecting_of_tending tending)
            (by simp [standing])).2
          rw [standing] at stands
          contradiction
        · trivial
  · intro point resumed failure standing resumes raised unread
    have owner : task = .listener := by
      have own := fits.tasks task
      rwa [standing] at own
    subst owner
    have listens := (listens_of_resume resumes).1
    rw [raised] at listens
    cases listens with
    | interrupted _ _ replied elsewhere uncaught =>
        have outside : ¬ (state.tasks .listener).Connecting := by
          rw [standing]
          cases point <;> simp_all [Point.Connecting]
        obtain ⟨lost, stands⟩ := exchanges replied outside (by simp [standing])
        rw [standing] at stands
        cases point with
        | reading connection epoch => exact absurd lost (uncaught connection epoch rfl)
        | _ => contradiction
    | disconnected _ connecting => exact exhausted (by rw [standing]; trivial) connecting
    | unaddressed connection epoch message read => exact absurd read (unread connection epoch _ rfl)

end Absorption

/-- Every error of the transport is absorbed in every run in which each is of a class that is caught
where it is raised, every CONNECTED frame can be read, no background task has failed during a
handshake and no set of transactions changes its size under a replay.  Tasks that are not spared may
be cancelled. -/
theorem absorbs_of_translates (settings : Settings) (spared : TaskId → Prop)
    (plain : ∀ parameters ∈ settings.servers, parameters.wsUriPath.getD "" = "") (state : State)
    (reach : (client settings).Reaches (Translates settings spared) state) (task : TaskId)
    (named : spared task) (reply : Reply) (choice : Choice)
    (translates : Translates settings spared state (.resume task reply choice)) :
    state.Absorbs settings task reply choice := by
  have clean : state.shared.Clean settings spared := by
    refine clean_of_reaches ?_ reach
    intro state task reply choice _ translates named standing
    refine ⟨translates.mild plain named ?_, translates.2.2⟩
    intro delivery handling
    rw [handling] at standing
    exact standing.elim
  exact State.absorbs_of_mild (fits_of_reaches reach) (guarded_of_reaches reach) clean named
    (translates.mild plain named)

/-! ## A write that fails -/

/-- Replies of connections that work. -/
def works : Operation → Reply → Bool
  | .connect, .connected 0 | .write, .returned | .confirm, .frame _ | .read, .frame _
  | .close, .returned | .wait, .returned => true
  | _, _ => false

theorem gives_of_works {raised : Operation → OsError → Prop} {operation : Operation} {reply : Reply}
    (working : works operation reply = true) : operation.Gives plainSettings raised reply := by
  unfold works at working
  split at working
  · exact @Operation.Gives.connect plainSettings raised 0 _ rfl (.ok ()) trivial
  · exact .write false (.ok ()) trivial
  · rename_i frame
    exact .confirm (.ok (some frame)) trivial
  · rename_i frame
    exact .read (.ok (some frame)) trivial
  · exact .close (.ok ()) trivial
  · exact .wait
  · contradiction

/-- A client over a connection that works, and a SEND that is being written. -/
def sendsOne : List Action := enters ++ [.send 0 { body := [], destination := "/queue" }]

/-- The SEND is being written, and no task reconnects. -/
def State.writesOne (state : State) : Bool :=
  match state.tasks (.call 0), state.shared.reconnect with
  | .sending _ (.writing 2 0), none => true
  | _, _ => false

/-- The operation that a step ends works. -/
def runsOn (state : State) : Action → Bool
  | .resume task reply _ => works (state.awaits task) reply
  | _ => true

theorem reaches_sendsOne (raised : Operation → OsError → Prop) (spared : TaskId → Prop) :
    ∃ state frame, (client plainSettings).Reaches
      (fun state action => OverTcp plainSettings raised spared state action ∧
        enlists state action = true ∧ confirms plainSettings state action = true ∧
        steady state action = true) state ∧
      state.tasks (.call 0) = .sending frame (.writing 2 0) ∧ state.awaits (.call 0) = .write ∧
      ∀ reply choice, enlists state (.resume (.call 0) reply choice) = true := by
  obtain ⟨state, reach, stands⟩ := @System.exists_of_replay _ _ (client plainSettings)
    (fun state action => OverTcp plainSettings raised spared state action ∧
      enlists state action = true ∧ confirms plainSettings state action = true ∧
      steady state action = true)
    (fun state action => runsOn state action && enlists state action &&
      confirms plainSettings state action && steady state action)
    (by
      intro state action passes
      simp only [Bool.and_eq_true, and_assoc] at passes
      refine ⟨?_, passes.2⟩
      cases action with
      | resume task reply choice => exact .inr (.inr (gives_of_works passes.1))
      | _ => trivial)
    sendsOne State.writesOne (by decide +kernel)
  unfold State.writesOne at stands
  split at stands
  · rename_i frame standing free
    refine ⟨state, frame, reach, standing, ?_, fun _ _ => ?_⟩
    · simp [State.awaits, free, standing, Point.awaits, WriteFrame.awaits]
    · simp [enlists, Shared.entering, free]
  · contradiction

/-- The connection is reset under the SEND. -/
theorem absorbs_of_translates_reset :
    ∃ state, (client plainSettings).Reaches (Translates plainSettings fun _ => True) state ∧
      state.awaits (.call 0) = .write ∧
      state.Absorbs plainSettings (.call 0)
        (Connection.writeFrame false (.error .connectionError)) {} := by
  obtain ⟨state, frame, reach, -, awaits, takes⟩ :=
    reaches_sendsOne Operation.Catches fun _ => True
  refine ⟨state, reach, awaits, absorbs_of_translates plainSettings (fun _ => True) ?_ state reach
    (.call 0) trivial _ {} ⟨.inr (.inr ?_), takes _ _, rfl, rfl⟩⟩
  · simp [plainSettings]
  · rw [awaits]
    exact .write false (.error .connectionError) rfl

/-- A `TimeoutError` of `drain` leaves `write_frame_reconnecting`. -/
theorem not_forall_absorbs :
    ¬ ∀ (settings : Settings) (state : State) (task : TaskId) (reply : Reply) (choice : Choice),
      (client settings).Reaches (OverTcp settings (fun _ _ => True) fun _ => True) state →
      OverTcp settings (fun _ _ => True) (fun _ => True) state (.resume task reply choice) →
        state.Absorbs settings task reply choice := by
  intro always
  obtain ⟨state, frame, reach, standing, awaits, -⟩ :=
    reaches_sendsOne (fun _ _ => True) fun _ => True
  have absorbs := always plainSettings state (.call 0)
    (Connection.writeFrame false (.error .timeoutError)) {} (reach.mono fun _ _ => And.left)
    (.inr (.inr (by rw [awaits]; exact .write false (.error .timeoutError) trivial)))
  have runs : (Job.send frame).Runs (.call 0) := by
    have own := (fits_of_reaches reach).tasks (.call 0)
    rwa [standing] at own
  exact absorbs.writes (.send frame) (.writing 2 0) state.shared .other runs standing rfl

end Stompman
