import Stompman.Transport

/-!
# Errors of the WebSocket transport

`WebSocketConnection` translates `RuntimeError`, `OSError` and `WebSocketException` at every write
and read, so errors that leave a TCP connection as they are do not leave this one.  Two places
differ: `close` suppresses only `WebSocketException`, and `write_heartbeat` schedules the write and
drops its end, so no error of it is ever seen.
-/

namespace Stompman

open Foundation

/-! ## Translation of errors -/

/-- The exception classes that `WebSocketConnection` tells apart. -/
inductive WsError
  /-- An `OSError` as well. -/
  | timeoutError
  | osError
  | webSocketException
  | runtimeError
  | other

namespace WebSocketConnection

/-- `str.strip('/')`. -/
def stripSlashes (path : String) : String :=
  String.ofList ((path.toList.dropWhile (· == '/')).reverse.dropWhile (· == '/')).reverse

/-- The URI that `WebSocketConnection.connect` opens. -/
def uri (parameters : ConnectionParameters) : String :=
  let path :=
    match parameters.wsUriPath with
    | some path => if path ≠ "" then stripSlashes path else ""
    | none => ""
  "ws://" ++ parameters.host ++ ":" ++ toString parameters.port ++ "/" ++ path

/-- `WebSocketConnection.connect`, by the end of `websockets.connect` under its timeout. -/
def connect (dial : String → Except WsError Unit) (parameters : ConnectionParameters)
    (server : Nat) : Reply :=
  match dial (uri parameters) with
  | .ok () => .connected server
  | .error .timeoutError | .error .osError | .error .webSocketException => .refused server
  | .error _ => .failed server .other

/-- `reraise_connection_lost(RuntimeError, OSError, websockets.WebSocketException)`. -/
def reraiseConnectionLost : WsError → Failure
  | .other => .other
  | _ => .connectionLost

/-- `WebSocketConnection.write_frame`, by the end of `send`. -/
def writeFrame : Except WsError Unit → Reply
  | .ok () => .returned
  | .error error => .raised (reraiseConnectionLost error)

/-- Whether `WebSocketConnection.write_heartbeat` returns: the end of `send` stays in the future of
`run_coroutine_threadsafe`. -/
def writeHeartbeat (_ : Except WsError Unit) : Bool := true

/-- `WebSocketConnection.read_frames` up to its next frame. -/
def readFrames : Except WsError AnyFrame → Reply
  | .ok frame => .frame frame
  | .error error => .raised (reraiseConnectionLost error)

/-- `WebSocketConnection.close`. -/
def close : Except WsError Unit → Reply
  | .ok () | .error .webSocketException => .returned
  | .error _ => .raised .other

end WebSocketConnection

/-! ## Steps over WebSockets -/

/-- An operation of `websockets` that returns or raises one of these errors. -/
def Throws {α : Type} (raised : WsError → Prop) : Except WsError α → Prop
  | .ok _ => True
  | .error error => raised error

/-- The replies of an operation in which these errors may be raised. -/
inductive Operation.Relays (settings : Settings) (raised : Operation → WsError → Prop) :
    Operation → Reply → Prop
  | connect (server : Nat) (parameters : ConnectionParameters)
      (found : settings.servers[server]? = some parameters) (dial : String → Except WsError Unit)
      (throws : ∀ uri, Throws (raised .connect) (dial uri)) :
      Relays settings raised .connect (WebSocketConnection.connect dial parameters server)
  | write (ending : Except WsError Unit) (throws : Throws (raised .write) ending) :
      Relays settings raised .write (WebSocketConnection.writeFrame ending)
  | read (ending : Except WsError AnyFrame) (throws : Throws (raised .read) ending) :
      Relays settings raised .read (WebSocketConnection.readFrames ending)
  /-- `read_frames` translates a `TimeoutError` before `_establish_connection` sees it. -/
  | confirm (ending : Except WsError AnyFrame) (throws : Throws (raised .confirm) ending) :
      Relays settings raised .confirm (WebSocketConnection.readFrames ending)
  | late : Relays settings raised .confirm .timeout
  | close (ending : Except WsError Unit) (throws : Throws (raised .close) ending) :
      Relays settings raised .close (WebSocketConnection.close ending)
  | wait : Relays settings raised .wait .returned

/-- Steps of a client over WebSockets.  A user's handler ends in any way, and tasks that are not
spared may be cancelled. -/
def OverWebSocket (settings : Settings) (raised : Operation → WsError → Prop)
    (spared : TaskId → Prop) (state : State) : Action → Prop
  | .resume task reply choice =>
      (∃ ending, choice.beats = WebSocketConnection.writeHeartbeat ending) ∧
        ((reply = .raised .cancelled ∧ ¬ spared task) ∨
          (∃ delivery, state.tasks task = .handling delivery) ∨
          (state.awaits task).Relays settings raised reply)
  | _ => True

/-- The errors that are caught where an operation is awaited. -/
def Operation.Suppresses : Operation → WsError → Prop
  | .connect, error => error ≠ .runtimeError ∧ error ≠ .other
  | .close, error => error = .webSocketException
  | _, error => error ≠ .other

/-- Steps over WebSockets in which every error that is raised is caught where it is raised, every
CONNECTED frame can be read, the task group takes the tasks of every handshake, and no set of
transactions changes its size under a replay. -/
def Bridges (settings : Settings) (spared : TaskId → Prop) (state : State) (action : Action) :
    Prop :=
  OverWebSocket settings Operation.Suppresses spared state action ∧ enlists state action = true ∧
    confirms settings state action = true ∧ steady state action = true

/-! ## What the translation leaves -/

/-- Replies of an operation whose errors are caught. -/
theorem Operation.Relays.caught {settings : Settings} {reply : Reply} {operation : Operation}
    (relays : operation.Relays settings Suppresses reply) :
    (∀ failure, reply = .raised failure → failure = .connectionLost ∧
      (operation = .write ∨ operation = .read ∨ operation = .confirm)) ∧
    (∀ server failure, reply ≠ .failed server failure) ∧
    (operation = .confirm → reply ≠ .returned) := by
  have lost : ∀ {error : WsError}, error ≠ .other →
      WebSocketConnection.reraiseConnectionLost error = .connectionLost := by
    intro error known
    cases error with
    | other => exact absurd rfl known
    | _ => rfl
  have reads : ∀ {ending : Except WsError AnyFrame}, Throws (· ≠ .other) ending →
      (∀ failure, WebSocketConnection.readFrames ending = .raised failure →
        failure = .connectionLost) ∧
      (∀ server failure, WebSocketConnection.readFrames ending ≠ .failed server failure) ∧
      WebSocketConnection.readFrames ending ≠ .returned := by
    intro ending throws
    cases ending with
    | ok frame => simp [WebSocketConnection.readFrames]
    | error error => simp [WebSocketConnection.readFrames, lost throws]
  cases relays with
  | connect server parameters found dial throws =>
      have caught := throws (WebSocketConnection.uri parameters)
      unfold WebSocketConnection.connect
      generalize dial (WebSocketConnection.uri parameters) = ending at caught
      match ending, caught with
      | .ok (), _ => simp
      | .error .timeoutError, _ => simp
      | .error .osError, _ => simp
      | .error .webSocketException, _ => simp
      | .error .runtimeError, uncaught => exact absurd rfl uncaught.1
      | .error .other, uncaught => exact absurd rfl uncaught.2
  | write ending throws =>
      cases ending with
      | ok => simp [WebSocketConnection.writeFrame]
      | error error => simp [WebSocketConnection.writeFrame, lost throws]
  | read ending throws =>
      obtain ⟨raised, failed, -⟩ := reads throws
      exact ⟨fun failure same => ⟨raised failure same, .inr (.inl rfl)⟩, failed, by simp⟩
  | confirm ending throws =>
      obtain ⟨raised, failed, ended⟩ := reads throws
      exact ⟨fun failure same => ⟨raised failure same, .inr (.inr rfl)⟩, failed, fun _ => ended⟩
  | late => simp
  | close ending throws =>
      match ending, throws with
      | .ok (), _ => simp [WebSocketConnection.close]
      | .error .webSocketException, _ => simp [WebSocketConnection.close]
  | wait => simp

section Steps

variable {settings : Settings} {spared : TaskId → Prop} {state : State} {task : TaskId}
  {reply : Reply} {choice : Choice}

/-- A task that is spared and whose errors are caught sees only lost connections. -/
theorem Bridges.mild (named : spared task)
    (bridges : Bridges settings spared state (.resume task reply choice))
    (unhandled : ∀ delivery, state.tasks task ≠ .handling delivery) :
    mild state (.resume task reply choice) = true := by
  obtain ⟨⟨-, ⟨-, free⟩ | ⟨delivery, handling⟩ | relays⟩, -, -⟩ := bridges
  · exact absurd named free
  · exact absurd handling (unhandled delivery)
  · obtain ⟨raised, failed, ended⟩ := relays.caught
    cases reply with
    | raised failure =>
        obtain ⟨rfl, exchanges⟩ := raised failure rfl
        have stands := State.communicates_of_awaits exchanges
        simpa [Stompman.mild, unhandled] using stands
    | failed server failure => exact absurd rfl (failed server failure)
    | returned =>
        simp only [Stompman.mild]
        split
        · rename_i collected inside
          exact absurd rfl (ended (State.awaits_of_entering inside))
        · rfl
    | _ => rfl

/-! ## Heartbeats -/

/-- A heartbeat task that discards no connection. -/
def Point.Lenient (point : Point) : Prop :=
  ∀ left connection, point ≠ .heartbeat (.discarding left connection)

theorem HeartbeatPoint.lenient_ended (shared : Shared) (failure : Option Failure) :
    (HeartbeatPoint.ended settings shared failure).point.Lenient := by
  intro left connection
  unfold HeartbeatPoint.ended
  split
  · simp
  · split <;> simp
  · split <;> simp
  · simp

theorem HeartbeatPoint.lenient_attempts (shared : Shared) (count : Nat) :
    (HeartbeatPoint.attempts settings shared true count).point.Lenient := by
  unfold HeartbeatPoint.attempts
  split
  · exact HeartbeatPoint.lenient_ended _ _
  · split
    · simp [HeartbeatPoint.beat, Point.Lenient]
    · simp [Point.Lenient]

theorem HeartbeatPoint.lenient_resume {point : HeartbeatPoint} {shared : Shared}
    {resumed : Resumed} (beats : choice.beats = true)
    (resumes : point.resume settings task reply choice shared = some resumed) :
    resumed.point.Lenient := by
  unfold HeartbeatPoint.resume at resumes
  rw [beats] at resumes
  split at resumes
  · obtain ⟨⟨after, progress⟩, connecting, rfl⟩ := Option.map_eq_some_iff.mp resumes
    cases progress with
    | suspended => simp [Point.Lenient]
    | returned connection => simp [HeartbeatPoint.beat, Point.Lenient]
    | raised failure => exact HeartbeatPoint.lenient_ended _ _
  · obtain rfl := Option.some.inj resumes
    exact HeartbeatPoint.lenient_attempts _ _
  · obtain rfl := Option.some.inj resumes
    exact HeartbeatPoint.lenient_attempts _ _
  · obtain rfl := Option.some.inj resumes
    exact HeartbeatPoint.lenient_ended _ _
  · contradiction

theorem Point.lenient_resume {generation : Nat} {point : Point}
    (fits : point.Fits (.heartbeat generation)) {shared : Shared} {resumed : Resumed}
    (beats : choice.beats = true)
    (resumes : point.resume settings (.heartbeat generation) reply choice shared =
      some resumed) : resumed.point.Lenient := by
  cases point with
  | heartbeat point => exact HeartbeatPoint.lenient_resume beats resumes
  | _ => simp_all [Point.Fits, Job.Runs, Duty.Runs, Point.resume]

theorem lenient_of_reaches {raised : Operation → WsError → Prop}
    (reach : (client settings).Reaches (OverWebSocket settings raised spared) state)
    (generation : Nat) : (state.tasks (.heartbeat generation)).Lenient := by
  refine @System.Reaches.invariant _ _ _ _
    (fun state => (state.tasks (.heartbeat generation)).Lenient) ?_ ?_ state reach
  · simp [client, initialTasks, Point.Lenient]
  · intro before after action reach lenient meets stepped
    have fits := fits_of_reaches reach
    by_cases own : action.task = some (.heartbeat generation)
    · cases steps_of_step stepped with
      | resume task reply choice created resumes =>
          obtain rfl : task = .heartbeat generation := by simpa [Action.task] using own
          obtain ⟨⟨ending, beats⟩, -⟩ := meets
          have unspawned := (spawned_of_resume fits resumes).resolve_right (by simp)
          rw [State.tasks_store_of_unspawned unspawned]
          exact Point.lenient_resume (fits.tasks _) beats resumes
      | _ => simp [Action.task] at own
    · rw [tasks_of_step fits stepped own (by simp) (by simp)]
      exact lenient

end Steps

/-- Every error of the transport is absorbed in every run over WebSockets in which each is of a
class that is caught where it is raised, every CONNECTED frame can be read, no background task has
failed during a handshake and no set of transactions changes its size under a replay; and no
heartbeat task ever discards a connection.  Tasks that are not spared may be cancelled. -/
theorem absorbs_of_bridges (settings : Settings) (spared : TaskId → Prop) (state : State)
    (reach : (client settings).Reaches (Bridges settings spared) state) (task : TaskId)
    (named : spared task) (reply : Reply) (choice : Choice)
    (bridges : Bridges settings spared state (.resume task reply choice)) :
    state.Absorbs settings task reply choice ∧
      ∀ generation left connection,
        state.tasks (.heartbeat generation) ≠ .heartbeat (.discarding left connection) := by
  have clean : state.shared.Clean settings spared := by
    refine clean_of_reaches ?_ reach
    intro state task reply choice _ bridges named standing
    refine ⟨bridges.mild named ?_, bridges.2.2⟩
    intro delivery handling
    rw [handling] at standing
    exact standing.elim
  refine ⟨State.absorbs_of_mild (fits_of_reaches reach) (guarded_of_reaches reach) clean named
    (bridges.mild named), ?_⟩
  exact lenient_of_reaches (reach.mono fun _ _ => And.left)

/-! ## A write that fails -/

theorem relays_of_works {raised : Operation → WsError → Prop} {operation : Operation}
    {reply : Reply} (working : works operation reply = true) :
    operation.Relays plainSettings raised reply := by
  unfold works at working
  split at working
  · exact @Operation.Relays.connect plainSettings raised 0 _ rfl (fun _ => .ok ())
      fun _ => trivial
  · exact .write (.ok ()) trivial
  · rename_i frame
    exact .confirm (.ok frame) trivial
  · rename_i frame
    exact .read (.ok frame) trivial
  · exact .close (.ok ()) trivial
  · exact .wait
  · contradiction

/-- A step that ends an operation which works and in which heartbeats are written. -/
def bridgesOn (state : State) (action : Action) : Bool :=
  runsOn state action &&
    match action with
    | .resume _ _ choice => choice.beats
    | _ => true

/-- A `TimeoutError` under the SEND, which over TCP would leave `write_frame_reconnecting`. -/
theorem absorbs_of_bridges_timeout :
    ∃ state, (client plainSettings).Reaches (Bridges plainSettings fun _ => True) state ∧
      state.awaits (.call 0) = .write ∧
      state.Absorbs plainSettings (.call 0)
        (WebSocketConnection.writeFrame (.error .timeoutError)) {} := by
  obtain ⟨state, reach, stands⟩ := @System.exists_of_replay _ _ (client plainSettings)
    (Bridges plainSettings fun _ => True)
    (fun state action => bridgesOn state action && enlists state action &&
      confirms plainSettings state action && steady state action)
    (by
      intro state action passes
      simp only [bridgesOn, Bool.and_eq_true, and_assoc] at passes
      obtain ⟨runs, beats, kept⟩ := passes
      refine ⟨?_, kept⟩
      cases action with
      | resume task reply choice => exact ⟨⟨.ok (), beats⟩, .inr (.inr (relays_of_works runs))⟩
      | _ => trivial)
    sendsOne State.writesOne (by decide +kernel)
  unfold State.writesOne at stands
  split at stands
  · rename_i frame standing free
    have awaits : state.awaits (.call 0) = .write := by
      simp [State.awaits, free, standing, Point.awaits, WriteFrame.awaits]
    refine ⟨state, reach, awaits, (absorbs_of_bridges plainSettings (fun _ => True) state reach
      (.call 0) trivial _ {} ⟨⟨⟨.ok (), rfl⟩, .inr (.inr ?_)⟩, ?_, rfl, rfl⟩).1⟩
    · rw [awaits]
      exact .write (.error .timeoutError) (by simp [Throws, Operation.Suppresses])
    · simp [enlists, Shared.entering, free]
  · contradiction

end Stompman
