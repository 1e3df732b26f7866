import Stompman.Shutdown
import Stompman.SingleFlight

/-!
# Connections that are given up are closed

Every connection that `connect` has returned is active, or belongs to a handshake or a shutdown in
progress, or has been closed; except for a connection attempt that nobody awaits any more:
`_create_connection_to_any_server` leaves the other attempts of its race to themselves, and a
connection that one of them opens is closed by nobody.
-/

namespace Stompman

open Foundation

/-! ## Shutdown -/

/-- No connection is opened, the lock is left alone, and a connection that is no longer active has
been closed. -/
structure Retires (before after : Shared) : Prop where
  reconnect : after.reconnect = before.reconnect
  events : ∃ later, after.trace = before.trace ++ later ∧
    (∀ connection, .opened connection ∉ later) ∧
    (after.active = before.active ∨ ∃ connection, before.active = some connection ∧
      after.active = none ∧ .closed connection ∈ later)

theorem Beside.retires {before after : Shared} (beside : Beside before after) :
    Retires before after := by
  obtain ⟨later, trace_eq, unopened, same | ⟨connection, active, inactive, -, closed⟩⟩ :=
    beside.events
  · exact ⟨beside.reconnect, later, trace_eq, unopened, .inl same⟩
  · exact ⟨beside.reconnect, later, trace_eq, unopened,
      .inr ⟨connection, active, inactive, closed⟩⟩

namespace Retires

variable {before middle after : Shared}

theorem refl (shared : Shared) : Retires shared shared := (Beside.refl shared).retires

theorem trans (first : Retires before middle) (second : Retires middle after) :
    Retires before after := by
  obtain ⟨early, early_eq, early_opened, early_active⟩ := first.events
  obtain ⟨late, late_eq, late_opened, late_active⟩ := second.events
  refine ⟨second.reconnect.trans first.reconnect, early ++ late, ?_, ?_, ?_⟩
  · rw [late_eq, early_eq, List.append_assoc]
  · intro connection member
    exact (List.mem_append.mp member).elim (early_opened connection) (late_opened connection)
  · rcases late_active with same | ⟨connection, active, inactive, closed⟩
    · rcases early_active with kept | ⟨connection, active, inactive, closed⟩
      · exact .inl (same.trans kept)
      · exact .inr ⟨connection, active, same.trans inactive, List.mem_append_left _ closed⟩
    · rcases early_active with kept | ⟨_, _, gone, _⟩
      · exact .inr ⟨connection, kept.symm.trans active, inactive, List.mem_append_right _ closed⟩
      · rw [gone] at active
        contradiction

/-- The lock is held only without an active connection. -/
theorem guarded {state : State} (guarded : state.Guarded) {shared : Shared}
    (retires : Retires state.shared shared) : ({ state with shared } : State).Guarded := by
  obtain ⟨later, -, -, kept⟩ := retires.events
  refine ⟨?_, ?_⟩
  · intro reconnect locked
    exact guarded.owner reconnect (by rwa [← retires.reconnect])
  · intro locked
    rcases kept with same | ⟨_, -, inactive, -⟩
    · rw [same]
      exact guarded.locked (by rwa [← retires.reconnect])
    · exact inactive

end Retires

theorem Retires.relatesExit : RelatesExit Retires where
  refl := .refl
  trans := .trans
  hands _ _ _ := (Beside.hand _ _ _).retires
  writes _ _ _ := (Beside.noteWritten _ _ _).retires
  discards _ _ active := (Beside.discard active).retires
  closes shared connection := by
    refine ⟨rfl, [.closed connection], rfl, by simp, ?_⟩
    by_cases active : shared.active = some connection
    · exact .inr ⟨connection, active, by simp [active], by simp⟩
    · exact .inl (by simp [active])
  unsubscribing _ id := ⟨rfl, [.unsubscribing id], rfl, by simp, .inl rfl⟩
  unsubscribed _ _ := (Beside.emit _ (by simp)).retires

/-! ## Connections -/

/-- The connection that the task that leaves the client holds. -/
def ExitPoint.connection? : ExitPoint → Option ConnectionId
  | .unsubscribing connection .. | .disconnecting connection _ => some connection
  | .awaitingReceipt connection | .closing connection => some connection
  | _ => none

/-- Every connection that `connect` has returned is active, or belongs to a handshake or a shutdown
in progress, or has been closed. -/
def Session.Accounted (session : Session) : Prop :=
  ∀ connection, .opened connection ∈ session.state.shared.trace →
    session.state.shared.active = some connection ∨
    ((∃ point, session.state.shared.handshake = some (connection, point)) ∨
      session.exit.connection? = some connection) ∨
    .closed connection ∈ session.state.shared.trace

/-- No connection attempt that nobody awaits any more is accepted. -/
def SessionAction.awaited : SessionAction → Bool
  | .client (.abandonedConnect _ true) => false
  | _ => true

/-- Every connection is active, in a handshake or closed. -/
def Shared.Accounted (shared : Shared) : Prop :=
  ∀ connection, .opened connection ∈ shared.trace →
    shared.active = some connection ∨
    (∃ point, shared.handshake = some (connection, point)) ∨
    .closed connection ∈ shared.trace

namespace Shared.Accounted

variable {settings : Settings} {before after : Shared}

/-- Connections are given up only when they are closed. -/
theorem grows (accounted : before.Accounted) (events : List Event)
    (trace_eq : after.trace = before.trace ++ events)
    (opened : ∀ connection, .opened connection ∈ events →
      ∃ point, after.handshake = some (connection, point))
    (active : ∀ connection, before.active = some connection →
      after.active = some connection ∨ .closed connection ∈ events)
    (handshake : ∀ connection point, before.handshake = some (connection, point) →
      after.active = some connection ∨ (∃ later, after.handshake = some (connection, later)) ∨
        .closed connection ∈ events) : after.Accounted := by
  intro connection member
  rw [trace_eq] at member ⊢
  rcases List.mem_append.mp member with old | new
  · rcases accounted connection old with current | ⟨point, underway⟩ | closed
    · exact (active connection current).imp_right fun closed =>
        .inr (List.mem_append_right _ closed)
    · exact (handshake connection point underway).imp_right fun kept =>
        kept.imp_right (List.mem_append_right _)
    · exact .inr (.inr (List.mem_append_left _ closed))
  · exact .inr (.inl (opened connection new))

theorem retires (accounted : before.Accounted) (retires : Retires before after) :
    after.Accounted := by
  obtain ⟨later, trace_eq, unopened, kept⟩ := retires.events
  refine accounted.grows later trace_eq ?_ ?_ ?_
  · exact fun connection member => absurd member (unopened connection)
  · intro connection current
    rcases kept with same | ⟨other, earlier, -, closed⟩
    · exact .inl (same.trans current)
    · obtain rfl := Option.some.inj (earlier.symm.trans current)
      exact .inr closed
  · intro connection point underway
    rw [← Shared.handshake_congr retires.reconnect] at underway
    exact .inr (.inl ⟨point, underway⟩)

/-- Connecting opens a connection for its handshake only, and closes it or makes it active. -/
theorem reconnects {task : TaskId} {reply : Reply} {progress : Progress Unit ConnectionId}
    (accounted : before.Accounted) (idle : before.reconnect.isSome → before.active = none)
    (effects : before.Reconnects settings task reply after progress) : after.Accounted := by
  -- What a handshake adds to the trace opens nothing and leaves the active connection alone.
  have moves : ∀ {reconnect connection point base rest walk} (later : List Event),
      before.reconnect = some reconnect → reconnect.phase = .entering connection point →
      before.Ready settings connection reply point base rest walk →
      after.trace = base.trace ++ later → (∀ other, .opened other ∉ later) →
      (after.active = some connection ∨ (∃ point, after.handshake = some (connection, point)) ∨
        .closed connection ∈ later) → after.Accounted := by
    intro reconnect connection point base rest walk later locked phase ready trace_eq unopened kept
    refine accounted.grows (writtenBy connection point ++ later) ?_ ?_ ?_ ?_
    · rw [trace_eq, ready.base.trace_append]
    · intro other member
      rcases List.mem_append.mp member with early | late
      · cases point <;> simp [writtenBy] at early
      · exact absurd late (unopened other)
    · intro other current
      rw [idle (by rw [locked]; rfl)] at current
      contradiction
    · intro other earlier underway
      rw [Shared.handshake_of_phase locked phase] at underway
      obtain ⟨rfl, -⟩ := Prod.mk.inj (Option.some.inj underway)
      exact kept.imp_right fun either => either.imp_right (List.mem_append_right _)
  -- Without a handshake there is nothing to account for but the active connection.
  have calmly : before.handshake = none → ∀ events, after.trace = before.trace ++ events →
      after.active = before.active →
      (∀ connection, .opened connection ∈ events →
        ∃ point, after.handshake = some (connection, point)) → after.Accounted := by
    intro calm events trace_eq active opened
    refine accounted.grows events trace_eq opened ?_ ?_
    · exact fun connection current => .inl (active.trans current)
    · intro connection point underway
      rw [calm] at underway
      contradiction
  have goes : ∀ {reconnect connection point} (events : List Event),
      before.reconnect = some reconnect → reconnect.phase = .entering connection point →
      after.trace = before.trace ++ events → (∀ other, .opened other ∉ events) →
      after.active = before.active →
      ((∃ point, after.handshake = some (connection, point)) ∨ .closed connection ∈ events) →
        after.Accounted := by
    intro reconnect connection point events locked phase trace_eq unopened active kept
    refine accounted.grows events trace_eq ?_ ?_ ?_
    · exact fun other member => absurd member (unopened other)
    · exact fun other current => .inl (active.trans current)
    · intro other earlier underway
      rw [Shared.handshake_of_phase locked phase] at underway
      obtain ⟨rfl, -⟩ := Prod.mk.inj (Option.some.inj underway)
      exact .inr kept
  cases effects with
  | interrupted => exact accounted
  | found => exact accounted
  | races issues calm => exact calmly calm [] (by simp [hold]) rfl (by simp)
  | sleeps issues calm => exact calmly calm [] (by simp [hold]) rfl (by simp)
  | leaves calm => exact calmly calm [] (by simp [leaveRace, release]) rfl (by simp)
  | opens reconnect locked owned calm =>
      refine calmly calm _ (List.append_assoc _ _ _) rfl ?_
      intro connection member
      obtain rfl : connection = before.connections := by simpa using member
      exact ⟨_, rfl⟩
  | fails reconnect locked owned connection point phase =>
      exact goes [.closed connection] locked phase rfl (by simp) rfl (.inr (by simp))
  | asks reconnect locked owned connection server phase =>
      exact goes [_] locked phase rfl (by simp) rfl (.inl ⟨_, rfl⟩)
  | collects reconnect locked owned connection collected phase =>
      exact goes [] locked phase (by simp [hold]) (by simp) rfl (.inl ⟨_, rfl⟩)
  | subscribes reconnect locked owned connection point phase subscription remaining ready =>
      exact moves [.handed connection subscription.frame] locked phase ready rfl (by simp)
        (.inr (.inl ⟨_, rfl⟩))
  | replays reconnect locked owned connection walk current index frame phase =>
      rw [replayFrame_eq] at *
      exact goes _ locked phase (List.append_assoc _ _ _) (by simp) rfl (.inl ⟨_, rfl⟩)
  | picks reconnect locked owned connection point phase ready transaction =>
      rw [replayFrame_eq] at *
      exact moves [.handed connection _] locked phase ready rfl (by simp) (.inr (.inl ⟨_, rfl⟩))
  | changed reconnect locked owned connection point phase ready =>
      exact moves [.closed connection] locked phase ready rfl (by simp) (.inr (.inr (by simp)))
  | finishes reconnect locked owned connection point phase ready =>
      exact moves [.activated connection] locked phase ready rfl (by simp) (.inl rfl)

end Shared.Accounted

/-! ## Runs -/

/-- The invariant behind the accounts. -/
structure Session.Kept (session : Session) : Prop where
  fits : session.state.Fits
  guarded : session.state.Guarded
  accounted : session.state.shared.Accounted

namespace Session.Kept

variable {settings : Settings} {session next : Session}

theorem drives {state : State} {action : Action} (kept : session.Kept)
    (awaited : (SessionAction.client action).awaited = true)
    (drives : Drives settings session.state action state) : state.shared.Accounted := by
  cases drives with
  | apart _ beside => exact kept.accounted.retires beside.retires
  | opens => simp [SessionAction.awaited] at awaited
  | waits task reply choice standing resumed =>
      exact kept.accounted.reconnects kept.guarded.locked
        (Shared.reconnects_resumeConnecting resumed)
  | leaves task reply choice standing resumed ended beside =>
      exact (kept.accounted.reconnects kept.guarded.locked
        (Shared.reconnects_resumeConnecting resumed)).retires beside.retires

theorem retires (kept : session.Kept) (tasks : next.state.tasks = session.state.tasks)
    (retires : Retires session.state.shared next.state.shared) : next.Kept := by
  obtain ⟨⟨shared, tasks⟩, exit, failure⟩ := next
  subst tasks
  exact ⟨kept.fits.of_tasks rfl, retires.guarded kept.guarded, kept.accounted.retires retires⟩

theorem step {action : SessionAction} (kept : session.Kept) (awaited : action.awaited = true)
    (stepped : sessionStep settings session action = some next) : next.Kept := by
  cases action with
  | client action =>
      obtain ⟨state, moved, rfl⟩ := Option.map_eq_some_iff.mp stepped
      have effects := Drives.of_step kept.fits moved
      exact ⟨kept.fits.step moved, kept.guarded.drives effects, kept.drives awaited effects⟩
  | exit raised =>
      simp only [sessionStep] at stepped
      split at stepped
      · split at stepped
        · obtain rfl := Option.some.inj stepped
          unfold Session.leave
          split <;> exact ⟨kept.fits, kept.guarded, kept.accounted⟩
        · contradiction
      · contradiction
  | resume reply receipt =>
      exact kept.retires (Session.tasks_resume stepped) (Retires.relatesExit.resume stepped)

end Session.Kept

/-- As long as no connection attempt that nobody awaits any more is accepted, every connection that
`connect` has returned is active, or belongs to a handshake or a shutdown in progress, or has been
closed. -/
theorem accounted_of_awaited {settings : Settings} {current : Session}
    (reach : (session settings).Reaches (fun _ action => action.awaited = true) current) :
    current.Accounted := by
  have kept : current.Kept := by
    refine reach.invariant ⟨fits_initial settings, guarded_initial settings, ?_⟩
      fun _ kept awaited stepped => kept.step awaited stepped
    intro connection member
    simp [session, client] at member
  intro connection opened
  exact (kept.accounted connection opened).imp_right fun either => either.imp_left .inl

/-- A client of two servers. -/
def pairSettings : Settings :=
  { plainSettings with
    servers :=
      [{ host := "first", port := 61613, login := "guest", passcode := "guest" },
        { host := "second", port := 61613, login := "guest", passcode := "guest" }] }

/-- `Client.__aenter__` connects to the first server; `others` is what happens to the attempt on the
second one. -/
def entersPair (early others : List Action) : List Action :=
  [.enter, returns .starter] ++ early ++ [.resume .starter (.connected 0) {}] ++ others ++
    [returns .starter, .resume .starter (.frame (.frame plainConnected)) {}, returns .listener]

/-- `Client.__aexit__` without subscriptions: the tasks are cancelled, DISCONNECT is written and no
receipt comes. -/
def leavesPair : List SessionAction :=
  [.exit false, .client (raises .listener .cancelled), .resume .returned "",
    .client (raises (.heartbeat 0) .cancelled), .resume .returned "", .resume .returned "receipt",
    .resume .returned "", .resume .timeout "", .resume .returned "", .resume .returned ""]

theorem accounted_of_awaited_refused :
    ∃ current, (session pairSettings).Reaches (fun _ action => action.awaited = true) current ∧
      (.opened 0 ∈ current.state.shared.trace ∧ current.state.shared.active = none ∧
        .closed 0 ∈ current.state.shared.trace) ∧ current.Accounted := by
  have replayed : ((session pairSettings).replay (fun _ action => action.awaited)
      (session pairSettings).initial
        ((entersPair [.resume .starter (.refused 1) {}] []).map .client ++ leavesPair)).map
          (fun current => decide (.opened 0 ∈ current.state.shared.trace ∧
            current.state.shared.active = none ∧ .closed 0 ∈ current.state.shared.trace)) =
      some true := by
    decide +kernel
  obtain ⟨current, reach, happened⟩ := System.exists_of_replay (fun _ _ passes => passes) replayed
  exact ⟨current, reach, of_decide_eq_true happened, accounted_of_awaited reach⟩

/-- Both servers accept.  The second connection is not closed even when the client is left. -/
theorem not_forall_accounted :
    ¬ ∀ (settings : Settings) (current : Session), (session settings).Reachable current →
      current.Accounted := by
  intro always
  have replayed : ((session pairSettings).replay (fun _ _ => true)
      (session pairSettings).initial
        ((entersPair [] [.abandonedConnect 1 true]).map .client ++ leavesPair)).map
          (fun current => decide (.opened 1 ∈ current.state.shared.trace ∧
            current.state.shared.active = none ∧ current.state.shared.handshake.isNone ∧
            current.exit.connection? = none ∧ .closed 1 ∉ current.state.shared.trace)) =
      some true := by
    decide +kernel
  obtain ⟨current, reach, happened⟩ := System.exists_of_replay (fun _ _ _ => trivial) replayed
  obtain ⟨opened, inactive, calm, left, unclosed⟩ := of_decide_eq_true happened
  rcases always pairSettings current reach 1 opened with
    active | (⟨point, underway⟩ | held) | closed
  · simp [inactive] at active
  · simp [underway] at calm
  · simp [left] at held
  · exact unclosed closed

end Stompman
