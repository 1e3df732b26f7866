import Stompman.Leaks
import Stompman.Listening

/-!
# Traffic on connections

A handshake apart, frames are handed over and written only on connections that have been active, and
CONNECT is none of them.  The task that leaves the client keeps to this as well.  Hence no two tasks
read from one connection: a handshake reads from a connection that has not been active, the listener
is over before a receipt is awaited.
-/

namespace Stompman

open Foundation

/-! ## Frames outside a handshake -/

/-- Events that can happen outside a handshake, after these others. -/
def Event.Later (trace : List Event) : Event → Prop
  | .handed connection frame | .wrote connection frame =>
      .activated connection ∈ trace ∧ frame.type ≠ .connect
  | .activated _ => False
  | _ => True

/-- Events outside a handshake make no connection active. -/
theorem Event.Later.of_append {trace early : List Event} {event : Event}
    (inert : ∀ other ∈ early, other.Later trace) (later : event.Later (trace ++ early)) :
    event.Later trace := by
  have used : ∀ connection, .activated connection ∈ trace ++ early →
      .activated connection ∈ trace := by
    intro connection member
    refine (List.mem_append.mp member).resolve_right fun new => ?_
    exact inert _ new
  cases event with
  | handed => exact ⟨used _ later.1, later.2⟩
  | wrote => exact ⟨used _ later.1, later.2⟩
  | activated => exact later
  | _ => trivial

/-- Changes of the shared state outside a handshake. -/
structure Shared.Speaks (before after : Shared) : Prop where
  active : after.active = before.active ∨ after.active = none
  reconnect : after.reconnect = before.reconnect
  connections : before.connections ≤ after.connections
  sentFrames : ∀ transaction, before.sentFrames transaction <+: after.sentFrames transaction
  trace : ∃ events, after.trace = before.trace ++ events ∧
    ∀ event ∈ events, event.Later before.trace

namespace Shared.Speaks

variable {shared before middle after : Shared}

theorem of_same (active : after.active = before.active)
    (reconnect : after.reconnect = before.reconnect)
    (connections : after.connections = before.connections)
    (sentFrames : after.sentFrames = before.sentFrames) (trace : after.trace = before.trace) :
    before.Speaks after :=
  ⟨.inl active, reconnect, connections.ge, fun _ => by simp [sentFrames], [],
    by simp [trace], by simp⟩

theorem refl (shared : Shared) : shared.Speaks shared := of_same rfl rfl rfl rfl rfl

theorem trans (first : before.Speaks middle) (second : middle.Speaks after) :
    before.Speaks after := by
  obtain ⟨early, early_eq, early_later⟩ := first.trace
  obtain ⟨late, late_eq, late_later⟩ := second.trace
  refine ⟨?_, second.reconnect.trans first.reconnect, first.connections.trans second.connections,
    fun transaction => (first.sentFrames transaction).trans (second.sentFrames transaction),
    early ++ late, ?_, ?_⟩
  · rcases second.active with same | none
    · rw [same]
      exact first.active
    · exact .inr none
  · rw [late_eq, early_eq, List.append_assoc]
  · intro event member
    rcases List.mem_append.mp member with old | new
    · exact early_later event old
    · exact (early_eq ▸ late_later event new).of_append early_later

theorem emit {event : Event} (later : event.Later shared.trace) :
    shared.Speaks (shared.emit event) :=
  ⟨.inl rfl, rfl, Nat.le_refl _, fun _ => List.prefix_rfl, [event], rfl, by simpa using later⟩

theorem hand {connection : ConnectionId} {frame : Frame}
    (used : .activated connection ∈ shared.trace) (other : frame.type ≠ .connect) :
    shared.Speaks (shared.hand connection frame) :=
  emit ⟨used, other⟩

theorem noteWritten {connection : ConnectionId} {frame : Frame}
    (used : .activated connection ∈ shared.trace) (other : frame.type ≠ .connect) :
    shared.Speaks (shared.noteWritten connection frame) :=
  emit ⟨used, other⟩

theorem discard (shared : Shared) (connection : ConnectionId) :
    shared.Speaks (shared.discard connection) := by
  refine ⟨.inr rfl, rfl, Nat.le_refl _, fun _ => List.prefix_rfl,
    [.discarded connection, .closed connection], by simp [Shared.discard, Shared.emit], ?_⟩
  simp [Event.Later]

theorem grows (speaks : before.Speaks after) : before.trace ⊆ after.trace := by
  obtain ⟨events, trace_eq, -⟩ := speaks.trace
  rw [trace_eq]
  exact List.subset_append_left _ _

end Shared.Speaks

/-- Speaking makes no connection active. -/
theorem Shared.Placed.speaks {before after : Shared} (placed : before.Placed)
    (speaks : before.Speaks after) : after.Placed := by
  obtain ⟨events, trace_eq, later⟩ := speaks.trace
  have inert : ∀ connection, .activated connection ∉ events :=
    fun connection member => later _ member
  refine placed.grows events trace_eq speaks.active ?_ speaks.connections ?_ inert
  · intro connection point current
    rw [Shared.handshake_congr speaks.reconnect] at current
    exact .inl ⟨point, current⟩
  · intro event member connection on
    have bound : ∀ other, .activated other ∈ before.trace → other < after.connections :=
      fun other used => (placed.bound _ used other rfl).trans_le speaks.connections
    cases event with
    | handed other frame =>
        obtain rfl := Option.some.inj on
        exact bound other (later _ member).1
    | wrote other frame =>
        obtain rfl := Option.some.inj on
        exact bound other (later _ member).1
    | activated other => exact absurd member (inert other)
    | _ => simp [Event.connection?] at on

/-! ## Steps of the client -/

section Steps

variable {settings : Settings} {state : State} {task : TaskId}

theorem Job.Runs.not_connect {job : Job} (runs : job.Runs task) : job.frame.type ≠ .connect := by
  cases job with
  | send frame =>
      obtain ⟨-, arguments, rfl⟩ := runs
      simp [Job.frame, sendFrame]
  | subscribe => simp [Job.frame, Subscription.frame, subscribeFrame, Frame.bodyless]
  | begin => simp [Job.frame, beginFrame, transactionFrame, Frame.bodyless]
  | transact transaction failed frame =>
      obtain ⟨-, arguments, rfl⟩ := runs
      simp [Job.frame, sendFrame]

theorem Duty.Runs.not_connect {duty : Duty} (runs : duty.Runs task) :
    duty.frame.type ≠ .connect := by
  cases duty with
  | unsubscribe => simp [Duty.frame, unsubscribeFrame, Frame.bodyless]
  | abort => simp [Duty.frame, abortFrame, transactionFrame, Frame.bodyless]
  | commit => simp [Duty.frame, commitFrame, transactionFrame, Frame.bodyless]
  | settle delivery frame =>
      obtain ⟨-, type | type⟩ := runs <;> simp [Duty.frame, type]
  | acknowledge delivery frame =>
      obtain ⟨-, type | type⟩ := runs <;> simp [Duty.frame, type]

theorem Duty.Ends.speaks {duty : Duty} {shared : Shared} {resumed : Resumed}
    (ends : duty.Ends shared resumed) : shared.Speaks resumed.shared := by
  obtain ⟨events, trace_eq, listed⟩ := ends.trace
  refine ⟨.inl ends.active, ends.reconnect, ends.connections.ge,
    fun _ => by simp [ends.sentFrames], events, trace_eq, ?_⟩
  intro event member
  rcases listed event member with ⟨id, -, rfl⟩ | ⟨number, rfl⟩ <;> trivial

/-- What a duty opens with: a call of `unsubscribe` or the end of a transaction block. -/
theorem Duty.Asked.speaks {duty : Duty} {action : Action} {opened : Shared}
    (asked : duty.Asked state action task opened) : state.shared.Speaks opened := by
  cases asked with
  | unsubscribe number id =>
      have called : state.shared.Speaks (state.shared.emit (.unsubscribing id)) := .emit trivial
      exact called.trans (.of_same rfl rfl rfl rfl rfl)
  | commit transaction => exact .emit trivial
  | abort transaction => exact .emit trivial

theorem Job.speaks_completed (job : Job) (shared : Shared) :
    shared.Speaks (job.completed shared).shared := by
  cases job with
  | begin transaction =>
      simp only [Job.completed, Shared.addTransaction]
      split
      · exact .refl _
      · exact .of_same rfl rfl rfl rfl rfl
  | _ => exact .of_same rfl rfl rfl rfl rfl

/-- The beginning of a step connects, or speaks on connections that have been active. -/
theorem Begins.speaks {action : Action} {middle : State} (placed : state.Placed)
    (begins : Begins settings state action middle) :
    (∃ task reply after progress, state.shared.Reconnects settings task reply after progress ∧
      middle = { state with shared := after }) ∨ state.shared.Speaks middle.shared := by
  cases begins with
  | idles => exact .inr (.refl _)
  | reconnects task reply choice effects => exact .inl ⟨task, reply, _, _, effects, rfl⟩
  | calls => exact .inr (.refl _)
  | sends transaction arguments failed =>
      refine .inr ⟨.inl rfl, rfl, Nat.le_refl _, ?_, [_], rfl, by simp [Event.Later]⟩
      intro other
      by_cases same : other = transaction
      · subst same
        simp [State.store, Shared.appendSent]
      · simp [State.store, Shared.appendSent, same]
  | writes task choice job runs left connection standing =>
      have used := placed.tasks task connection (by rw [standing, job.on_point]; rfl)
      exact .inr ((Shared.Speaks.noteWritten used runs.not_connect).trans
        (job.speaks_completed _))
  | hands asked connection active =>
      have used := asked.speaks.grows (placed.shared.active connection active)
      exact .inr (asked.speaks.trans (.hand used asked.runs.not_connect))
  | @skips _ _ duty opened asked =>
      exact .inr (asked.speaks.trans (duty.ends_completed false opened).speaks)
  | fulfils task reply choice duty runs connection standing =>
      have used := placed.tasks task connection (by rw [standing, duty.on_point]; rfl)
      exact .inr ((Shared.Speaks.noteWritten used runs.not_connect).trans
        (duty.ends_completed true _).speaks)
  | drops task reply choice duty => exact .inr (duty.ends_completed false _).speaks
  | acknowledges action task aside duty runs settles number connection active =>
      have used := placed.shared.active connection active
      exact .inr ((Shared.Speaks.hand used runs.not_connect).trans (.emit trivial))
  | takes choice connection epoch frame =>
      have received : state.shared.Speaks (state.shared.emit
          (.received state.shared.messages connection epoch frame)) := .emit trivial
      exact .inr (received.trans (.of_same rfl rfl rfl rfl rfl))

/-- What follows speaks on connections that have been active. -/
theorem Reacts.speaks {after : State} (placed : state.Placed) (reacts : Reacts state after) :
    state.shared.Speaks after.shared := by
  cases reacts with
  | hands task job runs writing standing left connection active =>
      exact .hand (placed.shared.active connection active) runs.not_connect
  | waits => exact .refl _
  | fails => exact .refl _
  | loses => exact .refl _
  | breaks => exact .refl _
  | discards connection => exact .discard _ connection
  | opens => exact ⟨.inl rfl, rfl, Nat.le_succ _, fun _ => List.prefix_rfl, [_], rfl,
      by simp [Event.Later]⟩
  | beats => exact .emit trivial
  | reports number => exact .emit trivial
  | creates delivery =>
      have created : state.shared.Speaks (state.shared.emit
          (.created delivery.number delivery.subscription)) := .emit trivial
      exact created.trans (.of_same rfl rfl rfl rfl rfl)
  | stops => exact .refl _
  | elsewhere changes =>
      exact .of_same changes.shared.active changes.shared.reconnect changes.shared.connections
        changes.shared.sentFrames changes.shared.trace

theorem State.Placed.of_step {action : Action} {after : State} (fits : state.Fits)
    (placed : state.Placed) (stepped : step settings state action = some after) : after.Placed :=
  holds_of_step fits (fun begins => placed.begins begins) (fun _ held reacts => held.reacts reacts)
    stepped

/-- The trace only grows. -/
theorem State.Placed.trace_subset {action : Action} {after : State} (fits : state.Fits)
    (placed : state.Placed) (stepped : step settings state action = some after) :
    state.shared.trace ⊆ after.shared.trace := by
  suffices both : after.Placed ∧ state.shared.trace ⊆ after.shared.trace from both.2
  refine @holds_of_step settings state after action
    (fun later => later.Placed ∧ state.shared.trace ⊆ later.shared.trace) fits ?_ ?_ stepped
  · intro middle begins
    refine ⟨placed.begins begins, ?_⟩
    rcases begins.speaks placed with ⟨task, reply, after, progress, effects, rfl⟩ | speaks
    · obtain ⟨events, trace_eq, -⟩ := effects.extends
      rw [trace_eq]
      exact List.subset_append_left _ _
    · exact speaks.grows
  · rintro middle next - ⟨known, grows⟩ reacts
    exact ⟨known.reacts reacts, fun event member => (reacts.speaks known).grows (grows member)⟩

end Steps

/-! ## Shutdown -/

/-- The connection on which the task that leaves the client writes a frame. -/
def ExitPoint.on : ExitPoint → Option ConnectionId
  | .unsubscribing _ _ _ point => point.on
  | .disconnecting connection _ => some connection
  | _ => none

/-- The task that leaves the client uses connections that have been active. -/
structure Session.Placed (session : Session) : Prop where
  fits : session.state.Fits
  state : session.state.Placed
  held : ∀ connection, session.exit.connection? = some connection →
    .activated connection ∈ session.state.shared.trace
  writing : ∀ connection, session.exit.on = some connection →
    .activated connection ∈ session.state.shared.trace

/-- What a part of the shutdown of a connection leaves behind. -/
structure Session.Retreats (connection : ConnectionId) (before after : Session) : Prop where
  tasks : after.state.tasks = before.state.tasks
  speaks : before.state.shared.Speaks after.state.shared
  held : after.exit.connection? = some connection
  writing : ∀ other, after.exit.on = some other → .activated other ∈ after.state.shared.trace

namespace Session

variable {settings : Settings} {session next : Session} {connection : ConnectionId}
  {receipt : String} {reply : Reply}

theorem speaks_close (session : Session) (connection : ConnectionId) :
    session.state.shared.Speaks (session.close connection).state.shared := by
  refine ⟨?_, rfl, Nat.le_refl _, fun _ => List.prefix_rfl, [.closed connection], rfl,
    by simp [Event.Later]⟩
  simp only [close, moves]
  split
  · exact .inr rfl
  · exact .inl rfl

theorem retreats_close (session : Session) (connection : ConnectionId) :
    Retreats connection session (session.close connection) :=
  ⟨rfl, session.speaks_close connection, rfl, by simp [close, moves, ExitPoint.on]⟩

theorem Retreats.after {before middle after : Session} (retreats : Retreats connection middle after)
    (tasks : middle.state.tasks = before.state.tasks)
    (speaks : before.state.shared.Speaks middle.state.shared) : Retreats connection before after :=
  ⟨retreats.tasks.trans tasks, speaks.trans retreats.speaks, retreats.held, retreats.writing⟩

theorem retreats_failExit (session : Session) (connection : ConnectionId) (failure : Failure) :
    Retreats connection session (session.failExit connection failure) := by
  unfold failExit
  split
  · exact session.retreats_close connection
  · exact ((session.raises failure).retreats_close connection).after rfl (.refl _)

theorem retreats_unsubscribeFromAll (subscriptions : List Subscription) (session : Session)
    (placed : session.state.shared.Placed)
    (used : .activated connection ∈ session.state.shared.trace) :
    Retreats connection session (unsubscribeFromAll connection receipt subscriptions session) := by
  induction subscriptions generalizing session with
  | nil =>
      refine ⟨rfl, .hand used (by simp [disconnectFrame, Frame.bodyless]), rfl, ?_⟩
      intro other on
      obtain rfl := Option.some.inj on
      exact List.mem_append_left _ used
  | cons subscription remaining ih =>
      have called : session.state.shared.Speaks
          (session.state.shared.emit (.unsubscribing subscription.id)) := .emit trivial
      have deletes : session.state.shared.Speaks
          { session.state.shared.emit (.unsubscribing subscription.id) with
            subscriptions := session.state.shared.subscriptions.deleteById subscription.id } :=
        called.trans (.of_same rfl rfl rfl rfl rfl)
      have known := placed.speaks deletes
      rw [unsubscribeFromAll]
      generalize ({ session.state.shared.emit (.unsubscribing subscription.id) with
        subscriptions := session.state.shared.subscriptions.deleteById subscription.id } : Shared) =
          deleted at deletes known
      cases active : deleted.active with
      | none =>
          have gone : session.state.shared.Speaks (deleted.emit (.unsubscribed subscription.id)) :=
            deletes.trans (.emit trivial)
          have rest := ih (session.moves _ session.exit) (placed.speaks gone) (gone.grows used)
          simp only [MaybeWrite.start, active]
          exact rest.after rfl gone
      | some current =>
          have current_used := known.active current active
          have handed : deleted.Speaks (deleted.hand current (unsubscribeFrame subscription.id)) :=
            .hand current_used (by simp [unsubscribeFrame, Frame.bodyless])
          simp only [MaybeWrite.start, active]
          refine ⟨rfl, deletes.trans handed, rfl, ?_⟩
          intro other on
          obtain rfl := Option.some.inj on
          exact List.mem_append_left _ current_used

/-- The end of a write of UNSUBSCRIBE. -/
theorem speaks_maybeWrites {shared after : Shared} {frame : Frame} {point : MaybeWrite}
    {progress : Progress MaybeWrite Bool}
    (used : ∀ connection, point.on = some connection → .activated connection ∈ shared.trace)
    (other : frame.type ≠ .connect) (effects : MaybeWrites frame shared point after progress) :
    shared.Speaks after := by
  cases effects with
  | writes connection => exact .noteWritten (used connection rfl) other
  | loses connection => exact .discard _ connection
  | outlived => exact .refl _
  | closes => exact .refl _
  | fails => exact .refl _

/-- What the task that leaves the client does: it rests, or retreats from the connection that it
holds or that is active. -/
inductive Recedes (session : Session) : Session → Prop
  | stays : Recedes session session
  | rests {next : Session} (same : next.state = session.state)
      (free : next.exit.connection? = none) : Recedes session next
  | retreats {next : Session} (connection : ConnectionId)
      (used : .activated connection ∈ session.state.shared.trace)
      (retreats : Retreats connection session next) : Recedes session next

theorem Placed.recedes (placed : session.Placed)
    (resumed : session.resume reply receipt = some next) : session.Recedes next := by
  have rests : ∀ {other : Session}, some other = some next → other.state = session.state →
      other.exit.connection? = none → session.Recedes next := by
    intro other stepped kept free
    obtain rfl := Option.some.inj stepped
    exact .rests kept free
  have closesActive : ∀ {other : Session},
      some (other.closeActiveConnectionState receipt) = some next →
      other.state = session.state → session.Recedes next := by
    intro other stepped kept
    obtain rfl := Option.some.inj stepped
    unfold closeActiveConnectionState
    split
    · exact .rests kept rfl
    · rename_i connection active
      rw [kept] at active
      have used := placed.state.shared.active connection active
      have retreats := @retreats_unsubscribeFromAll connection receipt
        other.state.shared.subscriptions.getAll other (kept ▸ placed.state.shared) (kept ▸ used)
      refine .retreats connection used (retreats.after (by rw [kept]) ?_)
      rw [kept]
      exact .refl _
  have retreats : ∀ {connection} {other : Session}, some other = some next →
      session.exit.connection? = some connection → Retreats connection session other →
      session.Recedes next := by
    intro connection other stepped holding retreats
    obtain rfl := Option.some.inj stepped
    exact .retreats connection (placed.held connection holding) retreats
  unfold Session.resume at resumed
  split at resumed
  · split at resumed
    · exact rests resumed rfl rfl
    · contradiction
  · exact rests resumed rfl rfl
  · split at resumed
    · exact rests resumed rfl rfl
    · contradiction
  · exact rests resumed rfl rfl
  · split at resumed
    · exact rests resumed rfl rfl
    · contradiction
  · exact rests resumed rfl rfl
  · split at resumed
    · exact closesActive resumed rfl
    · contradiction
  · split at resumed
    · exact closesActive resumed rfl
    · contradiction
  · rename_i connection current remaining point standing
    have used := placed.held connection (by rw [standing]; rfl)
    have on : ∀ other, point.on = some other → .activated other ∈ session.state.shared.trace :=
      fun other writes => placed.writing other (by rw [standing]; exact writes)
    obtain ⟨⟨shared, progress⟩, written, rfl⟩ := Option.map_eq_some_iff.mp resumed
    have effects := maybeResume_effects written
    have speaks := speaks_maybeWrites on (by simp [unsubscribeFrame, Frame.bodyless]) effects
    refine .retreats connection used ?_
    cases progress with
    | suspended later =>
        refine ⟨rfl, speaks, rfl, ?_⟩
        intro other writes
        cases effects
        simp [moves, ExitPoint.on, MaybeWrite.on] at writes
    | returned done =>
        have ended : session.state.shared.Speaks (shared.emit (.unsubscribed current)) :=
          speaks.trans (.emit trivial)
        have rest := @retreats_unsubscribeFromAll connection receipt remaining
          (session.moves (shared.emit (.unsubscribed current)) session.exit)
          (placed.state.shared.speaks ended) (ended.grows used)
        exact rest.after rfl ended
    | raised failure =>
        exact (retreats_failExit (session.moves shared session.exit) connection failure).after rfl
          speaks
  · rename_i connection asked standing
    have used := placed.held connection (by rw [standing]; rfl)
    refine retreats resumed (by rw [standing]; rfl) ⟨rfl, .noteWritten used ?_, rfl, ?_⟩
    · simp [disconnectFrame, Frame.bodyless]
    · simp [moves, ExitPoint.on]
  · rename_i standing
    exact retreats resumed (by rw [standing]; rfl) (retreats_failExit _ _ _)
  · rename_i standing
    split at resumed
    · split at resumed
      · exact retreats resumed (by rw [standing]; rfl) (retreats_close _ _)
      · obtain rfl := Option.some.inj resumed
        exact .stays
    · obtain rfl := Option.some.inj resumed
      exact .stays
  · rename_i standing
    exact retreats resumed (by rw [standing]; rfl) (retreats_close _ _)
  · rename_i standing
    exact retreats resumed (by rw [standing]; rfl) (retreats_close _ _)
  · rename_i standing
    exact retreats resumed (by rw [standing]; rfl) (retreats_failExit _ _ _)
  · exact rests resumed rfl rfl
  · exact rests resumed rfl rfl
  · split at resumed
    · exact rests resumed rfl rfl
    · contradiction
  · split at resumed
    · exact rests resumed rfl rfl
    · contradiction
  · contradiction

theorem ExitPoint.connection_of_on {exit : ExitPoint} {connection : ConnectionId}
    (writing : exit.on = some connection) : exit.connection?.isSome := by
  cases exit <;> first | rfl | simp [ExitPoint.on] at writing

theorem Recedes.speaks (recedes : session.Recedes next) :
    session.state.shared.Speaks next.state.shared := by
  cases recedes with
  | stays => exact .refl _
  | rests same =>
      rw [same]
      exact .refl _
  | retreats connection used retreats => exact retreats.speaks

theorem Placed.resume (placed : session.Placed)
    (resumed : session.resume reply receipt = some next) : next.Placed := by
  have recedes := placed.recedes resumed
  have speaks := recedes.speaks
  have known : next.state.Placed := by
    refine ⟨placed.state.shared.speaks speaks, ?_⟩
    rw [tasks_resume resumed]
    exact fun task connection on => speaks.grows (placed.state.tasks task connection on)
  have fits := placed.fits.of_tasks (tasks_resume resumed)
  cases recedes with
  | stays => exact placed
  | rests same free =>
      refine ⟨fits, known, by simp [free], ?_⟩
      intro connection writing
      have held := ExitPoint.connection_of_on writing
      simp [free] at held
  | retreats connection used retreats =>
      refine ⟨fits, known, ?_, retreats.writing⟩
      intro other held
      obtain rfl := Option.some.inj (retreats.held.symm.trans held)
      exact speaks.grows used

theorem Placed.step {action : SessionAction} (placed : session.Placed)
    (stepped : sessionStep settings session action = some next) : next.Placed := by
  cases action with
  | client action =>
      obtain ⟨state, moved, rfl⟩ := Option.map_eq_some_iff.mp stepped
      have grows := placed.state.trace_subset placed.fits moved
      refine ⟨placed.fits.step moved, placed.state.of_step placed.fits moved, ?_, ?_⟩
      · intro connection held
        exact grows (placed.held connection (by
          cases exit : session.exit <;> simp_all [ExitPoint.notices, ExitPoint.connection?]))
      · intro connection writing
        exact grows (placed.writing connection (by
          cases exit : session.exit <;> simp_all [ExitPoint.notices, ExitPoint.on]))
  | exit raised =>
      simp only [sessionStep] at stepped
      split at stepped
      · split at stepped
        · obtain rfl := Option.some.inj stepped
          unfold Session.leave
          split <;> exact ⟨placed.fits, placed.state, by simp [ExitPoint.connection?],
            by simp [ExitPoint.on]⟩
        · contradiction
      · contradiction
  | resume reply receipt => exact placed.resume stepped

theorem placed_of_reaches {allowed : Session → SessionAction → Prop} {current : Session}
    (reach : (Stompman.session settings).Reaches allowed current) : current.Placed :=
  reach.invariant ⟨fits_initial settings, placed_initial settings,
    by simp [Stompman.session, ExitPoint.connection?], by simp [Stompman.session, ExitPoint.on]⟩
    fun _ placed _ stepped => placed.step stepped

end Session

/-! ## Readers -/

/-- The connection from which the listener reads, or to which it goes back from the semaphore. -/
def Point.attached : Point → Option ConnectionId
  | .listener (.reading connection _) => some connection
  | .listener (.acquiring delivery) => some delivery.connection
  | _ => none

section Listener

variable {settings : Settings} {state after : State} {action : Action}

/-- The starter creates a listener only if there is none. -/
theorem absent_of_spawned (fits : state.Fits) {reply : Reply} {choice : Choice} {resumed : Resumed}
    (resumes : (state.tasks .starter).resume settings .starter reply choice state.shared =
      some resumed) : state.tasks .listener = .absent := by
  have own := fits.tasks .starter
  refine fits.listener (.inr ?_)
  generalize state.tasks .starter = point at own resumes
  cases point <;> simp_all [Point.Fits, Job.Runs, Duty.Runs, Point.resume]

/-- A listener that is over stays over. -/
theorem listener_of_done (fits : state.Fits) (stepped : step settings state action = some after)
    (ended : (state.tasks .listener).done = true) :
    after.tasks .listener = state.tasks .listener := by
  rcases store_of_step stepped with same | ⟨task, reply, choice, resumed, rfl, resumes, rfl⟩ |
    ⟨task, resumed, -, different, unspawned, rfl⟩
  · rw [same]
  · by_cases same : task = .listener
    · subst same
      obtain ⟨point, standing⟩ := fits.listening resumes
      simp [standing, Point.done] at ended
    · rcases spawned_of_resume fits resumes with unspawned | own | ⟨rfl, -⟩
      · exact Drives.tasks_store_of_ne (Ne.symm same) (by simp [unspawned])
      · exact absurd own same
      · simp [absent_of_spawned fits resumes, Point.done] at ended
  · exact Drives.tasks_store_of_ne (Ne.symm different) (by simp [unspawned])

theorem Point.Rests.active_of_attached {task : TaskId} {shared : Shared} {point : Point}
    (rests : point.Rests task shared) {connection : ConnectionId}
    (attached : point.attached = some connection) : shared.active = some connection := by
  cases point with
  | listener point =>
      cases point with
      | reading =>
          obtain rfl := Option.some.inj attached
          exact rests.2.1
      | acquiring => exact rests.elim
      | _ => contradiction
  | _ => contradiction

/-- The listener turns to the connection that is active. -/
theorem attached_of_resume {point : ListenerPoint} {reply : Reply} {choice : Choice}
    {shared : Shared} {resumed : Resumed}
    (resumes : point.resume settings reply choice shared = some resumed) (connection : ConnectionId)
    (attached : resumed.point.attached = some connection) :
    (Point.listener point).attached = some connection ∨
      resumed.shared.active = some connection := by
  cases Cycles.listener resumes with
  | waits => exact .inl attached
  | leaves _ _ _ _ tends => exact .inr (tends.point_rests.active_of_attached attached)
  | tends _ _ tends => exact .inr (tends.point_rests.active_of_attached attached)
  | takes own current epoch frame replied dispatches =>
      cases dispatches with
      | misses => contradiction
      | _ => exact .inl attached
  | creates => exact .inl attached
  | stops => contradiction

theorem attached_of_step (fits : state.Fits) (stepped : step settings state action = some after)
    (connection : ConnectionId) (attached : (after.tasks .listener).attached = some connection) :
    (state.tasks .listener).attached = some connection ∨ after.shared.active = some connection := by
  rcases store_of_step stepped with same | ⟨task, reply, choice, resumed, rfl, resumes, rfl⟩ |
    ⟨task, resumed, -, different, unspawned, rfl⟩
  · rw [same] at attached
    exact .inl attached
  · by_cases same : task = .listener
    · subst same
      obtain ⟨point, standing⟩ := fits.listening resumes
      rw [standing] at resumes ⊢
      obtain ⟨-, spawns⟩ := listens_of_resume resumes
      have own_point : (state.store .listener resumed).tasks .listener = resumed.point := by
        unfold State.store
        cases spawned : resumed.spawned with
        | none => simp
        | some pair =>
            obtain ⟨number, handler⟩ := spawns pair.1 pair.2 spawned
            simp [handler]
      rw [own_point] at attached
      exact attached_of_resume resumes connection attached
    · rcases spawned_of_resume fits resumes with unspawned | own | ⟨rfl, spawned⟩
      · rw [Drives.tasks_store_of_ne (Ne.symm same) (by simp [unspawned])] at attached
        exact .inl attached
      · exact absurd own same
      · simp [State.store, spawned, Point.attached] at attached
  · rw [Drives.tasks_store_of_ne (Ne.symm different) (by simp [unspawned])] at attached
    exact .inl attached

end Listener

/-- `Client.__aexit__` has waited for the listener. -/
def ExitPoint.pastListener : ExitPoint → Bool
  | .stoppingTasks _ | .leavingManager | .unsubscribing .. | .disconnecting .. => true
  | .awaitingReceipt _ | .closing _ => true
  | _ => false

/-- Who awaits `read_frames`. -/
inductive Reader
  /-- `_establish_connection`, run by the holder of the lock. -/
  | handshake
  /-- `read_frames_reconnecting`. -/
  | listener
  /-- `_take_receipt_frame`. -/
  | shutdown

namespace Session

variable {settings : Settings} {session next : Session}

/-- The connection on which `read_frames` is awaited. -/
def reads (session : Session) : Reader → Option ConnectionId
  | .handshake =>
      match session.state.shared.handshake with
      | some (connection, .readingConnected _) => some connection
      | _ => none
  | .listener =>
      match session.state.tasks .listener with
      | .listener (.reading connection _) => some connection
      | _ => none
  | .shutdown =>
      match session.exit with
      | .awaitingReceipt connection => some connection
      | _ => none

theorem done_of_pastListener {reply : Reply} {receipt : String}
    (resumed : session.resume reply receipt = some next) (past : next.exit.pastListener = true) :
    session.exit.pastListener = true ∨ (session.state.tasks .listener).done = true := by
  unfold Session.resume at resumed
  split at resumed
  case h_3 =>
    split at resumed
    · rename_i ended
      exact .inr ended
    · contradiction
  case h_1 =>
    split at resumed
    · obtain rfl := Option.some.inj resumed
      contradiction
    · contradiction
  case h_2 | h_4 =>
    obtain rfl := Option.some.inj resumed
    contradiction
  case h_18 | h_19 =>
    split at resumed
    · obtain rfl := Option.some.inj resumed
      contradiction
    · contradiction
  case h_20 => contradiction
  all_goals
    rename_i standing
    exact .inl (by rw [standing]; rfl)

/-- The invariant behind the readers. -/
structure Attached (session : Session) : Prop where
  placed : session.Placed
  listener : ∀ connection, (session.state.tasks .listener).attached = some connection →
    .activated connection ∈ session.state.shared.trace
  stopped : session.exit.pastListener = true → (session.state.tasks .listener).done = true

theorem Attached.step {action : SessionAction} (attached : session.Attached)
    (stepped : sessionStep settings session action = some next) : next.Attached := by
  have placed := attached.placed.step stepped
  cases action with
  | client action =>
      obtain ⟨state, moved, rfl⟩ := Option.map_eq_some_iff.mp stepped
      refine ⟨placed, ?_, ?_⟩
      · intro connection reading
        rcases attached_of_step attached.placed.fits moved connection reading with known | active
        · exact attached.placed.state.trace_subset attached.placed.fits moved
            (attached.listener connection known)
        · exact placed.state.shared.active connection active
      · intro past
        have ended := attached.stopped (by
          cases exit : session.exit <;> simp_all [ExitPoint.notices, ExitPoint.pastListener])
        rw [listener_of_done attached.placed.fits moved ended]
        exact ended
  | exit raised =>
      simp only [sessionStep] at stepped
      split at stepped
      · split at stepped
        · obtain rfl := Option.some.inj stepped
          unfold Session.leave at placed ⊢
          split <;> rename_i waits <;> simp only [waits] at placed <;>
            exact ⟨placed, attached.listener, by simp [ExitPoint.pastListener]⟩
        · contradiction
      · contradiction
  | resume reply receipt =>
      have tasks := tasks_resume stepped
      have grows := (attached.placed.recedes stepped).speaks.grows
      refine ⟨placed, ?_, ?_⟩
      · intro connection reading
        rw [tasks] at reading
        exact grows (attached.listener connection reading)
      · intro past
        rw [tasks]
        rcases done_of_pastListener stepped past with earlier | ended
        · exact attached.stopped earlier
        · exact ended

theorem attached_of_reaches {allowed : Session → SessionAction → Prop} {current : Session}
    (reach : (Stompman.session settings).Reaches allowed current) : current.Attached :=
  reach.invariant ⟨@placed_of_reaches settings allowed _ .initial,
    by simp [Stompman.session, client, initialTasks, Point.attached],
    by simp [Stompman.session, ExitPoint.pastListener]⟩
    fun _ attached _ stepped => attached.step stepped

namespace Attached

/-- A handshake reads from a connection that has not been active. -/
theorem handshake (attached : session.Attached) {connection : ConnectionId}
    (reading : session.reads .handshake = some connection) :
    .activated connection ∉ session.state.shared.trace := by
  simp only [reads] at reading
  split at reading
  · rename_i current point underway
    obtain rfl := Option.some.inj reading
    exact (attached.placed.state.shared.handshake _ _ underway).2
  · contradiction

theorem activated_of_listener (attached : session.Attached) {connection : ConnectionId}
    (reading : session.reads .listener = some connection) :
    .activated connection ∈ session.state.shared.trace ∧
      (session.state.tasks .listener).done = false := by
  simp only [reads] at reading
  split at reading
  · rename_i current epoch standing
    obtain rfl := Option.some.inj reading
    refine ⟨attached.listener current ?_, ?_⟩ <;> rw [standing] <;> rfl
  · contradiction

theorem activated_of_shutdown (attached : session.Attached) {connection : ConnectionId}
    (reading : session.reads .shutdown = some connection) :
    .activated connection ∈ session.state.shared.trace ∧
      (session.state.tasks .listener).done = true := by
  simp only [reads] at reading
  split at reading
  · rename_i current standing
    obtain rfl := Option.some.inj reading
    refine ⟨attached.placed.held current ?_, attached.stopped ?_⟩ <;> rw [standing] <;> rfl
  · contradiction

end Attached

end Session

/-- In every run, shutdown included, no two tasks await `read_frames` of one connection. -/
theorem single_reader {settings : Settings} {current : Session}
    (reach : (session settings).Reachable current) {first second : Reader}
    (different : first ≠ second) {connection : ConnectionId}
    (reading : current.reads first = some connection) :
    current.reads second ≠ some connection := by
  have attached := Session.attached_of_reaches reach
  intro also
  cases first with
  | handshake =>
      have unused := attached.handshake reading
      cases second with
      | handshake => exact different rfl
      | listener => exact unused (attached.activated_of_listener also).1
      | shutdown => exact unused (attached.activated_of_shutdown also).1
  | listener =>
      obtain ⟨used, busy⟩ := attached.activated_of_listener reading
      cases second with
      | handshake => exact attached.handshake also used
      | listener => exact different rfl
      | shutdown => simp [(attached.activated_of_shutdown also).2] at busy
  | shutdown =>
      obtain ⟨used, ended⟩ := attached.activated_of_shutdown reading
      cases second with
      | handshake => exact attached.handshake also used
      | listener => simp [(attached.activated_of_listener also).2] at ended
      | shutdown => exact different rfl

/-- A write is lost and its sender connects again, up to the read of CONNECTED; the listener still
reads from the lost connection. -/
def reconnectsBehind : List Action :=
  enters ++ [.send 0 { body := [], destination := "/queue" }, raises (.call 0) .connectionLost,
    returns (.call 0), returns (.call 0), .resume (.call 0) (.connected 0) {}, returns (.call 0)]

theorem single_reader_reconnectsBehind :
    ∃ current, (session plainSettings).Reachable current ∧
      (current.reads .handshake = some 1 ∧ current.reads .listener = some 0) ∧
      current.reads .listener ≠ some 1 := by
  have replayed : ((session plainSettings).replay (fun _ _ => true)
      (session plainSettings).initial (reconnectsBehind.map .client)).map
        (fun current => decide (current.reads .handshake = some 1 ∧
          current.reads .listener = some 0)) = some true := by
    decide +kernel
  obtain ⟨current, reach, happened⟩ := System.exists_of_replay (fun _ _ _ => trivial) replayed
  have reading := of_decide_eq_true happened
  exact ⟨current, reach, reading, single_reader reach (by simp) reading.1⟩

end Stompman
