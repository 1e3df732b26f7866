import Mathlib.Data.Finset.Card
import Mathlib.Data.List.Count
import Stompman.Connections
import Stompman.Foundation.Trace
import Stompman.Leaks

/-!
# The reconnection count

Several tasks may notice the loss of one connection, some of them after another connection has
become active.  Only a report about the active connection takes effect, a connection becomes active
at most once, and so the reconnection count is the number of connections that were discarded.
-/

namespace Stompman

open Foundation

namespace Event

/-- The connection that an event discards. -/
def discarded? : Event → Option ConnectionId
  | .discarded connection => some connection
  | _ => none

/-- Events that neither make a connection active nor discard one. -/
def Quiet : Event → Prop
  | .activated _ | .discarded _ => False
  | _ => True

/-- A connection is closed by the call that discards it. -/
def closing? : Event → Option Event
  | .discarded connection => some (.closed connection)
  | _ => none

/-- What must have happened before a connection becomes active or is discarded. -/
def Orderly (event : Event) (before : List Event) : Prop :=
  ∀ connection,
    (event = .activated connection →
      .activated connection ∉ before ∧ .discarded connection ∉ before) ∧
    (event = .discarded connection →
      .activated connection ∈ before ∧ .discarded connection ∉ before)

end Event

/-- The connections that a trace discards, in order. -/
def discards (trace : List Event) : List ConnectionId := trace.filterMap Event.discarded?

theorem mem_discards {trace : List Event} {connection : ConnectionId} :
    connection ∈ discards trace ↔ .discarded connection ∈ trace := by
  unfold discards
  rw [List.mem_filterMap]
  constructor
  · rintro ⟨event, member, discarded⟩
    cases event with
    | discarded other =>
        obtain rfl := Option.some.inj discarded
        exact member
    | _ => contradiction
  · exact fun member => ⟨_, member, rfl⟩

theorem discards_append_quiet {trace events : List Event}
    (quiet : ∀ event ∈ events, event.Quiet) : discards (trace ++ events) = discards trace := by
  unfold discards
  have none : events.filterMap Event.discarded? = [] := by
    rw [List.filterMap_eq_nil_iff]
    intro event member
    cases event with
    | discarded connection => exact absurd (quiet _ member) id
    | _ => rfl
  rw [List.filterMap_append, none, List.append_nil]

theorem orderly_of_quiet {event : Event} (quiet : event.Quiet) (before : List Event) :
    event.Orderly before := by
  intro connection
  refine ⟨?_, ?_⟩
  · rintro rfl
    exact absurd quiet id
  · rintro rfl
    exact absurd quiet id

/-- The reconnection count and the trace of the connections. -/
structure Shared.Tallied (shared : Shared) : Prop where
  count : shared.reconnectionCount = (discards shared.trace).length
  once : (discards shared.trace).Nodup
  orderly : EveryAfter Event.Orderly shared.trace
  closes : DirectlyFollowed Event.closing? shared.trace
  active : ∀ connection, shared.active = some connection →
    .activated connection ∈ shared.trace ∧ .discarded connection ∉ shared.trace
  handshake : ∀ connection point, shared.handshake = some (connection, point) →
    connection < shared.connections ∧ .activated connection ∉ shared.trace
  bound : ∀ connection, .activated connection ∈ shared.trace → connection < shared.connections

namespace Shared.Tallied

variable {settings : Settings} {before after : Shared} {connection : ConnectionId}

theorem activated_of_discarded (tallied : before.Tallied)
    (discarded : .discarded connection ∈ before.trace) :
    .activated connection ∈ before.trace := by
  obtain ⟨front, rest, split⟩ := List.append_of_mem discarded
  have earlier := ((tallied.orderly front _ rest split connection).2 rfl).1
  rw [split]
  exact List.mem_append_left _ earlier

/-- Changes that discard no connection and make none active. -/
theorem quiet (tallied : before.Tallied) (events : List Event)
    (trace_eq : after.trace = before.trace ++ events) (quiet : ∀ event ∈ events, event.Quiet)
    (count : after.reconnectionCount = before.reconnectionCount)
    (active : after.active = before.active ∨ after.active = none)
    (handshake : ∀ connection point, after.handshake = some (connection, point) →
      (∃ earlier, before.handshake = some (connection, earlier)) ∨
        connection = before.connections ∧ connection < after.connections)
    (connections : before.connections ≤ after.connections) : after.Tallied where
  count := by rw [count, trace_eq, discards_append_quiet quiet, tallied.count]
  once := by rw [trace_eq, discards_append_quiet quiet]; exact tallied.once
  orderly := by
    rw [trace_eq]
    exact tallied.orderly.append_of_free fun event member => orderly_of_quiet (quiet event member)
  closes := by
    rw [trace_eq]
    refine tallied.closes.append (.of_none fun event member => ?_)
    cases event with
    | discarded connection => exact absurd (quiet _ member) id
    | _ => rfl
  active := by
    intro connection current
    rcases active with same | inactive
    · obtain ⟨activated, kept⟩ := tallied.active connection (same ▸ current)
      rw [trace_eq, ← mem_discards, discards_append_quiet quiet, mem_discards]
      exact ⟨List.mem_append_left _ activated, kept⟩
    · rw [inactive] at current
      contradiction
  handshake := by
    intro connection point current
    have unused : .activated connection ∉ before.trace →
        .activated connection ∉ after.trace := by
      intro unused member
      rw [trace_eq] at member
      rcases List.mem_append.mp member with old | new
      · exact unused old
      · exact absurd (quiet _ new) id
    rcases handshake connection point current with ⟨earlier, known⟩ | ⟨rfl, fresh⟩
    · obtain ⟨opened, old⟩ := tallied.handshake connection earlier known
      exact ⟨Nat.lt_of_lt_of_le opened connections, unused old⟩
    · exact ⟨fresh, unused fun member => Nat.lt_irrefl _ (tallied.bound _ member)⟩
  bound := by
    intro connection member
    rw [trace_eq] at member
    rcases List.mem_append.mp member with old | new
    · exact Nat.lt_of_lt_of_le (tallied.bound connection old) connections
    · exact absurd (quiet _ new) id

/-- Changes beside the connections. -/
theorem keeps (tallied : before.Tallied) (events : List Event)
    (trace_eq : after.trace = before.trace ++ events) (quiet : ∀ event ∈ events, event.Quiet)
    (count : after.reconnectionCount = before.reconnectionCount)
    (active : after.active = before.active) (reconnect : after.reconnect = before.reconnect)
    (connections : after.connections = before.connections) : after.Tallied := by
  refine tallied.quiet events trace_eq quiet count (.inl active) ?_ (Nat.le_of_eq connections.symm)
  intro connection point current
  rw [Shared.handshake_congr reconnect] at current
  exact .inl ⟨point, current⟩

theorem emit (tallied : before.Tallied) {event : Event} (quiet : event.Quiet) :
    (before.emit event).Tallied :=
  tallied.keeps [event] rfl (by simpa using quiet) rfl rfl rfl rfl

theorem hand (tallied : before.Tallied) (connection : ConnectionId) (frame : Frame) :
    (before.hand connection frame).Tallied :=
  tallied.emit trivial

theorem noteWritten (tallied : before.Tallied) (connection : ConnectionId) (frame : Frame) :
    (before.noteWritten connection frame).Tallied :=
  tallied.emit trivial

/-- The active connection is discarded. -/
theorem discard (tallied : before.Tallied) (current : before.active = some connection) :
    (before.discard connection).Tallied := by
  obtain ⟨activated, kept⟩ := tallied.active connection current
  have trace_eq : (before.discard connection).trace =
      before.trace ++ [.discarded connection, .closed connection] := by
    simp [Shared.discard, Shared.emit]
  have discards_eq : discards (before.discard connection).trace =
      discards before.trace ++ [connection] := by
    rw [trace_eq, discards, List.filterMap_append]
    rfl
  refine ⟨?_, ?_, ?_, ?_, ?_, ?_, ?_⟩
  · rw [discards_eq, List.length_append, ← tallied.count]
    rfl
  · rw [discards_eq]
    rw [List.nodup_append]
    refine ⟨tallied.once, List.nodup_singleton _, ?_⟩
    rintro other member last is_last rfl
    obtain rfl := List.mem_singleton.mp is_last
    exact kept (mem_discards.mp member)
  · have first : EveryAfter Event.Orderly (before.trace ++ [.discarded connection]) := by
      refine tallied.orderly.concat fun other => ⟨by simp, ?_⟩
      intro same
      obtain rfl : connection = other := by simpa using same
      exact ⟨activated, kept⟩
    have closed : Event.Quiet (.closed connection) := trivial
    have second := first.concat (orderly_of_quiet closed _)
    simpa [trace_eq] using second
  · rw [trace_eq]
    exact tallied.closes.append (.pair rfl rfl)
  · intro other active
    contradiction
  · intro other point underway
    obtain ⟨opened, unused⟩ := tallied.handshake other point underway
    exact ⟨opened, by simpa [trace_eq] using unused⟩
  · intro other member
    refine tallied.bound other ?_
    simpa [trace_eq] using member

/-- The connection of the handshake becomes active. -/
theorem activates (tallied : before.Tallied)
    (trace_eq : after.trace = before.trace ++ [.activated connection])
    (count : after.reconnectionCount = before.reconnectionCount)
    (active : after.active = some connection) (calm : after.handshake = none)
    (connections : after.connections = before.connections) {point : Enter}
    (entered : before.handshake = some (connection, point)) : after.Tallied := by
  obtain ⟨opened, unused⟩ := tallied.handshake connection point entered
  have undiscarded : .discarded connection ∉ before.trace := fun member =>
    unused (tallied.activated_of_discarded member)
  have discards_eq : discards after.trace = discards before.trace := by
    rw [trace_eq, discards, List.filterMap_append]
    exact List.append_nil _
  refine ⟨?_, ?_, ?_, ?_, ?_, ?_, ?_⟩
  · rw [discards_eq, count, tallied.count]
  · rw [discards_eq]
    exact tallied.once
  · rw [trace_eq]
    refine tallied.orderly.concat fun other => ⟨?_, by simp⟩
    intro same
    obtain rfl : connection = other := by simpa using same
    exact ⟨unused, undiscarded⟩
  · rw [trace_eq]
    exact tallied.closes.append (.of_none (by simp [Event.closing?]))
  · intro other current
    obtain rfl := Option.some.inj (active.symm.trans current)
    rw [trace_eq]
    exact ⟨by simp, by simpa using undiscarded⟩
  · intro other point underway
    rw [calm] at underway
    contradiction
  · intro other member
    rw [connections]
    rw [trace_eq, List.mem_append, List.mem_singleton] at member
    rcases member with old | same
    · exact tallied.bound other old
    · obtain rfl : other = connection := by simpa using same
      exact opened

theorem quiet_writtenBy (connection : ConnectionId) (point : Enter) :
    ∀ event ∈ writtenBy connection point, event.Quiet := by
  intro event member
  cases point <;> simp only [writtenBy, List.not_mem_nil, List.mem_singleton] at member
  all_goals subst member; trivial

theorem ready {base : Shared} {reply : Reply} {point : Enter} {rest : List Subscription}
    {walk : Walk} (tallied : before.Tallied)
    (ready : before.Ready settings connection reply point base rest walk) : base.Tallied := by
  have carries := ready.base
  exact tallied.keeps _ carries.trace (quiet_writtenBy connection point) carries.reconnectionCount
    carries.active carries.reconnect carries.connections

/-- The holder of the lock moves on with the same connection, or without one. -/
theorem hold (tallied : before.Tallied) {reconnect : Reconnect} {phase : Phase}
    (same : ∀ connection point, phase = .entering connection point →
      ∃ earlier, before.handshake = some (connection, earlier)) :
    (before.hold reconnect phase).Tallied := by
  refine tallied.quiet [] (by simp [Shared.hold]) (by simp) rfl (.inl rfl) ?_ (Nat.le_refl _)
  intro connection point current
  refine .inl (same connection point ?_)
  cases phase with
  | entering other reached =>
      obtain ⟨rfl, rfl⟩ := eq_of_handshake_hold current
      rfl
  | _ => simp [Shared.hold, Shared.handshake] at current

theorem holdEntering (tallied : before.Tallied) {reconnect other : Reconnect}
    {point next : Enter} (locked : before.reconnect = some reconnect)
    (phase : reconnect.phase = .entering connection point) :
    (before.hold other (.entering connection next)).Tallied := by
  refine tallied.hold fun reached _ same => ?_
  obtain ⟨rfl, -⟩ := Phase.entering.inj same
  exact ⟨point, Shared.handshake_of_phase locked phase⟩

theorem reconnects {task : TaskId} {reply : Reply} {progress : Progress Unit ConnectionId}
    (tallied : before.Tallied)
    (effects : before.Reconnects settings task reply after progress) : after.Tallied := by
  have based : ∀ {reconnect : Reconnect} {connection : ConnectionId} {point : Enter}
      {base : Shared} {rest : List Subscription} {walk : Walk},
      before.Ready settings connection reply point base rest walk →
      before.reconnect = some reconnect → base.reconnect = some reconnect := by
    intro reconnect connection point base rest walk ready locked
    exact ready.base.reconnect.trans locked
  cases effects with
  | interrupted => exact tallied
  | found => exact tallied
  | races => exact tallied.hold (by simp)
  | sleeps => exact tallied.hold (by simp)
  | leaves calm pending =>
      exact tallied.quiet [] (by simp [Shared.leaveRace, Shared.release]) (by simp) rfl (.inl rfl)
        (by simp) (Nat.le_refl _)
  | opens reconnect locked owned calm pending server =>
      refine tallied.quiet _ (List.append_assoc _ _ _) ?_ rfl (.inl rfl) ?_ (Nat.le_succ _)
      · intro event member
        rcases List.mem_pair.mp member with rfl | rfl <;> trivial
      · intro connection point current
        obtain ⟨rfl, -⟩ : before.connections = connection ∧ _ = point := by
          simpa [startHandshake] using current
        exact .inr ⟨rfl, Nat.lt_succ_self _⟩
  | fails reconnect locked owned connection point phase =>
      have quiet : Event.Quiet (.closed connection) := trivial
      exact (tallied.emit quiet).hold (by simp)
  | asks reconnect locked owned connection server phase =>
      exact (tallied.noteWritten _ _).holdEntering locked phase
  | collects reconnect locked owned connection collected phase =>
      exact tallied.holdEntering locked phase
  | subscribes reconnect locked owned connection point phase subscription remaining ready =>
      have held := based ready locked
      exact ((tallied.ready ready).hand _ _).holdEntering held phase
  | replays reconnect locked owned connection walk current index frame phase =>
      rw [replayFrame_eq]
      exact ((tallied.noteWritten _ _).hand _ _).holdEntering locked phase
  | picks reconnect locked owned connection point phase ready transaction =>
      rw [replayFrame_eq]
      have held := based ready locked
      exact ((tallied.ready ready).hand _ _).holdEntering held phase
  | changed reconnect locked owned connection point phase ready =>
      have quiet : Event.Quiet (.closed connection) := trivial
      exact ((tallied.ready ready).emit quiet).hold (by simp)
  | finishes reconnect locked owned connection point phase ready =>
      exact (tallied.ready ready).activates rfl rfl rfl rfl rfl
        (Shared.handshake_of_phase (based ready locked) phase)

end Shared.Tallied

/-! ## Steps -/

namespace State

variable {settings : Settings} {state middle after : State} {action : Action}

theorem reconnectionCount_completed (duty : Duty) (written : Bool) (shared : Shared) :
    (duty.completed written shared).shared.reconnectionCount = shared.reconnectionCount := by
  have removed : ∀ transaction, (removeTransaction transaction shared).shared.reconnectionCount =
      shared.reconnectionCount := by
    intro transaction
    unfold removeTransaction
    split <;> rfl
  cases duty with
  | abort transaction => exact removed transaction
  | commit transaction =>
      cases written with
      | true => exact removed transaction
      | false => rfl
  | settle delivery frame suppressed => cases suppressed <;> rfl
  | _ => rfl

theorem tallied_begins (tallied : state.shared.Tallied)
    (begins : Begins settings state action middle) : middle.shared.Tallied := by
  have ended : ∀ (duty : Duty) (written : Bool) {shared : Shared}, shared.Tallied →
      (duty.completed written shared).shared.Tallied := by
    intro duty written shared known
    obtain ⟨-, -, active, reconnect, -, -, connections, -, events, trace_eq, listed⟩ :=
      duty.ends_completed written shared
    refine known.keeps events trace_eq ?_ (reconnectionCount_completed duty written shared) active
      reconnect connections
    intro event member
    rcases listed event member with ⟨id, -, rfl⟩ | ⟨number, rfl⟩ <;> trivial
  have opened : ∀ {duty : Duty} {task : TaskId} {shared : Shared},
      duty.Asked state action task shared → shared.Tallied := by
    intro duty task shared asked
    cases asked with
    | unsubscribe number id =>
        exact tallied.keeps [.unsubscribing id] rfl (by simp [Event.Quiet]) rfl rfl rfl rfl
    | commit => exact tallied.emit trivial
    | abort => exact tallied.emit trivial
  cases begins with
  | idles => exact tallied
  | reconnects task reply choice effects => exact tallied.reconnects effects
  | calls => exact tallied
  | sends transaction arguments =>
      exact tallied.keeps [_] rfl (by simp [Event.Quiet]) rfl rfl rfl rfl
  | writes task choice job runs left connection standing =>
      have written := tallied.noteWritten connection job.frame
      cases job with
      | begin transaction =>
          simp only [State.store, Job.completed, Shared.addTransaction]
          split
          · exact written
          · exact written.keeps [] (by simp) (by simp) rfl rfl rfl rfl
      | _ => exact written.keeps [] (by simp [Job.completed, State.store]) (by simp) rfl rfl rfl rfl
  | hands asked connection active =>
      exact (opened asked).hand _ _
  | skips asked => exact ended _ _ (opened asked)
  | fulfils task reply choice duty runs connection standing =>
      exact ended _ _ (tallied.noteWritten _ _)
  | drops => exact ended _ _ tallied
  | acknowledges action task aside duty runs settles number connection active =>
      exact (tallied.hand _ _).emit trivial
  | takes choice connection epoch frame standing point routes =>
      exact tallied.keeps [_] rfl (by simp [Event.Quiet]) rfl rfl rfl rfl

theorem tallied_reacts (tallied : state.shared.Tallied) (reacts : Reacts state after) :
    after.shared.Tallied := by
  cases reacts with
  | hands => exact tallied.hand _ _
  | waits => exact tallied
  | fails => exact tallied
  | loses => exact tallied
  | breaks => exact tallied
  | discards connection active => exact tallied.discard active
  | opens =>
      exact tallied.quiet [_] rfl (by simp [Event.Quiet]) rfl (.inl rfl)
        (fun _ point current => .inl ⟨point, current⟩) (Nat.le_succ _)
  | beats => exact tallied.emit trivial
  | reports => exact tallied.emit trivial
  | creates => exact tallied.keeps [_] rfl (by simp [Event.Quiet]) rfl rfl rfl rfl
  | stops => exact tallied
  | elsewhere changes =>
      exact tallied.keeps [] (by simp [changes.shared.trace]) (by simp)
        changes.shared.reconnectionCount changes.shared.active changes.shared.reconnect
        changes.shared.connections

theorem tallied_step (fits : state.Fits) (tallied : state.shared.Tallied)
    (stepped : step settings state action = some after) : after.shared.Tallied := by
  obtain ⟨middle, begins, reactions⟩ := moves_of_step fits stepped
  have begun := tallied_begins tallied begins
  clear stepped
  induction reactions with
  | refl => exact begun
  | tail _ reacts ih => exact tallied_reacts ih reacts

end State

/-! ## Shutdown -/

theorem Shared.Tallied.relatesExit :
    RelatesExit fun before after => before.Tallied → after.Tallied where
  refl _ := id
  trans first second := second ∘ first
  hands _ _ _ tallied := tallied.hand _ _
  writes _ _ _ tallied := tallied.noteWritten _ _
  discards _ _ active tallied := tallied.discard active
  closes shared connection tallied := by
    refine tallied.quiet [.closed connection] rfl (by simp [Event.Quiet]) rfl ?_
      (fun _ point current => .inl ⟨point, current⟩) (Nat.le_refl _)
    by_cases active : shared.active = some connection
    · exact .inr (by simp [active])
    · exact .inl (by simp [active])
  unsubscribing _ id tallied :=
    tallied.keeps [.unsubscribing id] rfl (by simp [Event.Quiet]) rfl rfl rfl rfl
  unsubscribed _ _ tallied := tallied.emit trivial

namespace Session

variable {settings : Settings} {session next : Session}

/-- The invariant behind the reconnection count. -/
structure Tallied (session : Session) : Prop where
  fits : session.state.Fits
  shared : session.state.shared.Tallied

theorem Tallied.step {action : SessionAction} (tallied : session.Tallied)
    (stepped : sessionStep settings session action = some next) : next.Tallied := by
  cases action with
  | client action =>
      obtain ⟨state, moved, rfl⟩ := Option.map_eq_some_iff.mp stepped
      exact ⟨tallied.fits.step moved, State.tallied_step tallied.fits tallied.shared moved⟩
  | exit raised =>
      simp only [sessionStep] at stepped
      split at stepped
      · split at stepped
        · obtain rfl := Option.some.inj stepped
          unfold Session.leave
          split <;> exact ⟨tallied.fits, tallied.shared⟩
        · contradiction
      · contradiction
  | resume reply receipt =>
      exact ⟨tallied.fits.of_tasks (tasks_resume stepped),
        Shared.Tallied.relatesExit.resume stepped tallied.shared⟩

theorem tallied_of_reaches {allowed : Session → SessionAction → Prop}
    (reach : (Stompman.session settings).Reaches allowed session) : session.Tallied := by
  refine reach.invariant ⟨fits_initial settings, ?_⟩ fun _ tallied _ stepped => tallied.step stepped
  exact ⟨rfl, List.nodup_nil, .nil, .nil, by simp [Stompman.session, client],
    by simp [Stompman.session, client, Shared.handshake], by simp [Stompman.session, client]⟩

end Session

/-! ## Reports -/

/-- The connection whose loss a task reports to `_discard_failed_connection_state` when what it
awaits raises `ConnectionLostError`. -/
def Point.uses : Point → Option ConnectionId
  | .listener (.reading connection _) => some connection
  | point => point.on

/-- The connection whose loss an action reports while something was awaited on it.  The heartbeat
task and the no-message monitor report the connection that they have just found active. -/
def Session.reported? (session : Session) : SessionAction → Option ConnectionId
  | .client (.resume task (.raised .connectionLost) _) => (session.state.tasks task).uses
  | .resume (.raised .connectionLost) _ =>
      match session.exit with
      | .unsubscribing _ _ _ point => point.on
      | _ => none
  | _ => none

/-- Neither the active connection nor the reconnection count changes. -/
def Shared.Unaffected (before after : Shared) : Prop :=
  after.active = before.active ∧ after.reconnectionCount = before.reconnectionCount

section Stale

variable {settings : Settings} {task : TaskId} {shared after : Shared} {connection : ConnectionId}

theorem Shared.Unaffected.refl (shared : Shared) : shared.Unaffected shared := ⟨rfl, rfl⟩

theorem Shared.Unaffected.trans {middle : Shared} (first : shared.Unaffected middle)
    (second : middle.Unaffected after) : shared.Unaffected after :=
  ⟨second.1.trans first.1, second.2.trans first.2⟩

/-- A writer whose connection is not the active one goes on to its next attempt. -/
theorem WriteFrame.resume_stale {point : WriteFrame} (on : point.on = some connection)
    (stale : shared.active ≠ some connection) {frame : Frame} {pick : Option String}
    {result : Shared × Progress WriteFrame Unit}
    (resumed : point.resume settings task frame (.raised .connectionLost) pick shared =
      some result) : shared.Unaffected result.1 := by
  cases point with
  | writing left other =>
      obtain rfl := Option.some.inj on
      simp only [WriteFrame.resume, if_neg stale, Option.some.injEq] at resumed
      obtain ⟨middle, progress⟩ := result
      have effects := attempts_effects frame shared left
      rw [resumed] at effects
      cases effects <;> exact ⟨rfl, rfl⟩
  | _ => contradiction

theorem MaybeWrite.resume_stale {point : MaybeWrite} (on : point.on = some connection)
    (stale : shared.active ≠ some connection) (frame : Frame) :
    point.resume frame (.raised .connectionLost) shared = some (shared, .returned false) := by
  cases point with
  | writing other =>
      obtain rfl := Option.some.inj on
      simp only [MaybeWrite.resume, if_neg stale]
  | _ => contradiction

theorem unaffected_removeTransaction (id : String) (shared : Shared) :
    shared.Unaffected (removeTransaction id shared).shared := by
  unfold removeTransaction
  split <;> exact ⟨rfl, rfl⟩

/-- A report about a connection that is not the active one. -/
theorem Point.resume_stale {point : Point} (used : point.uses = some connection)
    (stale : shared.active ≠ some connection) {choice : Choice} {resumed : Resumed}
    (resumes : point.resume settings task (.raised .connectionLost) choice shared = some resumed) :
    shared.Unaffected resumed.shared := by
  have writes : ∀ {writing : WriteFrame} {frame : Frame}
      {proceed : Shared × Progress WriteFrame Unit → Resumed}, writing.on = some connection →
      (∀ result : Shared × Progress WriteFrame Unit,
        result.1.Unaffected (proceed result).shared) →
      (writing.resume settings task frame (.raised .connectionLost) choice.pick shared).map
        proceed = some resumed → shared.Unaffected resumed.shared := by
    intro writing frame proceed on kept resumes
    obtain ⟨result, written, rfl⟩ := Option.map_eq_some_iff.mp resumes
    exact (WriteFrame.resume_stale on stale written).trans (kept result)
  have drops : ∀ {writing : MaybeWrite} {frame : Frame}
      {proceed : Shared × Progress MaybeWrite Bool → Resumed}, writing.on = some connection →
      shared.Unaffected (proceed (shared, .returned false)).shared →
      (writing.resume frame (.raised .connectionLost) shared).map proceed = some resumed →
      shared.Unaffected resumed.shared := by
    intro writing frame proceed on kept resumes
    rw [MaybeWrite.resume_stale on stale] at resumes
    obtain rfl := Option.some.inj resumes
    exact kept
  cases point with
  | sending frame writing =>
      refine writes used ?_ resumes
      rintro ⟨middle, progress⟩
      cases progress <;> exact ⟨rfl, rfl⟩
  | subscribing subscription writing =>
      refine writes used ?_ resumes
      rintro ⟨middle, progress⟩
      cases progress <;> exact ⟨rfl, rfl⟩
  | beginning writing =>
      cases task with
      | transaction id =>
          refine writes used ?_ resumes
          rintro ⟨middle, progress⟩
          cases progress with
          | returned =>
              simp only [begun, Shared.addTransaction]
              split <;> exact ⟨rfl, rfl⟩
          | _ => exact ⟨rfl, rfl⟩
      | _ => contradiction
  | transacting failed frame writing =>
      refine writes used ?_ resumes
      rintro ⟨middle, progress⟩
      cases progress <;> exact ⟨rfl, rfl⟩
  | unsubscribing id writing => exact drops used ⟨rfl, rfl⟩ resumes
  | aborting writing =>
      cases task with
      | transaction id => exact drops used (unaffected_removeTransaction id shared) resumes
      | _ => contradiction
  | committing writing =>
      cases task with
      | transaction id => exact drops used ⟨rfl, rfl⟩ resumes
      | _ => contradiction
  | settling delivery frame suppressed writing =>
      refine drops used ?_ resumes
      cases suppressed <;> exact ⟨rfl, rfl⟩
  | acknowledging delivery frame writing => exact drops used ⟨rfl, rfl⟩ resumes
  | listener reading =>
      cases reading with
      | reading other epoch =>
          obtain rfl := Option.some.inj used
          simp only [Point.resume, ListenerPoint.resume, if_neg stale, Option.some.injEq] at resumes
          rw [← resumes]
          unfold ListenerPoint.loop
          split <;> exact .refl _
      | _ => contradiction
  | _ => contradiction

theorem Session.unaffected_unsubscribeFromAll (connection : ConnectionId) (receipt : String)
    (subscriptions : List Subscription) (session : Session) :
    session.state.shared.Unaffected
      (unsubscribeFromAll connection receipt subscriptions session).state.shared := by
  induction subscriptions generalizing session with
  | nil => exact ⟨rfl, rfl⟩
  | cons subscription remaining ih =>
      have effects := maybeStart_effects (unsubscribeFrame subscription.id)
        { session.state.shared.emit (.unsubscribing subscription.id) with
          subscriptions := session.state.shared.subscriptions.deleteById subscription.id }
      rw [Session.unsubscribeFromAll]
      generalize MaybeWrite.start (unsubscribeFrame subscription.id) _ = result at effects
      obtain ⟨shared, progress⟩ := result
      cases effects with
      | drops inactive => exact ih _
      | hands connection active => exact ⟨rfl, rfl⟩

/-- A report about a connection that is not the active one changes neither the active connection nor
the count. -/
theorem Session.step_stale {session next : Session} {action : SessionAction}
    (reported : session.reported? action = some connection)
    (stale : session.state.shared.active ≠ some connection)
    (stepped : sessionStep settings session action = some next) :
    session.state.shared.Unaffected next.state.shared := by
  cases action with
  | client action =>
      obtain ⟨state, moved, rfl⟩ := Option.map_eq_some_iff.mp stepped
      cases steps_of_step moved with
      | resume task reply choice created resumes =>
          cases reply with
          | raised failure =>
              cases failure with
              | connectionLost => exact Point.resume_stale reported stale resumes
              | _ => contradiction
          | _ => contradiction
      | _ => contradiction
  | exit => contradiction
  | resume reply receipt =>
      cases reply with
      | raised failure =>
          cases failure with
          | connectionLost =>
              simp only [Session.reported?] at reported
              split at reported
              · rename_i other current remaining point standing
                simp only [sessionStep, Session.resume, standing,
                  MaybeWrite.resume_stale reported stale, Option.map_some,
                  Option.some.injEq] at stepped
                rw [← stepped]
                exact unaffected_unsubscribeFromAll other receipt remaining _
              · contradiction
          | _ => contradiction
      | _ => contradiction

end Stale

/-! ## Runs -/

theorem count_discards (trace : List Event) (connection : ConnectionId) :
    (discards trace).count connection = trace.count (.discarded connection) := by
  induction trace with
  | nil => rfl
  | cons event trace ih =>
      unfold discards at ih ⊢
      cases event with
      | discarded other =>
          have added : (Event.discarded other :: trace).filterMap Event.discarded? =
              other :: trace.filterMap Event.discarded? := rfl
          rw [added, List.count_cons, List.count_cons, ih]
          simp
      | _ =>
          rw [List.filterMap_cons_none rfl, List.count_cons, ih]
          simp

/-- The count is the number of connections that were active and have been discarded, each of them is
closed once by the call that discards it, and none of them becomes active again. -/
structure Shared.DiscardsExactly (shared : Shared) : Prop where
  counted : ∃ discarded : Finset ConnectionId,
    (∀ connection, connection ∈ discarded ↔
      .activated connection ∈ shared.trace ∧ .discarded connection ∈ shared.trace) ∧
    shared.reconnectionCount = discarded.card
  closed : ∀ connection, .discarded connection ∈ shared.trace →
    shared.trace.count (.discarded connection) = 1 ∧
      ∃ before later, shared.trace = before ++ .discarded connection :: .closed connection :: later
  never_again : ∀ before connection later,
    shared.trace = before ++ .activated connection :: later → .discarded connection ∉ before
  inactive : ∀ connection, .discarded connection ∈ shared.trace → shared.active ≠ some connection

theorem Shared.Tallied.discardsExactly {shared : Shared} (tallied : shared.Tallied) :
    shared.DiscardsExactly where
  counted := by
    refine ⟨(discards shared.trace).toFinset, ?_, ?_⟩
    · intro connection
      rw [List.mem_toFinset, mem_discards]
      exact ⟨fun member => ⟨tallied.activated_of_discarded member, member⟩, And.right⟩
    · rw [List.toFinset_card_of_nodup tallied.once, tallied.count]
  closed := by
    intro connection member
    constructor
    · rw [← count_discards]
      exact List.count_eq_one_of_mem tallied.once (mem_discards.mpr member)
    · obtain ⟨before, rest, split⟩ := List.append_of_mem member
      obtain ⟨later, rfl⟩ := tallied.closes before _ rest _ rfl split
      exact ⟨before, later, split⟩
  never_again := fun before connection later split =>
    ((tallied.orderly before _ later split connection).1 rfl).2
  inactive := fun connection member active => (tallied.active connection active).2 member

/-- In every state of every run, the reconnection count is the number of connections that were
discarded; a report about a connection that is not the active one has no effect. -/
theorem discardsExactly_of_reachable {settings : Settings} {current : Session}
    (reach : (session settings).Reachable current) :
    current.state.shared.DiscardsExactly ∧
      ∀ action next connection, sessionStep settings current action = some next →
        current.reported? action = some connection →
        current.state.shared.active ≠ some connection →
        next.state.shared.active = current.state.shared.active ∧
          next.state.shared.reconnectionCount = current.state.shared.reconnectionCount :=
  ⟨(Session.tallied_of_reaches reach).shared.discardsExactly,
    fun _ _ _ stepped reported stale => Session.step_stale reported stale stepped⟩

/-- A frame is being written when the heartbeat and the listener notice the loss of its connection,
and the listener reconnects. -/
def losesTwice : List Action :=
  enters ++ [.send 0 { body := [], destination := "/queue" },
    .resume (.heartbeat 0) .returned { beats := false }, raises .listener .connectionLost] ++
    connects .listener

/-- The writer is the third to report the first connection, and the second one stays active. -/
theorem discardsExactly_losesTwice :
    ∃ current, (session plainSettings).Reachable current ∧
      (current.state.shared.active = some 1 ∧ current.state.shared.reconnectionCount = 1 ∧
        current.reported? (.client (raises (.call 0) .connectionLost)) = some 0) ∧
      current.state.shared.DiscardsExactly ∧
      ∀ next, sessionStep plainSettings current (.client (raises (.call 0) .connectionLost)) =
          some next →
        next.state.shared.active = some 1 ∧ next.state.shared.reconnectionCount = 1 := by
  have replayed : ((session plainSettings).replay (fun _ _ => true)
      (session plainSettings).initial (losesTwice.map .client)).map (fun current =>
        decide (current.state.shared.active = some 1 ∧ current.state.shared.reconnectionCount = 1 ∧
          current.reported? (.client (raises (.call 0) .connectionLost)) = some 0)) =
      some true := by
    decide +kernel
  obtain ⟨current, reach, happened⟩ := System.exists_of_replay (fun _ _ _ => trivial) replayed
  obtain ⟨active, count, reported⟩ := of_decide_eq_true happened
  obtain ⟨exact_count, unaffected⟩ := discardsExactly_of_reachable reach
  refine ⟨current, reach, ⟨active, count, reported⟩, exact_count, fun next stepped => ?_⟩
  rw [← active, ← count]
  exact unaffected _ next 0 stepped reported (by simp [active])

end Stompman
