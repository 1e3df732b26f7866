import Stompman.Lending
import Stompman.Once

/-!
# What is committed is what was sent

A block writes its SENDs on one connection, which stays the active one until the block commits on
it, or the replay writes all of them on a new connection.  Under the conditions below the two never
meet in one transaction.
-/

namespace Stompman

open Foundation

/-! ## The SENDs of a transaction -/

/-- A SEND of a transaction that has been written, with its connection. -/
def Event.writtenIn (transaction : String) : Event → Option (ConnectionId × Frame)
  | .wrote connection frame =>
      if frame.sendsIn transaction then some (connection, frame) else none
  | _ => none

/-- The SENDs of a transaction that have been written, in order. -/
def written (transaction : String) (trace : List Event) : List (ConnectionId × Frame) :=
  trace.filterMap (Event.writtenIn transaction)

/-- The SENDs of a transaction that have been written on a connection, in order. -/
def sendsOn (connection : ConnectionId) (transaction : String) (trace : List Event) : List Frame :=
  ((written transaction trace).filter fun pair => pair.1 = connection).map Prod.snd

/-- The frames of the `Transaction.send` calls of a block, in order. -/
def calls (transaction : String) (trace : List Event) : List Frame :=
  trace.filterMap (Event.calledIn transaction)

/-- On the connection of a COMMIT, the SENDs of its transaction that were written before it are the
frames of the block's calls, and no SEND of the transaction is written after it. -/
def ExactContent (trace : List Event) : Prop :=
  ∀ transaction connection frame before later, frame.commits transaction = true →
    trace = before ++ .wrote connection frame :: later →
      sendsOn connection transaction before = calls transaction trace ∧
        written transaction later = []

theorem written_append (transaction : String) (trace events : List Event) :
    written transaction (trace ++ events) =
      written transaction trace ++ written transaction events :=
  List.filterMap_append

theorem sendsOn_append (connection : ConnectionId) (transaction : String)
    (trace events : List Event) :
    sendsOn connection transaction (trace ++ events) =
      sendsOn connection transaction trace ++ sendsOn connection transaction events := by
  simp [sendsOn, written_append]

theorem calls_append (transaction : String) (trace events : List Event) :
    calls transaction (trace ++ events) = calls transaction trace ++ calls transaction events :=
  List.filterMap_append

/-- Events that are neither SENDs nor COMMITs that have been written nor calls. -/
def Event.Silent (event : Event) : Prop :=
  ∀ transaction, event.writtenIn transaction = none ∧ event.calledIn transaction = none ∧
    event.committed transaction = false

theorem written_eq_nil {events : List Event} (silent : ∀ event ∈ events, event.Silent)
    (transaction : String) : written transaction events = [] :=
  List.filterMap_eq_nil_iff.mpr fun event member => (silent event member transaction).1

theorem calls_eq_nil {events : List Event} (silent : ∀ event ∈ events, event.Silent)
    (transaction : String) : calls transaction events = [] :=
  List.filterMap_eq_nil_iff.mpr fun event member => (silent event member transaction).2.1

/-- What each event of a run with exact contents requires of the events before it. -/
def Event.Timely (event : Event) (before : List Event) : Prop :=
  (∀ transaction connection frame, event = .wrote connection frame →
    frame.commits transaction = true →
      sendsOn connection transaction before = calls transaction before) ∧
  ∀ transaction, event.writtenIn transaction ≠ none ∨ event.calledIn transaction ≠ none →
    commitments transaction before = 0

theorem Event.Silent.timely {event : Event} (silent : event.Silent) (before : List Event) :
    event.Timely before := by
  refine ⟨?_, ?_⟩
  · rintro transaction connection frame rfl commits
    have quiet := (silent transaction).2.2
    simp [Event.committed, commits] at quiet
  · intro transaction either
    obtain ⟨unwritten, uncalled, -⟩ := silent transaction
    simp [unwritten, uncalled] at either

theorem EveryAfter.silent {trace events : List Event} (timely : EveryAfter Event.Timely trace)
    (silent : ∀ event ∈ events, event.Silent) : EveryAfter Event.Timely (trace ++ events) :=
  timely.append_of_free fun event member => (silent event member).timely

/-- Timely events make exact contents. -/
theorem exactContent_of_timely {trace : List Event} (timely : EveryAfter Event.Timely trace) :
    ExactContent trace := by
  intro transaction connection frame before later commits split
  -- Once the COMMIT is written, neither calls nor SENDs of the transaction are timely.
  have after : ∀ event ∈ later, event.writtenIn transaction = none ∧
      event.calledIn transaction = none := by
    intro event member
    obtain ⟨front, back, rfl⟩ := List.append_of_mem member
    have required := (timely (before ++ .wrote connection frame :: front) event back
      (by simp [split])).2 transaction
    have positive : commitments transaction (before ++ .wrote connection frame :: front) ≠ 0 := by
      simp [commitments, List.countP_append, Event.committed, commits]
    by_contra either
    rw [not_and_or] at either
    exact positive (required either)
  have same := (timely before _ later split).1 transaction connection frame rfl commits
  refine ⟨?_, List.filterMap_eq_nil_iff.mpr fun event member => (after event member).1⟩
  have none_later : calls transaction (.wrote connection frame :: later) = [] := by
    refine List.filterMap_eq_nil_iff.mpr fun event member => ?_
    rcases List.mem_cons.mp member with rfl | present
    · rfl
    · exact (after event present).2
  rw [split, calls_append, none_later, List.append_nil]
  exact same

/-! ## The invariant -/

/-- The step is one of a run with exact contents: handshakes replay only settled transactions,
undisturbed, a block one of whose sends raised does not commit on a connection, and `Client.send`
is not given the header of a transaction. -/
def sendsExactly (settings : Settings) (state : State) : Action → Bool
  | .exit transaction true =>
      match state.tasks (.transaction transaction) with
      | .inside true => state.shared.active.isNone
      | _ => true
  | .send _ arguments => ((arguments.headers.getD Dict.empty).get? "transaction").isNone
  | action => replaysSettled settings state action

/-- `Client.send` writes no SEND of a transaction. -/
def State.Plain (state : State) : Prop :=
  ∀ task frame writing, state.tasks task = .sending frame writing →
    ∀ transaction, frame.sendsIn transaction = false

/-- All SENDs of a transaction have been written on the active connection, if there is one. -/
def Shared.Home (shared : Shared) (transaction : String) : Prop :=
  ∀ pair ∈ written transaction shared.trace,
    shared.active = some pair.1 ∨ shared.active = none

/-- What the position of a block says about its SENDs. -/
def Point.Exact (shared : Shared) (transaction : String) : Point → Prop
  | .absent | .beginning _ =>
      written transaction shared.trace = [] ∧ calls transaction shared.trace = []
  | .inside failed =>
      transaction ∈ shared.transactions ∧ shared.Home transaction ∧
        (failed = false →
          (written transaction shared.trace).map Prod.snd = calls transaction shared.trace)
  | .transacting failed frame writing =>
      transaction ∈ shared.transactions ∧ shared.Home transaction ∧
        (∀ connection, writing.on = some connection →
          shared.active = some connection ∨ shared.active = none) ∧
        (failed = false →
          (written transaction shared.trace).map Prod.snd ++ [frame] =
            calls transaction shared.trace)
  | .committing writing =>
      ∀ connection, writing.on = some connection →
        sendsOn connection transaction shared.trace = calls transaction shared.trace
  | _ => True

/-- What a handshake has written of the SENDs of transactions on its connection. -/
def Enter.Exact (shared : Shared) (connection : ConnectionId) : Enter → Prop
  | .replaying walk own frame =>
      sendsOn connection own shared.trace =
          (match frame with
          | some (index, _) => (shared.sentFrames own).take index
          | none => shared.sentFrames own) ∧
        ∀ transaction, transaction ≠ own → transaction ∉ walk.visited →
          sendsOn connection transaction shared.trace = []
  | _ => ∀ transaction, sendsOn connection transaction shared.trace = []

/-- The invariant behind exact contents. -/
structure Exact (state : State) : Prop where
  single : Single state
  placed : state.Placed
  plain : state.Plain
  timely : EveryAfter Event.Timely state.shared.trace
  blocks : ∀ transaction,
    (state.tasks (.transaction transaction)).Exact state.shared transaction
  handshake : ∀ connection point, state.shared.handshake = some (connection, point) →
    point.Exact state.shared connection

theorem Frame.sendsIn_eq_false_of_none {frame : Frame}
    (none : frame.headers.get? "transaction" = none) (transaction : String) :
    frame.sendsIn transaction = false := by
  simp [Frame.sendsIn, none]

theorem get?_sendFrame (arguments : SendArguments) :
    (sendFrame arguments none).headers.get? "transaction" =
      (arguments.headers.getD Dict.empty).get? "transaction" := by
  unfold sendFrame
  cases arguments.contentType <;> cases arguments.addContentLength <;>
    simp [Dict.get?_set]

/-- The frame at a position, where it was built from the headers of the caller or of a message. -/
def Point.given : Point → Option Frame
  | .sending frame _ | .settling _ frame _ _ | .acknowledging _ frame _ => some frame
  | _ => none

theorem Point.Aside.given {point : Point} (aside : point.Aside) : point.given = none := by
  cases point with
  | listener => rfl
  | _ => first | rfl | exact absurd aside id

/-- All such frames have a property. -/
def State.Given (accepts : Frame → Prop) (state : State) : Prop :=
  ∀ task frame, (state.tasks task).given = some frame → accepts frame

namespace State.Given

variable {settings : Settings} {accepts : Frame → Prop} {state : State}

theorem store (known : state.Given accepts) {task : TaskId} {resumed : Resumed}
    (own : ∀ frame, resumed.point.given = some frame → accepts frame)
    (spawned : ∀ other point, resumed.spawned = some (other, point) → point.given = none) :
    (state.store task resumed).Given accepts := by
  refine State.forall_tasks_store (fun _ point => ∀ frame, point.given = some frame →
    accepts frame) (fun other _ => known other) own ?_
  intro other point created frame same
  rw [spawned other point created] at same
  contradiction

theorem aside (known : state.Given accepts) {task : TaskId} {resumed : Resumed}
    (own : resumed.point.Aside) (spawned : resumed.spawned = none) :
    (state.store task resumed).Given accepts :=
  known.store (by simp [own.given]) (by simp [spawned])

/-- A job or a duty that goes on keeps its frame. -/
theorem job (known : state.Given accepts) {task : TaskId} {job : Job} {writing : WriteFrame}
    (standing : state.tasks task = job.point writing) (next : WriteFrame) :
    ∀ frame, (job.point next).given = some frame → accepts frame := by
  have own := known task
  rw [standing] at own
  cases job <;> exact own

@[inherit_doc job]
theorem duty (known : state.Given accepts) {task : TaskId} {duty : Duty} {writing : MaybeWrite}
    (standing : state.tasks task = duty.point writing) (next : MaybeWrite) :
    ∀ frame, (duty.point next).given = some frame → accepts frame := by
  have own := known task
  rw [standing] at own
  cases duty <;> exact own

theorem begins {action : Action} {middle : State} (known : state.Given accepts)
    (sends : ∀ number arguments, action = .send number arguments →
      accepts (sendFrame arguments none))
    (settles : ∀ type ackId subscription, type = .ack ∨ type = .nack →
      accepts (settleFrame type ackId subscription))
    (begins : Begins settings state action middle) : middle.Given accepts := by
  cases begins with
  | idles => exact known
  | reconnects => exact known
  | calls _ task job asked absent left =>
      refine known.store ?_ (by simp)
      intro frame same
      cases action with
      | send number arguments =>
          obtain ⟨rfl, rfl⟩ := Prod.mk.inj (Option.some.inj asked)
          obtain rfl := Option.some.inj same
          exact sends number arguments rfl
      | subscribe =>
          obtain ⟨rfl, rfl⟩ := Prod.mk.inj (Option.some.inj asked)
          contradiction
      | begin =>
          obtain ⟨rfl, rfl⟩ := Prod.mk.inj (Option.some.inj asked)
          contradiction
      | _ => contradiction
  | sends => exact known.store (by simp [Point.given]) (by simp)
  | writes task choice job runs left connection standing =>
      cases job <;>
        exact known.store (by simp [Job.completed, Point.given]) (by simp [Job.completed])
  | hands asked => cases asked <;> exact known.store (by simp [Duty.point, Point.given]) (by simp)
  | skips asked =>
      exact known.aside (Duty.ends_completed _ _ _).aside (Duty.ends_completed _ _ _).spawned
  | fulfils =>
      exact known.aside (Duty.ends_completed _ _ _).aside (Duty.ends_completed _ _ _).spawned
  | drops =>
      exact known.aside (Duty.ends_completed _ _ _).aside (Duty.ends_completed _ _ _).spawned
  | acknowledges action task aside duty runs acks number connection active built =>
      refine known.store ?_ (by simp)
      obtain ⟨type, ackId, subscription, frame_eq⟩ := built
      have accepted : accepts duty.frame := by
        rw [frame_eq] at acks ⊢
        exact settles type ackId subscription acks
      intro frame same
      cases duty with
      | settle =>
          obtain rfl := Option.some.inj same
          exact accepted
      | acknowledge =>
          obtain rfl := Option.some.inj same
          exact accepted
      | _ => contradiction
  | takes choice connection epoch frame standing point routes =>
      cases routes with
      | delivers => exact known.store (by simp [Point.given]) (by simp)
      | passes _ _ _ aside => exact known.aside aside rfl

theorem reacts {after : State} (known : state.Given accepts) (reacts : Reacts state after) :
    after.Given accepts := by
  cases reacts with
  | hands task job runs writing standing => exact known.store (known.job standing _) (by simp)
  | waits task job runs writing standing => exact known.store (known.job standing _) (by simp)
  | fails task job => cases job <;> exact known.store (by simp [Job.failed, Point.given]) (by simp)
  | loses task duty runs connection standing =>
      exact known.store (known.duty standing _) (by simp)
  | breaks task duty =>
      cases duty <;> exact known.store (by simp [Duty.failed, Point.given]) (by simp)
  | discards => exact known
  | opens => exact known
  | beats => exact known
  | reports => exact known
  | creates =>
      refine known.store (by simp [ListenerPoint.createHandler, Point.given]) ?_
      intro other point created
      obtain ⟨-, rfl⟩ := Prod.mk.inj (Option.some.inj created)
      rfl
  | stops => exact known.aside trivial rfl
  | elsewhere changes =>
      intro task frame same
      rcases changes.tasks task with unmoved | ⟨-, -, aside⟩
      · exact known task frame (unmoved ▸ same)
      · rw [aside.given] at same
        contradiction

end State.Given

namespace State.Plain

variable {settings : Settings} {state : State}

/-- ACKs and NACKs are no SENDs, so that `Client.send` decides. -/
theorem iff_given (fits : state.Fits) :
    state.Plain ↔ state.Given fun frame => ∀ transaction, frame.sendsIn transaction = false := by
  constructor
  · intro plain task frame same
    have own := fits.tasks task
    have settles : frame.type = .ack ∨ frame.type = .nack →
        ∀ transaction, frame.sendsIn transaction = false := by
      rintro (ack | nack) transaction
      · exact Frame.sendsIn_eq_false (by simp [ack]) transaction
      · exact Frame.sendsIn_eq_false (by simp [nack]) transaction
    cases standing : state.tasks task with
    | sending sent writing =>
        rw [standing] at same
        obtain rfl := Option.some.inj same
        exact plain task sent writing standing
    | settling =>
        rw [standing] at same own
        obtain rfl := Option.some.inj same
        exact settles own.2
    | acknowledging =>
        rw [standing] at same own
        obtain rfl := Option.some.inj same
        exact settles own.2
    | _ => rw [standing] at same; contradiction
  · intro known task frame writing standing
    exact known task frame (by rw [standing]; rfl)

theorem begins {action : Action} {middle : State} (plain : state.Plain) (fits : state.Fits)
    (met : sendsExactly settings state action = true)
    (begins : Begins settings state action middle) : middle.Plain := by
  refine (iff_given (begins.fits fits)).mpr (((iff_given fits).mp plain).begins ?_ ?_ begins)
  · rintro number arguments rfl
    refine Frame.sendsIn_eq_false_of_none ?_
    rw [get?_sendFrame]
    simpa [sendsExactly] using met
  · intro type ackId subscription acks transaction
    refine Frame.sendsIn_eq_false ?_ transaction
    rcases acks with rfl | rfl <;> simp [settleFrame, Frame.bodyless]

theorem reacts {after : State} (plain : state.Plain) (fits : state.Fits)
    (reacts : Reacts state after) : after.Plain :=
  (iff_given (reacts.fits fits)).mpr (((iff_given fits).mp plain).reacts reacts)

end State.Plain

/-! ## Moves that write no SEND -/

theorem sendsOn_congr {transaction : String} {before after : List Event}
    (same : written transaction after = written transaction before) (connection : ConnectionId) :
    sendsOn connection transaction after = sendsOn connection transaction before := by
  rw [sendsOn, sendsOn, same]

theorem Point.Exact.of_same {before after : Shared} {transaction : String} {point : Point}
    (exact : point.Exact before transaction)
    (writes : written transaction after.trace = written transaction before.trace)
    (called : calls transaction after.trace = calls transaction before.trace)
    (active : after.active = before.active ∨ after.active = none)
    (registered : transaction ∈ before.transactions → transaction ∈ after.transactions) :
    point.Exact after transaction := by
  have home : before.Home transaction → after.Home transaction := by
    intro home pair member
    rw [writes] at member
    rcases active with same | lost
    · rw [same]
      exact home pair member
    · exact .inr lost
  cases point with
  | absent => simpa only [Point.Exact, writes, called] using exact
  | beginning => simpa only [Point.Exact, writes, called] using exact
  | inside failed =>
      obtain ⟨present, at_home, all⟩ := exact
      exact ⟨registered present, home at_home, by rwa [writes, called]⟩
  | transacting failed frame writing =>
      obtain ⟨present, at_home, on, all⟩ := exact
      refine ⟨registered present, home at_home, ?_, by rwa [writes, called]⟩
      intro connection standing
      rcases active with same | lost
      · rw [same]
        exact on connection standing
      · exact .inr lost
  | committing writing =>
      intro connection standing
      rw [sendsOn_congr writes, called]
      exact exact connection standing
  | _ => trivial

theorem Point.exact_of_settled {point : Point} (settled : point.settled = true) (shared : Shared)
    (transaction : String) : point.Exact shared transaction := by
  cases point <;> trivial

theorem Enter.Exact.of_same {before after : Shared} {connection : ConnectionId} {point : Enter}
    (exact : point.Exact before connection)
    (writes : ∀ transaction, sendsOn connection transaction after.trace =
      sendsOn connection transaction before.trace)
    (sent : ∀ walk own frame, point = .replaying walk own frame →
      after.sentFrames own = before.sentFrames own) : point.Exact after connection := by
  cases point with
  | replaying walk own frame =>
      obtain ⟨done, others⟩ := exact
      refine ⟨?_, ?_⟩
      · rw [writes, sent walk own frame rfl]
        exact done
      · intro transaction other unvisited
        rw [writes]
        exact others transaction other unvisited
  | _ =>
      intro transaction
      rw [writes]
      exact exact transaction

theorem Event.silent_handed (connection : ConnectionId) (frame : Frame) :
    (Event.handed connection frame).Silent := fun _ => ⟨rfl, rfl, rfl⟩

theorem Event.silent_wrote {frame : Frame} (commit : frame.type ≠ .commit)
    (send : ∀ transaction, frame.sendsIn transaction = false) (connection : ConnectionId) :
    (Event.wrote connection frame).Silent := by
  intro transaction
  simp [Event.writtenIn, Event.calledIn, Event.committed, send, Frame.commits_eq_false commit]

theorem Uninvolved.silent {state : State} {after : Shared} (uninvolved : Uninvolved state after)
    (plain : state.Plain) :
    ∃ events, after.trace = state.shared.trace ++ events ∧ ∀ event ∈ events, event.Silent := by
  obtain ⟨events, trace_eq, unrelated⟩ := uninvolved.trace
  refine ⟨events, trace_eq, ?_⟩
  intro event member
  have apart := unrelated event member
  cases event with
  | handed connection frame => exact Event.silent_handed connection frame
  | wrote connection frame =>
      refine Event.silent_wrote apart.1 ?_ connection
      intro transaction
      by_cases send : frame.type = .send
      · obtain ⟨task, writing, standing⟩ := apart.2 send
        exact plain task frame writing standing transaction
      · exact Frame.sendsIn_eq_false send transaction
  | called => exact absurd apart id
  | _ => exact fun _ => ⟨rfl, rfl, rfl⟩

theorem written_silent {trace events : List Event} (silent : ∀ event ∈ events, event.Silent)
    (transaction : String) : written transaction (trace ++ events) = written transaction trace := by
  rw [written_append, written_eq_nil silent, List.append_nil]

theorem calls_silent {trace events : List Event} (silent : ∀ event ∈ events, event.Silent)
    (transaction : String) : calls transaction (trace ++ events) = calls transaction trace := by
  rw [calls_append, calls_eq_nil silent, List.append_nil]

namespace Exact

variable {settings : Settings} {state : State}

/-- A block moves. -/
theorem store (exact : Exact state) {own : String} {resumed : Resumed}
    (single : Single (state.store (.transaction own) resumed))
    (placed : (state.store (.transaction own) resumed).Placed)
    (plain : (state.store (.transaction own) resumed).Plain)
    (timely : EveryAfter Event.Timely resumed.shared.trace)
    (writes : ∀ transaction, transaction ≠ own →
      written transaction resumed.shared.trace = written transaction state.shared.trace)
    (called : ∀ transaction, transaction ≠ own →
      calls transaction resumed.shared.trace = calls transaction state.shared.trace)
    (replayed : ∀ connection point, state.shared.handshake = some (connection, point) →
      ∀ transaction, sendsOn connection transaction resumed.shared.trace =
        sendsOn connection transaction state.shared.trace)
    (active : resumed.shared.active = state.shared.active)
    (reconnect : resumed.shared.reconnect = state.shared.reconnect)
    (registered : ∀ transaction, transaction ≠ own → transaction ∈ state.shared.transactions →
      transaction ∈ resumed.shared.transactions)
    (sent : ∀ transaction, (state.tasks (.transaction transaction)).settled = true →
      resumed.shared.sentFrames transaction = state.shared.sentFrames transaction)
    (moved : resumed.point.Exact resumed.shared own) (spawned : resumed.spawned = none) :
    Exact (state.store (.transaction own) resumed) where
  single := single
  placed := placed
  plain := plain
  timely := timely
  blocks := by
    refine State.forall_transactions_store
      (fun transaction point => point.Exact resumed.shared transaction) ?_ moved spawned
    intro transaction other
    exact (exact.blocks transaction).of_same (writes transaction other) (called transaction other)
      (.inl active) (registered transaction other)
  handshake := by
    intro connection point current
    have earlier : state.shared.handshake = some (connection, point) :=
      (Shared.handshake_congr reconnect).symm.trans current
    refine (exact.handshake connection point earlier).of_same
      (replayed connection point earlier) ?_
    rintro walk transaction frame rfl
    exact sent transaction (exact.single.current connection walk transaction frame earlier).2

/-- A block moves and writes nothing. -/
theorem shifts (exact : Exact state) {own : String} {resumed : Resumed} {events : List Event}
    (single : Single (state.store (.transaction own) resumed))
    (placed : (state.store (.transaction own) resumed).Placed)
    (plain : (state.store (.transaction own) resumed).Plain)
    (trace_eq : resumed.shared.trace = state.shared.trace ++ events)
    (silent : ∀ event ∈ events, event.Silent)
    (active : resumed.shared.active = state.shared.active)
    (reconnect : resumed.shared.reconnect = state.shared.reconnect)
    (registered : ∀ transaction, transaction ≠ own → transaction ∈ state.shared.transactions →
      transaction ∈ resumed.shared.transactions)
    (sent : resumed.shared.sentFrames = state.shared.sentFrames)
    (moved : written own resumed.shared.trace = written own state.shared.trace →
      calls own resumed.shared.trace = calls own state.shared.trace →
      resumed.point.Exact resumed.shared own)
    (spawned : resumed.spawned = none) : Exact (state.store (.transaction own) resumed) := by
  have writes : ∀ transaction,
      written transaction resumed.shared.trace = written transaction state.shared.trace := by
    intro transaction
    rw [trace_eq, written_silent silent]
  have called : ∀ transaction,
      calls transaction resumed.shared.trace = calls transaction state.shared.trace := by
    intro transaction
    rw [trace_eq, calls_silent silent]
  refine exact.store single placed plain ?_ (fun _ _ => writes _) (fun _ _ => called _)
    (fun _ _ _ _ => sendsOn_congr (writes _) _) active reconnect registered
    (fun _ _ => by rw [sent]) (moved (writes own) (called own)) spawned
  rw [trace_eq]
  exact EveryAfter.silent exact.timely silent

/-- Changes outside the blocks, which may lose the active connection. -/
theorem apart (exact : Exact state) {after : State} {events : List Event} (single : Single after)
    (placed : after.Placed) (plain : after.Plain)
    (trace_eq : after.shared.trace = state.shared.trace ++ events)
    (silent : ∀ event ∈ events, event.Silent)
    (active : after.shared.active = state.shared.active ∨ after.shared.active = none)
    (reconnect : after.shared.reconnect = state.shared.reconnect)
    (transactions : after.shared.transactions = state.shared.transactions)
    (sent : after.shared.sentFrames = state.shared.sentFrames)
    (blocks : ∀ transaction,
      after.tasks (.transaction transaction) = state.tasks (.transaction transaction)) :
    Exact after where
  single := single
  placed := placed
  plain := plain
  timely := by
    rw [trace_eq]
    exact EveryAfter.silent exact.timely silent
  blocks := by
    intro transaction
    rw [blocks]
    exact (exact.blocks transaction).of_same (by rw [trace_eq, written_silent silent])
      (by rw [trace_eq, calls_silent silent]) active (transactions ▸ id)
  handshake := by
    intro connection point current
    have earlier : state.shared.handshake = some (connection, point) :=
      (Shared.handshake_congr reconnect).symm.trans current
    refine (exact.handshake connection point earlier).of_same ?_ (fun _ _ _ _ => by rw [sent])
    intro transaction
    exact sendsOn_congr (by rw [trace_eq, written_silent silent]) connection

/-! ### Connecting -/

/-- Connecting writes no SEND. -/
theorem quiet (exact : Exact state) {after : Shared} {events : List Event}
    (single : Single { state with shared := after })
    (placed : ({ state with shared := after } : State).Placed)
    (trace_eq : after.trace = state.shared.trace ++ events)
    (silent : ∀ event ∈ events, event.Silent) (active : after.active = state.shared.active)
    (transactions : after.transactions = state.shared.transactions)
    (handshake : ∀ connection point, after.handshake = some (connection, point) →
      (∀ walk own frame, point ≠ .replaying walk own frame) ∧
        ∀ transaction, sendsOn connection transaction state.shared.trace = []) :
    Exact { state with shared := after } where
  single := single
  placed := placed
  plain := exact.plain
  timely := by
    rw [trace_eq]
    exact EveryAfter.silent exact.timely silent
  blocks := by
    intro transaction
    exact (exact.blocks transaction).of_same (by rw [trace_eq, written_silent silent])
      (by rw [trace_eq, calls_silent silent]) (.inl active) (transactions ▸ id)
  handshake := by
    intro connection point current
    obtain ⟨early, nothing⟩ := handshake connection point current
    have none_sent : ∀ transaction, sendsOn connection transaction after.trace = [] := by
      intro transaction
      exact (sendsOn_congr (by rw [trace_eq, written_silent silent]) connection).trans
        (nothing transaction)
    cases point with
    | replaying walk own frame => exact absurd rfl (early walk own frame)
    | _ => exact none_sent

/-- A new connection has seen no SEND. -/
theorem sendsOn_new (exact : Exact state) (transaction : String) :
    sendsOn state.shared.connections transaction state.shared.trace = [] := by
  rw [sendsOn, List.map_eq_nil_iff, List.filter_eq_nil_iff]
  rintro ⟨connection, frame⟩ member same
  obtain ⟨event, present, found⟩ := List.mem_filterMap.mp member
  cases event with
  | wrote other sent =>
      simp only [Event.writtenIn, Option.ite_none_right_eq_some, Option.some.injEq,
        Prod.mk.injEq] at found
      obtain ⟨-, rfl, -⟩ := found
      have below := exact.placed.shared.bound _ present other rfl
      have current : other = state.shared.connections := of_decide_eq_true same
      exact Nat.lt_irrefl _ (current ▸ below)
  | _ => simp [Event.writtenIn] at found

/-- Before the replay, nothing has been sent on the connection of a handshake. -/
theorem sendsOn_early (exact : Exact state) {connection : ConnectionId} {point : Enter}
    (current : state.shared.handshake = some (connection, point))
    (early : ∀ walk own frame, point ≠ .replaying walk own frame) (transaction : String) :
    sendsOn connection transaction state.shared.trace = [] := by
  have known := exact.handshake connection point current
  cases point with
  | replaying walk own frame => exact absurd rfl (early walk own frame)
  | _ => exact known transaction

theorem silent_writtenBy {connection : ConnectionId} {point : Enter}
    (early : ∀ walk own frame, point ≠ .replaying walk own frame) :
    ∀ event ∈ Shared.writtenBy connection point, event.Silent := by
  intro event member
  cases point with
  | resubscribing subscription remaining =>
      obtain rfl := List.mem_singleton.mp member
      refine Event.silent_wrote ?_ ?_ connection
      · simp [Subscription.frame, subscribeFrame, Frame.bodyless]
      · exact Frame.sendsIn_eq_false (by simp [Subscription.frame, subscribeFrame, Frame.bodyless])
  | replaying walk own frame => exact absurd rfl (early walk own frame)
  | _ => simp [Shared.writtenBy] at member

/-- What a handshake may add to the trace: no calls, SENDs of settled transactions, and COMMITs of
transactions whose SENDs are complete. -/
structure Adds (state : State) (trace : List Event) : Prop where
  timely : EveryAfter Event.Timely trace
  called : ∀ transaction, calls transaction trace = calls transaction state.shared.trace
  unsettled : ∀ transaction, (state.tasks (.transaction transaction)).settled = false →
    written transaction trace = written transaction state.shared.trace

theorem adds_silent (exact : Exact state) {events : List Event}
    (silent : ∀ event ∈ events, event.Silent) : Adds state (state.shared.trace ++ events) :=
  ⟨EveryAfter.silent exact.timely silent, calls_silent silent, fun _ _ => written_silent silent _⟩

theorem Adds.handed {trace : List Event} (adds : Adds state trace) (connection : ConnectionId)
    (frame : Frame) : Adds state (trace ++ [.handed connection frame]) := by
  have silent : ∀ event ∈ [Event.handed connection frame], event.Silent := by
    simpa using Event.silent_handed connection frame
  refine ⟨EveryAfter.silent adds.timely silent, ?_, ?_⟩
  · intro transaction
    rw [calls_silent silent, adds.called]
  · intro transaction unsettled
    rw [written_silent silent, adds.unsettled transaction unsettled]

theorem written_commitFrame (transaction own : String) (connection : ConnectionId) :
    written transaction [.wrote connection (commitFrame own)] = [] := by
  simp [written, Event.writtenIn, Frame.sendsIn, commitFrame, transactionFrame, Frame.bodyless]

theorem written_sendFrame (transaction own : String) (connection : ConnectionId)
    (arguments : SendArguments) :
    written transaction [.wrote connection (sendFrame arguments (some own))] =
      if own = transaction then [(connection, sendFrame arguments (some own))] else [] := by
  by_cases same : own = transaction
  · simp [written, Event.writtenIn, Frame.sendsIn_sendFrame, same]
  · simp [written, Event.writtenIn, Frame.sendsIn_sendFrame, same]

theorem timely_commitFrame {trace : List Event} {own : String} {connection : ConnectionId}
    (complete : sendsOn connection own trace = calls own trace) :
    (Event.wrote connection (commitFrame own)).Timely trace := by
  refine ⟨?_, ?_⟩
  · intro transaction other frame same commits
    obtain ⟨rfl, rfl⟩ := Event.wrote.inj same
    obtain rfl : own = transaction := by simpa [Frame.commits_commitFrame] using commits
    exact complete
  · intro transaction either
    simp [Event.writtenIn, Event.calledIn, Frame.sendsIn, commitFrame, transactionFrame,
      Frame.bodyless] at either

theorem timely_sendFrame {trace : List Event} {own : String} (zero : commitments own trace = 0)
    (connection : ConnectionId) (arguments : SendArguments) :
    (Event.wrote connection (sendFrame arguments (some own))).Timely trace := by
  refine ⟨?_, ?_⟩
  · intro transaction other frame same commits
    obtain ⟨rfl, rfl⟩ := Event.wrote.inj same
    simp [Frame.commits, sendFrame] at commits
  · intro transaction either
    obtain rfl : own = transaction := by
      simpa [Event.writtenIn, Event.calledIn, Frame.sendsIn_sendFrame] using either
    exact zero

/-- The handshake has reached the head of the loop: the transactions that are still to come have no
SENDs on its connection. -/
theorem arrives (exact : Exact state) {reply : Reply} {connection : ConnectionId} {point : Enter}
    (current : state.shared.handshake = some (connection, point)) {base : Shared} {walk : Walk}
    (ready : state.shared.Ready settings connection reply point base [] walk) :
    Adds state base.trace ∧
      ∀ transaction, transaction ∉ walk.visited →
        sendsOn connection transaction base.trace = [] := by
  have early : (∀ walk own frame, point ≠ .replaying walk own frame) →
      base.trace = state.shared.trace ++ Shared.writtenBy connection point →
      Adds state base.trace ∧ ∀ transaction, sendsOn connection transaction base.trace = [] := by
    intro other trace_eq
    have silent := @silent_writtenBy connection point other
    rw [trace_eq]
    refine ⟨exact.adds_silent silent, ?_⟩
    intro transaction
    exact (sendsOn_congr (written_silent silent transaction) connection).trans
      (exact.sendsOn_early current other transaction)
  generalize nothing : ([] : List Subscription) = rest at ready
  cases ready with
  | confirmed collected type established =>
      obtain ⟨adds, unsent⟩ := early (by simp) (by
        simp [Shared.restartBackgroundTasks, Shared.writtenBy])
      exact ⟨adds, fun transaction _ => unsent transaction⟩
  | resubscribed subscription remaining =>
      obtain ⟨adds, unsent⟩ := early (by simp) rfl
      exact ⟨adds, fun transaction _ => unsent transaction⟩
  | committed walk own =>
      obtain ⟨done, others⟩ := exact.handshake connection _ current
      have complete : sendsOn connection own state.shared.trace = calls own state.shared.trace :=
        done.trans (exact.single.recorded.shared.calls own)
      have same : ∀ transaction, written transaction
          (state.shared.trace ++ [.wrote connection (commitFrame own)]) =
          written transaction state.shared.trace := by
        intro transaction
        rw [written_append, written_commitFrame, List.append_nil]
      refine ⟨⟨exact.timely.concat (timely_commitFrame complete), ?_, fun _ _ => same _⟩, ?_⟩
      · intro transaction
        exact (calls_append _ _ _).trans (List.append_nil _)
      · intro transaction unvisited
        simp only [List.mem_append, List.mem_singleton, not_or] at unvisited
        exact (sendsOn_congr (same transaction) connection).trans
          (others transaction unvisited.2 unvisited.1)

/-- The replay hands over the next frame. -/
theorem replays (exact : Exact state) {base : Shared} {reconnect : Reconnect}
    {connection : ConnectionId} {walk : Walk} {own : String} {index : Nat}
    (single : Single { state with shared := base.replayFrame reconnect connection walk own index })
    (placed : ({ state with
      shared := base.replayFrame reconnect connection walk own index } : State).Placed)
    (adds : Adds state base.trace) (active : base.active = state.shared.active)
    (transactions : base.transactions = state.shared.transactions)
    (done : sendsOn connection own base.trace = (base.sentFrames own).take index)
    (others : ∀ transaction, transaction ≠ own → transaction ∉ walk.visited →
      sendsOn connection transaction base.trace = []) :
    Exact { state with shared := base.replayFrame reconnect connection walk own index } := by
  rw [Shared.replayFrame_eq] at single placed ⊢
  have all := adds.handed connection (Shared.replayedFrame own (base.replayed own index))
  have same : ∀ transaction frame,
      sendsOn connection transaction (base.trace ++ [.handed connection frame]) =
        sendsOn connection transaction base.trace := by
    intro transaction frame
    exact (sendsOn_append _ _ _ _).trans (List.append_nil _)
  refine ⟨single, placed, exact.plain, all.timely, ?_, ?_⟩
  · intro transaction
    cases settled : (state.tasks (.transaction transaction)).settled with
    | true => exact Point.exact_of_settled settled _ _
    | false =>
        exact (exact.blocks transaction).of_same (all.unsettled transaction settled)
          (all.called transaction) (.inl active) (transactions ▸ id)
  · intro other point current
    obtain ⟨rfl, rfl⟩ := Shared.eq_of_handshake_hold current
    refine ⟨?_, ?_⟩
    · refine (same own _).trans (done.trans ?_)
      cases found : base.replayed own index with
      | some pair =>
          obtain ⟨position, frame⟩ := pair
          obtain ⟨_, -, equal⟩ := Option.map_eq_some_iff.mp found
          obtain ⟨rfl, -⟩ := Prod.mk.inj equal
          rfl
      | none =>
          refine List.take_of_length_le (List.getElem?_eq_none_iff.mp ?_)
          simpa [Shared.replayed] using found
    · intro transaction different unvisited
      exact (same transaction _).trans (others transaction different unvisited)

/-- The new connection becomes active. -/
theorem activates (exact : Exact state) {base : Shared} {connection : ConnectionId}
    (single : Single { state with shared := base.clearTransactions.activate settings connection })
    (placed : ({ state with
      shared := base.clearTransactions.activate settings connection } : State).Placed)
    (adds : Adds state base.trace)
    (settled : ∀ transaction ∈ state.shared.transactions,
      (state.tasks (.transaction transaction)).settled = true) :
    Exact { state with shared := base.clearTransactions.activate settings connection } := by
  have silent : ∀ event ∈ [Event.activated connection], event.Silent :=
    List.forall_mem_singleton.mpr fun _ => ⟨rfl, rfl, rfl⟩
  refine ⟨single, placed, exact.plain, EveryAfter.silent adds.timely silent, ?_, ?_⟩
  · intro transaction
    cases ended : (state.tasks (.transaction transaction)).settled with
    | true => exact Point.exact_of_settled ended _ _
    | false =>
        have known := exact.blocks transaction
        have unregistered : transaction ∉ state.shared.transactions := by
          intro member
          rw [settled transaction member] at ended
          contradiction
        have writes := (written_silent silent transaction).trans (adds.unsettled transaction ended)
        have called := (calls_silent silent transaction).trans (adds.called transaction)
        generalize state.tasks (.transaction transaction) = point at known
        cases point with
        | absent => exact ⟨writes.trans known.1, called.trans known.2⟩
        | beginning => exact ⟨writes.trans known.1, called.trans known.2⟩
        | inside => exact absurd known.1 unregistered
        | transacting => exact absurd known.1 unregistered
        | committing writing =>
            intro other on
            exact (sendsOn_congr writes other).trans ((known other on).trans called.symm)
        | _ => trivial
  · intro other point current
    simp at current

/-- The replay has written a SEND. -/
theorem advances (exact : Exact state) {reconnect : Reconnect} {connection : ConnectionId}
    {walk : Walk} {own : String} {index : Nat} {frame : Frame}
    (known : state.shared.handshake = some (connection, .replaying walk own (some (index, frame))))
    {after : Shared}
    (after_eq : after = (state.shared.noteWritten connection frame).replayFrame reconnect connection
      walk own (index + 1))
    (single : Single { state with shared := after })
    (placed : ({ state with shared := after } : State).Placed) :
    Exact { state with shared := after } := by
  subst after_eq
  have listed := exact.single.recorded.shared.replayed connection walk own index frame known
  obtain ⟨zero, settled⟩ := exact.single.current connection walk own _ known
  obtain ⟨done, others⟩ := exact.handshake connection _ known
  obtain ⟨arguments, rfl⟩ :=
    exact.single.recorded.shared.sends own frame (List.mem_of_getElem? listed)
  have writes : ∀ transaction, written transaction (state.shared.trace ++
      [.wrote connection (sendFrame arguments (some own))]) =
      written transaction state.shared.trace ++ if own = transaction then
        [(connection, sendFrame arguments (some own))] else [] := by
    intro transaction
    rw [written_append, written_sendFrame]
  refine exact.replays single placed
    ⟨exact.timely.concat (timely_sendFrame zero connection arguments), ?_, ?_⟩ rfl rfl ?_ ?_
  · intro transaction
    exact (calls_append _ _ _).trans (List.append_nil _)
  · intro transaction unsettled
    have different : own ≠ transaction := by
      rintro rfl
      rw [settled] at unsettled
      contradiction
    exact (writes transaction).trans (by rw [if_neg different, List.append_nil])
  · have added : sendsOn connection own (state.shared.trace ++
        [.wrote connection (sendFrame arguments (some own))]) =
        sendsOn connection own state.shared.trace ++ [sendFrame arguments (some own)] := by
      rw [sendsOn, writes, if_pos rfl]
      simp [sendsOn]
    have next : (state.shared.sentFrames own).take (index + 1) =
        (state.shared.sentFrames own).take index ++ [sendFrame arguments (some own)] := by
      rw [List.take_add_one, listed]
      rfl
    exact added.trans ((congrArg (· ++ [_]) done).trans next.symm)
  · intro transaction different unvisited
    refine (sendsOn_congr ((writes transaction).trans ?_) connection).trans
      (others transaction different unvisited)
    rw [if_neg (Ne.symm different), List.append_nil]

theorem reconnects (exact : Exact state) {task : TaskId} {reply : Reply} {choice : Choice}
    (met : replaysSettled settings state (.resume task reply choice) = true) {after : Shared}
    {progress : Progress Unit ConnectionId}
    (effects : state.shared.Reconnects settings task reply after progress)
    (single : Single { state with shared := after })
    (placed : ({ state with shared := after } : State).Placed) :
    Exact { state with shared := after } := by
  cases effects with
  | interrupted => exact exact
  | found => exact exact
  | races =>
      exact exact.quiet single placed (List.append_nil _).symm (by simp) rfl rfl (by simp)
  | sleeps =>
      exact exact.quiet single placed (List.append_nil _).symm (by simp) rfl rfl (by simp)
  | leaves =>
      exact exact.quiet single placed (List.append_nil _).symm (by simp) rfl rfl (by simp)
  | opens reconnect locked owned calm pending server =>
      refine exact.quiet single placed (List.append_assoc _ _ _) ?_ rfl rfl ?_
      · intro event member
        rcases List.mem_pair.mp member with rfl | rfl <;> exact fun _ => ⟨rfl, rfl, rfl⟩
      · intro connection point current
        obtain ⟨rfl, rfl⟩ := Shared.eq_of_handshake_hold current
        exact ⟨by simp, exact.sendsOn_new⟩
  | fails reconnect locked owned connection point phase reason outcome =>
      exact @quiet state exact _ [.closed connection] single placed rfl
        (List.forall_mem_singleton.mpr fun _ => ⟨rfl, rfl, rfl⟩) rfl rfl (by simp)
  | asks reconnect locked owned connection server phase =>
      have known := Shared.handshake_of_phase locked phase
      refine exact.quiet single placed rfl ?_ rfl rfl ?_
      · intro event member
        obtain rfl := List.mem_singleton.mp member
        exact Event.silent_wrote (by simp [connectFrame, Frame.bodyless])
          (Frame.sendsIn_eq_false (by simp [connectFrame, Frame.bodyless])) connection
      · intro other point current
        obtain ⟨rfl, rfl⟩ := Shared.eq_of_handshake_hold current
        exact ⟨by simp, exact.sendsOn_early known (by simp)⟩
  | collects reconnect locked owned connection collected phase =>
      have known := Shared.handshake_of_phase locked phase
      refine exact.quiet single placed (List.append_nil _).symm (by simp) rfl rfl ?_
      intro other point current
      obtain ⟨rfl, rfl⟩ := Shared.eq_of_handshake_hold current
      exact ⟨by simp, exact.sendsOn_early known (by simp)⟩
  | subscribes reconnect locked owned connection point phase subscription remaining ready =>
      have known := Shared.handshake_of_phase locked phase
      have early := ready.early
      refine @quiet state exact _ (Shared.writtenBy connection point ++
        [.handed connection subscription.frame]) single placed ?_ ?_ ready.base.active
        ready.base.transactions ?_
      · exact ready.base.trace_append _
      · intro event member
        rcases List.mem_append.mp member with written | handed
        · exact silent_writtenBy early event written
        · obtain rfl := List.mem_singleton.mp handed
          exact Event.silent_handed _ _
      · intro other entered current
        obtain ⟨rfl, rfl⟩ := Shared.eq_of_handshake_hold current
        exact ⟨by simp, exact.sendsOn_early known early⟩
  | replays reconnect locked owned connection walk own index frame phase =>
      exact exact.advances (Shared.handshake_of_phase locked phase) rfl single placed
  | picks reconnect locked owned connection point phase ready transaction sized present unvisited =>
      have known := Shared.handshake_of_phase locked phase
      obtain ⟨adds, unsent⟩ := exact.arrives known ready
      obtain ⟨-, unchanged, -⟩ := exact.single.arrives met locked owned phase ready
      have fresh := unvisited (unchanged.trans ready.base.revision.symm)
      exact exact.replays single placed adds ready.base.active ready.base.transactions
        (unsent transaction fresh) (fun other _ => unsent other)
  | changed reconnect locked owned connection point phase ready resized =>
      obtain ⟨underway, unchanged, -⟩ := exact.single.arrives met locked owned phase ready
      exact absurd (ready.base.transactions ▸ underway.sized.2 unchanged) resized
  | finishes reconnect locked owned connection point phase ready =>
      have known := Shared.handshake_of_phase locked phase
      obtain ⟨adds, -⟩ := exact.arrives known ready
      obtain ⟨-, -, settled⟩ := exact.single.arrives met locked owned phase ready
      exact exact.activates single placed adds settled

/-! ### Blocks -/

theorem mem_removeTransaction {shared : Shared} {own transaction : String}
    (other : transaction ≠ own)
    (member : transaction ∈ shared.transactions) :
    transaction ∈ (removeTransaction own shared).shared.transactions := by
  unfold removeTransaction
  split
  · exact (List.mem_erase_of_ne other).mpr member
  · exact member

/-- A block has ended. -/
theorem removes (exact : Exact state) {own : String} {shared : Shared}
    (single : Single (state.store (.transaction own) (removeTransaction own shared)))
    (placed : (state.store (.transaction own) (removeTransaction own shared)).Placed)
    (plain : (state.store (.transaction own) (removeTransaction own shared)).Plain)
    (timely : EveryAfter Event.Timely shared.trace)
    (writes : ∀ transaction, written transaction shared.trace =
      written transaction state.shared.trace)
    (called : ∀ transaction, calls transaction shared.trace =
      calls transaction state.shared.trace)
    (active : shared.active = state.shared.active)
    (reconnect : shared.reconnect = state.shared.reconnect)
    (transactions : shared.transactions = state.shared.transactions)
    (sent : shared.sentFrames = state.shared.sentFrames) :
    Exact (state.store (.transaction own) (removeTransaction own shared)) := by
  have ended := (Duty.abort own).ends_removeTransaction own shared
  have trace_eq := trace_removeTransaction own shared
  refine exact.store single placed plain ?_ ?_ ?_ ?_ (ended.active.trans active)
    (ended.reconnect.trans reconnect) ?_ ?_ ?_ ended.spawned
  · rw [trace_eq]
    exact timely
  · intro transaction _
    rw [trace_eq, writes]
  · intro transaction _
    rw [trace_eq, called]
  · intro connection _ _ transaction
    rw [trace_eq]
    exact sendsOn_congr (writes transaction) connection
  · intro transaction other member
    exact mem_removeTransaction other (transactions ▸ member)
  · intro transaction _
    rw [ended.sentFrames, sent]
  · unfold removeTransaction
    split <;> trivial

theorem removes_silent (exact : Exact state) {own : String} {shared : Shared} {events : List Event}
    (single : Single (state.store (.transaction own) (removeTransaction own shared)))
    (placed : (state.store (.transaction own) (removeTransaction own shared)).Placed)
    (plain : (state.store (.transaction own) (removeTransaction own shared)).Plain)
    (trace_eq : shared.trace = state.shared.trace ++ events)
    (silent : ∀ event ∈ events, event.Silent) (active : shared.active = state.shared.active)
    (reconnect : shared.reconnect = state.shared.reconnect)
    (transactions : shared.transactions = state.shared.transactions)
    (sent : shared.sentFrames = state.shared.sentFrames) :
    Exact (state.store (.transaction own) (removeTransaction own shared)) := by
  refine exact.removes single placed plain ?_ ?_ ?_ active reconnect transactions sent
  · rw [trace_eq]
    exact EveryAfter.silent exact.timely silent
  · intro transaction
    rw [trace_eq, written_silent silent]
  · intro transaction
    rw [trace_eq, calls_silent silent]

/-- What is known of a block stays known while it moves on. -/
theorem shifted {before point : Point} (shift : before.Shifts point) {shared : Shared}
    {transaction : String} (known : before.Exact shared transaction) :
    point.Exact shared transaction := by
  cases shift with
  | enters => exact known
  | begins => exact known
  | waits failed frame writing next idle =>
      obtain ⟨present, home, -, all⟩ := known
      refine ⟨present, home, ?_, all⟩
      intro connection on
      cases next with
      | writing left other => exact absurd rfl (idle left other)
      | _ => simp [WriteFrame.on] at on
  | fails =>
      obtain ⟨present, home, -, -⟩ := known
      exact ⟨present, home, by simp⟩
  | loses => simp [Point.Exact, MaybeWrite.on]
  | _ => trivial

/-- A block calls `Transaction.send`. -/
theorem appends (exact : Exact state) {own : String} {failed : Bool}
    (inside : state.tasks (.transaction own) = .inside failed) (frame : Frame) (left : Nat)
    (single : Single (state.store (.transaction own)
      ⟨state.shared.appendSent own frame, .transacting failed frame (.connecting left), none⟩))
    (placed : (state.store (.transaction own)
      ⟨state.shared.appendSent own frame, .transacting failed frame (.connecting left),
        none⟩).Placed)
    (plain : (state.store (.transaction own)
      ⟨state.shared.appendSent own frame, .transacting failed frame (.connecting left),
        none⟩).Plain) :
    Exact (state.store (.transaction own)
      ⟨state.shared.appendSent own frame, .transacting failed frame (.connecting left), none⟩) := by
  have zero := exact.single.unsettled own (by rw [inside]; rfl)
  have known := exact.blocks own
  rw [inside] at known
  obtain ⟨present, home, all⟩ := known
  have writes : ∀ transaction, written transaction (state.shared.trace ++ [.called own frame]) =
      written transaction state.shared.trace := by
    intro transaction
    exact (written_append _ _ _).trans (List.append_nil _)
  have called : ∀ transaction, calls transaction (state.shared.trace ++ [.called own frame]) =
      calls transaction state.shared.trace ++ if own = transaction then [frame] else [] := by
    intro transaction
    rw [calls_append]
    by_cases same : own = transaction
    · simp [calls, Event.calledIn, same]
    · simp [calls, Event.calledIn, same]
  refine exact.store single placed plain (exact.timely.concat ⟨by simp, ?_⟩)
    (fun transaction _ => writes transaction) ?_
    (fun connection _ _ transaction => sendsOn_congr (writes transaction) connection) rfl rfl
    (fun _ _ => id) ?_ ⟨present, ?_, by simp [WriteFrame.on], ?_⟩ rfl
  · intro transaction either
    obtain rfl : own = transaction := by
      simpa [Event.writtenIn, Event.calledIn] using either
    exact zero
  · intro transaction other
    exact (called transaction).trans (by rw [if_neg (Ne.symm other), List.append_nil])
  · intro transaction settled
    have different : transaction ≠ own := by
      rintro rfl
      rw [inside] at settled
      contradiction
    exact Function.update_of_ne different _ _
  · intro pair member
    exact home pair ((writes own) ▸ member)
  · intro sound
    refine (congrArg (fun pairs => pairs.map Prod.snd ++ [frame]) (writes own)).trans ?_
    refine Eq.trans ?_ (called own).symm
    rw [if_pos rfl]
    exact congrArg (· ++ [frame]) (all sound)

/-- A block has written a SEND. -/
theorem writes (exact : Exact state) {own : String} {failed : Bool} {arguments : SendArguments}
    {left : Nat} {connection : ConnectionId}
    (standing : state.tasks (.transaction own) =
      .transacting failed (sendFrame arguments (some own)) (.writing left connection))
    (single : Single (state.store (.transaction own)
      ⟨state.shared.noteWritten connection (sendFrame arguments (some own)), .inside failed, none⟩))
    (placed : (state.store (.transaction own) ⟨state.shared.noteWritten connection
      (sendFrame arguments (some own)), .inside failed, none⟩).Placed)
    (plain : (state.store (.transaction own) ⟨state.shared.noteWritten connection
      (sendFrame arguments (some own)), .inside failed, none⟩).Plain) :
    Exact (state.store (.transaction own)
      ⟨state.shared.noteWritten connection (sendFrame arguments (some own)), .inside failed,
        none⟩) := by
  have zero := exact.single.unsettled own (by rw [standing]; rfl)
  have used := exact.placed.tasks (.transaction own) connection (by rw [standing]; rfl)
  have known := exact.blocks own
  rw [standing] at known
  obtain ⟨present, home, on, all⟩ := known
  have called : ∀ transaction, calls transaction
      (state.shared.trace ++ [.wrote connection (sendFrame arguments (some own))]) =
      calls transaction state.shared.trace :=
    fun transaction => (calls_append _ _ _).trans (List.append_nil _)
  have added : ∀ transaction, written transaction
      (state.shared.trace ++ [.wrote connection (sendFrame arguments (some own))]) =
      written transaction state.shared.trace ++
        if own = transaction then [(connection, sendFrame arguments (some own))] else [] := by
    intro transaction
    rw [written_append, written_sendFrame]
  refine exact.store single placed plain
    (exact.timely.concat (timely_sendFrame zero connection arguments)) ?_
    (fun transaction _ => called transaction) ?_ rfl rfl (fun _ _ => id) (fun _ _ => rfl)
    ⟨present, ?_, ?_⟩ rfl
  · intro transaction other
    exact (added transaction).trans (by rw [if_neg (Ne.symm other), List.append_nil])
  · -- The handshake writes on a connection of its own.
    intro other point current transaction
    have apart : connection ≠ other := by
      rintro rfl
      exact (exact.placed.shared.handshake connection point current).2 used
    refine (congrArg (fun pairs => (List.filter (fun pair => pair.1 = other) pairs).map Prod.snd)
      (added transaction)).trans ?_
    split
    · simp [sendsOn, apart]
    · simp [sendsOn]
  · intro pair member
    have either := (added own) ▸ member
    rw [if_pos rfl, List.mem_append, List.mem_singleton] at either
    rcases either with old | rfl
    · exact home pair old
    · exact on connection rfl
  · intro sound
    refine (congrArg (List.map Prod.snd) (added own)).trans ?_
    rw [if_pos rfl, List.map_append]
    exact (all sound).trans (called own).symm

/-- The SENDs of a block that has not lost its connection are all on the active one. -/
theorem sendsOn_active (exact : Exact state) {own : String}
    (inside : state.tasks (.transaction own) = .inside false) {connection : ConnectionId}
    (active : state.shared.active = some connection) :
    sendsOn connection own state.shared.trace = calls own state.shared.trace := by
  have known := exact.blocks own
  rw [inside] at known
  obtain ⟨-, home, all⟩ := known
  have kept : (written own state.shared.trace).filter (fun pair => pair.1 = connection) =
      written own state.shared.trace := by
    refine List.filter_eq_self.mpr fun pair member => ?_
    have here := home pair member
    rw [active] at here
    simpa [eq_comm] using here
  rw [sendsOn, kept]
  exact all rfl

theorem replaysSettled_of_sendsExactly {action : Action}
    (met : sendsExactly settings state action = true) :
    replaysSettled settings state action = true := by
  cases action with
  | exit => rfl
  | send => rfl
  | _ => exact met

/-- BEGIN is written. -/
theorem begins (exact : Exact state) {own : String} {left : Nat} {connection : ConnectionId}
    (standing : state.tasks (.transaction own) = .beginning (.writing left connection))
    {resumed : Resumed} (resumed_eq : resumed =
      { shared := (state.shared.noteWritten connection (beginFrame own)).addTransaction own
        point := .inside false })
    (single : Single (state.store (.transaction own) resumed))
    (placed : (state.store (.transaction own) resumed).Placed)
    (plain : (state.store (.transaction own) resumed).Plain) :
    Exact (state.store (.transaction own) resumed) := by
  subst resumed_eq
  have known := exact.blocks own
  rw [standing] at known
  refine exact.shifts single placed plain (Shared.trace_addTransaction _ _)
    (List.forall_mem_singleton.mpr (Event.silent_wrote ?_ ?_ connection))
    (Shared.active_addTransaction _ _) (Shared.reconnect_addTransaction _ _)
    (fun _ _ member => (Shared.mem_addTransaction _ _ _).mpr (.inl member))
    (Shared.sentFrames_addTransaction _ _) ?_ rfl
  · simp [beginFrame, transactionFrame, Frame.bodyless]
  · exact Frame.sendsIn_eq_false (by simp [beginFrame, transactionFrame, Frame.bodyless])
  · intro writes called
    have unwritten := writes.trans known.1
    refine ⟨(Shared.mem_addTransaction _ _ _).mpr (.inr rfl), ?_, ?_⟩
    · intro pair member
      rw [unwritten] at member
      exact absurd member List.not_mem_nil
    · intro _
      rw [unwritten, called, known.2]
      rfl

/-- A SEND of the block is handed over. -/
theorem hands (exact : Exact state) {own : String} {failed : Bool} {frame : Frame}
    {writing : WriteFrame} (standing : state.tasks (.transaction own) =
      .transacting failed frame writing) {left : Nat} {connection : ConnectionId}
    (active : state.shared.active = some connection) {resumed : Resumed} (resumed_eq : resumed =
      { shared := state.shared.hand connection frame
        point := .transacting failed frame (.writing left connection) })
    (single : Single (state.store (.transaction own) resumed))
    (placed : (state.store (.transaction own) resumed).Placed)
    (plain : (state.store (.transaction own) resumed).Plain) :
    Exact (state.store (.transaction own) resumed) := by
  subst resumed_eq
  have known := exact.blocks own
  rw [standing] at known
  obtain ⟨present, home, -, all⟩ := known
  refine exact.shifts single placed plain rfl
    (List.forall_mem_singleton.mpr (Event.silent_handed connection frame)) rfl rfl
    (fun _ _ => id) rfl ?_ rfl
  intro writes called
  refine ⟨present, ?_, ?_, ?_⟩
  · intro pair member
    exact home pair (writes ▸ member)
  · intro other on
    obtain rfl := Option.some.inj on
    exact .inl active
  · rw [writes, called]
    exact all

theorem transactionMove (exact : Exact state) (fits : state.Fits) {after : State}
    (placed : after.Placed) (plain : after.Plain)
    (move : TransactionMove settings (fun action => sendsExactly settings state action = true) state
      after) : Exact after := by
  have single := exact.single.transactionMove fits
    (move.mono fun _ => replaysSettled_of_sendsExactly)
  cases move with
  | apart uninvolved blocks =>
      obtain ⟨events, trace_eq, silent⟩ := uninvolved.silent exact.plain
      exact exact.apart single placed plain trace_eq silent (.inl uninvolved.active)
        uninvolved.reconnect uninvolved.transactions uninvolved.sentFrames blocks
  | discards connection active =>
      refine exact.apart single placed plain (List.append_assoc _ _ _) ?_ (.inr rfl) rfl rfl rfl
        (fun _ => rfl)
      intro event member
      rcases List.mem_pair.mp member with rfl | rfl <;> exact fun _ => ⟨rfl, rfl, rfl⟩
  | reconnects task reply choice met effects =>
      exact exact.reconnects (replaysSettled_of_sendsExactly met) effects single placed
  | shifts transaction uninvolved shift =>
      obtain ⟨events, trace_eq, silent⟩ := uninvolved.silent exact.plain
      refine exact.shifts single placed plain trace_eq silent uninvolved.active
        uninvolved.reconnect (fun _ _ => uninvolved.transactions ▸ id) uninvolved.sentFrames ?_ rfl
      intro writes called
      exact shifted shift ((exact.blocks transaction).of_same writes called
        (.inl uninvolved.active) (uninvolved.transactions ▸ id))
  | begun transaction left connection standing =>
      exact exact.begins standing rfl single placed plain
  | calls transaction arguments failed inside left =>
      exact exact.appends inside _ left single placed plain
  | hands transaction failed frame writing standing left connection active =>
      exact exact.hands standing active rfl single placed plain
  | writes transaction failed frame left connection standing =>
      obtain ⟨arguments, rfl⟩ := fits.transacting standing
      exact exact.writes standing single placed plain
  | commits transaction failed met inside connection active =>
      have sound : failed = false := by
        cases failed with
        | false => rfl
        | true => simp [sendsExactly, inside, active] at met
      subst sound
      refine exact.shifts single placed plain (List.append_assoc _ _ _) ?_ rfl rfl (fun _ _ => id)
        rfl ?_ rfl
      · intro event member
        rcases List.mem_pair.mp member with rfl | rfl <;> exact fun _ => ⟨rfl, rfl, rfl⟩
      · intro writes called other on
        obtain rfl := Option.some.inj on
        rw [sendsOn_congr writes, called]
        exact exact.sendsOn_active inside active
  | postpones transaction failed met inside inactive =>
      exact exact.shifts single placed plain rfl
        (List.forall_mem_singleton.mpr fun _ => ⟨rfl, rfl, rfl⟩) rfl rfl (fun _ _ => id) rfl
        (fun _ _ => trivial) rfl
  | aborts transaction failed inside connection active =>
      refine exact.shifts single placed plain (List.append_assoc _ _ _) ?_ rfl rfl (fun _ _ => id)
        rfl (fun _ _ => trivial) rfl
      intro event member
      rcases List.mem_pair.mp member with rfl | rfl <;> exact fun _ => ⟨rfl, rfl, rfl⟩
  | forgets transaction failed inside inactive =>
      exact exact.removes_silent single placed plain rfl
        (List.forall_mem_singleton.mpr fun _ => ⟨rfl, rfl, rfl⟩) rfl rfl rfl rfl
  | committed transaction connection standing =>
      have known := exact.blocks transaction
      rw [standing] at known
      refine exact.removes single placed plain
        (exact.timely.concat (timely_commitFrame (known connection rfl))) ?_ ?_ rfl rfl rfl rfl
      · intro other
        exact (written_append _ _ _).trans (by rw [written_commitFrame, List.append_nil])
      · intro other
        exact (calls_append _ _ _).trans (List.append_nil _)
  | aborted transaction writing standing uninvolved =>
      obtain ⟨events, trace_eq, silent⟩ := uninvolved.silent exact.plain
      exact exact.removes_silent single placed plain trace_eq silent uninvolved.active
        uninvolved.reconnect uninvolved.transactions uninvolved.sentFrames

end Exact

theorem exactContent_of_reaches {settings : Settings} {state : State}
    (reach : (client settings).Reaches
      (fun state action => sendsExactly settings state action = true) state) :
    ExactContent state.shared.trace := by
  have initially : Exact (client settings).initial := by
    refine ⟨single_initial settings, placed_initial settings, ?_, EveryAfter.nil, ?_,
      by simp [client, Shared.handshake]⟩
    · intro task frame writing standing
      cases task <;> simp [client, initialTasks] at standing
    · exact fun _ => ⟨rfl, rfl⟩
  have exact := invariant_of_moves initially
    (fun fits exact met begins => exact.transactionMove fits (exact.placed.begins begins)
      (exact.plain.begins fits met begins) (begins.transactionMove met))
    (fun fits exact reacts => @Exact.transactionMove settings _ exact fits _
      (exact.placed.reacts reacts) (exact.plain.reacts fits reacts) reacts.transactionMove) reach
  exact exactContent_of_timely exact.timely

/-- In a run whose handshakes replay only settled transactions, undisturbed, whose blocks do not
commit on a connection after a send that raised, whose plain sends carry no header of a transaction
and in which no header map is written to while a frame refers to it, every frame is dumped as it was
built and every COMMIT follows exactly the SENDs of its block. -/
theorem exact_content {settings : Settings} {lending : Lending}
    (reach : (lends settings).Reaches
      (Lending.Meets fun state action => sendsExactly settings state action = true) lending) :
    lending.Faithful ∧ ExactContent lending.state.shared.trace :=
  ⟨Lending.faithful_of_reaches (reach.mono fun _ _ => And.left),
    exactContent_of_reaches (Lending.client_of_reaches reach)⟩

/-- A block whose SEND and COMMIT are replayed after its end, and whose send was given a map. -/
theorem exact_content_replaysAfterExit :
    ∃ lending, (lends plainSettings).Reaches
        (Lending.Meets fun state action => sendsExactly plainSettings state action = true)
        lending ∧
      (.wrote 1 (commitFrame "t") ∈ lending.state.shared.trace ∧
        calls "t" lending.state.shared.trace =
          [sendFrame { plainArguments with headers := some Lending.plainHeaders } (some "t")] ∧
        lending.held.length = 1) ∧
      lending.Faithful ∧ ExactContent lending.state.shared.trace := by
  have replayed : ((lends plainSettings).replay (Lending.test (sendsExactly plainSettings))
      (lends plainSettings).initial
      (.create Lending.plainHeaders :: replaysAfterExit.map (Lending.giving 0))).map
        (fun lending => decide (.wrote 1 (commitFrame "t") ∈ lending.state.shared.trace ∧
          calls "t" lending.state.shared.trace =
            [sendFrame { plainArguments with headers := some Lending.plainHeaders } (some "t")] ∧
          lending.held.length = 1)) = some true := by
    decide +kernel
  obtain ⟨lending, reach, happened⟩ :=
    System.exists_of_replay (Lending.meets_of_test fun _ _ passes => passes) replayed
  exact ⟨lending, reach, of_decide_eq_true happened, exact_content reach⟩

/-- The write of a SEND fails.  The handshake of the block itself replays the SEND and commits, and
then `write_frame_reconnecting` writes the SEND once more. -/
def retriesAfterCommit : List Action :=
  enters ++ [.begin "t", returns (.transaction "t"), .transactionSend "t" plainArguments,
    raises (.transaction "t") .connectionLost, returns (.transaction "t")] ++
    connects (.transaction "t") (some "t") ++
    [returns (.transaction "t"), returns (.transaction "t"), returns (.transaction "t")]

/-- A SEND of a transaction may be written after its COMMIT. -/
theorem not_forall_exactContent :
    ¬ ∀ state, (client plainSettings).Reachable state → ExactContent state.shared.trace := by
  intro always
  have replayed : ((client plainSettings).replay (fun _ _ => true) (client plainSettings).initial
      retriesAfterCommit).map (fun state =>
        decide (state.shared.trace[16]? = some (.wrote 1 (commitFrame "t")) ∧
          written "t" (state.shared.trace.drop 17) ≠ [])) = some true := by
    decide +kernel
  obtain ⟨state, reach, happened⟩ := System.exists_of_replay (fun _ _ _ => trivial) replayed
  obtain ⟨committed, late⟩ := of_decide_eq_true happened
  obtain ⟨inside, found⟩ := List.getElem?_eq_some_iff.mp committed
  have split : state.shared.trace =
      state.shared.trace.take 16 ++ .wrote 1 (commitFrame "t") :: state.shared.trace.drop 17 := by
    rw [← found, List.getElem_cons_drop, List.take_append_drop]
  exact late (always state reach "t" 1 _ _ _ (by simp [Frame.commits_commitFrame]) split).2

end Stompman
