import Stompman.Connections
import Stompman.Foundation.Trace

/-!
# The book-keeping of transactions

What a transaction block, `sent_frames` and the replay of `commit_pending_transactions` have to do
with each other in every run: `sent_frames` lists the calls of `Transaction.send`, the replay writes
only what is listed there, and a block exits once.
-/

namespace Stompman

open Foundation

/-! ## Frames and events of a transaction -/

namespace Frame

/-- COMMIT of a transaction. -/
def commits (frame : Frame) (transaction : String) : Bool :=
  frame.type = .commit && frame.headers.get? "transaction" = some transaction

/-- SEND with the header of a transaction. -/
def sendsIn (frame : Frame) (transaction : String) : Bool :=
  frame.type = .send && frame.headers.get? "transaction" = some transaction

theorem commits_eq_false {frame : Frame} (other : frame.type ≠ .commit) (transaction : String) :
    frame.commits transaction = false := by
  simp [commits, other]

theorem sendsIn_eq_false {frame : Frame} (other : frame.type ≠ .send) (transaction : String) :
    frame.sendsIn transaction = false := by
  simp [sendsIn, other]

theorem commits_commitFrame (own transaction : String) :
    (commitFrame own).commits transaction = decide (own = transaction) := by
  simp [commits, commitFrame, transactionFrame, bodyless, Dict.get?_set]

theorem sendsIn_sendFrame (arguments : SendArguments) (own transaction : String) :
    (sendFrame arguments (some own)).sendsIn transaction = decide (own = transaction) := by
  simp [sendsIn, sendFrame, Dict.get?_set]

end Frame

namespace Event

/-- A COMMIT of a transaction is passed to `write_frame`, or has been written. -/
def commits (transaction : String) : Event → Bool
  | .handed _ frame => frame.commits transaction
  | .wrote _ frame => frame.commits transaction
  | _ => false

/-- The frame of a `Transaction.send` call. -/
def calledIn (transaction : String) : Event → Option Frame
  | .called other frame => if other = transaction then some frame else none
  | _ => none

end Event

/-! ## Moves of transactions -/

/-- Events that belong to no transaction: a SEND among them comes from `Client.send`. -/
def Event.Unrelated (state : State) : Event → Prop
  | .handed _ frame | .wrote _ frame =>
      frame.type ≠ .commit ∧
        (frame.type = .send → ∃ task writing, state.tasks task = .sending frame writing)
  | .called .. | .exited .. => False
  | _ => True

/-- Changes of the shared state that concern no transaction. -/
structure Uninvolved (state : State) (after : Shared) : Prop where
  active : after.active = state.shared.active
  reconnect : after.reconnect = state.shared.reconnect
  transactions : after.transactions = state.shared.transactions
  revision : after.revision = state.shared.revision
  sentFrames : after.sentFrames = state.shared.sentFrames
  trace : ∃ events, after.trace = state.shared.trace ++ events ∧
    ∀ event ∈ events, event.Unrelated state

/-- Moves of a transaction block that concern neither its frames nor its record. -/
inductive Point.Shifts : Point → Point → Prop
  | enters (writing : WriteFrame) : Shifts .absent (.beginning writing)
  | begins (writing next : WriteFrame) : Shifts (.beginning writing) (.beginning next)
  | refused (writing : WriteFrame) (failure : Failure) :
      Shifts (.beginning writing) (.raised failure)
  | waits (failed : Bool) (frame : Frame) (writing next : WriteFrame)
      (idle : ∀ left connection, next ≠ .writing left connection) :
      Shifts (.transacting failed frame writing) (.transacting failed frame next)
  | fails (failed : Bool) (frame : Frame) (writing : WriteFrame) :
      Shifts (.transacting failed frame writing) (.inside true)
  | loses (connection : ConnectionId) :
      Shifts (.committing (.writing connection)) (.committing (.discarding connection))
  | uncommitted (writing : MaybeWrite) : Shifts (.committing writing) .finished
  | breaks (writing : MaybeWrite) (failure : Failure) :
      Shifts (.committing writing) (.raised failure)
  | aborts (writing next : MaybeWrite) : Shifts (.aborting writing) (.aborting next)
  | interrupted (writing : MaybeWrite) (failure : Failure) :
      Shifts (.aborting writing) (.raised failure)

/-- What a move can do to transactions.  `meets` holds of the action of the step. -/
inductive TransactionMove (settings : Settings) (meets : Action → Prop) (state : State) :
    State → Prop
  | apart {after : State} (uninvolved : Uninvolved state after.shared)
      (blocks : ∀ transaction,
        after.tasks (.transaction transaction) = state.tasks (.transaction transaction)) :
      TransactionMove settings meets state after
  | discards (connection : ConnectionId) (active : state.shared.active = some connection) :
      TransactionMove settings meets state { state with shared := state.shared.discard connection }
  | reconnects {after : Shared} {progress : Progress Unit ConnectionId} (task : TaskId)
      (reply : Reply) (choice : Choice) (met : meets (.resume task reply choice))
      (effects : state.shared.Reconnects settings task reply after progress) :
      TransactionMove settings meets state { state with shared := after }
  | shifts (transaction : String) {shared : Shared} {point : Point}
      (uninvolved : Uninvolved state shared)
      (shift : (state.tasks (.transaction transaction)).Shifts point) :
      TransactionMove settings meets state
        (state.store (.transaction transaction) { shared, point })
  | begun (transaction : String) (left : Nat) (connection : ConnectionId)
      (standing : state.tasks (.transaction transaction) = .beginning (.writing left connection))
      (choice : Choice) (met : meets (.resume (.transaction transaction) .returned choice)) :
      TransactionMove settings meets state (state.store (.transaction transaction)
        { shared :=
            (state.shared.noteWritten connection
              (beginFrame transaction)).addTransaction transaction
          point := .inside false })
  | calls (transaction : String) (arguments : SendArguments) (failed : Bool)
      (inside : state.tasks (.transaction transaction) = .inside failed) (left : Nat) :
      TransactionMove settings meets state (state.store (.transaction transaction)
        { shared := state.shared.appendSent transaction (sendFrame arguments (some transaction))
          point := .transacting failed (sendFrame arguments (some transaction))
            (.connecting left) })
  | hands (transaction : String) (failed : Bool) (frame : Frame) (writing : WriteFrame)
      (standing : state.tasks (.transaction transaction) = .transacting failed frame writing)
      (left : Nat) (connection : ConnectionId) (active : state.shared.active = some connection) :
      TransactionMove settings meets state (state.store (.transaction transaction)
        { shared := state.shared.hand connection frame
          point := .transacting failed frame (.writing left connection) })
  | writes (transaction : String) (failed : Bool) (frame : Frame) (left : Nat)
      (connection : ConnectionId)
      (standing : state.tasks (.transaction transaction) =
        .transacting failed frame (.writing left connection)) :
      TransactionMove settings meets state (state.store (.transaction transaction)
        { shared := state.shared.noteWritten connection frame, point := .inside failed })
  | commits (transaction : String) (failed : Bool) (met : meets (.exit transaction true))
      (inside : state.tasks (.transaction transaction) = .inside failed)
      (connection : ConnectionId) (active : state.shared.active = some connection) :
      TransactionMove settings meets state (state.store (.transaction transaction)
        { shared :=
            (state.shared.emit (.exited transaction true)).hand connection (commitFrame transaction)
          point := .committing (.writing connection) })
  | postpones (transaction : String) (failed : Bool) (met : meets (.exit transaction true))
      (inside : state.tasks (.transaction transaction) = .inside failed)
      (inactive : state.shared.active = none) :
      TransactionMove settings meets state (state.store (.transaction transaction)
        { shared := state.shared.emit (.exited transaction true), point := .finished })
  | aborts (transaction : String) (failed : Bool)
      (inside : state.tasks (.transaction transaction) = .inside failed)
      (connection : ConnectionId) (active : state.shared.active = some connection) :
      TransactionMove settings meets state (state.store (.transaction transaction)
        { shared :=
            (state.shared.emit (.exited transaction false)).hand connection (abortFrame transaction)
          point := .aborting (.writing connection) })
  | forgets (transaction : String) (failed : Bool)
      (inside : state.tasks (.transaction transaction) = .inside failed)
      (inactive : state.shared.active = none) (met : meets (.exit transaction false)) :
      TransactionMove settings meets state (state.store (.transaction transaction)
        (removeTransaction transaction (state.shared.emit (.exited transaction false))))
  | committed (transaction : String) (connection : ConnectionId)
      (standing : state.tasks (.transaction transaction) = .committing (.writing connection))
      (choice : Choice) (met : meets (.resume (.transaction transaction) .returned choice)) :
      TransactionMove settings meets state (state.store (.transaction transaction)
        (removeTransaction transaction
          (state.shared.noteWritten connection (commitFrame transaction))))
  | aborted (transaction : String) (writing : MaybeWrite)
      (standing : state.tasks (.transaction transaction) = .aborting writing) {shared : Shared}
      (uninvolved : Uninvolved state shared) (reply : Reply) (choice : Choice)
      (met : meets (.resume (.transaction transaction) reply choice))
      (ended : reply = .returned ∨ reply = .raised .connectionLost ∧
        ∃ connection, writing = .writing connection ∧ state.shared.active ≠ some connection) :
      TransactionMove settings meets state (state.store (.transaction transaction)
        (removeTransaction transaction shared))

namespace Uninvolved

variable {state : State}

theorem refl (state : State) : Uninvolved state state.shared :=
  ⟨rfl, rfl, rfl, rfl, rfl, [], by simp, by simp⟩

theorem emit {event : Event} (unrelated : event.Unrelated state) :
    Uninvolved state (state.shared.emit event) :=
  ⟨rfl, rfl, rfl, rfl, rfl, [event], rfl, by simpa using unrelated⟩

/-- The end of a duty that belongs to no transaction. -/
theorem ends {shared : Shared} (uninvolved : Uninvolved state shared) {duty : Duty}
    (other : (∃ id, duty = .unsubscribe id) ∨ duty.frame.type = .ack ∨ duty.frame.type = .nack)
    (written : Bool) : Uninvolved state (duty.completed written shared).shared := by
  have ended := duty.ends_completed written shared
  obtain ⟨events, trace_eq, unrelated⟩ := uninvolved.trace
  obtain ⟨more, more_eq, listed⟩ := ended.trace
  have same : (duty.completed written shared).shared.transactions = shared.transactions ∧
      (duty.completed written shared).shared.revision = shared.revision := by
    cases duty with
    | abort => simp [Duty.frame, abortFrame, transactionFrame, Frame.bodyless] at other
    | commit => simp [Duty.frame, commitFrame, transactionFrame, Frame.bodyless] at other
    | settle delivery frame suppressed => cases suppressed <;> exact ⟨rfl, rfl⟩
    | _ => exact ⟨rfl, rfl⟩
  refine ⟨ended.active.trans uninvolved.active, ended.reconnect.trans uninvolved.reconnect,
    same.1.trans uninvolved.transactions, same.2.trans uninvolved.revision,
    ended.sentFrames.trans uninvolved.sentFrames, events ++ more, ?_, ?_⟩
  · rw [more_eq, trace_eq, List.append_assoc]
  · intro event member
    rcases List.mem_append.mp member with early | late
    · exact unrelated event early
    · rcases listed event late with ⟨id, -, rfl⟩ | ⟨number, rfl⟩ <;> trivial

end Uninvolved

section Conversion

variable {settings : Settings} {meets : Action → Prop} {state : State} {task : TaskId}

/-- A task other than a transaction moves. -/
theorem TransactionMove.elsewhere (other : ∀ transaction, task ≠ .transaction transaction)
    {resumed : Resumed} (uninvolved : Uninvolved state resumed.shared)
    (spawned : ∀ other point, resumed.spawned = some (other, point) →
      ∀ transaction, other ≠ .transaction transaction) :
    TransactionMove settings meets state (state.store task resumed) := by
  refine .apart uninvolved ?_
  intro transaction
  unfold State.store
  cases created : resumed.spawned with
  | none => simp [Ne.symm (other transaction)]
  | some pair =>
      obtain ⟨child, point⟩ := pair
      simp [Ne.symm (other transaction), Ne.symm (spawned child point created transaction)]

/-- A frame of a job is handed over or written without concern for transactions. -/
theorem Job.unrelated {job : Job} (runs : job.Runs task) {writing : WriteFrame}
    (standing : state.tasks task = job.point writing)
    (other : ∀ transaction failed frame, job ≠ .transact transaction failed frame)
    (connection : ConnectionId) :
    Event.Unrelated state (.handed connection job.frame) ∧
      Event.Unrelated state (.wrote connection job.frame) := by
  have unrelated : job.frame.type ≠ .commit ∧ (job.frame.type = .send →
      ∃ task writing, state.tasks task = .sending job.frame writing) := by
    cases job with
    | send frame =>
        obtain ⟨-, arguments, rfl⟩ := runs
        exact ⟨by simp [Job.frame, sendFrame], fun _ => ⟨task, writing, standing⟩⟩
    | subscribe =>
        simp [Job.frame, Subscription.frame, subscribeFrame, Frame.bodyless]
    | begin => simp [Job.frame, beginFrame, transactionFrame, Frame.bodyless]
    | transact transaction failed frame => exact absurd rfl (other transaction failed frame)
  exact ⟨unrelated, unrelated⟩

theorem unrelated_of_type {frame : Frame} (commit : frame.type ≠ .commit)
    (send : frame.type ≠ .send) (connection : ConnectionId) :
    Event.Unrelated state (.handed connection frame) ∧
      Event.Unrelated state (.wrote connection frame) :=
  ⟨⟨commit, fun same => absurd same send⟩, ⟨commit, fun same => absurd same send⟩⟩

/-- Duties of tasks other than transactions. -/
def Duty.Foreign (task : TaskId) (duty : Duty) : Prop :=
  (∀ transaction, task ≠ .transaction transaction) ∧
    ((∃ id, duty = .unsubscribe id) ∨ duty.frame.type = .ack ∨ duty.frame.type = .nack)

theorem Duty.foreign_or {duty : Duty} (runs : duty.Runs task) :
    duty.Foreign task ∨ ∃ transaction, task = .transaction transaction ∧
      (duty = .abort transaction ∨ duty = .commit transaction) := by
  cases duty with
  | unsubscribe id =>
      obtain ⟨number, rfl⟩ := runs
      exact .inl ⟨by simp, .inl ⟨id, rfl⟩⟩
  | abort transaction => exact .inr ⟨transaction, runs, .inl rfl⟩
  | commit transaction => exact .inr ⟨transaction, runs, .inr rfl⟩
  | settle delivery frame suppressed =>
      obtain ⟨⟨number, rfl⟩, settles⟩ := runs
      exact .inl ⟨by simp, .inr settles⟩
  | acknowledge delivery frame =>
      obtain ⟨⟨number, rfl⟩, settles⟩ := runs
      exact .inl ⟨by simp, .inr settles⟩

theorem Duty.Foreign.unrelated {duty : Duty} (foreign : duty.Foreign task)
    (connection : ConnectionId) :
    Event.Unrelated state (.handed connection duty.frame) ∧
      Event.Unrelated state (.wrote connection duty.frame) := by
  apply unrelated_of_type
  · rcases foreign.2 with ⟨id, rfl⟩ | ack | nack
    · simp [Duty.frame, unsubscribeFrame, Frame.bodyless]
    · simp [ack]
    · simp [nack]
  · rcases foreign.2 with ⟨id, rfl⟩ | ack | nack
    · simp [Duty.frame, unsubscribeFrame, Frame.bodyless]
    · simp [ack]
    · simp [nack]

theorem TransactionMove.ends {duty : Duty} (foreign : duty.Foreign task) {shared : Shared}
    (uninvolved : Uninvolved state shared) (written : Bool) :
    TransactionMove settings meets state (state.store task (duty.completed written shared)) :=
  .elsewhere foreign.1 (uninvolved.ends foreign.2 written)
    (by simp [(duty.ends_completed written shared).spawned])

theorem Begins.transactionMove {action : Action} {middle : State} (met : meets action)
    (begins : Begins settings state action middle) :
    TransactionMove settings meets state middle := by
  cases begins with
  | idles => exact .apart (.refl state) fun _ => rfl
  | reconnects task reply choice effects => exact .reconnects task reply choice met effects
  | calls _ task job asked absent left =>
      cases action with
      | begin transaction =>
          obtain ⟨rfl, rfl⟩ := Prod.mk.inj (Option.some.inj asked)
          refine .shifts transaction (.refl state) ?_
          rw [absent]
          exact .enters _
      | send number arguments =>
          obtain ⟨rfl, rfl⟩ := Prod.mk.inj (Option.some.inj asked)
          exact .elsewhere (by simp) (.refl state) (by simp)
      | subscribe subscription =>
          obtain ⟨rfl, rfl⟩ := Prod.mk.inj (Option.some.inj asked)
          exact .elsewhere (by simp) (.refl state) (by simp)
      | _ => contradiction
  | sends transaction arguments failed inside left =>
      exact .calls transaction arguments failed inside left
  | writes task choice job runs left connection standing =>
      cases job with
      | send frame =>
          obtain ⟨⟨number, rfl⟩, -⟩ := id runs
          exact .elsewhere (by simp) (.emit (Job.unrelated runs standing (by simp) _).2)
            (by simp [Job.completed])
      | subscribe subscription =>
          obtain rfl := id runs
          obtain ⟨active, reconnect, transactions, revision, sent, trace⟩ :=
            Uninvolved.emit (Job.unrelated runs standing (by simp) connection).2
          exact .elsewhere (by simp) ⟨active, reconnect, transactions, revision, sent, trace⟩
            (by simp [Job.completed])
      | begin transaction =>
          obtain rfl := runs
          exact .begun transaction left connection standing choice met
      | transact transaction failed frame =>
          obtain ⟨rfl, -⟩ := runs
          exact .writes transaction failed frame left connection standing
  | hands asked connection active =>
      cases asked with
      | unsubscribe number id subscribed absent =>
          refine .elsewhere (by simp) ⟨rfl, rfl, rfl, rfl, rfl, _, List.append_assoc _ _ _, ?_⟩
            (by simp)
          intro event member
          rcases List.mem_pair.mp member with rfl | rfl
          · trivial
          · exact (unrelated_of_type (by simp [Duty.frame, unsubscribeFrame, Frame.bodyless])
              (by simp [Duty.frame, unsubscribeFrame, Frame.bodyless]) connection).1
      | commit transaction failed inside =>
          exact .commits transaction failed met inside connection active
      | abort transaction failed inside => exact .aborts transaction failed inside connection active
  | skips asked inactive =>
      cases asked with
      | unsubscribe number id subscribed absent =>
          refine .elsewhere (by simp) ⟨rfl, rfl, rfl, rfl, rfl, _, List.append_assoc _ _ _, ?_⟩
            (by simp [Duty.completed])
          intro event member
          rcases List.mem_pair.mp member with rfl | rfl <;> trivial
      | commit transaction failed inside => exact .postpones transaction failed met inside inactive
      | abort transaction failed inside => exact .forgets transaction failed inside inactive met
  | fulfils task reply choice duty runs connection standing returned =>
      subst returned
      rcases duty.foreign_or runs with foreign | ⟨transaction, rfl, rfl | rfl⟩
      · exact .ends foreign (.emit (foreign.unrelated connection).2) true
      · have unrelated := @unrelated_of_type state (abortFrame transaction) (by
          simp [abortFrame, transactionFrame, Frame.bodyless]) (by
          simp [abortFrame, transactionFrame, Frame.bodyless]) connection
        exact .aborted transaction _ standing (.emit unrelated.2) _ choice met (.inl rfl)
      · exact .committed transaction connection standing choice met
  | drops task reply choice duty runs point standing gone ended =>
      rcases duty.foreign_or runs with foreign | ⟨transaction, rfl, rfl | rfl⟩
      · exact .ends foreign (.refl state) false
      · refine .aborted transaction _ standing (.refl state) reply choice met (ended.imp_right ?_)
        rintro ⟨lost, connection, same⟩
        exact ⟨lost, connection, same, gone connection same⟩
      · refine .shifts transaction (.refl state) ?_
        rw [standing]
        exact .uncommitted _
  | acknowledges action task aside duty runs settles number connection active =>
      rcases duty.foreign_or runs with foreign | ⟨transaction, rfl, rfl | rfl⟩
      · refine .elsewhere foreign.1 ⟨rfl, rfl, rfl, rfl, rfl, _, List.append_assoc _ _ _, ?_⟩
          (by simp)
        intro event member
        rcases List.mem_pair.mp member with rfl | rfl
        · exact (foreign.unrelated connection).1
        · trivial
      · simp [Duty.frame, abortFrame, transactionFrame, Frame.bodyless] at settles
      · simp [Duty.frame, commitFrame, transactionFrame, Frame.bodyless] at settles
  | takes choice connection epoch frame standing point routes =>
      exact .elsewhere (by simp) ⟨rfl, rfl, rfl, rfl, rfl, [_], rfl, by simp [Event.Unrelated]⟩
        (by simp)

theorem Reacts.transactionMove {after : State} (reacts : Reacts state after) :
    TransactionMove settings meets state after := by
  cases reacts with
  | hands task job runs writing standing left connection active =>
      cases job with
      | transact transaction failed frame =>
          obtain ⟨rfl, -⟩ := runs
          exact .hands transaction failed frame writing standing left connection active
      | begin transaction =>
          have unrelated := (Job.unrelated runs standing (by simp) connection).1
          obtain rfl := runs
          refine .shifts transaction (.emit unrelated) ?_
          rw [standing]
          exact .begins _ _
      | send frame =>
          have unrelated := (Job.unrelated runs standing (by simp) connection).1
          obtain ⟨⟨number, rfl⟩, -⟩ := runs
          exact .elsewhere (by simp) (.emit unrelated) (by simp)
      | subscribe subscription =>
          have unrelated := (Job.unrelated runs standing (by simp) connection).1
          obtain rfl := runs
          exact .elsewhere (by simp) (.emit unrelated) (by simp)
  | waits task job runs writing standing next idle =>
      cases job with
      | transact transaction failed frame =>
          obtain ⟨rfl, -⟩ := runs
          refine .shifts transaction (.refl state) ?_
          rw [standing]
          exact .waits failed frame writing next idle
      | begin transaction =>
          obtain rfl := runs
          refine .shifts transaction (.refl state) ?_
          rw [standing]
          exact .begins _ _
      | send frame =>
          obtain ⟨⟨number, rfl⟩, -⟩ := runs
          exact .elsewhere (by simp) (.refl state) (by simp)
      | subscribe subscription =>
          obtain rfl := runs
          exact .elsewhere (by simp) (.refl state) (by simp)
  | fails task job runs writing standing failure =>
      cases job with
      | transact transaction failed frame =>
          obtain ⟨rfl, -⟩ := runs
          refine .shifts transaction (.refl state) ?_
          rw [standing]
          exact .fails failed frame writing
      | begin transaction =>
          obtain rfl := runs
          refine .shifts transaction (.refl state) ?_
          rw [standing]
          exact .refused _ _
      | send frame =>
          obtain ⟨⟨number, rfl⟩, -⟩ := runs
          exact .elsewhere (by simp) (.refl state) (by simp)
      | subscribe subscription =>
          obtain rfl := runs
          exact .elsewhere (by simp) (.refl state) (by simp)
  | loses task duty runs connection standing gone =>
      rcases duty.foreign_or runs with foreign | ⟨transaction, rfl, rfl | rfl⟩
      · exact .elsewhere foreign.1 (.refl state) (by simp)
      · refine .shifts transaction (.refl state) ?_
        rw [standing]
        exact .aborts _ _
      · refine .shifts transaction (.refl state) ?_
        rw [standing]
        exact .loses connection
  | breaks task duty runs writing standing failure =>
      rcases duty.foreign_or runs with foreign | ⟨transaction, rfl, rfl | rfl⟩
      · exact .elsewhere foreign.1 (.refl state) (by simp)
      · refine .shifts transaction (.refl state) ?_
        rw [standing]
        exact .interrupted _ _
      · refine .shifts transaction (.refl state) ?_
        rw [standing]
        exact .breaks _ _
  | discards connection active => exact .discards connection active
  | opens =>
      exact .apart ⟨rfl, rfl, rfl, rfl, rfl, [_], rfl, by simp [Event.Unrelated]⟩ fun _ => rfl
  | beats => exact .apart (.emit trivial) fun _ => rfl
  | reports => exact .apart (.emit trivial) fun _ => rfl
  | creates delivery standing =>
      refine .elsewhere (by simp) ⟨rfl, rfl, rfl, rfl, rfl, [_], rfl, by simp [Event.Unrelated]⟩ ?_
      intro other point created
      obtain ⟨rfl, -⟩ := Prod.mk.inj (Option.some.inj created)
      simp
  | stops => exact .elsewhere (by simp) (.refl state) (by simp)
  | elsewhere changes =>
      have unmoved := changes.shared
      refine .apart ⟨unmoved.active, unmoved.reconnect, unmoved.transactions, unmoved.revision,
        unmoved.sentFrames, [], by simp [unmoved.trace], by simp⟩ ?_
      intro transaction
      rcases changes.tasks (.transaction transaction) with same | ⟨background, -⟩
      · exact same
      · exact absurd background id

end Conversion

theorem TransactionMove.mono {settings : Settings} {meets weaker : Action → Prop}
    {state after : State} (move : TransactionMove settings meets state after)
    (implies : ∀ action, meets action → weaker action) :
    TransactionMove settings weaker state after := by
  cases move with
  | apart uninvolved blocks => exact .apart uninvolved blocks
  | discards connection active => exact .discards connection active
  | reconnects task reply choice met effects =>
      exact .reconnects task reply choice (implies _ met) effects
  | shifts transaction uninvolved shift => exact .shifts transaction uninvolved shift
  | begun transaction left connection standing choice met =>
      exact .begun transaction left connection standing choice (implies _ met)
  | calls transaction arguments failed inside left =>
      exact .calls transaction arguments failed inside left
  | hands transaction failed frame writing standing left connection active =>
      exact .hands transaction failed frame writing standing left connection active
  | writes transaction failed frame left connection standing =>
      exact .writes transaction failed frame left connection standing
  | commits transaction failed met inside connection active =>
      exact .commits transaction failed (implies _ met) inside connection active
  | postpones transaction failed met inside inactive =>
      exact .postpones transaction failed (implies _ met) inside inactive
  | aborts transaction failed inside connection active =>
      exact .aborts transaction failed inside connection active
  | forgets transaction failed inside inactive met =>
      exact .forgets transaction failed inside inactive (implies _ met)
  | committed transaction connection standing choice met =>
      exact .committed transaction connection standing choice (implies _ met)
  | aborted transaction writing standing uninvolved reply choice met ended =>
      exact .aborted transaction writing standing uninvolved reply choice (implies _ met) ended

/-- Invariants of transactions. -/
theorem invariant_of_transactionMoves {settings : Settings} {allowed : State → Action → Prop}
    {property : State → Prop} (initially : property (client settings).initial)
    (kept : ∀ {state after : State}, state.Fits → property state →
      TransactionMove settings (allowed state) state after → property after)
    {state : State} (reach : (client settings).Reaches allowed state) : property state :=
  invariant_of_moves initially
    (fun fits holds met begins => kept fits holds (begins.transactionMove met))
    (fun fits holds reacts => kept fits holds reacts.transactionMove) reach

/-- Positions of a transaction block before its exit. -/
def Point.Open : Point → Prop
  | .absent | .beginning _ | .inside _ | .transacting .. => True
  | _ => False

/-! ## What is recorded -/

/-- The records of transactions in the shared state. -/
structure Shared.Recorded (shared : Shared) : Prop where
  calls : ∀ transaction, shared.sentFrames transaction =
    shared.trace.filterMap (Event.calledIn transaction)
  sends : ∀ transaction, ∀ frame ∈ shared.sentFrames transaction,
    ∃ arguments, frame = sendFrame arguments (some transaction)
  replayed : ∀ connection walk transaction index frame,
    shared.handshake = some (connection, .replaying walk transaction (some (index, frame))) →
      (shared.sentFrames transaction)[index]? = some frame
  once : ∀ transaction, .exited transaction true ∈ shared.trace →
    .exited transaction false ∉ shared.trace

namespace Shared.Recorded

variable {before after : Shared}

/-- Changes without calls of `Transaction.send` and without exits. -/
theorem grows (recorded : before.Recorded) (events : List Event)
    (trace_eq : after.trace = before.trace ++ events)
    (sentFrames : after.sentFrames = before.sentFrames)
    (uncalled : ∀ transaction, ∀ event ∈ events, event.calledIn transaction = none)
    (unexited : ∀ transaction ok, .exited transaction ok ∉ events)
    (replayed : ∀ connection walk transaction index frame,
      after.handshake = some (connection, .replaying walk transaction (some (index, frame))) →
        (before.sentFrames transaction)[index]? = some frame) : after.Recorded where
  calls := by
    intro transaction
    have none_called : events.filterMap (Event.calledIn transaction) = [] :=
      List.filterMap_eq_nil_iff.mpr (uncalled transaction)
    rw [sentFrames, trace_eq, List.filterMap_append, none_called, List.append_nil]
    exact recorded.calls transaction
  sends := by
    rw [sentFrames]
    exact recorded.sends
  replayed := by
    rw [sentFrames]
    exact replayed
  once := by
    intro transaction
    simp only [trace_eq, List.mem_append, unexited, or_false]
    exact recorded.once transaction

/-- Changes that leave the handshake alone as well. -/
theorem same (recorded : before.Recorded) (events : List Event)
    (trace_eq : after.trace = before.trace ++ events)
    (sentFrames : after.sentFrames = before.sentFrames)
    (reconnect : after.reconnect = before.reconnect)
    (uncalled : ∀ transaction, ∀ event ∈ events, event.calledIn transaction = none)
    (unexited : ∀ transaction ok, .exited transaction ok ∉ events) : after.Recorded := by
  refine recorded.grows events trace_eq sentFrames uncalled unexited ?_
  intro connection walk transaction index frame current
  rw [Shared.handshake_congr reconnect] at current
  exact recorded.replayed connection walk transaction index frame current

theorem exits (recorded : before.Recorded) {transaction : String} (ok : Bool)
    (first : ∀ ok, .exited transaction ok ∉ before.trace) :
    (before.emit (.exited transaction ok)).Recorded where
  calls := by
    intro other
    rw [Shared.emit, List.filterMap_append]
    simpa [List.filterMap_cons, Event.calledIn] using recorded.calls other
  sends := recorded.sends
  replayed := recorded.replayed
  once := by
    intro other
    simp only [Shared.emit, List.mem_append, List.mem_singleton, Event.exited.injEq]
    rintro (earlier | ⟨rfl, rfl⟩) (later | ⟨same, failed⟩)
    · exact recorded.once other earlier later
    · exact first true (same ▸ earlier)
    · exact first false later
    · contradiction

theorem appendSent (recorded : before.Recorded) (transaction : String) (arguments : SendArguments) :
    (before.appendSent transaction (sendFrame arguments (some transaction))).Recorded where
  calls := by
    intro other
    simp only [Shared.appendSent, Shared.emit, List.filterMap_append, List.filterMap_cons,
      Event.calledIn, List.filterMap_nil]
    by_cases same : other = transaction
    · subst same
      simp [recorded.calls]
    · simp [same, Ne.symm same, recorded.calls]
  sends := by
    intro other frame member
    by_cases same : other = transaction
    · subst same
      simp only [Shared.appendSent, Function.update_self, List.mem_append, List.mem_singleton]
        at member
      rcases member with old | rfl
      · exact recorded.sends other frame old
      · exact ⟨arguments, rfl⟩
    · simp only [Shared.appendSent, Function.update_of_ne same] at member
      exact recorded.sends other frame member
  replayed := by
    intro connection walk other index frame current
    have known := recorded.replayed connection walk other index frame current
    by_cases same : other = transaction
    · subst same
      simp only [Shared.appendSent, Function.update_self]
      rw [List.getElem?_append_left (List.getElem?_eq_some_iff.mp known).1]
      exact known
    · simpa only [Shared.appendSent, Function.update_of_ne same] using known
  once := by
    intro other
    simpa [Shared.appendSent, Shared.emit] using recorded.once other

theorem reconnects {settings : Settings} {task : TaskId} {reply : Reply}
    {progress : Progress Unit ConnectionId} (recorded : before.Recorded)
    (effects : before.Reconnects settings task reply after progress) : after.Recorded := by
  obtain ⟨events, trace_eq, managed, sentFrames, -⟩ := effects.extends
  refine recorded.grows events trace_eq sentFrames ?_ ?_ ?_
  · intro transaction event member
    have allowed := managed event member
    cases event <;> first | rfl | exact absurd allowed id
  · intro transaction ok member
    exact managed _ member
  · intro connection walk transaction index frame current
    have next : ∀ {shared : Shared} {other : String} {position : Nat},
        shared.sentFrames = before.sentFrames → other = transaction →
        shared.replayed other position = some (index, frame) →
        (before.sentFrames transaction)[index]? = some frame := by
      rintro shared other position same rfl found
      obtain ⟨_, present, same_pair⟩ := Option.map_eq_some_iff.mp found
      obtain ⟨rfl, rfl⟩ := Prod.mk.inj same_pair
      rwa [same] at present
    cases effects with
    | interrupted => exact recorded.replayed connection walk transaction index frame current
    | found => exact recorded.replayed connection walk transaction index frame current
    | replays =>
        rw [Shared.replayFrame_eq] at current
        obtain ⟨-, -, same, found⟩ := Shared.eq_of_handshake_replaying current
        exact next rfl same found
    | picks reconnect locked owned other point phase ready =>
        rw [Shared.replayFrame_eq] at current
        obtain ⟨-, -, same, found⟩ := Shared.eq_of_handshake_replaying current
        exact next ready.base.sentFrames same found
    | opens => simp [Shared.startHandshake] at current
    | _ => simp at current

end Shared.Recorded

namespace Shared

@[simp] theorem trace_addTransaction (shared : Shared) (transaction : String) :
    (shared.addTransaction transaction).trace = shared.trace := by
  unfold addTransaction
  split <;> rfl

@[simp] theorem active_addTransaction (shared : Shared) (transaction : String) :
    (shared.addTransaction transaction).active = shared.active := by
  unfold addTransaction
  split <;> rfl

@[simp] theorem reconnect_addTransaction (shared : Shared) (transaction : String) :
    (shared.addTransaction transaction).reconnect = shared.reconnect := by
  unfold addTransaction
  split <;> rfl

@[simp] theorem sentFrames_addTransaction (shared : Shared) (transaction : String) :
    (shared.addTransaction transaction).sentFrames = shared.sentFrames := by
  unfold addTransaction
  split <;> rfl

theorem mem_addTransaction (shared : Shared) (own transaction : String) :
    transaction ∈ (shared.addTransaction own).transactions ↔
      transaction ∈ shared.transactions ∨ transaction = own := by
  unfold addTransaction
  split
  · rename_i present
    exact ⟨.inl, fun either => either.elim id fun same => same ▸ present⟩
  · simp

end Shared

/-- The frames of a block carry its transaction. -/
theorem State.Fits.transacting {state : State} (fits : state.Fits) {transaction : String}
    {failed : Bool} {frame : Frame} {writing : WriteFrame}
    (standing : state.tasks (.transaction transaction) = .transacting failed frame writing) :
    ∃ arguments, frame = sendFrame arguments (some transaction) := by
  have own := fits.tasks (.transaction transaction)
  rw [standing] at own
  obtain ⟨other, same, arguments, rfl⟩ := own
  obtain rfl := TaskId.transaction.inj same
  exact ⟨arguments, rfl⟩

/-- A property of all transaction blocks passes to the new state if the resumed task has it. -/
theorem State.forall_transactions_store {state : State} {own : String} {resumed : Resumed}
    (property : String → Point → Prop)
    (others : ∀ transaction, transaction ≠ own →
      property transaction (state.tasks (.transaction transaction)))
    (moved : property own resumed.point) (spawned : resumed.spawned = none) :
    ∀ transaction, property transaction
      ((state.store (.transaction own) resumed).tasks (.transaction transaction)) := by
  intro transaction
  refine State.forall_tasks_store
    (fun task point => ∀ transaction, task = .transaction transaction → property transaction point)
    ?_ ?_ (by simp [spawned]) _ transaction rfl
  · rintro other different transaction rfl
    exact others transaction fun same => different (by rw [same])
  · rintro transaction same
    obtain rfl := TaskId.transaction.inj same
    exact moved

/-- The records of the whole client: a block that has not been left has no exit on record. -/
structure State.Recorded (state : State) : Prop where
  shared : state.shared.Recorded
  opened : ∀ transaction, (state.tasks (.transaction transaction)).Open →
    ∀ ok, .exited transaction ok ∉ state.shared.trace

theorem Shared.Recorded.uninvolved {state : State} {after : Shared}
    (recorded : state.shared.Recorded) (uninvolved : Uninvolved state after) : after.Recorded := by
  obtain ⟨events, trace_eq, unrelated⟩ := uninvolved.trace
  refine recorded.same events trace_eq uninvolved.sentFrames uninvolved.reconnect ?_ ?_
  · intro transaction event member
    have apart := unrelated event member
    cases event <;> first | rfl | exact absurd apart id
  · intro transaction ok member
    exact unrelated _ member

theorem Uninvolved.unexited {state : State} {after : Shared} (uninvolved : Uninvolved state after)
    (transaction : String) (ok : Bool) :
    .exited transaction ok ∈ after.trace ↔ .exited transaction ok ∈ state.shared.trace := by
  obtain ⟨events, trace_eq, unrelated⟩ := uninvolved.trace
  rw [trace_eq, List.mem_append, or_iff_left]
  exact fun member => unrelated _ member

namespace State.Recorded

variable {settings : Settings} {meets : Action → Prop} {state : State}

/-- A block moves and no block exits. -/
theorem store (recorded : state.Recorded) {own : String} {resumed : Resumed}
    (shared : resumed.shared.Recorded)
    (unexited : ∀ transaction ok, .exited transaction ok ∈ resumed.shared.trace →
      .exited transaction ok ∈ state.shared.trace)
    (moved : resumed.point.Open → (state.tasks (.transaction own)).Open)
    (spawned : resumed.spawned = none) : (state.store (.transaction own) resumed).Recorded where
  shared := shared
  opened := by
    refine forall_transactions_store (fun transaction point => point.Open →
      ∀ ok, .exited transaction ok ∉ resumed.shared.trace) ?_ ?_ spawned
    · intro transaction _ is_open ok member
      exact recorded.opened transaction is_open ok (unexited transaction ok member)
    · intro is_open ok member
      exact recorded.opened own (moved is_open) ok (unexited own ok member)

/-- A block exits. -/
theorem exits (recorded : state.Recorded) {own : String} {failed ok : Bool}
    (inside : state.tasks (.transaction own) = .inside failed) {resumed : Resumed}
    (events : List Event)
    (trace_eq : resumed.shared.trace = state.shared.trace ++ .exited own ok :: events)
    (shared : (state.shared.emit (.exited own ok)).Recorded → resumed.shared.Recorded)
    (unexited : ∀ transaction ok, .exited transaction ok ∉ events)
    (closed : ¬ resumed.point.Open) (spawned : resumed.spawned = none) :
    (state.store (.transaction own) resumed).Recorded where
  shared := shared (recorded.shared.exits ok (recorded.opened own (by rw [inside]; trivial)))
  opened := by
    refine forall_transactions_store (fun transaction point => point.Open →
      ∀ ok, .exited transaction ok ∉ resumed.shared.trace) ?_ ?_ spawned
    · intro transaction other is_open earlier member
      simp only [trace_eq, List.mem_append, List.mem_cons, Event.exited.injEq, unexited, or_false]
        at member
      rcases member with old | ⟨same, -⟩
      · exact recorded.opened transaction is_open earlier old
      · exact other same
    · exact fun is_open => absurd is_open closed

theorem removes (recorded : state.Recorded) {own : String} {shared : Shared}
    (known : shared.Recorded)
    (unexited : ∀ transaction ok, .exited transaction ok ∈ shared.trace →
      .exited transaction ok ∈ state.shared.trace) :
    (state.store (.transaction own) (removeTransaction own shared)).Recorded := by
  unfold removeTransaction
  split
  · refine recorded.store ?_ unexited (fun is_open => absurd is_open id) rfl
    exact known.same [] (by simp [Shared.removeTransaction]) rfl rfl (by simp) (by simp)
  · exact recorded.store known unexited (fun is_open => absurd is_open id) rfl

theorem transactionMove (recorded : state.Recorded) {after : State}
    (move : TransactionMove settings meets state after) : after.Recorded := by
  cases move with
  | apart uninvolved blocks =>
      refine ⟨recorded.shared.uninvolved uninvolved, ?_⟩
      intro transaction is_open ok
      rw [uninvolved.unexited]
      exact recorded.opened transaction (blocks transaction ▸ is_open) ok
  | discards connection active =>
      refine ⟨recorded.shared.same [_, _] (List.append_assoc _ _ _) rfl rfl ?_ (by simp), ?_⟩
      · simp [Event.calledIn]
      · intro transaction is_open ok
        simpa [Shared.discard, Shared.emit] using recorded.opened transaction is_open ok
  | reconnects task reply choice met effects =>
      refine ⟨recorded.shared.reconnects effects, ?_⟩
      obtain ⟨events, trace_eq, managed, -⟩ := effects.extends
      intro transaction is_open ok member
      simp only [trace_eq, List.mem_append] at member
      rcases member with old | new
      · exact recorded.opened transaction is_open ok old
      · exact managed _ new
  | shifts transaction uninvolved shift =>
      refine recorded.store (recorded.shared.uninvolved uninvolved)
        (fun _ _ => (uninvolved.unexited _ _).mp) ?_ rfl
      intro is_open
      generalize state.tasks (.transaction transaction) = before at shift
      cases shift <;> trivial
  | begun transaction left connection standing =>
      refine recorded.store (recorded.shared.same [_]
        (by simp [Shared.noteWritten, Shared.emit]; rfl)
        (by simp [Shared.noteWritten, Shared.emit]) (by simp [Shared.noteWritten, Shared.emit]) ?_
        (by simp)) ?_ (fun _ => by rw [standing]; trivial) rfl
      · simp [Event.calledIn]
      · simp [Shared.noteWritten, Shared.emit]
  | calls transaction arguments failed inside left =>
      refine recorded.store (recorded.shared.appendSent transaction arguments) ?_
        (fun _ => by rw [inside]; trivial) rfl
      simp [Shared.appendSent, Shared.emit]
  | hands transaction failed frame writing standing left connection active =>
      refine recorded.store (recorded.shared.same [_] rfl rfl rfl ?_ (by simp)) ?_
        (fun _ => by rw [standing]; trivial) rfl
      · simp [Event.calledIn]
      · simp [Shared.hand, Shared.emit]
  | writes transaction failed frame left connection standing =>
      refine recorded.store (recorded.shared.same [_] rfl rfl rfl ?_ (by simp)) ?_
        (fun _ => by rw [standing]; trivial) rfl
      · simp [Event.calledIn]
      · simp [Shared.noteWritten, Shared.emit]
  | commits transaction failed met inside connection active =>
      refine recorded.exits inside [_] (List.append_assoc _ _ _) (fun known => ?_) (by simp) id rfl
      exact known.same [_] rfl rfl rfl (by simp [Event.calledIn]) (by simp)
  | postpones transaction failed met inside inactive =>
      exact recorded.exits inside [] rfl id (by simp) id rfl
  | aborts transaction failed inside connection active =>
      refine recorded.exits inside [_] (List.append_assoc _ _ _) (fun known => ?_) (by simp) id rfl
      exact known.same [_] rfl rfl rfl (by simp [Event.calledIn]) (by simp)
  | forgets transaction failed inside inactive =>
      unfold removeTransaction
      split
      · refine recorded.exits inside [] rfl (fun known => ?_) (by simp) id rfl
        exact known.same [] (by simp [Shared.removeTransaction]) rfl rfl (by simp) (by simp)
      · exact recorded.exits inside [] rfl id (by simp) id rfl
  | committed transaction connection standing =>
      refine recorded.removes (recorded.shared.same [_] rfl rfl rfl ?_ (by simp)) ?_
      · simp [Event.calledIn]
      · simp [Shared.noteWritten, Shared.emit]
  | aborted transaction writing standing uninvolved =>
      exact recorded.removes (recorded.shared.uninvolved uninvolved)
        (fun _ _ => (uninvolved.unexited _ _).mp)

end State.Recorded

theorem recorded_initial (settings : Settings) : (client settings).initial.Recorded :=
  ⟨⟨by simp [client], by simp [client], by simp [client, Shared.handshake], by simp [client]⟩,
    by simp [client]⟩

/-! ## The replay -/

/-- Whether a reply takes the handshake of a task to the head of the loop over the active
transactions: CONNECTED when there is nothing to resubscribe, the end of the last SUBSCRIBE, or the
end of a COMMIT. -/
def Shared.entersReplay (settings : Settings) (shared : Shared) (task : TaskId) (reply : Reply) :
    Bool :=
  match shared.reconnect with
  | some ⟨owner, _, .entering _ point⟩ =>
      owner = task &&
        match point, reply with
        | .readingConnected _, .frame (.frame connected) =>
            connected.type = .connected && shared.subscriptions.getAll.isEmpty &&
              match confirm settings.protocolVersion connected with
              | .ok (.established _) => true
              | _ => false
        | .resubscribing _ [], .returned => true
        | .replaying _ _ none, .returned => true
        | _, _ => false
  | _ => false

theorem Shared.entersReplay_of_ready {settings : Settings} {shared base : Shared} {task : TaskId}
    {reply : Reply} {reconnect : Reconnect} (locked : shared.reconnect = some reconnect)
    (owned : reconnect.owner = task) {connection : ConnectionId} {point : Enter}
    (phase : reconnect.phase = .entering connection point) {walk : Walk}
    (ready : shared.Ready settings connection reply point base [] walk) :
    shared.entersReplay settings task reply = true := by
  obtain ⟨owner, issues, reached⟩ := reconnect
  obtain rfl : owner = task := owned
  obtain rfl : reached = .entering connection point := phase
  rw [entersReplay, locked]
  generalize nothing : ([] : List Subscription) = rest at ready
  cases ready with
  | confirmed collected type established => simp [type, established, ← nothing]
  | resubscribed current remaining => simp [← nothing]
  | committed => simp

end Stompman
