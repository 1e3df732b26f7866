import Stompman.Content

/-!
# Transactions on their connections

STOMP scopes a transaction to a connection.  On the connection of its BEGIN, the frames of a
transaction are BEGIN, SENDs and one COMMIT or ABORT in every run.  On any other connection they
come without a BEGIN: `commit_pending_transactions` writes the SENDs and the COMMIT of a transaction
that was begun on a connection before.
-/

namespace Stompman

open Foundation

/-! ## Frames of a transaction on a connection -/

namespace Frame

/-- The transaction of a frame, for the classes of frames whose headers have one. -/
def transaction? (frame : Frame) : Option String :=
  match frame.type with
  | .send | .ack | .nack | .begin | .commit | .abort => frame.headers.get? "transaction"
  | _ => none

@[simp] theorem transaction?_beginFrame (transaction : String) :
    (beginFrame transaction).transaction? = some transaction := by
  simp [transaction?, beginFrame, transactionFrame, bodyless, Dict.get?_set]

@[simp] theorem transaction?_commitFrame (transaction : String) :
    (commitFrame transaction).transaction? = some transaction := by
  simp [transaction?, commitFrame, transactionFrame, bodyless, Dict.get?_set]

@[simp] theorem transaction?_abortFrame (transaction : String) :
    (abortFrame transaction).transaction? = some transaction := by
  simp [transaction?, abortFrame, transactionFrame, bodyless, Dict.get?_set]

@[simp] theorem transaction?_sendFrame_some (arguments : SendArguments) (transaction : String) :
    (sendFrame arguments (some transaction)).transaction? = some transaction := by
  simp [transaction?, sendFrame, Dict.get?_set]

theorem transaction?_sendFrame_none (arguments : SendArguments) :
    (sendFrame arguments none).transaction? =
      (arguments.headers.getD Dict.empty).get? "transaction" := by
  rw [← get?_sendFrame]
  rfl

theorem transaction?_settleFrame (type : FrameType) (ackId subscription : String) :
    (settleFrame type ackId subscription).transaction? = none := by
  unfold transaction?
  split <;> simp [settleFrame, bodyless, Dict.get?_set, Dict.get?_empty]

end Frame

/-- The type of a frame of a transaction that has been written on a connection. -/
def Event.writtenFor (connection : ConnectionId) (transaction : String) :
    Event → Option FrameType
  | .wrote other frame =>
      if other = connection ∧ frame.transaction? = some transaction then some frame.type else none
  | _ => none

/-- The types of the frames of a transaction that have been written on a connection, in order. -/
def framesFor (connection : ConnectionId) (transaction : String) (trace : List Event) :
    List FrameType :=
  trace.filterMap (Event.writtenFor connection transaction)

/-- BEGIN, zero or more SENDs, then COMMIT or ABORT, or a first part of it. -/
def Bracket (types : List FrameType) : Prop :=
  ∃ count last, (last = .commit ∨ last = .abort) ∧
    types <+: .begin :: (List.replicate count .send ++ [last])

/-- On every connection, the frames of every transaction are bracketed. -/
def Bracketed (trace : List Event) : Prop :=
  ∀ connection transaction, Bracket (framesFor connection transaction trace)

/-- The frames of a transaction on a connection without its BEGIN: the transaction had been begun on
another connection, and as far as the first COMMIT or ABORT the frames are SENDs. -/
structure Continues (connection : ConnectionId) (transaction : String) (trace : List Event) :
    Prop where
  begun : ∃ other before later, other ≠ connection ∧ trace = before ++ later ∧
    .begin ∈ framesFor other transaction before ∧ framesFor connection transaction before = []
  bare : .begin ∉ framesFor connection transaction trace
  shape : ∃ count last rest, (last = .commit ∨ last = .abort) ∧
    (framesFor connection transaction trace = List.replicate count .send ∨
      framesFor connection transaction trace = List.replicate count .send ++ last :: rest)

section Trace

variable {connection : ConnectionId} {transaction : String} {trace events : List Event}

theorem framesFor_append (connection : ConnectionId) (transaction : String)
    (trace events : List Event) :
    framesFor connection transaction (trace ++ events) =
      framesFor connection transaction trace ++ framesFor connection transaction events :=
  List.filterMap_append

/-- No frame of a transaction has been written. -/
def Unwritten (transaction : String) (events : List Event) : Prop :=
  ∀ event ∈ events, ∀ connection, event.writtenFor connection transaction = none

theorem framesFor_eq_nil (unwritten : Unwritten transaction events) (connection : ConnectionId) :
    framesFor connection transaction events = [] :=
  List.filterMap_eq_nil_iff.mpr fun event member => unwritten event member connection

theorem framesFor_unwritten (unwritten : Unwritten transaction events) (connection : ConnectionId) :
    framesFor connection transaction (trace ++ events) =
      framesFor connection transaction trace := by
  rw [framesFor_append, framesFor_eq_nil unwritten, List.append_nil]

/-- A frame of a transaction is written. -/
theorem framesFor_wrote {frame : Frame} (named : frame.transaction? = some transaction)
    (unwritten : Unwritten transaction events) (connection other : ConnectionId) :
    framesFor other transaction (trace ++ .wrote connection frame :: events) =
      framesFor other transaction trace ++ if connection = other then [frame.type] else [] := by
  rw [framesFor_append]
  congr 1
  unfold framesFor
  by_cases same : connection = other
  · rw [List.filterMap_cons_some (b := frame.type) (by simp [Event.writtenFor, same, named])]
    rw [if_pos same, ← framesFor, framesFor_eq_nil unwritten]
  · rw [List.filterMap_cons_none (by simp [Event.writtenFor, same])]
    rw [if_neg same, ← framesFor, framesFor_eq_nil unwritten]

theorem Event.writtenFor_wrote {frame : Frame} (other : frame.transaction? ≠ some transaction)
    (own connection : ConnectionId) :
    (Event.wrote own frame).writtenFor connection transaction = none := by
  simp [Event.writtenFor, other]

end Trace

/-! ## Stages of a block -/

/-- What a block has done about its transaction. -/
inductive Stage
  | unbegun
  | within
  | ended

/-- The stage of a block at a position. -/
def Point.stage : Point → Stage
  | .absent | .beginning _ => .unbegun
  | .inside _ | .transacting .. | .aborting _ | .committing _ => .within
  | _ => .ended

theorem Job.stage_point (job : Job) (writing next : WriteFrame) :
    (job.point next).stage = (job.point writing).stage := by
  cases job <;> rfl

theorem Duty.stage_point (duty : Duty) (writing next : MaybeWrite) :
    (duty.point next).stage = (duty.point writing).stage := by
  cases duty <;> rfl

theorem Duty.stage_completed (duty : Duty) (written : Bool) (shared : Shared) :
    (duty.completed written shared).point.stage = .ended := by
  have removed : ∀ transaction, (removeTransaction transaction shared).point.stage = .ended := by
    intro transaction
    rcases point_removeTransaction transaction shared with finished | raised
    · rw [finished]
      rfl
    · rw [raised]
      rfl
  cases duty with
  | abort transaction => exact removed transaction
  | commit transaction =>
      cases written with
      | true => exact removed transaction
      | false => rfl
  | _ => rfl

/-- What the stage of a block says about the frames of its transaction. -/
def Stage.Framed (transaction : String) (trace : List Event) : Stage → Prop
  | .unbegun => ∀ connection, framesFor connection transaction trace = []
  | .within => ∃ connection count, .activated connection ∈ trace ∧
      framesFor connection transaction trace = .begin :: List.replicate count .send ∧
        ∀ other, other ≠ connection → .begin ∉ framesFor other transaction trace
  | .ended => ∀ connection, .begin ∈ framesFor connection transaction trace →
      .activated connection ∈ trace ∧ Bracket (framesFor connection transaction trace)

theorem bracket_nil : Bracket [] := ⟨0, .commit, .inl rfl, List.nil_prefix⟩

theorem bracket_sends (count : Nat) : Bracket (.begin :: List.replicate count .send) :=
  ⟨count, .commit, .inl rfl, List.cons_prefix_cons.mpr ⟨rfl, List.prefix_append _ _⟩⟩

theorem bracket_ended (count : Nat) {last : FrameType} (ends : last = .commit ∨ last = .abort) :
    Bracket (.begin :: (List.replicate count .send ++ [last])) :=
  ⟨count, last, ends, List.prefix_refl _⟩

namespace Stage.Framed

variable {transaction : String} {trace events : List Event} {stage : Stage}

/-- A block may be over without a further frame. -/
theorem ends (framed : stage.Framed transaction trace) : Stage.ended.Framed transaction trace := by
  intro connection begun
  cases stage with
  | unbegun =>
      rw [framed connection] at begun
      contradiction
  | within =>
      obtain ⟨own, count, activated, frames, others⟩ := framed
      by_cases same : connection = own
      · subst same
        rw [frames]
        exact ⟨activated, bracket_sends count⟩
      · exact absurd begun (others connection same)
  | ended => exact framed connection begun

theorem unwritten (framed : stage.Framed transaction trace)
    (silent : Unwritten transaction events) : stage.Framed transaction (trace ++ events) := by
  cases stage with
  | unbegun =>
      intro connection
      rw [framesFor_unwritten silent]
      exact framed connection
  | within =>
      obtain ⟨own, count, activated, frames, others⟩ := framed
      refine ⟨own, count, List.mem_append_left _ activated, ?_, ?_⟩
      · rw [framesFor_unwritten silent]
        exact frames
      · intro other different
        rw [framesFor_unwritten silent]
        exact others other different
  | ended =>
      intro connection begun
      rw [framesFor_unwritten silent] at begun ⊢
      obtain ⟨activated, bracket⟩ := framed connection begun
      exact ⟨List.mem_append_left _ activated, bracket⟩

/-- A frame other than BEGIN is written on a connection that has not been active. -/
theorem replayed (framed : stage.Framed transaction trace) (begun : stage ≠ .unbegun)
    {connection : ConnectionId} (inactive : .activated connection ∉ trace) {frame : Frame}
    (named : frame.transaction? = some transaction) (other : frame.type ≠ .begin)
    (silent : Unwritten transaction events) :
    stage.Framed transaction (trace ++ .wrote connection frame :: events) := by
  have elsewhere : ∀ own, .activated own ∈ trace →
      framesFor own transaction (trace ++ .wrote connection frame :: events) =
        framesFor own transaction trace := by
    intro own activated
    have different : connection ≠ own := by
      rintro rfl
      exact inactive activated
    rw [framesFor_wrote named silent, if_neg different, List.append_nil]
  have earlier : ∀ own,
      .begin ∈ framesFor own transaction (trace ++ .wrote connection frame :: events) →
        .begin ∈ framesFor own transaction trace := by
    intro own member
    rw [framesFor_wrote named silent, List.mem_append] at member
    refine member.resolve_right ?_
    split <;> simp [other.symm]
  cases stage with
  | unbegun => exact absurd rfl begun
  | within =>
      obtain ⟨own, count, activated, frames, others⟩ := framed
      refine ⟨own, count, List.mem_append_left _ activated, ?_, ?_⟩
      · rw [elsewhere own activated]
        exact frames
      · exact fun other different member => others other different (earlier other member)
  | ended =>
      intro own member
      obtain ⟨activated, bracket⟩ := framed own (earlier own member)
      rw [elsewhere own activated]
      exact ⟨List.mem_append_left _ activated, bracket⟩

theorem begins (framed : Stage.unbegun.Framed transaction trace) {connection : ConnectionId}
    (activated : .activated connection ∈ trace) :
    Stage.within.Framed transaction (trace ++ [.wrote connection (beginFrame transaction)]) := by
  have silent : Unwritten transaction [] := by simp [Unwritten]
  refine ⟨connection, 0, List.mem_append_left _ activated, ?_, ?_⟩
  · rw [framesFor_wrote (by simp) silent, if_pos rfl, framed connection]
    rfl
  · intro other different
    rw [framesFor_wrote (by simp) silent, if_neg different.symm, framed other]
    simp

/-- The block writes a SEND. -/
theorem sends (framed : Stage.within.Framed transaction trace) (connection : ConnectionId)
    {frame : Frame} (named : frame.transaction? = some transaction) (type : frame.type = .send) :
    Stage.within.Framed transaction (trace ++ [.wrote connection frame]) := by
  have silent : Unwritten transaction [] := by simp [Unwritten]
  obtain ⟨own, count, activated, frames, others⟩ := framed
  have bare : ∀ other, other ≠ own →
      .begin ∉ framesFor other transaction (trace ++ [.wrote connection frame]) := by
    intro other different
    rw [framesFor_wrote named silent, List.mem_append, not_or, type]
    refine ⟨others other different, ?_⟩
    split <;> simp
  by_cases same : connection = own
  · refine ⟨own, count + 1, List.mem_append_left _ activated, ?_, bare⟩
    rw [framesFor_wrote named silent, if_pos same, frames, type, List.replicate_succ']
    rfl
  · refine ⟨own, count, List.mem_append_left _ activated, ?_, bare⟩
    rw [framesFor_wrote named silent, if_neg same, frames, List.append_nil]

/-- The block writes its COMMIT or its ABORT. -/
theorem finishes (framed : Stage.within.Framed transaction trace) (connection : ConnectionId)
    {frame : Frame} (named : frame.transaction? = some transaction)
    (last : frame.type = .commit ∨ frame.type = .abort) :
    Stage.ended.Framed transaction (trace ++ [.wrote connection frame]) := by
  have silent : Unwritten transaction [] := by simp [Unwritten]
  obtain ⟨own, count, activated, frames, others⟩ := framed
  intro other begun
  have earlier : .begin ∈ framesFor other transaction trace := by
    rw [framesFor_wrote named silent, List.mem_append] at begun
    refine begun.resolve_right ?_
    rcases last with commit | abort
    · rw [commit]
      split <;> simp
    · rw [abort]
      split <;> simp
  obtain rfl : other = own := by
    by_contra different
    exact others other different earlier
  refine ⟨List.mem_append_left _ activated, ?_⟩
  rw [framesFor_wrote named silent, frames]
  by_cases same : connection = other
  · rw [if_pos same]
    exact bracket_ended count last
  · rw [if_neg same, List.append_nil]
    exact bracket_sends count

end Stage.Framed

/-! ## Transactions that are replayed have been begun -/

/-- Every active transaction, and the one that is being replayed, has a BEGIN that was written. -/
structure Shared.Begun (shared : Shared) : Prop where
  listed : ∀ transaction ∈ shared.transactions,
    ∃ connection, .wrote connection (beginFrame transaction) ∈ shared.trace
  replayed : ∀ connection walk transaction frame,
    shared.handshake = some (connection, .replaying walk transaction frame) →
      ∃ connection, .wrote connection (beginFrame transaction) ∈ shared.trace

namespace Shared.Begun

variable {settings : Settings} {before after : Shared}

/-- No transaction is added, and those that are replayed were active. -/
theorem keeps (begun : before.Begun) (grows : before.trace ⊆ after.trace)
    (listed : ∀ transaction ∈ after.transactions, transaction ∈ before.transactions)
    (replayed : ∀ connection walk transaction frame,
      after.handshake = some (connection, .replaying walk transaction frame) →
        transaction ∈ before.transactions ∨ ∃ connection walk frame,
          before.handshake = some (connection, .replaying walk transaction frame)) :
    after.Begun := by
  refine ⟨?_, ?_⟩
  · intro transaction member
    obtain ⟨connection, written⟩ := begun.listed transaction (listed transaction member)
    exact ⟨connection, grows written⟩
  · intro connection walk transaction frame underway
    rcases replayed connection walk transaction frame underway with active |
      ⟨on, walked, last, earlier⟩
    · obtain ⟨connection, written⟩ := begun.listed transaction active
      exact ⟨connection, grows written⟩
    · obtain ⟨connection, written⟩ := begun.replayed on walked transaction last earlier
      exact ⟨connection, grows written⟩

/-- Changes that leave the lock alone. -/
theorem same (begun : before.Begun) (grows : before.trace ⊆ after.trace)
    (listed : ∀ transaction ∈ after.transactions, transaction ∈ before.transactions)
    (reconnect : after.reconnect = before.reconnect) : after.Begun := by
  refine begun.keeps grows listed ?_
  intro connection walk transaction frame underway
  rw [Shared.handshake_congr reconnect] at underway
  exact .inr ⟨connection, walk, frame, underway⟩

theorem uninvolved {state : State} (begun : state.shared.Begun)
    (uninvolved : Uninvolved state after) : after.Begun := by
  obtain ⟨events, trace_eq, -⟩ := uninvolved.trace
  refine begun.same ?_ ?_ uninvolved.reconnect
  · rw [trace_eq]
    exact List.subset_append_left _ _
  · rw [uninvolved.transactions]
    exact fun _ => id

theorem removes (begun : before.Begun) (transaction : String) :
    (Stompman.removeTransaction transaction before).shared.Begun := by
  unfold Stompman.removeTransaction
  split
  · exact begun.same (List.Subset.refl _) (fun _ member => List.mem_of_mem_erase member) rfl
  · exact begun

theorem reconnects {task : TaskId} {reply : Reply} {progress : Progress Unit ConnectionId}
    (begun : before.Begun) (effects : before.Reconnects settings task reply after progress) :
    after.Begun := by
  have grows : before.trace ⊆ after.trace := by
    obtain ⟨events, trace_eq, -⟩ := effects.extends
    rw [trace_eq]
    exact List.subset_append_left _ _
  have early : after.transactions = before.transactions →
      (∀ connection walk transaction frame,
        after.handshake ≠ some (connection, .replaying walk transaction frame)) → after.Begun := by
    intro same calm
    refine begun.keeps grows (by simp [same]) ?_
    exact fun connection walk transaction frame underway =>
      absurd underway (calm connection walk transaction frame)
  cases effects with
  | interrupted => exact begun
  | found => exact begun
  | races => exact early rfl (by simp)
  | sleeps => exact early rfl (by simp)
  | leaves => exact early rfl (by simp)
  | opens => exact early rfl (by simp [Shared.startHandshake])
  | fails => exact early rfl (by simp)
  | asks => exact early rfl (by simp)
  | collects => exact early rfl (by simp)
  | subscribes _ _ _ _ _ _ _ _ ready => exact early ready.base.transactions (by simp)
  | changed _ _ _ _ _ _ ready =>
      exact early ready.base.transactions
        (by simp)
  | replays reconnect locked owned connection walk current index frame phase =>
      rw [Shared.replayFrame_eq] at grows ⊢
      refine begun.keeps grows (fun _ => id) ?_
      intro other next transaction later underway
      obtain ⟨-, -, rfl, -⟩ := Shared.eq_of_handshake_replaying underway
      exact .inr ⟨connection, walk, some (index, frame), Shared.handshake_of_phase locked phase⟩
  | picks reconnect locked owned connection point phase ready transaction sized present =>
      rw [Shared.replayFrame_eq] at grows ⊢
      refine begun.keeps grows (fun _ member => ready.base.transactions ▸ member) ?_
      intro other next again later underway
      obtain ⟨-, -, rfl, -⟩ := Shared.eq_of_handshake_replaying underway
      exact .inl (ready.base.transactions ▸ present)
  | finishes =>
      refine begun.keeps grows ?_ (by simp)
      simp [Shared.activate, Shared.clearTransactions, Shared.emit]

theorem transactionMove {meets : Action → Prop} {state next : State} (begun : state.shared.Begun)
    (move : TransactionMove settings meets state next) : next.shared.Begun := by
  cases move with
  | apart untouched => exact begun.uninvolved untouched
  | discards =>
      exact begun.same (fun _ member => List.mem_append_left _ (List.mem_append_left _ member))
        (fun _ => id) rfl
  | reconnects task reply choice met effects => exact begun.reconnects effects
  | shifts transaction untouched => exact begun.uninvolved untouched
  | begun transaction left connection =>
      have written : .wrote connection (beginFrame transaction) ∈
          (state.shared.noteWritten connection (beginFrame transaction)).trace := by
        simp [Shared.noteWritten, Shared.emit]
      have kept : (state.shared.noteWritten connection (beginFrame transaction)).Begun :=
        begun.same (List.subset_append_left _ _) (fun _ => id) rfl
      refine ⟨?_, ?_⟩
      · intro other member
        simp only [State.shared_store, Shared.trace_addTransaction] at member ⊢
        rcases (Shared.mem_addTransaction _ _ _).mp member with earlier | rfl
        · exact kept.listed other earlier
        · exact ⟨connection, written⟩
      · intro on walk other frame underway
        simp only [State.shared_store, Shared.trace_addTransaction] at underway ⊢
        rw [Shared.handshake_congr (Shared.reconnect_addTransaction _ _)] at underway
        exact kept.replayed on walk other frame underway
  | calls => exact begun.same (List.subset_append_left _ _) (fun _ => id) rfl
  | hands => exact begun.same (List.subset_append_left _ _) (fun _ => id) rfl
  | writes => exact begun.same (List.subset_append_left _ _) (fun _ => id) rfl
  | commits =>
      exact begun.same (fun _ member => List.mem_append_left _ (List.mem_append_left _ member))
        (fun _ => id) rfl
  | postpones => exact begun.same (List.subset_append_left _ _) (fun _ => id) rfl
  | aborts =>
      exact begun.same (fun _ member => List.mem_append_left _ (List.mem_append_left _ member))
        (fun _ => id) rfl
  | forgets transaction =>
      refine Shared.Begun.removes ?_ transaction
      exact begun.same (List.subset_append_left _ _) (fun _ => id) rfl
  | committed transaction =>
      refine Shared.Begun.removes ?_ transaction
      exact begun.same (List.subset_append_left _ _) (fun _ => id) rfl
  | aborted transaction writing standing untouched =>
      exact (begun.uninvolved untouched).removes transaction

end Shared.Begun

section Reached

variable {settings : Settings} {allowed : State → Action → Prop} {state : State}

theorem begun_of_reaches (reach : (client settings).Reaches allowed state) :
    state.shared.Begun :=
  @invariant_of_transactionMoves settings allowed (fun state => state.shared.Begun)
    ⟨by simp [client], by simp [client, Shared.handshake]⟩
    (fun _ begun move => begun.transactionMove move) state reach

theorem recorded_of_reaches (reach : (client settings).Reaches allowed state) : state.Recorded :=
  invariant_of_transactionMoves (recorded_initial settings)
    (fun _ recorded move => recorded.transactionMove move) reach

theorem placed_of_reaches (reach : (client settings).Reaches allowed state) : state.Placed :=
  invariant_of_moves (placed_initial settings) (fun _ placed _ begins => placed.begins begins)
    (fun _ placed reacts => placed.reacts reacts) reach

end Reached

/-! ## Runs -/

/-- `Client.send` is not given the header of a transaction. -/
def Action.avoids (transaction : String) : Action → Bool
  | .send _ arguments =>
      (arguments.headers.getD Dict.empty).get? "transaction" ≠ some transaction
  | _ => true

/-- What a frame of a transaction requires of the events before it. -/
def Event.Opened (transaction : String) (event : Event) (before : List Event) : Prop :=
  ∀ connection type, event.writtenFor connection transaction = some type →
    type = .begin ∨ (type = .send ∨ type = .commit ∨ type = .abort) ∧
      ∃ other, .begin ∈ framesFor other transaction before

/-- The frames of a transaction on every connection, as far as the block has come. -/
structure State.Framed (transaction : String) (state : State) : Prop where
  block : (state.tasks (.transaction transaction)).stage.Framed transaction state.shared.trace
  opened : EveryAfter (Event.Opened transaction) state.shared.trace

theorem Unwritten.opened {transaction : String} {trace events : List Event}
    (silent : Unwritten transaction events) (opened : EveryAfter (Event.Opened transaction) trace) :
    EveryAfter (Event.Opened transaction) (trace ++ events) := by
  refine opened.append_of_free ?_
  intro event member before connection type written
  rw [silent event member connection] at written
  contradiction

/-- Events other than the end of a write. -/
theorem unwritten_of_pending {transaction : String} {events : List Event}
    (pending : ∀ connection frame, .wrote connection frame ∉ events) :
    Unwritten transaction events := by
  intro event member connection
  cases event with
  | wrote other frame => exact absurd member (pending other frame)
  | _ => rfl

theorem unwritten_nil (transaction : String) : Unwritten transaction [] :=
  unwritten_of_pending (by simp)

/-- A frame that is not of the transaction. -/
theorem unwritten_wrote {transaction : String} {frame : Frame}
    (other : frame.transaction? ≠ some transaction) (connection : ConnectionId) :
    Unwritten transaction [.wrote connection frame] :=
  List.forall_mem_singleton.mpr (Event.writtenFor_wrote other connection)

/-- The frames that connecting writes: only a replay writes frames of a transaction. -/
theorem Shared.Reconnects.writes {settings : Settings} {task : TaskId} {shared after : Shared}
    {reply : Reply} {progress : Progress Unit ConnectionId}
    (effects : shared.Reconnects settings task reply after progress) :
    ∃ events, after.trace = shared.trace ++ events ∧
      ((∀ transaction, Unwritten transaction events) ∨
        ∃ connection walk current frame rest,
          shared.handshake = some (connection, .replaying walk current frame) ∧
            events = .wrote connection (replayedFrame current frame) :: rest ∧
              ∀ connection frame, .wrote connection frame ∉ rest) := by
  have quiet : ∀ {events : List Event}, (∀ connection frame, .wrote connection frame ∉ events) →
      ∀ transaction, Unwritten transaction events :=
    fun pending _ => unwritten_of_pending pending
  -- A handshake goes on after what it has written.
  have continues : ∀ {reconnect connection point base rest walk} (later : List Event),
      shared.reconnect = some reconnect → reconnect.phase = .entering connection point →
      shared.Ready settings connection reply point base rest walk →
      (∀ connection frame, .wrote connection frame ∉ later) →
      ∃ events, base.trace ++ later = shared.trace ++ events ∧
        ((∀ transaction, Unwritten transaction events) ∨
          ∃ connection walk current frame rest,
            shared.handshake = some (connection, .replaying walk current frame) ∧
              events = .wrote connection (replayedFrame current frame) :: rest ∧
                ∀ connection frame, .wrote connection frame ∉ rest) := by
    intro reconnect connection point base rest walk later locked phase ready pending
    refine ⟨writtenBy connection point ++ later, ready.base.trace_append later, ?_⟩
    cases point with
    | writingConnect => exact .inl (quiet pending)
    | readingConnected => exact .inl (quiet pending)
    | resubscribing current remaining =>
        refine .inl fun transaction event member other => ?_
        rcases List.mem_cons.mp member with rfl | late
        · exact Event.writtenFor_wrote (by simp [Frame.transaction?, Subscription.frame,
            subscribeFrame, Frame.bodyless]) _ _
        · exact quiet pending transaction event late other
    | replaying entered current frame =>
        exact .inr ⟨connection, entered, current, frame, later,
          Shared.handshake_of_phase locked phase, rfl, pending⟩
  cases effects with
  | interrupted => exact ⟨[], by simp, .inl (quiet (by simp))⟩
  | found => exact ⟨[], by simp, .inl (quiet (by simp))⟩
  | races => exact ⟨[], by simp [hold], .inl (quiet (by simp))⟩
  | sleeps => exact ⟨[], by simp [hold], .inl (quiet (by simp))⟩
  | leaves => exact ⟨[], by simp [leaveRace, release], .inl (quiet (by simp))⟩
  | opens => exact ⟨_, List.append_assoc _ _ _, .inl (quiet (by simp))⟩
  | fails => exact ⟨[_], rfl, .inl (quiet (by simp))⟩
  | asks =>
      refine ⟨[_], rfl, .inl fun transaction event member other => ?_⟩
      obtain rfl := List.mem_singleton.mp member
      exact Event.writtenFor_wrote (by simp [Frame.transaction?, connectFrame, Frame.bodyless]) _ _
  | collects => exact ⟨[], by simp [hold], .inl (quiet (by simp))⟩
  | subscribes reconnect locked owned connection point phase subscription remaining ready =>
      exact continues [.handed connection subscription.frame] locked phase ready (by simp)
  | replays reconnect locked owned connection walk current index frame phase =>
      rw [replayFrame_eq]
      exact ⟨_, List.append_assoc _ _ _, .inr ⟨connection, walk, current, some (index, frame), _,
        Shared.handshake_of_phase locked phase, rfl, by simp⟩⟩
  | picks reconnect locked owned connection point phase ready transaction =>
      rw [replayFrame_eq]
      exact continues [.handed connection _] locked phase ready (by simp)
  | changed reconnect locked owned connection point phase ready =>
      exact continues [.closed connection] locked phase ready (by simp)
  | finishes reconnect locked owned connection point phase ready =>
      have going := continues [.activated connection] locked phase ready (by simp)
      exact going

namespace State.Framed

variable {settings : Settings} {transaction : String} {state : State}

/-- No frame of the transaction is written. -/
theorem grows (framed : state.Framed transaction) {next : State} (events : List Event)
    (trace_eq : next.shared.trace = state.shared.trace ++ events)
    (silent : Unwritten transaction events)
    (stage : (next.tasks (.transaction transaction)).stage =
        (state.tasks (.transaction transaction)).stage ∨
      (next.tasks (.transaction transaction)).stage = .ended) : next.Framed transaction := by
  refine ⟨?_, ?_⟩
  · rw [trace_eq]
    rcases stage with same | ended
    · rw [same]
      exact framed.block.unwritten silent
    · rw [ended]
      exact framed.block.ends.unwritten silent
  · rw [trace_eq]
    exact silent.opened framed.opened

@[inherit_doc State.Framed.grows]
theorem store (framed : state.Framed transaction) {task : TaskId} {resumed : Resumed}
    (events : List Event) (trace_eq : resumed.shared.trace = state.shared.trace ++ events)
    (silent : Unwritten transaction events)
    (own : task = .transaction transaction →
      resumed.point.stage = (state.tasks task).stage ∨ resumed.point.stage = .ended)
    (spawned : ∀ other point, resumed.spawned = some (other, point) →
      other ≠ .transaction transaction) : (state.store task resumed).Framed transaction := by
  refine framed.grows events trace_eq silent ?_
  refine State.forall_tasks_store (fun other point => other = .transaction transaction →
    point.stage = (state.tasks (.transaction transaction)).stage ∨ point.stage = .ended)
    ?_ ?_ ?_ _ rfl
  · rintro other - rfl
    exact .inl rfl
  · rintro rfl
    exact own rfl
  · intro other point created same
    exact absurd same (spawned other point created)

/-- A frame of the transaction is written. -/
theorem writes (framed : state.Framed transaction) {next : State} {connection : ConnectionId}
    {frame : Frame} {events : List Event}
    (trace_eq : next.shared.trace = state.shared.trace ++ .wrote connection frame :: events)
    (silent : Unwritten transaction events)
    (justified : frame.type = .begin ∨
      (frame.type = .send ∨ frame.type = .commit ∨ frame.type = .abort) ∧
        ∃ other, .begin ∈ framesFor other transaction state.shared.trace)
    (block : (next.tasks (.transaction transaction)).stage.Framed transaction next.shared.trace) :
    next.Framed transaction := by
  refine ⟨block, ?_⟩
  have split : next.shared.trace = (state.shared.trace ++ [.wrote connection frame]) ++ events := by
    simp [trace_eq]
  rw [split]
  refine silent.opened (framed.opened.concat ?_)
  intro other type written
  obtain ⟨-, rfl⟩ : (connection = other ∧ frame.transaction? = some transaction) ∧
      frame.type = type := by simpa [Event.writtenFor] using written
  exact justified

/-- The handshake replays. -/
theorem reconnects (framed : state.Framed transaction) (placed : state.shared.Placed)
    (recorded : state.shared.Recorded) (begun : state.shared.Begun) {task : TaskId} {reply : Reply}
    {after : Shared} {progress : Progress Unit ConnectionId}
    (effects : state.shared.Reconnects settings task reply after progress) :
    ({ state with shared := after } : State).Framed transaction := by
  obtain ⟨events, trace_eq, silent | ⟨connection, walk, current, written, rest, underway, rfl,
    pending⟩⟩ := effects.writes
  · exact framed.grows events trace_eq (silent transaction) (.inl rfl)
  · have frames : (Shared.replayedFrame current written).transaction? = some current ∧
        ((Shared.replayedFrame current written).type = .send ∨
          (Shared.replayedFrame current written).type = .commit) := by
      cases written with
      | none => exact ⟨Frame.transaction?_commitFrame current, .inr rfl⟩
      | some pair =>
          obtain ⟨index, frame⟩ := pair
          have sent := recorded.replayed connection walk current index frame underway
          obtain ⟨arguments, rfl⟩ := recorded.sends current frame (List.mem_of_getElem? sent)
          exact ⟨Frame.transaction?_sendFrame_some arguments current, .inl rfl⟩
    have silent : Unwritten transaction rest := unwritten_of_pending pending
    by_cases same : current = transaction
    · subst same
      obtain ⟨earlier, member⟩ := begun.replayed connection walk current written underway
      have present : .begin ∈ framesFor earlier current state.shared.trace :=
        List.mem_filterMap.mpr ⟨_, member, by simp [Event.writtenFor, beginFrame,
          transactionFrame, Frame.bodyless, Frame.transaction?, Dict.get?_set]⟩
      refine framed.writes trace_eq silent (.inr ⟨?_, earlier, present⟩) ?_
      · exact frames.2.imp_right .inl
      · rw [trace_eq]
        refine framed.block.replayed ?_ (placed.handshake connection _ underway).2 frames.1
          ?_ silent
        · intro unbegun
          have block := framed.block
          rw [unbegun] at block
          rw [block earlier] at present
          contradiction
        · rcases frames.2 with send | commit <;> simp [*]
    · refine framed.grows _ trace_eq ?_ (.inl rfl)
      intro event member other
      rcases List.mem_cons.mp member with rfl | late
      · exact Event.writtenFor_wrote (by simp [frames.1, same]) _ _
      · exact silent event late other

/-- The frame of a job is written. -/
theorem completes (framed : state.Framed transaction) (placed : state.Placed)
    (given : state.Given fun frame => frame.transaction? ≠ some transaction) {task : TaskId}
    {job : Job} (runs : job.Runs task) {left : Nat} {connection : ConnectionId}
    (standing : state.tasks task = job.point (.writing left connection)) :
    (state.store task (job.completed
      (state.shared.noteWritten connection job.frame))).Framed transaction := by
  have block := framed.block
  cases job with
  | send frame =>
      obtain ⟨⟨number, rfl⟩, -⟩ := runs
      refine framed.store [.wrote connection frame] rfl (unwritten_wrote ?_ _) (by simp)
        (by simp [Job.completed])
      exact given (.call number) frame (by rw [standing]; rfl)
  | subscribe subscription =>
      obtain rfl := runs
      exact framed.store [.wrote connection subscription.frame] rfl
        (unwritten_wrote (by simp [Frame.transaction?, Subscription.frame, subscribeFrame,
          Frame.bodyless]) _) (by simp) (by simp [Job.completed])
  | begin own =>
      obtain rfl := runs
      by_cases same : own = transaction
      · subst same
        have activated := placed.tasks _ connection (by rw [standing]; rfl)
        rw [standing] at block
        have trace_eq : (state.store (.transaction own) ((Job.begin own).completed
            (state.shared.noteWritten connection (Job.begin own).frame))).shared.trace =
              state.shared.trace ++ [.wrote connection (Job.begin own).frame] := by
          simp only [Job.completed, State.shared_store, Shared.trace_addTransaction]
          rfl
        refine framed.writes trace_eq (unwritten_nil _) (.inl rfl) ?_
        rw [trace_eq, State.tasks_store_of_unspawned rfl]
        exact block.begins activated
      · refine framed.store [.wrote connection (beginFrame own)] ?_
          (unwritten_wrote (by simp [same]) _) (by simp [same]) (by simp [Job.completed])
        simp only [Job.completed, Shared.trace_addTransaction]
        rfl
  | transact own failed frame =>
      obtain ⟨rfl, arguments, rfl⟩ := runs
      by_cases same : own = transaction
      · subst same
        rw [standing] at block
        refine framed.writes rfl (unwritten_nil _) (.inr ⟨.inl rfl, ?_⟩) ?_
        · obtain ⟨earlier, count, -, frames, -⟩ := block
          exact ⟨earlier, by rw [frames]; exact List.mem_cons_self⟩
        · rw [State.tasks_store_of_unspawned rfl]
          exact block.sends connection (Frame.transaction?_sendFrame_some arguments own) rfl
      · exact framed.store [.wrote connection (sendFrame arguments (some own))] rfl
          (unwritten_wrote (by simp [same]) _) (by simp [same]) (by simp [Job.completed])

/-- The frame of a duty is written. -/
theorem fulfils (framed : state.Framed transaction)
    (given : state.Given fun frame => frame.transaction? ≠ some transaction) {task : TaskId}
    {duty : Duty} (runs : duty.Runs task) {connection : ConnectionId}
    (standing : state.tasks task = duty.point (.writing connection)) :
    (state.store task (duty.completed true
      (state.shared.noteWritten connection duty.frame))).Framed transaction := by
  have block := framed.block
  have ended := duty.ends_completed true (state.shared.noteWritten connection duty.frame)
  obtain ⟨events, trace_eq, listed⟩ := ended.trace
  have pending : ∀ on frame, .wrote on frame ∉ events := by
    intro on frame member
    rcases listed _ member with ⟨id, -, same⟩ | ⟨number, same⟩ <;> simp at same
  have split : (duty.completed true
      (state.shared.noteWritten connection duty.frame)).shared.trace =
        state.shared.trace ++ .wrote connection duty.frame :: events := by
    rw [trace_eq]
    exact List.append_assoc _ _ _
  have foreign : duty.frame.transaction? ≠ some transaction → task ≠ .transaction transaction →
      (state.store task (duty.completed true
        (state.shared.noteWritten connection duty.frame))).Framed transaction := by
    intro other elsewhere
    refine framed.store _ split ?_ (fun same => absurd same elsewhere) (by simp [ended.spawned])
    intro event member on
    rcases List.mem_cons.mp member with rfl | late
    · exact Event.writtenFor_wrote other _ _
    · exact unwritten_of_pending pending event late on
  -- COMMIT and ABORT of the block itself end it.
  have finishes : task = .transaction transaction → duty.frame.transaction? = some transaction →
      duty.frame.type = .commit ∨ duty.frame.type = .abort →
      (duty.point (.writing connection)).stage = .within →
      (duty.completed true (state.shared.noteWritten connection duty.frame)).point.stage = .ended →
      (state.store task (duty.completed true
        (state.shared.noteWritten connection duty.frame))).Framed transaction := by
    rintro rfl named last within left
    rw [standing, within] at block
    refine framed.writes split (unwritten_of_pending pending) (.inr ⟨.inr last, ?_⟩) ?_
    · obtain ⟨earlier, count, -, frames, -⟩ := block
      exact ⟨earlier, by rw [frames]; exact List.mem_cons_self⟩
    · rw [State.tasks_store_of_unspawned ended.spawned, left, State.shared_store, split]
      have finished :=
        (block.finishes connection named last).unwritten (unwritten_of_pending pending)
      simpa using finished
  have ends : ∀ own, task = .transaction own → duty = .abort own ∨ duty = .commit own →
      (state.store task (duty.completed true
        (state.shared.noteWritten connection duty.frame))).Framed transaction := by
    intro own holder either
    have named : duty.frame.transaction? = some own := by
      rcases either with rfl | rfl
      · exact Frame.transaction?_abortFrame own
      · exact Frame.transaction?_commitFrame own
    by_cases same : own = transaction
    · subst same
      refine finishes holder named ?_ ?_ (duty.stage_completed _ _)
      · rcases either with rfl | rfl
        · exact .inr rfl
        · exact .inl rfl
      · rcases either with rfl | rfl <;> rfl
    · exact foreign (by simp [named, same]) (by simp [holder, same])
  cases duty with
  | unsubscribe id =>
      obtain ⟨number, rfl⟩ := runs
      exact foreign (by simp [Duty.frame, Frame.transaction?, unsubscribeFrame, Frame.bodyless])
        (by simp)
  | abort own => exact ends own runs (.inl rfl)
  | commit own => exact ends own runs (.inr rfl)
  | settle delivery frame suppressed =>
      obtain ⟨⟨number, rfl⟩, -⟩ := runs
      exact foreign (given (.handler number) frame (by rw [standing]; rfl)) (by simp)
  | acknowledge delivery frame =>
      obtain ⟨⟨number, rfl⟩, -⟩ := runs
      exact foreign (given (.call number) frame (by rw [standing]; rfl)) (by simp)

/-- A duty ends without a frame. -/
theorem drops (framed : state.Framed transaction) {task : TaskId} {duty : Duty} {shared : Shared}
    (events : List Event) (trace_eq : shared.trace = state.shared.trace ++ events)
    (pending : ∀ connection frame, .wrote connection frame ∉ events) (written : Bool) :
    (state.store task (duty.completed written shared)).Framed transaction := by
  have ended := duty.ends_completed written shared
  obtain ⟨more, more_eq, listed⟩ := ended.trace
  refine framed.store (events ++ more) (by rw [more_eq, trace_eq, List.append_assoc])
    (unwritten_of_pending ?_) (fun _ => .inr (duty.stage_completed _ _)) (by simp [ended.spawned])
  intro connection frame member
  rcases List.mem_append.mp member with early | late
  · exact pending connection frame early
  · rcases listed _ late with ⟨id, -, same⟩ | ⟨number, same⟩ <;> simp at same

theorem begins {action : Action} {middle : State} (framed : state.Framed transaction)
    (placed : state.Placed) (recorded : state.Recorded) (begun : state.shared.Begun)
    (given : state.Given fun frame => frame.transaction? ≠ some transaction)
    (begins : Begins settings state action middle) : middle.Framed transaction := by
  cases begins with
  | idles => exact framed
  | reconnects task reply choice effects =>
      exact framed.reconnects placed.shared recorded.shared begun effects
  | calls _ task job asked absent left =>
      refine framed.store [] (by simp) (unwritten_nil _) ?_ (by simp)
      rintro rfl
      cases action with
      | begin own =>
          obtain ⟨-, rfl⟩ := Prod.mk.inj (Option.some.inj asked)
          rw [absent]
          exact .inl rfl
      | _ => simp [Action.job?] at asked
  | sends own arguments failed inside left =>
      refine framed.store [_] rfl (unwritten_of_pending (by simp)) ?_ (by simp)
      intro
      rw [inside]
      exact .inl rfl
  | writes task choice job runs left connection standing =>
      exact framed.completes placed given runs standing
  | hands asked connection active =>
      cases asked with
      | unsubscribe =>
          exact framed.store _ (List.append_assoc _ _ _) (unwritten_of_pending (by simp)) (by simp)
            (by simp)
      | commit own failed inside =>
          refine framed.store _ (List.append_assoc _ _ _) (unwritten_of_pending (by simp)) ?_
            (by simp)
          intro
          rw [inside]
          exact .inl rfl
      | abort own failed inside =>
          refine framed.store _ (List.append_assoc _ _ _) (unwritten_of_pending (by simp)) ?_
            (by simp)
          intro
          rw [inside]
          exact .inl rfl
  | skips asked => cases asked <;> exact framed.drops [_] rfl (by simp) false
  | fulfils task reply choice duty runs connection standing =>
      exact framed.fulfils given runs standing
  | drops => exact framed.drops [] (by simp) (by simp) false
  | acknowledges action task aside duty runs settles =>
      refine framed.store _ (List.append_assoc _ _ _) (unwritten_of_pending (by simp)) ?_ (by simp)
      rintro rfl
      cases duty with
      | settle => simp [Duty.Runs] at runs
      | acknowledge => simp [Duty.Runs] at runs
      | unsubscribe => simp [Duty.Runs] at runs
      | _ => simp [Duty.frame, abortFrame, commitFrame, transactionFrame, Frame.bodyless] at settles
  | takes => exact framed.store [_] rfl (unwritten_of_pending (by simp)) (by simp) (by simp)

theorem reacts {after : State} (framed : state.Framed transaction) (reacts : Reacts state after) :
    after.Framed transaction := by
  cases reacts with
  | hands task job runs writing standing =>
      refine framed.store [_] rfl (unwritten_of_pending (by simp)) ?_ (by simp)
      intro
      rw [standing]
      exact .inl (job.stage_point _ _)
  | waits task job runs writing standing =>
      refine framed.store [] (by simp) (unwritten_nil _) ?_ (by simp)
      intro
      rw [standing]
      exact .inl (job.stage_point _ _)
  | fails task job runs writing standing =>
      refine framed.store [] (by simp) (unwritten_nil _) ?_ (by simp)
      intro
      rw [standing]
      cases job with
      | transact => exact .inl rfl
      | _ => exact .inr rfl
  | loses task duty runs connection standing =>
      refine framed.store [] (by simp) (unwritten_nil _) ?_ (by simp)
      intro
      rw [standing]
      exact .inl (duty.stage_point _ _)
  | breaks task duty =>
      refine framed.store [] (by simp) (unwritten_nil _) (fun _ => .inr ?_) (by simp)
      cases duty <;> rfl
  | discards =>
      exact framed.grows _ (List.append_assoc _ _ _) (unwritten_of_pending (by simp)) (.inl rfl)
  | opens => exact framed.grows [_] rfl (unwritten_of_pending (by simp)) (.inl rfl)
  | beats => exact framed.grows [_] rfl (unwritten_of_pending (by simp)) (.inl rfl)
  | reports => exact framed.grows [_] rfl (unwritten_of_pending (by simp)) (.inl rfl)
  | creates =>
      refine framed.store [_] rfl (unwritten_of_pending (by simp)) (by simp) ?_
      intro other point created
      obtain ⟨rfl, -⟩ := Prod.mk.inj (Option.some.inj created)
      simp
  | stops => exact framed.store [] (by simp) (unwritten_nil _) (by simp) (by simp)
  | elsewhere changes =>
      refine framed.grows [] (by simp [changes.shared.trace]) (unwritten_nil _) ?_
      rcases changes.tasks (.transaction transaction) with same | ⟨background, -⟩
      · exact .inl (by rw [same])
      · exact absurd background id

end State.Framed

section Trace

variable {connection : ConnectionId} {transaction : String} {trace : List Event}

/-- The first frame of a transaction on a connection. -/
theorem exists_first_framesFor (filled : framesFor connection transaction trace ≠ []) :
    ∃ before event later type, trace = before ++ event :: later ∧
      event.writtenFor connection transaction = some type ∧
        framesFor connection transaction before = [] := by
  induction trace with
  | nil => exact absurd rfl filled
  | cons event trace ih =>
      cases written : event.writtenFor connection transaction with
      | some type => exact ⟨[], event, trace, type, rfl, written, rfl⟩
      | none =>
          have skipped : ∀ events, framesFor connection transaction (event :: events) =
              framesFor connection transaction events :=
            fun _ => List.filterMap_cons_none written
          rw [skipped] at filled
          obtain ⟨before, first, later, type, rfl, found, unwritten⟩ := ih filled
          exact ⟨event :: before, first, later, type, rfl, found, (skipped before).trans unwritten⟩

/-- Frames without BEGIN are SENDs as far as the first COMMIT or ABORT. -/
theorem exists_sends {types : List FrameType}
    (listed : ∀ type ∈ types, type = .send ∨ type = .commit ∨ type = .abort) :
    ∃ count last rest, (last = .commit ∨ last = .abort) ∧
      (types = List.replicate count .send ∨
        types = List.replicate count .send ++ last :: rest) := by
  induction types with
  | nil => exact ⟨0, .commit, [], .inl rfl, .inl rfl⟩
  | cons type types ih =>
      obtain ⟨first, others⟩ := List.forall_mem_cons.mp listed
      rcases first with rfl | ends
      · obtain ⟨count, last, rest, ended, either⟩ := ih others
        refine ⟨count + 1, last, rest, ended, ?_⟩
        rcases either with rfl | rfl
        · exact .inl rfl
        · exact .inr rfl
      · exact ⟨0, type, types, ends, .inr rfl⟩

theorem continues_of_opened (opened : EveryAfter (Event.Opened transaction) trace)
    (bare : .begin ∉ framesFor connection transaction trace)
    (filled : framesFor connection transaction trace ≠ []) :
    Continues connection transaction trace := by
  refine ⟨?_, bare, exists_sends ?_⟩
  · obtain ⟨before, event, later, type, rfl, written, unwritten⟩ := exists_first_framesFor filled
    have other : type ≠ .begin := by
      rintro rfl
      refine bare ?_
      rw [framesFor_append]
      exact List.mem_append_right _ (List.mem_filterMap.mpr ⟨event, List.mem_cons_self, written⟩)
    obtain ⟨-, earlier, begun⟩ :=
      (opened before event later rfl connection type written).resolve_left other
    refine ⟨earlier, before, event :: later, ?_, rfl, begun, unwritten⟩
    rintro rfl
    rw [unwritten] at begun
    contradiction
  · intro type member
    obtain ⟨event, present, written⟩ := List.mem_filterMap.mp member
    obtain ⟨before, later, split⟩ := List.append_of_mem present
    rcases opened before event later split connection type written with rfl | ⟨listed, -⟩
    · exact absurd member bare
    · exact listed

end Trace

theorem bracket_or_continues_of_reaches {settings : Settings} {transaction : String}
    {state : State}
    (reach : (client settings).Reaches
      (fun _ action => action.avoids transaction = true) state) (connection : ConnectionId) :
    Bracket (framesFor connection transaction state.shared.trace) ∨
      Continues connection transaction state.shared.trace := by
  have given : ∀ {state : State}, (client settings).Reaches
      (fun _ action => action.avoids transaction = true) state →
        state.Given fun frame => frame.transaction? ≠ some transaction := by
    intro state reach
    refine invariant_of_moves ?_ ?_ (fun _ known reacts => known.reacts reacts) reach
    · intro task frame same
      cases task <;> simp [client, initialTasks, Point.given] at same
    · intro before middle action fits known avoids begins
      refine known.begins ?_ ?_ begins
      · rintro number arguments rfl
        rw [Frame.transaction?_sendFrame_none]
        simpa [Action.avoids] using avoids
      · intro type ackId subscription settles
        simp [Frame.transaction?_settleFrame]
  have framed : state.Framed transaction := by
    refine invariant_of_beginnings ?_ ?_ (fun _ framed reacts => framed.reacts reacts) reach
    · exact ⟨fun _ => rfl, EveryAfter.nil⟩
    · intro before middle action reached fits framed avoids begins
      exact framed.begins (placed_of_reaches reached) (recorded_of_reaches reached)
        (begun_of_reaches reached) (given reached) begins
  by_cases begun : .begin ∈ framesFor connection transaction state.shared.trace
  · exact .inl (framed.block.ends connection begun).2
  · by_cases empty : framesFor connection transaction state.shared.trace = []
    · rw [empty]
      exact .inl bracket_nil
    · exact .inr (continues_of_opened framed.opened begun empty)

/-- In a run in which no header map is written to while a frame refers to it, every frame is dumped
as it was built, and on every connection the frames of a transaction that no `Client.send` names are
bracketed, or they continue a transaction that was begun on another connection. -/
theorem bracket_or_continues {settings : Settings} {transaction : String} {lending : Lending}
    (reach : (lends settings).Reaches
      (Lending.Meets fun _ action => action.avoids transaction = true) lending) :
    lending.Faithful ∧ ∀ connection,
      Bracket (framesFor connection transaction lending.state.shared.trace) ∨
        Continues connection transaction lending.state.shared.trace :=
  ⟨Lending.faithful_of_reaches (reach.mono fun _ _ => And.left),
    bracket_or_continues_of_reaches (Lending.client_of_reaches reach)⟩

/-- A block whose SEND is written on two connections, and was given a map. -/
theorem bracket_or_continues_replaysAfterExit :
    ∃ lending, (lends plainSettings).Reaches
        (Lending.Meets fun _ action => action.avoids "t" = true) lending ∧
      (framesFor 0 "t" lending.state.shared.trace = [.begin, .send] ∧
        framesFor 1 "t" lending.state.shared.trace = [.send, .commit] ∧
        lending.held.length = 1) ∧
      lending.Faithful ∧ ∀ connection,
        Bracket (framesFor connection "t" lending.state.shared.trace) ∨
          Continues connection "t" lending.state.shared.trace := by
  have replayed : ((lends plainSettings).replay (Lending.test fun _ action => action.avoids "t")
      (lends plainSettings).initial
      (.create Lending.plainHeaders :: replaysAfterExit.map (Lending.giving 0))).map
        (fun lending => decide (framesFor 0 "t" lending.state.shared.trace = [.begin, .send] ∧
          framesFor 1 "t" lending.state.shared.trace = [.send, .commit] ∧
          lending.held.length = 1)) = some true := by
    decide +kernel
  obtain ⟨lending, reach, happened⟩ :=
    System.exists_of_replay (Lending.meets_of_test fun _ _ passes => passes) replayed
  exact ⟨lending, reach, of_decide_eq_true happened, bracket_or_continues reach⟩

theorem Bracket.head {type : FrameType} {types : List FrameType}
    (bracket : Bracket (type :: types)) :
    type = .begin := by
  obtain ⟨count, last, -, leads⟩ := bracket
  exact (List.cons_prefix_cons.mp leads).1

/-- `Client.send` is given the header of a transaction. -/
def sendsNamed : List Action :=
  enters ++ [.send 0 { plainArguments with headers := some (Dict.empty.set "transaction" "t") },
    returns (.call 0)]

/-- A replay writes SEND and COMMIT without BEGIN; so does `Client.send` with the header of a
transaction, without any transaction block. -/
theorem not_forall_bracketed :
    (¬ ∀ state, (client plainSettings).Reaches (fun _ action => action.avoids "t" = true) state →
      Bracketed state.shared.trace) ∧
    ¬ ∀ state, (client plainSettings).Reaches
      (fun _ action => ∀ transaction, action ≠ .begin transaction) state →
        Bracketed state.shared.trace := by
  refine ⟨?_, ?_⟩
  · intro always
    have replayed : ((client plainSettings).replay (fun _ action => action.avoids "t")
        (client plainSettings).initial replaysAfterExit).map
          (fun state => decide (framesFor 1 "t" state.shared.trace = [.send, .commit])) =
            some true := by
      decide +kernel
    obtain ⟨state, reach, frames⟩ := System.exists_of_replay (fun _ _ passes => passes) replayed
    have bracket := always state reach 1 "t"
    rw [of_decide_eq_true frames] at bracket
    exact absurd bracket.head (by decide)
  · intro always
    have replayed : ((client plainSettings).replay
        (fun _ action => match action with | .begin _ => false | _ => true)
        (client plainSettings).initial sendsNamed).map
          (fun state => decide (framesFor 0 "t" state.shared.trace = [.send])) = some true := by
      decide +kernel
    have sound : ∀ (_ : State) (action : Action),
        (match action with | .begin _ => false | _ => true) = true →
          ∀ transaction, action ≠ .begin transaction := by
      rintro - action passes transaction rfl
      contradiction
    obtain ⟨state, reach, frames⟩ := System.exists_of_replay sound replayed
    have bracket := always state reach 0 "t"
    rw [of_decide_eq_true frames] at bracket
    exact absurd bracket.head (by decide)

end Stompman
