import Stompman.Transactions

/-!
# Only blocks that have been left without an exception are committed

COMMIT is written by `Transaction.__aexit__` and by the replay in a handshake.  The replay takes
every transaction of the active set, whatever its block is doing, so that a run is safe only if the
replay never meets a transaction whose block has not been left, or was left with an exception.
-/

namespace Stompman

open Foundation

/-- Every COMMIT of the trace follows the exit of its block. -/
def CommitsFollowExit (trace : List Event) : Prop :=
  EveryAfter (fun event before => ∀ transaction, event.commits transaction = true →
    .exited transaction true ∈ before) trace

/-- A transaction is committed only after its block has been left without an exception; if it was
left with one, never. -/
def AllOrNothing (trace : List Event) : Prop :=
  CommitsFollowExit trace ∧ ∀ transaction, .exited transaction false ∈ trace →
    ∀ event ∈ trace, event.commits transaction = false

/-- The step does not take a handshake to transactions other than those whose blocks have been left
without an exception. -/
def replaysExited (settings : Settings) (state : State) : Action → Bool
  | .resume task reply _ =>
      !state.shared.entersReplay settings task reply ||
        state.shared.transactions.all fun transaction =>
          .exited transaction true ∈ state.shared.trace
  | _ => true

/-- The invariant behind the order of exits and commits. -/
structure Honest (state : State) : Prop where
  recorded : state.Recorded
  commits : CommitsFollowExit state.shared.trace
  replaying : ∀ connection walk transaction frame,
    state.shared.handshake = some (connection, .replaying walk transaction frame) →
      .exited transaction true ∈ state.shared.trace
  committing : ∀ transaction writing,
    state.tasks (.transaction transaction) = .committing writing →
      .exited transaction true ∈ state.shared.trace

theorem CommitsFollowExit.append {trace events : List Event} (follow : CommitsFollowExit trace)
    (each : ∀ event ∈ events, ∀ transaction, event.commits transaction = true →
      .exited transaction true ∈ trace) : CommitsFollowExit (trace ++ events) :=
  EveryAfter.append follow
    (fun _ _ _ earlier transaction commits => List.mem_append_left _ (earlier transaction commits))
    each

namespace Honest

variable {settings : Settings} {state : State}

theorem uninvolved (honest : Honest state) {shared : Shared}
    (uninvolved : Uninvolved state shared) :
    CommitsFollowExit shared.trace ∧ state.shared.trace ⊆ shared.trace := by
  obtain ⟨events, trace_eq, unrelated⟩ := uninvolved.trace
  rw [trace_eq]
  refine ⟨honest.commits.append ?_, List.subset_append_left _ _⟩
  intro event member transaction commits
  have apart := unrelated event member
  cases event with
  | handed connection frame =>
      simp [Event.commits, Frame.commits_eq_false apart.1] at commits
  | wrote connection frame =>
      simp [Event.commits, Frame.commits_eq_false apart.1] at commits
  | _ => simp [Event.commits] at commits

/-- The frame that a replay writes: COMMIT of its transaction or one of its SENDs. -/
theorem commits_replayedFrame (honest : Honest state) {connection : ConnectionId} {walk : Walk}
    {own : String} {frame : Option (Nat × Frame)}
    (current : state.shared.handshake = some (connection, .replaying walk own frame))
    {transaction : String}
    (commits : (Shared.replayedFrame own frame).commits transaction = true) :
    own = transaction := by
  cases frame with
  | none => simpa [Shared.replayedFrame, Frame.commits_commitFrame] using commits
  | some pair =>
      obtain ⟨index, frame⟩ := pair
      have listed := honest.recorded.shared.replayed connection walk own index frame current
      obtain ⟨arguments, rfl⟩ :=
        honest.recorded.shared.sends own frame (List.mem_of_getElem? listed)
      simp [Shared.replayedFrame, Frame.commits, sendFrame] at commits

theorem commits_writtenBy (honest : Honest state) {connection : ConnectionId} {point : Enter}
    (current : state.shared.handshake = some (connection, point)) :
    ∀ event ∈ Shared.writtenBy connection point, ∀ transaction,
      event.commits transaction = true → .exited transaction true ∈ state.shared.trace := by
  intro event member transaction commits
  cases point with
  | resubscribing subscription remaining =>
      obtain rfl := List.mem_singleton.mp member
      simp [Event.commits, Frame.commits, Subscription.frame, subscribeFrame, Frame.bodyless]
        at commits
  | replaying walk own frame =>
      obtain rfl := List.mem_singleton.mp member
      obtain rfl := honest.commits_replayedFrame current commits
      exact honest.replaying connection walk own frame current
  | _ => simp [Shared.writtenBy] at member

/-- The same with an event after it that is no COMMIT. -/
theorem commits_writtenBy_concat (honest : Honest state) {connection : ConnectionId}
    {point : Enter} (current : state.shared.handshake = some (connection, point)) {last : Event}
    (plain : ∀ transaction, last.commits transaction = false) :
    ∀ event ∈ Shared.writtenBy connection point ++ [last], ∀ transaction,
      event.commits transaction = true → .exited transaction true ∈ state.shared.trace := by
  intro event member transaction commits
  rcases List.mem_append.mp member with early | late
  · exact honest.commits_writtenBy current event early transaction commits
  · obtain rfl := List.mem_singleton.mp late
    rw [plain] at commits
    contradiction

/-- The replay hands over the next frame of a transaction whose block has been left. -/
theorem replays (honest : Honest state) {base : Shared} {events : List Event}
    (trace_eq : base.trace = state.shared.trace ++ events)
    (earlier : ∀ event ∈ events, ∀ transaction, event.commits transaction = true →
      .exited transaction true ∈ state.shared.trace)
    (sentFrames : base.sentFrames = state.shared.sentFrames) {own : String}
    (exited : .exited own true ∈ state.shared.trace) (reconnect : Reconnect)
    (connection : ConnectionId) (walk : Walk) (index : Nat) :
    CommitsFollowExit (base.replayFrame reconnect connection walk own index).trace ∧
      ∀ other entered transaction frame,
        (base.replayFrame reconnect connection walk own index).handshake =
            some (other, .replaying entered transaction frame) →
          .exited transaction true ∈
            (base.replayFrame reconnect connection walk own index).trace := by
  rw [Shared.replayFrame_eq]
  have whole : ((base.hand connection (Shared.replayedFrame own (base.replayed own index))).hold
      reconnect (.entering connection (.replaying walk own (base.replayed own index)))).trace =
      state.shared.trace ++
        (events ++ [.handed connection (Shared.replayedFrame own (base.replayed own index))]) := by
    simp [Shared.hold, Shared.hand, Shared.emit, trace_eq]
  rw [whole]
  refine ⟨honest.commits.append ?_, ?_⟩
  · intro event member transaction commits
    rcases List.mem_append.mp member with early | late
    · exact earlier event early transaction commits
    · obtain rfl := List.mem_singleton.mp late
      suffices same : own = transaction from same ▸ exited
      cases found : base.replayed own index with
      | none =>
          simpa [found, Event.commits, Shared.replayedFrame, Frame.commits_commitFrame]
            using commits
      | some pair =>
          obtain ⟨frame, listed, rfl⟩ := Option.map_eq_some_iff.mp found
          rw [sentFrames] at listed
          obtain ⟨arguments, rfl⟩ :=
            honest.recorded.shared.sends own frame (List.mem_of_getElem? listed)
          simp [found, Event.commits, Shared.replayedFrame, Frame.commits, sendFrame] at commits
  · intro other entered transaction frame current
    obtain ⟨-, -, rfl, -⟩ := Shared.eq_of_handshake_replaying current
    exact List.mem_append_left _ exited

theorem reconnects (honest : Honest state) {task : TaskId} {reply : Reply} {choice : Choice}
    (met : replaysExited settings state (.resume task reply choice) = true) {after : Shared}
    {progress : Progress Unit ConnectionId}
    (effects : state.shared.Reconnects settings task reply after progress) :
    CommitsFollowExit after.trace ∧ ∀ connection walk transaction frame,
      after.handshake = some (connection, .replaying walk transaction frame) →
        .exited transaction true ∈ after.trace := by
  have quiet : ∀ events, after.trace = state.shared.trace ++ events →
      (∀ event ∈ events, ∀ transaction, event.commits transaction = true →
        .exited transaction true ∈ state.shared.trace) →
      (∀ connection walk transaction frame,
        after.handshake ≠ some (connection, .replaying walk transaction frame)) →
      CommitsFollowExit after.trace ∧ ∀ connection walk transaction frame,
        after.handshake = some (connection, .replaying walk transaction frame) →
          .exited transaction true ∈ after.trace := by
    intro events trace_eq each calm
    refine ⟨trace_eq ▸ honest.commits.append each, ?_⟩
    intro connection walk transaction frame current
    exact absurd current (calm connection walk transaction frame)
  cases effects with
  | interrupted => exact ⟨honest.commits, honest.replaying⟩
  | found => exact ⟨honest.commits, honest.replaying⟩
  | races => exact quiet [] (by simp [Shared.hold]) (by simp) (by simp)
  | sleeps => exact quiet [] (by simp [Shared.hold]) (by simp) (by simp)
  | leaves =>
      exact quiet [] (by simp [Shared.leaveRace, Shared.release]) (by simp) (by simp)
  | opens reconnect locked owned calm pending server =>
      refine quiet _ (List.append_assoc _ _ _) ?_ (by simp [Shared.startHandshake])
      simp [Event.commits, Frame.commits, connectFrame, Frame.bodyless]
  | fails reconnect locked owned connection point phase =>
      exact quiet [_] rfl (by simp [Event.commits]) (by simp)
  | asks reconnect locked owned connection server phase =>
      refine quiet [_] rfl ?_ (by simp)
      simp [Event.commits, Frame.commits, connectFrame, Frame.bodyless]
  | collects => exact quiet [] (by simp [Shared.hold]) (by simp) (by simp)
  | subscribes reconnect locked owned connection point phase subscription remaining ready =>
      have current := Shared.handshake_of_phase locked phase
      refine quiet (Shared.writtenBy connection point ++ [.handed connection subscription.frame])
        ?_ (honest.commits_writtenBy_concat current ?_) (by simp)
      · exact ready.base.trace_append _
      · simp [Event.commits, Frame.commits, Subscription.frame, subscribeFrame, Frame.bodyless]
  | replays reconnect locked owned connection walk current index frame phase =>
      have known := Shared.handshake_of_phase locked phase
      exact @Honest.replays state honest (state.shared.noteWritten connection frame) _ rfl
        (honest.commits_writtenBy known) rfl _ (honest.replaying connection walk current _ known)
        reconnect connection walk _
  | picks reconnect locked owned connection point phase ready transaction sized present unvisited =>
      have known := Shared.handshake_of_phase locked phase
      have enters := Shared.entersReplay_of_ready locked owned phase ready
      have exited : .exited transaction true ∈ state.shared.trace := by
        simp only [replaysExited, enters, Bool.not_true, Bool.false_or, List.all_eq_true,
          decide_eq_true_eq] at met
        exact met transaction (ready.base.transactions ▸ present)
      exact honest.replays ready.base.trace (honest.commits_writtenBy known) ready.base.sentFrames
        exited reconnect connection _ 0
  | changed reconnect locked owned connection point phase ready =>
      have current := Shared.handshake_of_phase locked phase
      refine quiet (Shared.writtenBy connection point ++ [.closed connection]) ?_
        (honest.commits_writtenBy_concat current (by simp [Event.commits])) (by simp)
      exact ready.base.trace_append _
  | finishes reconnect locked owned connection point phase ready =>
      have current := Shared.handshake_of_phase locked phase
      refine quiet (Shared.writtenBy connection point ++ [.activated connection]) ?_
        (honest.commits_writtenBy_concat current (by simp [Event.commits])) (by simp)
      exact ready.base.trace_append _

/-- A block moves. -/
theorem store (honest : Honest state) {own : String} {resumed : Resumed} (events : List Event)
    (trace_eq : resumed.shared.trace = state.shared.trace ++ events)
    (recorded : (state.store (.transaction own) resumed).Recorded)
    (commits : CommitsFollowExit resumed.shared.trace)
    (reconnect : resumed.shared.reconnect = state.shared.reconnect)
    (committing : ∀ writing, resumed.point = .committing writing →
      .exited own true ∈ resumed.shared.trace)
    (spawned : resumed.spawned = none) : Honest (state.store (.transaction own) resumed) where
  recorded := recorded
  commits := commits
  replaying := by
    intro connection walk transaction frame current
    have earlier : state.shared.handshake = some (connection, .replaying walk transaction frame) :=
      (Shared.handshake_congr reconnect).symm.trans current
    rw [State.shared_store, trace_eq]
    exact List.mem_append_left _ (honest.replaying connection walk transaction frame earlier)
  committing := by
    refine State.forall_transactions_store (fun transaction point => ∀ writing,
      point = .committing writing → .exited transaction true ∈ resumed.shared.trace) ?_ committing
      spawned
    intro transaction _ writing standing
    rw [trace_eq]
    exact List.mem_append_left _ (honest.committing transaction writing standing)

/-- A block leaves the set. -/
theorem removes (honest : Honest state) {own : String} {shared : Shared} (events : List Event)
    (trace_eq : shared.trace = state.shared.trace ++ events)
    (recorded : (state.store (.transaction own) (removeTransaction own shared)).Recorded)
    (commits : CommitsFollowExit shared.trace)
    (reconnect : shared.reconnect = state.shared.reconnect) :
    Honest (state.store (.transaction own) (removeTransaction own shared)) := by
  refine honest.store events (by simpa using trace_eq) recorded (by simpa using commits)
    (by simpa using reconnect) ?_ (by simp)
  intro writing standing
  rcases point_removeTransaction own shared with finished | raised
  · rw [finished] at standing
    contradiction
  · rw [raised] at standing
    contradiction

theorem transactionMove (honest : Honest state) (fits : state.Fits) {after : State}
    (move : TransactionMove settings (fun action => replaysExited settings state action = true)
      state after) :
    Honest after := by
  have recorded := honest.recorded.transactionMove move
  have kept : ∀ event : Event, (∀ transaction, event.commits transaction = false) →
      CommitsFollowExit (state.shared.trace ++ [event]) := by
    intro event plain
    refine honest.commits.append ?_
    intro other member transaction commits
    obtain rfl := List.mem_singleton.mp member
    rw [plain] at commits
    contradiction
  cases move with
  | apart uninvolved blocks =>
      obtain ⟨commits, grows⟩ := honest.uninvolved uninvolved
      refine ⟨recorded, commits, ?_, ?_⟩
      · intro connection walk transaction frame current
        rw [Shared.handshake_congr uninvolved.reconnect] at current
        exact grows (honest.replaying connection walk transaction frame current)
      · intro transaction writing standing
        rw [blocks] at standing
        exact grows (honest.committing transaction writing standing)
  | discards connection active =>
      have grows : state.shared.trace ⊆ (state.shared.discard connection).trace :=
        fun _ member => List.mem_append_left _ (List.mem_append_left _ member)
      have commits : CommitsFollowExit (state.shared.discard connection).trace := by
        simp only [Shared.discard, Shared.emit, List.append_assoc]
        exact honest.commits.append (by simp [Event.commits])
      exact ⟨recorded, commits,
        fun other walk transaction frame current =>
          grows (honest.replaying other walk transaction frame current),
        fun transaction writing standing => grows (honest.committing transaction writing standing)⟩
  | reconnects task reply choice met effects =>
      obtain ⟨commits, replaying⟩ := honest.reconnects met effects
      obtain ⟨events, trace_eq, -⟩ := effects.extends
      refine ⟨recorded, commits, replaying, ?_⟩
      intro transaction writing standing
      rw [trace_eq]
      exact List.mem_append_left _ (honest.committing transaction writing standing)
  | shifts transaction uninvolved shift =>
      obtain ⟨commits, grows⟩ := honest.uninvolved uninvolved
      obtain ⟨events, trace_eq, -⟩ := uninvolved.trace
      refine honest.store events trace_eq recorded commits uninvolved.reconnect ?_ rfl
      rintro writing rfl
      generalize standing : state.tasks (.transaction transaction) = before at shift
      cases shift with
      | loses => exact grows (honest.committing transaction _ standing)
  | begun transaction left connection standing =>
      refine honest.store [.wrote connection (beginFrame transaction)] (by simp; rfl) recorded ?_
        (by simp; rfl) (by simp) rfl
      rw [Shared.trace_addTransaction]
      exact kept _ (by simp [Event.commits, Frame.commits, beginFrame, transactionFrame,
        Frame.bodyless])
  | calls transaction arguments failed inside left =>
      exact honest.store [_] rfl recorded (kept _ (by simp [Event.commits])) rfl (by simp) rfl
  | hands transaction failed frame writing standing left connection active =>
      obtain ⟨arguments, rfl⟩ := fits.transacting standing
      exact honest.store [_] rfl recorded
        (kept _ (by simp [Event.commits, Frame.commits, sendFrame])) rfl (by simp) rfl
  | writes transaction failed frame left connection standing =>
      obtain ⟨arguments, rfl⟩ := fits.transacting standing
      exact honest.store [_] rfl recorded
        (kept _ (by simp [Event.commits, Frame.commits, sendFrame])) rfl (by simp) rfl
  | commits transaction failed met inside connection active =>
      have exited : CommitsFollowExit (state.shared.emit (.exited transaction true)).trace :=
        kept _ (by simp [Event.commits])
      have present : .exited transaction true ∈
          (state.shared.emit (.exited transaction true)).trace :=
        List.mem_append_right _ (List.mem_singleton_self _)
      refine honest.store [_, _] (List.append_assoc _ _ _) recorded (exited.append ?_) rfl ?_ rfl
      · intro event member other commits
        obtain rfl := List.mem_singleton.mp member
        obtain rfl : transaction = other := by
          simpa [Event.commits, Frame.commits_commitFrame] using commits
        exact present
      · exact fun _ _ => List.mem_append_left _ present
  | postpones transaction failed met inside inactive =>
      exact honest.store [_] rfl recorded (kept _ (by simp [Event.commits])) rfl (by simp) rfl
  | aborts transaction failed inside connection active =>
      have exited : CommitsFollowExit (state.shared.emit (.exited transaction false)).trace :=
        kept _ (by simp [Event.commits])
      refine honest.store [_, _] (List.append_assoc _ _ _) recorded (exited.append ?_) rfl (by simp)
        rfl
      simp [Event.commits, Frame.commits, abortFrame, transactionFrame, Frame.bodyless]
  | forgets transaction failed inside inactive =>
      have exited : CommitsFollowExit (state.shared.emit (.exited transaction false)).trace :=
        kept _ (by simp [Event.commits])
      exact honest.removes [_] rfl recorded exited rfl
  | committed transaction connection standing =>
      have written : CommitsFollowExit
          (state.shared.noteWritten connection (commitFrame transaction)).trace := by
        refine honest.commits.append ?_
        intro event member other commits
        obtain rfl := List.mem_singleton.mp member
        obtain rfl : transaction = other := by
          simpa [Event.commits, Frame.commits_commitFrame] using commits
        exact honest.committing transaction _ standing
      exact honest.removes [_] rfl recorded written rfl
  | aborted transaction writing standing uninvolved =>
      obtain ⟨commits, grows⟩ := honest.uninvolved uninvolved
      obtain ⟨events, trace_eq, -⟩ := uninvolved.trace
      exact honest.removes events trace_eq recorded commits uninvolved.reconnect

end Honest

/-- In a run whose handshakes replay only transactions that were left without an exception, no
other transaction is ever committed. -/
theorem all_or_nothing {settings : Settings} {state : State}
    (reach : (client settings).Reaches
      (fun state action => replaysExited settings state action = true) state) :
    AllOrNothing state.shared.trace := by
  have initially : Honest (client settings).initial :=
    ⟨recorded_initial settings, EveryAfter.nil, by simp [client, Shared.handshake], by
      simp [client, initialTasks]⟩
  have honest := invariant_of_transactionMoves initially
    (fun fits honest move => Honest.transactionMove honest fits move) reach
  refine ⟨honest.commits, ?_⟩
  intro transaction failed event member
  obtain ⟨before, later, split⟩ := List.append_of_mem member
  cases commits : event.commits transaction with
  | false => rfl
  | true =>
      have exited := honest.commits before event later split transaction commits
      have recorded := honest.recorded.shared.once transaction (by rw [split]; simp [exited])
      exact absurd failed recorded

/-- The arguments of a SEND. -/
def plainArguments : SendArguments where
  body := []
  destination := "/queue"

/-- The listener loses the connection. -/
def loses : List Action := [raises .listener .connectionLost, returns .listener]

/-- A block sends a message; the connection is lost, the block is left, and the next handshake
commits it. -/
def replaysAfterExit : List Action :=
  enters ++ [.begin "t", returns (.transaction "t"), .transactionSend "t" plainArguments,
    returns (.transaction "t")] ++ loses ++ [.exit "t" true] ++ connects .listener (some "t") ++
    [returns .listener, returns .listener]

theorem all_or_nothing_replaysAfterExit :
    ∃ state, (client plainSettings).Reaches
        (fun state action => replaysExited plainSettings state action = true) state ∧
      (.wrote 1 (commitFrame "t") ∈ state.shared.trace) ∧ AllOrNothing state.shared.trace := by
  have replayed : ((client plainSettings).replay (replaysExited plainSettings)
      (client plainSettings).initial replaysAfterExit).map
        (fun state => decide (.wrote 1 (commitFrame "t") ∈ state.shared.trace)) = some true := by
    decide +kernel
  obtain ⟨state, reach, written⟩ := System.exists_of_replay (fun _ _ passes => passes) replayed
  exact ⟨state, reach, of_decide_eq_true written, all_or_nothing reach⟩

/-- The connection is lost while a block is open; the handshake commits it, and then the block is
left with an exception. -/
def replaysBeforeExit : List Action :=
  enters ++ [.begin "t", returns (.transaction "t")] ++ loses ++ connects .listener (some "t") ++
    [returns .listener, .exit "t" false]

/-- A transaction whose block is left with an exception may have been committed. -/
theorem not_forall_allOrNothing :
    ¬ ∀ state, (client plainSettings).Reachable state → AllOrNothing state.shared.trace := by
  intro always
  have replayed : ((client plainSettings).replay (fun _ _ => true) (client plainSettings).initial
      replaysBeforeExit).map (fun state =>
        decide (.exited "t" false ∈ state.shared.trace ∧
          .wrote 1 (commitFrame "t") ∈ state.shared.trace)) = some true := by
    decide +kernel
  obtain ⟨state, reach, happened⟩ := System.exists_of_replay (fun _ _ _ => trivial) replayed
  obtain ⟨exited, written⟩ := of_decide_eq_true happened
  have never := (always state reach).2 "t" exited _ written
  simp [Event.commits, Frame.commits_commitFrame] at never

end Stompman
