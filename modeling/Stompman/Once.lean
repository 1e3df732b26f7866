import Stompman.Commitment

/-!
# No transaction is committed twice

The replay of a handshake empties the set of active transactions only after its last COMMIT.  A run
commits every transaction at most once if the replay meets only blocks that will not commit
themselves, if the set does not change under it and if it is not interrupted after its first COMMIT.
-/

namespace Stompman

open Foundation

/-- The COMMIT of a transaction has been written. -/
def Event.committed (transaction : String) : Event → Bool
  | .wrote _ frame => frame.commits transaction
  | _ => false

/-- Number of COMMITs of a transaction that have been written, on all connections. -/
def commitments (transaction : String) (trace : List Event) : Nat :=
  trace.countP (Event.committed transaction)

/-- Positions at which a block will not write a COMMIT any more. -/
def Point.settled : Point → Bool
  | .finished | .raised _ | .aborting _ => true
  | _ => false

/-- The replay of a task goes on undisturbed: the set of active transactions is the one with which
the iteration started whenever a COMMIT has been written, and there is no exception once there has
been one COMMIT. -/
def Shared.replayUndisturbed (shared : Shared) (task : TaskId) (reply : Reply) : Bool :=
  match shared.reconnect with
  | some ⟨owner, _, .entering _ (.replaying walk _ frame)⟩ =>
      owner ≠ task ||
        match reply with
        | .returned => frame.isSome || walk.revision = shared.revision
        | .raised _ => walk.visited.isEmpty
        | _ => true
  | _ => true

/-- The step does not take a handshake to transactions whose blocks may still commit, and does not
disturb a replay. -/
def replaysSettled (settings : Settings) (state : State) : Action → Bool
  | .resume task reply _ =>
      (!state.shared.entersReplay settings task reply ||
        state.shared.transactions.all fun transaction =>
          (state.tasks (.transaction transaction)).settled) &&
      state.shared.replayUndisturbed task reply
  | _ => true

/-- The transactions that the replay in progress has committed. -/
def Shared.visited (shared : Shared) : List String :=
  match shared.handshake with
  | some (_, .replaying walk _ _) => walk.visited
  | _ => []

/-- The invariant behind single commits. -/
structure Single (state : State) : Prop where
  recorded : state.Recorded
  nodup : state.shared.transactions.Nodup
  unsettled : ∀ transaction, (state.tasks (.transaction transaction)).settled = false →
    commitments transaction state.shared.trace = 0
  registered : ∀ transaction ∈ state.shared.transactions, transaction ∉ state.shared.visited →
    commitments transaction state.shared.trace = 0
  current : ∀ connection walk transaction frame,
    state.shared.handshake = some (connection, .replaying walk transaction frame) →
      commitments transaction state.shared.trace = 0 ∧
        (state.tasks (.transaction transaction)).settled = true
  visited : ∀ transaction ∈ state.shared.visited,
    (state.tasks (.transaction transaction)).settled = true
  sized : ∀ connection walk transaction frame,
    state.shared.handshake = some (connection, .replaying walk transaction frame) →
      walk.revision ≤ state.shared.revision ∧
        (walk.revision = state.shared.revision → state.shared.transactions.length = walk.size)
  bound : ∀ transaction, commitments transaction state.shared.trace ≤ 1

theorem commitments_append (transaction : String) (trace events : List Event) :
    commitments transaction (trace ++ events) =
      commitments transaction trace + commitments transaction events :=
  List.countP_append

theorem commitments_eq_zero {transaction : String} {events : List Event}
    (none : ∀ event ∈ events, event.committed transaction = false) :
    commitments transaction events = 0 := by
  simpa [commitments] using none

theorem Uninvolved.commitments {state : State} {after : Shared}
    (uninvolved : Uninvolved state after) (transaction : String) :
    commitments transaction after.trace = Stompman.commitments transaction state.shared.trace := by
  obtain ⟨events, trace_eq, unrelated⟩ := uninvolved.trace
  have none : Stompman.commitments transaction events = 0 := by
    refine commitments_eq_zero fun event member => ?_
    have apart := unrelated event member
    cases event with
    | wrote connection frame => exact Frame.commits_eq_false apart.1 transaction
    | _ => rfl
  rw [trace_eq, commitments_append, none, Nat.add_zero]

theorem Shared.visited_congr {shared other : Shared} (same : shared.reconnect = other.reconnect) :
    shared.visited = other.visited := by
  rw [visited, visited, handshake_congr same]

namespace Single

variable {settings : Settings} {state : State}

/-- A block moves.  If it has written its COMMIT, it leaves the set. -/
theorem store (single : Single state) {own : String} {resumed : Resumed}
    (recorded : (state.store (.transaction own) resumed).Recorded)
    (reconnect : resumed.shared.reconnect = state.shared.reconnect)
    (count : ∀ transaction, commitments transaction resumed.shared.trace =
        commitments transaction state.shared.trace ∨
      transaction = own ∧ (state.tasks (.transaction own)).settled = false ∧
        own ∉ resumed.shared.transactions ∧ resumed.point.settled = true ∧
        commitments own resumed.shared.trace ≤ 1)
    (nodup : resumed.shared.transactions.Nodup)
    (transactions : ∀ transaction ∈ resumed.shared.transactions,
      transaction ∈ state.shared.transactions ∨
        (state.tasks (.transaction transaction)).settled = false)
    (revision : resumed.shared.revision = state.shared.revision ∧
        resumed.shared.transactions.length = state.shared.transactions.length ∨
      state.shared.revision < resumed.shared.revision)
    (settled : (state.tasks (.transaction own)).settled = true → resumed.point.settled = true)
    (spawned : resumed.spawned = none) : Single (state.store (.transaction own) resumed) := by
  have handshake : resumed.shared.handshake = state.shared.handshake :=
    Shared.handshake_congr reconnect
  have visited : resumed.shared.visited = state.shared.visited := Shared.visited_congr reconnect
  have still : ∀ transaction, (state.tasks (.transaction transaction)).settled = true →
      ((state.store (.transaction own) resumed).tasks (.transaction transaction)).settled = true :=
    State.forall_transactions_store
      (fun transaction point => (state.tasks (.transaction transaction)).settled = true →
        point.settled = true) (fun _ _ => id) settled spawned
  refine ⟨recorded, nodup, ?_, ?_, ?_, ?_, ?_, ?_⟩
  · refine State.forall_transactions_store (fun transaction point => point.settled = false →
      commitments transaction resumed.shared.trace = 0) ?_ ?_ spawned
    · intro transaction other before
      rcases count transaction with same | ⟨same, -⟩
      · rw [same]
        exact single.unsettled transaction before
      · exact absurd same other
    · intro after
      rcases count own with same | ⟨-, -, -, closed, -⟩
      · rw [same]
        refine single.unsettled own ?_
        cases before : (state.tasks (.transaction own)).settled with
        | false => rfl
        | true => exact absurd (settled before) (by simp [after])
      · rw [closed] at after
        contradiction
  · intro transaction member unvisited
    rw [State.shared_store] at member unvisited ⊢
    rcases count transaction with same | ⟨rfl, -, absent, -⟩
    · rw [same]
      rcases transactions transaction member with old | fresh
      · exact single.registered transaction old (visited ▸ unvisited)
      · exact single.unsettled transaction fresh
    · exact absurd member absent
  · intro connection walk transaction frame current
    rw [State.shared_store] at current ⊢
    rw [handshake] at current
    obtain ⟨zero, block⟩ := single.current connection walk transaction frame current
    refine ⟨?_, still transaction block⟩
    rcases count transaction with same | ⟨rfl, before, -⟩
    · rw [same, zero]
    · rw [before] at block
      contradiction
  · intro transaction member
    rw [State.shared_store, visited] at member
    exact still transaction (single.visited transaction member)
  · intro connection walk transaction frame current
    rw [State.shared_store] at current ⊢
    rw [handshake] at current
    obtain ⟨older, size⟩ := single.sized connection walk transaction frame current
    rcases revision with ⟨equal, length⟩ | later
    · rw [equal, length]
      exact ⟨older, size⟩
    · exact ⟨by omega, fun equal => by omega⟩
  · intro transaction
    rw [State.shared_store]
    rcases count transaction with same | ⟨rfl, -, -, -, once⟩
    · rw [same]
      exact single.bound transaction
    · exact once

/-- The replay writes COMMIT only at the end of a transaction. -/
theorem committed_writtenBy (single : Single state) {connection : ConnectionId} {point : Enter}
    (current : state.shared.handshake = some (connection, point)) (transaction : String) :
    commitments transaction (Shared.writtenBy connection point) =
      match point with
      | .replaying _ own none => if own = transaction then 1 else 0
      | _ => 0 := by
  cases point with
  | resubscribing subscription remaining =>
      refine commitments_eq_zero ?_
      simp [Shared.writtenBy, Event.committed, Frame.commits, Subscription.frame, subscribeFrame,
        Frame.bodyless]
  | replaying walk own frame =>
      cases frame with
      | none =>
          simp [commitments, Shared.writtenBy, Shared.replayedFrame, List.countP_cons,
            Event.committed, Frame.commits_commitFrame]
      | some pair =>
          obtain ⟨index, frame⟩ := pair
          have listed := single.recorded.shared.replayed connection walk own index frame current
          obtain ⟨arguments, rfl⟩ :=
            single.recorded.shared.sends own frame (List.mem_of_getElem? listed)
          refine commitments_eq_zero ?_
          simp [Shared.writtenBy, Shared.replayedFrame, Event.committed, Frame.commits, sendFrame]
  | _ => rfl

/-- The parts of the invariant that connecting has to show. -/
theorem connects {after : Shared}
    (recorded : ({ state with shared := after } : State).Recorded)
    (nodup : after.transactions.Nodup)
    (unsettled : ∀ transaction, (state.tasks (.transaction transaction)).settled = false →
      commitments transaction after.trace = 0)
    (registered : ∀ transaction ∈ after.transactions, transaction ∉ after.visited →
      commitments transaction after.trace = 0)
    (calm : ∀ connection walk transaction frame,
      after.handshake ≠ some (connection, .replaying walk transaction frame))
    (bound : ∀ transaction, commitments transaction after.trace ≤ 1) :
    Single { state with shared := after } := by
  refine ⟨recorded, nodup, unsettled, registered, ?_, ?_, ?_, bound⟩
  · intro connection walk transaction frame current
    exact absurd current (calm connection walk transaction frame)
  · intro transaction member
    unfold Shared.visited at member
    split at member
    · rename_i connection walk own frame current
      exact absurd current (calm connection walk own frame)
    · simp at member
  · intro connection walk transaction frame current
    exact absurd current (calm connection walk transaction frame)

/-- What holds when the replay goes on, with the COMMIT that has just been written taken into
account. -/
structure Underway (state : State) (base : Shared) (walk : Walk) : Prop where
  unsettled : ∀ transaction, (state.tasks (.transaction transaction)).settled = false →
    commitments transaction base.trace = 0
  registered : ∀ transaction ∈ state.shared.transactions, transaction ∉ walk.visited →
    commitments transaction base.trace = 0
  visited : ∀ transaction ∈ walk.visited, (state.tasks (.transaction transaction)).settled = true
  sized : walk.revision ≤ state.shared.revision ∧
    (walk.revision = state.shared.revision → state.shared.transactions.length = walk.size)
  bound : ∀ transaction, commitments transaction base.trace ≤ 1

theorem visited_eq_nil {shared : Shared} {connection : ConnectionId} {point : Enter}
    (current : shared.handshake = some (connection, point))
    (other : ∀ walk transaction frame, point ≠ .replaying walk transaction frame) :
    shared.visited = [] := by
  unfold Shared.visited
  split
  · rename_i walk own frame known
    rw [current] at known
    exact absurd (Prod.mk.inj (Option.some.inj known)).2 (other walk own frame)
  · rfl

theorem arrives_fresh (single : Single state) {connection : ConnectionId} {point : Enter}
    (current : state.shared.handshake = some (connection, point))
    (other : ∀ walk transaction frame, point ≠ .replaying walk transaction frame) {base : Shared}
    (trace_eq : base.trace = state.shared.trace ++ Shared.writtenBy connection point) :
    Underway state base state.shared.freshWalk := by
  have same : ∀ transaction, commitments transaction base.trace =
      commitments transaction state.shared.trace := by
    intro transaction
    rw [trace_eq, commitments_append, single.committed_writtenBy current]
    cases point with
    | replaying walk own frame => exact absurd rfl (other walk own frame)
    | _ => rfl
  refine ⟨?_, ?_, by simp [Shared.freshWalk], ⟨Nat.le_refl _, fun _ => rfl⟩, ?_⟩
  · intro transaction before
    rw [same]
    exact single.unsettled transaction before
  · intro transaction member _
    rw [same]
    exact single.registered transaction member (by simp [visited_eq_nil current other])
  · intro transaction
    rw [same]
    exact single.bound transaction

theorem arrives_committed (single : Single state) {connection : ConnectionId} {walk : Walk}
    {own : String}
    (current : state.shared.handshake = some (connection, .replaying walk own none)) :
    Underway state (state.shared.noteWritten connection (commitFrame own))
      { walk with visited := walk.visited ++ [own] } := by
  obtain ⟨zero, settled⟩ := single.current connection walk own none current
  have visited : state.shared.visited = walk.visited := by rw [Shared.visited, current]
  have count : ∀ transaction,
      commitments transaction (state.shared.noteWritten connection (commitFrame own)).trace =
        commitments transaction state.shared.trace + if own = transaction then 1 else 0 := by
    intro transaction
    have written := single.committed_writtenBy current transaction
    exact (commitments_append _ _ _).trans (congrArg (_ + ·) written)
  refine ⟨?_, ?_, ?_, single.sized connection walk own none current, ?_⟩
  · intro transaction before
    have different : own ≠ transaction := by
      rintro rfl
      rw [settled] at before
      contradiction
    rw [count, if_neg different, single.unsettled transaction before]
  · intro transaction member unvisited
    simp only [List.mem_append, List.mem_singleton, not_or] at unvisited
    rw [count, if_neg (Ne.symm unvisited.2)]
    exact single.registered transaction member (visited ▸ unvisited.1)
  · intro transaction member
    simp only [List.mem_append, List.mem_singleton] at member
    rcases member with old | rfl
    · exact single.visited transaction (visited ▸ old)
    · exact settled
  · intro transaction
    rw [count]
    split
    · rename_i same
      rw [← same, zero]
    · exact single.bound transaction

theorem arrives (single : Single state) {task : TaskId} {reply : Reply} {choice : Choice}
    (met : replaysSettled settings state (.resume task reply choice) = true)
    {reconnect : Reconnect} (locked : state.shared.reconnect = some reconnect)
    (owned : reconnect.owner = task) {connection : ConnectionId} {point : Enter}
    (phase : reconnect.phase = .entering connection point) {base : Shared} {walk : Walk}
    (ready : state.shared.Ready settings connection reply point base [] walk) :
    Underway state base walk ∧ walk.revision = state.shared.revision ∧
      ∀ transaction ∈ state.shared.transactions,
        (state.tasks (.transaction transaction)).settled = true := by
  have enters := Shared.entersReplay_of_ready locked owned phase ready
  have current := Shared.handshake_of_phase locked phase
  simp only [replaysSettled, enters, Bool.not_true, Bool.false_or, Bool.and_eq_true,
    List.all_eq_true] at met
  obtain ⟨settled, undisturbed⟩ := met
  rw [← and_assoc]
  refine ⟨?_, settled⟩
  generalize nothing : ([] : List Subscription) = rest at ready
  cases ready with
  | confirmed collected type established =>
      refine ⟨single.arrives_fresh current (by simp) ?_, rfl⟩
      simp [Shared.restartBackgroundTasks, Shared.writtenBy]
  | resubscribed subscription remaining =>
      exact ⟨single.arrives_fresh current (by simp) rfl, rfl⟩
  | committed walk own =>
      refine ⟨single.arrives_committed current, ?_⟩
      obtain ⟨owner, issues, reached⟩ := reconnect
      obtain rfl : owner = task := owned
      obtain rfl : reached = .entering connection (.replaying walk own none) := phase
      simpa [Shared.replayUndisturbed, locked] using undisturbed

/-- The replay hands over the next frame. -/
theorem replays (single : Single state) {base : Shared} {walk : Walk}
    (underway : Underway state base walk) {reconnect : Reconnect} {connection : ConnectionId}
    {own : String} {index : Nat}
    (recorded : ({ state with
      shared := base.replayFrame reconnect connection walk own index } : State).Recorded)
    (transactions : base.transactions = state.shared.transactions)
    (revision : base.revision = state.shared.revision)
    (zero : commitments own base.trace = 0)
    (settled : (state.tasks (.transaction own)).settled = true) :
    Single { state with shared := base.replayFrame reconnect connection walk own index } := by
  rw [Shared.replayFrame_eq] at recorded ⊢
  have same : ∀ transaction frame, commitments transaction
      (base.trace ++ [.handed connection frame]) = commitments transaction base.trace :=
    fun _ _ => commitments_append _ _ _
  refine ⟨recorded, transactions ▸ single.nodup, ?_, ?_, ?_, underway.visited, ?_, ?_⟩
  · intro transaction before
    exact (same transaction _).trans (underway.unsettled transaction before)
  · intro transaction member unvisited
    exact (same transaction _).trans
      (underway.registered transaction (transactions ▸ member) unvisited)
  · intro other entered transaction frame current
    obtain ⟨-, -, rfl, -⟩ := Shared.eq_of_handshake_replaying current
    exact ⟨(same own _).trans zero, settled⟩
  · intro other entered transaction frame current
    obtain ⟨-, rfl, -, -⟩ := Shared.eq_of_handshake_replaying current
    simpa [Shared.hold, Shared.hand, Shared.emit, transactions, revision] using underway.sized
  · intro transaction
    exact (same transaction _).trans_le (underway.bound transaction)

/-- Connecting without a replay. -/
theorem quiet (single : Single state) {after : Shared}
    (recorded : ({ state with shared := after } : State).Recorded)
    (unvisited : state.shared.visited = []) {events : List Event}
    (trace_eq : after.trace = state.shared.trace ++ events)
    (none : ∀ transaction, commitments transaction events = 0)
    (transactions : after.transactions = state.shared.transactions)
    (calm : ∀ connection walk transaction frame,
      after.handshake ≠ some (connection, .replaying walk transaction frame)) :
    Single { state with shared := after } := by
  have same : ∀ transaction, commitments transaction after.trace =
      commitments transaction state.shared.trace := by
    intro transaction
    rw [trace_eq, commitments_append, none, Nat.add_zero]
  refine connects recorded (transactions ▸ single.nodup) ?_ ?_ calm ?_
  · intro transaction before
    rw [same]
    exact single.unsettled transaction before
  · intro transaction member _
    rw [same]
    exact single.registered transaction (transactions ▸ member) (by simp [unvisited])
  · intro transaction
    rw [same]
    exact single.bound transaction

theorem visited_eq_nil_of_calm {shared : Shared} (calm : shared.handshake = none) :
    shared.visited = [] := by
  rw [Shared.visited, calm]

theorem commitments_handed (transaction : String) (connection : ConnectionId) (frame : Frame) :
    commitments transaction [.handed connection frame] = 0 := rfl

theorem reconnects (single : Single state) {task : TaskId} {reply : Reply} {choice : Choice}
    (met : replaysSettled settings state (.resume task reply choice) = true) {after : Shared}
    {progress : Progress Unit ConnectionId}
    (effects : state.shared.Reconnects settings task reply after progress)
    (recorded : ({ state with shared := after } : State).Recorded) :
    Single { state with shared := after } := by
  cases effects with
  | interrupted => exact single
  | found => exact single
  | races issues calm =>
      exact single.quiet recorded (visited_eq_nil_of_calm calm) (List.append_nil _).symm
        (fun _ => rfl) rfl (by simp)
  | sleeps issues calm =>
      exact single.quiet recorded (visited_eq_nil_of_calm calm) (List.append_nil _).symm
        (fun _ => rfl) rfl (by simp)
  | leaves calm =>
      exact single.quiet recorded (visited_eq_nil_of_calm calm) (List.append_nil _).symm
        (fun _ => rfl) rfl (by simp)
  | opens reconnect locked owned calm pending server =>
      exact single.quiet recorded (visited_eq_nil_of_calm calm) (List.append_assoc _ _ _)
        (fun _ => rfl) rfl (by simp [Shared.startHandshake])
  | fails reconnect locked owned connection point phase reason outcome =>
      have current := Shared.handshake_of_phase locked phase
      have unvisited : state.shared.visited = [] := by
        cases point with
        | replaying walk own frame =>
            rcases reason with ⟨failure, rfl⟩ | ⟨collected, impossible⟩
            · obtain ⟨owner, issues, reached⟩ := reconnect
              obtain rfl : owner = task := owned
              obtain rfl : reached = .entering connection (.replaying walk own frame) := phase
              simp only [replaysSettled, Shared.replayUndisturbed, locked, Bool.and_eq_true] at met
              rw [Shared.visited, current]
              simpa using met.2
            · contradiction
        | _ => exact visited_eq_nil current (by simp)
      exact single.quiet recorded unvisited rfl (fun _ => rfl) rfl (by simp)
  | asks reconnect locked owned connection server phase =>
      have current := Shared.handshake_of_phase locked phase
      refine single.quiet recorded (visited_eq_nil current (by simp)) rfl ?_ rfl (by simp)
      intro transaction
      refine commitments_eq_zero ?_
      simp [Event.committed, Frame.commits, connectFrame, Frame.bodyless]
  | collects reconnect locked owned connection collected phase =>
      have current := Shared.handshake_of_phase locked phase
      exact single.quiet recorded (visited_eq_nil current (by simp)) (List.append_nil _).symm
        (fun _ => rfl) rfl (by simp)
  | subscribes reconnect locked owned connection point phase subscription remaining ready =>
      have current := Shared.handshake_of_phase locked phase
      have fresh := ready.early
      refine @quiet state single _ recorded (visited_eq_nil current fresh)
        (Shared.writtenBy connection point ++ [.handed connection subscription.frame]) ?_ ?_
        ready.base.transactions (by simp)
      · exact ready.base.trace_append _
      · intro transaction
        rw [commitments_append, single.committed_writtenBy current, commitments_handed]
        cases point with
        | replaying walk own frame => exact absurd rfl (fresh walk own frame)
        | _ => rfl
  | replays reconnect locked owned connection walk own index frame phase =>
      have current := Shared.handshake_of_phase locked phase
      obtain ⟨zero, settled⟩ := single.current connection walk own _ current
      have visited : state.shared.visited = walk.visited := by rw [Shared.visited, current]
      have same : ∀ transaction, commitments transaction
          (state.shared.noteWritten connection frame).trace =
          commitments transaction state.shared.trace := fun transaction =>
        (commitments_append _ _ _).trans
          (congrArg (_ + ·) (single.committed_writtenBy current transaction))
      refine single.replays ⟨?_, ?_, ?_, single.sized connection walk own _ current, ?_⟩ recorded
        rfl rfl ((same own).trans zero) settled
      · exact fun transaction before =>
          (same transaction).trans (single.unsettled transaction before)
      · intro transaction member unvisited
        exact (same transaction).trans
          (single.registered transaction member (visited ▸ unvisited))
      · exact fun transaction member => single.visited transaction (visited ▸ member)
      · exact fun transaction => (same transaction).trans_le (single.bound transaction)
  | picks reconnect locked owned connection point phase ready transaction sized present unvisited =>
      obtain ⟨underway, unchanged, settled⟩ := single.arrives met locked owned phase ready
      have registered := ready.base.transactions ▸ present
      have fresh := unvisited (unchanged.trans ready.base.revision.symm)
      exact single.replays underway recorded ready.base.transactions ready.base.revision
        (underway.registered transaction registered fresh) (settled transaction registered)
  | changed reconnect locked owned connection point phase ready resized =>
      obtain ⟨underway, unchanged, -⟩ := single.arrives met locked owned phase ready
      exact absurd (ready.base.transactions ▸ underway.sized.2 unchanged) resized
  | finishes reconnect locked owned connection point phase ready =>
      obtain ⟨underway, -, -⟩ := single.arrives met locked owned phase ready
      refine connects recorded List.nodup_nil ?_ (fun _ member => absurd member (by
        simp [Shared.activate, Shared.clearTransactions, Shared.emit])) (by simp) ?_
      · intro transaction before
        exact (commitments_append _ _ _).trans (underway.unsettled transaction before)
      · intro transaction
        exact (commitments_append _ _ _).trans_le (underway.bound transaction)

/-- Changes that concern neither blocks nor the replay. -/
theorem apart (single : Single state) {after : State} (recorded : after.Recorded)
    (reconnect : after.shared.reconnect = state.shared.reconnect)
    (transactions : after.shared.transactions = state.shared.transactions)
    (revision : after.shared.revision = state.shared.revision)
    (same : ∀ transaction, commitments transaction after.shared.trace =
      commitments transaction state.shared.trace)
    (blocks : ∀ transaction,
      after.tasks (.transaction transaction) = state.tasks (.transaction transaction)) :
    Single after := by
  have handshake := Shared.handshake_congr reconnect
  have visited := Shared.visited_congr reconnect
  refine ⟨recorded, transactions ▸ single.nodup, ?_, ?_, ?_, ?_, ?_, ?_⟩
  · intro transaction before
    rw [same]
    exact single.unsettled transaction (blocks transaction ▸ before)
  · intro transaction member unvisited
    rw [same]
    exact single.registered transaction (transactions ▸ member) (visited ▸ unvisited)
  · intro connection walk transaction frame current
    rw [same, blocks]
    exact single.current connection walk transaction frame (handshake ▸ current)
  · intro transaction member
    rw [blocks]
    exact single.visited transaction (visited ▸ member)
  · intro connection walk transaction frame current
    rw [transactions, revision]
    exact single.sized connection walk transaction frame (handshake ▸ current)
  · intro transaction
    rw [same]
    exact single.bound transaction

/-- A block leaves the set. -/
theorem removes (single : Single state) {own : String} {shared : Shared}
    (recorded : (state.store (.transaction own) (removeTransaction own shared)).Recorded)
    (reconnect : shared.reconnect = state.shared.reconnect)
    (transactions : shared.transactions = state.shared.transactions)
    (revision : shared.revision = state.shared.revision)
    (count : ∀ transaction, commitments transaction shared.trace =
        commitments transaction state.shared.trace ∨
      transaction = own ∧ (state.tasks (.transaction own)).settled = false ∧
        commitments own shared.trace ≤ 1) :
    Single (state.store (.transaction own) (removeTransaction own shared)) := by
  revert recorded
  unfold removeTransaction
  split
  · intro recorded
    refine single.store recorded reconnect ?_ ?_ ?_ (.inr ?_) (fun _ => rfl) rfl
    · intro transaction
      refine (count transaction).imp id ?_
      rintro ⟨rfl, before, once⟩
      refine ⟨rfl, before, ?_, rfl, once⟩
      simp only [Shared.removeTransaction, transactions]
      exact single.nodup.not_mem_erase
    · simp only [Shared.removeTransaction, transactions]
      exact single.nodup.erase own
    · intro transaction member
      simp only [Shared.removeTransaction, transactions] at member
      exact .inl (List.mem_of_mem_erase member)
    · simp [Shared.removeTransaction, revision]
  · rename_i absent
    intro recorded
    refine single.store recorded reconnect ?_ (transactions ▸ single.nodup)
      (fun transaction member => .inl (transactions ▸ member))
      (.inl ⟨revision, by rw [transactions]⟩) (fun _ => rfl) rfl
    intro transaction
    refine (count transaction).imp id ?_
    rintro ⟨rfl, before, once⟩
    exact ⟨rfl, before, absent, rfl, once⟩

theorem commitments_commitFrame (transaction own : String) (connection : ConnectionId) :
    commitments transaction [.wrote connection (commitFrame own)] =
      if own = transaction then 1 else 0 := by
  simp [commitments, List.countP_cons, Event.committed, Frame.commits_commitFrame]

theorem transactionMove (single : Single state) (fits : state.Fits) {after : State}
    (move : TransactionMove settings (fun action => replaysSettled settings state action = true)
      state after) : Single after := by
  have recorded := single.recorded.transactionMove move
  have plain : ∀ {shared : Shared} (events : List Event),
      shared.trace = state.shared.trace ++ events →
      (∀ transaction, commitments transaction events = 0) → ∀ transaction (condition : Prop),
      commitments transaction shared.trace = commitments transaction state.shared.trace ∨
        condition := by
    intro shared events trace_eq none transaction condition
    rw [trace_eq, commitments_append, none, Nat.add_zero]
    exact .inl rfl
  have kept : ∀ transaction ∈ state.shared.transactions, transaction ∈ state.shared.transactions ∨
      (state.tasks (.transaction transaction)).settled = false := fun _ => .inl
  cases move with
  | apart uninvolved blocks =>
      exact single.apart recorded uninvolved.reconnect uninvolved.transactions uninvolved.revision
        uninvolved.commitments blocks
  | discards connection active =>
      refine single.apart recorded rfl rfl rfl ?_ (fun _ => rfl)
      intro transaction
      simp [Shared.discard, Shared.emit, commitments_append]
      rfl
  | reconnects task reply choice met effects => exact single.reconnects met effects recorded
  | shifts transaction uninvolved shift =>
      refine single.store recorded uninvolved.reconnect
        (fun other => .inl (uninvolved.commitments other)) (uninvolved.transactions ▸ single.nodup)
        (fun other member => .inl (uninvolved.transactions ▸ member))
        (.inl ⟨uninvolved.revision, by rw [uninvolved.transactions]⟩) ?_ rfl
      generalize state.tasks (.transaction transaction) = before at shift
      cases shift <;> simp [Point.settled]
  | begun transaction left connection standing =>
      have written : ∀ other, commitments other [.wrote connection (beginFrame transaction)] = 0 :=
        fun _ => commitments_eq_zero (by
          simp [Event.committed, Frame.commits, beginFrame, transactionFrame, Frame.bodyless])
      refine single.store recorded (by simp; rfl) (fun other => plain [_]
        (Shared.trace_addTransaction _ _) written other _) ?_ ?_ ?_
        (by simp [standing, Point.settled]) rfl
      · unfold Shared.addTransaction
        split
        · exact single.nodup
        · rename_i absent
          exact single.nodup.append (List.nodup_singleton _)
            (List.disjoint_singleton.mpr absent)
      · intro other member
        rcases (Shared.mem_addTransaction _ _ _).mp member with old | rfl
        · exact .inl old
        · exact .inr (by simp [standing, Point.settled])
      · unfold Shared.addTransaction
        split
        · exact .inl ⟨rfl, rfl⟩
        · exact .inr (Nat.lt_succ_self _)
  | calls transaction arguments failed inside left =>
      exact single.store recorded rfl (fun other => plain [_] rfl (fun _ => rfl) other _)
        single.nodup kept (.inl ⟨rfl, rfl⟩) (by simp [inside, Point.settled]) rfl
  | hands transaction failed frame writing standing left connection active =>
      exact single.store recorded rfl (fun other => plain [_] rfl (fun _ => rfl) other _)
        single.nodup kept (.inl ⟨rfl, rfl⟩) (by simp [standing, Point.settled]) rfl
  | writes transaction failed frame left connection standing =>
      obtain ⟨arguments, rfl⟩ := fits.transacting standing
      refine single.store recorded rfl (fun other => plain [_] rfl (fun _ => ?_) other _)
        single.nodup kept (.inl ⟨rfl, rfl⟩) (by simp [standing, Point.settled]) rfl
      exact commitments_eq_zero (by simp [Event.committed, Frame.commits, sendFrame])
  | commits transaction failed met inside connection active =>
      exact single.store recorded rfl
        (fun other => plain [_, _] (List.append_assoc _ _ _) (fun _ => rfl) other _)
        single.nodup kept (.inl ⟨rfl, rfl⟩) (by simp [inside, Point.settled]) rfl
  | postpones transaction failed met inside inactive =>
      exact single.store recorded rfl (fun other => plain [_] rfl (fun _ => rfl) other _)
        single.nodup kept (.inl ⟨rfl, rfl⟩) (fun _ => rfl) rfl
  | aborts transaction failed inside connection active =>
      exact single.store recorded rfl
        (fun other => plain [_, _] (List.append_assoc _ _ _) (fun _ => rfl) other _)
        single.nodup kept (.inl ⟨rfl, rfl⟩) (fun _ => rfl) rfl
  | forgets transaction failed inside inactive =>
      exact single.removes recorded rfl rfl rfl
        (fun other => plain [_] rfl (fun _ => rfl) other _)
  | committed transaction connection standing =>
      have zero := single.unsettled transaction (by rw [standing]; rfl)
      refine single.removes recorded rfl rfl rfl fun other => ?_
      have count : commitments other
          (state.shared.noteWritten connection (commitFrame transaction)).trace = _ :=
        commitments_append other state.shared.trace _
      rw [commitments_commitFrame] at count
      by_cases same : transaction = other
      · subst same
        exact .inr ⟨rfl, by rw [standing]; rfl, by rw [count, zero]; simp⟩
      · exact .inl (by rw [count, if_neg same, Nat.add_zero])
  | aborted transaction writing standing uninvolved =>
      exact single.removes recorded uninvolved.reconnect uninvolved.transactions uninvolved.revision
        (fun other => .inl (uninvolved.commitments other))

end Single

theorem single_initial (settings : Settings) : Single (client settings).initial :=
  ⟨recorded_initial settings, List.nodup_nil, fun _ _ => rfl, by simp [client],
    by simp [client, Shared.handshake], by simp [client, Shared.visited, Shared.handshake],
    by simp [client, Shared.handshake], fun _ => Nat.zero_le 1⟩

/-- In a run whose handshakes replay only settled transactions, undisturbed, the COMMIT of a
transaction is written at most once. -/
theorem commitments_le_one {settings : Settings} {state : State}
    (reach : (client settings).Reaches
      (fun state action => replaysSettled settings state action = true) state)
    (transaction : String) : commitments transaction state.shared.trace ≤ 1 := by
  have single := invariant_of_transactionMoves (single_initial settings)
    (fun fits single move => Single.transactionMove single fits move) reach
  exact single.bound transaction

theorem commitments_le_one_replaysAfterExit :
    ∃ state, (client plainSettings).Reaches
        (fun state action => replaysSettled plainSettings state action = true) state ∧
      .wrote 1 (commitFrame "t") ∈ state.shared.trace ∧
      commitments "t" state.shared.trace ≤ 1 := by
  have replayed : ((client plainSettings).replay (replaysSettled plainSettings)
      (client plainSettings).initial replaysAfterExit).map
        (fun state => decide (.wrote 1 (commitFrame "t") ∈ state.shared.trace)) = some true := by
    decide +kernel
  obtain ⟨state, reach, written⟩ := System.exists_of_replay (fun _ _ passes => passes) replayed
  exact ⟨state, reach, of_decide_eq_true written, commitments_le_one reach "t"⟩

/-- Two blocks are left while there is no connection.  The first handshake is lost after the COMMIT
of one of them; the second commits it again. -/
def replaysTwice : List Action :=
  enters ++ [.begin "t", returns (.transaction "t"), .begin "u", returns (.transaction "u")] ++
    loses ++ [.exit "t" true, .exit "u" true] ++ connects .listener (some "t") ++
    [returns .listener (some "u"), raises .listener .connectionLost, returns .listener,
      returns .listener, .resume .listener (.connected 0) {}, returns .listener,
      .resume .listener (.frame (.frame plainConnected)) { pick := some "t" },
      returns .listener (some "u")]

/-- A transaction may be committed twice. -/
theorem not_forall_commitments_le_one :
    ¬ ∀ state, (client plainSettings).Reachable state →
      ∀ transaction, commitments transaction state.shared.trace ≤ 1 := by
  intro always
  have replayed : ((client plainSettings).replay (fun _ _ => true) (client plainSettings).initial
      replaysTwice).map (fun state => decide (commitments "t" state.shared.trace = 2)) =
      some true := by
    decide +kernel
  obtain ⟨state, reach, twice⟩ := System.exists_of_replay (fun _ _ _ => trivial) replayed
  have once := always state reach "t"
  rw [of_decide_eq_true twice] at once
  contradiction

end Stompman
