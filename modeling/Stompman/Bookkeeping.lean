import Stompman.Once
import Stompman.Transport

/-!
# The set of active transactions

`Transaction.__aexit__` removes its transaction from a set that every handshake iterates and then
clears.  A handshake that ends inside a block takes the block's transaction away, so the removal
raises; a block that begins or ends during a replay changes the set under its iteration.
-/

namespace Stompman

open Foundation

/-! ## Steps -/

/-- Positions of a block between the end of BEGIN and the end of `__aexit__`. -/
def Point.inBlock : Point → Bool
  | .inside _ | .transacting .. | .aborting _ | .committing _ => true
  | _ => false

/-- A handshake is in the loop of `commit_pending_transactions`. -/
def Shared.replaying (shared : Shared) : Bool :=
  match shared.handshake with
  | some (_, .replaying ..) => true
  | _ => false

/-- The transactions that the replay of a task has committed once its COMMIT is written. -/
def Shared.replayedBy (shared : Shared) (task : TaskId) : List String :=
  match shared.entering task with
  | some (.replaying walk current none) => walk.visited ++ [current]
  | _ => []

/-- Steps at which a block adds its transaction to the set or removes it. -/
def registers (state : State) : Action → Bool
  | .exit _ false => state.shared.active.isNone
  | .resume (.transaction transaction) reply _ =>
      match state.tasks (.transaction transaction), reply with
      | .beginning (.writing ..), .returned => true
      | .committing (.writing _), .returned => true
      | .aborting _, .returned => true
      | .aborting (.writing connection), .raised .connectionLost =>
          state.shared.active ≠ some connection
      | _, _ => false
  | _ => false

/-- Steps at which no block touches the set that a handshake iterates. -/
def undisturbed (state : State) (action : Action) : Bool :=
  !(state.shared.replaying && registers state action)

/-- Steps at which no handshake comes to the end of its replay, or no active transaction has an open
block. -/
def concludes (settings : Settings) (state : State) : Action → Bool
  | .resume task reply _ =>
      !state.shared.entersReplay settings task reply ||
        !(state.shared.transactions.all fun transaction =>
          transaction ∈ state.shared.replayedBy task) ||
        state.shared.transactions.all fun transaction =>
          !(state.tasks (.transaction transaction)).inBlock
  | _ => true

/-- A set that is iterated has not changed since. -/
structure State.Walked (state : State) : Prop where
  walked : ∀ connection walk current frame,
    state.shared.handshake = some (connection, .replaying walk current frame) →
    state.shared.transactions.length = walk.size ∧ walk.revision = state.shared.revision

/-- Every open block is in the set, and a set that is iterated has not changed since. -/
structure State.Booked (state : State) : Prop extends state.Walked where
  present : ∀ transaction, (state.tasks (.transaction transaction)).inBlock = true →
    transaction ∈ state.shared.transactions

namespace State.Walked

variable {settings : Settings} {meets : Action → Prop} {state after : State}

theorem of_same (walked : state.Walked)
    (transactions : after.shared.transactions = state.shared.transactions)
    (revision : after.shared.revision = state.shared.revision)
    (reconnect : after.shared.reconnect = state.shared.reconnect) : after.Walked where
  walked := by
    intro connection walk current frame underway
    rw [Shared.handshake_congr reconnect] at underway
    rw [transactions, revision]
    exact walked.walked connection walk current frame underway

/-- A block adds its transaction or removes it while nothing is replayed. -/
theorem of_calm (calm : state.shared.replaying = false)
    (reconnect : after.shared.reconnect = state.shared.reconnect) : after.Walked where
  walked := by
    intro connection walk current frame underway
    rw [Shared.handshake_congr reconnect] at underway
    simp [Shared.replaying, underway] at calm

/-- Steps of a handshake that do not come to the replay. -/
theorem of_early {shared : Shared}
    (early : ∀ connection walk current frame,
      shared.handshake ≠ some (connection, .replaying walk current frame)) :
    ({ state with shared } : State).Walked where
  walked := fun connection walk current frame underway =>
    absurd underway (early connection walk current frame)

/-- Steps of a handshake inside the replay. -/
theorem replays {base : Shared} (reconnect : Reconnect) (connection : ConnectionId) {walk : Walk}
    (transaction : String) (index : Nat) (sized : base.transactions.length = walk.size)
    (revision : walk.revision = base.revision) :
    ({ state with shared := base.replayFrame reconnect connection walk transaction index } :
      State).Walked where
  walked := by
    intro other given current frame underway
    rw [Shared.replayFrame_eq] at underway ⊢
    obtain ⟨-, rfl, -, -⟩ := Shared.eq_of_handshake_replaying underway
    exact ⟨sized, revision⟩

/-- The iteration that a handshake is in has seen no change of the set. -/
theorem of_ready (walked : state.Walked) {reconnect : Reconnect}
    (locked : state.shared.reconnect = some reconnect) {connection : ConnectionId} {point : Enter}
    (phase : reconnect.phase = .entering connection point) {reply : Reply} {base : Shared}
    {rest : List Subscription} {walk : Walk}
    (ready : state.shared.Ready settings connection reply point base rest walk) :
    walk.revision = base.revision ∧ base.transactions.length = walk.size := by
  have underway := Shared.handshake_of_phase locked phase
  cases ready with
  | confirmed => exact ⟨rfl, rfl⟩
  | resubscribed => exact ⟨rfl, rfl⟩
  | committed walk current =>
      obtain ⟨sized, same⟩ := walked.walked connection walk current none underway
      exact ⟨same, sized⟩

theorem reconnects (walked : state.Walked) {task : TaskId} {reply : Reply} {shared : Shared}
    {progress : Progress Unit ConnectionId}
    (effects : state.shared.Reconnects settings task reply shared progress) :
    ({ state with shared } : State).Walked := by
  cases effects with
  | interrupted => exact walked
  | found => exact walked
  | races => exact .of_early (by simp)
  | sleeps => exact .of_early (by simp)
  | leaves => exact .of_early (by simp)
  | opens => exact .of_early (by simp [Shared.startHandshake])
  | fails => exact .of_early (by simp)
  | asks => exact .of_early (by simp)
  | collects => exact .of_early (by simp)
  | subscribes => exact .of_early (by simp)
  | replays reconnect locked owned connection walk current index frame phase =>
      obtain ⟨sized, revision⟩ := walked.walked connection walk current _
        (Shared.handshake_of_phase locked phase)
      exact .replays reconnect connection current _ sized revision
  | picks reconnect locked owned connection point phase ready transaction sized =>
      exact .replays reconnect connection transaction 0 sized
        (walked.of_ready locked phase ready).1
  | changed => exact .of_early (by simp)
  | finishes => exact .of_early (by simp)

theorem transactionMove (walked : state.Walked)
    (kept : ∀ action, meets action → undisturbed state action = true)
    (move : TransactionMove settings meets state after) : after.Walked := by
  have calm : ∀ {action : Action}, meets action → registers state action = true →
      state.shared.replaying = false := by
    intro action met alters
    simpa [undisturbed, alters] using kept action met
  cases move with
  | apart uninvolved blocks =>
      exact walked.of_same uninvolved.transactions uninvolved.revision uninvolved.reconnect
  | discards => exact walked.of_same rfl rfl rfl
  | reconnects task reply choice met effects => exact walked.reconnects effects
  | shifts transaction uninvolved =>
      exact walked.of_same uninvolved.transactions uninvolved.revision uninvolved.reconnect
  | begun transaction left connection standing choice met =>
      exact .of_calm (calm met (by simp [registers, standing]))
        (Shared.reconnect_addTransaction _ _)
  | calls => exact walked.of_same rfl rfl rfl
  | hands => exact walked.of_same rfl rfl rfl
  | writes => exact walked.of_same rfl rfl rfl
  | commits => exact walked.of_same rfl rfl rfl
  | postpones => exact walked.of_same rfl rfl rfl
  | aborts => exact walked.of_same rfl rfl rfl
  | forgets transaction failed inside inactive met =>
      exact .of_calm (calm met (by simp [registers, inactive])) (reconnect_removeTransaction _ _)
  | committed transaction connection standing choice met =>
      exact .of_calm (calm met (by simp [registers, standing])) (reconnect_removeTransaction _ _)
  | aborted transaction writing standing uninvolved reply choice met ended =>
      refine .of_calm (calm met ?_)
        ((reconnect_removeTransaction _ _).trans uninvolved.reconnect)
      rcases ended with rfl | ⟨rfl, connection, rfl, gone⟩
      · simp [registers, standing]
      · simp [registers, standing, gone]

end State.Walked

theorem walked_of_reaches {settings : Settings} {allowed : State → Action → Prop}
    (kept : ∀ state action, allowed state action → undisturbed state action = true) {state : State}
    (reach : (client settings).Reaches allowed state) : state.Walked := by
  refine @invariant_of_transactionMoves settings allowed State.Walked ⟨?_⟩ ?_ state reach
  · simp [client, Shared.handshake]
  · intro before after _ walked move
    exact walked.transactionMove (kept before) move

namespace State.Booked

variable {settings : Settings} {meets : Action → Prop} {state : State}

/-- A block moves without a change of the set. -/
theorem store (booked : state.Booked) {own : String} {resumed : Resumed}
    (walked : (state.store (.transaction own) resumed).Walked)
    (transactions : resumed.shared.transactions = state.shared.transactions)
    (moved : resumed.point.inBlock = true →
      (state.tasks (.transaction own)).inBlock = true)
    (spawned : resumed.spawned = none) : (state.store (.transaction own) resumed).Booked where
  toWalked := walked
  present := by
    refine forall_transactions_store (fun transaction point => point.inBlock = true →
      transaction ∈ resumed.shared.transactions) ?_ ?_ spawned
    · intro transaction _ inside
      rw [transactions]
      exact booked.present transaction inside
    · intro inside
      rw [transactions]
      exact booked.present own (moved inside)

/-- A block adds its transaction or removes it. -/
theorem alters (booked : state.Booked) {own : String} {resumed : Resumed}
    (walked : (state.store (.transaction own) resumed).Walked)
    (others : ∀ transaction, transaction ≠ own → transaction ∈ state.shared.transactions →
      transaction ∈ resumed.shared.transactions)
    (moved : resumed.point.inBlock = true → own ∈ resumed.shared.transactions)
    (spawned : resumed.spawned = none) : (state.store (.transaction own) resumed).Booked where
  toWalked := walked
  present := by
    refine forall_transactions_store (fun transaction point => point.inBlock = true →
      transaction ∈ resumed.shared.transactions) ?_ moved spawned
    intro transaction other inside
    exact others transaction other (booked.present transaction inside)

/-- `__aexit__` removes its transaction. -/
theorem removes (booked : state.Booked) {own : String} {shared : Shared}
    (walked : (state.store (.transaction own) (removeTransaction own shared)).Walked)
    (transactions : shared.transactions = state.shared.transactions) :
    (state.store (.transaction own) (removeTransaction own shared)).Booked := by
  unfold removeTransaction at walked ⊢
  split
  · rename_i listed
    rw [if_pos listed] at walked
    refine booked.alters walked ?_ (by simp [Point.inBlock]) rfl
    intro transaction other member
    rw [← transactions] at member
    exact (List.mem_erase_of_ne other).mpr member
  · rename_i missing
    rw [if_neg missing] at walked
    refine booked.alters walked ?_ (by simp [Point.inBlock]) rfl
    intro transaction _ member
    rwa [transactions]

theorem visited_of_ready {reconnect : Reconnect} {task : TaskId}
    (locked : state.shared.reconnect = some reconnect) (owned : reconnect.owner = task)
    {connection : ConnectionId} {point : Enter}
    (phase : reconnect.phase = .entering connection point) {reply : Reply} {base : Shared}
    {rest : List Subscription} {walk : Walk}
    (ready : state.shared.Ready settings connection reply point base rest walk) :
    walk.visited = state.shared.replayedBy task := by
  have inside := Shared.entering_of_phase locked owned phase
  cases ready with
  | confirmed => simp [Shared.replayedBy, inside, Shared.freshWalk]
  | resubscribed => simp [Shared.replayedBy, inside, Shared.freshWalk]
  | committed => simp [Shared.replayedBy, inside]

/-- A handshake that ends finds no open block in the set. -/
theorem present_of_reconnects (booked : state.Booked) {task : TaskId} {reply : Reply}
    {choice : Choice} {after : Shared} {progress : Progress Unit ConnectionId}
    (concluding : concludes settings state (.resume task reply choice) = true)
    (effects : state.shared.Reconnects settings task reply after progress) {transaction : String}
    (inside : (state.tasks (.transaction transaction)).inBlock = true) :
    transaction ∈ after.transactions := by
  have member := booked.present transaction inside
  cases effects with
  | interrupted => exact member
  | found => exact member
  | races => exact member
  | sleeps => exact member
  | leaves => exact member
  | opens => exact member
  | fails => exact member
  | asks => exact member
  | collects => exact member
  | subscribes reconnect locked owned connection point phase subscription remaining ready =>
      rw [← ready.base.transactions] at member
      exact member
  | replays =>
      rw [Shared.replayFrame_eq]
      exact member
  | picks reconnect locked owned connection point phase ready =>
      rw [Shared.replayFrame_eq]
      rw [← ready.base.transactions] at member
      exact member
  | changed reconnect locked owned connection point phase ready =>
      rw [← ready.base.transactions] at member
      exact member
  | finishes reconnect locked owned connection point phase ready sized complete =>
      have replayed := complete (booked.of_ready locked phase ready).1
      rw [ready.base.transactions, visited_of_ready locked owned phase ready] at replayed
      have entered := Shared.entersReplay_of_ready locked owned phase ready
      simp only [concludes, entered, Bool.not_true, Bool.false_or, Bool.or_eq_true,
        Bool.not_eq_true', List.all_eq_false, List.all_eq_true, decide_eq_true_eq] at concluding
      rcases concluding with ⟨missing, listed, unvisited⟩ | outside
      · exact absurd (replayed missing listed) unvisited
      · rw [outside transaction member] at inside
        contradiction

theorem transactionMove (booked : state.Booked) {after : State}
    (orderly : ∀ action, meets action →
      undisturbed state action = true ∧ concludes settings state action = true)
    (move : TransactionMove settings meets state after) : after.Booked := by
  have walked : after.Walked :=
    booked.toWalked.transactionMove (fun action met => (orderly action met).1) move
  cases move with
  | apart uninvolved blocks =>
      refine ⟨walked, ?_⟩
      intro transaction inside
      rw [blocks] at inside
      rw [uninvolved.transactions]
      exact booked.present transaction inside
  | discards => exact ⟨walked, booked.present⟩
  | reconnects task reply choice met effects =>
      exact ⟨walked, fun _ => booked.present_of_reconnects (orderly _ met).2 effects⟩
  | shifts transaction uninvolved shift =>
      refine booked.store walked uninvolved.transactions ?_ rfl
      intro inside
      generalize state.tasks (.transaction transaction) = before at shift
      cases shift <;> first | rfl | contradiction
  | begun transaction =>
      refine booked.alters walked ?_ ?_ rfl
      · intro other _ member
        exact (Shared.mem_addTransaction _ _ _).mpr (.inl member)
      · intro _
        exact (Shared.mem_addTransaction _ _ _).mpr (.inr rfl)
  | calls transaction arguments failed inside =>
      exact booked.store walked rfl (fun _ => by rw [inside]; rfl) rfl
  | hands transaction failed frame writing standing =>
      exact booked.store walked rfl (fun _ => by rw [standing]; rfl) rfl
  | writes transaction failed frame left connection standing =>
      exact booked.store walked rfl (fun _ => by rw [standing]; rfl) rfl
  | commits transaction failed met inside =>
      exact booked.store walked rfl (fun _ => by rw [inside]; rfl) rfl
  | postpones =>
      exact booked.store walked rfl (fun within => absurd within (by simp [Point.inBlock])) rfl
  | aborts transaction failed inside =>
      exact booked.store walked rfl (fun _ => by rw [inside]; rfl) rfl
  | forgets => exact booked.removes walked rfl
  | committed => exact booked.removes walked rfl
  | aborted transaction writing standing uninvolved =>
      exact booked.removes walked uninvolved.transactions

end State.Booked

/-! ## Exceptions of a block -/

section Exceptions

variable {settings : Settings} {state after : State} {action : Action} {transaction : String}
  {failure : Failure}

theorem MaybeWrite.transactions_of_resume {frame : Frame} {point : MaybeWrite} {reply : Reply}
    {shared next : Shared} {progress : Progress MaybeWrite Bool}
    (resumed : point.resume frame reply shared = some (next, progress)) :
    next.transactions = shared.transactions := by
  cases maybeResume_effects resumed <;> rfl

/-- The end of `__aexit__` finds its transaction. -/
theorem Duty.completed_ne_raised {duty : Duty} (runs : duty.Runs (.transaction transaction))
    (written : Bool) {shared : Shared} (present : transaction ∈ shared.transactions) :
    (duty.completed written shared).point ≠ .raised failure := by
  cases duty with
  | abort own =>
      obtain rfl := TaskId.transaction.inj runs
      simp [Duty.completed, removeTransaction, present]
  | commit own =>
      obtain rfl := TaskId.transaction.inj runs
      cases written <;> simp [Duty.completed, removeTransaction, present]
  | unsubscribe => simp [Duty.Runs] at runs
  | settle => simp [Duty.Runs] at runs
  | acknowledge => simp [Duty.Runs] at runs

/-- `__aexit__` up to its first `await`. -/
theorem Duty.start_ne_raised {duty : Duty} (runs : duty.Runs (.transaction transaction))
    {shared : Shared} (present : transaction ∈ shared.transactions) :
    (duty.proceed (MaybeWrite.start duty.frame shared)).point ≠ .raised failure := by
  have effects := maybeStart_effects duty.frame shared
  generalize MaybeWrite.start duty.frame shared = result at effects
  obtain ⟨next, progress⟩ := result
  cases effects with
  | drops => exact Duty.completed_ne_raised runs false present
  | hands => cases duty <;> simp [Duty.proceed, Duty.point]

/-- `__aexit__` from an `await` on. -/
theorem Duty.resume_ne_raised {duty : Duty} (runs : duty.Runs (.transaction transaction))
    {writing : MaybeWrite} (standing : state.tasks (.transaction transaction) = duty.point writing)
    (present : transaction ∈ state.shared.transactions) {reply : Reply} {choice : Choice}
    (absorbs : state.Absorbs settings (.transaction transaction) reply choice) {resumed : Resumed}
    (resumes : (duty.point writing).resume settings (.transaction transaction) reply choice
      state.shared = some resumed) : resumed.point ≠ .raised failure := by
  rw [Duty.resume_point runs] at resumes
  obtain ⟨⟨next, progress⟩, written, rfl⟩ := Option.map_eq_some_iff.mp resumes
  cases progress with
  | suspended => cases duty <;> simp [Duty.proceed, Duty.point]
  | returned outcome =>
      refine Duty.completed_ne_raised runs outcome ?_
      rwa [MaybeWrite.transactions_of_resume written]
  | raised leaving =>
      exact absurd written (absorbs.maybeWrites duty writing next leaving runs standing)

/-- A block that goes on from an `await` raises only what the write of its BEGIN raises. -/
theorem exhausted_of_resume (fits : state.Fits) (booked : state.Booked) {reply : Reply}
    {choice : Choice} (absorbs : state.Absorbs settings (.transaction transaction) reply choice)
    {resumed : Resumed}
    (resumes : (state.tasks (.transaction transaction)).resume settings (.transaction transaction)
      reply choice state.shared = some resumed)
    (raised : resumed.point = .raised failure) : failure.Exhausted := by
  have own := fits.tasks (.transaction transaction)
  generalize standing : state.tasks (.transaction transaction) = point at resumes own
  cases point with
  | beginning writing =>
      obtain ⟨⟨next, progress⟩, written, rfl⟩ := Option.map_eq_some_iff.mp resumes
      cases progress with
      | suspended => simp [begun] at raised
      | returned => simp [begun] at raised
      | raised leaving =>
          obtain rfl : leaving = failure := by simpa [begun] using raised
          exact absorbs.writes (.begin transaction) writing next leaving rfl standing written
  | transacting failed frame writing =>
      obtain ⟨⟨next, progress⟩, written, rfl⟩ := Option.map_eq_some_iff.mp resumes
      cases progress <;> simp [transacted] at raised
  | aborting writing =>
      exact absurd raised (@Duty.resume_ne_raised settings state transaction failure
        (.abort transaction) rfl writing standing
        (booked.present transaction (by rw [standing]; rfl)) reply choice absorbs resumed resumes)
  | committing writing =>
      exact absurd raised (@Duty.resume_ne_raised settings state transaction failure
        (.commit transaction) rfl writing standing
        (booked.present transaction (by rw [standing]; rfl)) reply choice absorbs resumed resumes)
  | _ => simp_all [Point.Fits, Job.Runs, Duty.Runs, Point.resume]

/-- The end of a block whose transaction is in the set does not raise. -/
theorem exit_ne_raised (booked : state.Booked) {failed : Bool}
    (inside : state.tasks (.transaction transaction) = .inside failed) {duty : Duty}
    (runs : duty.Runs (.transaction transaction)) (event : Event) :
    (state.store (.transaction transaction) (duty.proceed (MaybeWrite.start duty.frame
      (state.shared.emit event)))).tasks (.transaction transaction) ≠ .raised failure := by
  have present := booked.present transaction (by rw [inside]; rfl)
  rw [State.tasks_store_of_unspawned (Duty.spawned_proceed duty _)]
  exact Duty.start_ne_raised runs present

/-- A block whose transaction is in the set ends with an exception of a retry loop only. -/
theorem raised_of_step (fits : state.Fits) (booked : state.Booked)
    (stepped : step settings state action = some after)
    (absorbs : ∀ reply choice, action = .resume (.transaction transaction) reply choice →
      state.Absorbs settings (.transaction transaction) reply choice)
    (raised : after.tasks (.transaction transaction) = .raised failure) :
    state.tasks (.transaction transaction) = .raised failure ∨ failure.Exhausted := by
  by_cases named : action.task = some (.transaction transaction)
  · right
    cases steps_of_step stepped with
    | begin own =>
        obtain rfl : own = transaction := by simpa [Action.task] using named
        have effects := start_effects settings (beginFrame own) state.shared
        generalize WriteFrame.start settings (beginFrame own) state.shared = result
          at effects raised
        obtain ⟨next, progress⟩ := result
        cases effects with
        | exhausted =>
            obtain rfl : .failedAllWriteAttempts = failure := by
              simpa [begun, State.tasks_store] using raised
            trivial
        | hands => simp [begun, State.tasks_store] at raised
        | awaits => simp [begun, State.tasks_store] at raised
    | transactionSend own arguments =>
        obtain rfl : own = transaction := by simpa [Action.task] using named
        generalize WriteFrame.start settings _ _ = result at raised
        obtain ⟨next, progress⟩ := result
        cases progress <;> simp [transacted, State.tasks_store] at raised
    | commit own failed inside =>
        obtain rfl : own = transaction := by simpa [Action.task] using named
        rw [← Duty.proceed_commit] at raised
        exact absurd raised (@exit_ne_raised _ _ _ booked failed inside (.commit own) rfl _)
    | abort own failed inside =>
        obtain rfl : own = transaction := by simpa [Action.task] using named
        exact absurd raised (@exit_ne_raised _ _ _ booked failed inside (.abort own) rfl _)
    | resume task reply choice created resumes =>
        obtain rfl : task = .transaction transaction := by simpa [Action.task] using named
        have unspawned := spawned_of_resume fits resumes
        simp only [reduceCtorEq, false_and, or_false] at unspawned
        rw [State.tasks_store_of_unspawned unspawned] at raised
        exact exhausted_of_resume fits booked (absorbs reply choice rfl) resumes raised
    | _ => simp [Action.task] at named
  · left
    rw [← raised]
    exact (tasks_of_step fits stepped named (by simp) (by simp)).symm

end Exceptions

/-! ## Runs -/

/-- Runs in which the set is left alone while it is iterated and no open block is in it when it is
cleared.  Spared tasks are not cancelled, their connections keep their contract, and the task group
takes the tasks of their handshakes. -/
def Orderly (settings : Settings) (spared : TaskId → Prop) (state : State) (action : Action) :
    Prop :=
  undisturbed state action = true ∧ concludes settings state action = true ∧
    ∀ task reply choice, action = .resume task reply choice → spared task →
      mild state action = true ∧ enlists state action = true ∧
        confirms settings state action = true

section Runs

variable {settings : Settings} {spared : TaskId → Prop} {state : State}

theorem booked_of_reaches (reach : (client settings).Reaches (Orderly settings spared) state) :
    state.Booked := by
  refine @invariant_of_transactionMoves settings (Orderly settings spared) State.Booked ⟨⟨?_⟩, ?_⟩
    ?_ state reach
  · simp [client, Shared.handshake]
  · simp [client, initialTasks, Point.inBlock]
  · intro before after _ booked move
    exact booked.transactionMove (fun action met => ⟨met.1, met.2.1⟩) move

/-- A replay meets the set that it started with. -/
theorem State.Walked.steady (walked : state.Walked) (task : TaskId) (reply : Reply)
    (choice : Choice) : steady state (.resume task reply choice) = true := by
  cases reply with
  | returned =>
      simp only [Stompman.steady]
      split
      · rename_i walk current inside
        obtain ⟨reconnect, connection, locked, -, phase⟩ := Shared.handshake_of_entering inside
        have underway := Shared.handshake_of_phase locked phase
        exact decide_eq_true (walked.walked connection walk current none underway).1
      · rfl
  | _ => rfl

theorem absorbs_of_orderly (reach : (client settings).Reaches (Orderly settings spared) state)
    {task : TaskId} (named : spared task) {reply : Reply} {choice : Choice}
    (meets : mild state (.resume task reply choice) = true) :
    state.Absorbs settings task reply choice := by
  have clean : state.shared.Clean settings spared := by
    refine clean_of_reaches ?_ reach
    intro before task reply choice reach ⟨_, _, restricted⟩ named _
    obtain ⟨gentle, -, confirmed⟩ := restricted task reply choice rfl named
    exact ⟨gentle, confirmed, (booked_of_reaches reach).steady task reply choice⟩
  exact State.absorbs_of_mild (fits_of_reaches reach) (guarded_of_reaches reach) clean named
    fun _ => meets

end Runs

/-- The book-keeping of transactions does not fail. -/
structure State.Bookkept (settings : Settings) (spared : TaskId → Prop) (state : State) : Prop where
  /-- The removal in `__aexit__` will find its transaction. -/
  present : ∀ transaction, (state.tasks (.transaction transaction)).inBlock = true →
    transaction ∈ state.shared.transactions
  /-- The iteration in `commit_pending_transactions` finds a set of the same size. -/
  unchanged : ∀ connection walk current frame,
    state.shared.handshake = some (connection, .replaying walk current frame) →
    state.shared.transactions.length = walk.size
  /-- The writes of a block raise only the exceptions of the retry loops. -/
  writes : ∀ transaction reply choice, spared (.transaction transaction) →
    mild state (.resume (.transaction transaction) reply choice) = true →
    enlists state (.resume (.transaction transaction) reply choice) = true →
    state.Absorbs settings (.transaction transaction) reply choice
  /-- A block that has ended with an exception of the client has ended with one of those. -/
  ends : ∀ transaction failure, spared (.transaction transaction) →
    state.tasks (.transaction transaction) = .raised failure → failure.Exhausted

/-- The book-keeping does not fail in any run in which no block begins or ends during a replay, no
handshake ends inside a block and no background task has failed during a handshake of a block. -/
theorem bookkept_of_orderly (settings : Settings) (spared : TaskId → Prop) (state : State)
    (reach : (client settings).Reaches (Orderly settings spared) state) :
    state.Bookkept settings spared := by
  have booked := booked_of_reaches reach
  refine ⟨booked.present, ?_, ?_, ?_⟩
  · intro connection walk current frame underway
    exact (booked.walked connection walk current frame underway).1
  · intro transaction reply choice named meets _
    exact absorbs_of_orderly reach named meets
  · refine @System.Reaches.invariant _ _ (client settings) (Orderly settings spared)
      (fun state => ∀ transaction failure, spared (.transaction transaction) →
        state.tasks (.transaction transaction) = .raised failure → failure.Exhausted)
      (by simp [client, initialTasks]) ?_ state reach
    intro before after action reach known meets stepped transaction failure named raised
    refine (raised_of_step (fits_of_reaches reach) (booked_of_reaches reach) stepped ?_ raised).elim
      (known transaction failure named) id
    rintro reply choice rfl
    exact absorbs_of_orderly reach named (meets.2.2 _ reply choice rfl named).1

/-- A block whose COMMIT is replayed after its end. -/
theorem bookkept_of_orderly_replaysAfterExit :
    ∃ state, (client plainSettings).Reaches (Orderly plainSettings fun _ => True) state ∧
      .wrote 1 (commitFrame "t") ∈ state.shared.trace ∧
      state.Bookkept plainSettings fun _ => True := by
  obtain ⟨state, reach, written⟩ := @System.exists_of_replay _ _ (client plainSettings)
    (Orderly plainSettings fun _ => True)
    (fun state action => undisturbed state action && concludes plainSettings state action &&
      (mild state action && enlists state action && confirms plainSettings state action))
    (by
      intro state action passes
      simp only [Bool.and_eq_true, and_assoc] at passes
      exact ⟨passes.1, passes.2.1, fun _ _ _ _ _ => passes.2.2⟩)
    replaysAfterExit (fun state => decide (.wrote 1 (commitFrame "t") ∈ state.shared.trace))
    (by decide +kernel)
  exact ⟨state, reach, of_decide_eq_true written, bookkept_of_orderly plainSettings _ state reach⟩

/-- A handshake ends inside a block, and the block is left. -/
def exitsAfterReplay : List Action :=
  enters ++ [.begin "t", returns (.transaction "t")] ++ loses ++ connects .listener (some "t") ++
    [returns .listener, .exit "t" true, returns (.transaction "t")]

/-- The removal of a transaction that a handshake has cleared raises `KeyError`. -/
theorem not_forall_bookkept :
    ¬ ∀ (settings : Settings) (state : State),
      (client settings).Reaches
        (fun state action => mild state action = true ∧ confirms settings state action = true)
        state → state.Bookkept settings fun _ => True := by
  intro always
  obtain ⟨state, reach, fails⟩ := @System.exists_of_replay _ _ (client plainSettings)
    (fun state action => mild state action = true ∧ confirms plainSettings state action = true)
    (fun state action => mild state action && confirms plainSettings state action)
    (by simp) exitsAfterReplay
    (fun state => (state.tasks (.transaction "t")).missesKey)
    (by decide +kernel)
  exact (always plainSettings state reach).ends "t" .keyError trivial
    (Point.eq_of_missesKey fails)

end Stompman
