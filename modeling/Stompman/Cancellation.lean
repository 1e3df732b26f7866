import Mathlib.Algebra.Order.BigOperators.Group.List
import Stompman.Bookkeeping

/-!
# A handshake that the manager itself cancels

A handshake restarts the heartbeat task as soon as it has read CONNECTED, and the restart cancels
the task that runs now.  If that is the task that runs the handshake, the next `await` of the
handshake raises: the SUBSCRIBE of an active subscription, or a frame of a replayed transaction.
Apart from this, from a set of transactions that changes during the replay and from a task group
that is aborting, a handshake whose operations succeed comes to its end.
-/

namespace Stompman

open Foundation

/-! ## Steps -/

namespace Shared

/-- Heartbeat tasks that `_restart_background_tasks` has cancelled. -/
def cancels (shared : Shared) : TaskId → Bool
  | .heartbeat generation => generation + 1 < shared.heartbeats
  | _ => false

/-- No handshake before its confirmation is run by the current heartbeat task while there is
something to resubscribe or to replay. -/
def unthreatened (shared : Shared) : Bool :=
  match shared.reconnect with
  | some ⟨.heartbeat generation, _, .entering _ (.writingConnect _)⟩
  | some ⟨.heartbeat generation, _, .entering _ (.readingConnected _)⟩ =>
      generation + 1 ≠ shared.heartbeats ||
        (shared.subscriptions.getAll.isEmpty && shared.transactions.isEmpty)
  | _ => true

/-- What a task that runs a handshake gets when its operations succeed: its writes return and a
valid CONNECTED frame arrives.  A write of a task that the manager has cancelled may raise. -/
inductive Favours (settings : Settings) (shared : Shared) (task : TaskId) : Reply → Prop
  | wrote (point : Enter) (inside : shared.entering task = some point)
      (writing : ∀ collected, point ≠ .readingConnected collected) :
      Favours settings shared task .returned
  | confirmed (collected : List AnyFrame)
      (inside : shared.entering task = some (.readingConnected collected)) (connected : Frame)
      (type : connected.type = .connected) (heartbeat : Heartbeat)
      (established : confirm settings.protocolVersion connected = .ok (.established heartbeat)) :
      Favours settings shared task (.frame (.frame connected))
  | cancelled (point : Enter) (inside : shared.entering task = some point)
      (cancelled : shared.cancels task = true) : Favours settings shared task (.raised .cancelled)

end Shared

/-- A task that the manager has cancelled does not get through a race of connection attempts, which
suspends it. -/
def obeys (state : State) : Action → Bool
  | .resume task reply _ =>
      !state.shared.cancels task || reply = .raised .cancelled ||
        match state.shared.reconnect with
        | some ⟨owner, _, .racing _⟩ => owner ≠ task
        | _ => true
  | _ => true

/-- Steps at which no CONNECTED frame establishes a connection, or the restart of the heartbeat task
does not concern the rest of the handshake. -/
def spares (settings : Settings) (state : State) : Action → Bool
  | .resume task (.frame (.frame connected)) _ =>
      match state.shared.entering task, confirm settings.protocolVersion connected with
      | some (.readingConnected _), .ok (.established _) =>
          connected.type ≠ .connected || state.shared.unthreatened
      | _, _ => true
  | _ => true

/-- Steps that meet the conditions under which handshakes come to their end. -/
def Peaceful (settings : Settings) (state : State) (action : Action) : Prop :=
  obeys state action = true ∧ undisturbed state action = true ∧
    spares settings state action = true ∧ enlists state action = true

/-! ## Who runs a handshake -/

/-- The manager has not cancelled the task that runs a handshake. -/
def Shared.Uncancelled (shared : Shared) : Prop :=
  ∀ reconnect connection point, shared.reconnect = some reconnect →
    reconnect.phase = .entering connection point → shared.cancels reconnect.owner = false

namespace Shared.Uncancelled

variable {settings : Settings} {task : TaskId} {reply : Reply} {shared after : Shared}
  {progress : Progress Unit ConnectionId}

theorem of_same (uncancelled : shared.Uncancelled) (reconnect : after.reconnect = shared.reconnect)
    (heartbeats : after.heartbeats = shared.heartbeats) : after.Uncancelled := by
  intro other connection point locked phase
  rw [reconnect] at locked
  have kept := uncancelled other connection point locked phase
  unfold cancels at kept ⊢
  rwa [heartbeats]

/-- The same task goes on with its handshake. -/
theorem hold (uncancelled : shared.Uncancelled) {reconnect : Reconnect}
    (locked : shared.reconnect = some reconnect) {connection : ConnectionId} {point : Enter}
    (phase : reconnect.phase = .entering connection point) {base : Shared} {next : Phase}
    (heartbeats : base.heartbeats = shared.heartbeats) :
    (base.hold reconnect next).Uncancelled := by
  intro other _ _ held _
  obtain rfl := Option.some.inj held
  have kept := uncancelled reconnect connection point locked phase
  unfold cancels at kept ⊢
  rwa [show (base.hold reconnect next).heartbeats = shared.heartbeats from heartbeats]

/-- A restart of the heartbeat task that does not concern the task that runs the handshake. -/
theorem restart (uncancelled : shared.Uncancelled) {reconnect : Reconnect}
    (locked : shared.reconnect = some reconnect) {connection : ConnectionId} {point : Enter}
    (phase : reconnect.phase = .entering connection point) {base : Shared} {next : Phase}
    (heartbeats : base.heartbeats = shared.heartbeats + 1)
    (other : ∀ generation, reconnect.owner = .heartbeat generation →
      generation + 1 ≠ shared.heartbeats) : (base.hold reconnect next).Uncancelled := by
  intro held _ _ same _
  obtain rfl := Option.some.inj same
  have kept := uncancelled reconnect connection point locked phase
  have now : (base.hold reconnect next).heartbeats = shared.heartbeats + 1 := heartbeats
  unfold cancels at kept ⊢
  simp only at kept ⊢
  split
  · rename_i generation owner
    rw [owner] at kept
    have different := other generation owner
    simp only [decide_eq_false_iff_not] at kept
    simp only [now, decide_eq_false_iff_not]
    omega
  · rfl

theorem of_calm (calm : after.handshake = none) : after.Uncancelled := by
  intro reconnect connection point locked phase
  rw [handshake_of_phase locked phase] at calm
  contradiction

/-- An exception ends a race. -/
theorem raised_of_racing {reconnect : Reconnect} (locked : shared.reconnect = some reconnect)
    (owned : reconnect.owner = task) {pending : List Nat}
    (phase : reconnect.phase = .racing pending)
    {failure : Failure} {pick : Option String}
    (resumed : shared.resumeConnecting settings task (.raised failure) pick =
      some (after, progress)) : progress = .raised failure := by
  simp only [resumeConnecting, locked, owned, if_true, resumeReconnect, phase, Option.some.injEq,
    Prod.mk.injEq] at resumed
  exact resumed.2.symm

/-- At the confirmation, the task that runs the handshake is not the one that is cancelled, or
nothing is left to do. -/
theorem other_of_unthreatened (safe : shared.unthreatened = true) {reconnect : Reconnect}
    (locked : shared.reconnect = some reconnect) {connection : ConnectionId}
    {collected : List AnyFrame}
    (phase : reconnect.phase = .entering connection (.readingConnected collected))
    (busy : shared.subscriptions.getAll ≠ [] ∨ shared.transactions ≠ []) (generation : Nat)
    (owner : reconnect.owner = .heartbeat generation) : generation + 1 ≠ shared.heartbeats := by
  obtain ⟨held, issues, reached⟩ := reconnect
  obtain rfl : held = .heartbeat generation := owner
  obtain rfl : reached = .entering connection (.readingConnected collected) := phase
  simp only [unthreatened, locked, Bool.or_eq_true, decide_eq_true_eq, Bool.and_eq_true,
    List.isEmpty_iff] at safe
  rcases safe with different | ⟨unsubscribed, unopened⟩
  · exact different
  · rcases busy with subscribed | opened
    · exact absurd unsubscribed subscribed
    · exact absurd unopened opened

theorem reconnects {state : State} (uncancelled : state.shared.Uncancelled) {choice : Choice}
    (obedient : obeys state (.resume task reply choice) = true)
    (spared : spares settings state (.resume task reply choice) = true)
    (resumed : state.shared.resumeConnecting settings task reply choice.pick =
      some (after, progress)) : after.Uncancelled := by
  -- a handshake that goes on after CONNECTED, or after a write
  have continues : ∀ {reconnect : Reconnect} {connection : ConnectionId} {point : Enter}
      {base held : Shared} {rest : List Subscription} {walk : Walk} {next : Phase},
      state.shared.reconnect = some reconnect → reconnect.owner = task →
      reconnect.phase = .entering connection point →
      state.shared.Ready settings connection reply point base rest walk →
      held.heartbeats = base.heartbeats →
      rest ≠ [] ∨ base.transactions ≠ [] → (held.hold reconnect next).Uncancelled := by
    intro reconnect connection point base held rest walk next locked owned phase ready same busy
    cases ready with
    | confirmed collected type established =>
        refine uncancelled.restart locked phase same ?_
        have inside := entering_of_phase locked owned phase
        have safe : state.shared.unthreatened = true := by
          simpa [spares, inside, established, type] using spared
        exact fun generation => other_of_unthreatened safe locked phase busy generation
    | resubscribed => exact uncancelled.hold locked phase same
    | committed => exact uncancelled.hold locked phase same
  have effects := reconnects_resumeConnecting resumed
  cases effects with
  | interrupted => exact uncancelled
  | found => exact uncancelled
  | races => exact of_calm rfl
  | sleeps => exact of_calm rfl
  | leaves => exact of_calm rfl
  | opens reconnect locked owned calm pending server racing =>
      obtain ⟨others, phase⟩ := racing
      have passed : state.shared.cancels task = false := by
        by_contra cancelled
        rw [Bool.not_eq_false] at cancelled
        have raised : reply = .raised .cancelled := by
          obtain ⟨owner, issues, reached⟩ := reconnect
          obtain rfl : owner = task := owned
          obtain rfl : reached = .racing others := phase
          simpa [obeys, cancelled, locked] using obedient
        subst raised
        have ended := raised_of_racing locked owned phase resumed
        contradiction
      intro other _ _ held _
      obtain rfl := Option.some.inj held
      rw [← owned] at passed
      exact passed
  | fails => exact of_calm rfl
  | asks reconnect locked owned connection server phase => exact uncancelled.hold locked phase rfl
  | collects reconnect locked owned connection collected phase =>
      exact uncancelled.hold locked phase rfl
  | subscribes reconnect locked owned connection point phase subscription remaining ready =>
      exact continues locked owned phase ready rfl (.inl (by simp))
  | replays reconnect locked owned connection walk current index frame phase =>
      rw [replayFrame_eq]
      exact uncancelled.hold locked phase rfl
  | picks reconnect locked owned connection point phase ready transaction sized present =>
      rw [replayFrame_eq]
      exact continues locked owned phase ready rfl (.inr (List.ne_nil_of_mem present))
  | changed => exact of_calm rfl
  | finishes => exact of_calm rfl

end Shared.Uncancelled

theorem uncancelled_of_reaches {settings : Settings} {state : State}
    (reach : (client settings).Reaches (Peaceful settings) state) : state.shared.Uncancelled := by
  refine @System.Reaches.invariant _ _ (client settings) (Peaceful settings)
    (fun state => state.shared.Uncancelled) (.of_calm rfl) ?_ state reach
  intro before after action reach uncancelled meets stepped
  cases Drives.of_step (fits_of_reaches reach) stepped with
  | apart _ beside => exact uncancelled.of_same beside.reconnect beside.heartbeats
  | opens => exact uncancelled.of_same rfl rfl
  | waits task reply choice standing resumed =>
      exact uncancelled.reconnects meets.1 meets.2.2.1 resumed
  | leaves task reply choice standing resumed ended beside =>
      exact (uncancelled.reconnects meets.1 meets.2.2.1 resumed).of_same beside.reconnect
        beside.heartbeats

/-! ## Tasks inside a handshake can be resumed -/

section Resumption

variable {settings : Settings} {state after : State} {action : Action} {task : TaskId}
  {reply : Reply} {choice : Choice}

theorem Shared.Ready.heartbeats_le {shared base : Shared} {connection : ConnectionId}
    {point : Enter} {rest : List Subscription} {walk : Walk}
    (ready : shared.Ready settings connection reply point base rest walk) :
    shared.heartbeats ≤ base.heartbeats := by
  cases ready with
  | confirmed => exact Nat.le_succ _
  | resubscribed => exact Nat.le_refl _
  | committed => exact Nat.le_refl _

theorem Shared.Reconnects.heartbeats_le {shared next : Shared}
    {progress : Progress Unit ConnectionId}
    (effects : shared.Reconnects settings task reply next progress) :
    shared.heartbeats ≤ next.heartbeats := by
  cases effects with
  | subscribes reconnect locked owned connection point phase subscription remaining ready =>
      exact ready.heartbeats_le
  | replays =>
      rw [Shared.replayFrame_eq]
      exact Nat.le_refl _
  | picks reconnect locked owned connection point phase ready =>
      rw [Shared.replayFrame_eq]
      exact ready.heartbeats_le
  | changed reconnect locked owned connection point phase ready => exact ready.heartbeats_le
  | finishes reconnect locked owned connection point phase ready => exact ready.heartbeats_le
  | _ => exact Nat.le_refl _

theorem Drives.heartbeats_le (drives : Drives settings state action after) :
    state.shared.heartbeats ≤ after.shared.heartbeats := by
  cases drives with
  | apart _ beside => exact Nat.le_of_eq beside.heartbeats.symm
  | opens => exact Nat.le_refl _
  | waits task reply choice standing resumed =>
      exact (Shared.reconnects_resumeConnecting resumed).heartbeats_le
  | leaves task reply choice standing resumed ended beside =>
      rw [beside.heartbeats]
      exact (Shared.reconnects_resumeConnecting resumed).heartbeats_le

/-- Heartbeat tasks run after they have been created. -/
theorem created_of_reaches {allowed : State → Action → Prop}
    (reach : (client settings).Reaches allowed state) (generation : Nat) :
    state.tasks (.heartbeat generation) = .heartbeat .created ∨
      generation < state.shared.heartbeats := by
  refine @System.Reaches.invariant _ _ (client settings) allowed
    (fun state => state.tasks (.heartbeat generation) = .heartbeat .created ∨
      generation < state.shared.heartbeats) (.inl rfl) ?_ state reach
  intro before after action reach known _ stepped
  have grows := (Drives.of_step (fits_of_reaches reach) stepped).heartbeats_le
  by_cases named : action.task = some (.heartbeat generation)
  · right
    cases steps_of_step stepped with
    | resume task reply choice created =>
        obtain rfl : task = .heartbeat generation := by simpa [Action.task] using named
        exact Nat.lt_of_lt_of_le (of_decide_eq_true created) grows
    | _ => simp [Action.task] at named
  · rw [tasks_of_step (fits_of_reaches reach) stepped named (by simp) (by simp)]
    exact known.imp_right fun created => Nat.lt_of_lt_of_le created grows

theorem Shared.Ready.monitors_eq {shared base : Shared} {connection : ConnectionId}
    {point : Enter} {rest : List Subscription} {walk : Walk}
    (ready : shared.Ready settings connection reply point base rest walk) :
    base.monitors = shared.monitors := by
  cases ready <;> rfl

theorem Shared.Reconnects.monitors_eq {shared next : Shared}
    (effects : shared.Reconnects settings task reply next (.suspended ())) :
    next.monitors = shared.monitors := by
  cases effects with
  | subscribes reconnect locked owned connection point phase subscription remaining ready =>
      exact ready.monitors_eq
  | replays =>
      rw [Shared.replayFrame_eq]
      rfl
  | picks reconnect locked owned connection point phase ready =>
      rw [Shared.replayFrame_eq]
      exact ready.monitors_eq
  | changed reconnect locked owned connection point phase ready => exact ready.monitors_eq
  | _ => rfl

/-- The restart of the heartbeat task leaves the task group as it is: the new task has not run. -/
theorem accepts_of_reconnects {allowed : State → Action → Prop}
    (reach : (client settings).Reaches allowed state) (accepting : state.accepts = true)
    {next : Shared}
    (effects : state.shared.Reconnects settings task reply next (.suspended ())) :
    State.accepts { state with shared := next } = true := by
  simp only [State.accepts, Bool.and_eq_true, List.all_eq_true, List.mem_range] at accepting ⊢
  refine ⟨?_, fun generation created => ?_⟩
  · intro generation _
    rcases created_of_reaches reach generation with waiting | created
    · simp [waiting, Point.failed]
    · exact accepting.1 generation created
  · rw [effects.monitors_eq] at created
    exact accepting.2 generation created

/-- A step inside `_get_active_connection_state` is a step of the client. -/
theorem step_of_resumeConnecting {allowed : State → Action → Prop}
    (reach : (client settings).Reaches allowed state) (standing : (state.tasks task).Connecting)
    {next : Shared}
    (resumed : state.shared.resumeConnecting settings task reply choice.pick =
      some (next, .suspended ())) :
    (client settings).step state (.resume task reply choice) =
      some { state with shared := next } := by
  have own := (fits_of_reaches reach).tasks task
  have created : state.exists? task = true := by
    unfold State.exists?
    split
    · rename_i generation
      refine decide_eq_true ((created_of_reaches reach generation).resolve_left ?_)
      intro waiting
      rw [waiting] at standing
      exact standing
    · rename_i generation
      generalize state.tasks (.monitor generation) = point at own standing
      cases point <;> simp_all [Point.Fits, Point.Connecting, Job.Runs, Duty.Runs]
    · rfl
  have resumes : (state.tasks task).resume settings task reply choice state.shared =
      some { shared := next, point := state.tasks task } := by
    generalize state.tasks task = point at own standing
    unfold Point.Connecting at standing
    split at standing
    · simp [Point.resume, resumed]
    · simp [Point.resume, WriteFrame.resume, resumed, sent]
    · simp [Point.resume, WriteFrame.resume, resumed, subscribed]
    · obtain ⟨transaction, rfl⟩ := own
      simp [Point.resume, WriteFrame.resume, resumed, begun]
    · simp [Point.resume, WriteFrame.resume, resumed, transacted]
    · simp [Point.resume, HeartbeatPoint.resume, resumed]
    · obtain rfl : task = .listener := own
      simp [Point.resume, ListenerPoint.resume, resumed]
    · exact standing.elim
  have stored : (client settings).step state (.resume task reply choice) =
      ((state.tasks task).resume settings task reply choice state.shared).map (state.store task) :=
    if_pos created
  rw [stored, resumes, Option.map_some, State.store_unchanged]

end Resumption

/-! ## What is left of a handshake -/

namespace Shared

/-- A bound on the writes of a replayed transaction. -/
def replayCost (shared : Shared) (transaction : String) : Nat :=
  (shared.sentFrames transaction).length + 3

/-- A bound on the writes for the transactions that have not been visited. -/
def unreplayed (shared : Shared) (visited : List String) : Nat :=
  ((shared.transactions.filter fun transaction => transaction ∉ visited).map shared.replayCost).sum

/-- A bound on the `await`s that are left of a handshake. -/
def awaitsLeft (shared : Shared) : Enter → Nat
  | .writingConnect _ => shared.subscriptions.getAll.length + shared.unreplayed [] + 3
  | .readingConnected _ => shared.subscriptions.getAll.length + shared.unreplayed [] + 2
  | .resubscribing _ rest => rest.length + shared.unreplayed [] + 1
  | .replaying walk current none => shared.unreplayed (walk.visited ++ [current]) + 1
  | .replaying walk current (some (index, _)) =>
      (shared.sentFrames current).length - index + 2 +
        shared.unreplayed (walk.visited ++ [current])

section Bounds

variable {settings : Settings} {task : TaskId} {reply : Reply} {shared after base : Shared}

theorem sum_filter_ne (cost : String → Nat) {transaction : String} {transactions : List String}
    (present : transaction ∈ transactions) :
    ((transactions.filter (· ≠ transaction)).map cost).sum + cost transaction ≤
      (transactions.map cost).sum := by
  induction transactions with
  | nil => simp at present
  | cons head tail ih =>
      by_cases same : head = transaction
      · subst same
        have fewer : ((tail.filter (· ≠ head)).map cost).sum ≤ (tail.map cost).sum :=
          (List.filter_sublist.map cost).sum_le_sum (by simp)
        simp only [ne_eq, not_true_eq_false, decide_false, Bool.false_eq_true, not_false_eq_true,
          List.filter_cons_of_neg, List.map_cons, List.sum_cons]
        simp only [ne_eq] at fewer
        omega
      · have later := ih ((List.mem_cons.mp present).resolve_left (Ne.symm same))
        simp only [ne_eq, same, not_false_eq_true, decide_true, List.filter_cons_of_pos,
          List.map_cons, List.sum_cons]
        simp only [ne_eq] at later
        omega

/-- A transaction that is replayed is not pending any more. -/
theorem unreplayed_append {visited : List String} {transaction : String}
    (present : transaction ∈ shared.transactions) (unvisited : transaction ∉ visited) :
    shared.unreplayed (visited ++ [transaction]) + shared.replayCost transaction ≤
      shared.unreplayed visited := by
  have split : (shared.transactions.filter fun other => other ∉ visited ++ [transaction]) =
      (shared.transactions.filter fun other => other ∉ visited).filter (· ≠ transaction) := by
    rw [List.filter_filter]
    congr 1
    funext other
    simp [not_or, and_comm]
  rw [unreplayed, split]
  exact sum_filter_ne shared.replayCost (List.mem_filter.mpr ⟨present, by simpa using unvisited⟩)

/-- The start of the replay of a transaction takes it from what is pending. -/
theorem awaitsLeft_replayed {walk : Walk} {transaction : String}
    (present : transaction ∈ shared.transactions) (unvisited : transaction ∉ walk.visited) :
    shared.awaitsLeft (.replaying walk transaction (shared.replayed transaction 0)) <
      shared.unreplayed walk.visited := by
  have fewer := unreplayed_append present unvisited
  unfold replayCost at fewer
  cases found : shared.replayed transaction 0 with
  | none =>
      simp only [awaitsLeft]
      omega
  | some pair =>
      have first : pair.1 = 0 := by
        simp only [replayed, Option.map_eq_some_iff] at found
        obtain ⟨frame, -, rfl⟩ := found
        rfl
      simp only [awaitsLeft]
      omega

/-- A frame of a replayed transaction is written. -/
theorem awaitsLeft_succ (shared : Shared) (walk : Walk) (current : String) (index : Nat)
    (frame : Frame) :
    shared.awaitsLeft (.replaying walk current (shared.replayed current (index + 1))) <
      shared.awaitsLeft (.replaying walk current (some (index, frame))) := by
  cases found : shared.replayed current (index + 1) with
  | none =>
      simp only [awaitsLeft]
      omega
  | some pair =>
      simp only [replayed, Option.map_eq_some_iff] at found
      obtain ⟨next, listed, rfl⟩ := found
      have short := (List.getElem?_eq_some_iff.mp listed).1
      simp only [awaitsLeft]
      omega

theorem awaitsLeft_congr (subscriptions : after.subscriptions = shared.subscriptions)
    (transactions : after.transactions = shared.transactions)
    (sentFrames : after.sentFrames = shared.sentFrames) (point : Enter) :
    after.awaitsLeft point = shared.awaitsLeft point := by
  have cost : after.replayCost = shared.replayCost := by
    funext transaction
    rw [replayCost, replayCost, sentFrames]
  have pending : after.unreplayed = shared.unreplayed := by
    funext visited
    rw [unreplayed, unreplayed, transactions, cost]
  unfold awaitsLeft
  rw [subscriptions, sentFrames, pending]

@[simp] theorem awaitsLeft_hold (reconnect : Reconnect) (phase : Phase) (point : Enter) :
    (shared.hold reconnect phase).awaitsLeft point = shared.awaitsLeft point :=
  awaitsLeft_congr rfl rfl rfl point

@[simp] theorem awaitsLeft_emit (event : Event) (point : Enter) :
    (shared.emit event).awaitsLeft point = shared.awaitsLeft point :=
  awaitsLeft_congr rfl rfl rfl point

/-- A handshake that has finished a write or the confirmation has less left than before. -/
theorem Ready.awaitsLeft_lt {connection : ConnectionId} {point : Enter} {rest : List Subscription}
    {walk : Walk} (ready : shared.Ready settings connection reply point base rest walk) :
    rest.length + shared.unreplayed walk.visited < shared.awaitsLeft point := by
  cases ready with
  | confirmed =>
      simp only [awaitsLeft, freshWalk]
      omega
  | resubscribed =>
      simp only [awaitsLeft, freshWalk]
      omega
  | committed =>
      simp only [awaitsLeft, List.length_nil]
      omega

/-- A handshake that goes on with a SUBSCRIBE has replayed nothing. -/
theorem Ready.visited_eq_nil {connection : ConnectionId} {point : Enter} {rest : List Subscription}
    {walk : Walk} (ready : shared.Ready settings connection reply point base rest walk)
    (more : rest ≠ []) : walk.visited = [] := by
  cases ready with
  | confirmed => rfl
  | resubscribed => rfl
  | committed => exact absurd rfl more

end Bounds

end Shared

/-- A step of a handshake whose operations succeed: the connection becomes active and the call
returns, or the same handshake goes on with less left to do. -/
theorem proceeds_of_favours {settings : Settings} {state : State} (walked : state.Walked)
    (uncancelled : state.shared.Uncancelled) {reconnect : Reconnect} {task : TaskId}
    (locked : state.shared.reconnect = some reconnect) (owned : reconnect.owner = task)
    {connection : ConnectionId} {point : Enter}
    (phase : reconnect.phase = .entering connection point) {reply : Reply} {pick : Option String}
    (favours : state.shared.Favours settings task reply) {after : Shared}
    {progress : Progress Unit ConnectionId}
    (resumed : state.shared.resumeConnecting settings task reply pick = some (after, progress)) :
    (progress = .returned connection ∧ after.active = some connection) ∨
      progress = .suspended () ∧ ∃ next,
        after.reconnect = some { reconnect with phase := .entering connection next } ∧
        after.awaitsLeft next < state.shared.awaitsLeft point ∧
        (state.shared.unthreatened = true → after.unthreatened = true) := by
  have underway := Shared.handshake_of_phase locked phase
  have inside := Shared.entering_of_phase locked owned phase
  have busy : state.shared.handshake ≠ none := by simp [underway]
  have identify : ∀ {other : Reconnect} {given : ConnectionId} {reached : Enter},
      state.shared.reconnect = some other → other.phase = .entering given reached →
      reconnect = other ∧ connection = given ∧ point = reached := by
    intro other given reached held entered
    obtain rfl := Option.some.inj (locked.symm.trans held)
    obtain ⟨rfl, rfl⟩ := Phase.entering.inj (phase.symm.trans entered)
    exact ⟨rfl, rfl, rfl⟩
  have effects := Shared.reconnects_resumeConnecting resumed
  cases effects with
  | interrupted failure outside => exact absurd owned (outside reconnect locked)
  | found other free =>
      rw [free] at locked
      contradiction
  | races issues calm => exact absurd calm busy
  | sleeps issues calm => exact absurd calm busy
  | leaves calm => exact absurd calm busy
  | opens other held same calm => exact absurd calm busy
  | fails other held same given reached entered reason outcome fault =>
      obtain ⟨rfl, rfl, rfl⟩ := identify held entered
      cases favours with
      | wrote _ reading writing =>
          obtain rfl := Option.some.inj (inside.symm.trans reading)
          cases fault with
          | unended collected => exact absurd rfl (writing collected)
      | confirmed collected _ connected type heartbeat established =>
          cases fault with
          | unsupported _ _ _ given supported refused =>
              exact absurd (established.symm.trans refused) (by simp)
          | malformed _ _ _ error refused =>
              exact absurd (established.symm.trans refused) (by simp)
      | cancelled _ _ cancelled =>
          have kept := uncancelled reconnect connection point locked phase
          rw [owned, cancelled] at kept
          contradiction
  | asks other held same given server entered =>
      obtain ⟨rfl, rfl, rfl⟩ := identify held entered
      refine .inr ⟨rfl, .readingConnected [], rfl, ?_, ?_⟩
      · rw [Shared.awaitsLeft_hold, Shared.noteWritten, Shared.awaitsLeft_emit]
        simp [Shared.awaitsLeft]
      · obtain ⟨owner, issues, entering⟩ := reconnect
        obtain rfl : entering = .entering connection (.writingConnect server) := phase
        cases owner <;> simp [Shared.unthreatened, locked, Shared.hold, Shared.noteWritten,
          Shared.emit]
  | collects other held same given collected entered frame read unconfirmed =>
      subst read
      cases favours with
      | confirmed _ _ connected type => exact absurd type (unconfirmed connected rfl)
  | subscribes other held same given reached entered subscription remaining ready =>
      obtain ⟨rfl, rfl, rfl⟩ := identify held entered
      refine .inr ⟨rfl, .resubscribing subscription remaining, rfl, ?_, ?_⟩
      · rw [Shared.awaitsLeft_hold, Shared.hand, Shared.awaitsLeft_emit,
          Shared.awaitsLeft_congr ready.base.subscriptions ready.base.transactions
            ready.base.sentFrames]
        have fewer := ready.awaitsLeft_lt
        rw [ready.visited_eq_nil (by simp), List.length_cons] at fewer
        change remaining.length + state.shared.unreplayed [] + 1 < state.shared.awaitsLeft point
        omega
      · intro _
        simp [Shared.unthreatened, Shared.hold]
  | replays other held same given walk current index frame entered =>
      obtain ⟨rfl, rfl, rfl⟩ := identify held entered
      rw [Shared.replayFrame_eq]
      refine .inr ⟨rfl, _, rfl, ?_, ?_⟩
      · rw [Shared.awaitsLeft_hold, Shared.hand, Shared.awaitsLeft_emit, Shared.noteWritten,
          Shared.awaitsLeft_emit]
        exact Shared.awaitsLeft_succ state.shared walk current index frame
      · intro _
        simp [Shared.unthreatened, Shared.hold]
  | picks other held same given reached entered ready transaction sized present unvisited =>
      obtain ⟨rfl, rfl, rfl⟩ := identify held entered
      have fresh := unvisited (walked.of_ready held entered ready).1
      rw [ready.base.transactions] at present
      rw [Shared.replayFrame_eq, Shared.replayed, ready.base.sentFrames]
      refine .inr ⟨rfl, _, rfl, ?_, ?_⟩
      · rw [Shared.awaitsLeft_hold, Shared.hand, Shared.awaitsLeft_emit,
          Shared.awaitsLeft_congr ready.base.subscriptions ready.base.transactions
            ready.base.sentFrames]
        have fewer := ready.awaitsLeft_lt
        have taken := Shared.awaitsLeft_replayed present fresh
        rw [Shared.replayed] at taken
        omega
      · intro _
        simp [Shared.unthreatened, Shared.hold]
  | changed other held same given reached entered ready resized =>
      exact absurd (walked.of_ready held entered ready).2 resized
  | finishes other held same given reached entered ready =>
      obtain ⟨rfl, rfl, rfl⟩ := identify held entered
      exact .inl ⟨rfl, rfl⟩

/-! ## A handshake is never stuck -/

section Enabled

variable (settings : Settings) (reconnect : Reconnect) (connection : ConnectionId)

/-- A CONNECTED frame of the supported version. -/
def connectedFrame (protocolVersion : String) : Frame :=
  .bodyless .connected
    (Dict.empty.update [("version", protocolVersion), ("heart-beat", "0,0")])

theorem confirm_connectedFrame (protocolVersion : String) :
    confirm protocolVersion (connectedFrame protocolVersion) = .ok (.established ⟨0, 0⟩) := by
  have header : Heartbeat.fromHeader "0,0" = some ⟨0, 0⟩ := by decide +kernel
  simp [confirm, connectedFrame, Frame.bodyless, Dict.update, Dict.get?_set, header]

theorem exists_nextTransaction {base : Shared} {walk : Walk}
    (sized : base.transactions.length = walk.size) :
    ∃ pick result, base.nextTransaction settings reconnect connection walk pick = some result := by
  by_cases complete : ∀ transaction ∈ base.transactions, transaction ∈ walk.visited
  · refine ⟨none, (base.clearTransactions.activate settings connection, .returned connection), ?_⟩
    rw [Shared.nextTransaction, if_neg (not_not.mpr sized)]
    exact if_neg fun missing => missing.2 complete
  · push Not at complete
    obtain ⟨transaction, present, unvisited⟩ := complete
    refine ⟨some transaction,
      (base.replayFrame reconnect connection walk transaction 0, .suspended ()), ?_⟩
    rw [Shared.nextTransaction, if_neg (not_not.mpr sized)]
    exact if_pos ⟨present, fun _ => unvisited⟩

theorem exists_resubscribe (base : Shared) (rest : List Subscription) :
    ∃ pick result, base.resubscribe settings reconnect connection pick rest = some result := by
  cases rest with
  | nil => exact exists_nextTransaction settings reconnect connection rfl
  | cons subscription remaining => exact ⟨none, _, rfl⟩

theorem exists_favours {state : State} (walked : state.Walked) {task : TaskId}
    {reconnect : Reconnect} (locked : state.shared.reconnect = some reconnect)
    (owned : reconnect.owner = task) {connection : ConnectionId} {point : Enter}
    (phase : reconnect.phase = .entering connection point) :
    ∃ reply pick result, state.shared.Favours settings task reply ∧
      state.shared.resumeConnecting settings task reply pick = some result := by
  have inside := Shared.entering_of_phase locked owned phase
  have resumes : ∀ {reply : Reply} {pick : Option String} {result},
      state.shared.resumeEnter settings reconnect connection point reply pick = some result →
      state.shared.resumeConnecting settings task reply pick = some result := by
    intro reply pick result entered
    simp only [Shared.resumeConnecting, locked, owned, if_true, Shared.resumeReconnect, phase]
    exact entered
  cases point with
  | writingConnect server =>
      exact ⟨.returned, none, _, .wrote _ inside (by simp), resumes rfl⟩
  | readingConnected collected =>
      obtain ⟨pick, result, resubscribed⟩ := exists_resubscribe settings reconnect connection
        state.shared.restartBackgroundTasks state.shared.subscriptions.getAll
      refine ⟨_, pick, result, .confirmed collected inside (connectedFrame settings.protocolVersion)
        rfl _ (confirm_connectedFrame _), resumes ?_⟩
      change state.shared.confirmConnected settings reconnect connection
        (connectedFrame settings.protocolVersion) pick = some result
      rw [Shared.confirmConnected, confirm_connectedFrame]
      exact resubscribed
  | resubscribing current remaining =>
      obtain ⟨pick, result, resubscribed⟩ := exists_resubscribe settings reconnect connection
        (state.shared.noteWritten connection current.frame) remaining
      exact ⟨.returned, pick, result, .wrote _ inside (by simp), resumes resubscribed⟩
  | replaying walk current frame =>
      cases frame with
      | some pair => exact ⟨.returned, none, _, .wrote _ inside (by simp), resumes rfl⟩
      | none =>
          have sized := (walked.walked connection walk current none
            (Shared.handshake_of_phase locked phase)).1
          obtain ⟨pick, result, next⟩ := @exists_nextTransaction settings reconnect connection
            (state.shared.noteWritten connection (commitFrame current))
            { walk with visited := walk.visited ++ [current] } sized
          exact ⟨.returned, pick, result, .wrote _ inside (by simp), resumes next⟩

end Enabled

/-! ## Runs -/

/-- A task that runs a handshake on a connection makes it the active connection and returns it, if
its operations succeed and if at most `count` frames other than CONNECTED are read and steps of
other tasks are taken before.  Which steps of other tasks are considered is a parameter. -/
inductive State.Completes (settings : Settings) (others : State → Action → State → Prop)
    (task : TaskId) (connection : ConnectionId) : Nat → State → Prop
  | intro {count : Nat} {state : State}
      (enabled : ∃ reply pick result, state.shared.Favours settings task reply ∧
        state.shared.resumeConnecting settings task reply pick = some result)
      (returns : ∀ reply pick after value, state.shared.Favours settings task reply →
        state.shared.resumeConnecting settings task reply pick = some (after, .returned value) →
        value = connection ∧ after.active = some connection)
      (succeeds : ∀ reply pick after failure, state.shared.Favours settings task reply →
        state.shared.resumeConnecting settings task reply pick ≠ some (after, .raised failure))
      (goesOn : ∀ reply pick after, state.shared.Favours settings task reply →
        state.shared.resumeConnecting settings task reply pick = some (after, .suspended ()) →
        Completes settings others task connection count { state with shared := after })
      (collects : ∀ fewer, count = fewer + 1 → ∀ frame pick after,
        (∀ connected, frame = .frame connected → connected.type ≠ .connected) →
        state.shared.resumeConnecting settings task (.frame frame) pick =
          some (after, .suspended ()) →
        Completes settings others task connection fewer { state with shared := after })
      (interleaves : ∀ fewer, count = fewer + 1 → ∀ action after, action.task ≠ some task →
        others state action after → step settings state action = some after →
        Completes settings others task connection fewer after) :
      Completes settings others task connection count state

/-- Every handshake in progress comes to its end if its operations succeed. -/
def State.Succeeds (settings : Settings) (others : State → Action → State → Prop) (state : State) :
    Prop :=
  ∀ reconnect connection point, state.shared.reconnect = some reconnect →
    reconnect.phase = .entering connection point →
    ∀ count, state.Completes settings others reconnect.owner connection count

section Runs

variable {settings : Settings} {state after : State} {action : Action} {task : TaskId}
  {reply : Reply} {choice : Choice}

/-- A task that waits for the lock gets nothing but an exception. -/
theorem resumeConnecting_of_foreign {shared next : Shared} {reconnect : Reconnect}
    (locked : shared.reconnect = some reconnect) (foreign : reconnect.owner ≠ task)
    {pick : Option String} {progress : Progress Unit ConnectionId}
    (resumed : shared.resumeConnecting settings task reply pick = some (next, progress)) :
    next = shared ∧ progress ≠ .suspended () := by
  simp only [Shared.resumeConnecting, locked, foreign, if_false] at resumed
  split at resumed
  · obtain ⟨rfl, rfl⟩ := Prod.mk.inj (Option.some.inj resumed)
    exact ⟨rfl, by simp⟩
  · contradiction

/-- Steps of other tasks leave a handshake where it is. -/
theorem reconnect_of_step {allowed : State → Action → Prop}
    (reach : (client settings).Reaches allowed state) {reconnect : Reconnect}
    (locked : state.shared.reconnect = some reconnect)
    (other : action.task ≠ some reconnect.owner)
    (stepped : step settings state action = some after) :
    after.shared.reconnect = some reconnect := by
  cases Drives.of_step (fits_of_reaches reach) stepped with
  | apart _ beside => rw [beside.reconnect, locked]
  | opens => exact locked
  | waits task reply choice standing resumed =>
      have foreign : reconnect.owner ≠ task := fun same => other (congrArg some same.symm)
      exact absurd rfl (resumeConnecting_of_foreign locked foreign resumed).2
  | leaves task reply choice standing resumed ended beside =>
      have foreign : reconnect.owner ≠ task := fun same => other (congrArg some same.symm)
      obtain ⟨rfl, -⟩ := resumeConnecting_of_foreign locked foreign resumed
      rw [beside.reconnect, locked]

/-- A task inside `_get_active_connection_state` registers no transaction. -/
theorem undisturbed_of_connecting (standing : (state.tasks task).Connecting) :
    undisturbed state (.resume task reply choice) = true := by
  have unregistered : registers state (.resume task reply choice) = false := by
    cases task with
    | transaction id =>
        simp only [registers]
        generalize state.tasks (.transaction id) = point at standing ⊢
        unfold Point.Connecting at standing
        split at standing <;> first | rfl | exact standing.elim
    | _ => rfl
  simp [undisturbed, unregistered]

/-- The task that runs a handshake meets the conditions by itself. -/
theorem peaceful_of_handshake (reach : (client settings).Reaches (Peaceful settings) state)
    (safe : state.shared.unthreatened = true) (accepting : state.accepts = true)
    {reconnect : Reconnect}
    (locked : state.shared.reconnect = some reconnect) {connection : ConnectionId} {point : Enter}
    (phase : reconnect.phase = .entering connection point) :
    Peaceful settings state (.resume reconnect.owner reply choice) := by
  have uncancelled := uncancelled_of_reaches reach reconnect connection point locked phase
  have standing := (guarded_of_reaches reach).owner reconnect locked
  refine ⟨by simp [obeys, uncancelled], undisturbed_of_connecting standing, ?_,
    by simp [enlists, accepting]⟩
  unfold spares
  split
  · split
    · simp [safe]
    · rfl
  · rfl

/-- A frame before CONNECTED is collected. -/
theorem hold_of_other {shared next : Shared} {reconnect : Reconnect}
    (locked : shared.reconnect = some reconnect) {connection : ConnectionId} {point : Enter}
    (phase : reconnect.phase = .entering connection point) {frame : AnyFrame}
    (other : ∀ connected, frame = .frame connected → connected.type ≠ .connected)
    {pick : Option String} {progress : Progress Unit ConnectionId}
    (resumed : shared.resumeConnecting settings reconnect.owner (.frame frame) pick =
      some (next, progress)) :
    ∃ collected, point = .readingConnected collected ∧
      next = shared.hold reconnect
        (.entering connection (.readingConnected (collected ++ [frame]))) := by
  simp only [Shared.resumeConnecting, locked, if_true, Shared.resumeReconnect, phase] at resumed
  cases point with
  | readingConnected collected =>
      refine ⟨collected, rfl, ?_⟩
      cases frame with
      | heartbeat => exact (Prod.mk.inj (Option.some.inj resumed)).1.symm
      | frame connected =>
          simp only [Shared.resumeEnter, other connected rfl, if_false, Option.some.injEq,
            Prod.mk.injEq] at resumed
          exact resumed.1.symm
  | writingConnect => simp [Shared.resumeEnter] at resumed
  | resubscribing => simp [Shared.resumeEnter] at resumed
  | replaying walk current frame => cases frame <;> simp [Shared.resumeEnter] at resumed

theorem Shared.unthreatened_hold {shared : Shared} {reconnect : Reconnect}
    (locked : shared.reconnect = some reconnect) {connection : ConnectionId}
    {before after : List AnyFrame}
    (phase : reconnect.phase = .entering connection (.readingConnected before))
    (safe : shared.unthreatened = true) :
    (shared.hold reconnect (.entering connection (.readingConnected after))).unthreatened
      = true := by
  obtain ⟨owner, issues, entering⟩ := reconnect
  obtain rfl : entering = .entering connection (.readingConnected before) := phase
  have same : (shared.hold ⟨owner, issues, .entering connection (.readingConnected before)⟩
      (.entering connection (.readingConnected after))).unthreatened = shared.unthreatened := by
    rw [Shared.unthreatened, Shared.unthreatened, locked]
    cases owner <;> rfl
  rwa [same]

/-- Handshakes come to their end, whatever the other tasks do. -/
theorem completes_of_reaches (count : Nat) {state : State}
    (reach : (client settings).Reaches (Peaceful settings) state)
    (safe : state.shared.unthreatened = true) (accepting : state.accepts = true)
    {reconnect : Reconnect} (locked : state.shared.reconnect = some reconnect)
    {connection : ConnectionId} {point : Enter}
    (phase : reconnect.phase = .entering connection point) :
    state.Completes settings
      (fun state action after => Peaceful settings state action ∧
        after.shared.unthreatened = true ∧ after.accepts = true)
      reconnect.owner connection count := by
  -- the frames and steps that may still come in between, then the `await`s that are left
  induction count using Nat.strong_induction_on generalizing state reconnect point with
  | _ count earlier =>
  generalize bound : state.shared.awaitsLeft point = left
  induction left using Nat.strong_induction_on generalizing state reconnect point with
  | _ left sooner =>
  have walked := walked_of_reaches (fun _ _ meets => meets.2.1) reach
  have uncancelled := uncancelled_of_reaches reach
  have standing := (guarded_of_reaches reach).owner reconnect locked
  have reaches : ∀ {reply : Reply} {pick : Option String} {after : Shared},
      state.shared.resumeConnecting settings reconnect.owner reply pick =
        some (after, .suspended ()) →
      (client settings).Reaches (Peaceful settings) { state with shared := after } ∧
        State.accepts { state with shared := after } = true := by
    intro reply pick after resumed
    refine ⟨.step reach (peaceful_of_handshake reach safe accepting locked phase)
      (@step_of_resumeConnecting settings state reconnect.owner reply { pick := pick } _ reach
        standing after resumed), ?_⟩
    exact accepts_of_reconnects reach accepting (Shared.reconnects_resumeConnecting resumed)
  refine .intro (exists_favours settings walked locked rfl phase) ?_ ?_ ?_ ?_ ?_
  · intro reply pick after value favours resumed
    rcases proceeds_of_favours walked uncancelled locked rfl phase favours resumed with
      ⟨returned, active⟩ | ⟨suspended, -⟩
    · obtain rfl : value = connection := by simpa using returned
      exact ⟨rfl, active⟩
    · contradiction
  · intro reply pick after failure favours resumed
    rcases proceeds_of_favours walked uncancelled locked rfl phase favours resumed with
      ⟨returned, -⟩ | ⟨suspended, -⟩
    · contradiction
    · contradiction
  · intro reply pick after favours resumed
    rcases proceeds_of_favours walked uncancelled locked rfl phase favours resumed with
      ⟨returned, -⟩ | ⟨-, next, held, fewer, unthreatened⟩
    · contradiction
    · obtain ⟨reach, accepting⟩ := reaches resumed
      exact @sooner _ (bound ▸ fewer) { state with shared := after } reach (unthreatened safe)
        accepting { reconnect with phase := .entering connection next } held next rfl rfl
  · intro fewer same frame pick after other resumed
    obtain ⟨collected, rfl, rfl⟩ := hold_of_other locked phase other resumed
    obtain ⟨reach, accepting⟩ := reaches resumed
    refine @earlier fewer (by omega) _ reach ?_ accepting
      { reconnect with phase := .entering connection (.readingConnected (collected ++ [frame])) }
      rfl _ rfl
    exact Shared.unthreatened_hold locked phase safe
  · intro fewer same action after other ⟨meets, unthreatened, accepting⟩ stepped
    have held := reconnect_of_step reach locked other stepped
    exact earlier fewer (by omega) (.step reach meets stepped) unthreatened accepting held phase

end Runs

/-- In every run in which the current heartbeat task confirms a handshake only when there is nothing
to resubscribe or to replay, no block touches the set of transactions under a replay and no
background task has failed during a handshake, every handshake whose operations succeed makes its
connection the active one. -/
theorem succeeds_of_peaceful (settings : Settings) (state : State)
    (reach : (client settings).Reaches (Peaceful settings) state)
    (safe : state.shared.unthreatened = true) (accepting : state.accepts = true) :
    state.Succeeds settings fun state action after => Peaceful settings state action ∧
      after.shared.unthreatened = true ∧ after.accepts = true := by
  intro reconnect connection point locked phase count
  exact completes_of_reaches count reach safe accepting locked phase

/-- The client has a subscription. -/
def subscribes : List Action :=
  enters ++ [.subscribe plainSubscription, returns (.subscribe "1")]

/-- The listener loses the connection and resubscribes on a new one. -/
theorem succeeds_of_peaceful_listener :
    ∃ state, (client plainSettings).Reaches (Peaceful plainSettings) state ∧
      (match state.shared.reconnect with
        | some ⟨.listener, _, .entering 1 (.resubscribing _ _)⟩ => true
        | _ => false) = true ∧
      state.Succeeds plainSettings fun state action after => Peaceful plainSettings state action ∧
        after.shared.unthreatened = true ∧ after.accepts = true := by
  obtain ⟨state, reach, passes⟩ := @System.exists_of_replay _ _ (client plainSettings)
    (Peaceful plainSettings)
    (fun state action => obeys state action && undisturbed state action &&
      spares plainSettings state action && enlists state action)
    (by
      intro state action passes
      simpa [Peaceful, and_assoc] using passes)
    (subscribes ++ loses ++ connects .listener)
    (fun state => (match state.shared.reconnect with
      | some ⟨.listener, _, .entering 1 (.resubscribing _ _)⟩ => true
      | _ => false) && state.accepts)
    (by decide +kernel)
  obtain ⟨stands, accepting⟩ := Bool.and_eq_true_iff.mp passes
  refine ⟨state, reach, stands, succeeds_of_peaceful plainSettings state reach ?_ accepting⟩
  split at stands
  · rename_i locked
    rw [Shared.unthreatened, locked]
  · contradiction

/-- The heartbeat task loses the connection and resubscribes on a new one. -/
def beatsResubscribing : List Action :=
  subscribes ++ [.resume (.heartbeat 0) .returned { beats := false }, returns (.heartbeat 0)] ++
    connects (.heartbeat 0)

/-- The first heartbeat task resubscribes on a connection that has another heartbeat task. -/
def Shared.resubscribesReplaced (shared : Shared) : Bool :=
  match shared.reconnect with
  | some ⟨.heartbeat 0, _, .entering 1 (.resubscribing _ _)⟩ => shared.heartbeats = 2
  | _ => false

/-- A heartbeat task that reconnects cancels itself before it has resubscribed. -/
theorem not_forall_succeeds :
    ¬ ∀ (settings : Settings) (state : State),
      (client settings).Reaches (fun state action => obeys state action = true) state →
        state.Succeeds settings fun state action _ => obeys state action = true := by
  intro always
  obtain ⟨state, reach, stands⟩ := @System.exists_of_replay _ _ (client plainSettings)
    (fun state action => obeys state action = true) obeys (fun _ _ => id) beatsResubscribing
    (fun state => state.shared.resubscribesReplaced) (by decide +kernel)
  unfold Shared.resubscribesReplaced at stands
  split at stands
  · rename_i issues current remaining locked
    have cancelled : state.shared.cancels (.heartbeat 0) = true := by
      simp [Shared.cancels, of_decide_eq_true stands]
    have inside : state.shared.entering (.heartbeat 0) =
        some (.resubscribing current remaining) := by
      simp [Shared.entering, locked]
    have resumed : state.shared.resumeConnecting plainSettings (.heartbeat 0) (.raised .cancelled)
        none = some (state.shared.failEnter
          ⟨.heartbeat 0, issues, .entering 1 (.resubscribing current remaining)⟩ 1 .cancelled,
          .suspended ()) := by
      rw [Shared.resumeConnecting, locked]
      rfl
    cases always plainSettings state reach _ 1 _ locked rfl 0 with
    | intro enabled returns succeeds goesOn =>
        have later := goesOn _ none _ (.cancelled _ inside cancelled) resumed
        cases later with
        | intro stuck =>
            obtain ⟨reply, pick, result, favours, -⟩ := stuck
            cases favours <;> contradiction
  · contradiction

end Stompman
