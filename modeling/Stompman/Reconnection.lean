import Stompman.Client

/-!
# What one resumption of a connection attempt can do

`_get_active_connection_state` runs from one `await` to the next through several functions.
`Reconnects` lists what such a run can do to the shared state; every invariant about connecting is
proved from this list.
-/

namespace Stompman

open Foundation

namespace Shared

variable {settings : Settings}

/-- The handshake in progress. -/
def handshake (shared : Shared) : Option (ConnectionId × Enter) :=
  match shared.reconnect with
  | some ⟨_, _, .entering connection point⟩ => some (connection, point)
  | _ => none

theorem handshake_of_phase {shared : Shared} {reconnect : Reconnect}
    (locked : shared.reconnect = some reconnect) {connection : ConnectionId} {point : Enter}
    (phase : reconnect.phase = .entering connection point) :
    shared.handshake = some (connection, point) := by
  obtain ⟨owner, issues, other⟩ := reconnect
  obtain rfl : other = .entering connection point := phase
  rw [handshake, locked]

theorem handshake_congr {shared other : Shared} (same : shared.reconnect = other.reconnect) :
    shared.handshake = other.handshake := by
  rw [handshake, handshake, same]

/-- The start of an iteration over the active transactions. -/
def freshWalk (shared : Shared) : Walk :=
  { size := shared.transactions.length, revision := shared.revision }

/-- `enter` has finished a SUBSCRIBE, a COMMIT or the confirmation: the shared state at that moment,
the subscriptions that are still to be written and the iteration over the transactions. -/
inductive Ready (settings : Settings) (shared : Shared) (connection : ConnectionId) :
    Reply → Enter → Shared → List Subscription → Walk → Prop
  | confirmed (collected : List AnyFrame) {connected : Frame} (type : connected.type = .connected)
      {heartbeat : Heartbeat}
      (established : confirm settings.protocolVersion connected = .ok (.established heartbeat)) :
      Ready settings shared connection (.frame (.frame connected)) (.readingConnected collected)
        shared.restartBackgroundTasks shared.subscriptions.getAll shared.freshWalk
  | resubscribed (current : Subscription) (remaining : List Subscription) :
      Ready settings shared connection .returned (.resubscribing current remaining)
        (shared.noteWritten connection current.frame) remaining shared.freshWalk
  | committed (walk : Walk) (current : String) :
      Ready settings shared connection .returned (.replaying walk current none)
        (shared.noteWritten connection (commitFrame current)) []
        { walk with visited := walk.visited ++ [current] }

/-- The issues of the attempts that the holder of the lock has made. -/
def issues (shared : Shared) : List ConnectionIssue :=
  match shared.reconnect with
  | some reconnect => reconnect.issues
  | none => []

/-- Why a handshake fails, and what `_connect_to_any_server` makes of it. -/
inductive Fault (settings : Settings) : Reply → Enter → Except Failure ConnectionIssue → Prop
  | lost (point : Enter) :
      Fault settings (.raised .connectionLost) point (.ok .connectionLostOnLifespanEnter)
  | raised (failure : Failure) (point : Enter) (other : failure ≠ .connectionLost) :
      Fault settings (.raised failure) point (.error failure)
  | late (collected : List AnyFrame) :
      Fault settings .timeout (.readingConnected collected)
        (.ok (.connectionConfirmationTimeout collected))
  | unsupported (collected : List AnyFrame) (connected : Frame)
      (type : connected.type = .connected) (given supported : String)
      (refused : confirm settings.protocolVersion connected =
        .ok (.unsupportedProtocolVersion given supported)) :
      Fault settings (.frame (.frame connected)) (.readingConnected collected)
        (.ok (.unsupportedProtocolVersion given supported))
  | malformed (collected : List AnyFrame) (connected : Frame)
      (type : connected.type = .connected) (error : ConfirmationError)
      (refused : confirm settings.protocolVersion connected = .error error) (failure : Failure) :
      Fault settings (.frame (.frame connected)) (.readingConnected collected) (.error failure)
  | unended (collected : List AnyFrame) :
      Fault settings .returned (.readingConnected collected) (.error .other)

/-- Why the holder of the lock gives it up with an exception. -/
inductive Quits (settings : Settings) (task : TaskId) (shared : Shared) : Reply → Failure → Prop
  | exhausted (reply : Reply)
      (full : ¬ shared.issues.length < settings.connectRetryAttempts) :
      Quits settings task shared reply (.failedAllConnectAttempts shared.issues)
  | raised (failure : Failure) : Quits settings task shared (.raised failure) failure
  | failed (server : Nat) (failure : Failure) :
      Quits settings task shared (.failed server failure) failure
  | closed (reconnect : Reconnect) (locked : shared.reconnect = some reconnect)
      (owned : reconnect.owner = task) (connection : ConnectionId) (failure : Failure)
      (phase : reconnect.phase = .closing connection (.error failure)) :
      Quits settings task shared .returned failure

/-- The issue that an attempt comes to. -/
inductive Issues (settings : Settings) (shared : Shared) : ConnectionIssue → Prop
  | unreachable (empty : settings.servers = [])
      (few : shared.issues.length < settings.connectRetryAttempts) :
      Issues settings shared .allServersUnavailable
  | refused (reconnect : Reconnect) (locked : shared.reconnect = some reconnect)
      (pending : List Nat) (phase : reconnect.phase = .racing pending) :
      Issues settings shared .allServersUnavailable
  | closed (reconnect : Reconnect) (locked : shared.reconnect = some reconnect)
      (connection : ConnectionId) (issue : ConnectionIssue)
      (phase : reconnect.phase = .closing connection (.ok issue)) :
      Issues settings shared issue

/-- The effects of one resumption of `_get_active_connection_state`. -/
inductive Reconnects (settings : Settings) (task : TaskId) (shared : Shared) (reply : Reply) :
    Shared → Progress Unit ConnectionId → Prop
  /-- An exception while the lock is awaited. -/
  | interrupted (failure : Failure)
      (outside : ∀ reconnect, shared.reconnect = some reconnect → reconnect.owner ≠ task)
      (interrupts : reply = .raised failure) :
      Reconnects settings task shared reply shared (.raised failure)
  /-- Another task has connected in the meantime. -/
  | found (connection : ConnectionId) (free : shared.reconnect = none)
      (active : shared.active = some connection) :
      Reconnects settings task shared reply shared (.returned connection)
  /-- An attempt starts. -/
  | races (issues : List ConnectionIssue) (calm : shared.handshake = none)
      (idle : shared.active = none ∨ shared.reconnect.isSome) (pending : List Nat)
      (kept : issues = shared.issues)
      (begun : issues.length < settings.connectRetryAttempts ∨ ∃ reconnect others,
        shared.reconnect = some reconnect ∧ reconnect.phase = .racing others) :
      Reconnects settings task shared reply (shared.hold ⟨task, issues, .sleeping⟩
        (.racing pending)) (.suspended ())
  /-- An attempt has failed and the next one waits. -/
  | sleeps (issues : List ConnectionIssue) (calm : shared.handshake = none)
      (idle : shared.active = none ∨ shared.reconnect.isSome) (issue : ConnectionIssue)
      (ended : Issues settings shared issue) (added : issues = shared.issues ++ [issue]) :
      Reconnects settings task shared reply (shared.hold ⟨task, issues, .sleeping⟩ .sleeping)
        (.suspended ())
  /-- An exception releases the lock. -/
  | leaves (calm : shared.handshake = none) (pending : List Nat) (failure : Failure)
      (quits : Quits settings task shared reply failure) :
      Reconnects settings task shared reply (shared.leaveRace pending) (.raised failure)
  /-- A server accepts. -/
  | opens (reconnect : Reconnect) (locked : shared.reconnect = some reconnect)
      (owned : reconnect.owner = task) (calm : shared.handshake = none) (pending : List Nat)
      (server : ConnectionParameters) (racing : ∃ others, reconnect.phase = .racing others) :
      Reconnects settings task shared reply
        (shared.startHandshake settings reconnect pending server) (.suspended ())
  /-- A handshake fails and its connection is closed. -/
  | fails (reconnect : Reconnect) (locked : shared.reconnect = some reconnect)
      (owned : reconnect.owner = task) (connection : ConnectionId) (point : Enter)
      (phase : reconnect.phase = .entering connection point)
      (reason : (∃ failure, reply = .raised failure) ∨ ∃ collected,
        point = .readingConnected collected)
      (outcome : Except Failure ConnectionIssue) (fault : Fault settings reply point outcome) :
      Reconnects settings task shared reply (shared.abandon reconnect connection outcome)
        (.suspended ())
  /-- CONNECT is written. -/
  | asks (reconnect : Reconnect) (locked : shared.reconnect = some reconnect)
      (owned : reconnect.owner = task) (connection : ConnectionId) (server : ConnectionParameters)
      (phase : reconnect.phase = .entering connection (.writingConnect server)) :
      Reconnects settings task shared reply
        ((shared.noteWritten connection (connectFrame server settings.protocolVersion
          settings.heartbeat)).hold reconnect (.entering connection (.readingConnected [])))
        (.suspended ())
  /-- A frame other than CONNECTED is collected. -/
  | collects (reconnect : Reconnect) (locked : shared.reconnect = some reconnect)
      (owned : reconnect.owner = task) (connection : ConnectionId) (collected : List AnyFrame)
      (phase : reconnect.phase = .entering connection (.readingConnected collected))
      (frame : AnyFrame) (read : reply = .frame frame)
      (other : ∀ connected, frame = .frame connected → connected.type ≠ .connected) :
      Reconnects settings task shared reply
        (shared.hold reconnect (.entering connection (.readingConnected (collected ++ [frame]))))
        (.suspended ())
  /-- The next SUBSCRIBE is handed over. -/
  | subscribes (reconnect : Reconnect) (locked : shared.reconnect = some reconnect)
      (owned : reconnect.owner = task) (connection : ConnectionId) (point : Enter)
      (phase : reconnect.phase = .entering connection point) {base : Shared} {walk : Walk}
      (subscription : Subscription) (remaining : List Subscription)
      (ready : Ready settings shared connection reply point base (subscription :: remaining) walk) :
      Reconnects settings task shared reply
        ((base.hand connection subscription.frame).hold reconnect
          (.entering connection (.resubscribing subscription remaining))) (.suspended ())
  /-- A frame of a replayed transaction is written, and the next one or COMMIT is handed over. -/
  | replays (reconnect : Reconnect) (locked : shared.reconnect = some reconnect)
      (owned : reconnect.owner = task) (connection : ConnectionId) (walk : Walk) (current : String)
      (index : Nat) (frame : Frame)
      (phase : reconnect.phase =
        .entering connection (.replaying walk current (some (index, frame)))) :
      Reconnects settings task shared reply
        ((shared.noteWritten connection frame).replayFrame reconnect connection walk current
          (index + 1)) (.suspended ())
  /-- The replay takes the next transaction. -/
  | picks (reconnect : Reconnect) (locked : shared.reconnect = some reconnect)
      (owned : reconnect.owner = task) (connection : ConnectionId) (point : Enter)
      (phase : reconnect.phase = .entering connection point) {base : Shared} {walk : Walk}
      (ready : Ready settings shared connection reply point base [] walk) (transaction : String)
      (sized : base.transactions.length = walk.size)
      (present : transaction ∈ base.transactions)
      (unvisited : walk.revision = base.revision → transaction ∉ walk.visited) :
      Reconnects settings task shared reply
        (base.replayFrame reconnect connection walk transaction 0) (.suspended ())
  /-- The set of transactions has changed its size during the replay. -/
  | changed (reconnect : Reconnect) (locked : shared.reconnect = some reconnect)
      (owned : reconnect.owner = task) (connection : ConnectionId) (point : Enter)
      (phase : reconnect.phase = .entering connection point) {base : Shared} {walk : Walk}
      (ready : Ready settings shared connection reply point base [] walk)
      (resized : base.transactions.length ≠ walk.size) :
      Reconnects settings task shared reply (base.failEnter reconnect connection .runtimeError)
        (.suspended ())
  /-- The replay is over and the connection becomes active. -/
  | finishes (reconnect : Reconnect) (locked : shared.reconnect = some reconnect)
      (owned : reconnect.owner = task) (connection : ConnectionId) (point : Enter)
      (phase : reconnect.phase = .entering connection point) {base : Shared} {walk : Walk}
      (ready : Ready settings shared connection reply point base [] walk)
      (sized : base.transactions.length = walk.size)
      (complete : walk.revision = base.revision →
        ∀ transaction ∈ base.transactions, transaction ∈ walk.visited) :
      Reconnects settings task shared reply (base.clearTransactions.activate settings connection)
        (.returned connection)

theorem release_eq_leaveRace (shared : Shared) : shared.release = shared.leaveRace [] := by
  simp [leaveRace, release]

section Critical

variable {task : TaskId} {shared : Shared} {reply : Reply} {reconnect : Reconnect}
  {result : Shared × Progress Unit ConnectionId}

theorem issues_of_locked (locked : shared.reconnect = some reconnect) :
    shared.issues = reconnect.issues := by
  rw [issues, locked]

theorem reconnects_attempt {issues : List ConnectionIssue} (calm : shared.handshake = none)
    (idle : shared.active = none ∨ shared.reconnect.isSome) (kept : issues = shared.issues)
    {phase : Phase} :
    Reconnects settings task shared reply (shared.attempt settings ⟨task, issues, phase⟩).1
      (shared.attempt settings ⟨task, issues, phase⟩).2 := by
  subst kept
  unfold attempt
  split
  · rename_i few
    split
    · rename_i empty
      exact .sleeps _ calm idle _ (.unreachable empty few) rfl
    · exact .races _ calm idle _ rfl (.inl few)
  · rename_i full
    rw [release_eq_leaveRace]
    exact .leaves calm [] _ (.exhausted reply full)

variable (locked : shared.reconnect = some reconnect) (owned : reconnect.owner = task)
  {connection : ConnectionId} {point : Enter}
  (phase : reconnect.phase = .entering connection point)

include locked owned phase

theorem reconnects_nextTransaction {base : Shared} {walk : Walk}
    (ready : Ready settings shared connection reply point base [] walk) {pick : Option String}
    (resumed : base.nextTransaction settings reconnect connection walk pick = some result) :
    Reconnects settings task shared reply result.1 result.2 := by
  unfold nextTransaction at resumed
  split at resumed
  · rename_i resized
    obtain rfl := Option.some.inj resumed
    exact .changed reconnect locked owned connection point phase ready resized
  · rename_i sized
    rw [not_not] at sized
    split at resumed
    · split at resumed
      · contradiction
      · rename_i stops
        obtain rfl := Option.some.inj resumed
        refine .finishes reconnect locked owned connection point phase ready sized ?_
        intro unchanged
        by_contra missing
        exact stops ⟨unchanged, missing⟩
    · split at resumed
      · rename_i enabled
        obtain rfl := Option.some.inj resumed
        exact .picks reconnect locked owned connection point phase ready _ sized enabled.1 enabled.2
      · contradiction

theorem reconnects_resubscribe {base : Shared} {walk : Walk} {rest : List Subscription}
    (ready : Ready settings shared connection reply point base rest walk)
    (fresh : walk = base.freshWalk)
    {pick : Option String}
    (resumed : base.resubscribe settings reconnect connection pick rest = some result) :
    Reconnects settings task shared reply result.1 result.2 := by
  cases rest with
  | nil =>
      subst fresh
      exact reconnects_nextTransaction locked owned phase ready resumed
  | cons subscription remaining =>
      obtain rfl := Option.some.inj resumed
      exact .subscribes reconnect locked owned connection point phase subscription remaining ready

theorem reconnects_resumeEnter {pick : Option String}
    (resumed : shared.resumeEnter settings reconnect connection point reply pick = some result) :
    Reconnects settings task shared reply result.1 result.2 := by
  unfold resumeEnter at resumed
  split at resumed
  · rename_i failure
    obtain rfl := Option.some.inj resumed
    refine .fails reconnect locked owned connection _ phase (.inl ⟨_, rfl⟩) _ ?_
    by_cases lost : failure = .connectionLost
    · subst lost
      exact .lost _
    · rw [if_neg lost]
      exact .raised failure _ lost
  · rename_i server
    obtain rfl := Option.some.inj resumed
    exact .asks reconnect locked owned connection server phase
  · rename_i collected
    split at resumed
    · split at resumed
      · rename_i type
        unfold confirmConnected at resumed
        split at resumed
        · rename_i refused
          obtain rfl := Option.some.inj resumed
          exact .fails reconnect locked owned connection _ phase (.inr ⟨collected, rfl⟩) _
            (.malformed collected _ type _ refused .keyError)
        · rename_i refused
          obtain rfl := Option.some.inj resumed
          exact .fails reconnect locked owned connection _ phase (.inr ⟨collected, rfl⟩) _
            (.malformed collected _ type _ refused .valueError)
        · rename_i refused
          obtain rfl := Option.some.inj resumed
          exact .fails reconnect locked owned connection _ phase (.inr ⟨collected, rfl⟩) _
            (.unsupported collected _ type _ _ refused)
        · rename_i established
          exact reconnects_resubscribe locked owned phase (.confirmed collected type established)
            rfl resumed
      · rename_i other
        obtain rfl := Option.some.inj resumed
        exact .collects reconnect locked owned connection collected phase _ rfl
          (by simpa using other)
    · obtain rfl := Option.some.inj resumed
      exact .collects reconnect locked owned connection collected phase _ rfl (by simp)
  · rename_i collected
    obtain rfl := Option.some.inj resumed
    exact .fails reconnect locked owned connection _ phase (.inr ⟨collected, rfl⟩) _
      (.late collected)
  · rename_i collected
    obtain rfl := Option.some.inj resumed
    exact .fails reconnect locked owned connection _ phase (.inr ⟨collected, rfl⟩) _
      (.unended collected)
  · rename_i current remaining
    exact reconnects_resubscribe locked owned phase (.resubscribed current remaining) rfl resumed
  · rename_i walk current index frame
    obtain rfl := Option.some.inj resumed
    exact .replays reconnect locked owned connection walk current index frame phase
  · rename_i walk current
    exact reconnects_nextTransaction locked owned phase (.committed walk current) resumed
  · contradiction

omit phase

theorem reconnects_resumeReconnect {pick : Option String}
    (resumed : shared.resumeReconnect settings reconnect reply pick = some result) :
    Reconnects settings task shared reply result.1 result.2 := by
  have held : shared.active = none ∨ shared.reconnect.isSome := .inr (by rw [locked]; rfl)
  have released : shared.handshake = none → ∀ failure,
      Quits settings task shared reply failure →
      Reconnects settings task shared reply shared.release (.raised failure) := by
    intro calm failure quits
    rw [release_eq_leaveRace]
    exact .leaves calm [] failure quits
  have kept := issues_of_locked locked
  obtain ⟨owner, issues, phase⟩ := reconnect
  obtain rfl : owner = task := owned
  unfold resumeReconnect at resumed
  cases phase with
  | racing pending =>
      have calm : shared.handshake = none := by rw [handshake, locked]
      simp only at resumed
      split at resumed
      · split at resumed
        · obtain ⟨server, -, rfl⟩ := Option.map_eq_some_iff.mp resumed
          exact .opens _ locked rfl calm _ server ⟨pending, rfl⟩
        · contradiction
      · split at resumed
        · split at resumed
          · obtain rfl := Option.some.inj resumed
            exact .sleeps _ calm held _ (.refused _ locked pending rfl) (by rw [kept])
          · obtain rfl := Option.some.inj resumed
            exact .races _ calm held _ kept.symm (.inr ⟨_, pending, locked, rfl⟩)
        · contradiction
      · split at resumed
        · obtain rfl := Option.some.inj resumed
          exact .leaves calm _ _ (.failed _ _)
        · contradiction
      · obtain rfl := Option.some.inj resumed
        exact .leaves calm _ _ (.raised _)
      · contradiction
  | entering connection point => exact reconnects_resumeEnter locked rfl rfl resumed
  | closing connection outcome =>
      have calm : shared.handshake = none := by rw [handshake, locked]
      simp only at resumed
      split at resumed
      · split at resumed
        · obtain rfl := Option.some.inj resumed
          exact released calm _ (.closed _ locked rfl connection _ rfl)
        · obtain rfl := Option.some.inj resumed
          exact .sleeps _ calm held _ (.closed _ locked connection _ rfl) (by rw [kept])
      · obtain rfl := Option.some.inj resumed
        exact released calm _ (.raised _)
      · contradiction
  | sleeping =>
      have calm : shared.handshake = none := by rw [handshake, locked]
      simp only at resumed
      split at resumed
      · obtain rfl := Option.some.inj resumed
        exact reconnects_attempt calm held kept.symm
      · obtain rfl := Option.some.inj resumed
        exact released calm _ (.raised _)
      · contradiction

end Critical

/-- The effects of `resumeConnecting` are those listed by `Reconnects`. -/
theorem reconnects_resumeConnecting {task : TaskId} {shared after : Shared} {reply : Reply}
    {pick : Option String} {progress : Progress Unit ConnectionId}
    (resumed : shared.resumeConnecting settings task reply pick = some (after, progress)) :
    Reconnects settings task shared reply after progress := by
  unfold resumeConnecting at resumed
  split at resumed
  · rename_i reconnect locked
    split at resumed
    · rename_i owned
      exact reconnects_resumeReconnect locked owned resumed
    · rename_i foreign
      split at resumed
      · obtain ⟨rfl, rfl⟩ := Prod.mk.inj (Option.some.inj resumed)
        refine .interrupted _ ?_ rfl
        intro other held
        rwa [← Option.some.inj (locked.symm.trans held)]
      · contradiction
  · rename_i free
    split at resumed
    · split at resumed
      · rename_i connection active
        obtain ⟨rfl, rfl⟩ := Prod.mk.inj (Option.some.inj resumed)
        exact .found connection free active
      · rename_i inactive
        have started := Option.some.inj resumed
        have effects : Reconnects settings task shared .returned
            (shared.attempt settings ⟨task, [], .sleeping⟩).1
            (shared.attempt settings ⟨task, [], .sleeping⟩).2 :=
          reconnects_attempt (by rw [handshake, free]) (.inl inactive) (by rw [issues, free])
        rw [started] at effects
        exact effects
    · obtain ⟨rfl, rfl⟩ := Prod.mk.inj (Option.some.inj resumed)
      refine .interrupted _ ?_ rfl
      intro other held
      rw [free] at held
      contradiction
    · contradiction

theorem Reconnects.active_of_returned {task : TaskId} {shared after : Shared} {reply : Reply}
    {connection : ConnectionId}
    (effects : shared.Reconnects settings task reply after (.returned connection)) :
    after.active = some connection := by
  cases effects with
  | found _ _ active => exact active
  | finishes => rfl

end Shared

end Stompman
