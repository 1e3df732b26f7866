import Stompman.SingleFlight

/-!
# The connect retry loop

`_connect_to_any_server` turns a lost connection, a timeout and a wrong protocol version into an
issue, and the loop of `_get_active_connection_state` collects one issue for each attempt.  A
CONNECTED frame without a `version` or with a `heart-beat` that does not parse, and a set of
transactions that changes its size during a replay, break out of the loop.
-/

namespace Stompman

open Foundation

/-! ## Steps -/

/-- The `await` of `lifespan.enter()` at which a task stands. -/
def Shared.entering (shared : Shared) (task : TaskId) : Option Enter :=
  match shared.reconnect with
  | some ⟨owner, _, .entering _ point⟩ => if owner = task then some point else none
  | _ => none

/-- Positions at which a task awaits `write_frame` or `read_frames`. -/
def Point.communicates : Point → Bool
  | .sending _ (.writing ..) => true
  | .subscribing _ (.writing ..) => true
  | .beginning (.writing ..) => true
  | .transacting _ _ (.writing ..) => true
  | .unsubscribing _ (.writing _) => true
  | .aborting (.writing _) => true
  | .committing (.writing _) => true
  | .settling _ _ _ (.writing _) => true
  | .acknowledging _ _ (.writing _) => true
  | .listener (.reading ..) => true
  | _ => false

/-- Steps without cancellation and with connections that keep their contract: `connect` returns a
connection or `None`, only `write_frame` and `read_frames` raise, and only `ConnectionLostError`,
and `read_frames` does not end.  A user's handler may raise anything. -/
def mild (state : State) : Action → Bool
  | .resume task (.raised failure) _ =>
      match state.tasks task with
      | .handling _ => true
      | point =>
          failure = .connectionLost && (point.communicates || (state.shared.entering task).isSome)
  | .resume _ (.failed ..) _ => false
  | .resume task .returned _ =>
      match state.shared.entering task with
      | some (.readingConnected _) => false
      | _ => true
  | _ => true

/-- A CONNECTED frame whose headers can be read: it has a `version`, and a `heart-beat` of two
integers if its version is the supported one. -/
def Frame.confirmable (protocolVersion : String) (connected : Frame) : Bool :=
  match connected.headers.get? "version" with
  | none => false
  | some version =>
      version ≠ protocolVersion ||
        match connected.headers.get? "heart-beat" with
        | none => false
        | some header => (Heartbeat.fromHeader header).isSome

/-- Steps at which a handshake reads no CONNECTED frame, or one whose headers can be read. -/
def confirms (settings : Settings) (state : State) : Action → Bool
  | .resume task (.frame (.frame frame)) _ =>
      match state.shared.entering task with
      | some (.readingConnected _) =>
          frame.type ≠ .connected || frame.confirmable settings.protocolVersion
      | _ => true
  | _ => true

/-- Steps at which no replayed COMMIT is written, or the set of active transactions has the size
that it had when the replay began. -/
def steady (state : State) : Action → Bool
  | .resume task .returned _ =>
      match state.shared.entering task with
      | some (.replaying walk _ none) => state.shared.transactions.length = walk.size
      | _ => true
  | _ => true

/-- Tasks that have ended with an exception, which aborts the task group that they belong to. -/
def Point.failed : Point → Bool
  | .raised failure => failure ≠ .cancelled
  | _ => false

/-- The task group of the manager is not aborting: `create_task` takes new tasks. -/
def State.accepts (state : State) : Bool :=
  (List.range state.shared.heartbeats).all (fun generation =>
    !(state.tasks (.heartbeat generation)).failed) &&
    (List.range state.shared.monitors).all fun generation =>
      !(state.tasks (.monitor generation)).failed

/-- Steps of a handshake, which may create a background task, while the task group takes it. -/
def enlists (state : State) : Action → Bool
  | .resume task _ _ => (state.shared.entering task).isNone || state.accepts
  | _ => true

theorem Frame.confirm_ne_error {protocolVersion : String} {connected : Frame}
    (readable : connected.confirmable protocolVersion = true) (error : ConfirmationError) :
    confirm protocolVersion connected ≠ .error error := by
  unfold Frame.confirmable at readable
  unfold confirm
  cases found : connected.headers.get? "version" with
  | none => simp [found] at readable
  | some version =>
      simp only [found] at readable ⊢
      split
      · simp
      · rename_i supported
        rw [not_not] at supported
        simp only [supported, ne_eq, not_true_eq_false, decide_false, Bool.false_or] at readable
        cases given : connected.headers.get? "heart-beat" with
        | none => simp [given] at readable
        | some header =>
            simp only [given] at readable
            obtain ⟨heartbeat, parsed⟩ := Option.isSome_iff_exists.mp readable
            simp [parsed]

namespace Shared

variable {settings : Settings} {task : TaskId} {shared after : Shared} {reply : Reply}
  {progress : Progress Unit ConnectionId}

theorem entering_of_phase {reconnect : Reconnect} (locked : shared.reconnect = some reconnect)
    (owned : reconnect.owner = task) {connection : ConnectionId} {point : Enter}
    (phase : reconnect.phase = .entering connection point) :
    shared.entering task = some point := by
  obtain ⟨owner, issues, other⟩ := reconnect
  obtain rfl : other = .entering connection point := phase
  simp only at owned
  simp [entering, locked, owned]

theorem handshake_of_entering {point : Enter} (inside : shared.entering task = some point) :
    ∃ reconnect connection, shared.reconnect = some reconnect ∧ reconnect.owner = task ∧
      reconnect.phase = .entering connection point := by
  unfold entering at inside
  split at inside
  · rename_i owner issues connection _ locked
    split at inside
    · rename_i owned
      obtain rfl := Option.some.inj inside
      exact ⟨_, connection, locked, owned, rfl⟩
    · contradiction
  · contradiction

/-- What a reply of a mild step can be inside `_get_active_connection_state`. -/
structure Mild (shared : Shared) (task : TaskId) (reply : Reply) : Prop where
  raised : ∀ failure, reply = .raised failure → failure = .connectionLost ∧
    ∃ point, shared.entering task = some point
  failed : ∀ server failure, reply ≠ .failed server failure
  unended : ∀ collected, shared.entering task = some (.readingConnected collected) →
    reply ≠ .returned

/-- What a handshake needs to go on: a CONNECTED frame that can be read, and a set of transactions
of the size that it had when the replay began. -/
structure Sane (settings : Settings) (shared : Shared) (task : TaskId) (reply : Reply) : Prop where
  confirmed : ∀ collected connected, shared.entering task = some (.readingConnected collected) →
    reply = .frame (.frame connected) → connected.type = .connected →
    ∀ error, confirm settings.protocolVersion connected ≠ .error error
  steady : ∀ walk current, shared.entering task = some (.replaying walk current none) →
    reply = .returned → shared.transactions.length = walk.size

/-- A connection that one of these tasks gave up makes an issue, and there is one issue for each
attempt. -/
structure Clean (settings : Settings) (who : TaskId → Prop) (shared : Shared) : Prop where
  closing : ∀ reconnect connection outcome, shared.reconnect = some reconnect →
    who reconnect.owner → reconnect.phase = .closing connection outcome →
    ∃ issue, outcome = .ok issue
  few : ∀ reconnect, shared.reconnect = some reconnect →
    reconnect.issues.length ≤ settings.connectRetryAttempts ∧
      (reconnect.phase ≠ .sleeping →
        reconnect.issues.length < settings.connectRetryAttempts)

variable {who : TaskId → Prop}

theorem Clean.of_same (clean : shared.Clean settings who)
    (same : after.reconnect = shared.reconnect) : after.Clean settings who :=
  ⟨by rw [same]; exact clean.closing, by rw [same]; exact clean.few⟩

theorem Clean.unlocked (free : after.reconnect = none) : after.Clean settings who :=
  ⟨by simp [free], by simp [free]⟩

/-- Another `await` of the same attempt. -/
theorem Clean.hold (clean : shared.Clean settings who) {reconnect : Reconnect}
    (locked : shared.reconnect = some reconnect) (busy : reconnect.phase ≠ .sleeping)
    {base : Shared} {phase : Phase}
    (closes : ∀ connection outcome, who reconnect.owner → phase = .closing connection outcome →
      ∃ issue, outcome = .ok issue) : (base.hold reconnect phase).Clean settings who := by
  have few := (clean.few reconnect locked).2 busy
  refine ⟨?_, ?_⟩
  · intro other connection outcome held named closing
    obtain rfl := Option.some.inj held
    exact closes connection outcome named closing
  · intro other held
    obtain rfl := Option.some.inj held
    exact ⟨Nat.le_of_lt few, fun _ => few⟩

theorem Clean.issues_le (clean : shared.Clean settings who) :
    shared.issues.length ≤ settings.connectRetryAttempts := by
  unfold issues
  split
  · rename_i reconnect locked
    exact (clean.few reconnect locked).1
  · exact Nat.zero_le _

/-- An attempt that has come to an issue was not one too many. -/
theorem Clean.issues_lt (clean : shared.Clean settings who) {issue : ConnectionIssue}
    (ended : shared.Issues settings issue) :
    shared.issues.length < settings.connectRetryAttempts := by
  cases ended with
  | unreachable _ few => exact few
  | refused reconnect locked pending phase =>
      rw [issues_of_locked locked]
      exact (clean.few reconnect locked).2 (by simp [phase])
  | closed reconnect locked connection issue phase =>
      rw [issues_of_locked locked]
      exact (clean.few reconnect locked).2 (by simp [phase])

/-- The size that the iteration over the transactions expects: that of the set, or that of the set
when the replay began. -/
theorem Ready.size {base : Shared} {connection : ConnectionId} {point : Enter}
    {rest : List Subscription} {walk : Walk}
    (ready : shared.Ready settings connection reply point base rest walk) :
    base.transactions.length = walk.size ∨ ∃ entered current, reply = .returned ∧
      point = .replaying entered current none ∧ walk.size = entered.size := by
  cases ready with
  | confirmed => exact .inl rfl
  | resubscribed => exact .inl rfl
  | committed entered current => exact .inr ⟨entered, current, rfl, rfl, rfl⟩

/-- A mild step inside `_get_active_connection_state` raises only when all attempts are used up. -/
theorem Clean.raised (clean : shared.Clean settings who) (named : who task)
    (mild : shared.Mild task reply) {failure : Failure}
    (effects : shared.Reconnects settings task reply after (.raised failure)) :
    failure = .failedAllConnectAttempts shared.issues ∧
      shared.issues.length = settings.connectRetryAttempts := by
  cases effects with
  | interrupted _ outside interrupts =>
      obtain ⟨-, point, inside⟩ := mild.raised failure interrupts
      obtain ⟨reconnect, connection, locked, owned, -⟩ := handshake_of_entering inside
      exact absurd owned (outside reconnect locked)
  | leaves calm pending _ quits =>
      cases quits with
      | exhausted _ full =>
          have bounded := clean.issues_le
          exact ⟨rfl, by omega⟩
      | raised =>
          obtain ⟨-, point, inside⟩ := mild.raised failure rfl
          obtain ⟨reconnect, connection, locked, -, phase⟩ := handshake_of_entering inside
          rw [handshake_of_phase locked phase] at calm
          contradiction
      | failed server => exact absurd rfl (mild.failed server failure)
      | closed reconnect locked owned connection _ phase =>
          obtain ⟨issue, clash⟩ := clean.closing reconnect connection _ locked
            (by rwa [owned]) phase
          contradiction

/-- A mild step of a handshake that can go on keeps the loop clean. -/
theorem Clean.reconnects (clean : shared.Clean settings who)
    (meets : who task → shared.Mild task reply ∧ shared.Sane settings task reply)
    (effects : shared.Reconnects settings task reply after progress) :
    after.Clean settings who := by
  cases effects with
  | interrupted => exact clean
  | found => exact clean
  | races issues calm idle pending kept begun =>
      have few : issues.length < settings.connectRetryAttempts := by
        rcases begun with few | ⟨reconnect, others, locked, phase⟩
        · exact few
        · rw [kept, issues_of_locked locked]
          exact (clean.few reconnect locked).2 (by simp [phase])
      refine ⟨?_, ?_⟩
      · intro other connection outcome held _ closing
        obtain rfl := Option.some.inj held
        contradiction
      · intro other held
        obtain rfl := Option.some.inj held
        exact ⟨Nat.le_of_lt few, fun _ => few⟩
  | sleeps issues calm idle issue ended added =>
      have few := clean.issues_lt ended
      refine ⟨?_, ?_⟩
      · intro other connection outcome held _ closing
        obtain rfl := Option.some.inj held
        contradiction
      · intro other held
        obtain rfl := Option.some.inj held
        refine ⟨?_, fun busy => absurd rfl busy⟩
        simp only [added, List.length_append, List.length_cons, List.length_nil]
        omega
  | leaves => exact .unlocked rfl
  | opens reconnect locked owned calm pending server racing =>
      obtain ⟨others, phase⟩ := racing
      exact clean.hold locked (by simp [phase]) (by simp)
  | fails reconnect locked owned connection point phase reason outcome fault =>
      refine clean.hold locked (by simp [phase]) ?_
      intro other given named same
      obtain ⟨mild, sane⟩ := meets (by rwa [← owned])
      obtain ⟨rfl, rfl⟩ : connection = other ∧ outcome = given := by simpa using same
      have inside := entering_of_phase locked owned phase
      cases fault with
      | lost => exact ⟨_, rfl⟩
      | raised failure _ other => exact absurd (mild.raised failure rfl).1 other
      | late => exact ⟨_, rfl⟩
      | unsupported => exact ⟨_, rfl⟩
      | malformed collected connected type error refused =>
          exact absurd refused (sane.confirmed collected connected inside rfl type error)
      | unended collected => exact absurd rfl (mild.unended collected inside)
  | asks reconnect locked owned connection server phase =>
      exact clean.hold locked (by simp [phase]) (by simp)
  | collects reconnect locked owned connection collected phase =>
      exact clean.hold locked (by simp [phase]) (by simp)
  | subscribes reconnect locked owned connection point phase =>
      exact clean.hold locked (by simp [phase]) (by simp)
  | replays reconnect locked owned connection walk current index frame phase =>
      rw [replayFrame_eq]
      exact clean.hold locked (by simp [phase]) (by simp)
  | picks reconnect locked owned connection point phase =>
      rw [replayFrame_eq]
      exact clean.hold locked (by simp [phase]) (by simp)
  | changed reconnect locked owned connection point phase ready resized =>
      refine clean.hold locked (by simp [phase]) ?_
      intro _ _ named
      obtain ⟨-, sane⟩ := meets (by rwa [← owned])
      rcases ready.size with fresh | ⟨entered, current, replied, rfl, same⟩
      · exact absurd fresh resized
      · have kept := sane.steady entered current (entering_of_phase locked owned phase) replied
        rw [← ready.base.transactions, ← same] at kept
        exact absurd kept resized
  | finishes => exact .unlocked rfl

/-- The issues after a step that goes on. -/
theorem Reconnects.issues_of_suspended
    (effects : shared.Reconnects settings task reply after (.suspended ())) :
    after.issues = shared.issues ∨
      ∃ issue, shared.Issues settings issue ∧ after.issues = shared.issues ++ [issue] := by
  have holds : ∀ {reconnect : Reconnect} {base : Shared} {phase : Phase},
      shared.reconnect = some reconnect → (base.hold reconnect phase).issues = shared.issues := by
    intro reconnect base phase locked
    rw [issues_of_locked locked]
    rfl
  cases effects with
  | races issues calm idle pending kept => exact .inl kept
  | sleeps issues calm idle issue ended added => exact .inr ⟨issue, ended, added⟩
  | opens reconnect locked => exact .inl (holds locked)
  | fails reconnect locked => exact .inl (holds locked)
  | asks reconnect locked => exact .inl (holds locked)
  | collects reconnect locked => exact .inl (holds locked)
  | subscribes reconnect locked => exact .inl (holds locked)
  | replays reconnect locked =>
      rw [replayFrame_eq]
      exact .inl (holds locked)
  | picks reconnect locked =>
      rw [replayFrame_eq]
      exact .inl (holds locked)
  | changed reconnect locked => exact .inl (holds locked)

end Shared

/-! ## Runs -/

section Steps

variable {settings : Settings} {state : State} {task : TaskId} {reply : Reply} {choice : Choice}

theorem Point.not_communicates_of_connecting {point : Point} (connecting : point.Connecting) :
    point.communicates = false := by
  unfold Point.Connecting at connecting
  split at connecting <;> first | rfl | exact connecting.elim

theorem mild_of_step (connecting : (state.tasks task).Connecting)
    (meets : mild state (.resume task reply choice) = true) : state.shared.Mild task reply := by
  refine ⟨?_, ?_, ?_⟩
  · rintro failure rfl
    have silent := Point.not_communicates_of_connecting connecting
    unfold mild at meets
    simp only at meets
    split at meets
    · rename_i delivery standing
      rw [standing] at connecting
      exact connecting.elim
    · simp only [silent, Bool.false_or, Bool.and_eq_true, decide_eq_true_eq] at meets
      exact ⟨meets.1, Option.isSome_iff_exists.mp meets.2⟩
  · rintro server failure rfl
    simp [mild] at meets
  · rintro collected inside rfl
    simp [mild, inside] at meets

/-- Outside `_get_active_connection_state` only a write or a read raises. -/
theorem communicates_of_mild (guarded : state.Guarded) {failure : Failure}
    (idle : ¬ (state.tasks task).Connecting)
    (unhandled : ∀ delivery, state.tasks task ≠ .handling delivery)
    (meets : mild state (.resume task (.raised failure) choice) = true) :
    failure = .connectionLost ∧ (state.tasks task).communicates = true := by
  have outside : state.shared.entering task = none := by
    cases inside : state.shared.entering task with
    | none => rfl
    | some point =>
        obtain ⟨reconnect, connection, locked, owned, -⟩ := Shared.handshake_of_entering inside
        have connecting := guarded.owner reconnect locked
        rw [owned] at connecting
        exact absurd connecting idle
  simpa [mild, unhandled, outside] using meets

theorem sane_of_step (confirmed : confirms settings state (.resume task reply choice) = true)
    (kept : steady state (.resume task reply choice) = true) :
    state.shared.Sane settings task reply := by
  refine ⟨?_, ?_⟩
  · rintro collected connected inside rfl type error
    simp only [confirms, inside, type, ne_eq, not_true_eq_false, decide_false, Bool.false_or]
      at confirmed
    exact connected.confirm_ne_error confirmed error
  · rintro walk current inside rfl
    simpa [steady, inside] using kept

end Steps

/-- Runs over well-behaved connections whose handshakes can go on. -/
def Regular (settings : Settings) (state : State) (action : Action) : Prop :=
  mild state action = true ∧ confirms settings state action = true ∧ steady state action = true

theorem clean_of_reaches {settings : Settings} {allowed : State → Action → Prop}
    {who : TaskId → Prop}
    (regular : ∀ state task reply choice, (client settings).Reaches allowed state →
      allowed state (.resume task reply choice) → who task → (state.tasks task).Connecting →
      Regular settings state (.resume task reply choice))
    {state : State} (reach : (client settings).Reaches allowed state) :
    state.shared.Clean settings who := by
  refine @System.Reaches.invariant _ _ (client settings) allowed
    (fun state => state.shared.Clean settings who) (Shared.Clean.unlocked rfl) ?_ state reach
  intro before after action reach clean meets stepped
  have kept : ∀ {task reply choice}, action = .resume task reply choice →
      (before.tasks task).Connecting → who task →
      before.shared.Mild task reply ∧ before.shared.Sane settings task reply := by
    rintro task reply choice rfl standing named
    obtain ⟨meets, confirmed, kept⟩ := regular before task reply choice reach meets named standing
    exact ⟨mild_of_step standing meets, sane_of_step confirmed kept⟩
  cases Drives.of_step (fits_of_reaches reach) stepped with
  | apart _ beside => exact clean.of_same beside.reconnect
  | opens => exact clean.of_same rfl
  | waits task reply choice standing resumed =>
      exact clean.reconnects (kept rfl standing) (Shared.reconnects_resumeConnecting resumed)
  | leaves task reply choice standing resumed ended beside =>
      exact (clean.reconnects (kept rfl standing)
        (Shared.reconnects_resumeConnecting resumed)).of_same beside.reconnect

/-- No reply breaks the connect retry loop: a connection that is given up makes an issue, a step
adds no issue or the one that the attempt has come to, and the call fails only with one issue for
each of its attempts. -/
structure State.Unbroken (settings : Settings) (state : State) : Prop where
  issue : ∀ reconnect connection outcome, state.shared.reconnect = some reconnect →
    reconnect.phase = .closing connection outcome → ∃ issue, outcome = .ok issue
  goesOn : ∀ task reply choice after, (state.tasks task).Connecting →
    mild state (.resume task reply choice) = true →
    state.shared.resumeConnecting settings task reply choice.pick = some (after, .suspended ()) →
    after.issues = state.shared.issues ∨ ∃ issue, state.shared.Issues settings issue ∧
      after.issues = state.shared.issues ++ [issue]
  raises : ∀ task reply choice after failure, (state.tasks task).Connecting →
    mild state (.resume task reply choice) = true →
    state.shared.resumeConnecting settings task reply choice.pick = some (after, .raised failure) →
    failure = .failedAllConnectAttempts state.shared.issues ∧
      state.shared.issues.length = settings.connectRetryAttempts

/-- The retry loop is unbroken in every run in which every CONNECTED frame can be read and no set of
transactions changes its size under a replay. -/
theorem unbroken_of_regular (settings : Settings) (state : State)
    (reach : (client settings).Reaches (Regular settings) state) : state.Unbroken settings := by
  have clean : state.shared.Clean settings fun _ => True :=
    clean_of_reaches (fun _ _ _ _ _ meets _ _ => meets) reach
  refine ⟨?_, ?_, ?_⟩
  · intro reconnect connection outcome locked
    exact clean.closing reconnect connection outcome locked trivial
  · intro task reply choice after _ _ resumed
    exact (Shared.reconnects_resumeConnecting resumed).issues_of_suspended
  · intro task reply choice after failure standing meets resumed
    exact clean.raised trivial (mild_of_step standing meets)
      (Shared.reconnects_resumeConnecting resumed)

/-- The first attempt of `__aenter__` gets another protocol version. -/
def refusesVersion : List Action :=
  .enter :: [returns .starter, .resume .starter (.connected 0) {}, returns .starter,
    .resume .starter (.frame (.frame (.bodyless .connected
      (Dict.empty.update [("version", "1.1")])))) {}]

/-- A run with a failed attempt. -/
theorem unbroken_of_regular_refusesVersion :
    ∃ state, (client plainSettings).Reaches (Regular plainSettings) state ∧
      (match state.shared.reconnect with
        | some ⟨_, _, .closing _ (.ok (.unsupportedProtocolVersion "1.1" "1.2"))⟩ => true
        | _ => false) = true ∧ state.Unbroken plainSettings := by
  obtain ⟨state, reach, closing⟩ := @System.exists_of_replay _ _ (client plainSettings)
    (Regular plainSettings) (fun state action => mild state action &&
      confirms plainSettings state action && steady state action)
    (by
      intro state action passes
      simpa [Regular, and_assoc] using passes)
    refusesVersion
    (fun state => match state.shared.reconnect with
      | some ⟨_, _, .closing _ (.ok (.unsupportedProtocolVersion "1.1" "1.2"))⟩ => true
      | _ => false)
    (by decide +kernel)
  exact ⟨state, reach, closing, unbroken_of_regular plainSettings state reach⟩

/-- `__aenter__` gets a CONNECTED frame without a `version`. -/
def missesVersion : List Action :=
  .enter :: [returns .starter, .resume .starter (.connected 0) {}, returns .starter,
    .resume .starter (.frame (.frame (.bodyless .connected Dict.empty))) {}]

/-- A handshake that a missing key ended, and that closes its connection. -/
def Shared.closesWithoutKey (shared : Shared) : Bool :=
  match shared.reconnect with
  | some ⟨_, _, .closing _ (.error .keyError)⟩ => true
  | _ => false

/-- A CONNECTED frame without a `version` breaks the loop. -/
theorem not_forall_unbroken :
    ¬ ∀ (settings : Settings) (state : State),
      (client settings).Reaches (fun state action => mild state action = true) state →
        state.Unbroken settings := by
  intro always
  obtain ⟨state, reach, closing⟩ := @System.exists_of_replay _ _ (client plainSettings)
    (fun state action => mild state action = true) mild (fun _ _ => id) missesVersion
    (fun state => state.shared.closesWithoutKey) (by decide +kernel)
  have unbroken := always plainSettings state reach
  unfold Shared.closesWithoutKey at closing
  split at closing
  · rename_i owner issues connection locked
    obtain ⟨issue, clash⟩ := unbroken.issue _ connection _ locked rfl
    contradiction
  · contradiction

end Stompman
