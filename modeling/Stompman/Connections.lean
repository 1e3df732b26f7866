import Stompman.Decomposition

/-!
# Connections of a run

The connection of a handshake is new: it has not been active, so that nothing but the handshake has
written to it.  Every other write goes to a connection that is, or was, active.
-/

namespace Stompman

open Foundation

namespace Event

/-- Events of connections. -/
def Managed : Event → Prop
  | .opened _ | .handed .. | .wrote .. | .activated _ | .discarded _ | .closed _ => True
  | _ => False

/-- The connection on which a frame was handed over or written, or which became active. -/
def connection? : Event → Option ConnectionId
  | .handed connection _ | .wrote connection _ | .activated connection => some connection
  | _ => none

end Event

namespace Shared

@[simp] theorem handshake_hold (shared : Shared) (reconnect : Reconnect) (connection : ConnectionId)
    (point : Enter) :
    (shared.hold reconnect (.entering connection point)).handshake = some (connection, point) :=
  rfl

@[simp] theorem handshake_racing (shared : Shared) (reconnect : Reconnect) (pending : List Nat) :
    (shared.hold reconnect (.racing pending)).handshake = none :=
  rfl

@[simp] theorem handshake_sleeping (shared : Shared) (reconnect : Reconnect) :
    (shared.hold reconnect .sleeping).handshake = none :=
  rfl

@[simp] theorem handshake_leaveRace (shared : Shared) (pending : List Nat) :
    (shared.leaveRace pending).handshake = none :=
  rfl

@[simp] theorem handshake_abandon (shared : Shared) (reconnect : Reconnect)
    (connection : ConnectionId) (outcome : Except Failure ConnectionIssue) :
    (shared.abandon reconnect connection outcome).handshake = none :=
  rfl

@[simp] theorem handshake_failEnter (shared : Shared) (reconnect : Reconnect)
    (connection : ConnectionId) (failure : Failure) :
    (shared.failEnter reconnect connection failure).handshake = none :=
  rfl

@[simp] theorem handshake_activate (shared : Shared) (settings : Settings)
    (connection : ConnectionId) : (shared.activate settings connection).handshake = none :=
  rfl

theorem eq_of_handshake_hold {shared : Shared} {reconnect : Reconnect}
    {connection other : ConnectionId} {point reached : Enter}
    (entered : (shared.hold reconnect (.entering connection point)).handshake =
      some (other, reached)) : connection = other ∧ point = reached := by
  simpa using entered

theorem eq_of_handshake_replaying {shared : Shared} {reconnect : Reconnect}
    {connection other : ConnectionId} {walk next : Walk} {own transaction : String}
    {frame later : Option (Nat × Frame)}
    (entered :
      (shared.hold reconnect (.entering connection (.replaying walk own frame))).handshake =
        some (other, .replaying next transaction later)) :
    connection = other ∧ walk = next ∧ own = transaction ∧ frame = later := by
  simpa using entered

/-- The frame that the replay of a transaction writes at an index, or `none` for COMMIT. -/
def replayed (shared : Shared) (transaction : String) (index : Nat) : Option (Nat × Frame) :=
  (shared.sentFrames transaction)[index]?.map fun frame => (index, frame)

/-- The frame that is written at a position of the replay. -/
def replayedFrame (transaction : String) : Option (Nat × Frame) → Frame
  | some (_, frame) => frame
  | none => commitFrame transaction

theorem replayFrame_eq (shared : Shared) (reconnect : Reconnect) (connection : ConnectionId)
    (walk : Walk) (transaction : String) (index : Nat) :
    shared.replayFrame reconnect connection walk transaction index =
      (shared.hand connection
        (replayedFrame transaction (shared.replayed transaction index))).hold reconnect
          (.entering connection
            (.replaying walk transaction (shared.replayed transaction index))) := by
  unfold replayFrame replayed
  cases (shared.sentFrames transaction)[index]? <;> rfl

/-- The event at the end of what `enter` has awaited. -/
def writtenBy (connection : ConnectionId) : Enter → List Event
  | .writingConnect _ | .readingConnected _ => []
  | .resubscribing current _ => [.wrote connection current.frame]
  | .replaying _ current frame => [.wrote connection (replayedFrame current frame)]

/-- What a continuation of `enter` takes over from the state before: it has recorded the end of a
write, or created a heartbeat task. -/
structure Carries (connection : ConnectionId) (point : Enter) (shared base : Shared) : Prop where
  trace : base.trace = shared.trace ++ writtenBy connection point
  active : base.active = shared.active
  reconnect : base.reconnect = shared.reconnect
  reconnectionCount : base.reconnectionCount = shared.reconnectionCount
  subscriptions : base.subscriptions = shared.subscriptions
  transactions : base.transactions = shared.transactions
  revision : base.revision = shared.revision
  sentFrames : base.sentFrames = shared.sentFrames
  connections : base.connections = shared.connections
  messages : base.messages = shared.messages
  permits : base.permits = shared.permits

theorem Ready.base {settings : Settings} {shared base : Shared} {connection : ConnectionId}
    {reply : Reply} {point : Enter} {rest : List Subscription} {walk : Walk}
    (ready : shared.Ready settings connection reply point base rest walk) :
    Carries connection point shared base := by
  cases ready with
  | confirmed =>
      exact ⟨(List.append_nil _).symm, rfl, rfl, rfl, rfl, rfl, rfl, rfl, rfl, rfl, rfl⟩
  | resubscribed => exact ⟨rfl, rfl, rfl, rfl, rfl, rfl, rfl, rfl, rfl, rfl, rfl⟩
  | committed => exact ⟨rfl, rfl, rfl, rfl, rfl, rfl, rfl, rfl, rfl, rfl, rfl⟩

/-- The trace when a continuation goes on. -/
theorem Carries.trace_append {connection : ConnectionId} {point : Enter} {shared base : Shared}
    (carries : Carries connection point shared base) (events : List Event) :
    base.trace ++ events = shared.trace ++ (writtenBy connection point ++ events) := by
  rw [carries.trace, List.append_assoc]

/-- A handshake that goes on with a SUBSCRIBE has not come to the transactions yet. -/
theorem Ready.early {settings : Settings} {shared base : Shared} {connection : ConnectionId}
    {reply : Reply} {point : Enter} {subscription : Subscription} {rest : List Subscription}
    {walk : Walk}
    (ready : shared.Ready settings connection reply point base (subscription :: rest) walk)
    (entered : Walk) (transaction : String) (frame : Option (Nat × Frame)) :
    point ≠ .replaying entered transaction frame := by
  generalize first : subscription :: rest = all at ready
  cases ready with
  | committed => simp at first
  | _ => simp

theorem managed_writtenBy (connection : ConnectionId) (point : Enter) :
    ∀ event ∈ writtenBy connection point, event.Managed := by
  intro event member
  cases point <;> simp only [writtenBy, List.not_mem_nil, List.mem_singleton] at member
  all_goals subst member; trivial

theorem managed_concat {events : List Event} (managed : ∀ event ∈ events, event.Managed)
    {last : Event} (also : last.Managed) : ∀ event ∈ events ++ [last], event.Managed := by
  intro event member
  rcases List.mem_append.mp member with early | late
  · exact managed event early
  · obtain rfl := List.mem_singleton.mp late
    exact also

section Effects

variable {settings : Settings} {task : TaskId} {shared after : Shared} {reply : Reply}
  {progress : Progress Unit ConnectionId}

/-- Connecting adds events of connections and leaves the frames of transactions and the
subscriptions alone. -/
theorem Reconnects.extends (effects : shared.Reconnects settings task reply after progress) :
    ∃ events, after.trace = shared.trace ++ events ∧ (∀ event ∈ events, event.Managed) ∧
      after.sentFrames = shared.sentFrames ∧ after.subscriptions = shared.subscriptions := by
  have based : ∀ {connection point base rest walk events},
      shared.Ready settings connection reply point base rest walk →
      (∀ event ∈ events, event.Managed) → ∃ all, base.trace ++ events = shared.trace ++ all ∧
        (∀ event ∈ all, event.Managed) := by
    intro connection point base rest walk events ready managed
    refine ⟨writtenBy connection point ++ events, ready.base.trace_append events, ?_⟩
    intro event member
    rcases List.mem_append.mp member with early | late
    · exact managed_writtenBy _ _ _ early
    · exact managed _ late
  cases effects with
  | interrupted => exact ⟨[], by simp, by simp, rfl, rfl⟩
  | found => exact ⟨[], by simp, by simp, rfl, rfl⟩
  | races => exact ⟨[], by simp [hold], by simp, rfl, rfl⟩
  | sleeps => exact ⟨[], by simp [hold], by simp, rfl, rfl⟩
  | leaves => exact ⟨[], by simp [leaveRace, release], by simp, rfl, rfl⟩
  | opens reconnect locked owned calm pending server =>
      exact ⟨_, List.append_assoc _ _ _, by simp [Event.Managed], rfl, rfl⟩
  | fails reconnect locked owned connection =>
      exact ⟨[.closed connection], rfl, by simp [Event.Managed], rfl, rfl⟩
  | asks => exact ⟨[_], rfl, by simp [Event.Managed], rfl, rfl⟩
  | collects => exact ⟨[], by simp [hold], by simp, rfl, rfl⟩
  | subscribes reconnect locked owned connection point phase subscription remaining ready =>
      obtain ⟨all, trace_eq, managed⟩ :=
        @based _ _ _ _ _ [.handed connection subscription.frame] ready (by simp [Event.Managed])
      exact ⟨all, trace_eq, managed, ready.base.sentFrames, ready.base.subscriptions⟩
  | replays reconnect locked owned connection walk current index frame =>
      rw [replayFrame_eq]
      exact ⟨_, List.append_assoc _ _ _, by simp [Event.Managed], rfl, rfl⟩
  | picks reconnect locked owned connection point phase ready transaction =>
      rw [replayFrame_eq]
      obtain ⟨all, trace_eq, managed⟩ := @based _ _ _ _ _
        [.handed connection (replayedFrame transaction _)] ready (by simp [Event.Managed])
      exact ⟨all, trace_eq, managed, ready.base.sentFrames, ready.base.subscriptions⟩
  | changed reconnect locked owned connection point phase ready =>
      obtain ⟨all, trace_eq, managed⟩ :=
        @based _ _ _ _ _ [.closed connection] ready (by simp [Event.Managed])
      exact ⟨all, trace_eq, managed, ready.base.sentFrames, ready.base.subscriptions⟩
  | finishes reconnect locked owned connection point phase ready =>
      obtain ⟨all, trace_eq, managed⟩ :=
        @based _ _ _ _ _ [.activated connection] ready (by simp [Event.Managed])
      exact ⟨all, trace_eq, managed, ready.base.sentFrames, ready.base.subscriptions⟩

/-- Connecting concerns neither the frames that the listener has received nor the semaphore, and
counts no reconnection. -/
theorem Reconnects.aside (effects : shared.Reconnects settings task reply after progress) :
    after.messages = shared.messages ∧ after.permits = shared.permits ∧
      after.reconnectionCount = shared.reconnectionCount := by
  cases effects with
  | subscribes _ _ _ _ _ _ _ _ ready =>
      exact ⟨ready.base.messages, ready.base.permits, ready.base.reconnectionCount⟩
  | replays =>
      rw [replayFrame_eq]
      exact ⟨rfl, rfl, rfl⟩
  | picks _ _ _ _ _ _ ready =>
      rw [replayFrame_eq]
      exact ⟨ready.base.messages, ready.base.permits, ready.base.reconnectionCount⟩
  | changed _ _ _ _ _ _ ready =>
      exact ⟨ready.base.messages, ready.base.permits, ready.base.reconnectionCount⟩
  | finishes _ _ _ _ _ _ ready =>
      exact ⟨ready.base.messages, ready.base.permits, ready.base.reconnectionCount⟩
  | _ => exact ⟨rfl, rfl, rfl⟩

end Effects

end Shared

/-! ## Positions of writers -/

/-- The connection on which a task writes a frame. -/
def WriteFrame.on : WriteFrame → Option ConnectionId
  | .writing _ connection => some connection
  | _ => none

@[inherit_doc WriteFrame.on]
def MaybeWrite.on : MaybeWrite → Option ConnectionId
  | .writing connection => some connection
  | _ => none

@[inherit_doc WriteFrame.on]
def Point.on : Point → Option ConnectionId
  | .sending _ writing | .subscribing _ writing | .beginning writing => writing.on
  | .transacting _ _ writing => writing.on
  | .unsubscribing _ writing | .aborting writing | .committing writing => writing.on
  | .settling _ _ _ writing | .acknowledging _ _ writing => writing.on
  | _ => none

theorem Job.on_point (job : Job) (writing : WriteFrame) : (job.point writing).on = writing.on := by
  cases job <;> rfl

theorem Duty.on_point (duty : Duty) (writing : MaybeWrite) :
    (duty.point writing).on = writing.on := by
  cases duty <;> rfl

theorem Point.Aside.on {point : Point} (aside : point.Aside) : point.on = none := by
  cases point with
  | listener => rfl
  | _ => first | rfl | exact absurd aside id

theorem Job.on_completed (job : Job) (shared : Shared) :
    (job.completed shared).point.on = none := by
  cases job <;> rfl

theorem Job.on_failed (job : Job) (failure : Failure) : (job.failed failure).on = none := by
  cases job <;> rfl

theorem Duty.on_failed (duty : Duty) (failure : Failure) : (duty.failed failure).on = none := by
  cases duty <;> rfl

/-- What a duty leaves behind: its task rests, and of the shared state only the transactions and the
trace change. -/
structure Duty.Ends (duty : Duty) (shared : Shared) (resumed : Resumed) : Prop where
  aside : resumed.point.Aside
  spawned : resumed.spawned = none
  active : resumed.shared.active = shared.active
  reconnect : resumed.shared.reconnect = shared.reconnect
  subscriptions : resumed.shared.subscriptions = shared.subscriptions
  sentFrames : resumed.shared.sentFrames = shared.sentFrames
  connections : resumed.shared.connections = shared.connections
  messages : resumed.shared.messages = shared.messages
  trace : ∃ events, resumed.shared.trace = shared.trace ++ events ∧
    ∀ event ∈ events, (∃ id, duty = .unsubscribe id ∧ event = .unsubscribed id) ∨
      ∃ number, event = .reported number

theorem Duty.ends_removeTransaction (duty : Duty) (transaction : String) (shared : Shared) :
    duty.Ends shared (removeTransaction transaction shared) := by
  unfold removeTransaction
  split
  · exact ⟨trivial, rfl, rfl, rfl, rfl, rfl, rfl, rfl, [], by simp [Shared.removeTransaction],
      by simp⟩
  · exact ⟨trivial, rfl, rfl, rfl, rfl, rfl, rfl, rfl, [], by simp, by simp⟩

theorem Duty.ends_completed (duty : Duty) (written : Bool) (shared : Shared) :
    duty.Ends shared (duty.completed written shared) := by
  cases duty with
  | unsubscribe id =>
      exact ⟨trivial, rfl, rfl, rfl, rfl, rfl, rfl, rfl, [.unsubscribed id], rfl, by simp⟩
  | abort transaction => exact ends_removeTransaction _ transaction shared
  | commit transaction =>
      cases written with
      | true => exact ends_removeTransaction _ transaction shared
      | false =>
          exact ⟨trivial, rfl, rfl, rfl, rfl, rfl, rfl, rfl, [], by simp [completed], by simp⟩
  | settle delivery frame suppressed =>
      cases suppressed with
      | true =>
          exact ⟨trivial, rfl, rfl, rfl, rfl, rfl, rfl, rfl,
            [.reported delivery.number], rfl, by simp⟩
      | false =>
          exact ⟨trivial, rfl, rfl, rfl, rfl, rfl, rfl, rfl, [], by simp [completed, handlerEnd],
            by simp⟩
  | acknowledge =>
      exact ⟨trivial, rfl, rfl, rfl, rfl, rfl, rfl, rfl, [], by simp [completed], by simp⟩

/-! ## New connections -/

/-- The connections of the shared state: a connection in a handshake has never been active. -/
structure Shared.Placed (shared : Shared) : Prop where
  active : ∀ connection, shared.active = some connection → .activated connection ∈ shared.trace
  handshake : ∀ connection point, shared.handshake = some (connection, point) →
    connection < shared.connections ∧ .activated connection ∉ shared.trace
  bound : ∀ event ∈ shared.trace, ∀ connection, event.connection? = some connection →
    connection < shared.connections

namespace Shared.Placed

variable {before after : Shared}

/-- Changes that make no connection active. -/
theorem grows (placed : before.Placed) (events : List Event)
    (trace_eq : after.trace = before.trace ++ events)
    (active : after.active = before.active ∨ after.active = none)
    (handshake : ∀ connection point, after.handshake = some (connection, point) →
      (∃ earlier, before.handshake = some (connection, earlier)) ∨
        connection = before.connections ∧ connection < after.connections)
    (connections : before.connections ≤ after.connections)
    (bound : ∀ event ∈ events, ∀ connection, event.connection? = some connection →
      connection < after.connections)
    (inert : ∀ connection, .activated connection ∉ events) : after.Placed where
  active := by
    intro connection current
    rcases active with same | none
    · rw [trace_eq]
      exact List.mem_append_left _ (placed.active connection (same ▸ current))
    · rw [none] at current
      contradiction
  handshake := by
    intro connection point current
    rw [trace_eq, List.mem_append, not_or]
    rcases handshake connection point current with ⟨earlier, known⟩ | ⟨rfl, fresh⟩
    · obtain ⟨opened, unused⟩ := placed.handshake connection earlier known
      exact ⟨Nat.lt_of_lt_of_le opened connections, unused, inert connection⟩
    · exact ⟨fresh, fun member => Nat.lt_irrefl _ (placed.bound _ member _ rfl), inert _⟩
  bound := by
    intro event member connection on
    rw [trace_eq] at member
    rcases List.mem_append.mp member with old | new
    · exact Nat.lt_of_lt_of_le (placed.bound event old connection on) connections
    · exact bound event new connection on

/-- Changes that leave the connections as they are. -/
theorem same (placed : before.Placed) (events : List Event)
    (trace_eq : after.trace = before.trace ++ events) (active : after.active = before.active)
    (reconnect : after.reconnect = before.reconnect)
    (connections : after.connections = before.connections)
    (other : ∀ event ∈ events, event.connection? = none) : after.Placed := by
  refine placed.grows events trace_eq (.inl active) ?_ (by omega) ?_ ?_
  · intro connection point current
    rw [Shared.handshake_congr reconnect] at current
    exact .inl ⟨point, current⟩
  · intro event member connection on
    rw [other event member] at on
    contradiction
  · intro connection member
    simpa [Event.connection?] using other _ member

theorem writes (placed : before.Placed) {connection : ConnectionId}
    (used : .activated connection ∈ before.trace) {event : Event}
    (on : event.connection? = some connection) (inert : ∀ other, event ≠ .activated other) :
    (before.emit event).Placed := by
  refine placed.grows [event] rfl (.inl rfl) (fun _ point current => .inl ⟨point, current⟩)
    (Nat.le_refl _) ?_ ?_
  · intro other member otherConnection otherOn
    obtain rfl : other = event := by simpa using member
    obtain rfl : connection = otherConnection := Option.some.inj (on.symm.trans otherOn)
    exact placed.bound _ used connection rfl
  · intro other member
    exact inert other (List.mem_singleton.mp member).symm

theorem discard (placed : before.Placed) (connection : ConnectionId) :
    (before.discard connection).Placed := by
  refine placed.grows [.discarded connection, .closed connection] (by simp [Shared.discard, emit])
    (.inr rfl) (fun _ point current => .inl ⟨point, current⟩) (Nat.le_refl _) ?_ (by simp)
  simp [Event.connection?]

/-- A handshake moves on with its connection. -/
theorem proceeds (placed : before.Placed) {connection : ConnectionId} {earlier : Enter}
    (known : before.handshake = some (connection, earlier)) (events : List Event)
    (trace_eq : after.trace = before.trace ++ events) (active : after.active = before.active)
    (connections : after.connections = before.connections)
    (moved : ∀ other point, after.handshake = some (other, point) → other = connection)
    (own : ∀ event ∈ events, ∀ other, event.connection? = some other → other = connection)
    (inert : ∀ other, .activated other ∉ events) : after.Placed := by
  refine placed.grows events trace_eq (.inl active) ?_ (Nat.le_of_eq connections.symm) ?_ inert
  · intro other point current
    rw [moved other point current]
    exact .inl ⟨earlier, known⟩
  · intro event member other on
    rw [own event member other on, connections]
    exact (placed.handshake connection earlier known).1

theorem writtenBy_on (connection : ConnectionId) (point : Enter) :
    (∀ event ∈ writtenBy connection point, ∀ other, event.connection? = some other →
      other = connection) ∧ ∀ other, .activated other ∉ writtenBy connection point := by
  cases point <;> simp [writtenBy, Event.connection?]

/-- The handshake has written on its own connection, and makes active no other. -/
theorem arrives {settings : Settings} {reply : Reply} {reconnect : Reconnect}
    {connection : ConnectionId} {point : Enter} {base : Shared} {rest : List Subscription}
    {walk : Walk} (placed : before.Placed) (later : List Event)
    (locked : before.reconnect = some reconnect)
    (entering : reconnect.phase = .entering connection point)
    (ready : before.Ready settings connection reply point base rest walk)
    (trace_eq : after.trace = base.trace ++ later) (active : after.active = base.active)
    (connections : after.connections = base.connections)
    (moved : ∀ other point, after.handshake = some (other, point) → other = connection)
    (own : ∀ event ∈ later, ∀ other, event.connection? = some other → other = connection)
    (inert : ∀ other, .activated other ∉ later) : after.Placed := by
  obtain ⟨written, unused⟩ := writtenBy_on connection point
  refine placed.proceeds (Shared.handshake_of_phase locked entering)
    (writtenBy connection point ++ later) ?_ (active.trans ready.base.active)
    (connections.trans ready.base.connections) moved ?_ ?_
  · rw [trace_eq, ready.base.trace_append]
  · intro event member
    rcases List.mem_append.mp member with early | late
    · exact written event early
    · exact own event late
  · intro other member
    rcases List.mem_append.mp member with early | late
    · exact unused other early
    · exact inert other late

theorem reconnects {settings : Settings} {task : TaskId} {reply : Reply}
    {progress : Progress Unit ConnectionId} (placed : before.Placed)
    (effects : before.Reconnects settings task reply after progress) : after.Placed := by
  have entered : ∀ {shared : Shared} {reconnect : Reconnect} {connection : ConnectionId}
      {point : Enter} (other : ConnectionId) (earlier : Enter),
      (shared.hold reconnect (.entering connection point)).handshake = some (other, earlier) →
      other = connection := by
    intro shared reconnect connection point other earlier current
    exact (eq_of_handshake_hold current).1.symm
  have idle : ∀ {reconnect : Option Reconnect} {abandoned : List Nat},
      ({ before with reconnect, abandoned } : Shared).handshake = none →
      ({ before with reconnect, abandoned } : Shared).Placed := by
    intro reconnect abandoned quiet
    refine placed.grows [] (by simp) (.inl rfl) ?_ (Nat.le_refl _) (by simp) (by simp)
    intro connection point current
    rw [quiet] at current
    contradiction
  cases effects with
  | interrupted => exact placed
  | found => exact placed
  | races => exact idle rfl
  | sleeps => exact idle rfl
  | leaves => exact idle rfl
  | opens reconnect locked owned calm pending server =>
      refine placed.grows _ (List.append_assoc _ _ _) (.inl rfl) ?_ (Nat.le_succ _) ?_ (by simp)
      · intro connection point current
        obtain ⟨rfl, -⟩ : before.connections = connection ∧ _ = point := by
          simpa [startHandshake] using current
        exact .inr ⟨rfl, Nat.lt_succ_self _⟩
      · intro event member connection on
        rcases List.mem_pair.mp member with rfl | rfl
        · simp [Event.connection?] at on
        · obtain rfl := Option.some.inj on
          exact Nat.lt_succ_self _
  | fails reconnect locked owned connection point phase =>
      exact placed.proceeds (Shared.handshake_of_phase locked phase) [.closed connection] rfl rfl
        rfl (by simp) (by simp [Event.connection?]) (by simp)
  | asks reconnect locked owned connection server phase =>
      refine placed.proceeds (Shared.handshake_of_phase locked phase) [_] rfl rfl rfl entered ?_
        (by simp)
      intro event member other on
      obtain rfl := List.mem_singleton.mp member
      exact (Option.some.inj on).symm
  | collects reconnect locked owned connection collected phase =>
      exact placed.proceeds (Shared.handshake_of_phase locked phase) [] (by simp [hold]) rfl rfl
        entered (by simp) (by simp)
  | subscribes reconnect locked owned connection point phase subscription remaining ready =>
      refine placed.arrives [.handed connection subscription.frame] locked phase ready rfl rfl rfl
        entered ?_ (by simp)
      intro event member other on
      obtain rfl := List.mem_singleton.mp member
      exact (Option.some.inj on).symm
  | replays reconnect locked owned connection walk current index frame phase =>
      rw [replayFrame_eq]
      refine placed.proceeds (Shared.handshake_of_phase locked phase) _ (List.append_assoc _ _ _)
        rfl rfl entered ?_ (by simp)
      intro event member other on
      rcases List.mem_pair.mp member with rfl | rfl <;> exact (Option.some.inj on).symm
  | picks reconnect locked owned connection point phase ready transaction =>
      rw [replayFrame_eq]
      refine placed.arrives [.handed connection _] locked phase ready rfl rfl rfl entered ?_
        (by simp)
      intro event member other on
      obtain rfl := List.mem_singleton.mp member
      exact (Option.some.inj on).symm
  | changed reconnect locked owned connection point phase ready =>
      exact placed.arrives [.closed connection] locked phase ready rfl rfl rfl (by simp)
        (by simp [Event.connection?]) (by simp)
  | finishes reconnect locked owned connection point phase ready =>
      obtain ⟨written, unused⟩ := writtenBy_on connection point
      have known := placed.handshake connection point (Shared.handshake_of_phase locked phase)
      refine ⟨?_, ?_, ?_⟩
      · intro other current
        obtain rfl : connection = other := Option.some.inj current
        exact List.mem_append_right _ (List.mem_singleton_self _)
      · intro other earlier current
        simp at current
      · intro event member other on
        simp only [activate, clearTransactions, emit, ready.base.trace, ready.base.connections,
          List.append_assoc, List.mem_append, List.mem_singleton] at member ⊢
        rcases member with old | ours | rfl
        · exact placed.bound event old other on
        · rw [written event ours other on]
          exact known.1
        · obtain rfl := Option.some.inj on
          exact known.1

end Shared.Placed

/-- Connections of the whole client: frames are written on connections that are or were active, the
handshake apart. -/
structure State.Placed (state : State) : Prop where
  shared : state.shared.Placed
  tasks : ∀ task connection, (state.tasks task).on = some connection →
    .activated connection ∈ state.shared.trace

namespace State.Placed

variable {settings : Settings} {state : State} {task : TaskId}

theorem store (placed : state.Placed) {resumed : Resumed} (shared : resumed.shared.Placed)
    (grows : state.shared.trace ⊆ resumed.shared.trace)
    (own : ∀ connection, resumed.point.on = some connection →
      .activated connection ∈ resumed.shared.trace)
    (spawned : ∀ other point, resumed.spawned = some (other, point) → point.on = none) :
    (state.store task resumed).Placed where
  shared := shared
  tasks := by
    refine State.forall_tasks_store (fun _ point => ∀ connection, point.on = some connection →
      .activated connection ∈ resumed.shared.trace) ?_ own ?_
    · exact fun other _ connection on => grows (placed.tasks other connection on)
    · intro other point created connection on
      rw [spawned other point created] at on
      contradiction

/-- A task that does not write any more. -/
theorem rests (placed : state.Placed) {resumed : Resumed} (shared : resumed.shared.Placed)
    (grows : state.shared.trace ⊆ resumed.shared.trace) (own : resumed.point.on = none)
    (spawned : resumed.spawned = none) : (state.store task resumed).Placed :=
  placed.store shared grows (by simp [own]) (by simp [spawned])

theorem ends (placed : state.Placed) {duty : Duty} {shared : Shared} (written : Bool)
    (known : shared.Placed) (grows : state.shared.trace ⊆ shared.trace) :
    (state.store task (duty.completed written shared)).Placed := by
  have ended := duty.ends_completed written shared
  obtain ⟨events, trace_eq, listed⟩ := ended.trace
  refine placed.rests (known.same events trace_eq ended.active ended.reconnect ended.connections ?_)
    ?_ ended.aside.on ended.spawned
  · intro event member
    rcases listed event member with ⟨id, -, rfl⟩ | ⟨number, rfl⟩ <;> rfl
  · rw [trace_eq]
    exact fun event member => List.mem_append_left _ (grows member)

theorem with_shared (placed : state.Placed) {shared : Shared} (known : shared.Placed)
    (grows : state.shared.trace ⊆ shared.trace) : ({ state with shared } : State).Placed :=
  ⟨known, fun task connection on => grows (placed.tasks task connection on)⟩

theorem begins {action : Action} {middle : State} (placed : state.Placed)
    (begins : Begins settings state action middle) : middle.Placed := by
  cases begins with
  | idles => exact placed
  | reconnects task reply choice effects =>
      obtain ⟨events, trace_eq, -⟩ := effects.extends
      refine placed.with_shared (placed.shared.reconnects effects) ?_
      rw [trace_eq]
      exact List.subset_append_left _ _
  | calls _ task job asked absent left =>
      exact placed.rests placed.shared (List.Subset.refl _) (job.on_point _) rfl
  | sends transaction arguments =>
      exact placed.rests (placed.shared.same [_] rfl rfl rfl rfl (by simp [Event.connection?]))
        (List.subset_append_left _ _) rfl rfl
  | writes task choice job runs left connection standing =>
      have used := placed.tasks task connection (by rw [standing, job.on_point]; rfl)
      have known : (state.shared.noteWritten connection job.frame).Placed :=
        placed.shared.writes used rfl (by simp)
      have completed :
          (job.completed (state.shared.noteWritten connection job.frame)).shared.Placed ∧
          state.shared.trace ⊆
            (job.completed (state.shared.noteWritten connection job.frame)).shared.trace := by
        refine ⟨?_, ?_⟩
        · cases job with
          | begin transaction =>
              simp only [Job.completed, Shared.addTransaction]
              split
              · exact known
              · exact known.same [] (by simp) rfl rfl rfl (by simp)
          | _ => exact known.same [] (by simp [Job.completed]) rfl rfl rfl (by simp)
        · cases job with
          | begin transaction =>
              simp only [Job.completed, Shared.addTransaction]
              split <;> exact List.subset_append_left _ _
          | _ => exact List.subset_append_left _ _
      exact placed.rests completed.1 completed.2 (job.on_completed _) (by cases job <;> rfl)
  | hands asked connection active =>
      have used := placed.shared.active connection active
      refine placed.store ?_ ?_ ?_ (by simp)
      · cases asked with
        | _ =>
            refine Shared.Placed.writes ?_ (List.mem_append_left _ used) rfl (by simp)
            exact placed.shared.same [_] rfl rfl rfl rfl (by simp [Event.connection?])
      · cases asked <;>
          exact fun event member => List.mem_append_left _ (List.mem_append_left _ member)
      · intro other on
        rw [Duty.on_point] at on
        obtain rfl := Option.some.inj on
        cases asked <;> exact List.mem_append_left _ (List.mem_append_left _ used)
  | skips asked =>
      cases asked <;> exact placed.ends false
        (placed.shared.same [_] rfl rfl rfl rfl (by simp [Event.connection?]))
        (List.subset_append_left _ _)
  | fulfils task reply choice duty runs connection standing =>
      have used := placed.tasks task connection (by rw [standing, duty.on_point]; rfl)
      exact placed.ends true (placed.shared.writes used rfl (by simp)) (List.subset_append_left _ _)
  | drops => exact placed.ends false placed.shared (List.Subset.refl _)
  | acknowledges action task aside duty runs settles number connection active =>
      have used := placed.shared.active connection active
      have handed : (state.shared.hand connection duty.frame).Placed :=
        placed.shared.writes used rfl (by simp)
      refine placed.store (handed.same [_] rfl rfl rfl rfl (by simp [Event.connection?])) ?_ ?_
        (by simp)
      · exact fun event member => List.mem_append_left _ (List.mem_append_left _ member)
      · intro other on
        rw [Duty.on_point] at on
        obtain rfl := Option.some.inj on
        exact List.mem_append_left _ (List.mem_append_left _ used)
  | takes choice connection epoch frame standing point routes =>
      refine placed.rests (placed.shared.same [_] rfl rfl rfl rfl (by simp [Event.connection?]))
        (List.subset_append_left _ _) ?_ rfl
      cases routes with
      | delivers => rfl
      | passes _ _ _ aside => exact aside.on

theorem reacts {after : State} (placed : state.Placed) (reacts : Reacts state after) :
    after.Placed := by
  cases reacts with
  | hands task job runs writing standing left connection active =>
      have used := placed.shared.active connection active
      refine placed.store (placed.shared.writes used rfl (by simp)) (List.subset_append_left _ _) ?_
        (by simp)
      intro other on
      rw [Job.on_point] at on
      obtain rfl := Option.some.inj on
      exact List.mem_append_left _ used
  | waits task job runs writing standing next idle =>
      refine placed.rests placed.shared (List.Subset.refl _) ?_ rfl
      rw [Job.on_point]
      cases next with
      | writing left connection => exact absurd rfl (idle left connection)
      | _ => rfl
  | fails task job runs writing standing failure =>
      exact placed.rests placed.shared (List.Subset.refl _) (job.on_failed _) rfl
  | loses task duty runs connection standing =>
      exact placed.rests placed.shared (List.Subset.refl _) (duty.on_point _) rfl
  | breaks task duty runs writing standing failure =>
      exact placed.rests placed.shared (List.Subset.refl _) (duty.on_failed _) rfl
  | discards connection =>
      refine placed.with_shared (placed.shared.discard connection) ?_
      exact fun event member => List.mem_append_left _ (List.mem_append_left _ member)
  | opens =>
      refine placed.with_shared ?_ (List.subset_append_left _ _)
      exact placed.shared.grows [_] rfl (.inl rfl) (fun _ point current => .inl ⟨point, current⟩)
        (Nat.le_succ _) (by simp [Event.connection?]) (by simp)
  | beats =>
      refine placed.with_shared ?_ (List.subset_append_left _ _)
      exact placed.shared.same [_] rfl rfl rfl rfl (by simp [Event.connection?])
  | reports =>
      refine placed.with_shared ?_ (List.subset_append_left _ _)
      exact placed.shared.same [_] rfl rfl rfl rfl (by simp [Event.connection?])
  | creates delivery standing =>
      refine placed.store (placed.shared.same [_] rfl rfl rfl rfl (by simp [Event.connection?]))
        (List.subset_append_left _ _) (by simp [ListenerPoint.createHandler, Point.on]) ?_
      intro other point created
      obtain ⟨-, rfl⟩ := Prod.mk.inj (Option.some.inj created)
      rfl
  | stops => exact placed.rests placed.shared (List.Subset.refl _) rfl rfl
  | elsewhere changes =>
      refine ⟨placed.shared.same [] (by simp [changes.shared.trace]) changes.shared.active
        changes.shared.reconnect changes.shared.connections (by simp), ?_⟩
      intro task connection on
      rw [changes.shared.trace]
      rcases changes.tasks task with same | ⟨-, -, aside⟩
      · exact placed.tasks task connection (same ▸ on)
      · rw [aside.on] at on
        contradiction

end State.Placed

theorem placed_initial (settings : Settings) : (client settings).initial.Placed where
  shared := ⟨by simp [client], by simp [client, Shared.handshake], by simp [client]⟩
  tasks := by
    intro task connection on
    cases task <;> simp [client, initialTasks, Point.on] at on

end Stompman
