import Stompman.Subscriptions
import Stompman.Transactions

/-!
# An unsubscribed subscription stays unsubscribed

`unsubscribe` deletes the entry and writes UNSUBSCRIBE on the active connection, if there is one.  A
handshake that has listed the subscriptions before the deletion still subscribes to the deleted one,
on a connection that will not see the UNSUBSCRIBE.
-/

namespace Stompman

open Foundation

/-- SUBSCRIBE of a subscription has been written on a connection. -/
def Event.subscribes (connection : ConnectionId) (id : String) : Event → Bool
  | .wrote other frame => other = connection && frame.subscribes id
  | _ => false

/-- Every SUBSCRIBE of a subscription that was written on a connection is followed by an
UNSUBSCRIBE. -/
def Ended (connection : ConnectionId) (id : String) (trace : List Event) : Prop :=
  FollowedBy (fun event => event.subscribes connection id = true)
    (· = .wrote connection (unsubscribeFrame id)) trace

/-- Once `unsubscribe` has returned, the subscription has ended on the active connection. -/
def NeverRevived (state : State) : Prop :=
  ∀ id, .unsubscribed id ∈ state.shared.trace →
    ∀ connection, state.shared.active = some connection → Ended connection id state.shared.trace

/-- Whether a handshake subscribes, or has subscribed, to a subscription. -/
def Shared.resubscribes (shared : Shared) (id : String) : Bool :=
  match shared.handshake with
  | some (connection, point) =>
      (point.unwritten.any fun subscription => subscription.id = id) ||
        shared.trace.any (Event.subscribes connection id)
  | none => false

/-- The step does not call `unsubscribe` while a handshake subscribes to the same subscription. -/
def unsubscribesInTime (state : State) : Action → Bool
  | .unsubscribe _ id => !state.shared.resubscribes id
  | _ => true

/-- Nothing has been subscribed under an id on a connection. -/
def Untouched (connection : ConnectionId) (id : String) (trace : List Event) : Prop :=
  ∀ event ∈ trace, event.subscribes connection id = false

/-- Positions of a handshake before it lists the subscriptions. -/
def Enter.Early : Enter → Prop
  | .writingConnect _ | .readingConnected _ => True
  | _ => False

/-- The invariant behind the end of subscriptions. -/
structure Unrevived (state : State) : Prop where
  placed : state.Placed
  recorded : state.Recorded
  named : ∀ id subscription, state.shared.subscriptions.getById id = some subscription →
    subscription.id = id
  deleted : ∀ id, .unsubscribing id ∈ state.shared.trace →
    state.shared.subscriptions.getById id = none ∧ state.tasks (.subscribe id) = .finished
  called : ∀ id, .unsubscribed id ∈ state.shared.trace → .unsubscribing id ∈ state.shared.trace
  callers : ∀ task id writing, state.tasks task = .unsubscribing id writing →
    .unsubscribing id ∈ state.shared.trace
  handshake : ∀ connection point, state.shared.handshake = some (connection, point) →
    ∀ id, .unsubscribing id ∈ state.shared.trace ∨ point.Early →
      (∀ subscription ∈ point.unwritten, subscription.id ≠ id) ∧
        Untouched connection id state.shared.trace
  active : ∀ connection, state.shared.active = some connection →
    ∀ id, .unsubscribing id ∈ state.shared.trace → Ended connection id state.shared.trace ∨
      .unsubscribed id ∉ state.shared.trace ∧
        ∀ task writing, state.tasks task = .unsubscribing id writing →
          writing = .writing connection

theorem Event.subscribes_wrote {frame : Frame} (other : frame.type ≠ .subscribe)
    (written connection : ConnectionId) (id : String) :
    (Event.wrote written frame).subscribes connection id = false := by
  simp [subscribes, Frame.subscribes_eq_false other]

theorem Untouched.append {connection : ConnectionId} {id : String} {trace events : List Event}
    (untouched : Untouched connection id trace)
    (none : ∀ event ∈ events, event.subscribes connection id = false) :
    Untouched connection id (trace ++ events) := by
  intro event member
  rcases List.mem_append.mp member with old | new
  · exact untouched event old
  · exact none event new

theorem Untouched.ended {connection : ConnectionId} {id : String} {trace : List Event}
    (untouched : Untouched connection id trace) : Ended connection id trace :=
  FollowedBy.of_none fun event member => by simp [untouched event member]

theorem Ended.append {connection : ConnectionId} {id : String} {trace events : List Event}
    (ended : Ended connection id trace)
    (none : ∀ event ∈ events, event.subscribes connection id = false) :
    Ended connection id (trace ++ events) :=
  FollowedBy.append ended fun event member => by simp [none event member]

theorem Ended.concat (connection : ConnectionId) (id : String) (trace : List Event) :
    Ended connection id (trace ++ [.wrote connection (unsubscribeFrame id)]) := by
  refine FollowedBy.concat rfl ?_
  rw [Event.subscribes_wrote (by simp [unsubscribeFrame, Frame.bodyless])]
  simp

/-- Events that neither subscribe nor unsubscribe. -/
def Event.Mute (event : Event) : Prop :=
  ∀ id, event ≠ .unsubscribing id ∧ event ≠ .unsubscribed id ∧
    ∀ connection, event.subscribes connection id = false

theorem Event.Distant.mute {event : Event} (distant : event.Distant) : event.Mute := by
  intro id
  cases event with
  | wrote connection frame =>
      exact ⟨by simp, by simp, fun _ => Event.subscribes_wrote distant.1 _ _ _⟩
  | unsubscribing => exact absurd distant not_false
  | unsubscribed => exact absurd distant not_false
  | _ => exact ⟨by simp, by simp, fun _ => rfl⟩

namespace Unrevived

variable {settings : Settings} {state : State}

/-- Changes that neither subscribe nor unsubscribe. -/
theorem keeps (unrevived : Unrevived state) {after : State} (placed : after.Placed)
    (recorded : after.Recorded) {events : List Event}
    (trace_eq : after.shared.trace = state.shared.trace ++ events)
    (mute : ∀ event ∈ events, event.Mute)
    (active : after.shared.active = state.shared.active ∨ after.shared.active = none)
    (reconnect : after.shared.reconnect = state.shared.reconnect)
    (subscriptions : after.shared.subscriptions = state.shared.subscriptions)
    (subscribers : ∀ id, state.tasks (.subscribe id) = .finished →
      after.tasks (.subscribe id) = .finished)
    (callers : ∀ task id writing, after.tasks task = .unsubscribing id writing →
      state.tasks task = .unsubscribing id writing) : Unrevived after := by
  have unsubscribing : ∀ id, .unsubscribing id ∈ after.shared.trace ↔
      .unsubscribing id ∈ state.shared.trace := by
    intro id
    rw [trace_eq, List.mem_append, or_iff_left]
    exact fun member => (mute _ member id).1 rfl
  have unsubscribed : ∀ id, .unsubscribed id ∈ after.shared.trace ↔
      .unsubscribed id ∈ state.shared.trace := by
    intro id
    rw [trace_eq, List.mem_append, or_iff_left]
    exact fun member => (mute _ member id).2.1 rfl
  refine ⟨placed, recorded, by rw [subscriptions]; exact unrevived.named, ?_, ?_, ?_, ?_, ?_⟩
  · intro id gone
    obtain ⟨absent, finished⟩ := unrevived.deleted id ((unsubscribing id).mp gone)
    exact ⟨subscriptions ▸ absent, subscribers id finished⟩
  · intro id returned
    exact (unsubscribing id).mpr (unrevived.called id ((unsubscribed id).mp returned))
  · intro task id writing standing
    exact (unsubscribing id).mpr (unrevived.callers task id writing
      (callers task id writing standing))
  · intro connection point current id gone
    rw [Shared.handshake_congr reconnect] at current
    obtain ⟨unlisted, untouched⟩ :=
      unrevived.handshake connection point current id (gone.imp_left (unsubscribing id).mp)
    rw [trace_eq]
    exact ⟨unlisted, untouched.append fun event member => (mute event member id).2.2 connection⟩
  · intro connection current id gone
    rcases active with same | none
    · rcases unrevived.active connection (same ▸ current) id ((unsubscribing id).mp gone) with
        ended | ⟨unreturned, writing⟩
      · rw [trace_eq]
        exact .inl (ended.append fun event member => (mute event member id).2.2 connection)
      · refine .inr ⟨fun returned => unreturned ((unsubscribed id).mp returned), ?_⟩
        exact fun task point standing => writing task point (callers task id point standing)
    · rw [none] at current
      contradiction

/-! ### Connecting -/

/-- Connecting writes no SUBSCRIBE of an unsubscribed subscription. -/
theorem connects (unrevived : Unrevived state) {after : Shared}
    (placed : ({ state with shared := after } : State).Placed)
    (recorded : ({ state with shared := after } : State).Recorded) {events : List Event}
    (trace_eq : after.trace = state.shared.trace ++ events)
    (managed : ∀ event ∈ events, event.Managed)
    (quiet : ∀ id, .unsubscribing id ∈ state.shared.trace →
      ∀ event ∈ events, ∀ connection, event.subscribes connection id = false)
    (subscriptions : after.subscriptions = state.shared.subscriptions)
    (handshake : ∀ connection point, after.handshake = some (connection, point) →
      ∀ id, .unsubscribing id ∈ state.shared.trace ∨ point.Early →
        (∀ subscription ∈ point.unwritten, subscription.id ≠ id) ∧
          Untouched connection id after.trace)
    (active : ∀ connection, after.active = some connection →
      state.shared.active = some connection ∨
        ∀ id, .unsubscribing id ∈ state.shared.trace → Untouched connection id after.trace) :
    Unrevived { state with shared := after } := by
  have unsubscribing : ∀ id, .unsubscribing id ∈ after.trace ↔
      .unsubscribing id ∈ state.shared.trace := by
    intro id
    rw [trace_eq, List.mem_append, or_iff_left]
    exact fun member => managed _ member
  have unsubscribed : ∀ id, .unsubscribed id ∈ after.trace ↔
      .unsubscribed id ∈ state.shared.trace := by
    intro id
    rw [trace_eq, List.mem_append, or_iff_left]
    exact fun member => managed _ member
  refine ⟨placed, recorded, ?_, ?_, ?_, ?_, ?_, ?_⟩
  · intro id subscription found
    exact unrevived.named id subscription (subscriptions ▸ found)
  · intro id gone
    obtain ⟨absent, finished⟩ := unrevived.deleted id ((unsubscribing id).mp gone)
    exact ⟨subscriptions ▸ absent, finished⟩
  · intro id returned
    exact (unsubscribing id).mpr (unrevived.called id ((unsubscribed id).mp returned))
  · intro task id writing standing
    exact (unsubscribing id).mpr (unrevived.callers task id writing standing)
  · intro connection point current id gone
    exact handshake connection point current id (gone.imp_left (unsubscribing id).mp)
  · intro connection current id gone
    have earlier := (unsubscribing id).mp gone
    rcases active connection current with same | fresh
    · rcases unrevived.active connection same id earlier with ended | ⟨unreturned, writing⟩
      · refine .inl ?_
        rw [show ({ state with shared := after } : State).shared.trace = _ from trace_eq]
        exact ended.append fun event member => quiet id earlier event member connection
      · exact .inr ⟨fun returned => unreturned ((unsubscribed id).mp returned), writing⟩
    · exact .inl (fresh id earlier).ended

/-- The handshake does not write SUBSCRIBE of an unsubscribed subscription. -/
theorem quiet_writtenBy (unrevived : Unrevived state) {connection : ConnectionId} {point : Enter}
    (current : state.shared.handshake = some (connection, point)) {id : String}
    (gone : .unsubscribing id ∈ state.shared.trace) :
    ∀ event ∈ Shared.writtenBy connection point, ∀ other, event.subscribes other id = false := by
  intro event member other
  cases point with
  | resubscribing subscription remaining =>
      obtain rfl := List.mem_singleton.mp member
      have different := (unrevived.handshake connection _ current id (.inl gone)).1 subscription
        List.mem_cons_self
      simp [Event.subscribes, Subscription.subscribes_frame, different]
  | replaying walk own frame =>
      obtain rfl := List.mem_singleton.mp member
      refine Event.subscribes_wrote ?_ _ _ _
      cases frame with
      | none => simp [Shared.replayedFrame, commitFrame, transactionFrame, Frame.bodyless]
      | some pair =>
          obtain ⟨index, frame⟩ := pair
          have listed := unrevived.recorded.shared.replayed connection walk own index frame current
          obtain ⟨arguments, rfl⟩ :=
            unrevived.recorded.shared.sends own frame (List.mem_of_getElem? listed)
          simp [Shared.replayedFrame, sendFrame]
  | _ => simp [Shared.writtenBy] at member

/-- What a handshake still has to write contains no unsubscribed subscription. -/
theorem unlisted (unrevived : Unrevived state) {reply : Reply} {connection : ConnectionId}
    {point : Enter} (current : state.shared.handshake = some (connection, point)) {base : Shared}
    {rest : List Subscription} {walk : Walk}
    (ready : state.shared.Ready settings connection reply point base rest walk) {id : String}
    (gone : .unsubscribing id ∈ state.shared.trace) :
    ∀ subscription ∈ rest, subscription.id ≠ id := by
  have unlisted := (unrevived.handshake connection point current id (.inl gone)).1
  cases ready with
  | confirmed =>
      rintro subscription member rfl
      obtain ⟨key, found⟩ := (ActiveSubscriptions.mem_getAll_iff _ _).mp member
      have same := unrevived.named key subscription found
      rw [← same, (unrevived.deleted subscription.id gone).1] at found
      contradiction
  | resubscribed written remaining =>
      exact fun subscription member => unlisted subscription (List.mem_cons_of_mem _ member)
  | committed => simp

/-- A handshake goes on, or ends. -/
theorem proceeds (unrevived : Unrevived state) {connection : ConnectionId} {point : Enter}
    (current : state.shared.handshake = some (connection, point)) {after : Shared}
    (placed : ({ state with shared := after } : State).Placed)
    (recorded : ({ state with shared := after } : State).Recorded) {later : List Event}
    (trace_eq : after.trace = state.shared.trace ++ (Shared.writtenBy connection point ++ later))
    (managed : ∀ event ∈ later, event.Managed)
    (quiet : ∀ event ∈ later, ∀ other id, event.subscribes other id = false)
    (subscriptions : after.subscriptions = state.shared.subscriptions)
    (handshake : ∀ other entered, after.handshake = some (other, entered) →
      other = connection ∧ ¬ entered.Early ∧ ∀ id, .unsubscribing id ∈ state.shared.trace →
        ∀ subscription ∈ entered.unwritten, subscription.id ≠ id)
    (active : ∀ other, after.active = some other →
      state.shared.active = some other ∨ other = connection) :
    Unrevived { state with shared := after } := by
  have silent : ∀ id, .unsubscribing id ∈ state.shared.trace →
      ∀ event ∈ Shared.writtenBy connection point ++ later, ∀ other,
        event.subscribes other id = false := by
    intro id gone event member other
    rcases List.mem_append.mp member with early | late
    · exact unrevived.quiet_writtenBy current gone event early other
    · exact quiet event late other id
  have untouched : ∀ id, .unsubscribing id ∈ state.shared.trace →
      Untouched connection id after.trace := by
    intro id gone
    rw [trace_eq]
    exact (unrevived.handshake connection point current id (.inl gone)).2.append
      fun event member => silent id gone event member connection
  refine unrevived.connects placed recorded trace_eq ?_ silent subscriptions ?_ ?_
  · intro event member
    rcases List.mem_append.mp member with early | late
    · exact Shared.managed_writtenBy _ _ event early
    · exact managed event late
  · intro other entered held id gone
    obtain ⟨rfl, late, unlisted⟩ := handshake other entered held
    have earlier := gone.resolve_right late
    exact ⟨unlisted id earlier, untouched id earlier⟩
  · intro other same
    refine (active other same).imp_right ?_
    rintro rfl
    exact untouched

/-- A new connection has seen no SUBSCRIBE. -/
theorem untouched_new (unrevived : Unrevived state) (id : String) :
    Untouched state.shared.connections id state.shared.trace := by
  intro event member
  cases event with
  | wrote other frame =>
      have below := unrevived.placed.shared.bound _ member other rfl
      have different : other ≠ state.shared.connections := Nat.ne_of_lt below
      simp [Event.subscribes, different]
  | _ => rfl

theorem reconnects (unrevived : Unrevived state) {task : TaskId} {reply : Reply} {after : Shared}
    {progress : Progress Unit ConnectionId}
    (effects : state.shared.Reconnects settings task reply after progress)
    (placed : ({ state with shared := after } : State).Placed)
    (recorded : ({ state with shared := after } : State).Recorded) :
    Unrevived { state with shared := after } := by
  cases effects with
  | interrupted => exact unrevived
  | found => exact unrevived
  | races =>
      exact unrevived.connects placed recorded (List.append_nil _).symm (by simp) (by simp) rfl
        (by simp) (fun _ => .inl)
  | sleeps =>
      exact unrevived.connects placed recorded (List.append_nil _).symm (by simp) (by simp) rfl
        (by simp) (fun _ => .inl)
  | leaves =>
      exact unrevived.connects placed recorded (List.append_nil _).symm (by simp) (by simp) rfl
        (by simp) (fun _ => .inl)
  | opens reconnect locked owned calm pending server =>
      refine unrevived.connects placed recorded (List.append_assoc _ _ _)
        (by simp [Event.Managed]) (by simp [Event.subscribes]) rfl ?_ (fun _ => .inl)
      intro connection point current id _
      obtain ⟨rfl, rfl⟩ := Shared.eq_of_handshake_hold current
      refine ⟨by simp [Enter.unwritten], ?_⟩
      refine Untouched.append (Untouched.append (unrevived.untouched_new id) ?_) ?_
      · simp [Event.subscribes]
      · simp [Event.subscribes]
  | fails reconnect locked owned connection =>
      exact @connects _ unrevived _ placed recorded [.closed connection] rfl
        (by simp [Event.Managed]) (by simp [Event.subscribes]) rfl (by simp) (fun _ => .inl)
  | asks reconnect locked owned connection server phase =>
      have current := Shared.handshake_of_phase locked phase
      have quiet : ∀ other id, (Event.wrote connection (connectFrame server
          settings.protocolVersion settings.heartbeat)).subscribes other id = false :=
        fun other id => Event.subscribes_wrote (by simp [connectFrame, Frame.bodyless]) _ _ _
      refine unrevived.connects placed recorded rfl (by simp [Event.Managed])
        (fun id _ => by simpa using fun other => quiet other id) rfl ?_ (fun _ => .inl)
      intro other point entered id _
      obtain ⟨rfl, rfl⟩ := Shared.eq_of_handshake_hold entered
      refine ⟨by simp [Enter.unwritten], ?_⟩
      exact (unrevived.handshake connection _ current id (.inr trivial)).2.append
        (by simpa using quiet connection id)
  | collects reconnect locked owned connection collected phase =>
      have current := Shared.handshake_of_phase locked phase
      refine unrevived.connects placed recorded (List.append_nil _).symm (by simp) (by simp) rfl ?_
        (fun _ => .inl)
      intro other point entered id _
      obtain ⟨rfl, rfl⟩ := Shared.eq_of_handshake_hold entered
      exact ⟨by simp [Enter.unwritten],
        (unrevived.handshake connection _ current id (.inr trivial)).2⟩
  | subscribes reconnect locked owned connection point phase subscription remaining ready =>
      have current := Shared.handshake_of_phase locked phase
      refine @proceeds _ unrevived _ _ current _ placed recorded
        [.handed connection subscription.frame] ?_ (by simp [Event.Managed])
        (by simp [Event.subscribes]) ready.base.subscriptions ?_
        (fun _ same => .inl (ready.base.active ▸ same))
      · exact ready.base.trace_append _
      · intro other entered held
        obtain ⟨rfl, rfl⟩ := Shared.eq_of_handshake_hold held
        exact ⟨rfl, id, fun id gone => unrevived.unlisted current ready gone⟩
  | replays reconnect locked owned connection walk own index frame phase =>
      have current := Shared.handshake_of_phase locked phase
      rw [Shared.replayFrame_eq] at placed recorded ⊢
      refine unrevived.proceeds current placed recorded (List.append_assoc _ _ _)
        (by simp [Event.Managed]) (by simp [Event.subscribes]) rfl ?_ (fun _ => .inl)
      intro other entered held
      obtain ⟨rfl, rfl⟩ := Shared.eq_of_handshake_hold held
      exact ⟨rfl, id, by simp [Enter.unwritten]⟩
  | picks reconnect locked owned connection point phase ready transaction =>
      have current := Shared.handshake_of_phase locked phase
      rw [Shared.replayFrame_eq] at placed recorded ⊢
      refine unrevived.proceeds current placed recorded
        (ready.base.trace_append [_]) (by simp [Event.Managed])
        (by simp [Event.subscribes]) ready.base.subscriptions ?_
        (fun _ same => .inl (ready.base.active ▸ same))
      intro other entered held
      obtain ⟨rfl, rfl⟩ := Shared.eq_of_handshake_hold held
      exact ⟨rfl, id, by simp [Enter.unwritten]⟩
  | changed reconnect locked owned connection point phase ready =>
      have current := Shared.handshake_of_phase locked phase
      refine @proceeds _ unrevived _ _ current _ placed recorded [.closed connection] ?_
        (by simp [Event.Managed]) (by simp [Event.subscribes]) ready.base.subscriptions
        (by simp)
        (fun _ same => .inl (ready.base.active ▸ same))
      exact ready.base.trace_append _
  | finishes reconnect locked owned connection point phase ready =>
      have current := Shared.handshake_of_phase locked phase
      refine @proceeds _ unrevived _ _ current _ placed recorded [.activated connection] ?_
        (by simp [Event.Managed]) (by simp [Event.subscribes]) ready.base.subscriptions
        (by simp)
        (fun _ same => .inr (Option.some.inj same).symm)
      exact ready.base.trace_append _

/-! ### Calls -/

/-- A subscription is registered. -/
theorem registers (unrevived : Unrevived state) {subscription : Subscription} {left : Nat}
    {connection : ConnectionId}
    (standing : state.tasks (.subscribe subscription.id) =
      .subscribing subscription (.writing left connection)) {resumed : Resumed}
    (placed : (state.store (.subscribe subscription.id) resumed).Placed)
    (recorded : (state.store (.subscribe subscription.id) resumed).Recorded)
    (trace_eq : resumed.shared.trace =
      state.shared.trace ++ [.wrote connection subscription.frame])
    (active : resumed.shared.active = state.shared.active)
    (reconnect : resumed.shared.reconnect = state.shared.reconnect)
    (subscriptions : resumed.shared.subscriptions = state.shared.subscriptions.add subscription)
    (finished : resumed.point = .finished) (spawned : resumed.spawned = none) :
    Unrevived (state.store (.subscribe subscription.id) resumed) := by
  have used := unrevived.placed.tasks _ connection (by rw [standing]; rfl)
  have kept : ∀ id, .unsubscribing id ∈ resumed.shared.trace →
      .unsubscribing id ∈ state.shared.trace ∧ subscription.id ≠ id := by
    intro id member
    have old : .unsubscribing id ∈ state.shared.trace := by simpa [trace_eq] using member
    refine ⟨old, ?_⟩
    rintro rfl
    rw [(unrevived.deleted _ old).2] at standing
    contradiction
  have callers : ∀ task id writing,
      (state.store (.subscribe subscription.id) resumed).tasks task = .unsubscribing id writing →
      state.tasks task = .unsubscribing id writing :=
    State.callers_store (by simp [finished]) (by simp [spawned])
  refine ⟨placed, recorded, ?_, ?_, ?_, ?_, ?_, ?_⟩
  · intro id other found
    rw [State.shared_store, subscriptions, ActiveSubscriptions.getById_add] at found
    split at found
    · rename_i same
      obtain rfl := Option.some.inj found
      exact same.symm
    · exact unrevived.named id other found
  · intro id gone
    obtain ⟨earlier, different⟩ := kept id gone
    obtain ⟨absent, done⟩ := unrevived.deleted id earlier
    rw [State.shared_store, subscriptions, ActiveSubscriptions.getById_add,
      if_neg (Ne.symm different)]
    refine ⟨absent, ?_⟩
    simpa [State.store, spawned, Ne.symm different] using done
  · intro id returned
    simp only [State.shared_store, trace_eq, List.mem_append, List.mem_singleton, reduceCtorEq,
      or_false] at returned ⊢
    exact unrevived.called id returned
  · intro task id writing called
    rw [State.shared_store, trace_eq]
    exact List.mem_append_left _ (unrevived.callers task id writing
      (callers task id writing called))
  · intro other point current id gone
    have earlier : state.shared.handshake = some (other, point) :=
      (Shared.handshake_congr reconnect).symm.trans current
    -- The handshake has a connection of its own.
    have apart : connection ≠ other := by
      rintro rfl
      exact (unrevived.placed.shared.handshake connection point earlier).2 used
    obtain ⟨unlisted, untouched⟩ :=
      unrevived.handshake other point earlier id (gone.imp_left fun member => (kept id member).1)
    rw [State.shared_store, trace_eq]
    exact ⟨unlisted, untouched.append (by simp [Event.subscribes, apart])⟩
  · intro other current id gone
    obtain ⟨earlier, different⟩ := kept id gone
    rw [State.shared_store, trace_eq]
    rcases unrevived.active other (active ▸ current) id earlier with ended | ⟨unreturned, writing⟩
    · refine .inl (ended.append ?_)
      simp [Event.subscribes, Subscription.subscribes_frame, different]
    · exact .inr ⟨by simpa using unreturned,
        fun task point called => writing task point (callers task id point called)⟩

/-- `unsubscribe` is called. -/
theorem calls (unrevived : Unrevived state) {number : Nat} {id : String}
    (unrelated : state.shared.resubscribes id = false)
    (subscribed : state.tasks (.subscribe id) = .finished) {resumed : Resumed}
    (placed : (state.store (.call number) resumed).Placed)
    (recorded : (state.store (.call number) resumed).Recorded) {events : List Event}
    (trace_eq : resumed.shared.trace = state.shared.trace ++ .unsubscribing id :: events)
    (mute : ∀ event ∈ events, ∀ other, event ≠ .unsubscribing other ∧
      (event = .unsubscribed other → other = id ∧ state.shared.active = none) ∧
      ∀ connection, event.subscribes connection other = false)
    (active : resumed.shared.active = state.shared.active)
    (reconnect : resumed.shared.reconnect = state.shared.reconnect)
    (subscriptions : resumed.shared.subscriptions = state.shared.subscriptions.deleteById id)
    (own : ∀ other writing, resumed.point = .unsubscribing other writing → other = id ∧
      ∀ connection, state.shared.active = some connection → writing = .writing connection)
    (spawned : resumed.spawned = none) : Unrevived (state.store (.call number) resumed) := by
  have listed : ∀ other, .unsubscribing other ∈ resumed.shared.trace →
      other = id ∨ .unsubscribing other ∈ state.shared.trace := by
    intro other member
    rw [trace_eq, List.mem_append, List.mem_cons] at member
    rcases member with old | same | new
    · exact .inr old
    · exact .inl (Event.unsubscribing.inj same)
    · exact absurd rfl (mute _ new other).1
  have returned : ∀ other, .unsubscribed other ∈ resumed.shared.trace →
      .unsubscribed other ∈ state.shared.trace ∨ other = id ∧ state.shared.active = none := by
    intro other member
    rw [trace_eq, List.mem_append, List.mem_cons] at member
    rcases member with old | same | new
    · exact .inl old
    · contradiction
    · exact .inr ((mute _ new other).2.1 rfl)
  have quiet : ∀ connection other, ∀ event ∈ Event.unsubscribing id :: events,
      event.subscribes connection other = false := by
    intro connection other event member
    rcases List.mem_cons.mp member with rfl | new
    · rfl
    · exact (mute event new other).2.2 connection
  have callers : ∀ task other writing,
      (state.store (.call number) resumed).tasks task = .unsubscribing other writing →
      state.tasks task = .unsubscribing other writing ∨ other = id ∧
        ∀ connection, state.shared.active = some connection → writing = .writing connection :=
    State.forall_tasks_store (fun task point => ∀ other writing,
      point = .unsubscribing other writing → state.tasks task = .unsubscribing other writing ∨
        other = id ∧ ∀ connection, state.shared.active = some connection →
          writing = .writing connection) (fun _ _ _ _ => .inl)
      (fun other writing same => .inr (own other writing same)) (by simp [spawned])
  refine ⟨placed, recorded, ?_, ?_, ?_, ?_, ?_, ?_⟩
  · intro other subscription found
    rw [State.shared_store, subscriptions, ActiveSubscriptions.getById_deleteById] at found
    split at found
    · contradiction
    · exact unrevived.named other subscription found
  · intro other gone
    have done : state.shared.subscriptions.getById other = none ∨ other = id := by
      exact (listed other gone).symm.imp_left fun old => (unrevived.deleted other old).1
    have finished : state.tasks (.subscribe other) = .finished := by
      rcases listed other gone with rfl | old
      · exact subscribed
      · exact (unrevived.deleted other old).2
    rw [State.shared_store, subscriptions, ActiveSubscriptions.getById_deleteById]
    refine ⟨?_, by simpa [State.store, spawned] using finished⟩
    split
    · rfl
    · rename_i different
      exact done.resolve_right different
  · intro other member
    rw [State.shared_store, trace_eq, List.mem_append, List.mem_cons]
    rcases returned other member with old | ⟨rfl, -⟩
    · exact .inl (unrevived.called other old)
    · exact .inr (.inl rfl)
  · intro task other writing called
    rw [State.shared_store, trace_eq, List.mem_append, List.mem_cons]
    rcases callers task other writing called with old | ⟨rfl, -⟩
    · exact .inl (unrevived.callers task other writing old)
    · exact .inr (.inl rfl)
  · intro connection point current other gone
    have earlier : state.shared.handshake = some (connection, point) :=
      (Shared.handshake_congr reconnect).symm.trans current
    have known : (∀ subscription ∈ point.unwritten, subscription.id ≠ other) ∧
        Untouched connection other state.shared.trace := by
      have recent : other = id ∨ .unsubscribing other ∈ state.shared.trace ∨ point.Early := by
        rcases gone with member | early
        · exact (listed other member).imp_right .inl
        · exact .inr (.inr early)
      rcases recent with rfl | old
      · simpa [Shared.resubscribes, earlier, Untouched] using unrelated
      · exact unrevived.handshake connection point earlier other old
    rw [State.shared_store, trace_eq]
    exact ⟨known.1, known.2.append (quiet connection other)⟩
  · intro connection current other gone
    have here : state.shared.active = some connection := active ▸ current
    have unreturned : .unsubscribed other ∉ state.shared.trace →
        .unsubscribed other ∉ resumed.shared.trace := by
      intro absent member
      rcases returned other member with old | ⟨-, none⟩
      · exact absent old
      · rw [none] at here
        contradiction
    have writes : (∀ task writing, state.tasks task = .unsubscribing other writing →
        writing = .writing connection) → ∀ task writing,
        (state.store (.call number) resumed).tasks task = .unsubscribing other writing →
        writing = .writing connection := by
      intro writing task point called
      rcases callers task other point called with old | ⟨-, new⟩
      · exact writing task point old
      · exact new connection here
    by_cases old : .unsubscribing other ∈ state.shared.trace
    · rcases unrevived.active connection here other old with ended | ⟨absent, writing⟩
      · rw [State.shared_store, trace_eq]
        exact .inl (ended.append (quiet connection other))
      · exact .inr ⟨unreturned absent, writes writing⟩
    · refine .inr ⟨unreturned fun member => old (unrevived.called other member), writes ?_⟩
      exact fun task writing called => absurd (unrevived.callers task other writing called) old

/-- An `unsubscribe` call goes on, or returns. -/
theorem moves (unrevived : Unrevived state) {number : Nat} {id : String} {writing : MaybeWrite}
    (standing : state.tasks (.call number) = .unsubscribing id writing) {resumed : Resumed}
    (placed : (state.store (.call number) resumed).Placed)
    (recorded : (state.store (.call number) resumed).Recorded) {events : List Event}
    (trace_eq : resumed.shared.trace = state.shared.trace ++ events)
    (mute : ∀ event ∈ events, ∀ other, event ≠ .unsubscribing other ∧
      (event = .unsubscribed other → other = id) ∧
      ∀ connection, event.subscribes connection other = false)
    (active : resumed.shared.active = state.shared.active)
    (reconnect : resumed.shared.reconnect = state.shared.reconnect)
    (subscriptions : resumed.shared.subscriptions = state.shared.subscriptions)
    (ended : ∀ connection, state.shared.active = some connection →
      writing = .writing connection → Ended connection id resumed.shared.trace)
    (own : ∀ other next, resumed.point = .unsubscribing other next → other = id)
    (spawned : resumed.spawned = none) : Unrevived (state.store (.call number) resumed) := by
  have called := unrevived.callers _ id writing standing
  have unsubscribing : ∀ other, .unsubscribing other ∈ resumed.shared.trace ↔
      .unsubscribing other ∈ state.shared.trace := by
    intro other
    rw [trace_eq, List.mem_append, or_iff_left]
    exact fun member => (mute _ member other).1 rfl
  have returned : ∀ other, other ≠ id → .unsubscribed other ∈ resumed.shared.trace →
      .unsubscribed other ∈ state.shared.trace := by
    intro other different member
    rw [trace_eq, List.mem_append] at member
    exact member.resolve_right fun new => different ((mute _ new other).2.1 rfl)
  have callers : ∀ task other next,
      (state.store (.call number) resumed).tasks task = .unsubscribing other next →
      other = id ∨ state.tasks task = .unsubscribing other next :=
    State.forall_tasks_store (fun task point => ∀ other next, point = .unsubscribing other next →
      other = id ∨ state.tasks task = .unsubscribing other next) (fun _ _ _ _ => .inr)
      (fun other next same => .inl (own other next same)) (by simp [spawned])
  have quiet : ∀ connection other, ∀ event ∈ events, event.subscribes connection other = false :=
    fun connection other event member => (mute event member other).2.2 connection
  refine ⟨placed, recorded, ?_, ?_, ?_, ?_, ?_, ?_⟩
  · intro other subscription found
    exact unrevived.named other subscription (subscriptions ▸ found)
  · intro other gone
    obtain ⟨absent, finished⟩ := unrevived.deleted other ((unsubscribing other).mp gone)
    rw [State.shared_store, subscriptions]
    exact ⟨absent, by simpa [State.store, spawned] using finished⟩
  · intro other member
    refine (unsubscribing other).mpr ?_
    by_cases same : other = id
    · exact same ▸ called
    · exact unrevived.called other (returned other same member)
  · intro task other next moved
    refine (unsubscribing other).mpr ?_
    rcases callers task other next moved with rfl | old
    · exact called
    · exact unrevived.callers task other next old
  · intro connection point current other gone
    have earlier : state.shared.handshake = some (connection, point) :=
      (Shared.handshake_congr reconnect).symm.trans current
    obtain ⟨unlisted, untouched⟩ := unrevived.handshake connection point earlier other
      (gone.imp_left (unsubscribing other).mp)
    rw [State.shared_store, trace_eq]
    exact ⟨unlisted, untouched.append (quiet connection other)⟩
  · intro connection current other gone
    have here : state.shared.active = some connection := active ▸ current
    rcases unrevived.active connection here other ((unsubscribing other).mp gone) with
      done | ⟨unreturned, writes⟩
    · rw [State.shared_store, trace_eq]
      exact .inl (done.append (quiet connection other))
    · by_cases same : other = id
      · subst same
        exact .inl (ended connection here (writes _ writing standing))
      · refine .inr ⟨fun member => unreturned (returned other same member), ?_⟩
        intro task next moved
        exact writes task next ((callers task other next moved).resolve_left same)

/-- A `subscribe` call that is not over yet moves. -/
theorem subscribing (unrevived : Unrevived state) {subscription : Subscription} {resumed : Resumed}
    {events : List Event}
    (unfinished : state.tasks (.subscribe subscription.id) ≠ .finished)
    (placed : (state.store (.subscribe subscription.id) resumed).Placed)
    (recorded : (state.store (.subscribe subscription.id) resumed).Recorded)
    (trace_eq : resumed.shared.trace = state.shared.trace ++ events)
    (mute : ∀ event ∈ events, event.Mute)
    (active : resumed.shared.active = state.shared.active)
    (reconnect : resumed.shared.reconnect = state.shared.reconnect)
    (subscriptions : resumed.shared.subscriptions = state.shared.subscriptions)
    (own : ∀ id writing, resumed.point ≠ .unsubscribing id writing)
    (spawned : resumed.spawned = none) :
    Unrevived (state.store (.subscribe subscription.id) resumed) := by
  refine unrevived.keeps placed recorded trace_eq mute (.inl active) reconnect subscriptions ?_
    (State.callers_store own (by simp [spawned]))
  intro id done
  have different : id ≠ subscription.id := by
    rintro rfl
    exact unfinished done
  simpa [State.store, spawned, different] using done

/-- The listener moves. -/
theorem listening (unrevived : Unrevived state) {resumed : Resumed} {event : Event}
    (placed : (state.store .listener resumed).Placed)
    (recorded : (state.store .listener resumed).Recorded)
    (trace_eq : resumed.shared.trace = state.shared.trace ++ [event]) (mute : event.Mute)
    (active : resumed.shared.active = state.shared.active)
    (reconnect : resumed.shared.reconnect = state.shared.reconnect)
    (subscriptions : resumed.shared.subscriptions = state.shared.subscriptions)
    (own : ∀ id writing, resumed.point ≠ .unsubscribing id writing)
    (spawned : ∀ other point, resumed.spawned = some (other, point) →
      (∀ id, other ≠ .subscribe id) ∧ ∀ id writing, point ≠ .unsubscribing id writing) :
    Unrevived (state.store .listener resumed) := by
  refine unrevived.keeps placed recorded trace_eq (by simpa using mute) (.inl active) reconnect
    subscriptions ?_ (State.callers_store own fun other point created =>
      (spawned other point created).2)
  intro id done
  refine State.forall_tasks_store (fun task point => task = .subscribe id → point = .finished)
    ?_ (by simp) ?_ _ rfl
  · rintro _ _ rfl
    exact done
  · intro other point created same
    exact absurd same ((spawned other point created).1 id)

theorem subscriptionMove (unrevived : Unrevived state) {after : State} (placed : after.Placed)
    (recorded : after.Recorded)
    (move : SubscriptionMove settings (fun action => unsubscribesInTime state action = true) state
      after) : Unrevived after := by
  cases move with
  | apart aloof subscribers callers =>
      obtain ⟨events, trace_eq, distant⟩ := aloof.trace
      exact unrevived.keeps placed recorded trace_eq
        (fun event member => (distant event member).mute) aloof.active aloof.reconnect
        aloof.subscriptions (fun id done => (subscribers id).trans done) callers
  | reconnects task reply choice effects => exact unrevived.reconnects effects placed recorded
  | asks subscription met absent =>
      exact unrevived.subscribing (by simp [absent]) placed recorded (List.append_nil _).symm
        (by simp) rfl rfl rfl (by simp) rfl
  | hands subscription writing standing left connection =>
      exact @subscribing _ unrevived subscription _ [_] (by simp [standing]) placed recorded rfl
        (by simp [Event.Mute, Event.subscribes]) rfl rfl rfl (by simp) rfl
  | waits subscription writing standing =>
      exact unrevived.subscribing (by simp [standing]) placed recorded (List.append_nil _).symm
        (by simp) rfl rfl rfl (by simp) rfl
  | refused subscription writing standing =>
      exact unrevived.subscribing (by simp [standing]) placed recorded (List.append_nil _).symm
        (by simp) rfl rfl rfl (by simp) rfl
  | registers subscription left connection standing =>
      exact unrevived.registers standing placed recorded rfl rfl rfl rfl rfl rfl
  | unsubscribes number id met subscribed absent connection active =>
      refine unrevived.calls (by simpa [unsubscribesInTime] using met) subscribed placed recorded
        (List.append_assoc _ _ _) (by simp [Event.subscribes]) rfl rfl rfl ?_ rfl
      intro other writing same
      obtain ⟨rfl, rfl⟩ := Point.unsubscribing.inj same
      refine ⟨rfl, ?_⟩
      intro other current
      obtain rfl : connection = other := Option.some.inj (active.symm.trans current)
      rfl
  | forgoes number id met subscribed absent inactive =>
      exact unrevived.calls (by simpa [unsubscribesInTime] using met) subscribed placed recorded
        (List.append_assoc _ _ _) (by simp [Event.subscribes, inactive]) rfl rfl rfl (by simp) rfl
  | fulfils number id connection standing =>
      refine unrevived.moves standing placed recorded (List.append_assoc _ _ _) ?_ rfl rfl rfl ?_
        (by simp) rfl
      · intro event member other
        rcases List.mem_pair.mp member with rfl | rfl
        · refine ⟨by simp, by simp, fun _ => Event.subscribes_wrote ?_ _ _ _⟩
          simp [unsubscribeFrame, Frame.bodyless]
        · exact ⟨by simp, fun same => (Event.unsubscribed.inj same).symm, fun _ => rfl⟩
      · intro other _ same
        obtain rfl := MaybeWrite.writing.inj same
        exact (Ended.concat connection id state.shared.trace).append (by simp [Event.subscribes])
  | drops number id writing standing gone =>
      refine @moves _ unrevived _ _ _ standing _ placed recorded [_] rfl
        (by simp [Event.subscribes]) rfl rfl rfl ?_ (by simp) rfl
      exact fun connection here same => absurd here (gone connection same)
  | loses number id connection standing gone =>
      refine unrevived.moves standing placed recorded (List.append_nil _).symm (by simp) rfl rfl rfl
        ?_ (by simp) rfl
      intro other here same
      obtain rfl := MaybeWrite.writing.inj same
      exact absurd here gone
  | breaks number id writing standing failure =>
      exact unrevived.keeps placed recorded (List.append_nil _).symm (by simp) (.inl rfl) rfl rfl
        (fun id done => by simpa [State.store] using done)
        (State.callers_store (by simp) (by simp))
  | takes choice connection epoch frame met standing point routes =>
      refine unrevived.listening placed recorded rfl (by simp [Event.Mute, Event.subscribes]) rfl
        rfl rfl ?_ (by simp)
      cases routes with
      | delivers => simp
      | passes _ _ _ aside =>
          rintro id writing rfl
          exact aside
  | creates delivery standing =>
      refine unrevived.listening placed recorded rfl (by simp [Event.Mute, Event.subscribes]) rfl
        rfl rfl (by simp [ListenerPoint.createHandler]) ?_
      intro other point created
      obtain ⟨rfl, rfl⟩ := Prod.mk.inj (Option.some.inj created)
      simp
  | stops delivery standing failure =>
      exact unrevived.keeps placed recorded (List.append_nil _).symm (by simp) (.inl rfl) rfl rfl
        (fun id done => by simpa [State.store] using done)
        (State.callers_store (by simp) (by simp))

end Unrevived

/-- In a run in which `unsubscribe` is not called while a handshake subscribes to the same
subscription, no subscription lives on after its `unsubscribe` has returned. -/
theorem never_revived {settings : Settings} {state : State}
    (reach : (client settings).Reaches
      (fun state action => unsubscribesInTime state action = true) state) : NeverRevived state := by
  have initially : Unrevived (client settings).initial := by
    refine ⟨placed_initial settings, recorded_initial settings, by
      simp [client, ActiveSubscriptions.getById], by simp [client], by simp [client], ?_,
      by simp [client, Shared.handshake], by simp [client]⟩
    intro task id writing standing
    cases task <;> simp [client, initialTasks] at standing
  have unrevived := invariant_of_moves initially
    (fun _ unrevived met begins => Unrevived.subscriptionMove unrevived
      (unrevived.placed.begins begins)
      (unrevived.recorded.transactionMove (begins.transactionMove met))
      (begins.subscriptionMove met))
    (fun _ unrevived reacts => @Unrevived.subscriptionMove settings _ unrevived _
      (unrevived.placed.reacts reacts)
      (unrevived.recorded.transactionMove
        (@Reacts.transactionMove settings (fun _ => True) _ _ reacts)) reacts.subscriptionMove)
    reach
  intro id returned connection active
  rcases unrevived.active connection active id (unrevived.called id returned) with
    ended | ⟨unreturned, -⟩
  · exact ended
  · exact absurd returned unreturned

/-- A subscription is ended on its connection. -/
def unsubscribesOnActive : List Action :=
  enters ++ [.subscribe plainSubscription, returns (.subscribe "1"), .unsubscribe 0 "1",
    returns (.call 0)]

theorem never_revived_unsubscribesOnActive :
    ∃ state, (client plainSettings).Reaches
        (fun state action => unsubscribesInTime state action = true) state ∧
      (.wrote 0 plainSubscription.frame ∈ state.shared.trace ∧
        .unsubscribed "1" ∈ state.shared.trace ∧ state.shared.active = some 0) ∧
      Ended 0 "1" state.shared.trace := by
  have replayed : ((client plainSettings).replay unsubscribesInTime (client plainSettings).initial
      unsubscribesOnActive).map (fun state =>
        decide (.wrote 0 plainSubscription.frame ∈ state.shared.trace ∧
          .unsubscribed "1" ∈ state.shared.trace ∧ state.shared.active = some 0)) =
      some true := by
    decide +kernel
  obtain ⟨state, reach, happened⟩ := System.exists_of_replay (fun _ _ passes => passes) replayed
  have facts := of_decide_eq_true happened
  exact ⟨state, reach, facts, never_revived reach "1" facts.2.1 0 facts.2.2⟩

/-- `unsubscribe` is called while a handshake writes the SUBSCRIBE of the subscription. -/
def unsubscribesLate : List Action :=
  enters ++ [.subscribe plainSubscription, returns (.subscribe "1"),
    raises .listener .connectionLost, returns .listener] ++ connects .listener ++
    [.unsubscribe 0 "1", returns .listener]

/-- A subscription may live on after its `unsubscribe` has returned. -/
theorem not_forall_neverRevived :
    ¬ ∀ state, (client plainSettings).Reachable state → NeverRevived state := by
  intro always
  have replayed : ((client plainSettings).replay (fun _ _ => true) (client plainSettings).initial
      unsubscribesLate).map (fun state =>
        decide (.unsubscribed "1" ∈ state.shared.trace ∧ state.shared.active = some 1 ∧
          .wrote 1 plainSubscription.frame ∈ state.shared.trace ∧
          .wrote 1 (unsubscribeFrame "1") ∉ state.shared.trace)) = some true := by
    decide +kernel
  obtain ⟨state, reach, happened⟩ := System.exists_of_replay (fun _ _ _ => trivial) replayed
  obtain ⟨returned, active, written, missing⟩ := of_decide_eq_true happened
  obtain ⟨before, later, split⟩ := List.append_of_mem written
  obtain ⟨_, member, rfl⟩ := always state reach "1" returned 1 active before _ later (by
    simp [Event.subscribes, Subscription.subscribes_frame, plainSubscription]) split
  exact missing (by simp [split, member])

end Stompman
