import Stompman.Subscriptions
import Stompman.Transactions

/-!
# Every message of a live subscription is dispatched once

The listener looks a MESSAGE up in the registered subscriptions, which a subscription joins only
when its SUBSCRIBE has been written.  A server may answer before that; such a message is dropped.
All other messages of subscribed connections get one handler task each, in the order of reading.
-/

namespace Stompman

open Foundation

namespace Event

/-- The listener takes a frame. -/
def takes : Event → Bool
  | .received .. => true
  | _ => false

/-- The number of a frame that the listener takes. -/
def taken? : Event → Option Nat
  | .received number .. => some number
  | _ => none

/-- The message and the subscription of a handler task. -/
def created? : Event → Option (Nat × Subscription)
  | .created number subscription => some (number, subscription)
  | _ => none

/-- SUBSCRIBE of a subscription is passed to `write_frame` of a connection. -/
def offers (connection : ConnectionId) (id : String) : Event → Bool
  | .handed other frame => other = connection && frame.subscribes id
  | _ => false

end Event

/-- If an event is the reading of a MESSAGE of a live subscription, then the events since contain
exactly one creation of a handler task: for this message, with this subscription. -/
def Answered (before : List Event) (event : Event) (since : List Event) : Prop :=
  ∀ number connection epoch message,
    event = .received number connection epoch (.frame message) → message.type = .message →
      ∀ subscription : Subscription,
        message.headers.get? "subscription" = some subscription.id →
        .handed connection subscription.frame ∈ before →
        .unsubscribing subscription.id ∉ before →
          ∃ routed : Subscription, routed.id = subscription.id ∧
            routed.frame = subscription.frame ∧
            since.filterMap Event.created? = [(number, routed)]

/-- Messages of live subscriptions are dispatched once: before the listener takes another frame, the
last one has been answered.  Frames are numbered as they are read, every handler task belongs to a
frame that was read, and handler tasks are created in the order of these numbers. -/
structure DispatchedOnce (trace : List Event) : Prop where
  answered : EveryAfter (fun event before => event.takes = true →
    Since (fun event => event.takes = true) Answered before) trace
  numbered : (trace.filterMap Event.taken?).Pairwise (· < ·)
  taken : EveryAfter (fun event before => ∀ number subscription,
    event = .created number subscription →
      ∃ connection epoch message, .received number connection epoch (.frame message) ∈ before) trace
  ordered : ((trace.filterMap Event.created?).map Prod.fst).Pairwise (· < ·)

/-- The step does not read a MESSAGE of a subscription whose `subscribe` call has not returned,
while its SUBSCRIBE has been passed to the connection and `unsubscribe` has not been called. -/
def readsRegistered (state : State) : Action → Bool
  | .resume .listener (.frame (.frame message)) _ =>
      match state.tasks .listener, message.headers.get? "subscription" with
      | .listener (.reading connection _), some id =>
          message.type ≠ .message ||
            (match state.tasks (.subscribe id) with
            | .finished => true
            | _ => false) ||
            .unsubscribing id ∈ state.shared.trace ||
            !state.shared.trace.any (Event.offers connection id)
      | _, _ => true
  | _ => true

/-! ## Who is registered -/

/-- What a `subscribe` task knows of a SUBSCRIBE that has been passed to a connection. -/
def Point.Knows (shared : Shared) (id : String) (frame : Frame) : Point → Prop
  | .absent => False
  | .subscribing subscription _ => subscription.frame = frame
  | .finished => .unsubscribing id ∉ shared.trace →
      ∃ subscription, shared.subscriptions.getById id = some subscription ∧
        subscription.frame = frame
  | _ => True

/-- The `subscribe` call of a subscription has returned, and it is registered unless `unsubscribe`
has been called. -/
def State.Lists (state : State) (subscription : Subscription) : Prop :=
  state.tasks (.subscribe subscription.id) = .finished ∧
    (.unsubscribing subscription.id ∉ state.shared.trace →
      state.shared.subscriptions.getById subscription.id = some subscription)

/-- The registered subscriptions are those whose `subscribe` calls have returned, up to
`unsubscribe`. -/
structure Registry (state : State) : Prop where
  registered : ∀ id subscription, state.shared.subscriptions.getById id = some subscription →
    subscription.id = id ∧ state.tasks (.subscribe id) = .finished
  known : ∀ connection frame id, .handed connection frame ∈ state.shared.trace →
    frame.subscribes id = true → (state.tasks (.subscribe id)).Knows state.shared id frame
  listed : ∀ connection point, state.shared.handshake = some (connection, point) →
    ∀ subscription ∈ point.unwritten, state.Lists subscription

theorem Point.Knows.of_same {before after : Shared} {id : String} {frame : Frame} {point : Point}
    (knows : point.Knows before id frame)
    (gone : .unsubscribing id ∈ before.trace → .unsubscribing id ∈ after.trace)
    (found : after.subscriptions.getById id = before.subscriptions.getById id) :
    point.Knows after id frame := by
  cases point with
  | finished =>
      intro live
      rw [found]
      exact knows fun member => live (gone member)
  | _ => exact knows

/-- Events without SUBSCRIBE and without calls of `unsubscribe`. -/
def Event.Idle (event : Event) : Prop :=
  (∀ connection id, event.offers connection id = false) ∧ ∀ id, event ≠ .unsubscribing id

theorem Event.Distant.idle {event : Event} (distant : event.Distant) : event.Idle := by
  refine ⟨?_, ?_⟩
  · intro connection id
    cases event with
    | handed other frame =>
        simp [Event.offers, Frame.subscribes_eq_false distant.1]
    | _ => rfl
  · rintro id rfl
    exact distant

theorem Event.idle_handed {frame : Frame} (other : frame.type ≠ .subscribe)
    (connection : ConnectionId) : (Event.handed connection frame).Idle := by
  refine ⟨?_, by simp⟩
  intro _ id
  simp [Event.offers, Frame.subscribes_eq_false other]

namespace Registry

variable {settings : Settings} {state : State}

/-- Events that keep the registry: an old SUBSCRIBE is the only kind of SUBSCRIBE. -/
theorem handed_of_idle {events : List Event} (idle : ∀ event ∈ events, event.Idle)
    {connection : ConnectionId} {frame : Frame} {id : String}
    (subscribes : frame.subscribes id = true)
    (member : .handed connection frame ∈ state.shared.trace ++ events) :
    .handed connection frame ∈ state.shared.trace := by
  refine (List.mem_append.mp member).resolve_right fun new => ?_
  have never := (idle _ new).1 connection id
  simp [Event.offers, subscribes] at never

/-- Changes without SUBSCRIBE and without `unsubscribe`. -/
theorem keeps (registry : Registry state) {after : State} {events : List Event}
    (trace_eq : after.shared.trace = state.shared.trace ++ events)
    (idle : ∀ event ∈ events, event.Idle)
    (handshake : ∀ connection point, after.shared.handshake = some (connection, point) →
      ∀ subscription ∈ point.unwritten, ∃ other earlier,
        state.shared.handshake = some (other, earlier) ∧ subscription ∈ earlier.unwritten)
    (subscriptions : after.shared.subscriptions = state.shared.subscriptions)
    (subscribers : ∀ id, after.tasks (.subscribe id) = state.tasks (.subscribe id)) :
    Registry after := by
  have grows : state.shared.trace ⊆ after.shared.trace := by
    rw [trace_eq]
    exact List.subset_append_left _ _
  refine ⟨?_, ?_, ?_⟩
  · intro id subscription found
    rw [subscribers]
    exact registry.registered id subscription (subscriptions ▸ found)
  · intro connection frame id member subscribes
    rw [subscribers]
    rw [trace_eq] at member
    have old := handed_of_idle idle subscribes member
    exact (registry.known connection frame id old subscribes).of_same (fun gone => grows gone)
      (by rw [subscriptions])
  · intro connection point current subscription member
    obtain ⟨other, earlier, before, listed⟩ :=
      handshake connection point current subscription member
    obtain ⟨finished, live⟩ := registry.listed other earlier before subscription listed
    rw [State.Lists, subscribers, subscriptions]
    exact ⟨finished, fun absent => live fun gone => absent (grows gone)⟩

theorem keeps_handshake {before after : Shared} (reconnect : after.reconnect = before.reconnect) :
    ∀ connection point, after.handshake = some (connection, point) →
      ∀ subscription ∈ point.unwritten, ∃ other earlier,
        before.handshake = some (other, earlier) ∧ subscription ∈ earlier.unwritten := by
  intro connection point current subscription member
  rw [Shared.handshake_congr reconnect] at current
  exact ⟨connection, point, current, member⟩

/-- A `subscribe` call that has not returned yet moves. -/
theorem subscriber (registry : Registry state) {own : String} {resumed : Resumed}
    {events : List Event} (unfinished : state.tasks (.subscribe own) ≠ .finished)
    (trace_eq : resumed.shared.trace = state.shared.trace ++ events)
    (idle : ∀ event ∈ events, (∀ connection id, event.offers connection id = true → id = own) ∧
      ∀ id, event ≠ .unsubscribing id)
    (reconnect : resumed.shared.reconnect = state.shared.reconnect)
    (subscriptions : ∀ id, id ≠ own → resumed.shared.subscriptions.getById id =
      state.shared.subscriptions.getById id)
    (registered : ∀ subscription, resumed.shared.subscriptions.getById own = some subscription →
      subscription.id = own ∧ resumed.point = .finished)
    (known : ∀ connection frame, .handed connection frame ∈ resumed.shared.trace →
      frame.subscribes own = true → resumed.point.Knows resumed.shared own frame)
    (spawned : resumed.spawned = none) : Registry (state.store (.subscribe own) resumed) := by
  have others : ∀ id, id ≠ own → (state.store (.subscribe own) resumed).tasks (.subscribe id) =
      state.tasks (.subscribe id) := by
    intro id different
    simp [State.store, spawned, different]
  have self : (state.store (.subscribe own) resumed).tasks (.subscribe own) = resumed.point := by
    simp [State.store, spawned]
  refine ⟨?_, ?_, ?_⟩
  · intro id subscription found
    by_cases same : id = own
    · subst same
      rw [self]
      exact registered subscription found
    · rw [others id same]
      rw [State.shared_store, subscriptions id same] at found
      exact registry.registered id subscription found
  · intro connection frame id member subscribes
    by_cases same : id = own
    · subst same
      rw [self]
      exact known connection frame member subscribes
    · rw [others id same]
      have old : .handed connection frame ∈ state.shared.trace := by
        rw [State.shared_store, trace_eq] at member
        refine (List.mem_append.mp member).resolve_right fun new => ?_
        exact same ((idle _ new).1 connection id (by simp [Event.offers, subscribes]))
      refine (registry.known connection frame id old subscribes).of_same ?_ (subscriptions id same)
      intro gone
      rw [State.shared_store, trace_eq]
      exact List.mem_append_left _ gone
  · intro connection point current subscription member
    have earlier : state.shared.handshake = some (connection, point) :=
      (Shared.handshake_congr reconnect).symm.trans current
    obtain ⟨finished, live⟩ := registry.listed connection point earlier subscription member
    have different : subscription.id ≠ own := by
      rintro same
      exact unfinished (same ▸ finished)
    rw [State.Lists, others _ different, State.shared_store, subscriptions _ different]
    refine ⟨finished, fun absent => live fun gone => absent ?_⟩
    rw [trace_eq]
    exact List.mem_append_left _ gone

/-- A `subscribe` call moves and does not return. -/
theorem subscribing (registry : Registry state) {own : String} {resumed : Resumed}
    {events : List Event} (unfinished : state.tasks (.subscribe own) ≠ .finished)
    (trace_eq : resumed.shared.trace = state.shared.trace ++ events)
    (idle : ∀ event ∈ events, (∀ connection id, event.offers connection id = true → id = own) ∧
      ∀ id, event ≠ .unsubscribing id)
    (reconnect : resumed.shared.reconnect = state.shared.reconnect)
    (subscriptions : resumed.shared.subscriptions = state.shared.subscriptions)
    (known : ∀ connection frame, .handed connection frame ∈ resumed.shared.trace →
      frame.subscribes own = true → resumed.point.Knows resumed.shared own frame)
    (spawned : resumed.spawned = none) : Registry (state.store (.subscribe own) resumed) := by
  refine registry.subscriber unfinished trace_eq idle reconnect
    (fun _ _ => by rw [subscriptions]) ?_ known spawned
  intro subscription found
  rw [subscriptions] at found
  exact absurd (registry.registered own subscription found).2 unfinished

/-- `unsubscribe` is called. -/
theorem unsubscribes (registry : Registry state) {number : Nat} {id : String} {resumed : Resumed}
    {events : List Event}
    (trace_eq : resumed.shared.trace = state.shared.trace ++ .unsubscribing id :: events)
    (idle : ∀ event ∈ events, event.Idle)
    (reconnect : resumed.shared.reconnect = state.shared.reconnect)
    (subscriptions : resumed.shared.subscriptions = state.shared.subscriptions.deleteById id)
    (spawned : resumed.spawned = none) : Registry (state.store (.call number) resumed) := by
  have subscribers : ∀ other, (state.store (.call number) resumed).tasks (.subscribe other) =
      state.tasks (.subscribe other) := by
    intro other
    simp [State.store, spawned]
  have deleted : .unsubscribing id ∈ resumed.shared.trace := by simp [trace_eq]
  have grows : state.shared.trace ⊆ resumed.shared.trace := by
    rw [trace_eq]
    exact List.subset_append_left _ _
  refine ⟨?_, ?_, ?_⟩
  · intro other subscription found
    rw [State.shared_store, subscriptions, ActiveSubscriptions.getById_deleteById] at found
    split at found
    · contradiction
    · rw [subscribers]
      exact registry.registered other subscription found
  · intro connection frame other member subscribes
    rw [subscribers]
    have old : .handed connection frame ∈ state.shared.trace := by
      rw [State.shared_store, trace_eq, ← List.singleton_append, ← List.append_assoc] at member
      rcases List.mem_append.mp member with early | late
      · simpa using early
      · have never := (idle _ late).1 connection other
        simp [Event.offers, subscribes] at never
    have knows := registry.known connection frame other old subscribes
    by_cases same : other = id
    · subst same
      generalize state.tasks (.subscribe other) = point at knows
      cases point with
      | finished => exact fun live => absurd deleted live
      | _ => exact knows
    · refine knows.of_same (fun gone => grows gone) ?_
      rw [State.shared_store, subscriptions, ActiveSubscriptions.getById_deleteById, if_neg same]
  · intro connection point current subscription member
    have earlier : state.shared.handshake = some (connection, point) :=
      (Shared.handshake_congr reconnect).symm.trans current
    obtain ⟨finished, live⟩ := registry.listed connection point earlier subscription member
    rw [State.Lists, subscribers, State.shared_store, subscriptions,
      ActiveSubscriptions.getById_deleteById]
    refine ⟨finished, fun absent => ?_⟩
    have different : subscription.id ≠ id := by
      intro same
      exact absent (same ▸ deleted)
    rw [if_neg different]
    exact live fun gone => absent (grows gone)

/-! ### Connecting -/

theorem lists_of_registered (registry : Registry state) {subscription : Subscription}
    (member : subscription ∈ state.shared.subscriptions.getAll) : state.Lists subscription := by
  obtain ⟨id, found⟩ := (ActiveSubscriptions.mem_getAll_iff _ _).mp member
  obtain ⟨rfl, finished⟩ := registry.registered id subscription found
  exact ⟨finished, fun _ => found⟩

/-- Connecting hands over SUBSCRIBEs of listed subscriptions only. -/
theorem connects (registry : Registry state) {after : Shared} {events : List Event}
    (trace_eq : after.trace = state.shared.trace ++ events)
    (managed : ∀ event ∈ events, event.Managed)
    (offered : ∀ connection frame id, .handed connection frame ∈ events →
      frame.subscribes id = true → ∃ subscription : Subscription,
        subscription.id = id ∧ subscription.frame = frame ∧ state.Lists subscription)
    (subscriptions : after.subscriptions = state.shared.subscriptions)
    (handshake : ∀ connection point, after.handshake = some (connection, point) →
      ∀ subscription ∈ point.unwritten, state.Lists subscription) :
    Registry { state with shared := after } := by
  have same : ∀ id, .unsubscribing id ∈ after.trace ↔ .unsubscribing id ∈ state.shared.trace := by
    intro id
    rw [trace_eq, List.mem_append, or_iff_left]
    exact fun member => managed _ member
  refine ⟨?_, ?_, ?_⟩
  · intro id subscription found
    exact registry.registered id subscription (subscriptions ▸ found)
  · intro connection frame id member subscribes
    rw [show ({ state with shared := after } : State).shared.trace = _ from trace_eq] at member
    rcases List.mem_append.mp member with old | new
    · exact (registry.known connection frame id old subscribes).of_same (same id).mpr
        (by rw [subscriptions])
    · obtain ⟨subscription, rfl, rfl, finished, live⟩ :=
        offered connection frame id new subscribes
      show (state.tasks (.subscribe subscription.id)).Knows after _ _
      rw [finished]
      intro absent
      rw [subscriptions]
      exact ⟨subscription, live fun gone => absent ((same _).mpr gone), rfl⟩
  · intro connection point current subscription member
    obtain ⟨finished, live⟩ := handshake connection point current subscription member
    refine ⟨finished, fun absent => ?_⟩
    rw [show ({ state with shared := after } : State).shared.subscriptions = _ from subscriptions]
    exact live fun gone => absent ((same _).mpr gone)

theorem type_replayedFrame {shared : Shared} (recorded : state.Recorded)
    (same : shared.sentFrames = state.shared.sentFrames) (own : String) (index : Nat) :
    (Shared.replayedFrame own (shared.replayed own index)).type ≠ .subscribe := by
  cases found : shared.replayed own index with
  | none => simp [Shared.replayedFrame, commitFrame, transactionFrame, Frame.bodyless]
  | some pair =>
      obtain ⟨frame, listed, rfl⟩ := Option.map_eq_some_iff.mp found
      rw [same] at listed
      obtain ⟨arguments, rfl⟩ := recorded.shared.sends own frame (List.mem_of_getElem? listed)
      simp [Shared.replayedFrame, sendFrame]

theorem not_handed_writtenBy (connection other : ConnectionId) (point : Enter) (frame : Frame) :
    .handed other frame ∉ Shared.writtenBy connection point := by
  cases point <;> simp [Shared.writtenBy]

theorem reconnects (registry : Registry state) (recorded : state.Recorded) {task : TaskId}
    {reply : Reply} {after : Shared} {progress : Progress Unit ConnectionId}
    (effects : state.shared.Reconnects settings task reply after progress) :
    Registry { state with shared := after } := by
  have lists : ∀ {connection point base rest walk},
      state.shared.handshake = some (connection, point) →
      state.shared.Ready settings connection reply point base rest walk →
      ∀ subscription ∈ rest, state.Lists subscription := by
    intro connection point base rest walk current ready subscription member
    cases ready with
    | confirmed => exact registry.lists_of_registered member
    | resubscribed written remaining =>
        exact registry.listed connection _ current subscription (List.mem_cons_of_mem _ member)
    | committed => simp at member
  have plain : ∀ {connection frame id} {events : List Event}, frame.type ≠ .subscribe →
      ∀ other sent, .handed other sent ∈ events ++ [.handed connection frame] →
      (∀ other sent, .handed other sent ∉ events) → sent.subscribes id = true → False := by
    intro connection frame id events type other sent member absent subscribes
    rcases List.mem_append.mp member with early | late
    · exact absent other sent early
    · obtain ⟨rfl, rfl⟩ := Event.handed.inj (List.mem_singleton.mp late)
      simp [Frame.subscribes_eq_false type] at subscribes
  cases effects with
  | interrupted => exact registry
  | found => exact registry
  | races =>
      exact registry.connects (List.append_nil _).symm (by simp) (by simp) rfl (by simp)
  | sleeps =>
      exact registry.connects (List.append_nil _).symm (by simp) (by simp) rfl (by simp)
  | leaves =>
      exact registry.connects (List.append_nil _).symm (by simp) (by simp) rfl (by simp)
  | opens reconnect locked owned calm pending server =>
      refine registry.connects (List.append_assoc _ _ _) (by simp [Event.Managed]) ?_ rfl ?_
      · intro connection frame id member subscribes
        exact (plain (by simp [connectFrame, Frame.bodyless]) connection frame member (by simp)
          subscribes).elim
      · simp [Shared.startHandshake, Enter.unwritten]
  | fails reconnect locked owned connection =>
      exact @connects _ registry _ [.closed connection] rfl (by simp [Event.Managed]) (by simp) rfl
        (by simp)
  | asks =>
      exact registry.connects rfl (by simp [Event.Managed]) (by simp) rfl
        (by simp [Enter.unwritten])
  | collects =>
      exact registry.connects (List.append_nil _).symm (by simp) (by simp) rfl
        (by simp [Enter.unwritten])
  | subscribes reconnect locked owned connection point phase subscription remaining ready =>
      have listed := lists (Shared.handshake_of_phase locked phase) ready
      refine registry.connects
        (ready.base.trace_append [_]) ?_ ?_ ready.base.subscriptions ?_
      · exact Shared.managed_concat (Shared.managed_writtenBy _ _) trivial
      · intro other frame id member subscribes
        have last := (List.mem_append.mp member).resolve_left (not_handed_writtenBy _ _ _ _)
        obtain ⟨rfl, rfl⟩ := Event.handed.inj (List.mem_singleton.mp last)
        rw [Subscription.subscribes_frame] at subscribes
        exact ⟨subscription, of_decide_eq_true subscribes, rfl,
          listed subscription List.mem_cons_self⟩
      · simpa [Enter.unwritten] using listed
  | replays reconnect locked owned connection walk own index frame phase =>
      rw [Shared.replayFrame_eq]
      refine registry.connects (List.append_assoc _ _ _) (by simp [Event.Managed]) ?_ rfl
        (by simp [Enter.unwritten])
      intro other sent id member subscribes
      exact (plain (type_replayedFrame recorded rfl own _) other sent member (by simp)
        subscribes).elim
  | picks reconnect locked owned connection point phase ready transaction =>
      rw [Shared.replayFrame_eq]
      refine registry.connects
        (ready.base.trace_append [_])
        (Shared.managed_concat (Shared.managed_writtenBy _ _) trivial) ?_ ready.base.subscriptions
        (by simp [Enter.unwritten])
      intro other frame id member subscribes
      exact (plain (type_replayedFrame recorded ready.base.sentFrames transaction _) other frame
        member (fun _ _ => not_handed_writtenBy _ _ _ _) subscribes).elim
  | changed reconnect locked owned connection point phase ready =>
      refine registry.connects
        (ready.base.trace_append [Event.closed connection])
        (Shared.managed_concat (Shared.managed_writtenBy _ _) trivial) ?_ ready.base.subscriptions
        (by simp)
      intro other frame id member
      simp [not_handed_writtenBy] at member
  | finishes reconnect locked owned connection point phase ready =>
      refine registry.connects
        (ready.base.trace_append [Event.activated connection])
        (Shared.managed_concat (Shared.managed_writtenBy _ _) trivial) ?_ ready.base.subscriptions
        (by simp)
      intro other frame id member
      simp [not_handed_writtenBy] at member

theorem subscriptionMove (registry : Registry state) (recorded : state.Recorded)
    {meets : Action → Prop} {after : State}
    (move : SubscriptionMove settings meets state after) : Registry after := by
  -- Tasks other than `subscribe` calls move.
  have apart : ∀ {task : TaskId} {resumed : Resumed} {events : List Event},
      (∀ id, task ≠ .subscribe id) → resumed.shared.trace = state.shared.trace ++ events →
      (∀ event ∈ events, event.Idle) → resumed.shared.reconnect = state.shared.reconnect →
      resumed.shared.subscriptions = state.shared.subscriptions →
      (∀ other point, resumed.spawned = some (other, point) → ∀ id, other ≠ .subscribe id) →
      Registry (state.store task resumed) := by
    intro task resumed events other trace_eq idle reconnect subscriptions spawned
    refine registry.keeps trace_eq idle (keeps_handshake reconnect) subscriptions ?_
    intro id
    refine State.forall_tasks_store (fun task point => task = .subscribe id →
      point = state.tasks (.subscribe id)) ?_ (fun same => absurd same (other id)) ?_ _ rfl
    · rintro _ _ rfl
      rfl
    · intro child point created same
      exact absurd same (spawned child point created id)
  cases move with
  | apart aloof subscribers =>
      obtain ⟨events, trace_eq, distant⟩ := aloof.trace
      exact registry.keeps trace_eq (fun event member => (distant event member).idle)
        (keeps_handshake aloof.reconnect) aloof.subscriptions subscribers
  | reconnects task reply choice effects => exact registry.reconnects recorded effects
  | asks subscription met absent =>
      refine registry.subscribing (by simp [absent]) (List.append_nil _).symm (by simp) rfl rfl ?_
        rfl
      intro connection frame member subscribes
      have never := registry.known connection frame _ member subscribes
      rw [absent] at never
      exact never.elim
  | hands subscription writing standing left connection =>
      refine @subscribing _ registry _ _ [_] (by simp [standing]) rfl ?_ rfl rfl ?_ rfl
      · simp [Event.offers, Subscription.subscribes_frame]
      · intro other frame member subscribes
        rcases List.mem_append.mp member with old | new
        · have knows := registry.known other frame _ old subscribes
          rw [standing] at knows
          exact knows
        · exact (Event.handed.inj (List.mem_singleton.mp new)).2.symm
  | waits subscription writing standing =>
      refine registry.subscribing (by simp [standing]) (List.append_nil _).symm (by simp) rfl rfl ?_
        rfl
      intro connection frame member subscribes
      have knows := registry.known connection frame _ member subscribes
      rw [standing] at knows
      exact knows
  | refused subscription writing standing =>
      exact registry.subscribing (by simp [standing]) (List.append_nil _).symm (by simp) rfl rfl
        (fun _ _ _ _ => trivial) rfl
  | registers subscription left connection standing =>
      refine @subscriber _ registry _ _ [_] (by simp [standing]) rfl (by simp [Event.offers]) rfl
        ?_ ?_ ?_ rfl
      · intro id different
        simp [different]
      · intro other found
        rw [ActiveSubscriptions.getById_add, if_pos rfl] at found
        obtain rfl := Option.some.inj found
        exact ⟨rfl, rfl⟩
      · intro other frame member subscribes live
        have old : .handed other frame ∈ state.shared.trace :=
          (List.mem_append.mp member).resolve_right (by simp)
        have knows := registry.known other frame _ old subscribes
        rw [standing] at knows
        exact ⟨subscription, by simp, knows⟩
  | unsubscribes number id met subscribed absent connection active =>
      refine registry.unsubscribes (List.append_assoc _ _ _) ?_ rfl rfl rfl
      exact List.forall_mem_singleton.mpr
        (Event.idle_handed (by simp [unsubscribeFrame, Frame.bodyless]) connection)
  | forgoes number id met subscribed absent inactive =>
      refine registry.unsubscribes (List.append_assoc _ _ _) ?_ rfl rfl rfl
      exact List.forall_mem_singleton.mpr ⟨fun _ _ => rfl, by simp⟩
  | fulfils =>
      refine apart (by simp) (List.append_assoc _ _ _) ?_ rfl rfl (by simp)
      simp [Event.Idle, Event.offers]
  | drops =>
      exact @apart _ _ [_] (by simp) rfl (by simp [Event.Idle, Event.offers]) rfl rfl (by simp)
  | loses => exact apart (by simp) (List.append_nil _).symm (by simp) rfl rfl (by simp)
  | breaks => exact apart (by simp) (List.append_nil _).symm (by simp) rfl rfl (by simp)
  | takes =>
      exact @apart _ _ [_] (by simp) rfl (by simp [Event.Idle, Event.offers]) rfl rfl (by simp)
  | creates =>
      refine @apart _ _ [_] (by simp) rfl (by simp [Event.Idle, Event.offers]) rfl rfl ?_
      intro other point created
      obtain ⟨rfl, -⟩ := Prod.mk.inj (Option.some.inj created)
      simp
  | stops => exact apart (by simp) (List.append_nil _).symm (by simp) rfl rfl (by simp)

end Registry

/-! ## The listener -/

/-- The listener has looked up the subscription of the last frame and waits for the semaphore. -/
def Pending (delivery : Delivery) (trace : List Event) : Prop :=
  ∃ before since, trace = before ++ .received delivery.number delivery.connection
      delivery.receivedAtReconnectionCount (.frame delivery.message) :: since ∧
    (∀ event ∈ since, event.takes = false) ∧ since.filterMap Event.created? = [] ∧
    (∀ pair ∈ trace.filterMap Event.created?, pair.1 < delivery.number) ∧
    ∀ subscription : Subscription,
      delivery.message.headers.get? "subscription" = some subscription.id →
      .handed delivery.connection subscription.frame ∈ before →
      .unsubscribing subscription.id ∉ before →
        delivery.subscription.id = subscription.id ∧
          delivery.subscription.frame = subscription.frame

/-- What the position of the listener says about the last frame: it has been answered, or will be
before the listener takes another one. -/
def Point.Attends (trace : List Event) : Point → Prop
  | .listener (.acquiring delivery) => Pending delivery trace
  | .raised _ => True
  | _ => Since (fun event => event.takes = true) Answered trace

/-- The invariant behind the dispatch of messages. -/
structure Attentive (state : State) : Prop where
  recorded : state.Recorded
  registry : Registry state
  dispatched : DispatchedOnce state.shared.trace
  listener : (state.tasks .listener).Attends state.shared.trace
  taken : ∀ number ∈ state.shared.trace.filterMap Event.taken?, number < state.shared.messages
  created : ∀ pair ∈ state.shared.trace.filterMap Event.created?, pair.1 < state.shared.messages

/-- Events that are neither readings nor creations of handler tasks. -/
def Event.Unheard (event : Event) : Prop :=
  event.takes = false ∧ event.taken? = none ∧ event.created? = none

theorem Event.Distant.unheard {event : Event} (distant : event.Distant) : event.Unheard := by
  cases event <;> first | exact ⟨rfl, rfl, rfl⟩ | exact absurd distant not_false

theorem Event.Managed.unheard {event : Event} (managed : event.Managed) : event.Unheard := by
  cases event <;> first | exact ⟨rfl, rfl, rfl⟩ | exact absurd managed not_false

section Unheard

variable {trace events : List Event} (unheard : ∀ event ∈ events, event.Unheard)

include unheard

theorem taken_unheard :
    (trace ++ events).filterMap Event.taken? = trace.filterMap Event.taken? := by
  rw [List.filterMap_append, List.filterMap_eq_nil_iff.mpr fun event member =>
    (unheard event member).2.1, List.append_nil]

theorem created_unheard :
    (trace ++ events).filterMap Event.created? = trace.filterMap Event.created? := by
  rw [List.filterMap_append, List.filterMap_eq_nil_iff.mpr fun event member =>
    (unheard event member).2.2, List.append_nil]

theorem answered_unheard
    (since : Since (fun event => event.takes = true) Answered trace) :
    Since (fun event => event.takes = true) Answered (trace ++ events) := by
  refine since.append (fun event member => by simp [(unheard event member).1]) ?_
  intro before event later answered number connection epoch message same type subscription named
    handed live
  rw [created_unheard unheard]
  exact answered number connection epoch message same type subscription named handed live

theorem Pending.append {delivery : Delivery} (pending : Pending delivery trace) :
    Pending delivery (trace ++ events) := by
  obtain ⟨before, since, split, untaken, uncreated, ordered, matched⟩ := pending
  refine ⟨before, since ++ events, by rw [split]; simp, ?_, ?_, ?_, matched⟩
  · intro event member
    rcases List.mem_append.mp member with old | new
    · exact untaken event old
    · exact (unheard event new).1
  · rw [created_unheard unheard]
    exact uncreated
  · rw [created_unheard unheard]
    exact ordered

theorem Point.Attends.append {point : Point} (attends : point.Attends trace) :
    point.Attends (trace ++ events) := by
  unfold Point.Attends at attends ⊢
  split
  · exact Pending.append unheard attends
  · trivial
  · rename_i waiting ended
    split at attends
    · exact absurd rfl (waiting _)
    · exact absurd rfl (ended _)
    · exact answered_unheard unheard attends

theorem DispatchedOnce.append (dispatched : DispatchedOnce trace) :
    DispatchedOnce (trace ++ events) := by
  refine ⟨dispatched.answered.append_of_free ?_, ?_, dispatched.taken.append_of_free ?_, ?_⟩
  · intro event member before takes
    rw [(unheard event member).1] at takes
    contradiction
  · rw [taken_unheard unheard]
    exact dispatched.numbered
  · rintro event member before number subscription rfl
    have never := (unheard _ member).2.2
    contradiction
  · rw [created_unheard unheard]
    exact dispatched.ordered

end Unheard

theorem Point.attends_of_since {point : Point} (aside : point.Aside) {trace : List Event}
    (since : Since (fun event => event.takes = true) Answered trace) : point.Attends trace := by
  unfold Point.Attends
  split
  · exact absurd aside not_false
  · trivial
  · exact since

theorem Point.Attends.since {point : Point} (aside : point.Aside)
    (running : ∀ failure, point ≠ .raised failure) {trace : List Event}
    (attends : point.Attends trace) : Since (fun event => event.takes = true) Answered trace := by
  unfold Point.Attends at attends
  split at attends
  · exact absurd aside not_false
  · exact absurd rfl (running _)
  · exact attends

namespace Attentive

variable {settings : Settings} {state : State}

/-- Moves of other tasks. -/
theorem keeps (attentive : Attentive state) {after : State} (recorded : after.Recorded)
    (registry : Registry after) {events : List Event}
    (trace_eq : after.shared.trace = state.shared.trace ++ events)
    (unheard : ∀ event ∈ events, event.Unheard)
    (messages : after.shared.messages = state.shared.messages)
    (listener : after.tasks .listener = state.tasks .listener ∨
      (state.tasks .listener).Aside ∧ (after.tasks .listener).Aside ∧
        ∀ failure, state.tasks .listener ≠ .raised failure) : Attentive after where
  recorded := recorded
  registry := registry
  dispatched := by
    rw [trace_eq]
    exact DispatchedOnce.append unheard attentive.dispatched
  listener := by
    rw [trace_eq]
    rcases listener with same | ⟨before, aside, running⟩
    · rw [same]
      exact Point.Attends.append unheard attentive.listener
    · exact Point.attends_of_since aside
        (answered_unheard unheard (attentive.listener.since before running))
  taken := by
    rw [trace_eq, taken_unheard unheard, messages]
    exact attentive.taken
  created := by
    rw [trace_eq, created_unheard unheard, messages]
    exact attentive.created

/-- A message of a subscribed connection whose `subscribe` call has returned is routed to that
subscription. -/
theorem registered (attentive : Attentive state) {connection : ConnectionId}
    {subscription : Subscription} (finished : state.tasks (.subscribe subscription.id) = .finished)
    (handed : .handed connection subscription.frame ∈ state.shared.trace)
    (live : .unsubscribing subscription.id ∉ state.shared.trace) :
    ∃ found, state.shared.subscriptions.getById subscription.id = some found ∧
      found.id = subscription.id ∧ found.frame = subscription.frame := by
  have knows := attentive.registry.known connection _ subscription.id handed
    (by simp [Subscription.subscribes_frame])
  rw [finished] at knows
  obtain ⟨found, present, same⟩ := knows live
  exact ⟨found, present, (attentive.registry.registered _ _ present).1, same⟩

/-- The listener takes a frame. -/
theorem takes (attentive : Attentive state) {choice : Choice} {connection : ConnectionId}
    {epoch : Nat} {frame : AnyFrame} {point : Point} {shared : Shared}
    (met : readsRegistered state (.resume .listener (.frame frame) choice) = true)
    (standing : state.tasks .listener = .listener (.reading connection epoch))
    (routes : Routes state.shared.subscriptions state.shared.messages connection epoch frame point)
    (recorded : (state.store .listener { shared, point }).Recorded)
    (registry : Registry (state.store .listener { shared, point }))
    (trace_eq : shared.trace =
      state.shared.trace ++ [.received state.shared.messages connection epoch frame])
    (messages : shared.messages = state.shared.messages + 1) :
    Attentive (state.store .listener { shared, point }) := by
  have since : Since (fun event => event.takes = true) Answered state.shared.trace := by
    have attends := attentive.listener
    rw [standing] at attends
    exact attends
  have created : shared.trace.filterMap Event.created? =
      state.shared.trace.filterMap Event.created? := by
    rw [trace_eq, List.filterMap_append]
    exact List.append_nil _
  have taken : shared.trace.filterMap Event.taken? =
      state.shared.trace.filterMap Event.taken? ++ [state.shared.messages] := by
    rw [trace_eq, List.filterMap_append]
    rfl
  refine ⟨recorded, registry, ⟨?_, ?_, ?_, ?_⟩, ?_, ?_, ?_⟩
  · rw [State.shared_store, trace_eq]
    exact attentive.dispatched.answered.concat fun _ => since
  · rw [State.shared_store, taken, List.pairwise_append]
    refine ⟨attentive.dispatched.numbered, List.pairwise_singleton _ _, ?_⟩
    intro number member last same
    obtain rfl := List.mem_singleton.mp same
    exact attentive.taken number member
  · rw [State.shared_store, trace_eq]
    exact attentive.dispatched.taken.concat (by simp)
  · rw [State.shared_store, created]
    exact attentive.dispatched.ordered
  · rw [State.shared_store, State.tasks_store, trace_eq]
    cases routes with
    | delivers message isMessage id named subscription registered =>
        refine ⟨state.shared.trace, [], rfl, by simp, rfl, ?_, ?_⟩
        · rw [← trace_eq, created]
          exact attentive.created
        · intro other same handed live
          obtain rfl : id = other.id := Option.some.inj (named.symm.trans same)
          obtain ⟨-, finished⟩ := attentive.registry.registered _ _ registered
          obtain ⟨found, present, equal, frame⟩ := attentive.registered finished handed live
          obtain rfl := Option.some.inj (present.symm.trans registered)
          exact ⟨equal, frame⟩
    | passes _ _ _ aside unrouted =>
        refine Point.attends_of_since aside (Since.of_split rfl rfl (by simp) ?_)
        intro number other otherEpoch message same type subscription named handed live
        obtain ⟨-, rfl, -, rfl⟩ := Event.received.inj same
        -- The condition: the `subscribe` call has returned, so that the look-up finds it.
        have finished : state.tasks (.subscribe subscription.id) = .finished := by
          have offered : state.shared.trace.any (Event.offers connection subscription.id) = true :=
            List.any_eq_true.mpr ⟨_, handed, by simp [Event.offers, Subscription.subscribes_frame]⟩
          simp only [readsRegistered, standing, named, type, live, offered] at met
          cases waiting : state.tasks (.subscribe subscription.id) <;> simp [waiting] at met ⊢
        obtain ⟨found, present, -⟩ := attentive.registered finished handed live
        rw [unrouted message rfl type _ named] at present
        contradiction
  · rw [State.shared_store, taken, messages]
    intro number member
    rcases List.mem_append.mp member with old | new
    · exact Nat.lt_succ_of_lt (attentive.taken number old)
    · rw [List.mem_singleton.mp new]
      exact Nat.lt_succ_self _
  · rw [State.shared_store, created, messages]
    exact fun pair member => Nat.lt_succ_of_lt (attentive.created pair member)

/-- The listener creates the handler task of a message. -/
theorem creates (attentive : Attentive state) {delivery : Delivery} {resumed : Resumed}
    (standing : state.tasks .listener = .listener (.acquiring delivery))
    (recorded : (state.store .listener resumed).Recorded)
    (registry : Registry (state.store .listener resumed))
    (trace_eq : resumed.shared.trace =
      state.shared.trace ++ [.created delivery.number delivery.subscription])
    (messages : resumed.shared.messages = state.shared.messages)
    (next : (state.store .listener resumed).tasks .listener =
      .listener (.reading delivery.connection delivery.receivedAtReconnectionCount)) :
    Attentive (state.store .listener resumed) := by
  have pending := attentive.listener
  rw [standing] at pending
  obtain ⟨before, since, split, untaken, uncreated, ordered, matched⟩ := pending
  have read : .received delivery.number delivery.connection delivery.receivedAtReconnectionCount
      (.frame delivery.message) ∈ state.shared.trace := by
    simp [split]
  have created : resumed.shared.trace.filterMap Event.created? =
      state.shared.trace.filterMap Event.created? ++
        [(delivery.number, delivery.subscription)] := by
    rw [trace_eq, List.filterMap_append]
    rfl
  have taken : resumed.shared.trace.filterMap Event.taken? =
      state.shared.trace.filterMap Event.taken? := by
    rw [trace_eq, List.filterMap_append]
    exact List.append_nil _
  have below : delivery.number < state.shared.messages :=
    attentive.taken _ (List.mem_filterMap.mpr ⟨_, read, rfl⟩)
  refine ⟨recorded, registry, ⟨?_, ?_, ?_, ?_⟩, ?_, ?_, ?_⟩
  · rw [State.shared_store, trace_eq]
    exact attentive.dispatched.answered.concat (by simp [Event.takes])
  · rw [State.shared_store, taken]
    exact attentive.dispatched.numbered
  · rw [State.shared_store, trace_eq]
    refine attentive.dispatched.taken.concat ?_
    intro number subscription same
    obtain ⟨rfl, -⟩ := Event.created.inj same
    exact ⟨_, _, _, read⟩
  · rw [State.shared_store, created, List.map_append, List.pairwise_append]
    refine ⟨attentive.dispatched.ordered, List.pairwise_singleton _ _, ?_⟩
    intro number member last same
    obtain ⟨pair, present, rfl⟩ := List.mem_map.mp member
    obtain rfl := List.mem_singleton.mp same
    exact ordered pair present
  · rw [next, State.shared_store, trace_eq]
    have longer : state.shared.trace ++ [.created delivery.number delivery.subscription] =
        before ++ .received delivery.number delivery.connection
          delivery.receivedAtReconnectionCount (.frame delivery.message) ::
            (since ++ [.created delivery.number delivery.subscription]) := by
      rw [split, List.append_assoc, List.cons_append]
    refine Since.of_split longer rfl ?_ ?_
    · intro event member
      rcases List.mem_append.mp member with old | new
      · simp [untaken event old]
      · simp [List.mem_singleton.mp new, Event.takes]
    · intro number connection epoch message same type subscription named handed live
      obtain ⟨rfl, rfl, -, equal⟩ := Event.received.inj same
      obtain rfl := AnyFrame.frame.inj equal
      obtain ⟨id, frame⟩ := matched subscription named handed live
      refine ⟨delivery.subscription, id, frame, ?_⟩
      rw [List.filterMap_append, uncreated]
      rfl
  · rw [State.shared_store, taken, messages]
    exact attentive.taken
  · rw [State.shared_store, created, messages]
    intro pair member
    rcases List.mem_append.mp member with old | new
    · exact attentive.created pair old
    · rw [List.mem_singleton.mp new]
      exact below

theorem subscriptionMove (attentive : Attentive state) {after : State} (recorded : after.Recorded)
    (move : SubscriptionMove settings (fun action => readsRegistered state action = true) state
      after) : Attentive after := by
  have registry := attentive.registry.subscriptionMove attentive.recorded move
  -- A task other than the listener moves.
  have apart : ∀ {task : TaskId} {resumed : Resumed} {events : List Event}, task ≠ .listener →
      (state.store task resumed).Recorded → Registry (state.store task resumed) →
      resumed.shared.trace = state.shared.trace ++ events → (∀ event ∈ events, event.Unheard) →
      resumed.shared.messages = state.shared.messages → resumed.spawned = none →
      Attentive (state.store task resumed) := by
    intro task resumed events other recorded registry trace_eq unheard messages spawned
    refine attentive.keeps recorded registry trace_eq unheard messages (.inl ?_)
    simp [State.store, spawned, Ne.symm other]
  have unheard : ∀ connection frame, (Event.handed connection frame).Unheard ∧
      (Event.wrote connection frame).Unheard :=
    fun _ _ => ⟨⟨rfl, rfl, rfl⟩, ⟨rfl, rfl, rfl⟩⟩
  cases move with
  | apart aloof subscribers callers listener =>
      obtain ⟨events, trace_eq, distant⟩ := aloof.trace
      exact attentive.keeps recorded registry trace_eq
        (fun event member => (distant event member).unheard) aloof.messages listener
  | reconnects task reply choice effects =>
      obtain ⟨events, trace_eq, managed, -⟩ := effects.extends
      exact attentive.keeps recorded registry trace_eq
        (fun event member => (managed event member).unheard) effects.aside.1 (.inl rfl)
  | asks => exact apart (by simp) recorded registry (List.append_nil _).symm (by simp) rfl rfl
  | hands =>
      exact @apart _ _ [_] (by simp) recorded registry rfl
        (List.forall_mem_singleton.mpr (unheard _ _).1) rfl rfl
  | waits => exact apart (by simp) recorded registry (List.append_nil _).symm (by simp) rfl rfl
  | refused => exact apart (by simp) recorded registry (List.append_nil _).symm (by simp) rfl rfl
  | registers =>
      exact @apart _ _ [_] (by simp) recorded registry rfl
        (List.forall_mem_singleton.mpr (unheard _ _).2) rfl rfl
  | unsubscribes =>
      refine apart (by simp) recorded registry (List.append_assoc _ _ _) ?_ rfl rfl
      simp [Event.Unheard, Event.takes, Event.taken?, Event.created?]
  | forgoes =>
      refine apart (by simp) recorded registry (List.append_assoc _ _ _) ?_ rfl rfl
      simp [Event.Unheard, Event.takes, Event.taken?, Event.created?]
  | fulfils =>
      refine apart (by simp) recorded registry (List.append_assoc _ _ _) ?_ rfl rfl
      simp [Event.Unheard, Event.takes, Event.taken?, Event.created?]
  | drops =>
      refine @apart _ _ [_] (by simp) recorded registry rfl ?_ rfl rfl
      simp [Event.Unheard, Event.takes, Event.taken?, Event.created?]
  | loses => exact apart (by simp) recorded registry (List.append_nil _).symm (by simp) rfl rfl
  | breaks => exact apart (by simp) recorded registry (List.append_nil _).symm (by simp) rfl rfl
  | takes choice connection epoch frame met standing point routes =>
      exact attentive.takes met standing routes recorded registry rfl rfl
  | creates delivery standing =>
      refine attentive.creates standing recorded registry rfl rfl ?_
      simp [State.store, ListenerPoint.createHandler]
  | stops delivery standing failure =>
      refine ⟨recorded, registry, attentive.dispatched, ?_, attentive.taken, attentive.created⟩
      rw [State.tasks_store]
      trivial

end Attentive

/-- In a run in which the listener reads no MESSAGE of a subscription before its `subscribe` call
has returned, every message of a live subscription is dispatched once, and in order. -/
theorem dispatched_once {settings : Settings} {state : State}
    (reach : (client settings).Reaches
      (fun state action => readsRegistered state action = true) state) :
    DispatchedOnce state.shared.trace := by
  have initially : Attentive (client settings).initial := by
    refine ⟨recorded_initial settings, ⟨?_, by simp [client], by simp [client, Shared.handshake]⟩,
      ⟨EveryAfter.nil, List.Pairwise.nil, EveryAfter.nil, List.Pairwise.nil⟩, Since.nil,
      by simp [client], by simp [client]⟩
    simp [client, ActiveSubscriptions.getById]
  have attentive := invariant_of_moves initially
    (fun _ attentive met begins => Attentive.subscriptionMove attentive
      (attentive.recorded.transactionMove (begins.transactionMove met))
      (begins.subscriptionMove met))
    (fun _ attentive reacts => @Attentive.subscriptionMove settings _ attentive _
      (attentive.recorded.transactionMove
        (@Reacts.transactionMove settings (fun _ => True) _ _ reacts)) reacts.subscriptionMove)
    reach
  exact attentive.dispatched

/-- The listener reads a message of a subscription, and then another frame. -/
def readsMessage : List Action :=
  enters ++ [.subscribe plainSubscription, returns (.subscribe "1"),
    .resume .listener (.frame (.frame plainMessage)) {}, .resume .listener (.frame .heartbeat) {}]

theorem dispatched_once_readsMessage :
    ∃ state, (client plainSettings).Reaches
        (fun state action => readsRegistered state action = true) state ∧
      (.handed 0 plainSubscription.frame ∈ state.shared.trace ∧
        .created 0 plainSubscription ∈ state.shared.trace) ∧
      DispatchedOnce state.shared.trace := by
  have replayed : ((client plainSettings).replay readsRegistered (client plainSettings).initial
      readsMessage).map (fun state =>
        decide (.handed 0 plainSubscription.frame ∈ state.shared.trace ∧
          .created 0 plainSubscription ∈ state.shared.trace)) = some true := by
    decide +kernel
  obtain ⟨state, reach, happened⟩ := System.exists_of_replay (fun _ _ passes => passes) replayed
  exact ⟨state, reach, of_decide_eq_true happened, dispatched_once reach⟩

/-- The server answers SUBSCRIBE before the write of it has returned. -/
def readsEarly : List Action :=
  enters ++ [.subscribe plainSubscription, .resume .listener (.frame (.frame plainMessage)) {},
    .resume .listener (.frame .heartbeat) {}]

/-- A message of a live subscription may be dropped. -/
theorem not_forall_dispatchedOnce :
    ¬ ∀ state, (client plainSettings).Reachable state → DispatchedOnce state.shared.trace := by
  intro always
  have replayed : ((client plainSettings).replay (fun _ _ => true) (client plainSettings).initial
      readsEarly).map (fun state =>
        decide (state.shared.trace.drop 5 =
            [.received 0 0 0 (.frame plainMessage), .received 1 0 0 .heartbeat] ∧
          .handed 0 plainSubscription.frame ∈ state.shared.trace.take 5 ∧
          .unsubscribing "1" ∉ state.shared.trace.take 5)) = some true := by
    decide +kernel
  obtain ⟨state, reach, happened⟩ := System.exists_of_replay (fun _ _ _ => trivial) replayed
  obtain ⟨last, handed, live⟩ := of_decide_eq_true happened
  have split : state.shared.trace =
      (state.shared.trace.take 5 ++ [.received 0 0 0 (.frame plainMessage)]) ++
        .received 1 0 0 .heartbeat :: [] := by
    conv_lhs => rw [← List.take_append_drop 5 state.shared.trace, last]
    simp
  have since := (always state reach).answered _ _ _ split rfl
  have answered := since (state.shared.trace.take 5) _ [] rfl rfl (by simp)
  obtain ⟨routed, -, -, created⟩ := answered 0 0 0 plainMessage rfl rfl plainSubscription
    (by decide) handed live
  contradiction

end Stompman
