import Stompman.Connections
import Stompman.Foundation.Trace

/-!
# The moves of subscriptions and messages

What a step can do to the registered subscriptions, to the calls of `_subscribe` and `unsubscribe`
and to the listener.  The lists of `Moves` are sorted for these three; everything else stands
aside.
-/

namespace Stompman

open Foundation

namespace ActiveSubscriptions

theorem mem_getAll_iff (active : ActiveSubscriptions) (subscription : Subscription) :
    subscription ∈ active.getAll ↔ ∃ id, active.getById id = some subscription :=
  active.subscriptions.mem_values_iff subscription

@[simp]
theorem getById_add (active : ActiveSubscriptions) (subscription : Subscription) (id : String) :
    (active.add subscription).getById id =
      if id = subscription.id then some subscription else active.getById id :=
  active.subscriptions.get?_set subscription.id id subscription

@[simp]
theorem getById_deleteById (active : ActiveSubscriptions) (deleted id : String) :
    (active.deleteById deleted).getById id = if id = deleted then none else active.getById id :=
  active.subscriptions.get?_erase deleted id

theorem mem_getAll_of_deleteById {active : ActiveSubscriptions} {deleted : String}
    {subscription : Subscription} (member : subscription ∈ (active.deleteById deleted).getAll) :
    subscription ∈ active.getAll := by
  rw [mem_getAll_iff] at member ⊢
  obtain ⟨id, found⟩ := member
  rw [getById_deleteById] at found
  split at found
  · contradiction
  · exact ⟨id, found⟩

theorem mem_getAll_of_add {active : ActiveSubscriptions} {added subscription : Subscription}
    (member : subscription ∈ (active.add added).getAll) :
    subscription = added ∨ subscription ∈ active.getAll := by
  rw [mem_getAll_iff] at member ⊢
  obtain ⟨id, found⟩ := member
  rw [getById_add] at found
  split at found
  · exact .inl (Option.some.inj found).symm
  · exact .inr ⟨id, found⟩

end ActiveSubscriptions

/-- SUBSCRIBE of a subscription. -/
def Frame.subscribes (frame : Frame) (id : String) : Bool :=
  frame.type = .subscribe && frame.headers.get? "id" = some id

/-- The subscriptions that a handshake still has to write. -/
def Enter.unwritten : Enter → List Subscription
  | .resubscribing current remaining => current :: remaining
  | _ => []

theorem Frame.subscribes_eq_false {frame : Frame} (other : frame.type ≠ .subscribe) (id : String) :
    frame.subscribes id = false := by
  simp [subscribes, other]

theorem Subscription.subscribes_frame (subscription : Subscription) (id : String) :
    subscription.frame.subscribes id = decide (subscription.id = id) := by
  simp [frame, Frame.subscribes, subscribeFrame, Frame.bodyless, Dict.update]

/-! ## Moves -/

/-- Events that concern neither subscriptions nor messages. -/
def Event.Distant : Event → Prop
  | .handed _ frame | .wrote _ frame => frame.type ≠ .subscribe ∧ frame.type ≠ .unsubscribe
  | .unsubscribing _ | .unsubscribed _ | .received .. | .created .. => False
  | _ => True

/-- Changes of the shared state that concern neither subscriptions nor messages; the active
connection may be lost. -/
structure Aloof (before after : Shared) : Prop where
  active : after.active = before.active ∨ after.active = none
  reconnect : after.reconnect = before.reconnect
  subscriptions : after.subscriptions = before.subscriptions
  messages : after.messages = before.messages
  trace : ∃ events, after.trace = before.trace ++ events ∧ ∀ event ∈ events, event.Distant

/-- What a move can do to subscriptions and messages.  `meets` holds of the action of the step. -/
inductive SubscriptionMove (settings : Settings) (meets : Action → Prop) (state : State) :
    State → Prop
  | apart {after : State} (aloof : Aloof state.shared after.shared)
      (subscribers : ∀ id, after.tasks (.subscribe id) = state.tasks (.subscribe id))
      (callers : ∀ task id writing, after.tasks task = .unsubscribing id writing →
        state.tasks task = .unsubscribing id writing)
      (listener : after.tasks .listener = state.tasks .listener ∨
        (state.tasks .listener).Aside ∧ (after.tasks .listener).Aside ∧
          ∀ failure, state.tasks .listener ≠ .raised failure) :
      SubscriptionMove settings meets state after
  | reconnects {after : Shared} {progress : Progress Unit ConnectionId} (task : TaskId)
      (reply : Reply) (choice : Choice)
      (effects : state.shared.Reconnects settings task reply after progress) :
      SubscriptionMove settings meets state { state with shared := after }
  | asks (subscription : Subscription) (met : meets (.subscribe subscription))
      (absent : state.tasks (.subscribe subscription.id) = .absent) (left : Nat) :
      SubscriptionMove settings meets state (state.store (.subscribe subscription.id)
        { shared := state.shared, point := .subscribing subscription (.connecting left) })
  | hands (subscription : Subscription) (writing : WriteFrame)
      (standing : state.tasks (.subscribe subscription.id) = .subscribing subscription writing)
      (left : Nat) (connection : ConnectionId) (active : state.shared.active = some connection) :
      SubscriptionMove settings meets state (state.store (.subscribe subscription.id)
        { shared := state.shared.hand connection subscription.frame
          point := .subscribing subscription (.writing left connection) })
  | waits (subscription : Subscription) (writing : WriteFrame)
      (standing : state.tasks (.subscribe subscription.id) = .subscribing subscription writing)
      (next : WriteFrame) :
      SubscriptionMove settings meets state (state.store (.subscribe subscription.id)
        { shared := state.shared, point := .subscribing subscription next })
  | refused (subscription : Subscription) (writing : WriteFrame)
      (standing : state.tasks (.subscribe subscription.id) = .subscribing subscription writing)
      (failure : Failure) :
      SubscriptionMove settings meets state (state.store (.subscribe subscription.id)
        { shared := state.shared, point := .raised failure })
  | registers (subscription : Subscription) (left : Nat) (connection : ConnectionId)
      (standing : state.tasks (.subscribe subscription.id) =
        .subscribing subscription (.writing left connection)) (choice : Choice)
      (met : meets (.resume (.subscribe subscription.id) .returned choice)) :
      SubscriptionMove settings meets state (state.store (.subscribe subscription.id)
        { shared :=
            { state.shared.noteWritten connection subscription.frame with
              subscriptions := state.shared.subscriptions.add subscription }
          point := .finished })
  | unsubscribes (number : Nat) (id : String) (met : meets (.unsubscribe number id))
      (subscribed : state.tasks (.subscribe id) = .finished)
      (absent : state.tasks (.call number) = .absent) (connection : ConnectionId)
      (active : state.shared.active = some connection) :
      SubscriptionMove settings meets state (state.store (.call number)
        { shared :=
            Shared.hand
              { state.shared.emit (.unsubscribing id) with
                subscriptions := state.shared.subscriptions.deleteById id }
              connection (unsubscribeFrame id)
          point := .unsubscribing id (.writing connection) })
  | forgoes (number : Nat) (id : String) (met : meets (.unsubscribe number id))
      (subscribed : state.tasks (.subscribe id) = .finished)
      (absent : state.tasks (.call number) = .absent) (inactive : state.shared.active = none) :
      SubscriptionMove settings meets state (state.store (.call number)
        { shared :=
            Shared.emit
              { state.shared.emit (.unsubscribing id) with
                subscriptions := state.shared.subscriptions.deleteById id }
              (.unsubscribed id)
          point := .finished })
  | fulfils (number : Nat) (id : String) (connection : ConnectionId)
      (standing : state.tasks (.call number) = .unsubscribing id (.writing connection)) :
      SubscriptionMove settings meets state (state.store (.call number)
        { shared :=
            (state.shared.noteWritten connection (unsubscribeFrame id)).emit (.unsubscribed id)
          point := .finished })
  | drops (number : Nat) (id : String) (writing : MaybeWrite)
      (standing : state.tasks (.call number) = .unsubscribing id writing)
      (gone : ∀ connection, writing = .writing connection →
        state.shared.active ≠ some connection) :
      SubscriptionMove settings meets state (state.store (.call number)
        { shared := state.shared.emit (.unsubscribed id), point := .finished })
  | loses (number : Nat) (id : String) (connection : ConnectionId)
      (standing : state.tasks (.call number) = .unsubscribing id (.writing connection))
      (gone : state.shared.active ≠ some connection) :
      SubscriptionMove settings meets state (state.store (.call number)
        { shared := state.shared, point := .unsubscribing id (.discarding connection) })
  | breaks (number : Nat) (id : String) (writing : MaybeWrite)
      (standing : state.tasks (.call number) = .unsubscribing id writing) (failure : Failure) :
      SubscriptionMove settings meets state (state.store (.call number)
        { shared := state.shared, point := .raised failure })
  | takes (choice : Choice) (connection : ConnectionId) (epoch : Nat) (frame : AnyFrame)
      (met : meets (.resume .listener (.frame frame) choice))
      (standing : state.tasks .listener = .listener (.reading connection epoch)) (point : Point)
      (routes : Routes state.shared.subscriptions state.shared.messages connection epoch frame
        point) :
      SubscriptionMove settings meets state (state.store .listener
        { shared :=
            { state.shared.emit
                (.received state.shared.messages connection epoch frame) with
              messages := state.shared.messages + 1 }
          point })
  | creates (delivery : Delivery)
      (standing : state.tasks .listener = .listener (.acquiring delivery)) :
      SubscriptionMove settings meets state
        (state.store .listener (ListenerPoint.createHandler delivery state.shared))
  | stops (delivery : Delivery)
      (standing : state.tasks .listener = .listener (.acquiring delivery)) (failure : Failure) :
      SubscriptionMove settings meets state
        (state.store .listener { shared := state.shared, point := .raised failure })

namespace Aloof

variable {before after : Shared}

theorem refl (shared : Shared) : Aloof shared shared :=
  ⟨.inl rfl, rfl, rfl, rfl, [], by simp, by simp⟩

theorem emit {event : Event} (distant : event.Distant) : Aloof before (before.emit event) :=
  ⟨.inl rfl, rfl, rfl, rfl, [event], rfl, by simpa using distant⟩

theorem trans {middle : Shared} (first : Aloof before middle) (second : Aloof middle after) :
    Aloof before after := by
  obtain ⟨events, trace_eq, distant⟩ := first.trace
  obtain ⟨more, more_eq, further⟩ := second.trace
  refine ⟨?_, second.reconnect.trans first.reconnect,
    second.subscriptions.trans first.subscriptions, second.messages.trans first.messages,
    events ++ more, by rw [more_eq, trace_eq, List.append_assoc], ?_⟩
  · rcases second.active with same | none
    · rw [same]
      exact first.active
    · exact .inr none
  · intro event member
    rcases List.mem_append.mp member with early | late
    · exact distant event early
    · exact further event late

end Aloof

section Conversion

variable {settings : Settings} {meets : Action → Prop} {state : State} {task : TaskId}

/-- Tasks that neither subscribe nor listen. -/
def TaskId.Bystander : TaskId → Prop
  | .subscribe _ | .listener => False
  | _ => True

/-- A task that does not come to an `unsubscribe` call adds no such call. -/
theorem State.callers_store {resumed : Resumed}
    (own : ∀ id writing, resumed.point ≠ .unsubscribing id writing)
    (spawned : ∀ other point, resumed.spawned = some (other, point) →
      ∀ id writing, point ≠ .unsubscribing id writing) :
    ∀ other id writing, (state.store task resumed).tasks other = .unsubscribing id writing →
      state.tasks other = .unsubscribing id writing := by
  refine State.forall_tasks_store (fun other point => ∀ id writing,
    point = .unsubscribing id writing → state.tasks other = .unsubscribing id writing)
    (fun _ _ _ _ same => same) (fun id writing same => absurd same (own id writing)) ?_
  intro other point created id writing same
  exact absurd same (spawned other point created id writing)

/-- A bystander moves, and does not come to an `unsubscribe` call. -/
theorem SubscriptionMove.elsewhere (bystander : task.Bystander) {resumed : Resumed}
    (aloof : Aloof state.shared resumed.shared)
    (own : ∀ id writing, resumed.point ≠ .unsubscribing id writing)
    (spawned : resumed.spawned = none) :
    SubscriptionMove settings meets state (state.store task resumed) := by
  refine .apart aloof ?_ (State.callers_store own (by simp [spawned])) (.inl ?_)
  · intro id
    have other : TaskId.subscribe id ≠ task := by
      rintro rfl
      exact bystander
    simp [State.store, spawned, other]
  · have other : TaskId.listener ≠ task := by
      rintro rfl
      exact bystander
    simp [State.store, spawned, other]

/-- Jobs other than `_subscribe`. -/
theorem Job.bystander {job : Job} (runs : job.Runs task)
    (other : ∀ subscription, job ≠ .subscribe subscription) :
    task.Bystander ∧ job.frame.type ≠ .subscribe ∧ job.frame.type ≠ .unsubscribe := by
  cases job with
  | send frame =>
      obtain ⟨⟨number, rfl⟩, arguments, rfl⟩ := runs
      exact ⟨trivial, by simp [Job.frame, sendFrame]⟩
  | subscribe subscription => exact absurd rfl (other subscription)
  | begin transaction =>
      obtain rfl := runs
      exact ⟨trivial, by simp [Job.frame, beginFrame, transactionFrame, Frame.bodyless]⟩
  | transact transaction failed frame =>
      obtain ⟨rfl, arguments, rfl⟩ := runs
      exact ⟨trivial, by simp [Job.frame, sendFrame]⟩

theorem Job.point_ne (job : Job) (writing : WriteFrame) (id : String) (other : MaybeWrite) :
    job.point writing ≠ .unsubscribing id other := by
  cases job <;> simp [Job.point]

/-- Duties other than that of `unsubscribe`. -/
theorem Duty.bystander {duty : Duty} (runs : duty.Runs task)
    (other : ∀ id, duty ≠ .unsubscribe id) :
    task.Bystander ∧ duty.frame.type ≠ .subscribe ∧ duty.frame.type ≠ .unsubscribe := by
  cases duty with
  | unsubscribe id => exact absurd rfl (other id)
  | abort transaction =>
      obtain rfl := runs
      exact ⟨trivial, by simp [Duty.frame, abortFrame, transactionFrame, Frame.bodyless]⟩
  | commit transaction =>
      obtain rfl := runs
      exact ⟨trivial, by simp [Duty.frame, commitFrame, transactionFrame, Frame.bodyless]⟩
  | settle delivery frame suppressed =>
      obtain ⟨⟨number, rfl⟩, ack | nack⟩ := runs
      · exact ⟨trivial, by simp [Duty.frame, ack]⟩
      · exact ⟨trivial, by simp [Duty.frame, nack]⟩
  | acknowledge delivery frame =>
      obtain ⟨⟨number, rfl⟩, ack | nack⟩ := runs
      · exact ⟨trivial, by simp [Duty.frame, ack]⟩
      · exact ⟨trivial, by simp [Duty.frame, nack]⟩

theorem Duty.point_ne {duty : Duty} (other : ∀ id, duty ≠ .unsubscribe id) (writing : MaybeWrite)
    (id : String) (next : MaybeWrite) : duty.point writing ≠ .unsubscribing id next := by
  cases duty with
  | unsubscribe own => exact absurd rfl (other own)
  | _ => simp [Duty.point]

theorem SubscriptionMove.ends {duty : Duty} (runs : duty.Runs task)
    (other : ∀ id, duty ≠ .unsubscribe id) {shared : Shared} (aloof : Aloof state.shared shared)
    (written : Bool) :
    SubscriptionMove settings meets state (state.store task (duty.completed written shared)) := by
  have ended := duty.ends_completed written shared
  obtain ⟨events, trace_eq, listed⟩ := ended.trace
  refine .elsewhere (Duty.bystander runs other).1 (aloof.trans ⟨.inl ended.active,
    ended.reconnect, ended.subscriptions, ended.messages, events, trace_eq, ?_⟩) ?_ ended.spawned
  · intro event member
    rcases listed event member with ⟨id, same, -⟩ | ⟨number, rfl⟩
    · exact absurd same (other id)
    · trivial
  · intro id writing same
    have aside := ended.aside
    rw [same] at aside
    exact aside

theorem Begins.subscriptionMove {action : Action} {middle : State} (met : meets action)
    (begins : Begins settings state action middle) :
    SubscriptionMove settings meets state middle := by
  cases begins with
  | idles => exact .apart (.refl _) (fun _ => rfl) (fun _ _ _ => id) (.inl rfl)
  | reconnects task reply choice effects => exact .reconnects task reply choice effects
  | calls _ task job asked absent left =>
      cases action with
      | subscribe subscription =>
          obtain ⟨rfl, rfl⟩ := Prod.mk.inj (Option.some.inj asked)
          exact .asks subscription met absent left
      | begin transaction =>
          obtain ⟨rfl, rfl⟩ := Prod.mk.inj (Option.some.inj asked)
          exact .elsewhere (by trivial) (.refl _) (by simp [Job.point]) rfl
      | send number arguments =>
          obtain ⟨rfl, rfl⟩ := Prod.mk.inj (Option.some.inj asked)
          exact .elsewhere (by trivial) (.refl _) (by simp [Job.point]) rfl
      | _ => contradiction
  | sends =>
      exact .elsewhere (by trivial) ⟨.inl rfl, rfl, rfl, rfl, [_], rfl, by simp [Event.Distant]⟩
        (by simp) rfl
  | writes task choice job runs left connection standing =>
      cases job with
      | subscribe subscription =>
          obtain rfl := runs
          exact .registers subscription left connection standing choice met
      | send frame =>
          obtain ⟨bystander, distant⟩ := Job.bystander runs (by simp)
          exact .elsewhere bystander (.emit distant) (by simp [Job.completed]) rfl
      | begin transaction =>
          obtain ⟨bystander, distant⟩ := Job.bystander runs (by simp)
          have wrote : Aloof state.shared
              (state.shared.noteWritten connection (beginFrame transaction)) := .emit distant
          refine .elsewhere bystander (wrote.trans ?_) (by simp [Job.completed]) rfl
          simp only [Job.completed, Shared.addTransaction]
          split
          · exact .refl _
          · exact ⟨.inl rfl, rfl, rfl, rfl, [], (List.append_nil _).symm, by simp⟩
      | transact transaction failed frame =>
          obtain ⟨bystander, distant⟩ := Job.bystander runs (by simp)
          exact .elsewhere bystander (.emit distant) (by simp [Job.completed]) rfl
  | hands asked connection active =>
      cases asked with
      | unsubscribe number id subscribed absent =>
          exact .unsubscribes number id met subscribed absent connection active
      | commit transaction failed inside =>
          refine .elsewhere (by trivial) (Aloof.trans (.emit (by trivial)) (.emit ?_))
            (by simp [Duty.point]) rfl
          exact (@Duty.bystander (.transaction transaction) (.commit transaction) rfl (by simp)).2
      | abort transaction failed inside =>
          refine .elsewhere (by trivial) (Aloof.trans (.emit (by trivial)) (.emit ?_))
            (by simp [Duty.point]) rfl
          exact (@Duty.bystander (.transaction transaction) (.abort transaction) rfl (by simp)).2
  | skips asked inactive =>
      cases asked with
      | unsubscribe number id subscribed absent =>
          exact .forgoes number id met subscribed absent inactive
      | commit transaction failed inside =>
        exact .ends (by rfl) (by simp) (.emit (by trivial)) false
      | abort transaction failed inside => exact .ends (by rfl) (by simp) (.emit (by trivial)) false
  | fulfils task reply choice duty runs connection standing =>
      by_cases own : ∃ id, duty = .unsubscribe id
      · obtain ⟨id, rfl⟩ := own
        obtain ⟨number, rfl⟩ := runs
        exact .fulfils number id connection standing
      · rw [not_exists] at own
        have wrote : Aloof state.shared (state.shared.noteWritten connection duty.frame) :=
          .emit (Duty.bystander runs own).2
        exact .ends runs own wrote true
  | drops task reply choice duty runs writing standing gone =>
      by_cases own : ∃ id, duty = .unsubscribe id
      · obtain ⟨id, rfl⟩ := own
        obtain ⟨number, rfl⟩ := runs
        exact .drops number id writing standing gone
      · exact .ends runs (not_exists.mp own) (.refl _) false
  | acknowledges action task aside duty runs settles number connection active =>
      have other : ∀ id, duty ≠ .unsubscribe id := by
        rintro id rfl
        simp [Duty.frame, unsubscribeFrame, Frame.bodyless] at settles
      obtain ⟨bystander, distant⟩ := Duty.bystander runs other
      exact .elsewhere bystander (Aloof.trans (.emit (by exact distant)) (.emit (by trivial)))
        (Duty.point_ne other _) rfl
  | takes choice connection epoch frame standing point routes =>
      exact .takes choice connection epoch frame met standing point routes

theorem Reacts.subscriptionMove {after : State} (reacts : Reacts state after) :
    SubscriptionMove settings meets state after := by
  cases reacts with
  | hands task job runs writing standing left connection active =>
      by_cases own : ∃ subscription, job = .subscribe subscription
      · obtain ⟨subscription, rfl⟩ := own
        obtain rfl := runs
        exact .hands subscription writing standing left connection active
      · obtain ⟨bystander, distant⟩ := Job.bystander runs (not_exists.mp own)
        exact .elsewhere bystander (.emit distant) (job.point_ne _) rfl
  | waits task job runs writing standing next idle =>
      by_cases own : ∃ subscription, job = .subscribe subscription
      · obtain ⟨subscription, rfl⟩ := own
        obtain rfl := runs
        exact .waits subscription writing standing next
      · exact .elsewhere (Job.bystander runs (not_exists.mp own)).1 (.refl _) (job.point_ne _) rfl
  | fails task job runs writing standing failure =>
      by_cases own : ∃ subscription, job = .subscribe subscription
      · obtain ⟨subscription, rfl⟩ := own
        obtain rfl := runs
        exact .refused subscription writing standing failure
      · refine .elsewhere (Job.bystander runs (not_exists.mp own)).1 (.refl _) ?_ rfl
        cases job <;> simp [Job.failed]
  | loses task duty runs connection standing gone =>
      by_cases own : ∃ id, duty = .unsubscribe id
      · obtain ⟨id, rfl⟩ := own
        obtain ⟨number, rfl⟩ := runs
        exact .loses number id connection standing gone
      · rw [not_exists] at own
        exact .elsewhere (Duty.bystander runs own).1 (.refl _) (Duty.point_ne own _) rfl
  | breaks task duty runs writing standing failure =>
      by_cases own : ∃ id, duty = .unsubscribe id
      · obtain ⟨id, rfl⟩ := own
        obtain ⟨number, rfl⟩ := runs
        exact .breaks number id writing standing failure
      · refine .elsewhere (Duty.bystander runs (not_exists.mp own)).1 (.refl _) ?_ rfl
        cases duty <;> simp [Duty.failed]
  | discards connection active =>
      refine .apart ⟨.inr rfl, rfl, rfl, rfl, _, List.append_assoc _ _ _, ?_⟩ (fun _ => rfl)
        (fun _ _ _ => id) (.inl rfl)
      simp [Event.Distant]
  | opens =>
      exact .apart ⟨.inl rfl, rfl, rfl, rfl, [_], rfl, by simp [Event.Distant]⟩ (fun _ => rfl)
        (fun _ _ _ => id) (.inl rfl)
  | beats => exact .apart (.emit (by trivial)) (fun _ => rfl) (fun _ _ _ => id) (.inl rfl)
  | reports => exact .apart (.emit (by trivial)) (fun _ => rfl) (fun _ _ _ => id) (.inl rfl)
  | creates delivery standing => exact .creates delivery standing
  | stops delivery standing failure => exact .stops delivery standing failure
  | elsewhere changes =>
      have unmoved := changes.shared
      refine .apart ⟨.inl unmoved.active, unmoved.reconnect, unmoved.subscriptions,
        unmoved.messages, [], by simp [unmoved.trace], by simp⟩ ?_ ?_ ?_
      · intro id
        rcases changes.tasks (.subscribe id) with same | ⟨background, -⟩
        · exact same
        · exact absurd background not_false
      · intro task id writing standing
        rcases changes.tasks task with same | ⟨-, -, aside⟩
        · exact same ▸ standing
        · rw [standing] at aside
          exact absurd aside not_false
      · rcases changes.tasks .listener with same | ⟨-, before, after⟩
        · exact .inl same
        · by_cases ended : ∃ failure, state.tasks .listener = .raised failure
          · obtain ⟨failure, raised⟩ := ended
            exact .inl ((changes.listener failure raised).trans raised.symm)
          · exact .inr ⟨before, after, not_exists.mp ended⟩

end Conversion

/-- Invariants of subscriptions and messages. -/
theorem invariant_of_subscriptionMoves {settings : Settings} {allowed : State → Action → Prop}
    {property : State → Prop} (initially : property (client settings).initial)
    (kept : ∀ {state after : State}, state.Fits → property state →
      SubscriptionMove settings (allowed state) state after → property after)
    {state : State} (reach : (client settings).Reaches allowed state) : property state :=
  invariant_of_moves initially
    (fun fits holds met begins => kept fits holds (begins.subscriptionMove met))
    (fun fits holds reacts => kept fits holds reacts.subscriptionMove) reach

/-! ## Calls of `subscribe` -/

/-- The step calls `subscribe` for no other id. -/
def asksOnly (id : String) : Action → Bool
  | .subscribe subscription => subscription.id = id
  | _ => true

/-- Without a call there is no `subscribe` task. -/
theorem absent_of_asksOnly {settings : Settings} {state : State} {asked : String}
    (reach : (client settings).Reaches (fun _ action => asksOnly asked action = true) state) :
    ∀ id, id ≠ asked → state.tasks (.subscribe id) = .absent := by
  refine @invariant_of_subscriptionMoves settings _ (fun state => ∀ id, id ≠ asked →
    state.tasks (.subscribe id) = .absent) (fun _ _ => rfl) ?_ state reach
  intro state after _ absent move
  have stored : ∀ {task : TaskId} {resumed : Resumed},
      (∀ id, task = .subscribe id → id = asked) →
      (∀ other point, resumed.spawned = some (other, point) → ∀ id, other ≠ .subscribe id) →
      ∀ id, id ≠ asked → (state.store task resumed).tasks (.subscribe id) = .absent := by
    intro task resumed own spawned id different
    refine State.forall_tasks_store (fun task point => ∀ id, task = .subscribe id → id ≠ asked →
      point = .absent) ?_ ?_ ?_ _ id rfl different
    · rintro _ _ id rfl
      exact absent id
    · intro id same different
      exact absurd (own id same) different
    · intro other point created id same
      exact absurd same (spawned other point created id)
  have started : ∀ {subscription : Subscription} {writing : WriteFrame},
      state.tasks (.subscribe subscription.id) = .subscribing subscription writing →
      ∀ id, TaskId.subscribe subscription.id = .subscribe id → id = asked := by
    intro subscription writing standing id same
    obtain rfl := TaskId.subscribe.inj same
    by_contra different
    rw [absent _ different] at standing
    contradiction
  cases move with
  | apart aloof subscribers =>
      intro id different
      rw [subscribers]
      exact absent id different
  | reconnects => exact absent
  | asks subscription met =>
      refine stored ?_ (by simp)
      intro id same
      obtain rfl := TaskId.subscribe.inj same
      exact of_decide_eq_true met
  | hands subscription writing standing => exact stored (started standing) (by simp)
  | waits subscription writing standing => exact stored (started standing) (by simp)
  | refused subscription writing standing => exact stored (started standing) (by simp)
  | registers subscription left connection standing => exact stored (started standing) (by simp)
  | creates delivery =>
      refine stored (by simp) ?_
      intro other point created
      obtain ⟨rfl, -⟩ := Prod.mk.inj (Option.some.inj created)
      simp
  | _ => exact stored (by simp) (by simp)

end Stompman
