import Stompman.Subscriptions

/-!
# Every registered subscription is on the active connection

`_subscribe` registers a subscription once its SUBSCRIBE is written, and a handshake writes
SUBSCRIBE for the subscriptions that are registered when it comes to them.  A write that returns in
between, on a connection that has been replaced or is being replaced, registers a subscription that
the new connection has not seen.
-/

namespace Stompman

open Foundation

/-- With a connection active and neither a `subscribe` call nor a handshake in progress, every
registered subscription has its SUBSCRIBE written on that connection. -/
def SubscribedOnActive (state : State) : Prop :=
  ∀ connection, state.shared.active = some connection → state.shared.handshake = none →
    (∀ task subscription writing, state.tasks task ≠ .subscribing subscription writing) →
      ∀ subscription ∈ state.shared.subscriptions.getAll,
        .wrote connection subscription.frame ∈ state.shared.trace

/-- Whether a handshake has listed the subscriptions that it writes. -/
def Shared.listed (shared : Shared) : Bool :=
  match shared.handshake with
  | some (_, .resubscribing ..) | some (_, .replaying ..) => true
  | _ => false

/-- The step is not the return of a SUBSCRIBE that comes too late: its connection is the active one,
or there is none and no handshake has listed the subscriptions. -/
def registersInTime (state : State) : Action → Bool
  | .resume (.subscribe id) .returned _ =>
      match state.tasks (.subscribe id) with
      | .subscribing _ (.writing _ connection) =>
          match state.shared.active with
          | some active => active = connection
          | none => !state.shared.listed
      | _ => true
  | _ => true

/-- What the position of a handshake says about a registered subscription. -/
def Enter.Covers (trace : List Event) (connection : ConnectionId) (subscription : Subscription) :
    Enter → Prop
  | .resubscribing current remaining =>
      .wrote connection subscription.frame ∈ trace ∨ subscription ∈ current :: remaining
  | .replaying .. => .wrote connection subscription.frame ∈ trace
  | _ => True

/-- The invariant behind resubscription. -/
structure Shared.Covered (shared : Shared) : Prop where
  locked : shared.reconnect.isSome → shared.active = none
  active : ∀ connection, shared.active = some connection →
    ∀ subscription ∈ shared.subscriptions.getAll,
      .wrote connection subscription.frame ∈ shared.trace
  handshake : ∀ connection point, shared.handshake = some (connection, point) →
    ∀ subscription ∈ shared.subscriptions.getAll,
      point.Covers shared.trace connection subscription

theorem Enter.Covers.mono {trace later : List Event} {connection : ConnectionId}
    {subscription : Subscription} {point : Enter}
    (covers : point.Covers trace connection subscription) (grows : trace ⊆ later) :
    point.Covers later connection subscription := by
  cases point with
  | resubscribing current remaining => exact covers.imp_left fun member => grows member
  | replaying => exact grows covers
  | _ => trivial

namespace Shared.Covered

variable {settings : Settings} {before after : Shared}

/-- Changes that register nothing. -/
theorem keeps (covered : before.Covered)
    (active : after.active = before.active ∨ after.active = none)
    (reconnect : after.reconnect = before.reconnect)
    (subscriptions : after.subscriptions.getAll ⊆ before.subscriptions.getAll)
    (grows : before.trace ⊆ after.trace) : after.Covered where
  locked := by
    rw [reconnect]
    intro held
    rcases active with same | none
    · rw [same]
      exact covered.locked held
    · exact none
  active := by
    intro connection current subscription member
    rcases active with same | none
    · exact grows (covered.active connection (same ▸ current) subscription (subscriptions member))
    · rw [none] at current
      contradiction
  handshake := by
    intro connection point current subscription member
    rw [Shared.handshake_congr reconnect] at current
    exact (covered.handshake connection point current subscription
      (subscriptions member)).mono grows

theorem aloof (covered : before.Covered) (aloof : Aloof before after) : after.Covered := by
  obtain ⟨events, trace_eq, -⟩ := aloof.trace
  refine covered.keeps aloof.active aloof.reconnect ?_ ?_
  · rw [aloof.subscriptions]
    exact List.Subset.refl _
  · rw [trace_eq]
    exact List.subset_append_left _ _

/-- What `enter` has written when it goes on. -/
theorem arrives (covered : before.Covered) {reply : Reply} {connection : ConnectionId}
    {point : Enter} (current : before.handshake = some (connection, point)) {base : Shared}
    {rest : List Subscription} {walk : Walk}
    (ready : before.Ready settings connection reply point base rest walk)
    {subscription : Subscription} (member : subscription ∈ before.subscriptions.getAll) :
    .wrote connection subscription.frame ∈ base.trace ∨ subscription ∈ rest := by
  have known := covered.handshake connection point current subscription member
  cases ready with
  | confirmed => exact .inr member
  | resubscribed written remaining =>
      rcases known with earlier | listed
      · exact .inl (List.mem_append_left _ earlier)
      · rcases List.mem_cons.mp listed with rfl | later
        · exact .inl (List.mem_append_right _ (List.mem_singleton_self _))
        · exact .inr later
  | committed => exact .inl (List.mem_append_left _ known)

/-- Connecting goes on without an active connection. -/
theorem holds (covered : before.Covered) (held : before.reconnect.isSome)
    (active : after.active = before.active)
    (handshake : ∀ connection point, after.handshake = some (connection, point) →
      ∀ subscription ∈ after.subscriptions.getAll,
        point.Covers after.trace connection subscription) : after.Covered := by
  have inactive : after.active = none := active.trans (covered.locked held)
  refine ⟨fun _ => inactive, ?_, handshake⟩
  intro connection current
  rw [inactive] at current
  contradiction

theorem reconnects {task : TaskId} {reply : Reply} {progress : Progress Unit ConnectionId}
    (covered : before.Covered)
    (effects : before.Reconnects settings task reply after progress) : after.Covered := by
  have held : ∀ {reconnect : Reconnect}, before.reconnect = some reconnect →
      before.reconnect.isSome := by
    intro reconnect locked
    rw [locked]
    rfl
  cases effects with
  | interrupted => exact covered
  | found => exact covered
  | races issues calm idle pending =>
      have inactive : before.active = none := idle.elim id covered.locked
      exact ⟨fun _ => inactive, covered.active, by simp⟩
  | sleeps issues calm idle =>
      have inactive : before.active = none := idle.elim id covered.locked
      exact ⟨fun _ => inactive, covered.active, by simp⟩
  | leaves =>
      exact ⟨by simp [Shared.leaveRace, Shared.release], covered.active, by simp⟩
  | opens reconnect locked owned calm pending server =>
      refine covered.holds (held locked) rfl ?_
      intro connection point current
      obtain ⟨-, rfl⟩ := Shared.eq_of_handshake_hold current
      exact fun _ _ => trivial
  | fails reconnect locked =>
      exact covered.holds (held locked) rfl (by simp)
  | asks reconnect locked =>
      refine covered.holds (held locked) rfl ?_
      intro connection point current
      obtain ⟨-, rfl⟩ := Shared.eq_of_handshake_hold current
      exact fun _ _ => trivial
  | collects reconnect locked =>
      refine covered.holds (held locked) rfl ?_
      intro connection point current
      obtain ⟨-, rfl⟩ := Shared.eq_of_handshake_hold current
      exact fun _ _ => trivial
  | subscribes reconnect locked owned connection point phase subscription remaining ready =>
      refine covered.holds (held locked) ready.base.active ?_
      intro other entered current listed member
      obtain ⟨rfl, rfl⟩ := Shared.eq_of_handshake_hold current
      have registered : listed ∈ before.subscriptions.getAll := ready.base.subscriptions ▸ member
      have known := covered.arrives (Shared.handshake_of_phase locked phase) ready registered
      exact known.imp_left fun earlier => List.mem_append_left _ earlier
  | replays reconnect locked owned connection walk own index frame phase =>
      rw [Shared.replayFrame_eq]
      refine covered.holds (held locked) rfl ?_
      intro other entered current subscription member
      obtain ⟨rfl, rfl⟩ := Shared.eq_of_handshake_hold current
      have known := covered.handshake connection _ (Shared.handshake_of_phase locked phase)
        subscription member
      exact List.mem_append_left _ (List.mem_append_left _ known)
  | picks reconnect locked owned connection point phase ready transaction =>
      rw [Shared.replayFrame_eq]
      refine covered.holds (held locked) ready.base.active ?_
      intro other entered current subscription member
      obtain ⟨rfl, rfl⟩ := Shared.eq_of_handshake_hold current
      have registered : subscription ∈ before.subscriptions.getAll :=
        ready.base.subscriptions ▸ member
      have known := covered.arrives (Shared.handshake_of_phase locked phase) ready registered
      exact List.mem_append_left _ (known.resolve_right List.not_mem_nil)
  | changed reconnect locked owned connection point phase ready =>
      exact covered.holds (held locked) ready.base.active (by simp)
  | finishes reconnect locked owned connection point phase ready =>
      refine ⟨by simp [Shared.activate], ?_, by simp⟩
      intro other current subscription member
      obtain rfl : connection = other := Option.some.inj current
      have registered : subscription ∈ before.subscriptions.getAll :=
        ready.base.subscriptions ▸ member
      have known := covered.arrives (Shared.handshake_of_phase locked phase) ready registered
      exact List.mem_append_left _ (known.resolve_right List.not_mem_nil)

/-- A subscription is registered. -/
theorem registers (covered : before.Covered) {subscription : Subscription}
    {connection : ConnectionId}
    (active : ∀ other, before.active = some other → other = connection)
    (unlisted : before.active = none → before.listed = false) :
    ({ before.noteWritten connection subscription.frame with
      subscriptions := before.subscriptions.add subscription } : Shared).Covered where
  locked := covered.locked
  active := by
    intro other current listed member
    obtain rfl := active other current
    rcases ActiveSubscriptions.mem_getAll_of_add member with rfl | old
    · exact List.mem_append_right _ (List.mem_singleton_self _)
    · exact List.mem_append_left _ (covered.active other current listed old)
  handshake := by
    intro other point current listed member
    have entering : before.handshake = some (other, point) := current
    have inactive : before.active = none := by
      refine covered.locked ?_
      cases held : before.reconnect with
      | none => simp [Shared.handshake, held] at entering
      | some => rfl
    have early := unlisted inactive
    rw [Shared.listed, entering] at early
    cases point <;> trivial

end Shared.Covered

theorem covered_of_subscriptionMove {settings : Settings} {state after : State}
    (covered : state.shared.Covered)
    (move : SubscriptionMove settings (fun action => registersInTime state action = true) state
      after) : after.shared.Covered := by
  have emitted : ∀ {shared : Shared} (event : Event), shared.Covered →
      (shared.emit event).Covered :=
    fun _ known => known.keeps (.inl rfl) rfl (List.Subset.refl _) (List.subset_append_left _ _)
  have deleted : ∀ (id : String), ({ state.shared.emit (.unsubscribing id) with
      subscriptions := state.shared.subscriptions.deleteById id } : Shared).Covered := by
    intro id
    refine covered.keeps (.inl rfl) rfl ?_ (List.subset_append_left _ _)
    exact fun _ => ActiveSubscriptions.mem_getAll_of_deleteById
  cases move with
  | apart aloof => exact covered.aloof aloof
  | reconnects task reply choice effects => exact covered.reconnects effects
  | asks => exact covered
  | hands subscription writing standing left connection => exact emitted _ covered
  | waits => exact covered
  | refused => exact covered
  | registers subscription left connection standing choice met =>
      simp only [registersInTime, standing] at met
      refine covered.registers ?_ ?_
      · intro other current
        simpa [current] using met
      · intro inactive
        simpa [inactive] using met
  | unsubscribes number id => exact emitted _ (deleted id)
  | forgoes number id => exact emitted _ (deleted id)
  | fulfils => exact emitted _ (emitted _ covered)
  | drops => exact emitted _ covered
  | loses => exact covered
  | breaks => exact covered
  | takes =>
      exact covered.keeps (.inl rfl) rfl (List.Subset.refl _) (List.subset_append_left _ _)
  | creates =>
      exact covered.keeps (.inl rfl) rfl (List.Subset.refl _) (List.subset_append_left _ _)
  | stops => exact covered

/-- In a run in which no SUBSCRIBE returns too late, every registered subscription has been
subscribed on the active connection. -/
theorem subscribed_on_active {settings : Settings} {state : State}
    (reach : (client settings).Reaches
      (fun state action => registersInTime state action = true) state) :
    SubscribedOnActive state := by
  have initially : (client settings).initial.shared.Covered :=
    ⟨fun _ => rfl, by simp [client], by simp [client, Shared.handshake]⟩
  have covered := @invariant_of_subscriptionMoves settings _ (fun state => state.shared.Covered)
    initially (fun _ => covered_of_subscriptionMove) state reach
  intro connection active _ _
  exact covered.active connection active

/-- A subscription survives the loss of its connection. -/
def resubscribes : List Action :=
  enters ++ [.subscribe plainSubscription, returns (.subscribe "1"),
    raises .listener .connectionLost, returns .listener] ++ connects .listener ++
    [returns .listener]

/-- The connection is lost while SUBSCRIBE is being written, and replaced before the write
returns. -/
def registersLate : List Action :=
  enters ++ [.subscribe plainSubscription, raises .listener .connectionLost, returns .listener] ++
    connects .listener ++ [returns (.subscribe "1")]

theorem quiet_of_asksOnly {settings : Settings} {state : State} {asked : String}
    (reach : (client settings).Reaches (fun _ action => asksOnly asked action = true) state)
    (done : (match state.tasks (.subscribe asked) with | .finished => true | _ => false) = true) :
    ∀ task subscription writing, state.tasks task ≠ .subscribing subscription writing := by
  intro task subscription writing standing
  have own := (fits_of_reaches reach).tasks task
  rw [standing] at own
  obtain rfl : task = .subscribe subscription.id := own
  by_cases same : subscription.id = asked
  · rw [← same, standing] at done
    contradiction
  · rw [absent_of_asksOnly reach _ same] at standing
    contradiction

theorem subscribed_on_active_resubscribes :
    ∃ state, (client plainSettings).Reaches
        (fun state action => registersInTime state action = true) state ∧
      (state.shared.active = some 1 ∧ plainSubscription ∈ state.shared.subscriptions.getAll ∧
        ∀ task subscription writing, state.tasks task ≠ .subscribing subscription writing) ∧
      .wrote 1 plainSubscription.frame ∈ state.shared.trace := by
  have replayed : ((client plainSettings).replay
      (fun state action => registersInTime state action && asksOnly "1" action)
      (client plainSettings).initial resubscribes).map (fun state =>
        (match state.tasks (.subscribe "1") with | .finished => true | _ => false) &&
          decide (state.shared.active = some 1) && state.shared.handshake.isNone &&
          decide (plainSubscription ∈ state.shared.subscriptions.getAll)) = some true := by
    decide +kernel
  obtain ⟨state, reach, happened⟩ := System.exists_of_replay
    (fun _ _ passes => Bool.and_eq_true_iff.mp passes) replayed
  simp only [Bool.and_eq_true, decide_eq_true_eq, Option.isNone_iff_eq_none] at happened
  obtain ⟨⟨⟨done, active⟩, calm⟩, registered⟩ := happened
  have timely := reach.mono fun _ _ both => both.1
  have quiet := quiet_of_asksOnly (reach.mono fun _ _ both => both.2) done
  exact ⟨state, timely, ⟨active, registered, quiet⟩,
    subscribed_on_active timely 1 active calm quiet plainSubscription registered⟩

/-- A registered subscription may be missing on the active connection. -/
theorem not_forall_subscribedOnActive :
    ¬ ∀ state, (client plainSettings).Reachable state → SubscribedOnActive state := by
  intro always
  have replayed : ((client plainSettings).replay (fun _ action => asksOnly "1" action)
      (client plainSettings).initial registersLate).map (fun state =>
        (match state.tasks (.subscribe "1") with | .finished => true | _ => false) &&
          decide (state.shared.active = some 1) && state.shared.handshake.isNone &&
          decide (plainSubscription ∈ state.shared.subscriptions.getAll ∧
            .wrote 1 plainSubscription.frame ∉ state.shared.trace)) = some true := by
    decide +kernel
  obtain ⟨state, reach, happened⟩ := System.exists_of_replay (fun _ _ passes => passes) replayed
  simp only [Bool.and_eq_true, decide_eq_true_eq, Option.isNone_iff_eq_none] at happened
  obtain ⟨⟨⟨done, active⟩, calm⟩, registered, missing⟩ := happened
  exact missing (always state reach.reachable 1 active calm (quiet_of_asksOnly reach done) _
    registered)

end Stompman
