import Stompman.Leaks
import Stompman.Subscriptions

/-!
# Waiting until nothing is subscribed

`Client.__aexit__` waits on an event that mirrors the emptiness of `ActiveSubscriptions`.  The event
releases its waiters when it is set, and a waiter that has been released does not look at the
subscriptions again when it is resumed: a `subscribe` call that comes to its end in between is
overlooked.
-/

namespace Stompman

open Foundation

/-! ## The moment at which the wait is over -/

namespace ExitPoint

/-- The waiter in `wait_until_empty` has been released and not been resumed. -/
def released : ExitPoint → Bool
  | .waitingUntilEmpty released => released
  | _ => false

/-- `Client.__aexit__` is past `wait_until_empty`. -/
def shutsDown : ExitPoint → Bool
  | .inUse | .waitingUntilEmpty _ => false
  | _ => true

end ExitPoint

/-- `Client.__aexit__` is called with an exception, or what it awaits raises one. -/
def SessionAction.raised : SessionAction → Bool
  | .exit raised => raised
  | .resume (.raised _) _ => true
  | _ => false

/-- The next `await` of `_subscribe` is its last. -/
def Point.registers : Point → Bool
  | .subscribing _ (.writing ..) => true
  | _ => false

namespace Session

/-- Steps at which `wait_until_empty` returns. -/
def waitReturns (session : Session) : SessionAction → Bool
  | .exit raised => !raised && session.state.shared.subscriptions.event
  | .resume .returned _ =>
      match session.exit with
      | .waitingUntilEmpty _ => true
      | _ => false
  | _ => false

/-- Steps at which a `subscribe` call adds its subscription although the waiter has been
released. -/
def readmits (session : Session) : SessionAction → Bool
  | .client (.resume (.subscribe id) .returned _) =>
      session.exit.released && (session.state.tasks (.subscribe id)).registers
  | _ => false

/-- Nothing is subscribed at the moment at which `wait_until_empty` returns, nor when
`Client.__aexit__` starts to shut down without an exception. -/
structure ExitsEmptied (settings : Settings) (session : Session) : Prop where
  returned : ∀ action next, sessionStep settings session action = some next →
    session.waitReturns action = true → session.state.shared.subscriptions.getAll = []
  shutdown : ∀ action next, sessionStep settings session action = some next →
    session.exit.shutsDown = false → next.exit.shutsDown = true → action.raised = false →
      session.state.shared.subscriptions.getAll = []

end Session

/-! ## The event -/

namespace ActiveSubscriptions

/-- The event is set as long as nothing is subscribed. -/
def Mirrored (active : ActiveSubscriptions) : Prop := active.event = true ↔ active.getAll = []

theorem getAll_add_ne_nil (active : ActiveSubscriptions) (subscription : Subscription) :
    (active.add subscription).getAll ≠ [] := by
  have member : subscription ∈ (active.add subscription).getAll := by
    rw [mem_getAll_iff]
    exact ⟨subscription.id, by simp⟩
  exact List.ne_nil_of_mem member

theorem getAll_deleteById_eq_nil {active : ActiveSubscriptions} (empty : active.getAll = [])
    (id : String) : (active.deleteById id).getAll = [] := by
  rw [List.eq_nil_iff_forall_not_mem] at empty ⊢
  exact fun subscription member => empty subscription (mem_getAll_of_deleteById member)

theorem Mirrored.add (active : ActiveSubscriptions) (subscription : Subscription) :
    (active.add subscription).Mirrored := by
  refine ⟨fun set => ?_, fun empty => absurd empty (active.getAll_add_ne_nil subscription)⟩
  contradiction

theorem Mirrored.deleteById {active : ActiveSubscriptions} (mirrored : active.Mirrored)
    (id : String) : (active.deleteById id).Mirrored := by
  have event_eq : (active.deleteById id).event =
      (active.event || (active.deleteById id).getAll.isEmpty) := by
    simp [ActiveSubscriptions.deleteById, getAll, Dict.values]
  rw [Mirrored, event_eq, Bool.or_eq_true, List.isEmpty_iff]
  constructor
  · rintro (set | empty)
    · exact getAll_deleteById_eq_nil (mirrored.mp set) id
    · exact empty
  · exact .inr

end ActiveSubscriptions

/-! ## Steps of the client -/

section Steps

variable {settings : Settings} {meets : Action → Prop} {state after : State} {action : Action}

/-- What a move of the client does to the subscriptions.  `meets` holds of the action of the
step. -/
inductive Revises (meets : Action → Prop) (state : State) : ActiveSubscriptions → Prop
  | keeps : Revises meets state state.shared.subscriptions
  | adds (subscription : Subscription) (choice : Choice)
      (met : meets (.resume (.subscribe subscription.id) .returned choice))
      (standing : (state.tasks (.subscribe subscription.id)).registers = true) :
      Revises meets state (state.shared.subscriptions.add subscription)
  | deletes (number : Nat) (id : String) (met : meets (.unsubscribe number id)) :
      Revises meets state (state.shared.subscriptions.deleteById id)

theorem Revises.of_same {active : ActiveSubscriptions}
    (same : active = state.shared.subscriptions) : Revises meets state active := by
  rw [same]
  exact .keeps

theorem SubscriptionMove.revises (move : SubscriptionMove settings meets state after) :
    Revises meets state after.shared.subscriptions := by
  cases move with
  | apart aloof => exact .of_same aloof.subscriptions
  | reconnects task reply choice effects =>
      obtain ⟨events, -, -, -, kept⟩ := effects.extends
      exact .of_same kept
  | registers subscription left connection standing choice met =>
      exact .adds subscription choice met (by rw [standing]; rfl)
  | unsubscribes number id met => exact .deletes number id met
  | forgoes number id met => exact .deletes number id met
  | _ => exact .keeps

/-- Only the call or the reply itself adds or deletes a subscription. -/
theorem Reacts.subscriptions (reacts : Reacts state after) :
    after.shared.subscriptions = state.shared.subscriptions := by
  have move : SubscriptionMove plainSettings (fun _ => False) state after := reacts.subscriptionMove
  have revises := move.revises
  generalize after.shared.subscriptions = active at revises
  cases revises with
  | keeps => rfl
  | adds _ _ met => exact absurd met not_false
  | deletes _ _ met => exact absurd met not_false

theorem revises_of_step (fits : state.Fits)
    (stepped : step settings state action = some after) :
    Revises (fun met => met = action) state after.shared.subscriptions := by
  obtain ⟨middle, begins, reactions⟩ := moves_of_step fits stepped
  have move : SubscriptionMove settings (fun met => met = action) state middle :=
    begins.subscriptionMove rfl
  clear stepped
  induction reactions with
  | refl => exact move.revises
  | tail _ reacts ih =>
      rw [reacts.subscriptions]
      exact ih

theorem mirrored_step (fits : state.Fits) (mirrored : state.shared.subscriptions.Mirrored)
    (stepped : step settings state action = some after) :
    after.shared.subscriptions.Mirrored := by
  have revises := revises_of_step fits stepped
  generalize after.shared.subscriptions = active at revises
  cases revises with
  | keeps => exact mirrored
  | adds subscription => exact .add _ subscription
  | deletes _ id => exact mirrored.deleteById id

/-- The write of a SUBSCRIBE returns. -/
theorem add_of_step {id : String} {choice : Choice}
    (stepped : step settings state (.resume (.subscribe id) .returned choice) = some after)
    (standing : (state.tasks (.subscribe id)).registers = true) :
    ∃ subscription, after.shared.subscriptions = state.shared.subscriptions.add subscription := by
  unfold Point.registers at standing
  split at standing
  · rename_i subscription left connection writing
    simp only [step, State.exists?, if_true, writing, Point.resume, WriteFrame.resume,
      Option.map_some, Option.some.injEq] at stepped
    obtain rfl := stepped
    exact ⟨subscription, rfl⟩
  · contradiction

end Steps

/-! ## Shutdown -/

theorem ActiveSubscriptions.Mirrored.relatesExit :
    RelatesExit fun before after =>
      before.subscriptions.Mirrored → after.subscriptions.Mirrored where
  refl _ := id
  trans first second := second ∘ first
  hands _ _ _ := id
  writes _ _ _ := id
  discards _ _ _ := id
  closes _ _ := id
  unsubscribing _ id mirrored := mirrored.deleteById id
  unsubscribed _ _ := id

namespace Session

variable {settings : Settings} {session next : Session}

theorem shutsDown_failExit (session : Session) (connection : ConnectionId) (failure : Failure) :
    (session.failExit connection failure).exit.shutsDown = true := by
  unfold Session.failExit
  split <;> rfl

theorem shutsDown_unsubscribeFromAll (connection : ConnectionId) (receipt : String)
    (subscriptions : List Subscription) (session : Session) :
    (unsubscribeFromAll connection receipt subscriptions session).exit.shutsDown = true := by
  induction subscriptions generalizing session with
  | nil => rfl
  | cons subscription remaining ih =>
      rw [unsubscribeFromAll]
      split
      · rfl
      · exact ih _
      · exact shutsDown_failExit _ _ _

/-- Once it has been resumed, the task that leaves the client does not wait for the event again. -/
theorem released_resume {reply : Reply} {receipt : String}
    (resumed : session.resume reply receipt = some next) : next.exit.released = false := by
  have past : ∀ {exit : ExitPoint}, exit.shutsDown = true → exit.released = false := by
    intro exit ahead
    cases exit <;> first | rfl | contradiction
  cases Session.resumes_of_resume resumed with
  | stays same ahead =>
      unfold ExitPoint.released
      split
      · rename_i waiting
        exact absurd waiting (ahead _)
      · rfl
  | closesActive same =>
      unfold Session.closeActiveConnectionState
      split
      · rfl
      · exact past (shutsDown_unsubscribeFromAll _ _ _ _)
  | closes => rfl
  | fails => exact past (shutsDown_failExit _ _ _)
  | loses => rfl
  | unsubscribes => exact past (shutsDown_unsubscribeFromAll _ _ _ _)
  | breaks => exact past (shutsDown_failExit _ _ _)
  | disconnects => rfl

/-! ## Runs -/

/-- The invariant behind `wait_until_empty`. -/
structure Heeds (session : Session) : Prop where
  fits : session.state.Fits
  mirrored : session.state.shared.subscriptions.Mirrored
  /-- A waiter is released only when nothing is subscribed. -/
  released : session.exit.released = true → session.state.shared.subscriptions.getAll = []

namespace Heeds

theorem client {action : Action} {state : State} (heeds : session.Heeds)
    (stepped : Stompman.step settings session.state action = some state)
    (admitted : session.readmits (.client action) = false) :
    Heeds { session with state, exit := session.exit.notices state.shared } := by
  have mirrored := mirrored_step heeds.fits heeds.mirrored stepped
  -- A waiter that had been released finds the subscriptions as they were, or one fewer.
  have kept : session.exit.released = true → state.shared.subscriptions.getAll = [] := by
    intro released
    have empty := heeds.released released
    have revises := revises_of_step heeds.fits stepped
    generalize state.shared.subscriptions = active at revises
    cases revises with
    | keeps => exact empty
    | adds subscription choice met standing =>
        obtain rfl := met
        simp [readmits, released, standing] at admitted
    | deletes number id => exact ActiveSubscriptions.getAll_deleteById_eq_nil empty id
  refine ⟨heeds.fits.step stepped, mirrored, fun released => ?_⟩
  cases exit : session.exit with
  | waitingUntilEmpty earlier =>
      rw [exit] at released kept
      rcases Bool.or_eq_true_iff.mp released with earlier | set
      · exact kept earlier
      · exact mirrored.mp set
  | _ => simp [exit, ExitPoint.notices, ExitPoint.released] at released

theorem leave (heeds : session.Heeds) (raised : Bool) : (session.leave raised).Heeds := by
  unfold Session.leave
  split
  · exact ⟨heeds.fits, heeds.mirrored, by simp [ExitPoint.released]⟩
  · exact ⟨heeds.fits, heeds.mirrored, by simp [ExitPoint.released]⟩

theorem step {action : SessionAction} (heeds : session.Heeds)
    (admitted : session.readmits action = false)
    (stepped : sessionStep settings session action = some next) : next.Heeds := by
  cases action with
  | client action =>
      obtain ⟨state, moved, rfl⟩ := Option.map_eq_some_iff.mp stepped
      exact heeds.client moved admitted
  | exit raised =>
      simp only [sessionStep] at stepped
      split at stepped
      · split at stepped
        · obtain rfl := Option.some.inj stepped
          exact heeds.leave raised
        · contradiction
      · contradiction
  | resume reply receipt =>
      refine ⟨heeds.fits.of_tasks (tasks_resume stepped),
        ActiveSubscriptions.Mirrored.relatesExit.resume stepped heeds.mirrored, fun released => ?_⟩
      rw [released_resume stepped] at released
      contradiction

/-- The wait is over only when the event has been set. -/
theorem returns {action : SessionAction} (heeds : session.Heeds)
    (stepped : sessionStep settings session action = some next)
    (returned : session.waitReturns action = true) :
    session.state.shared.subscriptions.getAll = [] := by
  unfold waitReturns at returned
  split at returned
  · simp only [Bool.and_eq_true] at returned
    exact heeds.mirrored.mp returned.2
  · split at returned
    · rename_i released waiting
      refine heeds.released ?_
      simp only [sessionStep, Session.resume, waiting] at stepped
      split at stepped
      · rename_i set
        rw [waiting]
        exact set
      · contradiction
    · contradiction
  · contradiction

end Heeds

/-- Without an exception, `Client.__aexit__` starts to shut down when the wait is over. -/
theorem waitReturns_of_shutsDown {action : SessionAction}
    (stepped : sessionStep settings session action = some next)
    (before : session.exit.shutsDown = false) (after : next.exit.shutsDown = true)
    (calm : action.raised = false) : session.waitReturns action = true := by
  cases action with
  | client action =>
      obtain ⟨state, moved, rfl⟩ := Option.map_eq_some_iff.mp stepped
      cases exit : session.exit <;>
        simp_all [ExitPoint.notices, ExitPoint.shutsDown]
  | exit raised =>
      obtain rfl : raised = false := calm
      simp only [sessionStep] at stepped
      split at stepped
      · split at stepped
        · obtain rfl := Option.some.inj stepped
          unfold Session.leave at after
          split at after
          · rename_i set
            exact set
          · contradiction
        · contradiction
      · contradiction
  | resume reply receipt =>
      cases exit : session.exit with
      | waitingUntilEmpty released =>
          cases reply with
          | returned => simp [waitReturns, exit]
          | raised failure => contradiction
          | _ => simp [sessionStep, Session.resume, exit] at stepped
      | inUse => cases reply <;> simp [sessionStep, Session.resume, exit] at stepped
      | _ => simp [exit, ExitPoint.shutsDown] at before

theorem Heeds.exitsEmptied (heeds : session.Heeds) : session.ExitsEmptied settings where
  returned _ _ stepped := heeds.returns stepped
  shutdown _ _ stepped before after calm :=
    heeds.returns stepped (waitReturns_of_shutsDown stepped before after calm)

/-- A subscription that is added behind the back of a released waiter. -/
theorem not_exitsEmptied_of_readmits {action : SessionAction}
    (stepped : sessionStep settings session action = some next)
    (readmits : session.readmits action = true) : ¬ next.ExitsEmptied settings := by
  intro emptied
  unfold Session.readmits at readmits
  split at readmits
  · rename_i id choice
    obtain ⟨released, standing⟩ := Bool.and_eq_true_iff.mp readmits
    obtain ⟨state, moved, rfl⟩ := Option.map_eq_some_iff.mp stepped
    obtain ⟨subscription, added⟩ := add_of_step moved standing
    cases exit : session.exit with
    | waitingUntilEmpty earlier =>
        obtain rfl : earlier = true := by simpa [exit, ExitPoint.released] using released
        refine absurd (emptied.returned (.resume .returned "")
          { session with state, exit := .stoppingListener } ?_ ?_) ?_
        · simp [sessionStep, Session.resume, exit, ExitPoint.notices]
        · simp [waitReturns, exit, ExitPoint.notices]
        · rw [show state.shared.subscriptions = _ from added]
          exact ActiveSubscriptions.getAll_add_ne_nil _ subscription
    | _ => simp [exit, ExitPoint.released] at released
  · contradiction

theorem heeds_of_reaches
    (reach : (Stompman.session settings).Reaches
      (fun session action => session.readmits action = false) session) : session.Heeds := by
  refine reach.invariant ⟨fits_initial settings, ?_, ?_⟩
    fun _ heeds admitted stepped => heeds.step admitted stepped
  · exact ⟨fun _ => rfl, fun _ => rfl⟩
  · exact fun _ => rfl

end Session

/-- As long as no `subscribe` call adds its subscription between the release of the waiter in
`wait_until_empty` and its resumption, nothing is subscribed when `wait_until_empty` returns; and
the first such call has the client left while its subscription is active. -/
theorem exitsEmptied_of_unadmitted {settings : Settings} {current : Session}
    (reach : (session settings).Reaches
      (fun current action => current.readmits action = false) current) :
    current.ExitsEmptied settings ∧
      ∀ action next, sessionStep settings current action = some next →
        (next.ExitsEmptied settings ↔ current.readmits action = false) := by
  have heeds := Session.heeds_of_reaches reach
  refine ⟨heeds.exitsEmptied, fun action next stepped => ⟨fun emptied => ?_, fun admitted => ?_⟩⟩
  · rw [← Bool.not_eq_true]
    exact fun readmits => Session.not_exitsEmptied_of_readmits stepped readmits emptied
  · exact (heeds.step admitted stepped).exitsEmptied

/-- Another subscription. -/
def secondSubscription : Subscription where
  id := "2"
  destination := "/queue"

/-- A subscription is active when the client is left without an exception. -/
def leavesSubscribed : List SessionAction :=
  (enters ++ [.subscribe plainSubscription, returns (.subscribe "1")]).map .client ++ [.exit false]

/-- Nothing is subscribed when the wait is over. -/
theorem exitsEmptied_leavesSubscribed :
    ∃ current, (session plainSettings).Reaches
        (fun current action => current.readmits action = false) current ∧
      current.exit.released = true ∧ current.ExitsEmptied plainSettings := by
  have replayed : ((session plainSettings).replay
      (fun current action => !current.readmits action) (session plainSettings).initial
        (leavesSubscribed ++ [.client (.unsubscribe 0 "1")])).map
          (fun current => current.exit.released) = some true := by
    decide +kernel
  obtain ⟨current, reach, released⟩ := System.exists_of_replay
    (fun _ _ passes => (Bool.not_eq_true' _).mp passes) replayed
  exact ⟨current, reach, released, (exitsEmptied_of_unadmitted reach).1⟩

/-- The task that unsubscribes the only subscription subscribes again at once: the waiter is
released, and resumed while the new subscription is active. -/
theorem not_forall_exitsEmptied :
    ¬ ∀ (settings : Settings) (current : Session), (session settings).Reachable current →
      current.ExitsEmptied settings := by
  intro always
  have replayed : ((session plainSettings).replay (fun _ _ => true)
      (session plainSettings).initial
        (leavesSubscribed ++
          [.client (.unsubscribe 0 "1"), .client (returns (.call 0)),
            .client (.subscribe secondSubscription)])).map
          (fun current => current.readmits (.client (returns (.subscribe "2"))) &&
            ((session plainSettings).step current (.client (returns (.subscribe "2")))).isSome) =
      some true := by
    decide +kernel
  obtain ⟨current, reach, happened⟩ := System.exists_of_replay (fun _ _ _ => trivial) replayed
  obtain ⟨readmits, enabled⟩ := Bool.and_eq_true_iff.mp happened
  obtain ⟨next, stepped⟩ := Option.isSome_iff_exists.mp enabled
  have reached : (session plainSettings).Reachable next := reach.step trivial stepped
  refine Session.not_exitsEmptied_of_readmits ?_ readmits (always plainSettings next reached)
  exact stepped

end Stompman
