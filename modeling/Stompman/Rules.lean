import Stompman.Connecting

/-!
# Relations that every step keeps to

A step changes the shared state by a few kinds of effects: those of writes and calls, those of
`_get_active_connection_state`, events, and fields that no other part of the state depends on.  A
relation that bears each of them holds between the shared states before and after every step of the
client.
-/

namespace Stompman

open Foundation

/-- Events that a step records outside writes and `_get_active_connection_state`. -/
def Event.Own : Event → Prop
  | .opened _ | .beat _ | .received .. | .created .. | .reported _ | .called .. | .exited ..
  | .unsubscribing _ => True
  | _ => False

/-- Changes of the semaphore, of messages and their deliveries, of the frames of transactions, of
subscriptions and of connection attempts that nobody awaits. -/
structure Unrelated (before after : Shared) : Prop where
  active : after.active = before.active
  reconnect : after.reconnect = before.reconnect
  reconnectionCount : after.reconnectionCount = before.reconnectionCount
  transactions : after.transactions = before.transactions
  revision : after.revision = before.revision
  heartbeats : after.heartbeats = before.heartbeats
  monitors : after.monitors = before.monitors
  trace : after.trace = before.trace

/-- The relation holds between the shared states before and after each effect that a step is made
of. -/
structure RelatesSteps (settings : Settings) (relation : Shared → Shared → Prop) : Prop
    extends RelatesCalls relation where
  reconnects : ∀ {shared after : Shared} {task reply progress},
    shared.Reconnects settings task reply after progress → relation shared after
  emits : ∀ shared event, event.Own → relation shared (shared.emit event)
  aside : ∀ {before after}, Unrelated before after → relation before after

namespace RelatesSteps

variable {settings : Settings} {relation : Shared → Shared → Prop} {shared : Shared} {task : TaskId}
  {reply : Reply} {choice : Choice} {resumed : Resumed}

theorem handlerEnd (relates : RelatesSteps settings relation) (delivery : Delivery)
    (suppressed : Bool) (shared : Shared) :
    relation shared (handlerEnd delivery suppressed shared).shared := by
  cases suppressed with
  | true => exact relates.emits _ _ trivial
  | false => exact relates.refl _

theorem dutyProceed (relates : RelatesSteps settings relation) (duty : Duty) (shared : Shared)
    (progress : Progress MaybeWrite Bool) :
    relation shared (duty.proceed (shared, progress)).shared :=
  relates.toRelatesCalls.dutyProceed duty shared
    (fun delivery _ suppressed _ => relates.handlerEnd delivery suppressed _) progress

/-! ## Background tasks -/

theorem tends (relates : RelatesSteps settings relation) (tends : Tends task shared resumed) :
    relation shared resumed.shared := by
  cases tends with
  | rests => exact relates.refl _
  | beats _ _ connection => exact relates.emits _ (.beat connection) trivial
  | discards connection active => exact relates.discard _ connection active

theorem createHandler (relates : RelatesSteps settings relation) (delivery : Delivery)
    (shared : Shared) : relation shared (ListenerPoint.createHandler delivery shared).shared :=
  relates.trans (relates.emits _ (.created delivery.number delivery.subscription) trivial)
    (relates.aside ⟨rfl, rfl, rfl, rfl, rfl, rfl, rfl, rfl⟩)

theorem dispatches (relates : RelatesSteps settings relation) {connection : ConnectionId}
    {epoch : Nat} {frame : AnyFrame}
    (dispatches : Dispatches connection epoch shared frame resumed) :
    relation shared resumed.shared := by
  have received : relation shared
      { shared.emit (.received shared.messages connection epoch frame) with
        messages := shared.messages + 1 } :=
    relates.trans (relates.emits _ (.received shared.messages connection epoch frame) trivial)
      (relates.aside ⟨rfl, rfl, rfl, rfl, rfl, rfl, rfl, rfl⟩)
  cases dispatches with
  | passes => exact received
  | misses => exact received
  | acquires => exact received
  | creates => exact relates.trans received (relates.createHandler _ _)

theorem cycles (relates : RelatesSteps settings relation) {point : Point}
    (cycles : Cycles settings task reply choice shared point resumed) :
    relation shared resumed.shared := by
  cases cycles with
  | waits _ _ connected => exact relates.reconnects (Shared.reconnects_resumeConnecting connected)
  | leaves _ _ connected _ tends =>
      exact relates.trans (relates.reconnects (Shared.reconnects_resumeConnecting connected))
        (relates.tends tends)
  | tends _ _ tends => exact relates.tends tends
  | takes _ _ _ _ _ dispatches => exact relates.dispatches dispatches
  | creates _ delivery free =>
      have taken : relation shared { shared with permits := some free } :=
        relates.aside ⟨rfl, rfl, rfl, rfl, rfl, rfl, rfl, rfl⟩
      exact relates.trans taken (relates.createHandler delivery _)
  | stops => exact relates.refl _

/-! ## Steps -/

/-- A resumed task, up to its next `await`. -/
theorem resume (relates : RelatesSteps settings relation) {point : Point} (fits : point.Fits task)
    (resumes : point.resume settings task reply choice shared = some resumed) :
    relation shared resumed.shared := by
  cases Resumption.of_resume fits resumes with
  | starts _ _ connected => exact relates.reconnects (Shared.reconnects_resumeConnecting connected)
  | enters _ _ _ connected =>
      exact relates.trans (relates.reconnects (Shared.reconnects_resumeConnecting connected))
        (relates.aside ⟨rfl, rfl, rfl, rfl, rfl, rfl, rfl, rfl⟩)
  | refused _ _ _ connected =>
      exact relates.reconnects (Shared.reconnects_resumeConnecting connected)
  | cycles _ cycles => exact relates.cycles cycles
  | writes job _ _ _ written =>
      exact relates.trans (relates.writes trivial relates.reconnects (resume_effects written))
        (relates.jobProceed job _ _)
  | maybeWrites duty _ _ _ written =>
      exact relates.trans (relates.maybeWrites (maybeResume_effects written))
        (relates.dutyProceed duty _ _)
  | quits => exact relates.refl _
  | ends => exact relates.handlerEnd _ _ _
  | settles _ _ _ _ _ effects =>
      exact relates.trans (relates.settleStarts effects) (relates.dutyProceed _ _ _)

theorem dutyStarts (relates : RelatesSteps settings relation) (duty : Duty) (shared : Shared) :
    relation shared (duty.proceed (MaybeWrite.start duty.frame shared)).shared :=
  relates.toRelatesCalls.dutyStarts duty shared
    (fun _ delivery _ suppressed _ => relates.handlerEnd delivery suppressed _)

/-- Every step of the client. -/
theorem of_step (relates : RelatesSteps settings relation) {state after : State} {action : Action}
    (fits : state.Fits) (stepped : step settings state action = some after) :
    relation state.shared after.shared := by
  cases steps_of_step stepped with
  | enter => exact relates.refl _
  | send number arguments => exact relates.jobStarts settings (.send (sendFrame arguments none)) _
  | subscribe subscription => exact relates.jobStarts settings (.subscribe subscription) _
  | unsubscribe number id =>
      have asked : relation state.shared { state.shared.emit (.unsubscribing id) with
          subscriptions := state.shared.subscriptions.deleteById id } :=
        relates.trans (relates.emits _ (.unsubscribing id) trivial) (relates.subscriptions _ _)
      exact relates.trans asked (relates.dutyStarts (.unsubscribe id) _)
  | begin id => exact relates.jobStarts settings (.begin id) _
  | transactionSend id arguments failed =>
      have appended : relation state.shared
          (state.shared.appendSent id (sendFrame arguments (some id))) :=
        relates.trans (relates.emits _ (.called id (sendFrame arguments (some id))) trivial)
          (relates.aside ⟨rfl, rfl, rfl, rfl, rfl, rfl, rfl, rfl⟩)
      exact relates.trans appended
        (relates.jobStarts settings (.transact id failed (sendFrame arguments (some id))) _)
  | commit id =>
      rw [← Duty.proceed_commit]
      exact relates.trans (relates.emits _ (.exited id true) trivial)
        (relates.dutyStarts (.commit id) _)
  | abort id =>
      exact relates.trans (relates.emits _ (.exited id false) trivial)
        (relates.dutyStarts (.abort id) _)
  | acknowledge number index type delivery =>
      exact relates.trans (relates.settleStarts (settle_effects delivery type state.shared))
        (relates.dutyProceed (.acknowledge delivery _) _ _)
  | resume task reply choice created resumes => exact relates.resume (fits.tasks task) resumes
  | opens server =>
      exact relates.trans (relates.emits _ (.opened state.shared.connections) trivial)
        (relates.aside ⟨rfl, rfl, rfl, rfl, rfl, rfl, rfl, rfl⟩)
  | refuses server => exact relates.aside ⟨rfl, rfl, rfl, rfl, rfl, rfl, rfl, rfl⟩
  | release message => exact relates.aside ⟨rfl, rfl, rfl, rfl, rfl, rfl, rfl, rfl⟩

end RelatesSteps

end Stompman
