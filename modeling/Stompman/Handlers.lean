import Mathlib.Data.Finset.Card
import Stompman.Leaks

/-!
# Handlers and their permits

The listener takes a permit of the semaphore for every handler that it creates, and the
done-callback of the handler gives it back.  What a step can do to handlers is listed here once;
every permit is free or belongs to one handler whose done-callback has not run.
-/

namespace Stompman

open Foundation

/-! ## Effects that concern no handler -/

/-- The message of a handler whose suppressed exception is reported. -/
def Event.reported? : Event → Option Nat
  | .reported number => some number
  | _ => none

/-- The calls of `on_suppressed_exception`, by message. -/
def Shared.reports (shared : Shared) : List Nat := shared.trace.filterMap Event.reported?

/-- Changes of the shared state that concern neither the semaphore nor messages nor reports. -/
structure Unattended (before after : Shared) : Prop where
  permits : after.permits = before.permits
  messages : after.messages = before.messages
  reports : after.reports = before.reports

namespace Unattended

variable {settings : Settings} {shared before middle after : Shared}

theorem refl (shared : Shared) : Unattended shared shared := ⟨rfl, rfl, rfl⟩

theorem trans (first : Unattended before middle) (second : Unattended middle after) :
    Unattended before after :=
  ⟨second.permits.trans first.permits, second.messages.trans first.messages,
    second.reports.trans first.reports⟩

theorem emit (shared : Shared) {event : Event} (silent : event.reported? = none) :
    Unattended shared (shared.emit event) :=
  ⟨rfl, rfl, by simp [Shared.reports, Shared.emit, silent]⟩

theorem hand (shared : Shared) (connection : ConnectionId) (frame : Frame) :
    Unattended shared (shared.hand connection frame) :=
  emit shared rfl

theorem noteWritten (shared : Shared) (connection : ConnectionId) (frame : Frame) :
    Unattended shared (shared.noteWritten connection frame) :=
  emit shared rfl

theorem discard (shared : Shared) (connection : ConnectionId) :
    Unattended shared (shared.discard connection) :=
  ⟨rfl, rfl, by simp [Shared.reports, Shared.discard, Shared.emit, Event.reported?]⟩

theorem relatesCalls : RelatesCalls Unattended where
  refl := refl
  trans := trans
  hand shared connection frame _ := hand shared connection frame
  noteWritten := noteWritten
  discard shared connection _ := discard shared connection
  acknowledged shared _ _ _ := emit shared rfl
  unsubscribed shared _ := emit shared rfl
  subscriptions _ _ := ⟨rfl, rfl, rfl⟩
  transactions _ _ _ := ⟨rfl, rfl, rfl⟩

theorem reconnects {task : TaskId} {reply : Reply} {progress : Progress Unit ConnectionId}
    (effects : shared.Reconnects settings task reply after progress) :
    Unattended shared after := by
  obtain ⟨messages, permits, -⟩ := effects.aside
  refine ⟨permits, messages, ?_⟩
  obtain ⟨events, trace_eq, managed, -⟩ := effects.extends
  have silent : events.filterMap Event.reported? = [] := by
    rw [List.filterMap_eq_nil_iff]
    intro event member
    cases event with
    | reported number => exact absurd (managed _ member) not_false
    | _ => rfl
  rw [Shared.reports, trace_eq, List.filterMap_append, silent, List.append_nil, Shared.reports]

theorem tends {task : TaskId} {resumed : Resumed} (tends : Tends task shared resumed) :
    Unattended shared resumed.shared := by
  cases tends with
  | rests => exact refl _
  | beats => exact emit _ rfl
  | discards connection => exact discard _ connection

/-- Handlers apart, no task reports an exception. -/
theorem silent {duty : Duty} {task : TaskId} (runs : duty.Runs task)
    (other : ∀ number, task ≠ .handler number) {delivery : Delivery} {frame : Frame}
    {suppressed : Bool} : duty ≠ .settle delivery frame suppressed := by
  rintro rfl
  obtain ⟨⟨number, rfl⟩, -⟩ := runs
  exact other number rfl

end Unattended

/-! ## Steps -/

/-- What a step of the client can do to handlers. -/
inductive Serves (settings : Settings) (state : State) : Action → State → Prop
  | aside {action : Action} {after : State} (unattended : Unattended state.shared after.shared)
      (acts : ∀ number reply choice, action ≠ .resume (.handler number) reply choice)
      (handlers : ∀ number, after.tasks (.handler number) = state.tasks (.handler number))
      (listener : ∀ delivery, after.tasks .listener = .listener (.acquiring delivery) →
        state.tasks .listener = .listener (.acquiring delivery)) :
      Serves settings state action after
  /-- The listener takes a frame; it may wait for a permit for its handler. -/
  | takes {after : State} (frame : AnyFrame) (choice : Choice)
      (unattended : Unattended { state.shared with messages := state.shared.messages + 1 }
        after.shared)
      (handlers : ∀ number, after.tasks (.handler number) = state.tasks (.handler number))
      (listener : ∀ delivery, after.tasks .listener = .listener (.acquiring delivery) →
        delivery.number = state.shared.messages) :
      Serves settings state (.resume .listener (.frame frame) choice) after
  /-- Without a bound, the listener creates the handler at once. -/
  | delivers (choice : Choice) (delivery : Delivery)
      (numbered : delivery.number = state.shared.messages)
      (unbounded : state.shared.permits = none) :
      Serves settings state (.resume .listener (.frame (.frame delivery.message)) choice)
        (state.store .listener (ListenerPoint.createHandler delivery
          { state.shared.emit (.received state.shared.messages delivery.connection
              delivery.receivedAtReconnectionCount (.frame delivery.message)) with
            messages := state.shared.messages + 1 }))
  /-- The listener gets a permit. -/
  | creates (choice : Choice) (delivery : Delivery)
      (standing : state.tasks .listener = .listener (.acquiring delivery)) (free : Nat)
      (bounded : state.shared.permits = some (free + 1)) :
      Serves settings state (.resume .listener .returned choice)
        (state.store .listener
          (ListenerPoint.createHandler delivery { state.shared with permits := some free }))
  | runs (number : Nat) (reply : Reply) (choice : Choice) {resumed : Resumed}
      (resumes : (state.tasks (.handler number)).resume settings (.handler number) reply choice
        state.shared = some resumed) :
      Serves settings state (.resume (.handler number) reply choice)
        (state.store (.handler number) resumed)
  | releases (number : Nat) (handled : state.tasks (.handler number) = .handled) :
      Serves settings state (.release number)
        (state.store (.handler number)
          { shared := { state.shared with permits := state.shared.permits.map (· + 1) }
            point := .finished })

/-- Tasks other than handlers and the listener. -/
def TaskId.Outside : TaskId → Prop
  | .handler _ | .listener => False
  | _ => True

namespace Serves

variable {settings : Settings} {state : State} {task : TaskId} {action : Action}

theorem outside (away : task.Outside) {resumed : Resumed}
    (unattended : Unattended state.shared resumed.shared)
    (acts : ∀ number reply choice, action ≠ .resume (.handler number) reply choice)
    (spawned : resumed.spawned = none ∨
      resumed.spawned = some (.listener, .listener .created)) :
    Serves settings state action (state.store task resumed) := by
  have other : ∀ number, TaskId.handler number ≠ task := by
    rintro number rfl
    exact away
  have unheard : TaskId.listener ≠ task := by
    rintro rfl
    exact away
  refine .aside unattended acts ?_ ?_
  · intro number
    rcases spawned with none | listener
    · simp [State.store, none, other number]
    · simp [State.store, listener, other number]
  · intro delivery acquiring
    rcases spawned with none | listener
    · simpa [State.store, none, unheard] using acquiring
    · simp [State.store, listener] at acquiring

/-- A task that is not a handler moves and creates no handler; the listener has no message. -/
theorem unserved {resumed : Resumed} (away : ∀ number, task ≠ .handler number)
    (unattended : Unattended state.shared resumed.shared)
    (spawned : resumed.spawned = none)
    (unready : ∀ delivery, resumed.point ≠ .listener (.acquiring delivery)) {reply : Reply}
    {choice : Choice} :
    Serves settings state (.resume task reply choice) (state.store task resumed) := by
  refine .aside unattended ?_ ?_ ?_
  · rintro number _ _ same
    exact away number (Action.resume.inj same).1
  · intro number
    simp [State.store, spawned, Ne.symm (away number)]
  · intro delivery acquiring
    by_cases own : task = .listener
    · subst own
      rw [State.tasks_store_of_unspawned spawned] at acquiring
      exact absurd acquiring (unready delivery)
    · simpa [State.store, spawned, Ne.symm own] using acquiring

theorem dispatches {connection : ConnectionId} {epoch : Nat} {frame : AnyFrame} (choice : Choice)
    {resumed : Resumed} (dispatches : Dispatches connection epoch state.shared frame resumed) :
    Serves settings state (.resume .listener (.frame frame) choice)
      (state.store .listener resumed) := by
  have received : Unattended { state.shared with messages := state.shared.messages + 1 }
      { state.shared.emit (.received state.shared.messages connection epoch frame) with
        messages := state.shared.messages + 1 } :=
    ⟨rfl, rfl, (Unattended.emit state.shared rfl).reports⟩
  cases dispatches with
  | passes frame =>
      exact .takes frame choice received (fun number => by simp [State.store])
        (by simp [State.store])
  | misses message isMessage missing =>
      exact .takes _ choice received (fun number => by simp [State.store]) (by simp [State.store])
  | acquires message isMessage id named subscription registered =>
      refine .takes _ choice received (fun number => by simp [State.store]) ?_
      intro delivery acquiring
      rw [State.tasks_store] at acquiring
      obtain rfl : _ = delivery := by simpa using acquiring
      rfl
  | creates message isMessage id named subscription registered unbounded =>
      exact .delivers choice
        ⟨state.shared.messages, connection, epoch, message, subscription, isMessage⟩ rfl unbounded

theorem cycles {reply : Reply} {choice : Choice} {resumed : Resumed}
    (away : ∀ number, task ≠ .handler number)
    (cycles : Cycles settings task reply choice state.shared (state.tasks task) resumed) :
    Serves settings state (.resume task reply choice) (state.store task resumed) := by
  generalize standing : state.tasks task = before at cycles
  cases cycles with
  | waits _ inside connected =>
      have moved := Unattended.reconnects (Shared.reconnects_resumeConnecting connected)
      refine unserved away moved rfl ?_
      rintro delivery rfl
      exact inside
  | leaves _ inside connected ended tends =>
      have moved := Unattended.reconnects (Shared.reconnects_resumeConnecting connected)
      exact unserved away (moved.trans (.tends tends)) tends.unspawned tends.unready
  | tends _ tending tends => exact unserved away (.tends tends) tends.unspawned tends.unready
  | takes own connection epoch frame replied dispatched =>
      obtain rfl := own
      obtain rfl := replied
      exact dispatches choice dispatched
  | creates own delivery free returned bounded =>
      obtain rfl := own
      obtain rfl := returned
      exact .creates choice delivery standing free bounded
  | stops => exact unserved away (.refl _) rfl (by simp)

theorem resume (fits : state.Fits) {reply : Reply} {choice : Choice} {resumed : Resumed}
    (resumes : (state.tasks task).resume settings task reply choice state.shared = some resumed) :
    Serves settings state (.resume task reply choice) (state.store task resumed) := by
  by_cases handler : ∃ number, task = .handler number
  · obtain ⟨number, rfl⟩ := handler
    exact .runs number reply choice resumes
  have away : ∀ number, task ≠ .handler number := not_exists.mp handler
  have own := fits.tasks task
  generalize standing : state.tasks task = point at resumes own
  cases Resumption.of_resume own resumes with
  | starts starter after connected =>
      exact unserved away (.reconnects (Shared.reconnects_resumeConnecting connected)) rfl (by simp)
  | enters starter after connection connected =>
      obtain rfl := starter
      have moved := Unattended.reconnects (Shared.reconnects_resumeConnecting connected)
      exact outside (by trivial) (moved.trans ⟨rfl, rfl, rfl⟩) (by simp) (.inr rfl)
  | refused starter after failure connected =>
      exact unserved away (.reconnects (Shared.reconnects_resumeConnecting connected)) rfl (by simp)
  | cycles before cycles => exact Serves.cycles away (by rwa [standing])
  | writes job runs writing result written =>
      have wrote := Unattended.relatesCalls.writes trivial Unattended.reconnects
        (resume_effects written)
      exact unserved away (wrote.trans (Unattended.relatesCalls.jobProceed job _ _))
        (job.spawned_proceed _) (job.unready_proceed _)
  | maybeWrites duty runs writing result written =>
      have wrote := Unattended.relatesCalls.maybeWrites (maybeResume_effects written)
      have proceeded := Unattended.relatesCalls.dutyProceed duty result.1
        (fun _ _ _ same => absurd same (Unattended.silent runs away)) result.2
      exact unserved away (wrote.trans proceeded) (duty.spawned_proceed _) (duty.unready_proceed _)
  | quits number handles => exact absurd handles (away number)
  | ends number handles => exact absurd handles (away number)
  | settles number handles => exact absurd handles (away number)

theorem jobStarts (job : Job) (shared : Shared) :
    Unattended shared (job.proceed (WriteFrame.start settings job.frame shared)).shared :=
  Unattended.relatesCalls.jobStarts settings job shared

theorem dutyStarts {duty : Duty} (runs : duty.Runs task) (other : ∀ number, task ≠ .handler number)
    (shared : Shared) :
    Unattended shared (duty.proceed (MaybeWrite.start duty.frame shared)).shared :=
  Unattended.relatesCalls.dutyStarts duty shared
    (fun _ _ _ _ same => absurd same (Unattended.silent runs other))

/-- Every step of the client. -/
theorem of_step (fits : state.Fits) {after : State}
    (stepped : step settings state action = some after) : Serves settings state action after := by
  have called : ∀ {task : TaskId} {resumed : Resumed}, task.Outside →
      Unattended state.shared resumed.shared →
      (∀ number reply choice, action ≠ .resume (.handler number) reply choice) →
      resumed.spawned = none → Serves settings state action (state.store task resumed) := by
    intro task resumed away unattended acts unspawned
    exact outside away unattended acts (.inl unspawned)
  cases steps_of_step stepped with
  | enter => exact called (by trivial) (.refl _) (by simp) rfl
  | send number arguments =>
      exact called (by trivial) (jobStarts (.send (sendFrame arguments none)) _) (by simp)
        (Job.spawned_proceed (.send (sendFrame arguments none)) _)
  | subscribe subscription =>
      exact called (by trivial) (jobStarts (.subscribe subscription) _) (by simp)
        (Job.spawned_proceed (.subscribe subscription) _)
  | unsubscribe number id =>
      have asked : Unattended state.shared { state.shared.emit (.unsubscribing id) with
          subscriptions := state.shared.subscriptions.deleteById id } :=
        ⟨rfl, rfl, (Unattended.emit state.shared rfl).reports⟩
      have starts := @dutyStarts (.call number) (.unsubscribe id) ⟨number, rfl⟩ (by simp)
      exact called (by trivial) (asked.trans (starts _)) (by simp)
        (Duty.spawned_proceed (.unsubscribe id) _)
  | begin id =>
      exact called (by trivial) (jobStarts (.begin id) _) (by simp)
        (Job.spawned_proceed (.begin id) _)
  | transactionSend id arguments failed =>
      have appended : Unattended state.shared
          (state.shared.appendSent id (sendFrame arguments (some id))) :=
        ⟨rfl, rfl, (Unattended.emit state.shared rfl).reports⟩
      exact called (by trivial)
        (appended.trans (jobStarts (.transact id failed (sendFrame arguments (some id))) _))
        (by simp)
        (Job.spawned_proceed (.transact id failed (sendFrame arguments (some id))) _)
  | commit id =>
      have exited : Unattended state.shared (state.shared.emit (.exited id true)) := .emit _ rfl
      have starts := @dutyStarts (.transaction id) (.commit id) rfl (by simp)
      rw [← Duty.proceed_commit]
      exact called (by trivial) (exited.trans (starts _)) (by simp)
        (Duty.spawned_proceed (.commit id) _)
  | abort id =>
      have exited : Unattended state.shared (state.shared.emit (.exited id false)) := .emit _ rfl
      have starts := @dutyStarts (.transaction id) (.abort id) rfl (by simp)
      exact called (by trivial) (exited.trans (starts _)) (by simp)
        (Duty.spawned_proceed (.abort id) _)
  | acknowledge number index type delivery found settles =>
      have effects := Unattended.relatesCalls.settleStarts
        (settle_effects delivery type state.shared)
      refine called (by trivial) (effects.trans ?_) (by simp)
        (Duty.spawned_proceed (.acknowledge delivery _) _)
      generalize (settle delivery type state.shared).2.2 = progress
      cases progress <;> exact .refl _
  | resume task reply choice created resumes => exact resume fits resumes
  | opens server =>
      exact .aside ⟨rfl, rfl, (Unattended.emit state.shared rfl).reports⟩ (by simp)
        (fun _ => rfl) (fun _ => id)
  | refuses server => exact .aside ⟨rfl, rfl, rfl⟩ (by simp) (fun _ => rfl) (fun _ => id)
  | release message handled => exact .releases message handled

end Serves

/-! ## Shutdown -/

theorem Unattended.relatesExit : RelatesExit Unattended where
  refl := .refl
  trans := .trans
  hands := .hand
  writes := .noteWritten
  discards shared connection _ := .discard shared connection
  closes shared _ := ⟨rfl, rfl, (Unattended.emit shared rfl).reports⟩
  unsubscribing shared _ := ⟨rfl, rfl, (Unattended.emit shared rfl).reports⟩
  unsubscribed shared _ := .emit shared rfl

/-! ## Permits -/

namespace Point

/-- Handler tasks that have not finished. -/
def unfinished : Point → Bool
  | .handling _ | .settling .. => true
  | _ => false

/-- Finished handler tasks whose done-callback has not run. -/
def unreleased : Point → Bool
  | .handled => true
  | _ => false

end Point

namespace State

/-- The messages whose handlers stand at certain positions. -/
def handlers (state : State) (test : Point → Bool) : Finset Nat :=
  (Finset.range state.shared.messages).filter fun number => test (state.tasks (.handler number))

/-- Every permit is free, or held by the listener, or belongs to a handler task whose done-callback
has not run. -/
structure Conserves (capacity held : Nat) (state : State) : Prop where
  counted : ∀ number, (state.tasks (.handler number)).unfinished = true ∨
    (state.tasks (.handler number)).unreleased = true → number < state.shared.messages
  bounded : (state.handlers Point.unfinished).card ≤ capacity
  conserved : ∃ free, state.shared.permits = some free ∧
    free + (state.handlers Point.unfinished).card + (state.handlers Point.unreleased).card + held =
      capacity

theorem mem_handlers {state : State} {test : Point → Bool} {number : Nat} :
    number ∈ state.handlers test ↔
      number < state.shared.messages ∧ test (state.tasks (.handler number)) = true := by
  simp [handlers]

end State

/-- Handler tasks that have a permit. -/
def Point.occupies (point : Point) : Bool := point.unfinished || point.unreleased

theorem State.card_occupies (state : State) :
    (state.handlers Point.occupies).card =
      (state.handlers Point.unfinished).card + (state.handlers Point.unreleased).card := by
  rw [← Finset.card_union_of_disjoint]
  · congr 1
    ext number
    simp only [Finset.mem_union, mem_handlers, Point.occupies, Bool.or_eq_true]
    tauto
  · rw [Finset.disjoint_left]
    intro number unfinished unreleased
    obtain ⟨-, running⟩ := mem_handlers.mp unfinished
    obtain ⟨-, released⟩ := mem_handlers.mp unreleased
    generalize state.tasks (.handler number) = point at running released
    cases point <;> contradiction

/-! ## Runs -/

/-- The message of an unfinished handler. -/
def Point.delivery? : Point → Option Delivery
  | .handling delivery | .settling delivery .. => some delivery
  | _ => none

/-- A handler task that moves keeps its permit and its message, and may report an exception. -/
structure Retains (delivery : Delivery) (shared : Shared) (resumed : Resumed) : Prop where
  permits : resumed.shared.permits = shared.permits
  messages : resumed.shared.messages = shared.messages
  reports : resumed.shared.reports = shared.reports ∨
    resumed.shared.reports = shared.reports ++ [delivery.number]
  unspawned : resumed.spawned = none
  occupies : resumed.point.occupies = true
  delivery : ∀ other, resumed.point.delivery? = some other → other = delivery

namespace Retains

variable {settings : Settings} {delivery : Delivery} {shared after : Shared}

theorem ends (suppressed : Bool) (unattended : Unattended shared after) :
    Retains delivery shared (handlerEnd delivery suppressed after) := by
  obtain ⟨permits, messages, reports⟩ := unattended
  cases suppressed with
  | false =>
      exact ⟨permits, messages, .inl reports, rfl, rfl, by simp [handlerEnd, Point.delivery?]⟩
  | true =>
      refine ⟨permits, messages, .inr ?_, rfl, rfl, by simp [handlerEnd, Point.delivery?]⟩
      rw [← reports]
      simp [handlerEnd, Shared.reports, Shared.emit, Event.reported?]

theorem stops (unattended : Unattended shared after) :
    Retains delivery shared { shared := after, point := .handled } :=
  ⟨unattended.permits, unattended.messages, .inl unattended.reports, rfl, rfl,
    by simp [Point.delivery?]⟩

/-- The rest of an automatic acknowledgement. -/
theorem proceeds (frame : Frame) (suppressed : Bool) {progress : Progress MaybeWrite Bool}
    (unattended : Unattended shared after) :
    Retains delivery shared
      ((Duty.settle delivery frame suppressed).proceed (after, progress)) := by
  cases progress with
  | suspended =>
      exact ⟨unattended.permits, unattended.messages, .inl unattended.reports, rfl, rfl,
        fun _ same => (Option.some.inj same).symm⟩
  | returned => exact ends suppressed unattended
  | raised => exact stops unattended

theorem resume {number : Nat} {point : Point} (fits : point.Fits (.handler number)) {reply : Reply}
    {choice : Choice} {resumed : Resumed}
    (resumes : point.resume settings (.handler number) reply choice shared = some resumed) :
    ∃ delivery, point.delivery? = some delivery ∧ Retains delivery shared resumed := by
  cases Resumption.of_resume fits resumes with
  | cycles _ cycles =>
      cases cycles with
      | waits _ inside => cases point <;> simp [Point.Fits, Point.Reconnects] at fits inside
      | leaves _ inside => cases point <;> simp [Point.Fits, Point.Reconnects] at fits inside
      | tends _ tending => cases point <;> simp [Point.Fits, Point.Tending] at fits tending
      | takes own => contradiction
      | creates own => contradiction
      | stops own => contradiction
  | writes job runs => cases job <;> simp [Job.Runs] at runs
  | maybeWrites duty runs writing result written =>
      have wrote := Unattended.relatesCalls.maybeWrites (maybeResume_effects written)
      cases duty with
      | settle delivery frame suppressed => exact ⟨delivery, rfl, proceeds frame suppressed wrote⟩
      | _ => simp [Duty.Runs] at runs
  | quits _ _ delivery => exact ⟨delivery, rfl, stops (.refl _)⟩
  | ends _ _ delivery suppressed => exact ⟨delivery, rfl, ends suppressed (.refl _)⟩
  | settles _ _ delivery suppressed _ effects =>
      exact ⟨delivery, rfl, proceeds _ suppressed (Unattended.relatesCalls.settleStarts effects)⟩
  | _ => contradiction

end Retains

theorem Point.occupies_of_delivery {point : Point} {delivery : Delivery}
    (running : point.delivery? = some delivery) : point.occupies = true := by
  cases point <;> first | rfl | contradiction

namespace State

variable {settings : Settings} {state after : State} {action : Action}

/-- Handlers are numbered by their messages, and every message gets at most one. -/
structure Numbered (state : State) : Prop where
  fits : state.Fits
  absent : ∀ number, state.shared.messages ≤ number → state.tasks (.handler number) = .absent
  acquiring : ∀ delivery, state.tasks .listener = .listener (.acquiring delivery) →
    delivery.number < state.shared.messages ∧
      state.tasks (.handler delivery.number) = .absent
  own : ∀ number delivery, (state.tasks (.handler number)).delivery? = some delivery →
    delivery.number = number

namespace Numbered

theorem number_lt (numbered : state.Numbered) {number : Nat}
    (occupies : (state.tasks (.handler number)).occupies = true) :
    number < state.shared.messages := by
  by_contra beyond
  rw [numbered.absent number (Nat.le_of_not_lt beyond)] at occupies
  contradiction

/-- One handler moves, or is created. -/
theorem changes (numbered : state.Numbered) (fits : after.Fits) {number : Nat}
    (messages : state.shared.messages ≤ after.shared.messages)
    (below : number < after.shared.messages)
    (others : ∀ other, other ≠ number →
      after.tasks (.handler other) = state.tasks (.handler other))
    (own : ∀ delivery, (after.tasks (.handler number)).delivery? = some delivery →
      delivery.number = number)
    (listener : ∀ delivery, after.tasks .listener = .listener (.acquiring delivery) →
      state.tasks .listener = .listener (.acquiring delivery) ∧ delivery.number ≠ number) :
    after.Numbered := by
  refine ⟨fits, ?_, ?_, ?_⟩
  · intro other beyond
    rw [others other (by omega)]
    exact numbered.absent other (by omega)
  · intro delivery acquiring
    obtain ⟨standing, different⟩ := listener delivery acquiring
    obtain ⟨known, absent⟩ := numbered.acquiring delivery standing
    rw [others _ different]
    exact ⟨by omega, absent⟩
  · intro other delivery running
    by_cases same : other = number
    · subst same
      exact own delivery running
    · rw [others other same] at running
      exact numbered.own other delivery running

/-- The handlers are left alone. -/
theorem keeps (numbered : state.Numbered) (fits : after.Fits)
    (messages : after.shared.messages = state.shared.messages)
    (handlers : ∀ number, after.tasks (.handler number) = state.tasks (.handler number))
    (listener : ∀ delivery, after.tasks .listener = .listener (.acquiring delivery) →
      state.tasks .listener = .listener (.acquiring delivery)) : after.Numbered := by
  refine ⟨fits, ?_, ?_, ?_⟩
  · intro number beyond
    rw [handlers]
    exact numbered.absent number (by omega)
  · intro delivery acquiring
    rw [messages, handlers]
    exact numbered.acquiring delivery (listener delivery acquiring)
  · intro number delivery running
    rw [handlers] at running
    exact numbered.own number delivery running

/-- The listener creates a handler. -/
theorem created (numbered : state.Numbered) {delivery : Delivery} {shared : Shared}
    (fits : (state.store .listener (ListenerPoint.createHandler delivery shared)).Fits)
    (messages : state.shared.messages ≤ shared.messages)
    (below : delivery.number < shared.messages) :
    (state.store .listener (ListenerPoint.createHandler delivery shared)).Numbered := by
  refine @changes state _ numbered fits delivery.number messages below ?_ ?_ ?_
  · intro other different
    simp [State.store, ListenerPoint.createHandler, different]
  · intro other running
    obtain rfl : delivery = other := by
      simpa [State.store, ListenerPoint.createHandler, Point.delivery?] using running
    rfl
  · simp [State.store, ListenerPoint.createHandler]

/-- The listener waits for a permit for a message that has no handler yet. -/
theorem acquiring_ne (numbered : state.Numbered) {number : Nat} {delivery : Delivery}
    (occupied : (state.tasks (.handler number)).occupies = true)
    (standing : state.tasks .listener = .listener (.acquiring delivery)) :
    delivery.number ≠ number := by
  rintro rfl
  rw [(numbered.acquiring delivery standing).2] at occupied
  contradiction

theorem step (numbered : state.Numbered)
    (stepped : Stompman.step settings state action = some after) : after.Numbered := by
  have fits := numbered.fits.step stepped
  cases Serves.of_step numbered.fits stepped with
  | aside unattended acts handlers listener =>
      exact numbered.keeps fits unattended.messages handlers listener
  | takes frame choice unattended handlers listener =>
      have messages : after.shared.messages = state.shared.messages + 1 := unattended.messages
      refine ⟨fits, ?_, ?_, ?_⟩
      · intro number beyond
        rw [handlers]
        exact numbered.absent number (by omega)
      · intro delivery acquiring
        have fresh := listener delivery acquiring
        rw [handlers]
        exact ⟨by omega, numbered.absent _ (by omega)⟩
      · intro number delivery running
        rw [handlers] at running
        exact numbered.own number delivery running
  | delivers choice delivery fresh =>
      exact numbered.created fits (Nat.le_succ _) (Nat.lt_succ_of_le (Nat.le_of_eq fresh))
  | creates choice delivery standing free bounded =>
      exact numbered.created fits (Nat.le_refl _) (numbered.acquiring delivery standing).1
  | runs number reply choice resumes =>
      obtain ⟨delivery, running, retains⟩ := Retains.resume (numbered.fits.tasks _) resumes
      have occupied := Point.occupies_of_delivery running
      refine @changes state _ numbered fits number (Nat.le_of_eq retains.messages.symm) ?_ ?_ ?_ ?_
      · rw [State.shared_store, retains.messages]
        exact numbered.number_lt occupied
      · intro other different
        simp [State.store, retains.unspawned, different]
      · intro other moved
        rw [State.tasks_store_of_unspawned retains.unspawned] at moved
        rw [retains.delivery other moved]
        exact numbered.own number delivery running
      · intro other acquiring
        have standing : state.tasks .listener = .listener (.acquiring other) := by
          simpa [State.store, retains.unspawned] using acquiring
        exact ⟨standing, numbered.acquiring_ne occupied standing⟩
  | releases number handled =>
      have occupied : (state.tasks (.handler number)).occupies = true := by
        rw [handled]
        rfl
      refine @changes state _ numbered fits number (Nat.le_refl _) (numbered.number_lt occupied)
        ?_ ?_ ?_
      · intro other different
        simp [State.store, different]
      · simp [State.store, Point.delivery?]
      · intro other acquiring
        have standing : state.tasks .listener = .listener (.acquiring other) := by
          simpa [State.store] using acquiring
        exact ⟨standing, numbered.acquiring_ne occupied standing⟩

end Numbered

/-- Every permit is free or belongs to a handler. -/
def Served (capacity : Nat) (state : State) : Prop :=
  ∃ free, state.shared.permits = some free ∧
    free + (state.handlers Point.occupies).card = capacity

namespace Served

variable {capacity : Nat}

/-- Steps that leave the positions of the handlers as they are, as far as permits are concerned. -/
theorem keeps (served : state.Served capacity) (numbered : state.Numbered)
    (permits : after.shared.permits = state.shared.permits)
    (messages : state.shared.messages ≤ after.shared.messages)
    (handlers : ∀ number, (after.tasks (.handler number)).occupies =
      (state.tasks (.handler number)).occupies) : after.Served capacity := by
  have same : after.handlers Point.occupies = state.handlers Point.occupies := by
    ext number
    rw [mem_handlers, mem_handlers, handlers number]
    constructor
    · exact fun ⟨_, occupies⟩ => ⟨numbered.number_lt occupies, occupies⟩
    · exact fun ⟨below, occupies⟩ => ⟨Nat.lt_of_lt_of_le below messages, occupies⟩
  rw [Served, permits, same]
  exact served

/-- The listener takes a permit and creates a handler. -/
theorem creates (served : state.Served capacity) (numbered : state.Numbered) {delivery : Delivery}
    {free : Nat} (standing : state.tasks .listener = .listener (.acquiring delivery))
    (bounded : state.shared.permits = some (free + 1)) (permits : after.shared.permits = some free)
    (messages : after.shared.messages = state.shared.messages)
    (handlers : ∀ number, after.tasks (.handler number) =
      if number = delivery.number then .handling delivery else state.tasks (.handler number)) :
    after.Served capacity := by
  obtain ⟨below, absent⟩ := numbered.acquiring delivery standing
  have grows : after.handlers Point.occupies =
      insert delivery.number (state.handlers Point.occupies) := by
    ext number
    rw [Finset.mem_insert, mem_handlers, mem_handlers, handlers, messages]
    by_cases same : number = delivery.number
    · subst same
      simpa [Point.occupies, Point.unfinished] using below
    · simp [same]
  have fresh : delivery.number ∉ state.handlers Point.occupies := by
    rw [mem_handlers, absent]
    exact fun ⟨_, occupies⟩ => by contradiction
  obtain ⟨earlier, known, conserved⟩ := served
  obtain rfl := Option.some.inj (bounded.symm.trans known)
  refine ⟨free, permits, ?_⟩
  rw [grows, Finset.card_insert_of_notMem fresh]
  omega

/-- The done-callback of a handler gives its permit back. -/
theorem releases (served : state.Served capacity) (numbered : state.Numbered) {number : Nat}
    (handled : state.tasks (.handler number) = .handled)
    (permits : after.shared.permits = state.shared.permits.map (· + 1))
    (messages : after.shared.messages = state.shared.messages)
    (handlers : ∀ other, after.tasks (.handler other) =
      if other = number then .finished else state.tasks (.handler other)) :
    after.Served capacity := by
  have shrinks : after.handlers Point.occupies =
      (state.handlers Point.occupies).erase number := by
    ext other
    rw [Finset.mem_erase, mem_handlers, mem_handlers, handlers, messages]
    by_cases same : other = number
    · simp [same, Point.occupies, Point.unfinished, Point.unreleased]
    · simp [same]
  have occupied : (state.tasks (.handler number)).occupies = true := by
    rw [handled]
    rfl
  have member : number ∈ state.handlers Point.occupies :=
    mem_handlers.mpr ⟨numbered.number_lt occupied, occupied⟩
  have some_occupied := Finset.card_pos.mpr ⟨number, member⟩
  obtain ⟨free, known, conserved⟩ := served
  refine ⟨free + 1, by rw [permits, known]; rfl, ?_⟩
  rw [shrinks, Finset.card_erase_of_mem member]
  omega

theorem step (served : state.Served capacity) (numbered : state.Numbered)
    (stepped : Stompman.step settings state action = some after) : after.Served capacity := by
  cases Serves.of_step numbered.fits stepped with
  | aside unattended acts handlers =>
      exact served.keeps numbered unattended.permits (Nat.le_of_eq unattended.messages.symm)
        fun number => by rw [handlers]
  | takes frame choice unattended handlers =>
      have messages : after.shared.messages = state.shared.messages + 1 := unattended.messages
      exact served.keeps numbered unattended.permits (by omega) fun number => by rw [handlers]
  | delivers choice delivery fresh unbounded =>
      obtain ⟨free, known, -⟩ := served
      rw [unbounded] at known
      contradiction
  | creates choice delivery standing free bounded =>
      refine served.creates numbered standing bounded rfl rfl fun number => ?_
      by_cases same : number = delivery.number
      · simp [State.store, ListenerPoint.createHandler, same]
      · simp [State.store, ListenerPoint.createHandler, same]
  | runs number reply choice resumes =>
      obtain ⟨delivery, running, retains⟩ := Retains.resume (numbered.fits.tasks _) resumes
      refine served.keeps numbered retains.permits (Nat.le_of_eq retains.messages.symm) ?_
      intro other
      by_cases same : other = number
      · rw [same, State.tasks_store_of_unspawned retains.unspawned, retains.occupies,
          Point.occupies_of_delivery running]
      · simp [State.store, retains.unspawned, same]
  | releases number handled =>
      refine served.releases numbered handled rfl rfl fun other => ?_
      by_cases same : other = number
      · simp [State.store, same]
      · simp [State.store, same]

theorem conserves (served : state.Served capacity) (numbered : state.Numbered) :
    state.Conserves capacity 0 := by
  obtain ⟨free, permits, conserved⟩ := served
  rw [card_occupies] at conserved
  refine ⟨?_, by omega, free, permits, by omega⟩
  intro number either
  refine numbered.number_lt ?_
  rw [Point.occupies, Bool.or_eq_true]
  exact either

end Served

end State

namespace Session

variable {settings : Settings} {session next : Session} {action : SessionAction}

/-- A step of the task that leaves the client leaves handlers alone. -/
theorem unattended_step (stepped : sessionStep settings session action = some next) :
    (∃ own state, action = .client own ∧ Stompman.step settings session.state own = some state ∧
      next.state = state) ∨
      (∀ own, action ≠ .client own) ∧ next.state.tasks = session.state.tasks ∧
        Unattended session.state.shared next.state.shared := by
  cases action with
  | client own =>
      obtain ⟨state, moved, rfl⟩ := Option.map_eq_some_iff.mp stepped
      exact .inl ⟨own, state, rfl, moved, rfl⟩
  | exit raised =>
      simp only [sessionStep] at stepped
      split at stepped
      · split at stepped
        · obtain rfl := Option.some.inj stepped
          refine .inr ⟨by simp, ?_⟩
          unfold Session.leave
          split <;> exact ⟨rfl, .refl _⟩
        · contradiction
      · contradiction
  | resume reply receipt =>
      exact .inr ⟨by simp, tasks_resume stepped, Unattended.relatesExit.resume stepped⟩

theorem numbered_step (numbered : session.state.Numbered)
    (stepped : sessionStep settings session action = some next) : next.state.Numbered := by
  rcases unattended_step stepped with ⟨own, state, -, moved, rfl⟩ | ⟨-, tasks, unattended⟩
  · exact numbered.step moved
  · exact numbered.keeps (numbered.fits.of_tasks tasks) unattended.messages (by simp [tasks])
      (by simp [tasks])

theorem served_step {capacity : Nat} (numbered : session.state.Numbered)
    (served : session.state.Served capacity)
    (stepped : sessionStep settings session action = some next) : next.state.Served capacity := by
  rcases unattended_step stepped with ⟨own, state, -, moved, rfl⟩ | ⟨-, tasks, unattended⟩
  · exact served.step numbered moved
  · exact served.keeps numbered unattended.permits (Nat.le_of_eq unattended.messages.symm)
      (by simp [tasks])

theorem numbered_initial (settings : Settings) :
    (Stompman.session settings).initial.state.Numbered := by
  refine ⟨fits_initial settings, fun _ _ => rfl, ?_, ?_⟩
  · intro delivery acquiring
    contradiction
  · intro number delivery running
    contradiction

theorem served_of_reaches {capacity : Nat}
    (bounded : settings.maxConcurrentHandlers = some capacity)
    {allowed : Session → SessionAction → Prop}
    (reach : (Stompman.session settings).Reaches allowed session) :
    session.state.Numbered ∧ session.state.Served capacity :=
  @System.Reaches.invariant _ _ _ _
    (fun session => session.state.Numbered ∧ session.state.Served capacity)
    ⟨numbered_initial settings, capacity, bounded, rfl⟩
    (fun _ known _ stepped => ⟨numbered_step known.1 stepped, served_step known.1 known.2 stepped⟩)
    _ reach

end Session

/-- The number of unfinished handler tasks never exceeds `max_concurrent_handlers`, and no permit is
lost or given back twice: neither in any state of a run, nor between the moment at which the
listener gets a permit and the creation of the handler task, where the listener itself holds
one. -/
theorem conserves_of_reachable {settings : Settings} {capacity : Nat}
    (bounded : settings.maxConcurrentHandlers = some capacity) {current : Session}
    (reach : (session settings).Reachable current) :
    current.state.Conserves capacity 0 ∧
      ∀ delivery free, current.state.tasks .listener = .listener (.acquiring delivery) →
        current.state.shared.permits = some (free + 1) →
          State.Conserves capacity 1 { current.state with
            shared := { current.state.shared with permits := some free } } := by
  obtain ⟨numbered, served⟩ := Session.served_of_reaches bounded reach
  have conserves := served.conserves numbered
  refine ⟨conserves, fun delivery free acquiring permits => ?_⟩
  obtain ⟨counted, fewer, earlier, known, conserved⟩ := conserves
  obtain rfl := Option.some.inj (permits.symm.trans known)
  refine ⟨counted, fewer, free, rfl, ?_⟩
  have same : ∀ test, State.handlers
      { current.state with shared := { current.state.shared with permits := some free } } test =
        current.state.handlers test := fun _ => rfl
  rw [same, same]
  omega

/-- Two handlers at most. -/
def boundedSettings : Settings := { plainSettings with maxConcurrentHandlers := some 2 }

/-- Three messages arrive, the third one waits for a permit, and the handler of the first one
raises. -/
def receivesThrice : List Action :=
  enters ++ [.subscribe plainSubscription, returns (.subscribe "1"),
    .resume .listener (.frame (.frame plainMessage)) {}, returns .listener,
    .resume .listener (.frame (.frame plainMessage)) {}, returns .listener,
    .resume .listener (.frame (.frame plainMessage)) {}, raises (.handler 0) .other]

/-- One handler runs, another one has finished and its done-callback has not run. -/
theorem conserves_receivesThrice :
    ∃ current, (session boundedSettings).Reachable current ∧
      ((current.state.handlers Point.unfinished).card = 1 ∧
        (current.state.handlers Point.unreleased).card = 1 ∧
        current.state.shared.permits = some 0) ∧ current.state.Conserves 2 0 := by
  have replayed : ((session boundedSettings).replay (fun _ _ => true)
      (session boundedSettings).initial (receivesThrice.map .client)).map (fun current =>
        decide ((current.state.handlers Point.unfinished).card = 1 ∧
          (current.state.handlers Point.unreleased).card = 1 ∧
          current.state.shared.permits = some 0)) = some true := by
    decide +kernel
  obtain ⟨current, reach, happened⟩ := System.exists_of_replay (fun _ _ _ => trivial) replayed
  exact ⟨current, reach, of_decide_eq_true happened, (conserves_of_reachable rfl reach).1⟩

end Stompman
