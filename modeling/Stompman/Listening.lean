import Stompman.Retries
import Stompman.Serde

/-!
# What can end the listener

`_listen_to_frames` looks up the `subscription` header of every MESSAGE, so a MESSAGE without one
ends it with a `KeyError`.  Apart from that, and from the exceptions that leave the connect retry
loop when the listener itself reconnects, no frame and no handler ends it.
-/

namespace Stompman

open Foundation

/-! ## Steps of the listener -/

/-- The task that an action calls or resumes. -/
def Action.task : Action → Option TaskId
  | .enter => some .starter
  | .send number _ | .unsubscribe number _ | .acknowledge number _ _ => some (.call number)
  | .subscribe subscription => some (.subscribe subscription.id)
  | .begin id | .transactionSend id _ | .exit id _ => some (.transaction id)
  | .resume task _ _ => some task
  | .abandonedConnect _ _ => none
  | .release message => some (.handler message)

section Steps

variable {settings : Settings} {state after : State} {action : Action} {task : TaskId}

/-- Tasks other than the starter and the listener create no task. -/
theorem spawned_of_resume (fits : state.Fits) {reply : Reply} {choice : Choice} {resumed : Resumed}
    (resumes : (state.tasks task).resume settings task reply choice state.shared = some resumed) :
    resumed.spawned = none ∨ task = .listener ∨
      task = .starter ∧ resumed.spawned = some (.listener, .listener .created) := by
  rcases (Resumption.of_resume (fits.tasks task) resumes).spawned with none | listener |
    ⟨own, -⟩
  · exact .inl none
  · exact .inr (.inr listener)
  · exact .inr (.inl own)

/-- The listener goes on, or ends with the exception of what it awaits, of its own connection
attempt, or of a MESSAGE without a `subscription` header. -/
inductive Listens (settings : Settings) (shared : Shared) (reply : Reply) (choice : Choice) :
    ListenerPoint → Point → Prop
  | goesOn (point next : ListenerPoint) :
      Listens settings shared reply choice point (.listener next)
  | interrupted (point : ListenerPoint) (failure : Failure) (raised : reply = .raised failure)
      (elsewhere : point ≠ .connecting)
      (other : ∀ connection epoch, point = .reading connection epoch → failure ≠ .connectionLost) :
      Listens settings shared reply choice point (.raised failure)
  | disconnected {after : Shared} (failure : Failure)
      (resumed : shared.resumeConnecting settings .listener reply choice.pick =
        some (after, .raised failure)) :
      Listens settings shared reply choice .connecting (.raised failure)
  | unaddressed (connection : ConnectionId) (epoch : Nat) (message : Frame)
      (read : reply = .frame (.frame message)) (type : message.type = .message)
      (missing : message.headers.get? "subscription" = none) :
      Listens settings shared reply choice (.reading connection epoch) (.raised .keyError)

theorem listens_of_resume {point : ListenerPoint} {reply : Reply} {choice : Choice}
    {shared : Shared} {resumed : Resumed}
    (resumes : point.resume settings reply choice shared = some resumed) :
    Listens settings shared reply choice point resumed.point ∧
      ∀ child created, resumed.spawned = some (child, created) →
        ∃ number, child = .handler number := by
  have cycles := Cycles.listener resumes
  refine ⟨?_, ?_⟩
  · -- the listener comes to rest at an `await` of its own or ends
    have listens : ∀ {after : Shared}, resumed.point.Rests .listener after →
        (∀ failure, resumed.point = .raised failure →
          Listens settings shared reply choice point (.raised failure)) →
        Listens settings shared reply choice point resumed.point := by
      intro after rests ends
      generalize resumed.point = next at rests ends
      cases next with
      | listener next => exact .goesOn _ _
      | raised failure => exact ends failure rfl
      | heartbeat =>
          obtain ⟨generation, same⟩ := rests
          contradiction
      | monitor =>
          obtain ⟨generation, same⟩ := rests
          contradiction
      | _ => exact rests.elim
    cases cycles with
    | waits => exact .goesOn _ _
    | leaves _ inside connected ended tends raised =>
        refine listens tends.point_rests fun failure same => ?_
        obtain rfl := raised failure same
        cases point with
        | connecting => exact .disconnected failure connected
        | _ => exact inside.elim
    | tends _ tending tends raised =>
        refine listens tends.point_rests fun failure same => ?_
        rcases raised failure same with ⟨replied, other⟩ | ⟨-, generation, foreign⟩
        · refine .interrupted point failure replied ?_ ?_
          · rintro rfl
            exact tending
          · rintro connection epoch rfl
            exact other connection epoch rfl
        · contradiction
    | takes own connection epoch frame replied dispatched =>
        cases dispatched with
        | misses message isMessage missing =>
            exact .unaddressed connection epoch message replied isMessage missing
        | _ => exact .goesOn _ _
    | creates => exact .goesOn _ _
    | stops own delivery failure raised =>
        exact .interrupted _ failure raised (by simp) (by simp)
  · intro child created spawned
    rcases cycles.spawned with none | ⟨-, delivery, handler⟩
    · rw [none] at spawned
      contradiction
    · rw [handler] at spawned
      exact ⟨_, (Prod.mk.inj (Option.some.inj spawned)).1.symm⟩

/-- A step leaves every task where it is, resumes a task, or lets a call begin or end without the
creation of a task. -/
theorem store_of_step (stepped : step settings state action = some after) :
    after.tasks = state.tasks ∨
      (∃ task reply choice resumed, action = .resume task reply choice ∧
        (state.tasks task).resume settings task reply choice state.shared = some resumed ∧
        after = state.store task resumed) ∨
      ∃ task resumed, action.task = some task ∧ task ≠ .listener ∧ resumed.spawned = none ∧
        after = state.store task resumed := by
  cases steps_of_step stepped with
  | enter => exact .inr (.inr ⟨_, _, rfl, by simp, rfl, rfl⟩)
  | send number arguments =>
      exact .inr (.inr ⟨_, _, rfl, by simp,
        Job.spawned_proceed (.send (sendFrame arguments none)) _, rfl⟩)
  | subscribe subscription =>
      exact .inr (.inr ⟨_, _, rfl, by simp,
        Job.spawned_proceed (.subscribe subscription) _, rfl⟩)
  | unsubscribe number id =>
      exact .inr (.inr ⟨_, _, rfl, by simp,
        Duty.spawned_proceed (.unsubscribe id) _, rfl⟩)
  | begin id =>
      exact .inr (.inr ⟨_, _, rfl, by simp, Job.spawned_proceed (.begin id) _, rfl⟩)
  | transactionSend id arguments failed =>
      exact .inr (.inr ⟨_, _, rfl, by simp, Job.spawned_proceed
        (.transact id failed (sendFrame arguments (some id))) _, rfl⟩)
  | commit id =>
      rw [← Duty.proceed_commit]
      exact .inr (.inr ⟨_, _, rfl, by simp, Duty.spawned_proceed (.commit id) _, rfl⟩)
  | abort id =>
      exact .inr (.inr ⟨_, _, rfl, by simp, Duty.spawned_proceed (.abort id) _, rfl⟩)
  | acknowledge number index type delivery =>
      exact .inr (.inr ⟨_, _, rfl, by simp,
        Duty.spawned_proceed (.acknowledge delivery _) _, rfl⟩)
  | resume task reply choice created resumes =>
      exact .inr (.inl ⟨task, reply, choice, _, rfl, resumes, rfl⟩)
  | opens => exact .inl rfl
  | refuses => exact .inl rfl
  | release message => exact .inr (.inr ⟨_, _, rfl, by simp, rfl, rfl⟩)

theorem State.Fits.listening (fits : state.Fits) {reply : Reply} {choice : Choice}
    {resumed : Resumed}
    (resumes : (state.tasks .listener).resume settings .listener reply choice state.shared =
      some resumed) : ∃ point, state.tasks .listener = .listener point := by
  have own := fits.tasks .listener
  generalize state.tasks .listener = point at own resumes
  cases point with
  | listener point => exact ⟨point, rfl⟩
  | _ => simp_all [Point.Fits, Job.Runs, Duty.Runs, Point.resume]

/-- What a step does to the listener. -/
theorem listener_of_step (fits : state.Fits)
    (stepped : step settings state action = some after) :
    after.tasks .listener = state.tasks .listener ∨
      after.tasks .listener = .listener .created ∨
      ∃ reply choice point, action = .resume .listener reply choice ∧
        state.tasks .listener = .listener point ∧
        Listens settings state.shared reply choice point (after.tasks .listener) := by
  rcases store_of_step stepped with same | ⟨task, reply, choice, resumed, rfl, resumes, rfl⟩ |
    ⟨task, resumed, -, different, unspawned, rfl⟩
  · exact .inl (by rw [same])
  · by_cases same : task = .listener
    · subst same
      obtain ⟨point, standing⟩ := fits.listening resumes
      rw [standing] at resumes
      obtain ⟨listens, spawns⟩ := listens_of_resume resumes
      have own_point : (state.store .listener resumed).tasks .listener = resumed.point := by
        unfold State.store
        cases spawned : resumed.spawned with
        | none => simp
        | some pair =>
            obtain ⟨number, handler⟩ := spawns pair.1 pair.2 spawned
            simp [handler]
      rw [own_point]
      exact .inr (.inr ⟨reply, choice, point, rfl, standing, listens⟩)
    · rcases spawned_of_resume fits resumes with unspawned | own | ⟨rfl, spawned⟩
      · exact .inl (Drives.tasks_store_of_ne (Ne.symm same) (by simp [unspawned]))
      · exact absurd own same
      · right
        left
        simp [State.store, spawned]
  · exact .inl (Drives.tasks_store_of_ne (Ne.symm different) (by simp [unspawned]))

/-- A step concerns the task of its action, the listener and handlers. -/
theorem tasks_of_step (fits : state.Fits) (stepped : step settings state action = some after)
    (other : action.task ≠ some task) (unborn : task ≠ .listener)
    (unhandled : ∀ number, task ≠ .handler number) : after.tasks task = state.tasks task := by
  rcases store_of_step stepped with same | ⟨actor, reply, choice, resumed, rfl, resumes, rfl⟩ |
    ⟨actor, resumed, named, -, unspawned, rfl⟩
  · rw [same]
  · have different : task ≠ actor := by
      rintro rfl
      exact other rfl
    refine Drives.tasks_store_of_ne different ?_
    intro child point spawned
    rcases spawned_of_resume fits resumes with unspawned | rfl | ⟨-, created⟩
    · simp [unspawned] at spawned
    · obtain ⟨before, standing⟩ := fits.listening resumes
      rw [standing] at resumes
      obtain ⟨number, rfl⟩ := (listens_of_resume resumes).2 child point spawned
      exact unhandled number
    · rw [created] at spawned
      obtain ⟨rfl, -⟩ := Prod.mk.inj (Option.some.inj spawned)
      exact unborn
  · have different : task ≠ actor := by
      rintro rfl
      exact other named
    exact Drives.tasks_store_of_ne different (by simp [unspawned])

end Steps

/-! ## Runs -/

/-- The listener has not ended, or it has used up its connection attempts. -/
def State.Listening (settings : Settings) (state : State) : Prop :=
  state.tasks .listener = .absent ∨ (∃ point, state.tasks .listener = .listener point) ∨
    ∃ issues, state.tasks .listener = .raised (.failedAllConnectAttempts issues) ∧
      issues.length = settings.connectRetryAttempts

/-- Steps at which the listener reads no MESSAGE, or one with a `subscription` header. -/
def addressed : Action → Bool
  | .resume .listener (.frame (.frame message)) _ =>
      message.type ≠ .message || message.headers.contains "subscription"
  | _ => true

/-- Conditions on the steps of the listener and of its own reconnections: connections keep their
contract with it, it is not cancelled, and the task group takes the tasks of its handshakes. -/
def attends (settings : Settings) (state : State) : Action → Bool
  | .resume .listener reply choice =>
      mild state (.resume .listener reply choice) &&
        addressed (.resume .listener reply choice) &&
        enlists state (.resume .listener reply choice) &&
        confirms settings state (.resume .listener reply choice) &&
        steady state (.resume .listener reply choice)
  | _ => true

/-- The listener takes any frame with the headers that it needs and goes on. -/
theorem goesOn_of_addressed {settings : Settings} {state : State} (fits : state.Fits)
    {connection : ConnectionId} {epoch : Nat}
    (standing : state.tasks .listener = .listener (.reading connection epoch)) {frame : AnyFrame}
    {choice : Choice} (meets : addressed (.resume .listener (.frame frame) choice) = true) :
    ∃ after point, step settings state (.resume .listener (.frame frame) choice) = some after ∧
      after.tasks .listener = .listener point := by
  have stepped : step settings state (.resume .listener (.frame frame) choice) =
      some (state.store .listener
        (ListenerPoint.dispatch connection epoch frame state.shared)) := by
    simp [step, State.exists?, standing, Point.resume, ListenerPoint.resume]
  refine ⟨state.store .listener (ListenerPoint.dispatch connection epoch frame state.shared), ?_⟩
  rcases listener_of_step fits stepped with same | created |
    ⟨reply, other, point, same, held, listens⟩
  · exact ⟨_, stepped, same.trans standing⟩
  · exact ⟨_, stepped, created⟩
  · obtain ⟨-, rfl, rfl⟩ : True ∧ .frame frame = reply ∧ choice = other := by simpa using same
    obtain rfl : .reading connection epoch = point := by simpa [standing] using held
    generalize (state.store .listener
      (ListenerPoint.dispatch connection epoch frame state.shared)).tasks .listener = next
      at listens ⊢
    cases listens with
    | goesOn _ next => exact ⟨next, stepped, rfl⟩
    | interrupted _ failure raised => contradiction
    | unaddressed _ _ message read type missing =>
        obtain rfl : frame = .frame message := by simpa using read
        simp [addressed, type, Dict.contains, missing] at meets

theorem listening_of_reaches {settings : Settings} {state : State}
    (reach : (client settings).Reaches
      (fun state action => attends settings state action = true) state) :
    state.Listening settings := by
  refine @System.Reaches.invariant _ _ (client settings) _
    (fun state => state.Listening settings) (.inl rfl) ?_ state reach
  intro before after action reach listening attended stepped
  have guarded := guarded_of_reaches reach
  have clean : before.shared.Clean settings fun task => task = .listener := by
    refine clean_of_reaches ?_ reach
    rintro state task reply choice - attended rfl -
    simp only [attends, Bool.and_eq_true] at attended
    exact ⟨attended.1.1.1.1, attended.1.2, attended.2⟩
  rcases listener_of_step (fits_of_reaches reach) stepped with same | created |
    ⟨reply, choice, point, rfl, standing, listens⟩
  · rw [State.Listening, same]
    exact listening
  · exact .inr (.inl ⟨_, created⟩)
  · have gentle : mild before (.resume .listener reply choice) = true := by
      simp only [attends, Bool.and_eq_true] at attended
      exact attended.1.1.1.1
    generalize next_eq : after.tasks .listener = next at listens
    cases listens with
    | goesOn _ next => exact .inr (.inl ⟨next, next_eq⟩)
    | interrupted _ failure raised elsewhere other =>
        subst raised
        have idle : ¬ (before.tasks .listener).Connecting := by
          rw [standing]
          cases point with
          | connecting => exact absurd rfl elsewhere
          | _ => exact id
        obtain ⟨lost, communicates⟩ := communicates_of_mild guarded idle (by simp [standing]) gentle
        rw [standing] at communicates
        cases point with
        | reading connection epoch => exact absurd lost (other connection epoch rfl)
        | _ => contradiction
    | disconnected failure resumed =>
        have connecting : (before.tasks .listener).Connecting := by
          rw [standing]
          trivial
        obtain ⟨rfl, count⟩ := clean.raised rfl (mild_of_step connecting gentle)
          (Shared.reconnects_resumeConnecting resumed)
        exact .inr (.inr ⟨_, next_eq, count⟩)
    | unaddressed connection epoch message read type missing =>
        subst read
        simp [attends, addressed, type, Dict.contains, missing] at attended

/-- No frame ends the listener, in every run in which every MESSAGE that it reads has a
`subscription` header, its own reconnections can go on and it is not cancelled: it takes every such
frame and goes on.  Nothing is asked of the other tasks. -/
theorem listening_of_attends (settings : Settings) (state : State)
    (reach : (client settings).Reaches
      (fun state action => attends settings state action = true) state) :
    state.Listening settings ∧ ∀ connection epoch frame choice,
      state.tasks .listener = .listener (.reading connection epoch) →
      addressed (.resume .listener (.frame frame) choice) = true →
      ∃ after point, (client settings).step state (.resume .listener (.frame frame) choice) =
        some after ∧ after.tasks .listener = .listener point :=
  ⟨listening_of_reaches reach, fun _ _ _ _ standing meets =>
    goesOn_of_addressed (fits_of_reaches reach) standing meets⟩

/-- The listener reads a MESSAGE of an unknown subscription. -/
theorem listening_of_attends_readsMessage :
    ∃ state, (client plainSettings).Reaches
      (fun state action => attends plainSettings state action = true) state ∧
      (match state.tasks .listener, state.shared.messages with
        | .listener (.reading 0 0), 1 => true
        | _, _ => false) = true ∧ state.Listening plainSettings := by
  obtain ⟨state, reach, reading⟩ := @System.exists_of_replay _ _ (client plainSettings)
    (fun state action => attends plainSettings state action = true)
    (attends plainSettings) (fun _ _ => id)
    (enters ++ [.resume .listener (.frame (.frame plainMessage)) {}])
    (fun state => match state.tasks .listener, state.shared.messages with
      | .listener (.reading 0 0), 1 => true
      | _, _ => false)
    (by decide +kernel)
  exact ⟨state, reach, reading, (listening_of_attends plainSettings state reach).1⟩

/-- A MESSAGE frame without headers. -/
def bareMessage : Frame := .bodyless .message Dict.empty

/-- A MESSAGE without headers, which the parser yields, ends the listener. -/
theorem not_forall_listening :
    ({} : FrameParser).parseFramesFromChunk (Text.encode "MESSAGE\n\n" ++ [null]) =
        .ok ({ previousByte := some null }, [.frame bareMessage]) ∧
      ¬ ∀ (settings : Settings) (state : State),
        (client settings).Reaches (fun state action => mild state action = true) state →
          state.Listening settings := by
  refine ⟨by decide +kernel, ?_⟩
  intro always
  obtain ⟨state, reach, ended⟩ := @System.exists_of_replay _ _ (client plainSettings)
    (fun state action => mild state action = true) mild (fun _ _ => id)
    (enters ++ [.resume .listener (.frame (.frame bareMessage)) {}])
    (fun state => (state.tasks .listener).missesKey) (by decide +kernel)
  have raised := Point.eq_of_missesKey ended
  rcases always plainSettings state reach with absent | ⟨point, standing⟩ | ⟨issues, other, -⟩
  · rw [raised] at absent
    contradiction
  · rw [raised] at standing
    contradiction
  · rw [raised] at other
    simp at other

end Stompman
