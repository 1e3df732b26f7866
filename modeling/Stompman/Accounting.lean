import Stompman.Offers

/-!
# The attempts of a reconnecting write

`write_frame_reconnecting` passes its frame to one connection after another until a write returns or
its attempts are used up.  Tasks interleave, connections are replaced by others and handshakes pass
on frames of their own meanwhile; so the attempts of each call are recorded beside the client here.
A call never tries a connection twice, and its attempts, with those that are left, add up to
`write_retry_attempts`.
-/

namespace Stompman

open Foundation

/-! ## Recorded attempts -/

/-- The position in `write_frame_reconnecting`. -/
def Point.retrying : Point → Option WriteFrame
  | .sending _ writing | .subscribing _ writing | .beginning writing | .transacting _ _ writing =>
      some writing
  | _ => none

/-- A client with the attempts of the call that each task is at, or was at last. -/
structure Tried where
  state : State
  attempts : TaskId → List ConnectionId := fun _ => []

/-- The attempts of a task after a step: a call that begins has made none, and a task that writes
after its own step has passed its frame on in it. -/
def Tried.note (tried : Tried) (action : Action) (next : State) (task : TaskId) :
    List ConnectionId :=
  if action.task = some task then
    (if (tried.state.tasks task).retrying.isSome then tried.attempts task else []) ++
      ((next.tasks task).retrying.bind WriteFrame.on).toList
  else tried.attempts task

/-- The client with a record of attempts as a transition system. -/
def tries (settings : Settings) : System Tried Action where
  initial := { state := (client settings).initial }
  step tried action :=
    (step settings tried.state action).map fun next =>
      { state := next, attempts := tried.note action next }

/-! ## The loop -/

/-- The number of attempts that are left. -/
def WriteFrame.remaining : WriteFrame → Nat
  | .connecting left => left + 1
  | .writing left _ | .discarding left _ => left

/-- The attempts that a call has made at a position, out of so many.  Apart from the connection that
it writes on, they are lost. -/
structure Spent (count : Nat) (frame : Frame) (shared : Shared) (writing : WriteFrame)
    (attempts : List ConnectionId) : Prop where
  distinct : attempts.Nodup
  counted : attempts.length + writing.remaining = count
  passed : ∀ connection ∈ attempts,
    .activated connection ∈ shared.trace ∧ .handed connection frame ∈ shared.trace
  last : ∀ connection, writing.on = some connection → attempts.getLast? = some connection
  lost : ∀ connection ∈ attempts, writing.on = some connection ∨ shared.active ≠ some connection

/-- How a call goes on: with a further attempt, with the end of its last write, or with an
exception. -/
def Outcome (count : Nat) (frame : Frame) (attempts : List ConnectionId) :
    Shared × Progress WriteFrame Unit → Prop
  | (after, .suspended next) => Spent count frame after next (attempts ++ next.on.toList)
  | (after, .returned ()) =>
      ∃ connection, attempts.getLast? = some connection ∧ .wrote connection frame ∈ after.trace
  | (_, .raised _) => True

/-- A connection that `_get_active_connection_state` returns has become active. -/
theorem Shared.Reconnects.activated_of_returned {settings : Settings} {task : TaskId}
    {reply : Reply} {before after : Shared} {connection : ConnectionId} (placed : before.Placed)
    (effects : before.Reconnects settings task reply after (.returned connection)) :
    .activated connection ∈ after.trace := by
  cases effects with
  | found _ _ active => exact placed.active connection active
  | finishes => exact List.mem_append_right _ (List.mem_singleton_self _)

namespace Spent

variable {settings : Settings} {count : Nat} {frame : Frame} {before after : Shared}
  {writing : WriteFrame} {attempts : List ConnectionId}

/-- Other tasks make no connection active again. -/
theorem grows (spent : Spent count frame before writing attempts)
    (trace : before.trace ⊆ after.trace)
    (active : ∀ connection, .activated connection ∈ before.trace →
      after.active = some connection → before.active = some connection) :
    Spent count frame after writing attempts := by
  refine ⟨spent.distinct, spent.counted, ?_, spent.last, ?_⟩
  · intro connection member
    exact (spent.passed connection member).imp (trace ·) (trace ·)
  · intro connection member
    refine (spent.lost connection member).imp_right fun gone again => ?_
    exact gone (active connection (spent.passed connection member).1 again)

/-- The frame is passed to the active connection. -/
theorem hands {connection : ConnectionId} {left : Nat}
    (used : .activated connection ∈ before.trace)
    (distinct : attempts.Nodup) (counted : attempts.length + (left + 1) = count)
    (passed : ∀ other ∈ attempts,
      .activated other ∈ before.trace ∧ .handed other frame ∈ before.trace)
    (lost : ∀ other ∈ attempts, before.active ≠ some other)
    (active : before.active = some connection) :
    Spent count frame (before.hand connection frame) (.writing left connection)
      (attempts ++ [connection]) := by
  have unused : connection ∉ attempts := fun member => lost connection member active
  refine ⟨?_, ?_, ?_, ?_, ?_⟩
  · rw [List.nodup_append]
    refine ⟨distinct, List.nodup_singleton _, ?_⟩
    rintro other member _ same rfl
    exact unused (List.mem_singleton.mp same ▸ member)
  · simp only [List.length_append, List.length_singleton, WriteFrame.remaining]
    omega
  · intro other member
    rcases List.mem_append.mp member with old | new
    · exact (passed other old).imp (List.mem_append_left _) (List.mem_append_left _)
    · obtain rfl := List.mem_singleton.mp new
      exact ⟨List.mem_append_left _ used, List.mem_append_right _ (List.mem_singleton_self _)⟩
  · intro other on
    rw [← on]
    simp [WriteFrame.on]
  · intro other member
    rcases List.mem_append.mp member with old | new
    · exact .inr (lost other old)
    · exact .inl (congrArg some (List.mem_singleton.mp new).symm)

/-- The head of the loop. -/
theorem loops {left : Nat}
    (used : ∀ connection, before.active = some connection → .activated connection ∈ before.trace)
    (distinct : attempts.Nodup)
    (counted : attempts.length + left = count)
    (passed : ∀ other ∈ attempts,
      .activated other ∈ before.trace ∧ .handed other frame ∈ before.trace)
    (lost : ∀ other ∈ attempts, before.active ≠ some other) :
    Outcome count frame attempts (WriteFrame.attempts frame before left) := by
  cases left with
  | zero => trivial
  | succ left =>
      cases active : before.active with
      | none =>
          simp only [WriteFrame.attempts, active, Outcome, WriteFrame.on, Option.toList_none,
            List.append_nil]
          refine ⟨distinct, counted, passed, by simp [WriteFrame.on], ?_⟩
          intro other member
          exact .inr (by simp [active])
      | some connection =>
          simp only [WriteFrame.attempts, active, Outcome, WriteFrame.on, Option.toList_some]
          exact hands (used connection active) distinct counted passed lost active

/-- A step of the loop. -/
theorem resume (spent : Spent count frame before writing attempts) (placed : before.Placed)
    {task : TaskId} {reply : Reply} {pick : Option String}
    {result : Shared × Progress WriteFrame Unit}
    (resumed : writing.resume settings task frame reply pick before = some result) :
    Outcome count frame attempts result := by
  obtain ⟨distinct, counted, passed, last, lost⟩ := spent
  cases writing with
  | connecting left =>
      obtain ⟨⟨middle, progress⟩, connected, rfl⟩ := Option.map_eq_some_iff.mp resumed
      have effects := Shared.reconnects_resumeConnecting connected
      obtain ⟨events, trace_eq, -⟩ := effects.extends
      have grown : before.trace ⊆ middle.trace := by
        rw [trace_eq]
        exact List.subset_append_left _ _
      have kept : Spent count frame middle (.connecting left) attempts := by
        refine Spent.grows ⟨distinct, counted, passed, last, lost⟩ grown ?_
        intro connection used active
        exact (effects.active_cases placed active).resolve_right fun fresh => fresh used
      cases progress with
      | suspended =>
          simpa only [Outcome, WriteFrame.on, Option.toList_none, List.append_nil] using kept
      | returned connection =>
          refine hands (effects.activated_of_returned placed) distinct counted kept.passed ?_
            effects.active_of_returned
          intro other member
          exact (kept.lost other member).resolve_left (by simp [WriteFrame.on])
      | raised => trivial
  | writing left connection =>
      simp only [WriteFrame.resume] at resumed
      split at resumed
      · obtain rfl := Option.some.inj resumed
        exact ⟨connection, last connection rfl, List.mem_append_right _ (by simp)⟩
      · split at resumed
        · rename_i active
          obtain rfl := Option.some.inj resumed
          have discarded := Shared.Speaks.discard before connection
          simp only [Outcome, WriteFrame.on, Option.toList_none, List.append_nil]
          refine ⟨distinct, counted, ?_, by simp [WriteFrame.on], ?_⟩
          · intro other member
            exact (passed other member).imp (discarded.grows ·) (discarded.grows ·)
          · intro other member
            exact .inr (by simp [Shared.discard])
        · rename_i gone
          obtain rfl := Option.some.inj resumed
          refine Spent.loops placed.active distinct counted passed ?_
          intro other member active
          rcases lost other member with own | inactive
          · exact gone (active.trans own.symm)
          · exact inactive active
      · obtain rfl := Option.some.inj resumed
        trivial
      · contradiction
  | discarding left connection =>
      simp only [WriteFrame.resume] at resumed
      split at resumed
      · obtain rfl := Option.some.inj resumed
        refine Spent.loops placed.active distinct counted passed ?_
        intro other member
        exact (lost other member).resolve_left (by simp [WriteFrame.on])
      · obtain rfl := Option.some.inj resumed
        trivial
      · contradiction

end Spent

theorem WriteFrame.eq_zero_of_attempts {frame : Frame} {shared after : Shared} {left : Nat}
    {failure : Failure}
    (raised : WriteFrame.attempts frame shared left = (after, .raised failure)) : left = 0 := by
  cases left with
  | zero => rfl
  | succ left =>
      simp only [WriteFrame.attempts] at raised
      split at raised <;> simp at raised

/-- A call gives up when no attempt is left. -/
theorem WriteFrame.remaining_of_raised {settings : Settings} {task : TaskId} {frame : Frame}
    {shared after : Shared} {writing : WriteFrame} {reply : Reply} {pick : Option String}
    (elsewhere : ∀ left, writing ≠ .connecting left)
    (unforced : reply ≠ .raised .failedAllWriteAttempts)
    (resumed : writing.resume settings task frame reply pick shared =
      some (after, .raised .failedAllWriteAttempts)) : writing.remaining = 0 := by
  cases writing with
  | connecting left => exact absurd rfl (elsewhere left)
  | writing left connection =>
      simp only [WriteFrame.resume] at resumed
      split at resumed
      · simp at resumed
      · split at resumed
        · simp at resumed
        · exact WriteFrame.eq_zero_of_attempts (Option.some.inj resumed)
      · rename_i failure _
        obtain ⟨-, rfl⟩ : shared = after ∧ failure = .failedAllWriteAttempts := by
          simpa using resumed
        exact absurd rfl unforced
      · contradiction
  | discarding left connection =>
      simp only [WriteFrame.resume] at resumed
      split at resumed
      · exact WriteFrame.eq_zero_of_attempts (Option.some.inj resumed)
      · rename_i failure
        obtain ⟨-, rfl⟩ : shared = after ∧ failure = .failedAllWriteAttempts := by
          simpa using resumed
        exact absurd rfl unforced
      · contradiction

/-! ## Steps of the client -/

section Steps

variable {settings : Settings} {state after : State} {action : Action} {task : TaskId}

/-- A connection that has been active does not become active again. -/
theorem State.Placed.active_of_step (fits : state.Fits) (placed : state.Placed)
    (stepped : step settings state action = some after) {connection : ConnectionId}
    (used : .activated connection ∈ state.shared.trace)
    (active : after.shared.active = some connection) :
    state.shared.active = some connection := by
  suffices all : after.Placed ∧ (after.shared.active = some connection →
      state.shared.active = some connection) from all.2 active
  refine @holds_of_step settings state after action
    (fun later => later.Placed ∧ (later.shared.active = some connection →
      state.shared.active = some connection)) fits ?_ ?_ stepped
  · intro middle begins
    refine ⟨placed.begins begins, fun active => ?_⟩
    rcases begins.speaks placed with ⟨task, reply, connected, progress, effects, rfl⟩ | speaks
    · exact (effects.active_cases placed.shared active).resolve_right fun fresh => fresh used
    · rcases speaks.active with kept | none
      · rwa [← kept]
      · rw [none] at active
        contradiction
  · rintro middle next - ⟨known, earlier⟩ reacts
    refine ⟨known.reacts reacts, fun active => earlier ?_⟩
    rcases (reacts.speaks known).active with kept | none
    · rwa [← kept]
    · rw [none] at active
      contradiction

theorem Job.retrying_point (job : Job) (writing : WriteFrame) :
    (job.point writing).retrying = some writing := by
  cases job <;> rfl

/-- A position belongs to one job of a task. -/
theorem Job.eq_of_point {job other : Job} {writing reached : WriteFrame} (runs : job.Runs task)
    (also : other.Runs task) (same : job.point writing = other.point reached) :
    job = other ∧ writing = reached := by
  cases job <;> cases other <;>
    simp_all [Job.point, Job.Runs]

theorem Job.retrying_failed (job : Job) (failure : Failure) :
    (job.failed failure).retrying = none := by
  cases job <;> rfl

theorem Job.retrying_completed (job : Job) (shared : Shared) :
    (job.completed shared).point.retrying = none := by
  cases job <;> rfl

/-- After `maybe_write_frame` nothing is tried again. -/
theorem Duty.retrying_proceed (duty : Duty) (result : Shared × Progress MaybeWrite Bool) :
    (duty.proceed result).point.retrying = none := by
  obtain ⟨shared, progress⟩ := result
  have removed : ∀ id, (removeTransaction id shared).point.retrying = none := by
    intro id
    rcases point_removeTransaction id shared with same | same <;> rw [same] <;> rfl
  cases progress with
  | suspended => cases duty <;> rfl
  | raised => cases duty <;> rfl
  | returned written =>
      cases duty with
      | abort transaction => exact removed transaction
      | commit transaction =>
          cases written with
          | true => exact removed transaction
          | false => rfl
      | _ => rfl

theorem Point.job_of_retrying {point : Point} (fits : point.Fits task) {writing : WriteFrame}
    (retries : point.retrying = some writing) :
    ∃ job : Job, job.Runs task ∧ point = job.point writing := by
  cases point with
  | sending frame reached =>
      obtain rfl := Option.some.inj retries
      exact ⟨.send frame, fits, rfl⟩
  | subscribing subscription reached =>
      obtain rfl := Option.some.inj retries
      exact ⟨.subscribe subscription, fits, rfl⟩
  | beginning reached =>
      obtain rfl := Option.some.inj retries
      obtain ⟨transaction, rfl⟩ := fits
      exact ⟨.begin transaction, rfl, rfl⟩
  | transacting failed frame reached =>
      obtain rfl := Option.some.inj retries
      obtain ⟨transaction, runs⟩ := fits
      exact ⟨.transact transaction failed frame, runs, rfl⟩
  | _ => contradiction

/-- Jobs are calls of the user. -/
theorem Job.Runs.cases {job : Job} (runs : job.Runs task) :
    (∃ number, task = .call number) ∨ (∃ id, task = .subscribe id) ∨
      ∃ id, task = .transaction id := by
  cases job with
  | send => exact .inl runs.1
  | subscribe subscription => exact .inr (.inl ⟨subscription.id, runs⟩)
  | begin transaction => exact .inr (.inr ⟨transaction, runs⟩)
  | transact transaction => exact .inr (.inr ⟨transaction, runs.1⟩)

/-- A task that has a duty goes on with it, or ends. -/
theorem Point.retrying_of_resume {point : Point} {reply : Reply} {choice : Choice}
    {shared : Shared} {resumed : Resumed} {job : Job} (runs : job.Runs task)
    (fits : point.Fits task) (idle : point.retrying = none)
    (resumes : point.resume settings task reply choice shared = some resumed) :
    resumed.point.retrying = none := by
  have duties : ∀ {duty : Duty} {writing : MaybeWrite}, duty.Runs task →
      (duty.point writing).resume settings task reply choice shared = some resumed →
      resumed.point.retrying = none := by
    intro duty writing has moved
    rw [Duty.resume_point has] at moved
    obtain ⟨result, -, rfl⟩ := Option.map_eq_some_iff.mp moved
    exact duty.retrying_proceed result
  have user := runs.cases
  cases point with
  | unsubscribing id writing => exact @duties (.unsubscribe id) writing fits resumes
  | acknowledging delivery frame writing =>
      exact @duties (.acknowledge delivery frame) writing fits resumes
  | settling delivery frame suppressed writing =>
      exact @duties (.settle delivery frame suppressed) writing fits resumes
  | aborting writing =>
      obtain ⟨transaction, rfl⟩ := fits
      exact @duties (.abort transaction) writing rfl resumes
  | committing writing =>
      obtain ⟨transaction, rfl⟩ := fits
      exact @duties (.commit transaction) writing rfl resumes
  | starting =>
      obtain rfl : task = .starter := fits
      simp at user
  | handling =>
      obtain ⟨number, rfl⟩ := fits
      simp at user
  | heartbeat =>
      obtain ⟨generation, rfl⟩ := fits
      simp at user
  | monitor =>
      obtain ⟨generation, rfl⟩ := fits
      simp at user
  | listener =>
      obtain rfl : task = .listener := fits
      simp at user
  | _ => contradiction

/-- A task that comes to `write_frame_reconnecting` has been called. -/
theorem starts_of_retrying (fits : state.Fits) (stepped : step settings state action = some after)
    (own : action.task = some task) (idle : (state.tasks task).retrying = none)
    {writing : WriteFrame} (retries : (after.tasks task).retrying = some writing) :
    ∃ (job : Job) (opened : Shared), job.Runs task ∧ opened.active = state.shared.active ∧
      state.shared.trace ⊆ opened.trace ∧
      after = state.store task (job.proceed (WriteFrame.start settings job.frame opened)) := by
  have called : ∀ (number : TaskId) {resumed : Resumed}, task = number →
      resumed.spawned = none → resumed.point.retrying = none →
      after = state.store number resumed → False := by
    rintro number resumed rfl unspawned quiet rfl
    rw [State.tasks_store_of_unspawned unspawned, quiet] at retries
    contradiction
  have later := (fits.step stepped).tasks task
  obtain ⟨job, runs, -⟩ := Point.job_of_retrying later retries
  cases steps_of_step stepped with
  | enter =>
      obtain rfl : TaskId.starter = task := Option.some.inj own
      exact (called .starter rfl rfl rfl rfl).elim
  | send number arguments absent =>
      obtain rfl : TaskId.call number = task := Option.some.inj own
      exact ⟨.send (sendFrame arguments none), state.shared, ⟨⟨number, rfl⟩, arguments, rfl⟩, rfl,
        List.Subset.refl _, rfl⟩
  | subscribe subscription absent =>
      obtain rfl : TaskId.subscribe subscription.id = task := Option.some.inj own
      exact ⟨.subscribe subscription, state.shared, rfl, rfl, List.Subset.refl _, rfl⟩
  | begin id absent =>
      obtain rfl : TaskId.transaction id = task := Option.some.inj own
      exact ⟨.begin id, state.shared, rfl, rfl, List.Subset.refl _, rfl⟩
  | transactionSend id arguments failed inside =>
      obtain rfl : TaskId.transaction id = task := Option.some.inj own
      exact ⟨.transact id failed (sendFrame arguments (some id)),
        state.shared.appendSent id (sendFrame arguments (some id)), ⟨rfl, arguments, rfl⟩, rfl,
        List.subset_append_left _ _, rfl⟩
  | unsubscribe number id =>
      obtain rfl : TaskId.call number = task := Option.some.inj own
      exact (called _ rfl (Duty.spawned_proceed (.unsubscribe id) _)
        (Duty.retrying_proceed (.unsubscribe id) _) rfl).elim
  | commit id =>
      obtain rfl : TaskId.transaction id = task := Option.some.inj own
      rw [← Duty.proceed_commit] at called
      exact (called _ rfl (Duty.spawned_proceed (.commit id) _)
        (Duty.retrying_proceed (.commit id) _) rfl).elim
  | abort id =>
      obtain rfl : TaskId.transaction id = task := Option.some.inj own
      exact (called _ rfl (Duty.spawned_proceed (.abort id) _)
        (Duty.retrying_proceed (.abort id) _) rfl).elim
  | acknowledge number index type delivery =>
      obtain rfl : TaskId.call number = task := Option.some.inj own
      exact (called _ rfl (Duty.spawned_proceed (.acknowledge delivery _) _)
        (Duty.retrying_proceed (.acknowledge delivery _) _) rfl).elim
  | @resume other reply choice created resumed resumes =>
      obtain rfl : other = task := Option.some.inj own
      have quiet := Point.retrying_of_resume runs (fits.tasks other) idle resumes
      have user := runs.cases
      rcases spawned_of_resume fits resumes with unspawned | rfl | ⟨rfl, -⟩
      · exact (called other rfl unspawned quiet rfl).elim
      · simp at user
      · simp at user
  | opens => contradiction
  | refuses => contradiction
  | release message =>
      obtain rfl : TaskId.handler message = task := Option.some.inj own
      exact (called _ rfl rfl rfl rfl).elim

/-- A task inside `write_frame_reconnecting` is resumed there. -/
theorem resume_of_retrying (stepped : step settings state action = some after)
    (own : action.task = some task) (retries : (state.tasks task).retrying ≠ none) :
    ∃ reply choice resumed, action = .resume task reply choice ∧
      (state.tasks task).resume settings task reply choice state.shared = some resumed ∧
      after = state.store task resumed := by
  have quiet : ∀ {other : TaskId} {point : Point}, other = task → state.tasks other = point →
      point.retrying = none → False := by
    rintro other point rfl standing none
    rw [standing] at retries
    exact retries none
  cases steps_of_step stepped with
  | enter absent => exact (quiet (Option.some.inj own) absent rfl).elim
  | send number arguments absent => exact (quiet (Option.some.inj own) absent rfl).elim
  | subscribe subscription absent => exact (quiet (Option.some.inj own) absent rfl).elim
  | unsubscribe number id _ absent => exact (quiet (Option.some.inj own) absent rfl).elim
  | begin id absent => exact (quiet (Option.some.inj own) absent rfl).elim
  | transactionSend id _ _ inside => exact (quiet (Option.some.inj own) inside rfl).elim
  | commit id _ inside => exact (quiet (Option.some.inj own) inside rfl).elim
  | abort id _ inside => exact (quiet (Option.some.inj own) inside rfl).elim
  | acknowledge _ _ _ _ _ _ absent => exact (quiet (Option.some.inj own) absent rfl).elim
  | @resume other reply choice created resumed resumes =>
      obtain rfl : other = task := Option.some.inj own
      exact ⟨reply, choice, resumed, rfl, resumes, rfl⟩
  | opens => contradiction
  | refuses => contradiction
  | release message handled => exact (quiet (Option.some.inj own) handled rfl).elim

end Steps

/-! ## Runs -/

/-- The attempts of a task are distinct and not too many, and those of a call that goes on are
accounted for. -/
structure Accounts (settings : Settings) (state : State) (task : TaskId)
    (attempts : List ConnectionId) : Prop where
  distinct : attempts.Nodup
  bounded : attempts.length ≤ settings.writeRetryAttempts
  spent : ∀ (job : Job) writing, job.Runs task → state.tasks task = job.point writing →
    Spent settings.writeRetryAttempts job.frame state.shared writing attempts

namespace Accounts

variable {settings : Settings} {tried : Tried} {state next : State} {task : TaskId}
  {action : Action} {attempts earlier : List ConnectionId}

/-- A task that is not inside `write_frame_reconnecting`. -/
theorem of_quiet (quiet : (state.tasks task).retrying = none) (distinct : attempts.Nodup)
    (bounded : attempts.length ≤ settings.writeRetryAttempts) :
    Accounts settings state task attempts := by
  refine ⟨distinct, bounded, ?_⟩
  intro job writing _ standing
  rw [standing, job.retrying_point] at quiet
  contradiction

/-- Where a task comes to after a part of `write_frame_reconnecting`. -/
theorem of_outcome {job : Job} (runs : job.Runs task) (distinct : earlier.Nodup)
    (bounded : earlier.length ≤ settings.writeRetryAttempts)
    {result : Shared × Progress WriteFrame Unit}
    (outcome : Outcome settings.writeRetryAttempts job.frame earlier result)
    (moved : next = state.store task (job.proceed result)) :
    Accounts settings next task
      (earlier ++ ((next.tasks task).retrying.bind WriteFrame.on).toList) := by
  have standing : next.tasks task = (job.proceed result).point := by
    rw [moved]
    exact State.tasks_store_of_unspawned (Job.spawned_proceed job result)
  have rests : (job.proceed result).point.retrying = none → Accounts settings next task
      (earlier ++ ((next.tasks task).retrying.bind WriteFrame.on).toList) := by
    intro quiet
    rw [← standing] at quiet
    rw [quiet, Option.bind_none, Option.toList_none, List.append_nil]
    exact of_quiet quiet distinct bounded
  obtain ⟨shared, progress⟩ := result
  cases progress with
  | returned => exact rests (job.retrying_completed shared)
  | raised failure => exact rests (job.retrying_failed failure)
  | suspended writing =>
      have spent : Spent settings.writeRetryAttempts job.frame shared writing
          (earlier ++ writing.on.toList) := outcome
      have counted := spent.counted
      rw [standing, Job.proceed, job.retrying_point, Option.bind_some]
      refine ⟨spent.distinct, by omega, ?_⟩
      intro other reached also at_job
      rw [standing] at at_job
      obtain ⟨rfl, rfl⟩ := Job.eq_of_point runs also at_job
      rw [moved]
      exact spent

/-- A step of the task itself. -/
theorem of_own (accounts : Accounts settings tried.state task (tried.attempts task))
    (fits : tried.state.Fits) (placed : tried.state.Placed) (own : action.task = some task)
    (stepped : step settings tried.state action = some next) :
    Accounts settings next task (tried.note action next task) := by
  rw [Tried.note, if_pos own]
  cases retries : (tried.state.tasks task).retrying with
  | some writing =>
      obtain ⟨job, runs, standing⟩ := Point.job_of_retrying (fits.tasks task) retries
      obtain ⟨reply, choice, resumed, rfl, resumes, moved⟩ :=
        resume_of_retrying stepped own (by simp [retries])
      rw [standing, Job.resume_point runs] at resumes
      obtain ⟨result, written, rfl⟩ := Option.map_eq_some_iff.mp resumes
      have spent := accounts.spent job writing runs standing
      exact of_outcome runs accounts.distinct accounts.bounded
        (spent.resume placed.shared written) moved
  | none =>
      cases reached : (next.tasks task).retrying with
      | some writing =>
          obtain ⟨job, opened, runs, active, trace, moved⟩ :=
            starts_of_retrying fits stepped own retries reached
          rw [← reached]
          refine of_outcome runs List.nodup_nil (Nat.zero_le _) ?_ moved
          refine Spent.loops ?_ List.nodup_nil (Nat.zero_add _) (by simp) (by simp)
          intro connection current
          exact trace (placed.shared.active connection (active.symm.trans current))
      | none => exact of_quiet reached List.nodup_nil (Nat.zero_le _)

/-- A step of another task. -/
theorem of_other (accounts : Accounts settings state task attempts) (fits : state.Fits)
    (placed : state.Placed) (other : action.task ≠ some task)
    (stepped : step settings state action = some next) :
    Accounts settings next task attempts := by
  refine ⟨accounts.distinct, accounts.bounded, ?_⟩
  intro job writing runs standing
  have user := runs.cases
  have same : next.tasks task = state.tasks task := by
    refine tasks_of_step fits stepped other ?_ ?_
    · rintro rfl
      simp at user
    · rintro number rfl
      simp at user
  refine (accounts.spent job writing runs (same ▸ standing)).grows ?_ ?_
  · exact placed.trace_subset fits stepped
  · intro connection used active
    exact placed.active_of_step fits stepped used active

end Accounts

section Reached

variable {settings : Settings} {tried : Tried}

theorem reachable_of_tried {allowed : Tried → Action → Prop}
    (reach : (tries settings).Reaches allowed tried) : (client settings).Reachable tried.state := by
  refine @System.Reaches.invariant _ _ _ _ (fun tried => (client settings).Reachable tried.state)
    ?_ ?_ tried reach
  · exact .initial
  · intro before after action _ reachable _ stepped
    obtain ⟨next, moved, rfl⟩ := Option.map_eq_some_iff.mp stepped
    exact .step reachable trivial moved

theorem accounts_of_reaches {allowed : Tried → Action → Prop}
    (reach : (tries settings).Reaches allowed tried) (task : TaskId) :
    Accounts settings tried.state task (tried.attempts task) := by
  refine @System.Reaches.invariant _ _ _ _
    (fun tried => Accounts settings tried.state task (tried.attempts task)) ?_ ?_ tried reach
  · refine Accounts.of_quiet ?_ List.nodup_nil (Nat.zero_le _)
    cases task <;> rfl
  · intro before after action reach accounts _ stepped
    obtain ⟨next, moved, rfl⟩ := Option.map_eq_some_iff.mp stepped
    have fits := fits_of_reaches (reachable_of_tried reach)
    have placed := placed_of_reaches (reachable_of_tried reach)
    by_cases own : action.task = some task
    · exact accounts.of_own fits placed own moved
    · have noted : before.note action next task = before.attempts task := if_neg own
      simp only [noted]
      exact accounts.of_other fits placed own moved

end Reached

/-- In every run, the attempts of a call of `write_frame_reconnecting` are on distinct connections
that have been active, and not more than `write_retry_attempts`.  The frame has been passed to each
of them, and all but the one that is being written on are lost.  A call that returns has written its
frame on the last of them, and a call that gives up has made all its attempts. -/
theorem attempts_of_reachable {settings : Settings} {tried : Tried}
    (reach : (tries settings).Reachable tried) (task : TaskId) :
    (tried.attempts task).Nodup ∧
    (tried.attempts task).length ≤ settings.writeRetryAttempts ∧
    ∀ (job : Job) writing, job.Runs task → tried.state.tasks task = job.point writing →
      (∀ connection ∈ tried.attempts task,
        .activated connection ∈ tried.state.shared.trace ∧
        .handed connection job.frame ∈ tried.state.shared.trace ∧
        (writing.on = some connection ∨ tried.state.shared.active ≠ some connection)) ∧
      (tried.attempts task).length + writing.remaining = settings.writeRetryAttempts ∧
      ∀ reply pick after progress,
        writing.resume settings task job.frame reply pick tried.state.shared =
          some (after, progress) →
        (progress = .returned () → ∃ connection,
          (tried.attempts task).getLast? = some connection ∧
            .wrote connection job.frame ∈ after.trace) ∧
        (progress = .raised .failedAllWriteAttempts → (∀ left, writing ≠ .connecting left) →
          reply ≠ .raised .failedAllWriteAttempts →
            (tried.attempts task).length = settings.writeRetryAttempts) := by
  obtain ⟨distinct, bounded, spent⟩ := accounts_of_reaches reach task
  refine ⟨distinct, bounded, fun job writing runs standing => ?_⟩
  have own := spent job writing runs standing
  have placed := placed_of_reaches (reachable_of_tried reach)
  refine ⟨?_, own.counted, ?_⟩
  · intro connection member
    obtain ⟨used, handed⟩ := own.passed connection member
    exact ⟨used, handed, own.lost connection member⟩
  · intro reply pick after progress resumed
    refine ⟨?_, ?_⟩
    · rintro rfl
      exact own.resume placed.shared resumed
    · rintro rfl elsewhere unforced
      have remaining := WriteFrame.remaining_of_raised elsewhere unforced resumed
      rw [← own.counted, remaining, Nat.add_zero]

/-- A SEND is lost on two connections, and is being written on a third one. -/
def sendsThrice : List Action :=
  enters ++ [.send 0 { body := [], destination := "/queue" }, raises (.call 0) .connectionLost,
    returns (.call 0)] ++ connects (.call 0) ++
  [raises (.call 0) .connectionLost, returns (.call 0)] ++ connects (.call 0)

theorem attempts_of_reachable_sendsThrice :
    ∃ tried, (tries plainSettings).Reachable tried ∧ tried.attempts (.call 0) = [0, 1, 2] ∧
      (tried.attempts (.call 0)).Nodup ∧
      (tried.attempts (.call 0)).length ≤ plainSettings.writeRetryAttempts := by
  have replayed : ((tries plainSettings).replay (fun _ _ => true) (tries plainSettings).initial
      sendsThrice).map (fun tried => decide (tried.attempts (.call 0) = [0, 1, 2])) =
        some true := by
    decide +kernel
  obtain ⟨tried, reach, happened⟩ := System.exists_of_replay (fun _ _ _ => trivial) replayed
  obtain ⟨distinct, bounded, -⟩ := attempts_of_reachable reach (.call 0)
  exact ⟨tried, reach, of_decide_eq_true happened, distinct, bounded⟩

end Stompman
