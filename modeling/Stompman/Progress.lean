import Stompman.Cancellation
import Stompman.Handlers

/-!
# No task is stuck

A task of the client awaits the end of an operation, the reconnect lock or a permit of the
semaphore.  Operations end by themselves.  The lock has a holder that awaits an operation and
nothing else, and permits that are not free belong to handlers that are running or about to give
them back.  So in every state each task can go on, or waits for a task that can.
-/

namespace Stompman

open Foundation

/-- Ends of operations that are not exceptions. -/
def Reply.ordinary : Reply → Bool
  | .raised _ | .failed .. => false
  | _ => true

/-- Positions at an `await` of the library.  A transaction block, a task that is over and a handler
whose done-callback is due are at none. -/
def Point.suspended : Point → Bool
  | .absent | .finished | .raised _ | .inside _ | .handled => false
  | _ => true

/-- The operation that a task awaits can end without an exception. -/
def State.GoesOn (settings : Settings) (state : State) (task : TaskId) : Prop :=
  ∃ reply choice after, reply.ordinary = true ∧
    step settings state (.resume task reply choice) = some after

/-! ## The holder of the lock -/

namespace Shared

variable {settings : Settings} {shared before after : Shared} {task : TaskId}

/-- A race has attempts in progress. -/
def Raced (shared : Shared) : Prop :=
  ∀ reconnect, shared.reconnect = some reconnect → reconnect.phase ≠ .racing []

theorem Raced.of_reconnect (raced : before.Raced) (same : after.reconnect = before.reconnect) :
    after.Raced := by
  intro reconnect locked
  exact raced reconnect (same ▸ locked)

theorem raced_hold {reconnect : Reconnect} {phase : Phase} (running : phase ≠ .racing []) :
    (shared.hold reconnect phase).Raced := by
  intro other locked
  obtain rfl := Option.some.inj locked
  exact running

theorem raced_attempt (reconnect : Reconnect) :
    (shared.attempt settings reconnect).1.Raced := by
  unfold attempt
  split
  · split
    · exact raced_hold (by simp)
    · rename_i servers
      exact raced_hold (by simpa using servers)
  · intro other locked
    contradiction

theorem raced_resumeReconnect {reconnect : Reconnect} {reply : Reply} {pick : Option String}
    {progress : Progress Unit ConnectionId}
    (calm : ∀ connection point, reconnect.phase ≠ .entering connection point)
    (resumed : shared.resumeReconnect settings reconnect reply pick = some (after, progress)) :
    after.Raced := by
  have free : ∀ {other : Shared} {pending : List Nat}, (other.leaveRace pending).Raced := by
    intro other pending reconnect locked
    contradiction
  unfold Shared.resumeReconnect at resumed
  split at resumed
  · split at resumed
    · split at resumed
      · obtain ⟨server, -, same⟩ := Option.map_eq_some_iff.mp resumed
        obtain ⟨rfl, -⟩ := Prod.mk.inj same
        exact raced_hold (by simp)
      · contradiction
    · split at resumed
      · split at resumed
        · obtain ⟨rfl, -⟩ := Prod.mk.inj (Option.some.inj resumed)
          exact raced_hold (by simp)
        · rename_i pending
          obtain ⟨rfl, -⟩ := Prod.mk.inj (Option.some.inj resumed)
          exact raced_hold (by simpa using pending)
      · contradiction
    · split at resumed
      · obtain ⟨rfl, -⟩ := Prod.mk.inj (Option.some.inj resumed)
        exact free
      · contradiction
    · obtain ⟨rfl, -⟩ := Prod.mk.inj (Option.some.inj resumed)
      exact free
    · contradiction
  · rename_i connection point phase
    exact absurd phase (calm connection point)
  · split at resumed
    · split at resumed
      · obtain ⟨rfl, -⟩ := Prod.mk.inj (Option.some.inj resumed)
        intro reconnect locked
        contradiction
      · obtain ⟨rfl, -⟩ := Prod.mk.inj (Option.some.inj resumed)
        exact raced_hold (by simp)
    · obtain ⟨rfl, -⟩ := Prod.mk.inj (Option.some.inj resumed)
      intro reconnect locked
      contradiction
    · contradiction
  · split at resumed
    · obtain ⟨rfl, -⟩ := Prod.mk.inj (Option.some.inj resumed)
      exact raced_attempt _
    · obtain ⟨rfl, -⟩ := Prod.mk.inj (Option.some.inj resumed)
      intro reconnect locked
      contradiction
    · contradiction

/-- A handshake does not lead to a race at once. -/
theorem Raced.entering (raced : shared.Raced) {reply : Reply}
    {progress : Progress Unit ConnectionId} (busy : shared.handshake ≠ none)
    (effects : shared.Reconnects settings task reply after progress) : after.Raced := by
  have free : ∀ {other : Shared}, other.reconnect = none → other.Raced := by
    intro other unlocked reconnect locked
    rw [unlocked] at locked
    contradiction
  cases effects with
  | interrupted => exact raced
  | found => exact raced
  | races issues calm => exact absurd calm busy
  | sleeps => exact raced_hold (by simp)
  | leaves => exact free rfl
  | opens => exact raced_hold (by simp)
  | fails => exact raced_hold (by simp)
  | asks => exact raced_hold (by simp)
  | collects => exact raced_hold (by simp)
  | subscribes => exact raced_hold (by simp)
  | replays =>
      rw [replayFrame_eq]
      exact raced_hold (by simp)
  | picks =>
      rw [replayFrame_eq]
      exact raced_hold (by simp)
  | changed => exact raced_hold (by simp)
  | finishes => exact free rfl

theorem Raced.resumeConnecting (raced : shared.Raced) {reply : Reply} {pick : Option String}
    {progress : Progress Unit ConnectionId}
    (resumed : shared.resumeConnecting settings task reply pick = some (after, progress)) :
    after.Raced := by
  by_cases calm : shared.handshake = none
  · unfold Shared.resumeConnecting at resumed
    split at resumed
    · rename_i reconnect locked
      split at resumed
      · refine raced_resumeReconnect ?_ resumed
        intro connection point phase
        rw [handshake_of_phase locked phase] at calm
        contradiction
      · split at resumed
        · obtain ⟨rfl, -⟩ := Prod.mk.inj (Option.some.inj resumed)
          exact raced
        · contradiction
    · split at resumed
      · split at resumed
        · obtain ⟨rfl, -⟩ := Prod.mk.inj (Option.some.inj resumed)
          exact raced
        · obtain ⟨rfl, -⟩ := Prod.mk.inj (Option.some.inj resumed)
          exact raced_attempt _
      · obtain ⟨rfl, -⟩ := Prod.mk.inj (Option.some.inj resumed)
        exact raced
      · contradiction
  · exact raced.entering calm (reconnects_resumeConnecting resumed)

/-- What the holder of the lock awaits can end without an exception. -/
theorem exists_resumeReconnect (raced : shared.Raced) {reconnect : Reconnect}
    (locked : shared.reconnect = some reconnect) :
    ∃ reply pick result, reply.ordinary = true ∧
      shared.resumeReconnect settings reconnect reply pick = some result := by
  cases phase : reconnect.phase with
  | racing pending =>
      cases pending with
      | nil => exact absurd phase (raced reconnect locked)
      | cons server others =>
          simp only [resumeReconnect, phase]
          refine ⟨.refused server, none, ?_⟩
          by_cases last : others = [] <;> simp [Reply.ordinary, last]
  | entering connection point =>
      simp only [resumeReconnect, phase]
      cases point with
      | writingConnect server => exact ⟨.returned, none, _, rfl, rfl⟩
      | readingConnected collected => exact ⟨.timeout, none, _, rfl, rfl⟩
      | resubscribing current remaining =>
          obtain ⟨pick, result, resubscribed⟩ := exists_resubscribe settings reconnect connection
            (shared.noteWritten connection current.frame) remaining
          exact ⟨.returned, pick, result, rfl, resubscribed⟩
      | replaying walk current frame =>
          cases frame with
          | some pair => exact ⟨.returned, none, _, rfl, rfl⟩
          | none =>
              by_cases sized : shared.transactions.length = walk.size
              · obtain ⟨pick, result, next⟩ := @exists_nextTransaction settings reconnect connection
                  (shared.noteWritten connection (commitFrame current))
                  { walk with visited := walk.visited ++ [current] } sized
                exact ⟨.returned, pick, result, rfl, next⟩
              · exact ⟨.returned, none, _, rfl, if_pos sized⟩
  | closing connection outcome =>
      simp only [resumeReconnect, phase]
      cases outcome with
      | error failure => exact ⟨.returned, none, _, rfl, rfl⟩
      | ok issue => exact ⟨.returned, none, _, rfl, rfl⟩
  | sleeping =>
      simp only [resumeReconnect, phase]
      exact ⟨.returned, none, _, rfl, rfl⟩

/-- A task in `_get_active_connection_state` can go on unless another task holds the lock. -/
theorem exists_resumeConnecting (raced : shared.Raced)
    (own : ∀ reconnect, shared.reconnect = some reconnect → reconnect.owner = task) :
    ∃ reply pick result, reply.ordinary = true ∧
      shared.resumeConnecting settings task reply pick = some result := by
  cases locked : shared.reconnect with
  | some reconnect =>
      obtain ⟨reply, pick, result, ordinary, resumed⟩ :=
        @exists_resumeReconnect settings shared raced reconnect locked
      refine ⟨reply, pick, result, ordinary, ?_⟩
      simp only [Shared.resumeConnecting, locked, own reconnect locked, if_true, resumed]
  | none =>
      refine ⟨.returned, none, ?_⟩
      cases active : shared.active <;>
        simp [Shared.resumeConnecting, locked, active, Reply.ordinary]

end Shared

section Runs

variable {settings : Settings} {allowed : State → Action → Prop} {state : State} {task : TaskId}

theorem raced_of_reaches (reach : (client settings).Reaches allowed state) :
    state.shared.Raced := by
  refine @System.Reaches.invariant _ _ _ _ (fun state => state.shared.Raced) ?_ ?_ state reach
  · intro reconnect locked
    contradiction
  · intro before after action reach raced _ stepped
    cases Drives.of_step (fits_of_reaches reach) stepped with
    | apart idle beside => exact raced.of_reconnect beside.reconnect
    | opens => exact raced.of_reconnect rfl
    | waits task reply choice standing resumed => exact raced.resumeConnecting resumed
    | leaves task reply choice standing resumed ended beside =>
        exact (raced.resumeConnecting resumed).of_reconnect beside.reconnect

/-- A task inside `_get_active_connection_state` has been created. -/
theorem exists_of_connecting (reach : (client settings).Reaches allowed state)
    (standing : (state.tasks task).Connecting) : state.exists? task = true := by
  have own := (fits_of_reaches reach).tasks task
  unfold State.exists?
  split
  · rename_i generation
    refine decide_eq_true ((created_of_reaches reach generation).resolve_left ?_)
    intro waiting
    rw [waiting] at standing
    exact standing
  · rename_i generation
    generalize state.tasks (.monitor generation) = point at own standing
    cases point <;> simp_all [Point.Fits, Point.Connecting, Job.Runs, Duty.Runs]
  · rfl

theorem goesOn_of_resume (created : state.exists? task = true) {reply : Reply} {choice : Choice}
    {resumed : Resumed} (ordinary : reply.ordinary = true)
    (resumes : (state.tasks task).resume settings task reply choice state.shared = some resumed) :
    state.GoesOn settings task := by
  refine ⟨reply, choice, state.store task resumed, ordinary, ?_⟩
  simp [step, created, resumes]

/-- The lock is free, or held by a task at a `connecting` position, which goes on. -/
theorem goesOn_of_connecting (reach : (client settings).Reaches allowed state)
    (standing : (state.tasks task).Connecting)
    (own : ∀ reconnect, state.shared.reconnect = some reconnect → reconnect.owner = task) :
    state.GoesOn settings task := by
  have created := exists_of_connecting reach standing
  have fits := (fits_of_reaches reach).tasks task
  obtain ⟨reply, pick, ⟨after, progress⟩, ordinary, resumed⟩ :=
    @Shared.exists_resumeConnecting settings state.shared task (raced_of_reaches reach) own
  have resumes : ∃ result, (state.tasks task).resume settings task reply { pick := pick }
      state.shared = some result := by
    generalize state.tasks task = point at standing fits
    unfold Point.Connecting at standing
    split at standing
    · exact ⟨_, by simp only [Point.resume, resumed, Option.map_some]; rfl⟩
    · exact ⟨_, by simp only [Point.resume, WriteFrame.resume, resumed, Option.map_some]; rfl⟩
    · exact ⟨_, by simp only [Point.resume, WriteFrame.resume, resumed, Option.map_some]; rfl⟩
    · obtain ⟨transaction, rfl⟩ := fits
      exact ⟨_, by simp only [Point.resume, WriteFrame.resume, resumed, Option.map_some]; rfl⟩
    · exact ⟨_, by simp only [Point.resume, WriteFrame.resume, resumed, Option.map_some]; rfl⟩
    · exact ⟨_, by simp only [Point.resume, HeartbeatPoint.resume, resumed, Option.map_some]; rfl⟩
    · obtain rfl : task = .listener := fits
      exact ⟨_, by simp only [Point.resume, ListenerPoint.resume, resumed, Option.map_some]; rfl⟩
    · exact standing.elim
  obtain ⟨result, resumes⟩ := resumes
  exact goesOn_of_resume created ordinary resumes

theorem WriteFrame.exists_resume {writing : WriteFrame}
    (outside : ∀ left, writing ≠ .connecting left) (frame : Frame) (shared : Shared) :
    ∃ result, writing.resume settings task frame .returned none shared = some result := by
  cases writing with
  | connecting left => exact absurd rfl (outside left)
  | writing => exact ⟨_, rfl⟩
  | discarding => exact ⟨_, rfl⟩

theorem MaybeWrite.exists_resume (writing : MaybeWrite) (frame : Frame) (shared : Shared) :
    ∃ result, writing.resume frame .returned shared = some result := by
  cases writing with
  | writing => exact ⟨_, rfl⟩
  | discarding => exact ⟨_, rfl⟩

/-- Outside `_get_active_connection_state` and the semaphore, every operation can end. -/
theorem Point.exists_resume {point : Point} (fits : point.Fits task)
    (suspended : point.suspended = true) (outside : ¬ point.Connecting)
    (unbounded : ∀ delivery, point ≠ .listener (.acquiring delivery)) (shared : Shared) :
    ∃ reply resumed, reply.ordinary = true ∧
      point.resume settings task reply {} shared = some resumed := by
  have job : ∀ {writing : WriteFrame} {frame : Frame}, (∀ left, writing ≠ .connecting left) →
      ∀ {after : Shared × Progress WriteFrame Unit → Resumed}, ∃ resumed,
        (writing.resume settings task frame .returned none shared).map after = some resumed := by
    intro writing frame elsewhere after
    obtain ⟨result, resumed⟩ :=
      @WriteFrame.exists_resume settings task writing elsewhere frame shared
    exact ⟨after result, by rw [resumed]; rfl⟩
  have duty : ∀ {writing : MaybeWrite} {frame : Frame}
      {after : Shared × Progress MaybeWrite Bool → Resumed}, ∃ resumed,
        (writing.resume frame .returned shared).map after = some resumed := by
    intro writing frame after
    obtain ⟨result, resumed⟩ := writing.exists_resume frame shared
    exact ⟨after result, by rw [resumed]; rfl⟩
  cases point with
  | absent => contradiction
  | finished => contradiction
  | raised => contradiction
  | inside => contradiction
  | handled => contradiction
  | starting => exact absurd trivial outside
  | sending frame writing =>
      have elsewhere : ∀ left, writing ≠ .connecting left := by
        rintro left rfl
        exact outside trivial
      obtain ⟨resumed, resumes⟩ := job elsewhere
      exact ⟨.returned, resumed, rfl, resumes⟩
  | subscribing subscription writing =>
      have elsewhere : ∀ left, writing ≠ .connecting left := by
        rintro left rfl
        exact outside trivial
      obtain ⟨resumed, resumes⟩ := job elsewhere
      exact ⟨.returned, resumed, rfl, resumes⟩
  | beginning writing =>
      have elsewhere : ∀ left, writing ≠ .connecting left := by
        rintro left rfl
        exact outside trivial
      obtain ⟨transaction, rfl⟩ := fits
      obtain ⟨resumed, resumes⟩ := job elsewhere
      exact ⟨.returned, resumed, rfl, resumes⟩
  | transacting failed frame writing =>
      have elsewhere : ∀ left, writing ≠ .connecting left := by
        rintro left rfl
        exact outside trivial
      obtain ⟨resumed, resumes⟩ := job elsewhere
      exact ⟨.returned, resumed, rfl, resumes⟩
  | unsubscribing id writing =>
      obtain ⟨resumed, resumes⟩ := duty
      exact ⟨.returned, resumed, rfl, resumes⟩
  | aborting writing =>
      obtain ⟨transaction, rfl⟩ := fits
      obtain ⟨resumed, resumes⟩ := duty
      exact ⟨.returned, resumed, rfl, resumes⟩
  | committing writing =>
      obtain ⟨transaction, rfl⟩ := fits
      obtain ⟨resumed, resumes⟩ := duty
      exact ⟨.returned, resumed, rfl, resumes⟩
  | handling delivery => exact ⟨.returned, _, rfl, rfl⟩
  | settling delivery frame suppressed writing =>
      obtain ⟨resumed, resumes⟩ := duty
      exact ⟨.returned, resumed, rfl, resumes⟩
  | acknowledging delivery frame writing =>
      obtain ⟨resumed, resumes⟩ := duty
      exact ⟨.returned, resumed, rfl, resumes⟩
  | heartbeat point =>
      cases point with
      | connecting => exact absurd trivial outside
      | _ => exact ⟨.returned, _, rfl, rfl⟩
  | monitor point => cases point <;> exact ⟨.returned, _, rfl, rfl⟩
  | listener point =>
      cases point with
      | connecting => exact absurd trivial outside
      | reading connection epoch => exact ⟨.frame .heartbeat, _, rfl, rfl⟩
      | acquiring delivery => exact absurd rfl (unbounded delivery)
      | _ => exact ⟨.returned, _, rfl, rfl⟩

end Runs

/-! ## The semaphore -/

/-- A handler that has a permit: it goes on, or its done-callback gives the permit back. -/
def State.GivesBack (settings : Settings) (state : State) : Prop :=
  ∃ message, state.GoesOn settings (.handler message) ∨
    ∃ after, step settings state (.release message) = some after

theorem givesBack_of_reaches {settings : Settings} {allowed : State → Action → Prop} {state : State}
    {capacity : Nat} (bounded : settings.maxConcurrentHandlers = some (capacity + 1))
    (reach : (client settings).Reaches allowed state) (taken : state.shared.permits = some 0) :
    state.GivesBack settings := by
  obtain ⟨numbered, free, permits, conserved⟩ :=
    Session.served_of_reaches bounded (reaches_session reach)
  obtain rfl : 0 = free := Option.some.inj (taken.symm.trans permits)
  have occupied : 0 + (state.handlers Point.occupies).card = capacity + 1 := conserved
  have busy : 0 < (state.handlers Point.occupies).card := by omega
  obtain ⟨message, member⟩ := Finset.card_pos.mp busy
  obtain ⟨-, occupies⟩ := State.mem_handlers.mp member
  have fits := (fits_of_reaches reach).tasks (.handler message)
  refine ⟨message, ?_⟩
  by_cases handled : state.tasks (.handler message) = .handled
  · exact .inr ⟨_, by simp only [step, handled]; rfl⟩
  · left
    have running : (state.tasks (.handler message)).suspended = true ∧
        ¬ (state.tasks (.handler message)).Connecting ∧
        ∀ delivery, state.tasks (.handler message) ≠ .listener (.acquiring delivery) := by
      generalize state.tasks (.handler message) = point at occupies handled
      cases point <;> simp_all [Point.occupies, Point.unfinished, Point.unreleased,
        Point.suspended, Point.Connecting]
    obtain ⟨suspended, outside, unbounded⟩ := running
    obtain ⟨reply, resumed, ordinary, resumes⟩ :=
      @Point.exists_resume settings _ _ fits suspended outside unbounded state.shared
    exact goesOn_of_resume rfl ordinary resumes

/-! ## Runs -/

/-- There is a semaphore if one is asked for, and without one the listener waits for no permit. -/
structure State.Permitted (settings : Settings) (state : State) : Prop where
  asked : state.shared.permits.isSome = settings.maxConcurrentHandlers.isSome
  waits : ∀ delivery, state.tasks .listener = .listener (.acquiring delivery) →
    state.shared.permits ≠ none

namespace State.Permitted

variable {settings : Settings} {state after : State}

theorem keeps (permitted : state.Permitted settings)
    (permits : after.shared.permits = state.shared.permits)
    (listener : ∀ delivery, after.tasks .listener = .listener (.acquiring delivery) →
      state.tasks .listener = .listener (.acquiring delivery)) : after.Permitted settings := by
  refine ⟨by rw [permits]; exact permitted.asked, ?_⟩
  intro delivery acquiring
  rw [permits]
  exact permitted.waits delivery (listener delivery acquiring)

/-- The listener takes a frame. -/
theorem resumes {point : ListenerPoint} {frame : AnyFrame} {choice : Choice} {shared : Shared}
    {resumed : Resumed} {delivery : Delivery}
    (resumes : point.resume settings (.frame frame) choice shared = some resumed)
    (acquiring : resumed.point = .listener (.acquiring delivery)) : shared.permits ≠ none := by
  cases Cycles.listener resumes with
  | waits _ inside =>
      obtain rfl := Point.listener.inj acquiring
      exact inside.elim
  | leaves _ _ _ _ tends => exact absurd acquiring (tends.unready delivery)
  | tends _ _ tends => exact absurd acquiring (tends.unready delivery)
  | takes own connection epoch frame replied dispatches =>
      cases dispatches with
      | passes => simp at acquiring
      | misses => simp at acquiring
      | acquires message isMessage id named subscription registered bounded => exact bounded
      | creates => simp [ListenerPoint.createHandler] at acquiring
  | creates own delivery free returned => contradiction
  | stops own delivery failure raised => contradiction

theorem step (permitted : state.Permitted settings) (fits : state.Fits) {action : Action}
    (stepped : Stompman.step settings state action = some after) : after.Permitted settings := by
  cases Serves.of_step fits stepped with
  | aside unattended acts handlers listener => exact permitted.keeps unattended.permits listener
  | takes frame choice unattended handlers listener =>
      refine ⟨by rw [unattended.permits]; exact permitted.asked, ?_⟩
      intro delivery acquiring
      have permits : after.shared.permits = state.shared.permits := unattended.permits
      rw [permits]
      rcases store_of_step stepped with same | ⟨task, reply, choice, resumed, same, resumes, rfl⟩ |
        ⟨task, resumed, named, other, -⟩
      · rw [same] at acquiring
        exact permitted.waits delivery acquiring
      · obtain ⟨rfl, rfl, rfl⟩ := Action.resume.inj same
        obtain ⟨point, standing⟩ := fits.listening resumes
        rw [standing] at resumes
        refine @State.Permitted.resumes settings point _ _ _ _ delivery resumes ?_
        obtain ⟨-, spawns⟩ := listens_of_resume resumes
        unfold State.store at acquiring
        cases spawned : resumed.spawned with
        | none => simpa [spawned] using acquiring
        | some pair =>
            obtain ⟨number, handler⟩ := spawns pair.1 pair.2 spawned
            simpa [spawned, handler] using acquiring
      · exact absurd (Option.some.inj named).symm other
  | delivers choice delivery numbered unbounded =>
      refine ⟨permitted.asked, ?_⟩
      intro other acquiring
      simp [State.store, ListenerPoint.createHandler] at acquiring
  | creates choice delivery standing free bounded =>
      refine ⟨?_, ?_⟩
      · rw [← permitted.asked, bounded]
        rfl
      · intro other acquiring
        simp [State.store, ListenerPoint.createHandler] at acquiring
  | runs number reply choice resumes =>
      obtain ⟨delivery, running, retains⟩ := Retains.resume (fits.tasks _) resumes
      refine permitted.keeps retains.permits ?_
      intro other acquiring
      simpa [State.store, retains.unspawned] using acquiring
  | releases number handled =>
      refine ⟨by simpa [State.store] using permitted.asked, ?_⟩
      intro delivery acquiring
      have standing : state.tasks .listener = .listener (.acquiring delivery) := by
        simpa [State.store] using acquiring
      simpa [State.store] using permitted.waits delivery standing

end State.Permitted

theorem permitted_of_reaches {settings : Settings} {allowed : State → Action → Prop} {state : State}
    (reach : (client settings).Reaches allowed state) : state.Permitted settings := by
  refine @System.Reaches.invariant _ _ _ _ (State.Permitted settings) ?_ ?_ state reach
  · exact ⟨rfl, fun delivery acquiring => by contradiction⟩
  · intro before after action reach permitted _ stepped
    exact permitted.step (fits_of_reaches reach) stepped

/-- A listener that waits for a permit gets it, or every permit belongs to a handler. -/
theorem acquires_of_reaches {settings : Settings} {allowed : State → Action → Prop} {state : State}
    (bounded : settings.maxConcurrentHandlers ≠ some 0)
    (reach : (client settings).Reaches allowed state) {delivery : Delivery}
    (standing : state.tasks .listener = .listener (.acquiring delivery)) :
    state.GoesOn settings .listener ∨
      state.shared.permits = some 0 ∧ state.GivesBack settings := by
  obtain ⟨asked, waits⟩ := permitted_of_reaches reach
  cases permits : state.shared.permits with
  | none => exact absurd permits (waits delivery standing)
  | some free =>
      rw [permits] at asked
      cases free with
      | succ free =>
          left
          have resumes : (state.tasks .listener).resume settings .listener .returned {}
              state.shared = some (ListenerPoint.createHandler delivery
                { state.shared with permits := some free }) := by
            simp [standing, Point.resume, ListenerPoint.resume, permits]
          exact goesOn_of_resume rfl rfl resumes
      | zero =>
          right
          refine ⟨rfl, ?_⟩
          cases limit : settings.maxConcurrentHandlers with
          | none => simp [limit] at asked
          | some capacity =>
              cases capacity with
              | zero => exact absurd limit bounded
              | succ capacity => exact givesBack_of_reaches limit reach permits

/-- In every state of every run, each task at an `await` can go on, or it waits for the lock and the
holder of the lock can go on, or it is the listener, all permits are taken and one of the handlers
that have them can go on or give its permit back.  A semaphore without permits is excluded: it would
never let the listener pass. -/
theorem goesOn_of_reachable {settings : Settings} {state : State}
    (bounded : settings.maxConcurrentHandlers ≠ some 0)
    (reach : (client settings).Reachable state) {task : TaskId}
    (created : state.exists? task = true) (suspended : (state.tasks task).suspended = true) :
    state.GoesOn settings task ∨
      (∃ reconnect, state.shared.reconnect = some reconnect ∧ reconnect.owner ≠ task ∧
        (state.tasks task).Connecting ∧ state.GoesOn settings reconnect.owner) ∨
      (∃ delivery, state.tasks task = .listener (.acquiring delivery)) ∧
        state.shared.permits = some 0 ∧ state.GivesBack settings := by
  by_cases connecting : (state.tasks task).Connecting
  · by_cases foreign : ∃ reconnect, state.shared.reconnect = some reconnect ∧
        reconnect.owner ≠ task
    · obtain ⟨reconnect, locked, other⟩ := foreign
      have inside := (guarded_of_reaches reach).owner reconnect locked
      refine .inr (.inl ⟨reconnect, locked, other, connecting,
        goesOn_of_connecting reach inside ?_⟩)
      intro holder held
      rw [Option.some.inj (held.symm.trans locked)]
    · left
      refine goesOn_of_connecting reach connecting fun reconnect locked => ?_
      by_contra other
      exact foreign ⟨reconnect, locked, other⟩
  · by_cases acquiring : ∃ delivery, state.tasks task = .listener (.acquiring delivery)
    · obtain ⟨delivery, standing⟩ := acquiring
      have fits := (fits_of_reaches reach).tasks task
      rw [standing] at fits
      obtain rfl : task = .listener := fits
      rcases acquires_of_reaches bounded reach standing with goesOn | ⟨taken, givesBack⟩
      · exact .inl goesOn
      · exact .inr (.inr ⟨⟨delivery, standing⟩, taken, givesBack⟩)
    · obtain ⟨reply, resumed, ordinary, resumes⟩ := @Point.exists_resume settings task _
        ((fits_of_reaches reach).tasks task) suspended connecting (not_exists.mp acquiring)
        state.shared
      exact .inl (goesOn_of_resume created ordinary resumes)

/-- A sender whose connection is lost takes the lock, another one waits for it, and the listener
waits for a permit. -/
def waitsForAll : List Action :=
  receivesThrice ++ [.send 0 { body := [], destination := "/queue" },
    raises (.call 0) .connectionLost, returns (.call 0), returns (.call 0),
    .send 1 { body := [], destination := "/queue" }]

theorem goesOn_of_reachable_waitsForAll :
    ∃ state, (client boundedSettings).Reachable state ∧
      (state.shared.reconnect.map Reconnect.owner = some (.call 0) ∧
        state.exists? (.call 1) = true ∧ (state.tasks (.call 1)).suspended = true ∧
        state.exists? .listener = true ∧ (state.tasks .listener).suspended = true) ∧
      ∀ task, task = .call 1 ∨ task = .listener →
        state.GoesOn boundedSettings task ∨
          (∃ reconnect, state.shared.reconnect = some reconnect ∧ reconnect.owner ≠ task ∧
            (state.tasks task).Connecting ∧ state.GoesOn boundedSettings reconnect.owner) ∨
          (∃ delivery, state.tasks task = .listener (.acquiring delivery)) ∧
            state.shared.permits = some 0 ∧ state.GivesBack boundedSettings := by
  have replayed : ((client boundedSettings).replay (fun _ _ => true)
      (client boundedSettings).initial waitsForAll).map (fun state =>
        decide (state.shared.reconnect.map Reconnect.owner = some (.call 0) ∧
          state.exists? (.call 1) = true ∧ (state.tasks (.call 1)).suspended = true ∧
          state.exists? .listener = true ∧ (state.tasks .listener).suspended = true)) =
        some true := by
    decide +kernel
  obtain ⟨state, reach, happened⟩ := System.exists_of_replay (fun _ _ _ => trivial) replayed
  obtain ⟨owner, created, suspended, listening, waiting⟩ := of_decide_eq_true happened
  refine ⟨state, reach, ⟨owner, created, suspended, listening, waiting⟩, ?_⟩
  rintro task (rfl | rfl)
  · exact goesOn_of_reachable (by decide) reach created suspended
  · exact goesOn_of_reachable (by decide) reach listening waiting

end Stompman
