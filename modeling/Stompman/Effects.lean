import Stompman.Reconnection

/-!
# Effects of writes and of storing a task

The effects of `write_frame_reconnecting` and `maybe_write_frame` from one `await` to the next, and
how a property of all tasks passes through a step.
-/

namespace Stompman

open Foundation

/-- The effects of the head of the loop of `write_frame_reconnecting`. -/
inductive Attempts (frame : Frame) (shared : Shared) :
    Shared → Progress WriteFrame Unit → Prop
  | exhausted : Attempts frame shared shared (.raised .failedAllWriteAttempts)
  | hands (left : Nat) (connection : ConnectionId) (active : shared.active = some connection) :
      Attempts frame shared (shared.hand connection frame) (.suspended (.writing left connection))
  | awaits (left : Nat) (inactive : shared.active = none) :
      Attempts frame shared shared (.suspended (.connecting left))

/-- The effects of one resumption of `write_frame_reconnecting`. -/
inductive Writes (settings : Settings) (task : TaskId) (frame : Frame) (shared : Shared)
    (reply : Reply) : WriteFrame → Shared → Progress WriteFrame Unit → Prop
  | waits {after : Shared} (left : Nat)
      (reconnects : shared.Reconnects settings task reply after (.suspended ())) :
      Writes settings task frame shared reply (.connecting left) after
        (.suspended (.connecting left))
  | connects {after : Shared} (left : Nat) (connection : ConnectionId)
      (reconnects : shared.Reconnects settings task reply after (.returned connection)) :
      Writes settings task frame shared reply (.connecting left) (after.hand connection frame)
        (.suspended (.writing left connection))
  | disconnected {after : Shared} (left : Nat) (failure : Failure)
      (reconnects : shared.Reconnects settings task reply after (.raised failure)) :
      Writes settings task frame shared reply (.connecting left) after (.raised failure)
  | writes (left : Nat) (connection : ConnectionId) (returned : reply = .returned) :
      Writes settings task frame shared reply (.writing left connection)
        (shared.noteWritten connection frame) (.returned ())
  | loses (left : Nat) (connection : ConnectionId) (active : shared.active = some connection) :
      Writes settings task frame shared reply (.writing left connection)
        (shared.discard connection) (.suspended (.discarding left connection))
  | outlived {after : Shared} {progress : Progress WriteFrame Unit} (left : Nat)
      (connection : ConnectionId) (inactive : shared.active ≠ some connection)
      (attempts : Attempts frame shared after progress) :
      Writes settings task frame shared reply (.writing left connection) after progress
  | retries {after : Shared} {progress : Progress WriteFrame Unit} (left : Nat)
      (connection : ConnectionId) (attempts : Attempts frame shared after progress) :
      Writes settings task frame shared reply (.discarding left connection) after progress
  | fails (point : WriteFrame) (failure : Failure) :
      Writes settings task frame shared reply point shared (.raised failure)

/-- The effects of one resumption of `maybe_write_frame`. -/
inductive MaybeWrites (frame : Frame) (shared : Shared) :
    MaybeWrite → Shared → Progress MaybeWrite Bool → Prop
  | writes (connection : ConnectionId) :
      MaybeWrites frame shared (.writing connection) (shared.noteWritten connection frame)
        (.returned true)
  | loses (connection : ConnectionId) (active : shared.active = some connection) :
      MaybeWrites frame shared (.writing connection) (shared.discard connection)
        (.suspended (.discarding connection))
  | outlived (connection : ConnectionId) (inactive : shared.active ≠ some connection) :
      MaybeWrites frame shared (.writing connection) shared (.returned false)
  | closes (connection : ConnectionId) :
      MaybeWrites frame shared (.discarding connection) shared (.returned false)
  | fails (point : MaybeWrite) (failure : Failure) :
      MaybeWrites frame shared point shared (.raised failure)

/-- The effects of `maybe_write_frame` up to its first `await`. -/
inductive MaybeStarts (frame : Frame) (shared : Shared) :
    Shared → Progress MaybeWrite Bool → Prop
  | drops (inactive : shared.active = none) : MaybeStarts frame shared shared (.returned false)
  | hands (connection : ConnectionId) (active : shared.active = some connection) :
      MaybeStarts frame shared (shared.hand connection frame) (.suspended (.writing connection))

theorem attempts_effects (frame : Frame) (shared : Shared) (count : Nat) :
    Attempts frame shared (WriteFrame.attempts frame shared count).1
      (WriteFrame.attempts frame shared count).2 := by
  cases count with
  | zero => exact .exhausted
  | succ left =>
      cases active : shared.active with
      | none =>
          simp only [WriteFrame.attempts, active]
          exact .awaits left active
      | some connection =>
          simp only [WriteFrame.attempts, active]
          exact .hands left connection active

theorem start_effects (settings : Settings) (frame : Frame) (shared : Shared) :
    Attempts frame shared (WriteFrame.start settings frame shared).1
      (WriteFrame.start settings frame shared).2 :=
  attempts_effects _ _ _

theorem resume_effects {settings : Settings} {task : TaskId} {frame : Frame} {shared : Shared}
    {point : WriteFrame} {reply : Reply} {pick : Option String}
    {result : Shared × Progress WriteFrame Unit}
    (resumed : point.resume settings task frame reply pick shared = some result) :
    Writes settings task frame shared reply point result.1 result.2 := by
  unfold WriteFrame.resume at resumed
  split at resumed
  · rename_i left
    obtain ⟨⟨after, progress⟩, connecting, rfl⟩ := Option.map_eq_some_iff.mp resumed
    have reconnects := Shared.reconnects_resumeConnecting connecting
    cases progress with
    | suspended => exact .waits left reconnects
    | returned connection => exact .connects left connection reconnects
    | raised failure => exact .disconnected left failure reconnects
  · rename_i left connection
    split at resumed
    · obtain rfl := Option.some.inj resumed
      exact .writes left connection rfl
    · split at resumed
      · rename_i active
        obtain rfl := Option.some.inj resumed
        exact .loses left connection active
      · rename_i inactive
        obtain rfl := Option.some.inj resumed
        exact .outlived left connection inactive (attempts_effects _ _ _)
    · obtain rfl := Option.some.inj resumed
      exact .fails _ _
    · contradiction
  · rename_i left connection
    split at resumed
    · obtain rfl := Option.some.inj resumed
      exact .retries left connection (attempts_effects _ _ _)
    · obtain rfl := Option.some.inj resumed
      exact .fails _ _
    · contradiction

theorem maybeStart_effects (frame : Frame) (shared : Shared) :
    MaybeStarts frame shared (MaybeWrite.start frame shared).1
      (MaybeWrite.start frame shared).2 := by
  unfold MaybeWrite.start
  split
  · rename_i inactive
    exact .drops inactive
  · rename_i connection active
    exact .hands connection active

theorem maybeResume_effects {frame : Frame} {shared : Shared} {point : MaybeWrite} {reply : Reply}
    {result : Shared × Progress MaybeWrite Bool}
    (resumed : point.resume frame reply shared = some result) :
    MaybeWrites frame shared point result.1 result.2 := by
  unfold MaybeWrite.resume at resumed
  split at resumed
  · rename_i connection
    split at resumed
    · obtain rfl := Option.some.inj resumed
      exact .writes connection
    · split at resumed
      · rename_i active
        obtain rfl := Option.some.inj resumed
        exact .loses connection active
      · rename_i inactive
        obtain rfl := Option.some.inj resumed
        exact .outlived connection inactive
    · obtain rfl := Option.some.inj resumed
      exact .fails _ _
    · contradiction
  · rename_i connection
    split at resumed
    · obtain rfl := Option.some.inj resumed
      exact .closes connection
    · obtain rfl := Option.some.inj resumed
      exact .fails _ _
    · contradiction

/-- The replies at which `maybe_write_frame` returns. -/
theorem MaybeWrite.reply_of_returned {frame : Frame} {shared after : Shared} {point : MaybeWrite}
    {reply : Reply} {written : Bool}
    (resumed : point.resume frame reply shared = some (after, .returned written)) :
    reply = .returned ∨
      written = false ∧ reply = .raised .connectionLost ∧
        ∃ connection, point = .writing connection := by
  unfold MaybeWrite.resume at resumed
  split at resumed
  · rename_i connection
    split at resumed
    · exact .inl rfl
    · split at resumed
      · simp at resumed
      · simp only [Option.some.injEq, Prod.mk.injEq, Progress.returned.injEq] at resumed
        exact .inr ⟨resumed.2.symm, rfl, connection, rfl⟩
    · simp at resumed
    · contradiction
  · split at resumed
    · exact .inl rfl
    · simp at resumed
    · contradiction

/-- The effects of `_ack` and `_nack` up to their first `await`. -/
inductive SettleStarts (delivery : Delivery) (type : FrameType) (shared : Shared) :
    Shared → Frame → Progress MaybeWrite Bool → Prop
  | refuses (frame : Frame) (progress : Progress MaybeWrite Bool)
      (ended : ∀ point, progress ≠ .suspended point) :
      SettleStarts delivery type shared shared frame progress
  | hands (ackId : String) (acked : delivery.message.headers.get? "ack" = some ackId)
      (registered : shared.subscriptions.containsById delivery.subscription.id = true)
      (unchanged : delivery.receivedAtReconnectionCount = shared.reconnectionCount)
      (connection : ConnectionId) (active : shared.active = some connection) :
      SettleStarts delivery type shared
        ((shared.hand connection (settleFrame type ackId delivery.subscription.id)).emit
          (.acknowledged delivery.number connection
            (settleFrame type ackId delivery.subscription.id)))
        (settleFrame type ackId delivery.subscription.id) (.suspended (.writing connection))

theorem settle_effects (delivery : Delivery) (type : FrameType) (shared : Shared) :
    SettleStarts delivery type shared (settle delivery type shared).1
      (settle delivery type shared).2.1 (settle delivery type shared).2.2 := by
  have refuses : ∀ frame, SettleStarts delivery type shared shared frame
      (if delivery.message.headers.contains "message-id" then .returned false
        else .raised .keyError) := by
    intro frame
    apply SettleStarts.refuses
    intro point
    split <;> simp
  unfold settle
  simp only
  split
  · exact refuses _
  · rename_i registered
    split
    · exact refuses _
    · rename_i filled
      split
      · exact refuses _
      · rename_i unchanged
        rw [not_not] at unchanged
        cases active : shared.active with
        | none => exact .refuses _ _ (by simp)
        | some connection =>
            cases acked : delivery.message.headers.get? "ack" with
            | none => simp [acked] at filled
            | some ackId =>
                exact .hands ackId acked (by simpa using registered) unchanged connection active

/-! ## Relations that writes keep to -/

/-- A relation between the shared states before and after a write of a frame of some kind, by what
such a write is made of. -/
structure Admits (kind : Frame → Prop) (relation : Shared → Shared → Prop) : Prop where
  refl : ∀ shared, relation shared shared
  trans : ∀ {before middle after}, relation before middle → relation middle after →
    relation before after
  hand : ∀ shared connection {frame}, kind frame → relation shared (shared.hand connection frame)
  noteWritten : ∀ shared connection frame, relation shared (shared.noteWritten connection frame)
  discard : ∀ shared connection, shared.active = some connection →
    relation shared (shared.discard connection)

namespace Admits

variable {kind : Frame → Prop} {relation : Shared → Shared → Prop} {shared after : Shared}
  {frame : Frame}

theorem attempts (admits : Admits kind relation) (fits : kind frame)
    {progress : Progress WriteFrame Unit} (effects : Attempts frame shared after progress) :
    relation shared after := by
  cases effects with
  | exhausted => exact admits.refl _
  | hands left connection => exact admits.hand _ _ fits
  | awaits => exact admits.refl _

/-- `_get_active_connection_state` is the only part of a write that the relation has to bear as a
whole. -/
theorem writes (admits : Admits kind relation) (fits : kind frame) {settings : Settings}
    {task : TaskId} {reply : Reply} {point : WriteFrame} {progress : Progress WriteFrame Unit}
    (reconnects : ∀ {connected : Shared} {reached : Progress Unit ConnectionId},
      shared.Reconnects settings task reply connected reached → relation shared connected)
    (effects : Writes settings task frame shared reply point after progress) :
    relation shared after := by
  cases effects with
  | waits left effects => exact reconnects effects
  | connects left connection effects =>
      exact admits.trans (reconnects effects) (admits.hand _ _ fits)
  | disconnected left failure effects => exact reconnects effects
  | writes left connection => exact admits.noteWritten _ _ _
  | loses left connection active => exact admits.discard _ _ active
  | outlived left connection inactive effects => exact admits.attempts fits effects
  | retries left connection effects => exact admits.attempts fits effects
  | fails => exact admits.refl _

theorem maybeStarts (admits : Admits kind relation) (fits : kind frame)
    {progress : Progress MaybeWrite Bool} (effects : MaybeStarts frame shared after progress) :
    relation shared after := by
  cases effects with
  | drops => exact admits.refl _
  | hands connection => exact admits.hand _ _ fits

theorem maybeWrites (admits : Admits kind relation) {point : MaybeWrite}
    {progress : Progress MaybeWrite Bool}
    (effects : MaybeWrites frame shared point after progress) : relation shared after := by
  cases effects with
  | writes connection => exact admits.noteWritten _ _ _
  | loses connection active => exact admits.discard _ _ active
  | outlived => exact admits.refl _
  | closes => exact admits.refl _
  | fails => exact admits.refl _

end Admits

/-! ## Storing a task -/

namespace State

theorem shared_store (state : State) (task : TaskId) (resumed : Resumed) :
    (state.store task resumed).shared = resumed.shared := rfl

/-- A property of all tasks passes to the new state if the resumed and the created task have it. -/
theorem forall_tasks_store {state : State} {task : TaskId} {resumed : Resumed}
    (property : TaskId → Point → Prop)
    (others : ∀ other, other ≠ task → property other (state.tasks other))
    (own : property task resumed.point)
    (created : ∀ other point, resumed.spawned = some (other, point) → property other point) :
    ∀ other, property other ((state.store task resumed).tasks other) := by
  have updated : ∀ other,
      property other (Function.update state.tasks task resumed.point other) := by
    intro other
    by_cases same : other = task
    · subst same
      simpa using own
    · simpa [same] using others other same
  intro other
  unfold store
  cases spawned : resumed.spawned with
  | none => exact updated other
  | some pair =>
      obtain ⟨child, point⟩ := pair
      by_cases same : other = child
      · subst same
        simpa using created other point spawned
      · simpa [same] using updated other

theorem store_unchanged (state : State) (task : TaskId) (shared : Shared) :
    state.store task { shared, point := state.tasks task } = { state with shared } := by
  simp [store]

theorem call_eq_some {state after : State} {task : TaskId} {resumed : Resumed}
    (called : state.call task resumed = some after) :
    state.tasks task = .absent ∧ after = state.store task resumed := by
  unfold call at called
  split at called
  · rename_i absent
    split at called
    · exact ⟨absent, (Option.some.inj called).symm⟩
    · contradiction
  · contradiction

end State

/-! ## Removing a transaction -/

section Removal

variable (id : String) (shared : Shared)

@[simp] theorem trace_removeTransaction :
    (removeTransaction id shared).shared.trace = shared.trace := by
  unfold removeTransaction
  split <;> rfl

@[simp] theorem reconnect_removeTransaction :
    (removeTransaction id shared).shared.reconnect = shared.reconnect := by
  unfold removeTransaction
  split <;> rfl

@[simp] theorem spawned_removeTransaction : (removeTransaction id shared).spawned = none := by
  unfold removeTransaction
  split <;> rfl

theorem point_removeTransaction :
    (removeTransaction id shared).point = .finished ∨
      (removeTransaction id shared).point = .raised .keyError := by
  unfold removeTransaction
  split
  · exact .inl rfl
  · exact .inr rfl

end Removal

/-! ## Steps -/

/-- What a step of the client does, and when it can be taken. -/
inductive Steps (settings : Settings) (state : State) : Action → State → Prop
  | enter (absent : state.tasks .starter = .absent) :
      Steps settings state .enter
        (state.store .starter { shared := state.shared, point := .starting })
  | send (number : Nat) (arguments : SendArguments)
      (absent : state.tasks (.call number) = .absent) :
      Steps settings state (.send number arguments)
        (state.store (.call number) (sent (sendFrame arguments none)
          (WriteFrame.start settings (sendFrame arguments none) state.shared)))
  | subscribe (subscription : Subscription)
      (absent : state.tasks (.subscribe subscription.id) = .absent) :
      Steps settings state (.subscribe subscription)
        (state.store (.subscribe subscription.id) (subscribed subscription
          (WriteFrame.start settings subscription.frame state.shared)))
  | unsubscribe (number : Nat) (id : String) (subscribed : state.tasks (.subscribe id) = .finished)
      (absent : state.tasks (.call number) = .absent) :
      Steps settings state (.unsubscribe number id)
        (state.store (.call number) (unsubscribed id (MaybeWrite.start (unsubscribeFrame id)
          { state.shared.emit (.unsubscribing id) with
            subscriptions := state.shared.subscriptions.deleteById id })))
  | begin (id : String) (absent : state.tasks (.transaction id) = .absent) :
      Steps settings state (.begin id)
        (state.store (.transaction id)
          (begun id (WriteFrame.start settings (beginFrame id) state.shared)))
  | transactionSend (id : String) (arguments : SendArguments) (failed : Bool)
      (inside : state.tasks (.transaction id) = .inside failed) :
      Steps settings state (.transactionSend id arguments)
        (state.store (.transaction id) (transacted failed (sendFrame arguments (some id))
          (WriteFrame.start settings (sendFrame arguments (some id))
            (state.shared.appendSent id (sendFrame arguments (some id))))))
  | commit (id : String) (failed : Bool) (inside : state.tasks (.transaction id) = .inside failed) :
      Steps settings state (.exit id true)
        (state.store (.transaction id)
          (committed id (MaybeWrite.start (commitFrame id) (state.shared.emit (.exited id true)))))
  | abort (id : String) (failed : Bool) (inside : state.tasks (.transaction id) = .inside failed) :
      Steps settings state (.exit id false)
        (state.store (.transaction id)
          (aborted id (MaybeWrite.start (abortFrame id) (state.shared.emit (.exited id false)))))
  | acknowledge (number index : Nat) (type : FrameType) (delivery : Delivery)
      (found : state.shared.deliveries[index]? = some delivery)
      (settles : type = .ack ∨ type = .nack) (absent : state.tasks (.call number) = .absent) :
      Steps settings state (.acknowledge number index type)
        (state.store (.call number) (acknowledged delivery (settle delivery type state.shared).2.1
          ((settle delivery type state.shared).1, (settle delivery type state.shared).2.2)))
  | resume (task : TaskId) (reply : Reply) (choice : Choice) (created : state.exists? task = true)
      {resumed : Resumed}
      (resumes : (state.tasks task).resume settings task reply choice state.shared =
        some resumed) :
      Steps settings state (.resume task reply choice) (state.store task resumed)
  | opens (server : Nat) (abandoned : server ∈ state.shared.abandoned) :
      Steps settings state (.abandonedConnect server true)
        { state with
          shared :=
            { state.shared.emit (.opened state.shared.connections) with
              abandoned := state.shared.abandoned.erase server
              connections := state.shared.connections + 1 } }
  | refuses (server : Nat) (abandoned : server ∈ state.shared.abandoned) :
      Steps settings state (.abandonedConnect server false)
        { state with
          shared := { state.shared with abandoned := state.shared.abandoned.erase server } }
  | release (message : Nat) (handled : state.tasks (.handler message) = .handled) :
      Steps settings state (.release message)
        (state.store (.handler message)
          { shared := { state.shared with permits := state.shared.permits.map (· + 1) }
            point := .finished })

theorem steps_of_step {settings : Settings} {state after : State} {action : Action}
    (stepped : step settings state action = some after) : Steps settings state action after := by
  cases action with
  | enter =>
      simp only [step] at stepped
      split at stepped
      · rename_i absent
        obtain rfl := Option.some.inj stepped
        exact .enter absent
      · contradiction
  | send number arguments =>
      obtain ⟨absent, rfl⟩ := State.call_eq_some stepped
      exact .send number arguments absent
  | subscribe subscription =>
      obtain ⟨absent, rfl⟩ := State.call_eq_some stepped
      exact .subscribe subscription absent
  | unsubscribe number id =>
      simp only [step] at stepped
      split at stepped
      · rename_i subscribed
        obtain ⟨absent, rfl⟩ := State.call_eq_some stepped
        exact .unsubscribe number id subscribed absent
      · contradiction
  | begin id =>
      obtain ⟨absent, rfl⟩ := State.call_eq_some stepped
      exact .begin id absent
  | transactionSend id arguments =>
      simp only [step] at stepped
      split at stepped
      · rename_i failed inside
        obtain rfl := Option.some.inj stepped
        exact .transactionSend id arguments failed inside
      · contradiction
  | exit id ok =>
      simp only [step] at stepped
      split at stepped
      · rename_i failed inside
        obtain rfl := Option.some.inj stepped
        cases ok with
        | true => exact .commit id failed inside
        | false => exact .abort id failed inside
      · contradiction
  | acknowledge number index type =>
      simp only [step] at stepped
      split at stepped
      · rename_i delivery found
        split at stepped
        · rename_i settles
          obtain ⟨absent, rfl⟩ := State.call_eq_some stepped
          exact .acknowledge number index type delivery found settles absent
        · contradiction
      · contradiction
  | resume task reply choice =>
      simp only [step] at stepped
      split at stepped
      · rename_i created
        obtain ⟨resumed, resumes, rfl⟩ := Option.map_eq_some_iff.mp stepped
        exact .resume task reply choice created resumes
      · contradiction
  | abandonedConnect server connected =>
      simp only [step] at stepped
      split at stepped
      · rename_i abandoned
        obtain rfl := Option.some.inj stepped
        cases connected with
        | true => exact .opens server abandoned
        | false => exact .refuses server abandoned
      · contradiction
  | release message =>
      simp only [step] at stepped
      split at stepped
      · rename_i handled
        obtain rfl := Option.some.inj stepped
        exact .release message handled
      · contradiction

end Stompman
