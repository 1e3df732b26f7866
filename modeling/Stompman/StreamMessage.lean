import Stompman.Outcomes

/-!
# Settling a FastStream message

`StompStreamMessage` guards `ack`, `nack` and `reject` by `committed`.  The flag is tested before
the frame is written and set when it has been written, so a call that comes in between finds the
message uncommitted.

Calls may be made by several tasks.  Other tasks of the client may change the shared state between
any two steps of these calls, in any way.
-/

namespace Stompman

open Foundation

/-- The methods of `StompStreamMessage` that settle a message. -/
inductive SettleMethod
  | ack
  | nack
  | reject
  deriving DecidableEq

/-- The frame that a method asks for: `reject` is `nack` to the server. -/
def SettleMethod.type : SettleMethod → FrameType
  | .ack => .ack
  | .nack | .reject => .nack

/-- Where a call of such a method stands. -/
inductive SettleCall
  | absent
  /-- `raw_message.ack()` or `raw_message.nack()`. -/
  | settling (method : SettleMethod) (frame : Frame) (point : MaybeWrite)
  | finished
  | raised (failure : Failure)

/-- A `StompStreamMessage` with the calls of its methods. -/
structure StreamMessage where
  /-- `raw_message`. -/
  delivery : Delivery
  shared : Shared
  /-- `committed`, with the method that set it. -/
  committed : Option SettleMethod := none
  calls : Nat → SettleCall := fun _ => .absent
  /-- The methods that were called, in order. -/
  called : List SettleMethod := []
  /-- The frames that the calls handed to the active connection, in order. -/
  passed : List Frame := []

/-- Calls, ends of awaited operations, and steps of other tasks. -/
inductive StreamAction
  | call (number : Nat) (method : SettleMethod)
  | resume (number : Nat) (reply : Reply)
  | elsewhere (shared : Shared)

namespace StreamMessage

/-- `StreamMessage.ack`, `nack` and `reject` of FastStream, with which a call ends. -/
def commits (message : StreamMessage) (number : Nat) (method : SettleMethod) : StreamMessage :=
  { message with
    committed := message.committed.or (some method)
    calls := Function.update message.calls number .finished }

/-- A call goes on with the progress of `_ack` or `_nack`. -/
def proceeds (message : StreamMessage) (number : Nat) (method : SettleMethod) (frame : Frame) :
    Progress MaybeWrite Bool → StreamMessage
  | .suspended point =>
      { message with
        calls := Function.update message.calls number (.settling method frame point) }
  | .returned _ => message.commits number method
  | .raised failure =>
      { message with calls := Function.update message.calls number (.raised failure) }

/-- `StompStreamMessage.ack`, `nack` and `reject` up to their first `await`. -/
def call (message : StreamMessage) (number : Nat) (method : SettleMethod) : StreamMessage :=
  let message := { message with called := message.called ++ [method] }
  if message.committed.isSome then message.commits number method
  else
    let (shared, frame, progress) := settle message.delivery method.type message.shared
    proceeds
      { message with
        shared
        passed := message.passed ++ (message.shared.handedIn shared).map Prod.snd }
      number method frame progress

/-- One step. -/
def step (message : StreamMessage) : StreamAction → Option StreamMessage
  | .call number method =>
      match message.calls number with
      | .absent => some (message.call number method)
      | _ => none
  | .resume number reply =>
      match message.calls number with
      | .settling method frame point =>
          (point.resume frame reply message.shared).map fun (shared, progress) =>
            proceeds { message with shared } number method frame progress
      | _ => none
  | .elsewhere shared => some { message with shared }

/-- The calls on one message, as a transition system. -/
def system (delivery : Delivery) (shared : Shared) : System StreamMessage StreamAction where
  initial := { delivery, shared }
  step := step

/-- The subscription and the connection of the message are active. -/
def available (message : StreamMessage) : Bool :=
  message.shared.subscriptions.containsById message.delivery.subscription.id &&
    message.delivery.receivedAtReconnectionCount = message.shared.reconnectionCount &&
    message.shared.active.isSome

/-- At most one frame is passed to the active connection, and it is the one that the first call asks
for. -/
def SettledOnce (message : StreamMessage) : Prop :=
  message.passed.length ≤ 1 ∧
    ∀ frame ∈ message.passed, (message.called.head?.map SettleMethod.type) = some frame.type

/-- The `ack` header of the message. -/
def ackId (message : StreamMessage) : String :=
  (message.delivery.message.headers.get? "ack").getD ""

/-- A method is called on a message that can be acknowledged, after another call and before
`committed` is set. -/
def overlaps (message : StreamMessage) : StreamAction → Bool
  | .call _ _ => message.ackId ≠ "" && !message.called.isEmpty && message.committed.isNone
  | _ => false

/-! ## One step -/

section Steps

variable {message next : StreamMessage} {number : Nat} {method : SettleMethod}

@[simp] theorem passed_proceeds (frame : Frame) (progress : Progress MaybeWrite Bool) :
    (message.proceeds number method frame progress).passed = message.passed := by
  cases progress <;> rfl

@[simp] theorem called_proceeds (frame : Frame) (progress : Progress MaybeWrite Bool) :
    (message.proceeds number method frame progress).called = message.called := by
  cases progress <;> rfl

@[simp] theorem delivery_proceeds (frame : Frame) (progress : Progress MaybeWrite Bool) :
    (message.proceeds number method frame progress).delivery = message.delivery := by
  cases progress <;> rfl

/-- The frame that a call passes to `maybe_write_frame`. -/
def passes (message : StreamMessage) (method : SettleMethod) : Option Frame :=
  if message.committed.isSome then none
  else settleBy method.type message.delivery message.shared none some

/-- While a connection is active, `_ack` and `_nack` hand the frame over that they pass on. -/
theorem handed_settle {delivery : Delivery} {shared : Shared} {connection : ConnectionId}
    (active : shared.active = some connection) (type : FrameType) :
    (shared.handedIn (settle delivery type shared).1).map Prod.snd =
      (settleBy type delivery shared none some).toList := by
  rw [settle_eq_settleBy, settleBy_eq_elim]
  cases settleBy type delivery shared none some with
  | none => simp [Shared.handedIn_self]
  | some frame => simp [active, Shared.handedIn_acknowledged]

theorem call_log (message : StreamMessage) (number : Nat) (method : SettleMethod) :
    (message.call number method).called = message.called ++ [method] ∧
      (message.shared.active.isSome = true → (message.call number method).passed =
        message.passed ++ (message.passes method).toList) ∧
      (message.call number method).delivery = message.delivery := by
  unfold call passes
  simp only
  split
  · exact ⟨rfl, fun _ => (List.append_nil _).symm, rfl⟩
  · refine ⟨by simp, fun connected => ?_, by simp⟩
    obtain ⟨connection, active⟩ := Option.isSome_iff_exists.mp connected
    simp [handed_settle active]

theorem type_of_passes {frame : Frame} (passes : message.passes method = some frame) :
    frame.type = method.type := by
  unfold StreamMessage.passes settleBy at passes
  simp only at passes
  split_ifs at passes
  obtain rfl := Option.some.inj passes
  rfl

theorem passes_of_unacked (unacked : message.ackId = "") : message.passes method = none := by
  unfold ackId at unacked
  simp [passes, settleBy, unacked]

theorem passes_of_available (available : message.available = true) (acked : message.ackId ≠ "")
    (uncommitted : message.committed = none) :
    message.passes method =
      some (settleFrame method.type message.ackId message.delivery.subscription.id) := by
  simp only [StreamMessage.available, Bool.and_eq_true, decide_eq_true_eq] at available
  unfold ackId at acked
  simp [passes, uncommitted, settleBy, available.1.1, available.1.2, acked, ackId]

theorem connected_of_available (available : message.available = true) :
    message.shared.active.isSome = true := by
  simp only [StreamMessage.available, Bool.and_eq_true] at available
  exact available.2

/-- Steps other than calls add nothing to the log, and without a call there is nothing to
resume. -/
structure Idles (message next : StreamMessage) : Prop where
  called : next.called = message.called
  passed : next.passed = message.passed
  delivery : next.delivery = message.delivery
  fresh : (∀ number, message.calls number = .absent) →
    next.committed = message.committed ∧ next.calls = message.calls

theorem log_of_step {action : StreamAction} (stepped : message.step action = some next) :
    (∃ number method, action = .call number method ∧ next = message.call number method) ∨
      (∀ number method, action ≠ .call number method) ∧ message.Idles next := by
  cases action with
  | call number method =>
      simp only [step] at stepped
      split at stepped
      · exact .inl ⟨number, method, rfl, (Option.some.inj stepped).symm⟩
      · contradiction
  | resume number reply =>
      refine .inr ⟨by simp, ?_⟩
      simp only [step] at stepped
      split at stepped
      · rename_i standing
        obtain ⟨⟨shared, progress⟩, -, rfl⟩ := Option.map_eq_some_iff.mp stepped
        refine ⟨by simp, by simp, by simp, fun absent => ?_⟩
        rw [absent number] at standing
        contradiction
      · contradiction
  | elsewhere shared =>
      obtain rfl := Option.some.inj stepped
      exact .inr ⟨by simp, rfl, rfl, rfl, fun _ => ⟨rfl, rfl⟩⟩

end Steps

/-! ## Runs -/

/-- The invariant behind `SettledOnce`: a message that can be acknowledged is, by the first call. -/
structure Tallies (message : StreamMessage) : Prop where
  settled : message.SettledOnce
  uncalled : message.called = [] →
    message.passed = [] ∧ message.committed = none ∧ ∀ number, message.calls number = .absent
  called : message.called ≠ [] → message.ackId ≠ "" → message.passed.length = 1

variable {message next : StreamMessage} {action : StreamAction}

theorem ackId_congr (delivery : next.delivery = message.delivery) : next.ackId = message.ackId := by
  rw [ackId, ackId, delivery]

namespace Tallies

theorem idles (tallies : message.Tallies) (idles : message.Idles next) : next.Tallies := by
  obtain ⟨called, passed, delivery, fresh⟩ := idles
  refine ⟨?_, ?_, ?_⟩
  · rw [SettledOnce, called, passed]
    exact tallies.settled
  · intro uncalled
    rw [called] at uncalled
    obtain ⟨unpassed, uncommitted, absent⟩ := tallies.uncalled uncalled
    obtain ⟨committed, calls⟩ := fresh absent
    exact ⟨passed.trans unpassed, committed.trans uncommitted, by rwa [calls]⟩
  · rw [called, passed, ackId_congr delivery]
    exact tallies.called

/-- The first call. -/
theorem first (tallies : message.Tallies) (available : message.available = true)
    (uncalled : message.called = []) (number : Nat) (method : SettleMethod) :
    (message.call number method).Tallies := by
  obtain ⟨called, passed, delivery⟩ := message.call_log number method
  replace passed := passed (connected_of_available available)
  obtain ⟨unpassed, uncommitted, -⟩ := tallies.uncalled uncalled
  rw [uncalled, List.nil_append] at called
  rw [unpassed, List.nil_append] at passed
  refine ⟨⟨?_, ?_⟩, by simp [called], fun _ acked => ?_⟩
  · rw [passed]
    exact Option.length_toList_le
  · intro frame member
    rw [passed, Option.mem_toList] at member
    rw [called, type_of_passes member]
    rfl
  · rw [ackId_congr delivery] at acked
    rw [passed, passes_of_available available acked uncommitted]
    rfl

/-- A later call that does not overlap with the first one. -/
theorem later (tallies : message.Tallies) (available : message.available = true)
    (called : message.called ≠ []) (number : Nat) (method : SettleMethod)
    (silent : message.passes method = none) : (message.call number method).Tallies := by
  obtain ⟨called_eq, passed, delivery⟩ := message.call_log number method
  replace passed := passed (connected_of_available available)
  rw [silent, Option.toList_none, List.append_nil] at passed
  have head : (message.call number method).called.head? = message.called.head? := by
    rw [called_eq, List.head?_append_of_ne_nil _ called]
  refine ⟨⟨?_, ?_⟩, by simp [called_eq], fun _ acked => ?_⟩
  · rw [passed]
    exact tallies.settled.1
  · rw [passed, head]
    exact tallies.settled.2
  · rw [ackId_congr delivery] at acked
    rw [passed]
    exact tallies.called called acked

theorem step (tallies : message.Tallies) (available : message.available = true)
    (serial : message.overlaps action = false) (stepped : message.step action = some next) :
    next.Tallies := by
  rcases log_of_step stepped with ⟨number, method, rfl, rfl⟩ | ⟨-, idles⟩
  · by_cases uncalled : message.called = []
    · exact tallies.first available uncalled number method
    · refine tallies.later available uncalled number method ?_
      by_cases acked : message.ackId = ""
      · exact passes_of_unacked acked
      · have committed : message.committed.isSome = true := by
          simpa [overlaps, acked, uncalled, ← Option.not_isSome] using serial
        simp [passes, committed]
  · exact tallies.idles idles

end Tallies

/-- A call that overlaps with an earlier one passes a second frame. -/
theorem not_settledOnce_of_overlaps (tallies : message.Tallies)
    (available : message.available = true) (overlapping : message.overlaps action = true)
    (stepped : message.step action = some next) : ¬ next.SettledOnce := by
  rcases log_of_step stepped with ⟨number, method, rfl, rfl⟩ | ⟨other, -⟩
  · simp only [overlaps, ne_eq, decide_not, Bool.and_eq_true, Bool.not_eq_eq_eq_not, Bool.not_true,
      decide_eq_false_iff_not, List.isEmpty_eq_false_iff, Option.isNone_iff_eq_none] at overlapping
    obtain ⟨⟨acked, called⟩, uncommitted⟩ := overlapping
    obtain ⟨-, passed, -⟩ := message.call_log number method
    replace passed := passed (connected_of_available available)
    intro settled
    have bound := settled.1
    rw [passed, passes_of_available available acked uncommitted, List.length_append,
      tallies.called called acked] at bound
    simp at bound
  · cases action with
    | call number method => exact absurd rfl (other number method)
    | _ => contradiction

/-- Steps that keep the subscription and the connection of the message active, and whose calls do
not overlap. -/
def Serial (message : StreamMessage) (action : StreamAction) : Prop :=
  message.available = true ∧ message.overlaps action = false

theorem tallies_of_reaches {delivery : Delivery} {shared : Shared}
    (reach : (system delivery shared).Reaches Serial message) : message.Tallies := by
  refine reach.invariant ⟨⟨Nat.zero_le 1, by simp [system]⟩, fun _ => ⟨rfl, rfl, fun _ => rfl⟩,
    fun called => absurd rfl called⟩ ?_
  intro before after action _ tallies serial stepped
  exact tallies.step serial.1 serial.2 stepped

/-- As long as no method is called between another call and the moment at which `committed` is set,
at most one frame is passed to the connection manager, and it is the one that the first call asks
for; the first call that does not wait passes a second frame. -/
theorem settledOnce_of_serial {delivery : Delivery} {shared : Shared}
    (reach : (system delivery shared).Reaches Serial message) :
    message.SettledOnce ∧ (message.available = true →
      ∀ action next, message.step action = some next →
        (next.SettledOnce ↔ message.overlaps action = false)) := by
  have tallies := tallies_of_reaches reach
  refine ⟨tallies.settled, fun available action next stepped =>
    ⟨fun settled => ?_, fun serial => ?_⟩⟩
  · rw [← Bool.not_eq_true]
    exact fun overlapping =>
      not_settledOnce_of_overlaps tallies available overlapping stepped settled
  · exact (tallies.step available serial stepped).settled

/-- A subscription whose messages are acknowledged by FastStream. -/
def manualSubscription : Subscription := { plainSubscription with manual := true }

/-- A message of this subscription. -/
def sampleDelivery : Delivery := ⟨0, 0, 0, plainMessage, manualSubscription, rfl⟩

/-- The subscription is active on the first connection. -/
def sampleShared : Shared :=
  { active := some 0, subscriptions := ActiveSubscriptions.add {} manualSubscription }

/-- One task calls `ack`, waits for its end and calls `nack`. -/
def settlesInTurn : List StreamAction := [.call 0 .ack, .resume 0 .returned, .call 1 .nack]

/-- Only the ACK is passed. -/
theorem settledOnce_settlesInTurn :
    ∃ message, (system sampleDelivery sampleShared).Reaches Serial message ∧
      (message.called = [.ack, .nack] ∧ message.passed = [settleFrame .ack "a" "1"]) ∧
      message.SettledOnce := by
  have replayed : ((system sampleDelivery sampleShared).replay
      (fun message action => message.available && !message.overlaps action)
      (system sampleDelivery sampleShared).initial settlesInTurn).map (fun message =>
        decide (message.called = [.ack, .nack] ∧
          message.passed = [settleFrame .ack "a" "1"])) = some true := by
    decide +kernel
  have sound : ∀ message action, (available message && !message.overlaps action) = true →
      message.Serial action := by
    intro message action passes
    obtain ⟨available, serial⟩ := Bool.and_eq_true_iff.mp passes
    exact ⟨available, (Bool.not_eq_true' _).mp serial⟩
  obtain ⟨message, reach, happened⟩ := System.exists_of_replay sound replayed
  exact ⟨message, reach, of_decide_eq_true happened, (settledOnce_of_serial reach).1⟩

/-- One task calls `ack`, and another one calls `nack` while the ACK is written. -/
theorem not_forall_settledOnce :
    ¬ ∀ (delivery : Delivery) (shared : Shared) (message : StreamMessage),
      (system delivery shared).Reaches (fun message _ => message.available = true) message →
        message.SettledOnce := by
  intro always
  have replayed : ((system sampleDelivery sampleShared).replay (fun message _ => message.available)
      (system sampleDelivery sampleShared).initial [.call 0 .ack, .call 1 .nack]).map
        (fun message => decide
          (message.passed = [settleFrame .ack "a" "1", settleFrame .nack "a" "1"])) =
      some true := by
    decide +kernel
  obtain ⟨message, reach, happened⟩ := System.exists_of_replay (fun _ _ passes => passes) replayed
  have bound := (always _ _ message reach).1
  rw [of_decide_eq_true happened] at bound
  contradiction

end StreamMessage

end Stompman
