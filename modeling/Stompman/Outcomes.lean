import Stompman.Handlers

/-!
# Automatic acknowledgement

`AutoAckSubscription._run_handler` looks at the state of the client when the handler is over, not
when the message arrived.  A run is watched by a log of how handlers ended, in which state, and of
the frames that their tasks handed to a connection.  Without an active connection
`maybe_write_frame` does nothing; what it was called with then is seen by the same step with a
connection in place.
-/

namespace Stompman

open Foundation

/-! ## What is passed to `maybe_write_frame` -/

namespace Shared

/-- The frames that were handed to a connection from one state to a later one. -/
def handedIn (before after : Shared) : List (ConnectionId × Frame) :=
  (after.trace.drop before.trace.length).filterMap Event.handed?

theorem handedIn_append (before : Shared) {after : Shared} {events : List Event}
    (trace : after.trace = before.trace ++ events) :
    before.handedIn after = events.filterMap Event.handed? := by
  rw [handedIn, trace, List.drop_left]

theorem handedIn_self (shared : Shared) : shared.handedIn shared = [] :=
  shared.handedIn_append (List.append_nil _).symm

/-- An ACK or NACK is handed over. -/
theorem handedIn_acknowledged (shared : Shared) (number : Nat) (connection : ConnectionId)
    (frame : Frame) :
    shared.handedIn
      ((shared.hand connection frame).emit (.acknowledged number connection frame)) =
        [(connection, frame)] :=
  @handedIn_append shared ((shared.hand connection frame).emit _)
    [.handed connection frame, .acknowledged number connection frame] (List.append_assoc _ _ _)

end Shared

section Passed

variable {ρ : Type}

/-- `BaseSubscription._ack` and `_nack`, for any `maybe_write_frame`. -/
def settleBy (type : FrameType) (delivery : Delivery) (shared : Shared) (refuse : ρ)
    (maybeWriteFrame : Frame → ρ) : ρ :=
  let ackId := (delivery.message.headers.get? "ack").getD ""
  if shared.subscriptions.containsById delivery.subscription.id = false then refuse
  else if ackId = "" then refuse
  else if delivery.receivedAtReconnectionCount ≠ shared.reconnectionCount then refuse
  else maybeWriteFrame (settleFrame type ackId delivery.subscription.id)

/-- `BaseSubscription._ack`. -/
def ackBy (delivery : Delivery) (shared : Shared) (refuse : ρ) (maybeWriteFrame : Frame → ρ) : ρ :=
  settleBy .ack delivery shared refuse maybeWriteFrame

/-- `BaseSubscription._nack`. -/
def nackBy (delivery : Delivery) (shared : Shared) (refuse : ρ) (maybeWriteFrame : Frame → ρ) : ρ :=
  settleBy .nack delivery shared refuse maybeWriteFrame

/-- `AutoAckSubscription._run_handler` after the handler, for any `maybe_write_frame`; `proceed` is
what follows when it is not called. -/
def runHandlerBy (delivery : Delivery) (suppressed : Bool) (shared : Shared) (proceed : ρ)
    (maybeWriteFrame : Frame → ρ) : ρ :=
  if delivery.subscription.shouldHandleAckNack then
    if suppressed then nackBy delivery shared proceed maybeWriteFrame
    else ackBy delivery shared proceed maybeWriteFrame
  else proceed

/-- `maybe_write_frame` is called at most once, with a frame that does not depend on what it
does. -/
theorem settleBy_eq_elim (type : FrameType) (delivery : Delivery) (shared : Shared) (refuse : ρ)
    (maybeWriteFrame : Frame → ρ) :
    settleBy type delivery shared refuse maybeWriteFrame =
      (settleBy type delivery shared none some).elim refuse maybeWriteFrame := by
  simp only [settleBy]
  split_ifs <;> rfl

@[inherit_doc settleBy_eq_elim]
theorem runHandlerBy_eq_elim (delivery : Delivery) (suppressed : Bool) (shared : Shared)
    (proceed : ρ) (maybeWriteFrame : Frame → ρ) :
    runHandlerBy delivery suppressed shared proceed maybeWriteFrame =
      (runHandlerBy delivery suppressed shared none some).elim proceed maybeWriteFrame := by
  simp only [runHandlerBy, ackBy, nackBy]
  rw [settleBy_eq_elim .nack, settleBy_eq_elim .ack]
  split_ifs <;> rfl

/-- `_ack` and `_nack` with the `maybe_write_frame` of the client. -/
theorem settle_eq_settleBy (type : FrameType) (delivery : Delivery) (shared : Shared) :
    settle delivery type shared =
      settleBy type delivery shared
        (shared, settleFrame type ((delivery.message.headers.get? "ack").getD "")
          delivery.subscription.id,
          if delivery.message.headers.contains "message-id" then .returned false
          else .raised .keyError)
        fun frame =>
          match shared.active with
          | none => (shared, frame, .returned false)
          | some connection =>
              ((shared.hand connection frame).emit
                (.acknowledged delivery.number connection frame), frame,
                .suspended (.writing connection)) := rfl

end Passed

namespace Delivery

/-- The guards of `_run_handler`, `_ack` and `_nack` when the handler is over, with the frame that
they let through. -/
def passes (delivery : Delivery) (shared : Shared) (reply : Reply) : Option Frame :=
  if delivery.subscription.manual then none
  else
    match reply with
    | .returned => runHandlerBy delivery false shared none some
    | .suppressed => runHandlerBy delivery true shared none some
    | _ => none

/-- The message of a handler has a `message-id`, and its subscription acknowledges by itself. -/
def Automatic (delivery : Delivery) : Prop :=
  delivery.subscription.manual = false ∧
    delivery.message.headers.contains "message-id" = true

/-- The message can be acknowledged in this state. -/
structure Answerable (delivery : Delivery) (shared : Shared) : Prop where
  mode : delivery.subscription.ack = .client ∨ delivery.subscription.ack = .clientIndividual
  active : shared.subscriptions.containsById delivery.subscription.id = true
  header : ∃ ackId, delivery.message.headers.get? "ack" = some ackId ∧ ackId ≠ ""
  epoch : delivery.receivedAtReconnectionCount = shared.reconnectionCount

variable {delivery : Delivery} {shared : Shared} {reply : Reply} {frame : Frame}

theorem runHandlerBy_eq_some (suppressed : Bool) :
    runHandlerBy delivery suppressed shared none some = some frame ↔
      delivery.Answerable shared ∧ ∃ ackId, delivery.message.headers.get? "ack" = some ackId ∧
        frame = settleFrame (if suppressed then .nack else .ack) ackId
          delivery.subscription.id := by
  have settles : ∀ type, settleBy type delivery shared none some = some frame ↔
      shared.subscriptions.containsById delivery.subscription.id = true ∧
        (∃ ackId, delivery.message.headers.get? "ack" = some ackId ∧ ackId ≠ "") ∧
        delivery.receivedAtReconnectionCount = shared.reconnectionCount ∧
        ∃ ackId, delivery.message.headers.get? "ack" = some ackId ∧
          frame = settleFrame type ackId delivery.subscription.id := by
    intro type
    unfold settleBy
    cases acked : delivery.message.headers.get? "ack" with
    | none => simp
    | some ackId => simp [@eq_comm _ frame (settleFrame type ackId delivery.subscription.id)]
  have handled : runHandlerBy delivery suppressed shared none some = some frame ↔
      delivery.subscription.shouldHandleAckNack = true ∧
        settleBy (if suppressed then .nack else .ack) delivery shared none some = some frame := by
    unfold runHandlerBy ackBy nackBy
    cases suppressed <;> simp
  rw [handled, settles, Subscription.shouldHandleAckNack, decide_eq_true_eq]
  constructor
  · rintro ⟨mode, active, header, epoch, sent⟩
    exact ⟨⟨mode, active, header, epoch⟩, sent⟩
  · rintro ⟨⟨mode, active, header, epoch⟩, sent⟩
    exact ⟨mode, active, header, epoch, sent⟩

theorem passes_eq_some (automatic : delivery.subscription.manual = false) :
    delivery.passes shared reply = some frame ↔
      delivery.Answerable shared ∧ ∃ ackId, delivery.message.headers.get? "ack" = some ackId ∧
        (reply = .returned ∧ frame = settleFrame .ack ackId delivery.subscription.id ∨
          reply = .suppressed ∧ frame = settleFrame .nack ackId delivery.subscription.id) := by
  simp only [passes, automatic, Bool.false_eq_true, if_false]
  cases reply with
  | returned => simp [runHandlerBy_eq_some]
  | suppressed => simp [runHandlerBy_eq_some]
  | _ => simp

/-- `maybe_write_frame` for `_run_handler`: a frame goes to the active connection, if there is
one. -/
def maybeSettles (delivery : Delivery) (suppressed : Bool) (shared : Shared) (frame : Frame) :
    Resumed :=
  match shared.active with
  | none => handlerEnd delivery suppressed shared
  | some connection =>
      { shared :=
          (shared.hand connection frame).emit (.acknowledged delivery.number connection frame)
        point := .settling delivery frame suppressed (.writing connection) }

/-- `_run_handler` goes on without `maybe_write_frame`.  The warnings of `_ack` and `_nack` need a
`message-id`. -/
def skips (delivery : Delivery) (suppressed : Bool) (shared : Shared) : Resumed :=
  if delivery.subscription.shouldHandleAckNack = true ∧
      delivery.message.headers.contains "message-id" = false then { shared, point := .handled }
  else handlerEnd delivery suppressed shared

/-- What `_run_handler` does when its handler is over. -/
theorem handlerReturned_eq (automatic : delivery.subscription.manual = false) (suppressed : Bool) :
    handlerReturned delivery suppressed shared =
      runHandlerBy delivery suppressed shared (delivery.skips suppressed shared)
        (delivery.maybeSettles suppressed shared) := by
  unfold handlerReturned runHandlerBy ackBy nackBy
  rw [if_neg (by simp [automatic]), settle_eq_settleBy]
  split
  · rename_i handles
    have skips_eq : delivery.skips suppressed shared =
        if delivery.message.headers.contains "message-id" then handlerEnd delivery suppressed shared
        else { shared, point := .handled } := by
      cases identified : delivery.message.headers.contains "message-id" <;>
        simp [skips, handles, identified]
    rw [skips_eq]
    cases suppressed
    all_goals simp only [settleBy, maybeSettles, if_true, if_false, Bool.false_eq_true]
    all_goals split_ifs
    all_goals first | rfl | cases shared.active <;> rfl
  · rename_i handles
    simp [skips, handles]

theorem reports_handlerEnd (suppressed : Bool) :
    (handlerEnd delivery suppressed shared).shared.reports =
      shared.reports ++ if suppressed then [delivery.number] else [] := by
  cases suppressed with
  | false => exact (List.append_nil _).symm
  | true => simp [handlerEnd, Shared.reports, Shared.emit, Event.reported?]

/-- Where the end of its handler takes `_run_handler`, and what has been reported by then. -/
def Departure (delivery : Delivery) (shared : Shared) (reply : Reply) (resumed : Resumed) : Prop :=
  (∃ frame suppressed point, resumed.point = .settling delivery frame suppressed point ∧
    reply = (if suppressed then .suppressed else .returned) ∧
    delivery.passes shared reply = some frame ∧ resumed.shared.reports = shared.reports) ∨
  resumed.point = .handled ∧ (delivery.Automatic → resumed.shared.reports =
    shared.reports ++ if reply = .suppressed then [delivery.number] else [])

theorem departure_handlerReturned (automatic : delivery.subscription.manual = false)
    (suppressed : Bool) (replied : reply = if suppressed then .suppressed else .returned) :
    delivery.Departure shared reply (handlerReturned delivery suppressed shared) := by
  have passes_eq : delivery.passes shared reply =
      runHandlerBy delivery suppressed shared none some := by
    rw [replied]
    cases suppressed <;> simp [passes, automatic]
  have ended : delivery.Departure shared reply (handlerEnd delivery suppressed shared) := by
    refine .inr ⟨rfl, fun _ => ?_⟩
    rw [reports_handlerEnd, replied]
    cases suppressed <;> simp
  rw [handlerReturned_eq automatic, runHandlerBy_eq_elim]
  cases sent : runHandlerBy delivery suppressed shared none some with
  | none =>
      rw [Option.elim_none, skips]
      split
      · rename_i unidentified
        refine .inr ⟨rfl, fun identified => ?_⟩
        rw [identified.2] at unidentified
        exact absurd unidentified.2 (by simp)
      · exact ended
  | some frame =>
      rw [Option.elim_some, maybeSettles]
      split
      · exact ended
      · rename_i connection active
        refine .inl ⟨frame, suppressed, .writing connection, rfl, replied, passes_eq.trans sent, ?_⟩
        exact ((Unattended.hand shared connection frame).trans (.emit _ rfl)).reports

/-- The only frame that the end of a handler hands to a connection is the one that the guards let
through, and it goes to the active connection. -/
theorem handed_handlerReturned (automatic : delivery.subscription.manual = false)
    (suppressed : Bool) :
    shared.handedIn (handlerReturned delivery suppressed shared).shared =
      (runHandlerBy delivery suppressed shared none some).toList.filterMap fun frame =>
        shared.active.map (·, frame) := by
  have silent : ∀ suppressed,
      shared.handedIn (handlerEnd delivery suppressed shared).shared = [] := by
    rintro (- | -)
    · exact Shared.handedIn_self shared
    · exact @Shared.handedIn_append shared (handlerEnd delivery true shared).shared
        [.reported delivery.number] rfl
  rw [handlerReturned_eq automatic, runHandlerBy_eq_elim]
  cases runHandlerBy delivery suppressed shared none some with
  | none =>
      rw [Option.elim_none, skips]
      split
      · exact Shared.handedIn_self shared
      · exact silent suppressed
  | some frame =>
      rw [Option.elim_some, maybeSettles]
      split
      · rename_i inactive
        simp [silent, inactive]
      · rename_i connection active
        simp only [Option.toList_some, List.filterMap_cons, active, Option.map_some,
          List.filterMap_nil]
        exact shared.handedIn_acknowledged delivery.number connection frame

/-- What a step at the end of a handler hands to a connection. -/
theorem handed_of_resume {settings : Settings} {number : Nat} {choice : Choice}
    {resumed : Resumed}
    (resumes : (Point.handling delivery).resume settings (.handler number) reply choice shared =
      some resumed) :
    shared.handedIn resumed.shared =
      (delivery.passes shared reply).toList.filterMap fun frame =>
        shared.active.map (·, frame) := by
  simp only [Point.resume] at resumes
  unfold passes
  split at resumes
  · obtain rfl := Option.some.inj resumes
    split
    · rename_i manual
      rw [handlerReturned, if_pos manual]
      exact Shared.handedIn_self shared
    · rename_i automatic
      exact handed_handlerReturned (by simpa using automatic) false
  · split at resumes
    · rename_i manual
      obtain rfl := Option.some.inj resumes
      rw [if_pos manual]
      exact Shared.handedIn_self shared
    · rename_i automatic
      obtain rfl := Option.some.inj resumes
      rw [if_neg automatic]
      exact handed_handlerReturned (by simpa using automatic) true
  · obtain rfl := Option.some.inj resumes
    split <;> exact Shared.handedIn_self shared
  · contradiction

/-- While the ACK or NACK is written, no other frame is handed to a connection. -/
theorem handed_of_settling {settings : Settings} {task : TaskId} {choice : Choice}
    {suppressed : Bool} {point : MaybeWrite} {resumed : Resumed}
    (resumes : (Point.settling delivery frame suppressed point).resume settings task reply choice
      shared = some resumed) : shared.handedIn resumed.shared = [] := by
  obtain ⟨⟨after, progress⟩, written, rfl⟩ := Option.map_eq_some_iff.mp resumes
  have ends : ∀ {events : List Event}, after.trace = shared.trace ++ events →
      events.filterMap Event.handed? = [] →
      shared.handedIn (handlerEnd delivery suppressed after).shared = [] := by
    intro events trace silent
    cases suppressed with
    | false => exact (shared.handedIn_append trace).trans silent
    | true =>
        have longer : (handlerEnd delivery true after).shared.trace =
            shared.trace ++ (events ++ [.reported delivery.number]) := by
          simp [handlerEnd, Shared.emit, trace]
        rw [shared.handedIn_append longer, List.filterMap_append, silent]
        rfl
  have effects := maybeResume_effects written
  cases effects with
  | writes connection => exact @ends [.wrote connection frame] rfl rfl
  | loses connection active =>
      exact @Shared.handedIn_append shared (shared.discard connection)
        [.discarded connection, .closed connection] (List.append_assoc _ _ _)
  | outlived => exact @ends [] (List.append_nil _).symm rfl
  | closes => exact @ends [] (List.append_nil _).symm rfl
  | fails => exact Shared.handedIn_self _

theorem departure_of_resume {settings : Settings} {number : Nat} {choice : Choice}
    {resumed : Resumed}
    (resumes : (Point.handling delivery).resume settings (.handler number) reply choice shared =
      some resumed) : delivery.Departure shared reply resumed := by
  have stops : reply ≠ .suppressed ∨ delivery.subscription.manual = true →
      delivery.Departure shared reply { shared, point := .handled } := by
    intro either
    refine .inr ⟨rfl, fun automatic => ?_⟩
    rcases either with other | manual
    · simp [other]
    · rw [automatic.1] at manual
      contradiction
  simp only [Point.resume] at resumes
  split at resumes
  · obtain rfl := Option.some.inj resumes
    cases automatic : delivery.subscription.manual with
    | true =>
        rw [handlerReturned, if_pos automatic]
        exact stops (.inl (by simp))
    | false => exact departure_handlerReturned automatic false rfl
  · split at resumes
    · rename_i manual
      obtain rfl := Option.some.inj resumes
      exact stops (.inr manual)
    · rename_i automatic
      obtain rfl := Option.some.inj resumes
      exact departure_handlerReturned (by simpa using automatic) true rfl
  · obtain rfl := Option.some.inj resumes
    exact stops (.inl (by simp))
  · contradiction

end Delivery

/-! ## Watched runs -/

/-- How the handler of a message ended, and the state of the client at that moment. -/
structure Ending where
  number : Nat
  delivery : Delivery
  reply : Reply
  moment : Shared

/-- The handler of a message ends in this step. -/
def State.ending? (state : State) : SessionAction → Option Ending
  | .client (.resume (.handler number) reply _) =>
      match state.tasks (.handler number) with
      | .handling delivery => some { number, delivery, reply, moment := state.shared }
      | _ => none
  | _ => none

theorem State.ending?_eq_none {state : State} {action : SessionAction}
    (acts : ∀ number reply choice, action ≠ .client (.resume (.handler number) reply choice)) :
    state.ending? action = none := by
  unfold State.ending?
  split
  · exact absurd rfl (acts _ _ _)
  · rfl

theorem State.number_of_ending? {state : State} {number : Nat} {reply : Reply} {choice : Choice}
    {ending : Ending}
    (ended : state.ending? (.client (.resume (.handler number) reply choice)) = some ending) :
    ending.number = number := by
  simp only [State.ending?] at ended
  split at ended
  · obtain rfl := Option.some.inj ended
    rfl
  · contradiction

/-- What the step at this end of a handler hands to a connection. -/
def Ending.handed (settings : Settings) (ending : Ending) : List (ConnectionId × Frame) :=
  match (Point.handling ending.delivery).resume settings (.handler ending.number) ending.reply {}
      ending.moment with
  | some resumed => ending.moment.handedIn resumed.shared
  | none => []

/-- The end of a handler while a connection is active. -/
def Ending.connected (ending : Ending) : Ending :=
  { ending with moment := { ending.moment with active := some 0 } }

/-- The frames for which `maybe_write_frame` finds no active connection at this end of a handler:
the same step hands them over while there is one. -/
def Ending.unheard (settings : Settings) (ending : Ending) : List Frame :=
  if ending.moment.active = none then (ending.connected.handed settings).map Prod.snd else []

/-- The frames that the guards let through at this end of a handler. -/
def Ending.frames (ending : Ending) : List Frame :=
  (ending.delivery.passes ending.moment ending.reply).toList

/-- The frames that are handed to a connection after this end of a handler, and the others. -/
def Ending.log (ending : Ending) : List (ConnectionId × Frame) × List Frame :=
  (ending.frames.filterMap fun frame => ending.moment.active.map (·, frame),
    if ending.moment.active = none then ending.frames else [])

theorem Ending.handed_eq (settings : Settings) (ending : Ending) :
    ending.handed settings = ending.log.1 := by
  unfold handed
  split
  · rename_i resumed resumes
    exact Delivery.handed_of_resume resumes
  · rename_i refused
    have returned : ending.reply ≠ .returned := by
      intro returned
      simp [returned, Point.resume] at refused
    have suppressed : ending.reply ≠ .suppressed := by
      intro suppressed
      simp only [suppressed, Point.resume] at refused
      split at refused <;> contradiction
    have silent : ending.delivery.passes ending.moment ending.reply = none := by
      unfold Delivery.passes
      split
      · rfl
      · split <;> first | contradiction | rfl
    simp [log, frames, silent]

theorem Ending.unheard_eq (settings : Settings) (ending : Ending) :
    ending.unheard settings = ending.log.2 := by
  have frames : (ending.connected.handed settings).map Prod.snd = ending.frames := by
    rw [handed_eq, log, List.map_filterMap]
    exact List.filterMap_some
  rw [unheard, frames, log]

/-- The frames that the task of a handler hands to a connection in a step. -/
def State.handsOver (before after : State) :
    SessionAction → List (Nat × ConnectionId × Frame)
  | .client (.resume (.handler number) _ _) =>
      (before.shared.handedIn after.shared).map (number, ·)
  | _ => []

/-- A client, the task that leaves it, and the log of its handlers. -/
structure Watched where
  session : Session
  endings : List Ending := []
  /-- The frames that handlers handed to a connection. -/
  handed : List (Nat × ConnectionId × Frame) := []
  /-- The frames for which `maybe_write_frame` found no active connection. -/
  unheard : List (Nat × Frame) := []

namespace Watched

/-- The ends of the handler of a message. -/
def endingsOf (watched : Watched) (number : Nat) : List Ending :=
  watched.endings.filter fun ending => ending.number = number

/-- The frames that the handler of a message handed to a connection. -/
def handedBy (watched : Watched) (number : Nat) : List (ConnectionId × Frame) :=
  (watched.handed.filter fun entry => entry.1 = number).map Prod.snd

/-- The frames for which the handler of a message found no active connection. -/
def unheardBy (watched : Watched) (number : Nat) : List Frame :=
  (watched.unheard.filter fun entry => entry.1 = number).map Prod.snd

/-- The frames that the handler of a message passed to `maybe_write_frame`. -/
def passedBy (watched : Watched) (number : Nat) : List Frame :=
  (watched.handedBy number).map Prod.snd ++ watched.unheardBy number

/-- The calls of `on_suppressed_exception` for a message. -/
def reportsOf (watched : Watched) (number : Nat) : Nat :=
  watched.session.state.shared.reports.count number

/-- Where the handler of a message stands. -/
def handler (watched : Watched) (number : Nat) : Point :=
  watched.session.state.tasks (.handler number)

/-- Add one step to the log: its events, and the end of a handler. -/
def notes (watched : Watched) (settings : Settings) (ending : Option Ending)
    (handed : List (Nat × ConnectionId × Frame)) (next : Session) : Watched where
  session := next
  endings := watched.endings ++ ending.toList
  handed := watched.handed ++ handed
  unheard := watched.unheard ++ ending.toList.flatMap fun ending =>
    (ending.unheard settings).map (ending.number, ·)

/-- The log after a step. -/
def follows (watched : Watched) (settings : Settings) (action : SessionAction) (next : Session) :
    Watched :=
  watched.notes settings (watched.session.state.ending? action)
    (watched.session.state.handsOver next.state action) next

end Watched

variable (settings : Settings)

/-- One step with its log. -/
def watchedStep (watched : Watched) (action : SessionAction) : Option Watched :=
  (sessionStep settings watched.session action).map (watched.follows settings action)

/-- A client under watch, as a transition system. -/
def watchedSession : System Watched SessionAction where
  initial := { session := (session settings).initial }
  step := watchedStep settings

variable {settings}

/-- Watching does not restrict the runs of a client. -/
theorem exists_watched {allowed : Session → SessionAction → Prop} {current : Session}
    (reach : (session settings).Reaches allowed current) :
    ∃ watched, (watchedSession settings).Reaches
      (fun watched action => allowed watched.session action) watched ∧
        watched.session = current := by
  induction reach with
  | initial => exact ⟨_, .initial, rfl⟩
  | @step _ after action _ meets stepped ih =>
      obtain ⟨watched, known, rfl⟩ := ih
      refine ⟨watched.follows settings action after, .step known meets ?_, rfl⟩
      exact Option.map_eq_some_iff.mpr ⟨_, stepped, rfl⟩

/-! ## The outcome of a handler -/

namespace Point

/-- Handler tasks that are over. -/
def Over (point : Point) : Prop := point = .handled ∨ point = .finished

/-- How often `_run_handler` may still be resumed when its handler is over. -/
def repliesLeft : Point → Nat
  | .settling _ _ _ (.writing _) => 2
  | .settling _ _ _ (.discarding _) => 1
  | _ => 0

end Point

/-- `write_frame` returns or raises `ConnectionLostError`, and `close` returns. -/
def MaybeWrite.spares (reply : Reply) : MaybeWrite → Bool
  | .writing _ => reply = .returned || reply = .raised .connectionLost
  | .discarding _ => reply = .returned

/-- `_run_handler` of a message is not cancelled while it acknowledges the message. -/
def State.spares (state : State) (number : Nat) : SessionAction → Bool
  | .client (.resume (.handler other) reply _) =>
      other ≠ number ||
        match state.tasks (.handler number) with
        | .settling _ _ _ point => point.spares reply
        | _ => true
  | _ => true

theorem MaybeWrite.resume_of_spares {point : MaybeWrite} {reply : Reply}
    (spared : point.spares reply = true) (frame : Frame) (shared : Shared) :
    (∃ connection, point = .writing connection ∧ point.resume frame reply shared =
      some (shared.discard connection, .suspended (.discarding connection))) ∨
    ∃ after done, point.resume frame reply shared = some (after, .returned done) := by
  cases point with
  | writing connection =>
      simp only [MaybeWrite.spares, Bool.or_eq_true, decide_eq_true_eq] at spared
      rcases spared with rfl | rfl
      · exact .inr ⟨_, _, rfl⟩
      · by_cases active : shared.active = some connection
        · exact .inl ⟨connection, rfl, by simp [MaybeWrite.resume, active]⟩
        · exact .inr ⟨shared, false, by simp [MaybeWrite.resume, active]⟩
  | discarding connection =>
      obtain rfl : reply = .returned := of_decide_eq_true spared
      exact .inr ⟨_, _, rfl⟩

theorem State.spares_settling {state : State} {number : Nat} {delivery : Delivery} {frame : Frame}
    {suppressed : Bool} {point : MaybeWrite} {reply : Reply} {choice : Choice}
    (standing : state.tasks (.handler number) = .settling delivery frame suppressed point)
    (spared : state.spares number (.client (.resume (.handler number) reply choice)) = true) :
    point.spares reply = true := by
  simpa [State.spares, standing] using spared

/-- How the frames that `_run_handler` passes to `maybe_write_frame` and its calls of
`on_suppressed_exception` match one end of its handler. -/
structure Watched.Matches (watched : Watched) (ending : Ending) : Prop where
  /-- A frame is handed to the connection that is active at the end, or there is none. -/
  handed : watched.handedBy ending.number =
    (watched.passedBy ending.number).filterMap fun frame => ending.moment.active.map (·, frame)
  once : (watched.passedBy ending.number).length ≤ 1
  ack : (∃ frame ∈ watched.passedBy ending.number, frame.type = .ack) ↔
    ending.delivery.Answerable ending.moment ∧ ending.reply = .returned
  nack : (∃ frame ∈ watched.passedBy ending.number, frame.type = .nack) ↔
    ending.delivery.Answerable ending.moment ∧ ending.reply = .suppressed
  other : ¬ (ending.delivery.Answerable ending.moment ∧
    (ending.reply = .returned ∨ ending.reply = .suppressed)) →
      watched.passedBy ending.number = []
  content : ∀ frame ∈ watched.passedBy ending.number, ∃ ackId,
    ending.delivery.message.headers.get? "ack" = some ackId ∧
      frame = settleFrame frame.type ackId ending.delivery.subscription.id
  reported : (watched.handler ending.number).Over →
    watched.reportsOf ending.number = if ending.reply = .suppressed then 1 else 0
  unreported : ¬ (watched.handler ending.number).Over → watched.reportsOf ending.number = 0

/-- The handler of a message ends at most once; before, nothing is passed and nothing reported, and
afterwards what is passed and reported matches its end. -/
structure Watched.Settles (settings : Settings) (watched : Watched) (number : Nat) : Prop where
  once : (watched.endingsOf number).length ≤ 1
  before : watched.endingsOf number = [] →
    watched.passedBy number = [] ∧ watched.reportsOf number = 0
  after : ∀ ending ∈ watched.endingsOf number, ending.delivery.Automatic → watched.Matches ending
  /-- `_run_handler` itself comes to its end: every reply is accepted and brings it closer. -/
  ends : 0 < (watched.handler number).repliesLeft → ∀ reply choice,
    watched.session.state.spares number (.client (.resume (.handler number) reply choice)) = true →
      ∃ next, watchedStep settings watched (.client (.resume (.handler number) reply choice)) =
          some next ∧ (next.handler number).repliesLeft < (watched.handler number).repliesLeft

namespace Watched

variable {watched : Watched} {number : Nat}

/-- The frames of one handler: those that it handed to a connection, and the others. -/
def logOf (watched : Watched) (number : Nat) : List (ConnectionId × Frame) × List Frame :=
  (watched.handedBy number, watched.unheardBy number)

/-- The invariant of one handler, by where it stands. -/
inductive Tracks (watched : Watched) (number : Nat) : Prop
  | waiting (standing : watched.handler number = .absent ∨
        ∃ delivery, watched.handler number = .handling delivery)
      (ended : watched.endingsOf number = []) (unlogged : watched.logOf number = ([], []))
      (reported : watched.reportsOf number = 0)
  | settling (ending : Ending) (frame : Frame) (suppressed : Bool) (point : MaybeWrite)
      (standing : watched.handler number = .settling ending.delivery frame suppressed point)
      (ended : watched.endingsOf number = [ending])
      (replied : ending.reply = if suppressed then .suppressed else .returned)
      (logged : watched.logOf number = ending.log) (reported : watched.reportsOf number = 0)
  | settled (ending : Ending) (standing : (watched.handler number).Over)
      (ended : watched.endingsOf number = [ending])
      (logged : watched.logOf number = ending.log)
      (reported : ending.delivery.Automatic →
        watched.reportsOf number = if ending.reply = .suppressed then 1 else 0)

theorem Tracks.of_same {next : Watched} (tracks : watched.Tracks number)
    (handler : next.handler number = watched.handler number)
    (endings : next.endingsOf number = watched.endingsOf number)
    (log : next.logOf number = watched.logOf number)
    (reports : next.reportsOf number = watched.reportsOf number) : next.Tracks number := by
  cases tracks with
  | waiting standing ended unlogged unreported =>
      exact .waiting (by rwa [handler]) (endings.trans ended) (log.trans unlogged)
        (reports.trans unreported)
  | settling ending frame suppressed point standing ended replied logged unreported =>
      exact .settling ending frame suppressed point (handler.trans standing) (endings.trans ended)
        replied (log.trans logged) (reports.trans unreported)
  | settled ending standing ended logged reported =>
      refine .settled ending (by rwa [handler]) (endings.trans ended) (log.trans logged) ?_
      rwa [reports]

section Notes

variable {settings : Settings} {handed : List (Nat × ConnectionId × Frame)} {next : Session}

theorem endingsOf_notes (ending : Option Ending) :
    (watched.notes settings ending handed next).endingsOf number =
      watched.endingsOf number ++ (ending.filter fun ending => ending.number = number).toList := by
  cases ending with
  | none => simp [notes, endingsOf]
  | some ending =>
      by_cases own : ending.number = number <;> simp [notes, endingsOf, own, Option.filter]

/-- Entries of one handler, and those of another one. -/
theorem filter_tagged {α : Type} (entries : List α) :
    ((entries.map (number, ·)).filter fun entry => entry.1 = number).map Prod.snd = entries := by
  rw [List.filter_eq_self.mpr (by simp)]
  simp [Function.comp_def]

@[inherit_doc filter_tagged]
theorem filter_tagged_of_ne {α : Type} {other : Nat} (foreign : other ≠ number)
    (entries : List α) : (entries.map (other, ·)).filter (fun entry => entry.1 = number) = [] := by
  simp [List.filter_eq_nil_iff, foreign]

/-- A step in which no handler ends and no frame of this handler is handed over. -/
theorem logOf_silent {ending : Option Ending}
    (silent : ending.filter (fun ending => ending.number = number) = none)
    (unhanded : handed.filter (fun entry => entry.1 = number) = []) :
    (watched.notes settings ending handed next).logOf number = watched.logOf number := by
  cases ending with
  | none => simp [logOf, handedBy, unheardBy, notes, unhanded]
  | some ending =>
      have other : ending.number ≠ number := by
        rintro rfl
        simp at silent
      simp [logOf, handedBy, unheardBy, notes, unhanded, filter_tagged_of_ne other]

/-- The step in which a handler ends. -/
theorem logOf_ending (ending : Ending) (frames : List (ConnectionId × Frame))
    (unlogged : watched.logOf ending.number = ([], [])) :
    (watched.notes settings (some ending) (frames.map (ending.number, ·)) next).logOf
      ending.number = (frames, ending.unheard settings) := by
  obtain ⟨unhanded, heard⟩ := Prod.mk.inj unlogged
  simp only [handedBy, List.map_eq_nil_iff] at unhanded
  simp only [unheardBy, List.map_eq_nil_iff] at heard
  simp [logOf, handedBy, unheardBy, notes, unhanded, heard, filter_tagged]

theorem reportsOf_notes (ending : Option Ending) :
    (watched.notes settings ending handed next).reportsOf number =
      next.state.shared.reports.count number :=
  rfl

/-- Nothing is added to the log of this handler. -/
theorem Tracks.quiet (tracks : watched.Tracks number) {ending : Option Ending}
    (handler : next.state.tasks (.handler number) = watched.handler number)
    (silent : ending.filter (fun ending => ending.number = number) = none)
    (unhanded : handed.filter (fun entry => entry.1 = number) = [])
    (reports : next.state.shared.reports.count number = watched.reportsOf number) :
    (watched.notes settings ending handed next).Tracks number := by
  refine tracks.of_same handler ?_ (logOf_silent silent unhanded) reports
  simp [endingsOf_notes, silent]

end Notes

section Runs

variable {settings : Settings} {reply : Reply} {choice : Choice} {resumed : Resumed}
  {next : Session}

/-- The user's handler ends. -/
theorem tracks_of_handling {delivery : Delivery} (own : delivery.number = number)
    (ended : watched.endingsOf number = []) (unlogged : watched.logOf number = ([], []))
    (unreported : watched.reportsOf number = 0)
    (resumes : (Point.handling delivery).resume settings (.handler number) reply choice
      watched.session.state.shared = some resumed)
    (handler : next.state.tasks (.handler number) = resumed.point)
    (shared : next.state.shared = resumed.shared) :
    (watched.notes settings (some ⟨number, delivery, reply, watched.session.state.shared⟩)
      ((watched.session.state.shared.handedIn next.state.shared).map (number, ·)) next).Tracks
      number := by
  have logged : (watched.notes settings
      (some ⟨number, delivery, reply, watched.session.state.shared⟩)
      ((watched.session.state.shared.handedIn next.state.shared).map (number, ·)) next).logOf
      number = (⟨number, delivery, reply, watched.session.state.shared⟩ : Ending).log := by
    refine (logOf_ending ⟨number, delivery, reply, watched.session.state.shared⟩ _ unlogged).trans
      ?_
    rw [Ending.unheard_eq, shared, Delivery.handed_of_resume resumes]
    rfl
  rcases Delivery.departure_of_resume resumes with
    ⟨frame, suppressed, point, settling, replied, -, reports⟩ | ⟨handled, reports⟩
  · refine .settling ⟨number, delivery, reply, watched.session.state.shared⟩ frame suppressed
      point (handler.trans settling) ?_ replied logged ?_
    · simp [endingsOf_notes, ended, Option.filter]
    · rw [reportsOf_notes, shared, reports]
      exact unreported
  · refine .settled ⟨number, delivery, reply, watched.session.state.shared⟩
      (.inl (handler.trans handled)) ?_ logged fun automatic => ?_
    · simp [endingsOf_notes, ended, Option.filter]
    · rw [reportsOf_notes, shared, reports automatic, List.count_append,
        show watched.session.state.shared.reports.count number = 0 from unreported]
      simp only
      split <;> simp [own]

/-- The ACK or NACK is written, or its connection is closed. -/
theorem tracks_of_settling {ending : Ending} {frame : Frame} {suppressed : Bool}
    {point : MaybeWrite} (own : ending.delivery.number = number)
    (standing : watched.handler number = .settling ending.delivery frame suppressed point)
    (ended : watched.endingsOf number = [ending])
    (replied : ending.reply = if suppressed then .suppressed else .returned)
    (logged : watched.logOf number = ending.log) (unreported : watched.reportsOf number = 0)
    (resumes : (Point.settling ending.delivery frame suppressed point).resume settings
      (.handler number) reply choice watched.session.state.shared = some resumed)
    (spared : watched.session.state.spares number
      (.client (.resume (.handler number) reply choice)))
    (handler : next.state.tasks (.handler number) = resumed.point)
    (shared : next.state.shared = resumed.shared) :
    (watched.notes settings none
      ((watched.session.state.shared.handedIn next.state.shared).map (number, ·)) next).Tracks
      number := by
  have silent : watched.session.state.shared.handedIn next.state.shared = [] := by
    rw [shared]
    exact Delivery.handed_of_settling resumes
  rw [silent, List.map_nil]
  obtain ⟨⟨after, progress⟩, written, rfl⟩ := Option.map_eq_some_iff.mp resumes
  have quiet := Unattended.relatesCalls.maybeWrites (maybeResume_effects written)
  have endings : (watched.notes settings none [] next).endingsOf number = [ending] := by
    simp [endingsOf_notes, ended]
  have known : (watched.notes settings none [] next).logOf number = ending.log :=
    (logOf_silent rfl rfl).trans logged
  cases progress with
  | suspended later =>
      refine .settling ending frame suppressed later handler endings replied known ?_
      rw [reportsOf_notes, shared]
      show after.reports.count number = 0
      rw [quiet.reports]
      exact unreported
  | returned done =>
      refine .settled ending (.inl handler) endings known fun _ => ?_
      rw [reportsOf_notes, shared]
      show (handlerEnd ending.delivery suppressed after).shared.reports.count number = _
      rw [Delivery.reports_handlerEnd, quiet.reports, List.count_append,
        show watched.session.state.shared.reports.count number = 0 from unreported, replied]
      cases suppressed <;> simp [own]
  | raised failure =>
      rcases MaybeWrite.resume_of_spares (State.spares_settling standing spared) frame
          watched.session.state.shared with ⟨_, -, lost⟩ | ⟨_, _, ends⟩
      · rw [written] at lost
        simp at lost
      · rw [written] at ends
        simp at ends

/-- The handler itself moves. -/
theorem Tracks.runs (tracks : watched.Tracks number) (numbered : watched.session.state.Numbered)
    (resumes : (watched.handler number).resume settings (.handler number) reply choice
      watched.session.state.shared = some resumed)
    (spared : watched.session.state.spares number
      (.client (.resume (.handler number) reply choice)))
    (stored : next.state = watched.session.state.store (.handler number) resumed) :
    (watched.follows settings (.client (.resume (.handler number) reply choice)) next).Tracks
      number := by
  have unspawned : resumed.spawned = none := by
    obtain ⟨_, -, retains⟩ := Retains.resume (numbered.fits.tasks _) resumes
    exact retains.unspawned
  have handler : next.state.tasks (.handler number) = resumed.point := by
    rw [stored, State.tasks_store_of_unspawned unspawned]
  have shared : next.state.shared = resumed.shared := by rw [stored, State.shared_store]
  have own : ∀ delivery, (watched.handler number).delivery? = some delivery →
      delivery.number = number := numbered.own number
  cases tracks with
  | waiting standing ended unlogged unreported =>
      rcases standing with absent | ⟨delivery, handling⟩
      · rw [absent] at resumes
        contradiction
      · rw [handling] at resumes
        have ending? : watched.session.state.ending?
            (.client (.resume (.handler number) reply choice)) =
              some ⟨number, delivery, reply, watched.session.state.shared⟩ := by
          simp only [State.ending?]
          rw [show watched.session.state.tasks (.handler number) = _ from handling]
        rw [follows, ending?]
        exact tracks_of_handling (own delivery (by rw [handling]; rfl)) ended unlogged unreported
          resumes handler shared
  | settling ending frame suppressed point standing ended replied logged unreported =>
      rw [standing] at resumes
      have silent : watched.session.state.ending?
          (.client (.resume (.handler number) reply choice)) = none := by
        simp only [State.ending?]
        rw [show watched.session.state.tasks (.handler number) = _ from standing]
      rw [follows, silent]
      exact tracks_of_settling (own ending.delivery (by rw [standing]; rfl)) standing ended replied
        logged unreported resumes spared handler shared
  | settled ending standing =>
      rcases standing with handled | finished
      · rw [handled] at resumes
        contradiction
      · rw [finished] at resumes
        contradiction

/-- The handler is created. -/
theorem Tracks.created (tracks : watched.Tracks number) {delivery : Delivery}
    (absent : watched.handler number = .absent)
    (handling : next.state.tasks (.handler number) = .handling delivery)
    (reports : next.state.shared.reports = watched.session.state.shared.reports) :
    (watched.notes settings none [] next).Tracks number := by
  cases tracks with
  | waiting standing ended unlogged unreported =>
      refine .waiting (.inr ⟨delivery, handling⟩) ?_ ((logOf_silent rfl rfl).trans unlogged) ?_
      · simp [endingsOf_notes, ended]
      · show next.state.shared.reports.count number = 0
        rw [reports]
        exact unreported
  | settling ending frame suppressed point standing =>
      rw [absent] at standing
      contradiction
  | settled ending standing =>
      rw [absent] at standing
      rcases standing with handled | finished <;> contradiction

/-- Another handler moves. -/
theorem Tracks.beside {other : Nat} (tracks : watched.Tracks number)
    (numbered : watched.session.state.Numbered) (foreign : other ≠ number)
    (resumes : (watched.handler other).resume settings (.handler other) reply choice
      watched.session.state.shared = some resumed)
    (stored : next.state = watched.session.state.store (.handler other) resumed) :
    (watched.follows settings (.client (.resume (.handler other) reply choice)) next).Tracks
      number := by
  obtain ⟨delivery, running, retains⟩ := Retains.resume (numbered.fits.tasks _) resumes
  have apart : delivery.number ≠ number := by
    rw [numbered.own other delivery running]
    exact foreign
  refine tracks.quiet ?_ ?_ ?_ ?_
  · rw [stored]
    simp [State.store, retains.unspawned, Ne.symm foreign, handler]
  · cases ended : watched.session.state.ending?
        (.client (.resume (.handler other) reply choice)) with
    | none => rfl
    | some ending => simp [Option.filter, State.number_of_ending? ended, foreign]
  · exact filter_tagged_of_ne foreign _
  · rw [stored, State.shared_store]
    rcases retains.reports with same | more
    · rw [same]
      rfl
    · rw [more, List.count_append, List.count_singleton]
      simp [apart, reportsOf]

/-- The task of the handler is over. -/
theorem Tracks.released (tracks : watched.Tracks number)
    (handled : watched.handler number = .handled)
    (finished : next.state.tasks (.handler number) = .finished)
    (reports : next.state.shared.reports = watched.session.state.shared.reports) :
    (watched.notes settings none [] next).Tracks number := by
  cases tracks with
  | waiting standing => simp [handled] at standing
  | settling ending frame suppressed point standing => simp [handled] at standing
  | settled ending standing ended logged reported =>
      refine .settled ending (.inr finished) ?_ ((logOf_silent rfl rfl).trans logged)
        fun automatic => ?_
      · simp [endingsOf_notes, ended]
      · rw [reportsOf_notes, reports]
        exact reported automatic

end Runs

/-- A step of another task adds nothing to the log. -/
theorem follows_of_other {settings : Settings} {action : SessionAction} {next : Session}
    (acts : ∀ other reply choice, action ≠ .client (.resume (.handler other) reply choice)) :
    watched.follows settings action next = watched.notes settings none [] next := by
  have silent : watched.session.state.handsOver next.state action = [] := by
    unfold State.handsOver
    split
    · exact absurd rfl (acts _ _ _)
    · rfl
  rw [follows, State.ending?_eq_none acts, silent]

theorem Tracks.step {settings : Settings} {action : SessionAction} {next : Session}
    (tracks : watched.Tracks number) (numbered : watched.session.state.Numbered)
    (spared : watched.session.state.spares number action = true)
    (stepped : sessionStep settings watched.session action = some next) :
    (watched.follows settings action next).Tracks number := by
  -- Steps of other tasks: the log and the reports stay as they are.
  have aside : (∀ other reply choice, action ≠ .client (.resume (.handler other) reply choice)) →
      next.state.tasks (.handler number) = watched.handler number →
      next.state.shared.reports = watched.session.state.shared.reports →
      (watched.follows settings action next).Tracks number := by
    intro acts handler reports
    rw [follows_of_other acts]
    refine tracks.quiet handler rfl rfl ?_
    rw [reports]
    rfl
  rcases Session.unattended_step stepped with
    ⟨own, state, rfl, moved, after⟩ | ⟨other, tasks, unattended⟩
  · -- The listener creates a handler, for this message or another one.
    have creates : ∀ (delivery : Delivery) {shared : Shared},
        (∀ other reply choice, own ≠ .resume (.handler other) reply choice) →
        watched.handler delivery.number = .absent →
        state = watched.session.state.store .listener
          (ListenerPoint.createHandler delivery shared) →
        shared.reports = watched.session.state.shared.reports →
        (watched.follows settings (.client own) next).Tracks number := by
      rintro delivery shared acts absent stored same
      have reports : next.state.shared.reports = watched.session.state.shared.reports := by
        rw [after, stored]
        exact (Unattended.emit shared rfl).reports.trans same
      have acts : ∀ other reply choice,
          SessionAction.client own ≠ .client (.resume (.handler other) reply choice) := by
        simpa using acts
      by_cases mine : number = delivery.number
      · subst mine
        rw [follows_of_other acts]
        refine @Tracks.created watched _ settings next tracks delivery absent ?_ reports
        rw [after, stored]
        simp [State.store, ListenerPoint.createHandler]
      · refine aside acts ?_ reports
        rw [after, stored]
        simp [State.store, ListenerPoint.createHandler, mine, handler]
    cases Serves.of_step numbered.fits moved with
    | aside unattended acts handlers =>
        exact aside (by simpa using acts) (by rw [after]; exact handlers number)
          (by rw [after]; exact unattended.reports)
    | takes frame choice unattended handlers =>
        exact aside (by simp) (by rw [after]; exact handlers number)
          (by rw [after]; exact unattended.reports)
    | delivers choice delivery fresh =>
        exact creates delivery (by simp) (numbered.absent _ (Nat.le_of_eq fresh.symm)) rfl
          (Unattended.emit _ rfl).reports
    | creates choice delivery standing =>
        exact creates delivery (by simp) (numbered.acquiring delivery standing).2 rfl rfl
    | @runs other reply choice resumed resumes =>
        by_cases mine : other = number
        · subst mine
          exact tracks.runs numbered resumes spared after
        · exact tracks.beside numbered mine resumes after
    | releases other handled =>
        by_cases mine : other = number
        · subst mine
          rw [follows_of_other (by simp)]
          refine tracks.released handled ?_ ?_
          · rw [after]
            simp [State.store]
          · rw [after]
            rfl
        · refine aside (by simp) ?_ ?_
          · rw [after]
            simp [State.store, Ne.symm mine, handler]
          · rw [after]
            rfl
  · exact aside (fun _ _ _ => other _) (by rw [tasks]; rfl) unattended.reports

/-- The frames that were passed are those that the guards let through. -/
theorem passedBy_of_log {ending : Ending} (logged : watched.logOf number = ending.log) :
    watched.passedBy number = ending.frames := by
  obtain ⟨handed, unheard⟩ := Prod.mk.inj logged
  rw [passedBy, handed, unheard, List.map_filterMap]
  cases ending.moment.active with
  | none => simp
  | some connection =>
      simp only [Option.map_some, reduceCtorEq, if_false, List.append_nil]
      exact List.filterMap_some

theorem Matches.of_log {ending : Ending} (automatic : ending.delivery.Automatic)
    (logged : watched.logOf ending.number = ending.log)
    (reported : (watched.handler ending.number).Over →
      watched.reportsOf ending.number = if ending.reply = .suppressed then 1 else 0)
    (unreported : ¬ (watched.handler ending.number).Over →
      watched.reportsOf ending.number = 0) : watched.Matches ending := by
  have passed := passedBy_of_log logged
  have member : ∀ frame, frame ∈ watched.passedBy ending.number ↔
      ending.delivery.Answerable ending.moment ∧
        ∃ ackId, ending.delivery.message.headers.get? "ack" = some ackId ∧
          (ending.reply = .returned ∧
              frame = settleFrame .ack ackId ending.delivery.subscription.id ∨
            ending.reply = .suppressed ∧
              frame = settleFrame .nack ackId ending.delivery.subscription.id) := by
    intro frame
    rw [passed, Ending.frames, Option.mem_toList, Delivery.passes_eq_some automatic.1]
  refine ⟨?_, ?_, ?_, ?_, ?_, ?_, reported, unreported⟩
  · rw [passed]
    exact congrArg Prod.fst logged
  · rw [passed]
    exact Option.length_toList_le
  · constructor
    · rintro ⟨frame, sent, isAck⟩
      obtain ⟨answerable, ackId, -, ⟨returned, rfl⟩ | ⟨-, rfl⟩⟩ := (member frame).mp sent
      · exact ⟨answerable, returned⟩
      · contradiction
    · rintro ⟨answerable, returned⟩
      obtain ⟨ackId, acked, -⟩ := answerable.header
      exact ⟨_, (member _).mpr ⟨answerable, ackId, acked, .inl ⟨returned, rfl⟩⟩, rfl⟩
  · constructor
    · rintro ⟨frame, sent, isNack⟩
      obtain ⟨answerable, ackId, -, ⟨-, rfl⟩ | ⟨suppressed, rfl⟩⟩ := (member frame).mp sent
      · contradiction
      · exact ⟨answerable, suppressed⟩
    · rintro ⟨answerable, suppressed⟩
      obtain ⟨ackId, acked, -⟩ := answerable.header
      exact ⟨_, (member _).mpr ⟨answerable, ackId, acked, .inr ⟨suppressed, rfl⟩⟩, rfl⟩
  · intro otherwise
    rw [List.eq_nil_iff_forall_not_mem]
    intro frame sent
    obtain ⟨answerable, ackId, -, ⟨returned, -⟩ | ⟨suppressed, -⟩⟩ := (member frame).mp sent
    · exact otherwise ⟨answerable, .inl returned⟩
    · exact otherwise ⟨answerable, .inr suppressed⟩
  · intro frame sent
    obtain ⟨-, ackId, acked, ⟨-, rfl⟩ | ⟨-, rfl⟩⟩ := (member frame).mp sent
    · exact ⟨ackId, acked, rfl⟩
    · exact ⟨ackId, acked, rfl⟩

/-- Every reply to a handler that acknowledges its message is accepted. -/
theorem ends_of_settling {settings : Settings}
    (left : 0 < (watched.handler number).repliesLeft) (reply : Reply) (choice : Choice)
    (spared : watched.session.state.spares number
      (.client (.resume (.handler number) reply choice)) = true) :
    ∃ next, watchedStep settings watched (.client (.resume (.handler number) reply choice)) =
        some next ∧ (next.handler number).repliesLeft < (watched.handler number).repliesLeft := by
  have accepted : ∀ {resumed : Resumed},
      (watched.handler number).resume settings (.handler number) reply choice
        watched.session.state.shared = some resumed → resumed.spawned = none →
      resumed.point.repliesLeft < (watched.handler number).repliesLeft →
      ∃ next, watchedStep settings watched (.client (.resume (.handler number) reply choice)) =
        some next ∧ (next.handler number).repliesLeft < (watched.handler number).repliesLeft := by
    intro resumed resumes unspawned fewer
    have stepped : Stompman.step settings watched.session.state
        (.resume (.handler number) reply choice) =
          some (watched.session.state.store (.handler number) resumed) := by
      simp only [Stompman.step, State.exists?, if_true]
      rw [show (watched.session.state.tasks (.handler number)).resume settings (.handler number)
        reply choice watched.session.state.shared = _ from resumes]
      rfl
    refine ⟨_, Option.map_eq_some_iff.mpr
      ⟨_, Option.map_eq_some_iff.mpr ⟨_, stepped, rfl⟩, rfl⟩, ?_⟩
    show ((watched.session.state.store (.handler number) resumed).tasks
      (.handler number)).repliesLeft < _
    rwa [State.tasks_store_of_unspawned unspawned]
  cases standing : watched.handler number with
  | settling delivery frame suppressed point =>
      rw [standing] at accepted
      rcases MaybeWrite.resume_of_spares (State.spares_settling standing spared) frame
          watched.session.state.shared with ⟨connection, rfl, lost⟩ | ⟨after, done, ends⟩
      · refine @accepted
          { shared := watched.session.state.shared.discard connection
            point := .settling delivery frame suppressed (.discarding connection) } ?_ rfl
          (Nat.lt_succ_self 1)
        rw [Point.resume, lost]
        rfl
      · refine @accepted (handlerEnd delivery suppressed after) ?_ rfl ?_
        · rw [Point.resume, ends]
          rfl
        · cases point <;> exact Nat.succ_pos _
  | _ => simp [standing, Point.repliesLeft] at left

theorem Tracks.settles {settings : Settings} (tracks : watched.Tracks number) :
    watched.Settles settings number := by
  have after : ∀ ending, watched.endingsOf number = [ending] →
      watched.logOf number = ending.log →
      (ending.delivery.Automatic → (watched.handler number).Over →
        watched.reportsOf number = if ending.reply = .suppressed then 1 else 0) →
      (¬ (watched.handler number).Over → watched.reportsOf number = 0) →
      watched.Settles settings number := by
    intro ending ended logged reported unreported
    refine ⟨by simp [ended], by simp [ended], ?_, ends_of_settling⟩
    intro other member automatic
    obtain rfl : other = ending := by simpa [ended] using member
    obtain rfl : other.number = number := by simpa [endingsOf] using (List.mem_filter.mp member).2
    exact .of_log automatic logged (reported automatic) unreported
  cases tracks with
  | waiting standing ended unlogged unreported =>
      obtain ⟨unhanded, heard⟩ := Prod.mk.inj unlogged
      have unpassed : watched.passedBy number = [] := by simp [passedBy, unhanded, heard]
      exact ⟨by simp [ended], fun _ => ⟨unpassed, unreported⟩, by simp [ended], ends_of_settling⟩
  | settling ending frame suppressed point standing ended replied logged unreported =>
      refine after ending ended logged ?_ fun _ => unreported
      rintro - (handled | finished)
      · rw [standing] at handled
        contradiction
      · rw [standing] at finished
        contradiction
  | settled ending standing ended logged reported =>
      exact after ending ended logged (fun automatic _ => reported automatic)
        fun unfinished => absurd standing unfinished

theorem tracks_of_reaches {settings : Settings}
    (reach : (watchedSession settings).Reaches
      (fun watched action => watched.session.state.spares number action = true) watched) :
    watched.session.state.Numbered ∧ watched.Tracks number := by
  refine @System.Reaches.invariant _ _ _ _
    (fun watched => watched.session.state.Numbered ∧ watched.Tracks number)
    ⟨Session.numbered_initial settings, .waiting (.inl rfl) rfl rfl rfl⟩ ?_ _ reach
  rintro before after action - ⟨numbered, tracks⟩ spared stepped
  obtain ⟨next, moved, rfl⟩ := Option.map_eq_some_iff.mp stepped
  exact ⟨Session.numbered_step numbered moved, tracks.step numbered spared moved⟩

end Watched

/-- In every run, whatever happens to subscriptions and connections while the handler of a message
runs: `_run_handler` passes an ACK to `maybe_write_frame` exactly if the handler returned, a NACK
exactly if it raised a suppressed exception, both only if the message can be acknowledged at that
moment, and at most one frame; `on_suppressed_exception` is called once if a suppressed exception
was raised, and not at all otherwise.  What is passed is read off the events of its own steps. -/
theorem settles_of_spared {settings : Settings} {watched : Watched} {number : Nat}
    (reach : (watchedSession settings).Reaches
      (fun watched action => watched.session.state.spares number action = true) watched) :
    watched.Settles settings number :=
  (Watched.tracks_of_reaches reach).2.settles

/-- A message arrives, its handler raises a suppressed exception, and the connection is lost while
the NACK is written. -/
def nacksInVain : List Action :=
  enters ++ [.subscribe plainSubscription, returns (.subscribe "1"),
    .resume .listener (.frame (.frame plainMessage)) {}, .resume (.handler 0) .suppressed {},
    raises (.handler 0) .connectionLost, returns (.handler 0)]

/-- A handler is over after its message was rejected. -/
def Watched.rejects (watched : Watched) : Bool :=
  match watched.endings with
  | [ending] => decide (ending.number = 0 ∧ ending.reply = .suppressed ∧
      ending.delivery.subscription.manual = false ∧
      ending.delivery.message.headers.contains "message-id" = true ∧
      watched.handed = [(0, 0, settleFrame .nack "a" "1")] ∧
      watched.session.state.shared.reports = [0])
  | _ => false

/-- The NACK is passed once and the exception reported once. -/
theorem settles_nacksInVain :
    ∃ watched, (watchedSession plainSettings).Reaches
        (fun watched action => watched.session.state.spares 0 action = true) watched ∧
      watched.rejects = true ∧ watched.Settles plainSettings 0 := by
  have replayed : ((watchedSession plainSettings).replay
      (fun watched action => watched.session.state.spares 0 action)
      (watchedSession plainSettings).initial (nacksInVain.map .client)).map Watched.rejects =
        some true := by
    decide +kernel
  obtain ⟨watched, reach, rejects⟩ := System.exists_of_replay (fun _ _ passes => passes) replayed
  exact ⟨watched, reach, rejects, settles_of_spared reach⟩

end Stompman
