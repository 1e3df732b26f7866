import Stompman.Cancellation
import Stompman.Silence
import Stompman.SingleFlight

/-!
# Heartbeats

The CONNECTED frame of a server says how often it wants to receive heartbeats.  Its confirmation
cancels the heartbeat task and creates another one for this interval, in the middle of a handshake:
the new task finds no active connection and waits for the reconnect lock.

Here the client runs beside a clock that counts milliseconds.  While a connection is active,
heartbeats are written on it as often as its server wants, if the heartbeat task is resumed in time,
and no heartbeat task writes them more often.
-/

namespace Stompman

open Foundation

/-! ## Established connections -/

/-- Positions of `enter` after the CONNECTED frame. -/
def Enter.confirmed : Enter → Bool
  | .writingConnect _ | .readingConnected _ => false
  | .resubscribing .. | .replaying .. => true

namespace Shared

/-- A connection is active, or its handshake has got past the CONNECTED frame. -/
def Established (shared : Shared) (connection : ConnectionId) : Prop :=
  shared.active = some connection ∨
    ∃ point, shared.handshake = some (connection, point) ∧ point.confirmed = true

/-- The connection that a CONNECTED frame confirms, and the heart-beats of its server. -/
def confirmation (settings : Settings) (shared : Shared) (task : TaskId) :
    Reply → Option (ConnectionId × Heartbeat)
  | .frame (.frame connected) =>
      match shared.reconnect, confirm settings.protocolVersion connected with
      | some ⟨owner, _, .entering connection (.readingConnected _)⟩, .ok (.established heartbeat) =>
          if owner = task ∧ connected.type = .connected then some (connection, heartbeat) else none
      | _, _ => none
  | _ => none

section Established

variable {settings : Settings} {task : TaskId} {reply : Reply} {shared base before after : Shared}
  {progress : Progress Unit ConnectionId} {connection : ConnectionId}

theorem Established.of_quiet (established : after.Established connection)
    (active : after.active = before.active ∨ after.active = none)
    (reconnect : after.reconnect = before.reconnect) : before.Established connection := by
  rcases established with own | ⟨point, inside, confirmed⟩
  · rcases active with same | gone
    · exact .inl (same ▸ own)
    · rw [gone] at own
      contradiction
  · exact .inr ⟨point, by rwa [← handshake_congr reconnect], confirmed⟩

/-- The holder of the lock is outside a confirmed handshake. -/
theorem Established.of_calm (established : after.Established connection)
    (calm : ∀ other point, after.handshake = some (other, point) → point.confirmed = false)
    (active : after.active = shared.active) : shared.Established connection := by
  rcases established with own | ⟨point, inside, confirmed⟩
  · exact .inl (active.symm.trans own)
  · rw [calm _ _ inside] at confirmed
    contradiction

/-- A confirmed handshake goes on. -/
theorem Established.of_entering {reconnect : Reconnect} {other : ConnectionId} {earlier : Enter}
    {point : Enter}
    (established : (base.hold reconnect (.entering other point)).Established connection)
    (locked : shared.reconnect = some reconnect)
    (phase : reconnect.phase = .entering other earlier) (confirmed : earlier.confirmed = true)
    (active : base.active = shared.active) : shared.Established connection := by
  rcases established with own | ⟨_, inside, -⟩
  · exact .inl (active.symm.trans own)
  · obtain ⟨rfl, -⟩ := eq_of_handshake_hold inside
    exact .inr ⟨earlier, handshake_of_phase locked phase, confirmed⟩

theorem isSome_of_handshake {point : Enter}
    (inside : shared.handshake = some (connection, point)) : shared.reconnect.isSome := by
  rw [Option.isSome_iff_ne_none]
  intro free
  rw [handshake, free] at inside
  contradiction

theorem isSome_of_confirmation {result : ConnectionId × Heartbeat}
    (confirmed : shared.confirmation settings task reply = some result) :
    shared.reconnect.isSome := by
  unfold confirmation at confirmed
  split at confirmed
  · split at confirmed
    · rename_i locked _
      rw [locked]
      rfl
    · contradiction
  · contradiction

/-- What `_get_active_connection_state` does to heartbeat tasks: CONNECTED creates one, and the
connection is the only one that is established then; without it no other connection is. -/
def Restarts (settings : Settings) (shared : Shared) (task : TaskId) (reply : Reply)
    (after : Shared) : Prop :=
  (after.heartbeats = shared.heartbeats ∧
    ∀ connection, after.Established connection → shared.Established connection) ∨
  (after.heartbeats = shared.heartbeats + 1 ∧ ∃ connection heartbeat,
    shared.confirmation settings task reply = some (connection, heartbeat) ∧
    ∀ other, after.Established other → other = connection)

theorem confirmation_of_confirmed {reconnect : Reconnect}
    (locked : shared.reconnect = some reconnect) (owned : reconnect.owner = task)
    {collected : List AnyFrame}
    (phase : reconnect.phase = .entering connection (.readingConnected collected))
    {connected : Frame} (type : connected.type = .connected) {heartbeat : Heartbeat}
    (established : confirm settings.protocolVersion connected = .ok (.established heartbeat)) :
    shared.confirmation settings task (.frame (.frame connected)) =
      some (connection, heartbeat) := by
  obtain ⟨owner, issues, reached⟩ := reconnect
  obtain rfl : owner = task := owned
  obtain rfl : reached = .entering connection (.readingConnected collected) := phase
  simp only [confirmation, locked, established, type, and_self, if_true]

/-- A handshake that has finished a write or the confirmation goes on to another position. -/
theorem restarts_of_ready {reconnect : Reconnect} (locked : shared.reconnect = some reconnect)
    (owned : reconnect.owner = task) {point : Enter}
    (phase : reconnect.phase = .entering connection point) {rest : List Subscription} {walk : Walk}
    (ready : shared.Ready settings connection reply point base rest walk)
    (idle : shared.active = none) (heartbeats : after.heartbeats = base.heartbeats)
    (only : ∀ other, after.Established other → base.active = some other ∨ other = connection) :
    Restarts settings shared task reply after := by
  have established : ∀ other, after.Established other → other = connection := by
    intro other known
    rcases only other known with active | same
    · rw [ready.base.active, idle] at active
      contradiction
    · exact same
  cases ready with
  | confirmed collected type confirmed =>
      exact .inr ⟨heartbeats, connection, _, confirmation_of_confirmed locked owned phase type
        confirmed, established⟩
  | resubscribed current remaining =>
      refine .inl ⟨heartbeats, fun other known => ?_⟩
      rw [established other known]
      exact .inr ⟨_, handshake_of_phase locked phase, rfl⟩
  | committed walk current =>
      refine .inl ⟨heartbeats, fun other known => ?_⟩
      rw [established other known]
      exact .inr ⟨_, handshake_of_phase locked phase, rfl⟩

theorem established_hold (reconnect : Reconnect) {point : Enter} {other : ConnectionId}
    (known : (base.hold reconnect (.entering connection point)).Established other) :
    base.active = some other ∨ other = connection := by
  rcases known with active | ⟨_, inside, -⟩
  · exact .inl active
  · exact .inr (eq_of_handshake_hold inside).1.symm

theorem Reconnects.restarts (effects : shared.Reconnects settings task reply after progress)
    (idle : shared.reconnect.isSome → shared.active = none) :
    Restarts settings shared task reply after := by
  have inside : ∀ {reconnect : Reconnect}, shared.reconnect = some reconnect →
      shared.active = none := fun locked => idle (by rw [locked]; rfl)
  cases effects with
  | interrupted => exact .inl ⟨rfl, fun _ => id⟩
  | found => exact .inl ⟨rfl, fun _ => id⟩
  | races => exact .inl ⟨rfl, fun _ known => known.of_calm (by simp) rfl⟩
  | sleeps => exact .inl ⟨rfl, fun _ known => known.of_calm (by simp) rfl⟩
  | leaves => exact .inl ⟨rfl, fun _ known => known.of_calm (by simp) rfl⟩
  | opens =>
      refine .inl ⟨rfl, fun _ known => known.of_calm ?_ rfl⟩
      intro other point entered
      obtain ⟨-, rfl⟩ := eq_of_handshake_hold entered
      rfl
  | fails => exact .inl ⟨rfl, fun _ known => known.of_calm (by simp) rfl⟩
  | asks =>
      refine .inl ⟨rfl, fun _ known => known.of_calm ?_ rfl⟩
      intro other point entered
      obtain ⟨-, rfl⟩ := eq_of_handshake_hold entered
      rfl
  | collects =>
      refine .inl ⟨rfl, fun _ known => known.of_calm ?_ rfl⟩
      intro other point entered
      obtain ⟨-, rfl⟩ := eq_of_handshake_hold entered
      rfl
  | subscribes reconnect locked owned connection point phase subscription remaining ready =>
      exact restarts_of_ready locked owned phase ready (inside locked) rfl
        fun other known => established_hold reconnect known
  | replays reconnect locked owned connection walk current index frame phase =>
      rw [replayFrame_eq]
      exact .inl ⟨rfl, fun _ known => known.of_entering locked phase rfl rfl⟩
  | picks reconnect locked owned connection point phase ready =>
      rw [replayFrame_eq]
      exact restarts_of_ready locked owned phase ready (inside locked) rfl
        fun other known => established_hold reconnect known
  | changed reconnect locked owned connection point phase ready =>
      refine restarts_of_ready locked owned phase ready (inside locked) rfl ?_
      exact fun other known => .inl (known.resolve_right (by simp))
  | finishes reconnect locked owned connection point phase ready =>
      refine restarts_of_ready locked owned phase ready (inside locked) rfl ?_
      rintro other (active | ⟨_, entered, -⟩)
      · exact .inr (Option.some.inj active).symm
      · simp at entered

end Established

end Shared

/-! ## Heartbeat tasks -/

/-- The connection on which a heartbeat was written. -/
def Event.beat? : Event → Option ConnectionId
  | .beat connection => some connection
  | _ => none

namespace Shared

variable {shared before after : Shared}

/-- The connections on which heartbeats have been written so far. -/
def beats (shared : Shared) : List ConnectionId := shared.trace.filterMap Event.beat?

theorem beats_emit (shared : Shared) {event : Event} (other : event.beat? = none) :
    (shared.emit event).beats = shared.beats := by
  simp [beats, emit, other]

/-- The heartbeats of a step are those among its events. -/
theorem beats_of_later {later : List Event} (grows : after.trace = before.trace ++ later)
    {written : List ConnectionId} (beats : after.beats = before.beats ++ written) :
    later.filterMap Event.beat? = written := by
  simpa [Shared.beats, grows] using beats

theorem beats_of_ready {settings : Settings} {connection : ConnectionId} {reply : Reply}
    {point : Enter} {base : Shared} {rest : List Subscription} {walk : Walk}
    (ready : shared.Ready settings connection reply point base rest walk) :
    base.beats = shared.beats := by
  cases ready with
  | confirmed => rfl
  | resubscribed => exact beats_emit _ rfl
  | committed => exact beats_emit _ rfl

theorem beats_replayFrame (shared : Shared) (reconnect : Reconnect) (connection : ConnectionId)
    (walk : Walk) (transaction : String) (index : Nat) :
    (shared.replayFrame reconnect connection walk transaction index).beats = shared.beats := by
  rw [replayFrame_eq]
  exact beats_emit _ rfl

theorem beats_activate (settings : Settings) (shared : Shared) (connection : ConnectionId) :
    (shared.clearTransactions.activate settings connection).beats = shared.beats := by
  simp [activate, clearTransactions, beats, emit, Event.beat?]

/-- No heartbeat is written in `_get_active_connection_state`. -/
theorem Reconnects.beats {settings : Settings} {task : TaskId} {reply : Reply}
    {progress : Progress Unit ConnectionId}
    (effects : shared.Reconnects settings task reply after progress) :
    after.beats = shared.beats := by
  cases effects with
  | interrupted => rfl
  | found => rfl
  | races => rfl
  | sleeps => rfl
  | leaves => rfl
  | opens => exact (beats_emit _ rfl).trans (beats_emit shared rfl)
  | fails => exact beats_emit shared rfl
  | asks => exact beats_emit shared rfl
  | collects => rfl
  | subscribes _ _ _ _ _ _ _ _ base => exact (beats_emit _ rfl).trans (beats_of_ready base)
  | replays => exact (beats_replayFrame _ _ _ _ _ _).trans (beats_emit shared rfl)
  | picks _ _ _ _ _ _ base => exact (beats_replayFrame _ _ _ _ _ _).trans (beats_of_ready base)
  | changed _ _ _ _ _ _ base => exact (beats_emit _ rfl).trans (beats_of_ready base)
  | finishes _ _ _ _ _ _ base => exact (beats_activate _ _ _).trans (beats_of_ready base)

end Shared

namespace HeartbeatPoint

/-- Positions between two heartbeats, unless one has failed. -/
def Pacing : HeartbeatPoint → Prop
  | .created | .connecting _ | .sleeping => True
  | .discarding .. => False

variable {settings : Settings} {task : TaskId} {point : HeartbeatPoint} {reply : Reply}
  {choice : Choice} {shared : Shared} {resumed : Resumed}

/-- Until its next `await` a task writes at most one heartbeat, and then it goes to sleep. -/
def Beats (shared : Shared) (resumed : Resumed) : Prop :=
  resumed.shared.beats = shared.beats ∨
    ∃ connection, resumed.shared.beats = shared.beats ++ [connection] ∧
      resumed.point = .heartbeat .sleeping

theorem beats_of_tends (tends : Tends task shared resumed) : Beats shared resumed := by
  cases tends with
  | rests => exact .inl rfl
  | beats generation own connection =>
      exact .inr ⟨connection, by simp [Shared.beats, Shared.emit, Event.beat?], rfl⟩
  | discards =>
      exact .inl (by simp [Shared.beats, Shared.discard, Shared.emit, Event.beat?])

/-- What a heartbeat task writes when it is resumed. -/
theorem beats_resume {generation : Nat}
    (resumes : point.resume settings (.heartbeat generation) reply choice shared = some resumed) :
    Beats shared resumed := by
  cases Cycles.heartbeat generation resumes with
  | waits _ _ connected => exact .inl (Shared.reconnects_resumeConnecting connected).beats
  | leaves _ _ connected _ tends =>
      have beats := beats_of_tends tends
      rwa [Beats, (Shared.reconnects_resumeConnecting connected).beats] at beats
  | tends _ _ tends => exact beats_of_tends tends

/-- A heartbeat task writes a heartbeat on the active connection and goes to sleep, or there is no
active connection when it comes to its next `await`. -/
def Paces (shared : Shared) (resumed : Resumed) : Prop :=
  (∃ connection, resumed.shared.beats = shared.beats ++ [connection] ∧
    resumed.shared.active = some connection ∧ resumed.point = .heartbeat .sleeping) ∨
  (resumed.shared.active = none ∧
    ((∃ left, resumed.point = .heartbeat (.connecting left)) ∨
      ∀ connection, ¬ resumed.shared.Established connection))

theorem shared_ended (settings : Settings) (shared : Shared) (failure : Option Failure) :
    (ended settings shared failure).shared = shared := by
  unfold ended
  split
  · rfl
  · split <;> rfl
  · split <;> rfl
  · rfl

theorem not_established (inactive : shared.active = none) (free : shared.reconnect = none)
    (connection : ConnectionId) : ¬ shared.Established connection := by
  rintro (active | ⟨point, inside, -⟩)
  · rw [inactive] at active
    contradiction
  · rw [Shared.handshake, free] at inside
    contradiction

theorem paces_beat {connection : ConnectionId} (active : shared.active = some connection)
    (free : shared.reconnect = none) (left : Nat) (beats : Bool) :
    Paces shared (beat shared left connection beats) := by
  cases beats with
  | true =>
      exact .inl ⟨connection, by simp [beat, Shared.beats, Shared.emit, Event.beat?], active, rfl⟩
  | false => exact .inr ⟨rfl, .inr (not_established rfl free)⟩

theorem paces_attempts (locked : shared.reconnect.isSome → shared.active = none) {count : Nat}
    (positive : 0 < count) (beats : Bool) :
    Paces shared (attempts settings shared beats count) := by
  obtain ⟨left, rfl⟩ := Nat.exists_eq_add_of_lt positive
  rw [Nat.zero_add]
  cases active : shared.active with
  | none =>
      simp only [attempts, active]
      exact .inr ⟨active, .inl ⟨_, rfl⟩⟩
  | some connection =>
      have free : shared.reconnect = none := by
        by_contra held
        rw [locked (Option.isSome_iff_ne_none.mpr held)] at active
        contradiction
      simp only [attempts, active]
      exact paces_beat active free _ _

/-- An exception of `_get_active_connection_state` that the task itself has run into. -/
theorem idle_of_raised {after : Shared} {failure : Failure} {pick : Option String}
    (locked : shared.reconnect.isSome → shared.active = none)
    (own : ∀ failure, reply = .raised failure → ∃ reconnect, shared.reconnect = some reconnect ∧
      reconnect.owner = task)
    (raised : shared.resumeConnecting settings task reply pick = some (after, .raised failure)) :
    after.active = none ∧ after.reconnect = none := by
  have effects := Shared.reconnects_resumeConnecting raised
  cases effects with
  | interrupted failure outside interrupts =>
      obtain ⟨reconnect, held, owned⟩ := own failure interrupts
      exact absurd owned (outside reconnect held)
  | leaves calm pending failure quits =>
      refine ⟨?_, rfl⟩
      change shared.active = none
      cases held : shared.reconnect with
      | some reconnect => exact locked (by rw [held]; rfl)
      | none =>
          by_contra active
          simp only [Shared.resumeConnecting, held] at raised
          split at raised
          · split at raised
            · simp at raised
            · contradiction
          · obtain ⟨reconnect, other, -⟩ := own _ rfl
            rw [held] at other
            contradiction
          · contradiction

theorem paces_resume (locked : shared.reconnect.isSome → shared.active = none)
    (owner : ∀ reconnect, shared.reconnect = some reconnect → reconnect.owner = task →
      ∃ left, point = .connecting left)
    (own : ∀ failure, reply = .raised failure → ∃ reconnect, shared.reconnect = some reconnect ∧
      reconnect.owner = task)
    (positive : 0 < settings.writeRetryAttempts) (pacing : point.Pacing)
    (resumes : point.resume settings task reply choice shared = some resumed) :
    Paces shared resumed := by
  -- away from the lock the task is only ever resumed normally
  have apart : (∀ left, point ≠ .connecting left) →
      point.resume settings task reply choice shared = some resumed →
      reply = .returned ∧
        attempts settings shared choice.beats settings.writeRetryAttempts = resumed := by
    intro elsewhere goes
    cases reply with
    | returned => cases point <;> simp_all [resume, Pacing]
    | raised failure =>
        obtain ⟨reconnect, held, owned⟩ := own failure rfl
        obtain ⟨left, same⟩ := owner reconnect held owned
        exact absurd same (elsewhere left)
    | _ => cases point <;> simp_all [resume]
  cases point with
  | discarding => exact pacing.elim
  | created =>
      obtain ⟨rfl, rfl⟩ := apart (by simp) resumes
      exact paces_attempts locked positive choice.beats
  | sleeping =>
      obtain ⟨rfl, rfl⟩ := apart (by simp) resumes
      exact paces_attempts locked positive choice.beats
  | connecting left =>
      simp only [resume] at resumes
      obtain ⟨⟨middle, progress⟩, connected, rfl⟩ := Option.map_eq_some_iff.mp resumes
      have effects := Shared.reconnects_resumeConnecting connected
      cases progress with
      | suspended =>
          refine .inr ⟨?_, .inl ⟨left, rfl⟩⟩
          rcases effects.lock with ⟨-, same, idle, -⟩ | ⟨ended, -⟩ | ⟨ended, -⟩
          · exact same.trans (idle.elim id locked)
          · exact absurd rfl ended
          · exact absurd rfl ended
      | returned connection =>
          have free : middle.reconnect = none := by
            cases effects with
            | found _ free => exact free
            | finishes => rfl
          have paces := paces_beat effects.active_of_returned free left choice.beats
          rwa [Paces, effects.beats] at paces
      | raised failure =>
          obtain ⟨inactive, free⟩ := idle_of_raised locked own connected
          have same := shared_ended settings middle (some failure)
          refine .inr ⟨?_, .inr ?_⟩
          · exact (congrArg Shared.active same).trans inactive
          · change ∀ connection,
              ¬ (ended settings middle (some failure)).shared.Established connection
            rw [same]
            exact not_established inactive free

end HeartbeatPoint

/-- A heartbeat task that can be resumed stands at one of its own positions. -/
theorem State.Fits.beating {settings : Settings} {state : State} (fits : state.Fits)
    {generation : Nat} {reply : Reply} {choice : Choice} {resumed : Resumed}
    (resumes : (state.tasks (.heartbeat generation)).resume settings (.heartbeat generation) reply
      choice state.shared = some resumed) :
    ∃ point, state.tasks (.heartbeat generation) = .heartbeat point := by
  have own := fits.tasks (.heartbeat generation)
  generalize state.tasks (.heartbeat generation) = point at own resumes
  cases point with
  | heartbeat point => exact ⟨point, rfl⟩
  | _ => simp_all [Point.Fits, Job.Runs, Duty.Runs, Point.resume]

/-! ## Steps -/

/-- Every connection that is active after a step was active before it, or has become active in
it. -/
def Installs (before after : Shared) : Prop :=
  ∃ later, after.trace = before.trace ++ later ∧ ∀ connection, after.active = some connection →
    .activated connection ∈ later ∨
      (before.active = some connection ∧ ∀ event ∈ later, event.activates = false)

namespace Installs

variable {settings : Settings} {shared before middle after : Shared}

theorem of_same (trace : after.trace = before.trace) (active : after.active = before.active) :
    Installs before after :=
  ⟨[], by simp [trace], fun _ own => .inr ⟨active ▸ own, by simp⟩⟩

theorem trans (first : Installs before middle) (second : Installs middle after) :
    Installs before after := by
  obtain ⟨early, early_eq, early_active⟩ := first
  obtain ⟨late, late_eq, late_active⟩ := second
  refine ⟨early ++ late, by rw [late_eq, early_eq, List.append_assoc], ?_⟩
  intro connection active
  rcases late_active connection active with new | ⟨kept, late_calm⟩
  · exact .inl (List.mem_append_right _ new)
  · rcases early_active connection kept with new | ⟨known, early_calm⟩
    · exact .inl (List.mem_append_left _ new)
    · exact .inr ⟨known, List.forall_mem_append.mpr ⟨early_calm, late_calm⟩⟩

theorem emit (shared : Shared) {event : Event} (calm : event.activates = false) :
    Installs shared (shared.emit event) :=
  ⟨[event], rfl, fun _ active => .inr ⟨active, by simpa using calm⟩⟩

theorem discard (shared : Shared) (connection : ConnectionId) :
    Installs shared (shared.discard connection) :=
  ⟨[.discarded connection, .closed connection], by simp [Shared.discard, Shared.emit],
    fun _ active => by simp [Shared.discard] at active⟩

theorem ready {connection : ConnectionId} {reply : Reply} {point : Enter} {base : Shared}
    {rest : List Subscription} {walk : Walk}
    (ready : shared.Ready settings connection reply point base rest walk) :
    Installs shared base := by
  cases ready with
  | confirmed => exact of_same rfl rfl
  | resubscribed => exact emit _ rfl
  | committed => exact emit _ rfl

theorem replayFrame (shared : Shared) (reconnect : Reconnect) (connection : ConnectionId)
    (walk : Walk) (transaction : String) (index : Nat) :
    Installs shared (shared.replayFrame reconnect connection walk transaction index) := by
  rw [Shared.replayFrame_eq]
  exact trans (emit _ rfl) (of_same rfl rfl)

theorem reconnects {task : TaskId} {reply : Reply} {progress : Progress Unit ConnectionId}
    (effects : shared.Reconnects settings task reply after progress) : Installs shared after := by
  cases effects with
  | interrupted => exact of_same rfl rfl
  | found => exact of_same rfl rfl
  | races => exact of_same rfl rfl
  | sleeps => exact of_same rfl rfl
  | leaves => exact of_same rfl rfl
  | opens =>
      exact trans (trans (emit _ rfl) (of_same rfl rfl)) (trans (emit _ rfl) (of_same rfl rfl))
  | fails => exact trans (emit _ rfl) (of_same rfl rfl)
  | asks => exact trans (emit _ rfl) (of_same rfl rfl)
  | collects => exact of_same rfl rfl
  | subscribes _ _ _ _ _ _ _ _ base =>
      exact trans (ready base) (trans (emit _ rfl) (of_same rfl rfl))
  | replays => exact trans (emit _ rfl) (replayFrame _ _ _ _ _ _)
  | picks _ _ _ _ _ _ base => exact trans (ready base) (replayFrame _ _ _ _ _ _)
  | changed _ _ _ _ _ _ base => exact trans (ready base) (trans (emit _ rfl) (of_same rfl rfl))
  | finishes reconnect locked owned connection point phase base =>
      refine trans (ready base) ⟨[.activated connection], rfl, ?_⟩
      rintro other active
      obtain rfl := Option.some.inj active
      exact .inl List.mem_cons_self

theorem relates : RelatesSteps settings Installs where
  refl _ := of_same rfl rfl
  trans := trans
  hand shared _ _ _ := emit shared rfl
  noteWritten shared _ _ := emit shared rfl
  discard shared connection _ := discard shared connection
  acknowledged shared _ _ _ := emit shared rfl
  unsubscribed shared _ := emit shared rfl
  subscriptions _ _ := of_same rfl rfl
  transactions _ _ _ := of_same rfl rfl
  reconnects := reconnects
  emits shared event own := by
    refine emit shared ?_
    cases event with
    | activated => exact own.elim
    | _ => rfl
  aside unrelated := of_same unrelated.trace unrelated.active

end Installs

section Steps

variable {settings : Settings} {state after : State} {action : Action}

/-- The connection that a step confirms, and the heart-beats of its server. -/
def State.confirmation (settings : Settings) (state : State) :
    Action → Option (ConnectionId × Heartbeat)
  | .resume task reply _ => state.shared.confirmation settings task reply
  | _ => none

theorem Beside.established {before after : Shared} (beside : Beside before after)
    {connection : ConnectionId} (known : after.Established connection) :
    before.Established connection := by
  refine known.of_quiet ?_ beside.reconnect
  obtain ⟨_, -, -, same | ⟨_, -, gone, -⟩⟩ := beside.events
  · exact .inl same
  · exact .inr gone

theorem restarts_of_step (fits : state.Fits) (guarded : state.Guarded)
    (stepped : step settings state action = some after) :
    (after.shared.heartbeats = state.shared.heartbeats ∧ ∀ connection,
      after.shared.Established connection → state.shared.Established connection) ∨
    (after.shared.heartbeats = state.shared.heartbeats + 1 ∧ ∃ connection heartbeat,
      state.confirmation settings action = some (connection, heartbeat) ∧
      ∀ other, after.shared.Established other → other = connection) := by
  cases Drives.of_step fits stepped with
  | apart idle beside =>
      exact .inl ⟨beside.heartbeats, fun _ known => beside.established known⟩
  | opens => exact .inl ⟨rfl, fun _ known => known.of_quiet (.inl rfl) rfl⟩
  | waits task reply choice standing resumed =>
      exact (Shared.reconnects_resumeConnecting resumed).restarts guarded.locked
  | leaves task reply choice standing resumed ended beside =>
      rcases (Shared.reconnects_resumeConnecting resumed).restarts guarded.locked with
        ⟨same, kept⟩ | ⟨more, connection, heartbeat, confirmed, only⟩
      · exact .inl ⟨beside.heartbeats.trans same, fun _ known => kept _ (beside.established known)⟩
      · exact .inr ⟨beside.heartbeats.trans more, connection, heartbeat, confirmed,
          fun _ known => only _ (beside.established known)⟩

/-- The next heartbeat task has not run yet. -/
theorem heartbeat_created_of_step (reach : (client settings).Reachable state)
    (stepped : step settings state action = some after) :
    after.tasks (.heartbeat state.shared.heartbeats) = .heartbeat .created := by
  have other : action.task ≠ some (.heartbeat state.shared.heartbeats) := by
    intro named
    cases steps_of_step stepped with
    | resume task reply choice created =>
        obtain rfl : task = .heartbeat state.shared.heartbeats := by
          simpa [Action.task] using named
        exact Nat.lt_irrefl _ (of_decide_eq_true created)
    | _ => simp [Action.task] at named
  rw [tasks_of_step (fits_of_reaches reach) stepped other (by simp) (by simp)]
  exact (created_of_reaches reach _).resolve_right (Nat.lt_irrefl _)

/-- The current heartbeat task goes on by itself. -/
theorem paces_of_step (guarded : state.Guarded) (positive : 0 < settings.writeRetryAttempts)
    {generation : Nat} {point : HeartbeatPoint}
    (standing : state.tasks (.heartbeat generation) = .heartbeat point) (pacing : point.Pacing)
    {reply : Reply} {choice : Choice}
    (own : ∀ failure, reply = .raised failure → ∃ reconnect,
      state.shared.reconnect = some reconnect ∧ reconnect.owner = .heartbeat generation)
    (stepped : step settings state (.resume (.heartbeat generation) reply choice) = some after) :
    HeartbeatPoint.Paces state.shared
      { shared := after.shared, point := after.tasks (.heartbeat generation) } := by
  cases steps_of_step stepped with
  | resume _ _ _ created resumes =>
      rw [standing] at resumes
      have unspawned := (Cycles.heartbeat generation resumes).spawned.resolve_right (by simp)
      rw [State.tasks_store_of_unspawned unspawned]
      have owner : ∀ reconnect, state.shared.reconnect = some reconnect →
          reconnect.owner = .heartbeat generation → ∃ left, point = .connecting left := by
        intro reconnect held owned
        have connecting := guarded.owner reconnect held
        rw [owned, standing] at connecting
        cases point with
        | connecting left => exact ⟨left, rfl⟩
        | _ => exact connecting.elim
      have paces := HeartbeatPoint.paces_resume guarded.locked owner own positive pacing resumes
      exact paces

end Steps

/-! ## The client and a clock -/

/-- A client, a clock, and what heartbeat tasks and connections have read off it. -/
structure Clocked where
  state : State
  now : Nat := 0
  /-- `connected_at` of the active connection. -/
  connectedAt : Nat := 0
  /-- `server_heartbeat` of a connection. -/
  serverHeartbeat : ConnectionId → Heartbeat := fun _ => ⟨0, 0⟩
  /-- `last_read_time` of a connection. -/
  lastReadTime : ConnectionId → Option Nat := fun _ => none
  /-- The interval for which a heartbeat task was created. -/
  intervals : Nat → Nat := fun _ => 0
  /-- When the sleep of a heartbeat task ends. -/
  wakes : Nat → Nat := fun _ => 0
  /-- Heartbeats written, each with the task, the connection and the time. -/
  beats : List (Nat × ConnectionId × Nat) := []
  /-- Reads that gave some bytes, each with the connection and the time. -/
  reads : List (ConnectionId × Nat) := []
  /-- The events so far, with the time of each. -/
  log : List (Event × Nat) := []

/-- Steps of a client, the passing of time and reads. -/
inductive ClockedAction
  | client (action : Action)
  | passes (time : Nat)
  /-- A read on a connection gives some bytes. -/
  | reads (connection : ConnectionId)

/-- The connection whose frames a task awaits. -/
def State.readsFrom (state : State) (task : TaskId) : Option ConnectionId :=
  match state.tasks task, state.shared.reconnect with
  | .listener (.reading connection _), _ => some connection
  | _, some ⟨owner, _, .entering connection (.readingConnected _)⟩ =>
      if owner = task then some connection else none
  | _, _ => none

namespace Clocked

/-- The heartbeats among the events of a step of a heartbeat task. -/
def beaten (clocked : Clocked) (next : State) : Action → List (Nat × ConnectionId)
  | .resume (.heartbeat generation) _ _ =>
      let later := next.shared.trace.drop clocked.state.shared.trace.length
      (later.filterMap Event.beat?).map fun connection => (generation, connection)
  | _ => []

/-- A heartbeat task sleeps until its time has come, unless it is cancelled, and frames come out of
bytes that have been read. -/
def enabled (clocked : Clocked) : Action → Bool
  | .resume task reply _ =>
      match task, clocked.state.tasks task, reply with
      | .heartbeat generation, .heartbeat .sleeping, .returned =>
          clocked.wakes generation ≤ clocked.now
      | .heartbeat _, .heartbeat .sleeping, .raised failure => failure = .cancelled
      | task, _, .frame _ =>
          (clocked.state.readsFrom task).all fun connection =>
            (clocked.lastReadTime connection).isSome
      | _, _, _ => true
  | _ => true

/-- The clock readings that a step leaves behind.  A heartbeat task that could not write sleeps for
the interval between attempts to connect. -/
def advance (settings : Settings) (retryInterval : Nat) (clocked : Clocked) (action : Action)
    (next : State) : Clocked :=
  let later := next.shared.trace.drop clocked.state.shared.trace.length
  let beaten := clocked.beaten next action
  let confirmed :=
    if next.shared.heartbeats = clocked.state.shared.heartbeats then none
    else clocked.state.confirmation settings action
  { state := next
    now := clocked.now
    connectedAt := if later.any Event.activates then clocked.now else clocked.connectedAt
    serverHeartbeat :=
      match confirmed with
      | some (connection, heartbeat) =>
          Function.update clocked.serverHeartbeat connection heartbeat
      | none => clocked.serverHeartbeat
    lastReadTime := clocked.lastReadTime
    intervals :=
      match confirmed with
      | some (_, heartbeat) =>
          Function.update clocked.intervals clocked.state.shared.heartbeats
            heartbeat.wantToReceiveIntervalMs.toNat
      | none => clocked.intervals
    wakes :=
      match action with
      | .resume (.heartbeat generation) _ _ =>
          Function.update clocked.wakes generation
            (clocked.now + if beaten.isEmpty then retryInterval else clocked.intervals generation)
      | _ => clocked.wakes
    beats :=
      clocked.beats ++ beaten.map fun (generation, connection) =>
        (generation, connection, clocked.now)
    reads := clocked.reads
    log := clocked.log ++ later.map fun event => (event, clocked.now) }

/-- A read on a connection gives some bytes. -/
def read (clocked : Clocked) (connection : ConnectionId) : Clocked :=
  { clocked with
    lastReadTime := Function.update clocked.lastReadTime connection (some clocked.now)
    reads := clocked.reads ++ [(connection, clocked.now)] }

end Clocked

/-- One step of a client beside a clock. -/
def clockedStep (settings : Settings) (retryInterval : Nat) (clocked : Clocked) :
    ClockedAction → Option Clocked
  | .client action =>
      if clocked.enabled action then
        (step settings clocked.state action).map (clocked.advance settings retryInterval action)
      else none
  | .passes time => some { clocked with now := clocked.now + time }
  | .reads connection => some (clocked.read connection)

/-- The client beside a clock as a transition system. -/
def clockedClient (settings : Settings) (retryInterval : Nat) : System Clocked ClockedAction where
  initial := { state := (client settings).initial }
  step := clockedStep settings retryInterval

/-- While a connection is active, the current heartbeat task is resumed in time, up to a delay: when
the connection has become active, and at the end of each sleep.  It is not cancelled while it waits
for either. -/
def Punctual (delay : Nat) (clocked : Clocked) : ClockedAction → Prop
  | .passes time =>
      ∀ generation, generation + 1 = clocked.state.shared.heartbeats →
        clocked.state.shared.active ≠ none →
        match clocked.state.tasks (.heartbeat generation) with
        | .heartbeat .created | .heartbeat (.connecting _) =>
            clocked.now + time ≤ clocked.connectedAt + delay
        | .heartbeat .sleeping => clocked.now + time ≤ clocked.wakes generation + delay
        | _ => True
  | .client (.resume (.heartbeat generation) (.raised _) _) =>
      generation + 1 = clocked.state.shared.heartbeats →
        (∃ left connection, clocked.state.tasks (.heartbeat generation) =
          .heartbeat (.discarding left connection)) ∨
        ∃ reconnect, clocked.state.shared.reconnect = some reconnect ∧
          reconnect.owner = .heartbeat generation
  | _ => True

/-! ## Runs -/

section Runs

variable {settings : Settings} {retryInterval delay : Nat} {clocked next : Clocked}

theorem clockedStep_client {action : Action}
    (stepped : clockedStep settings retryInterval clocked (.client action) = some next) :
    clocked.enabled action = true ∧ ∃ state, step settings clocked.state action = some state ∧
      next = clocked.advance settings retryInterval action state := by
  simp only [clockedStep] at stepped
  split at stepped
  · rename_i enabled
    obtain ⟨state, moved, rfl⟩ := Option.map_eq_some_iff.mp stepped
    exact ⟨enabled, state, moved, rfl⟩
  · contradiction

/-- A property that every step, every read and the passing of time preserve. -/
theorem invariant_of_clocked {allowed : Clocked → ClockedAction → Prop}
    {property : Clocked → Prop}
    (initially : property (clockedClient settings retryInterval).initial)
    (steps : ∀ clocked action state,
      (clockedClient settings retryInterval).Reaches allowed clocked →
      (client settings).Reachable clocked.state → property clocked →
      allowed clocked (.client action) → clocked.enabled action = true →
      step settings clocked.state action = some state →
      property (clocked.advance settings retryInterval action state))
    (passes : ∀ clocked time, property clocked → allowed clocked (.passes time) →
      property { clocked with now := clocked.now + time })
    (reads : ∀ clocked connection, property clocked → allowed clocked (.reads connection) →
      property (clocked.read connection))
    (reach : (clockedClient settings retryInterval).Reaches allowed clocked) :
    (client settings).Reachable clocked.state ∧ property clocked := by
  refine @System.Reaches.invariant _ _ _ _
    (fun clocked => (client settings).Reachable clocked.state ∧ property clocked) ?_ ?_ clocked
    reach
  · exact ⟨.initial, initially⟩
  · rintro before after action reach ⟨reachable, known⟩ meets stepped
    cases action with
    | client action =>
        obtain ⟨enabled, state, moved, rfl⟩ := clockedStep_client stepped
        exact ⟨.step reachable trivial moved,
          steps before action state reach reachable known meets enabled moved⟩
    | passes time =>
        obtain rfl := Option.some.inj stepped
        exact ⟨reachable, passes before time known meets⟩
    | reads connection =>
        obtain rfl := Option.some.inj stepped
        exact ⟨reachable, reads before connection known meets⟩

namespace Clocked

/-- The current heartbeat task of an established connection is on its way to write a heartbeat on
it, or has written one and sleeps. -/
structure Paced (delay : Nat) (clocked : Clocked) (connection : ConnectionId) (generation : Nat) :
    Prop where
  current : generation + 1 = clocked.state.shared.heartbeats
  interval : clocked.intervals generation =
    (clocked.serverHeartbeat connection).wantToReceiveIntervalMs.toNat
  paced :
    ((clocked.state.tasks (.heartbeat generation) = .heartbeat .created ∨ ∃ left,
        clocked.state.tasks (.heartbeat generation) = .heartbeat (.connecting left)) ∧
      (clocked.state.shared.active = some connection →
        (.activated connection, clocked.connectedAt) ∈ clocked.log ∧
        clocked.now ≤ clocked.connectedAt + delay)) ∨
    (clocked.state.tasks (.heartbeat generation) = .heartbeat .sleeping ∧
      clocked.state.shared.active = some connection ∧
      ∃ time, (generation, connection, time) ∈ clocked.beats ∧
        clocked.wakes generation = time + clocked.intervals generation ∧
        clocked.now ≤ clocked.wakes generation + delay)

variable {action : Action} {state : State} {connection : ConnectionId} {generation : Nat}

theorem mem_log_advance {entry : Event × Nat} (member : entry ∈ clocked.log) :
    entry ∈ (clocked.advance settings retryInterval action state).log :=
  List.mem_append_left _ member

theorem mem_beats_advance {entry : Nat × ConnectionId × Nat} (member : entry ∈ clocked.beats) :
    entry ∈ (clocked.advance settings retryInterval action state).beats :=
  List.mem_append_left _ member

/-- A connection that becomes active in a step is logged with the time of the step. -/
theorem activated_advance (installs : Installs clocked.state.shared state.shared)
    (active : state.shared.active = some connection) :
    ((.activated connection, clocked.now) ∈
        (clocked.advance settings retryInterval action state).log ∧
      (clocked.advance settings retryInterval action state).connectedAt = clocked.now) ∨
    (clocked.state.shared.active = some connection ∧
      (clocked.advance settings retryInterval action state).connectedAt = clocked.connectedAt) := by
  obtain ⟨later, trace_eq, origin⟩ := installs
  have added : state.shared.trace.drop clocked.state.shared.trace.length = later := by
    rw [trace_eq, List.drop_left]
  rcases origin connection active with new | ⟨known, calm⟩
  · left
    have activates : later.any Event.activates = true :=
      List.any_eq_true.mpr ⟨_, new, rfl⟩
    refine ⟨List.mem_append_right _ ?_, ?_⟩
    · rw [added]
      exact List.mem_map.mpr ⟨_, new, rfl⟩
    · simp only [advance, added, activates, if_true]
  · right
    have quiet : later.any Event.activates = false := by
      rw [List.any_eq_false]
      intro event member
      simp [calm event member]
    refine ⟨known, ?_⟩
    simp only [advance, added, quiet, Bool.false_eq_true, if_false]

theorem wakes_advance (other : action.task ≠ some (.heartbeat generation)) :
    (clocked.advance settings retryInterval action state).wakes generation =
      clocked.wakes generation := by
  simp only [advance]
  split
  · rename_i own _ _
    have different : generation ≠ own := by
      rintro rfl
      exact other rfl
    rw [Function.update_of_ne different]
  · rfl

/-- A step of another task, which creates no heartbeat task. -/
theorem Paced.other (paced : clocked.Paced delay connection generation)
    (installs : Installs clocked.state.shared state.shared)
    (heartbeats : state.shared.heartbeats = clocked.state.shared.heartbeats)
    (other : action.task ≠ some (.heartbeat generation))
    (tasks : state.tasks (.heartbeat generation) = clocked.state.tasks (.heartbeat generation))
    (kept : clocked.state.shared.active = some connection →
      state.shared.active = some connection) :
    (clocked.advance settings retryInterval action state).Paced delay connection generation := by
  have wakes : (clocked.advance settings retryInterval action state).wakes generation =
      clocked.wakes generation := wakes_advance other
  have intervals : (clocked.advance settings retryInterval action state).intervals =
      clocked.intervals := by
    simp only [advance, heartbeats, if_true]
  have serverHeartbeat : (clocked.advance settings retryInterval action state).serverHeartbeat =
      clocked.serverHeartbeat := by
    simp only [advance, heartbeats, if_true]
  refine ⟨paced.current.trans heartbeats.symm, ?_, ?_⟩
  · rw [intervals, serverHeartbeat]
    exact paced.interval
  · rw [wakes, intervals]
    change (state.tasks _ = _ ∨ ∃ left, state.tasks _ = _) ∧ _ ∨ state.tasks _ = _ ∧ _
    rw [tasks]
    rcases paced.paced with ⟨standing, started⟩ | ⟨standing, active, time, beat, asleep, early⟩
    · refine .inl ⟨standing, fun active => ?_⟩
      rcases activated_advance installs active with ⟨logged, now⟩ | ⟨known, same⟩
      · rw [now]
        exact ⟨logged, Nat.le_add_right _ _⟩
      · rw [same]
        obtain ⟨logged, early⟩ := started known
        exact ⟨mem_log_advance logged, early⟩
    · exact .inr ⟨standing, kept active, time, mem_beats_advance beat, asleep, early⟩

/-- The events of a step show the heartbeats that it has written. -/
theorem beaten_of_beats {reply : Reply} {choice : Choice}
    (installs : Installs clocked.state.shared state.shared) {written : List ConnectionId}
    (beats : state.shared.beats = clocked.state.shared.beats ++ written) :
    clocked.beaten state (.resume (.heartbeat generation) reply choice) =
      written.map fun connection => (generation, connection) := by
  obtain ⟨later, trace_eq, -⟩ := installs
  rw [beaten, trace_eq, List.drop_left, Shared.beats_of_later trace_eq beats]

/-- The current heartbeat task itself goes on. -/
theorem Paced.own {reply : Reply} {choice : Choice}
    (paced : clocked.Paced delay connection generation)
    (installs : Installs clocked.state.shared state.shared)
    (heartbeats : state.shared.heartbeats = clocked.state.shared.heartbeats)
    (paces : HeartbeatPoint.Paces clocked.state.shared
      { shared := state.shared, point := state.tasks (.heartbeat generation) })
    (established : state.shared.Established connection) (guarded : state.Guarded) :
    (clocked.advance settings retryInterval (.resume (.heartbeat generation) reply choice)
      state).Paced delay connection generation := by
  have intervals : (clocked.advance settings retryInterval
      (.resume (.heartbeat generation) reply choice) state).intervals = clocked.intervals := by
    simp only [advance, heartbeats, if_true]
  have serverHeartbeat : (clocked.advance settings retryInterval
      (.resume (.heartbeat generation) reply choice) state).serverHeartbeat =
      clocked.serverHeartbeat := by
    simp only [advance, heartbeats, if_true]
  refine ⟨paced.current.trans heartbeats.symm, ?_, ?_⟩
  · rw [intervals, serverHeartbeat]
    exact paced.interval
  rcases paces with ⟨other, beats, active, asleep⟩ | ⟨inactive, waiting | unestablished⟩
  · -- the heartbeat has been written on the only established connection
    obtain rfl : other = connection := by
      rcases established with own | ⟨_, inside, -⟩
      · exact Option.some.inj (active.symm.trans own)
      · rw [guarded.locked (Shared.isSome_of_handshake inside)] at active
        contradiction
    have beaten : clocked.beaten state (.resume (.heartbeat generation) reply choice) =
        [(generation, other)] := beaten_of_beats installs beats
    refine .inr ⟨asleep, active, clocked.now, ?_, ?_, ?_⟩
    · refine List.mem_append_right _ ?_
      rw [beaten]
      exact List.mem_cons_self
    · simp only [advance, beaten, List.isEmpty_cons, Bool.false_eq_true, if_false, if_true,
        Function.update_self, heartbeats]
    · simp only [advance, beaten, List.isEmpty_cons, Bool.false_eq_true, if_false,
        Function.update_self]
      omega
  · refine .inl ⟨.inr waiting, fun active => ?_⟩
    have gone := inactive.symm.trans active
    contradiction
  · exact absurd established (unestablished connection)

/-- The CONNECTED frame of a server creates a heartbeat task. -/
theorem Paced.created {heartbeat : Heartbeat} (delay : Nat)
    (installs : Installs clocked.state.shared state.shared)
    (heartbeats : state.shared.heartbeats = clocked.state.shared.heartbeats + 1)
    (confirmed : clocked.state.confirmation settings action = some (connection, heartbeat))
    (idle : clocked.state.shared.active = none)
    (fresh : state.tasks (.heartbeat clocked.state.shared.heartbeats) = .heartbeat .created) :
    (clocked.advance settings retryInterval action state).Paced delay connection
      clocked.state.shared.heartbeats := by
  have more : ¬ state.shared.heartbeats = clocked.state.shared.heartbeats := by omega
  refine ⟨heartbeats.symm, ?_, .inl ⟨.inl fresh, fun active => ?_⟩⟩
  · simp only [advance, more, if_false, confirmed, Function.update_self]
  · rcases activated_advance installs active with ⟨logged, now⟩ | ⟨known, -⟩
    · rw [now]
      exact ⟨logged, Nat.le_add_right _ _⟩
    · rw [idle] at known
      contradiction

/-- Every established connection has its heartbeat task. -/
def Kept (delay : Nat) (clocked : Clocked) : Prop :=
  ∀ connection, clocked.state.shared.Established connection →
    ∃ generation, clocked.Paced delay connection generation

theorem Paced.pacing (paced : clocked.Paced delay connection generation) :
    ∃ point, clocked.state.tasks (.heartbeat generation) = .heartbeat point ∧ point.Pacing := by
  rcases paced.paced with ⟨created | ⟨left, connecting⟩, -⟩ | ⟨sleeping, -⟩
  · exact ⟨_, created, trivial⟩
  · exact ⟨_, connecting, trivial⟩
  · exact ⟨_, sleeping, trivial⟩

theorem Kept.step (kept : clocked.Kept delay) (positive : 0 < settings.writeRetryAttempts)
    (reach : (client settings).Reachable clocked.state)
    (punctual : Punctual delay clocked (.client action))
    (moved : Stompman.step settings clocked.state action = some state) :
    (clocked.advance settings retryInterval action state).Kept delay := by
  intro connection established
  have fits := fits_of_reaches reach
  have guarded := guarded_of_reaches reach
  have installs := Installs.relates.of_step fits moved
  have drives := Drives.of_step fits moved
  rcases restarts_of_step fits guarded moved with ⟨heartbeats, earlier⟩ |
    ⟨heartbeats, confirmed, heartbeat, confirmation, only⟩
  · obtain ⟨generation, paced⟩ := kept connection (earlier connection established)
    refine ⟨generation, ?_⟩
    by_cases own : action.task = some (.heartbeat generation)
    · cases steps_of_step moved with
      | resume task reply choice created resumes =>
          obtain rfl : task = .heartbeat generation := by simpa [Action.task] using own
          obtain ⟨point, standing, pacing⟩ := paced.pacing
          have uncancelled : ∀ failure, reply = .raised failure → ∃ reconnect,
              clocked.state.shared.reconnect = some reconnect ∧
                reconnect.owner = .heartbeat generation := by
            rintro failure rfl
            refine (punctual paced.current).resolve_left ?_
            rintro ⟨left, other, discarding⟩
            obtain rfl := Point.heartbeat.inj (standing.symm.trans discarding)
            exact pacing
          have paces := paces_of_step guarded positive standing pacing uncancelled moved
          exact paced.own installs heartbeats paces established (guarded.drives drives)
      | _ => simp [Action.task] at own
    · refine paced.other installs heartbeats own
        (tasks_of_step fits moved own (by simp) (by simp)) fun active => ?_
      -- a handshake would need the lock, which is free while a connection is active
      rcases established with after | ⟨_, inside, -⟩
      · exact after
      · rw [guarded.idle_of_locked drives (Shared.isSome_of_handshake inside)] at active
        contradiction
  · obtain rfl := only connection established
    refine ⟨_, Paced.created delay installs heartbeats confirmation ?_ ?_⟩
    · cases action with
      | resume task reply choice =>
          exact guarded.locked (Shared.isSome_of_confirmation confirmation)
      | _ => contradiction
    · exact heartbeat_created_of_step reach moved

end Clocked

theorem kept_of_reaches (positive : 0 < settings.writeRetryAttempts)
    (reach : (clockedClient settings retryInterval).Reaches (Punctual delay) clocked) :
    clocked.Kept delay := by
  refine (@invariant_of_clocked _ _ _ _ (Clocked.Kept delay) ?_ ?_ ?_ ?_ reach).2
  · rintro connection (active | ⟨_, inside, -⟩)
    · contradiction
    · contradiction
  · intro clocked action state _ reachable kept punctual _ moved
    exact kept.step positive reachable punctual moved
  · intro clocked time kept punctual connection established
    obtain ⟨generation, current, interval, paced⟩ := kept connection established
    refine ⟨generation, current, interval, ?_⟩
    rcases paced with ⟨standing, started⟩ | ⟨standing, active, asleep⟩
    · refine .inl ⟨standing, fun active => ⟨(started active).1, ?_⟩⟩
      have early := punctual generation current (Option.ne_none_iff_exists'.mpr ⟨_, active⟩)
      rcases standing with created | ⟨left, connecting⟩
      · rwa [created] at early
      · rwa [connecting] at early
    · obtain ⟨time, beat, wakes, -⟩ := asleep
      have early := punctual generation current (Option.ne_none_iff_exists'.mpr ⟨_, active⟩)
      rw [standing] at early
      exact .inr ⟨standing, active, time, beat, wakes, early⟩
  · intro clocked connection kept _ other established
    obtain ⟨generation, current, interval, paced⟩ := kept other established
    exact ⟨generation, current, interval, paced⟩

namespace Clocked

/-- Between two heartbeats of one task lies its interval. -/
structure Spaced (clocked : Clocked) : Prop where
  born : ∀ entry ∈ clocked.beats, entry.1 < clocked.state.shared.heartbeats
  rested : ∀ generation connection time, (generation, connection, time) ∈ clocked.beats →
    time + clocked.intervals generation ≤ clocked.now ∨
    (clocked.state.tasks (.heartbeat generation) = .heartbeat .sleeping ∧
      time + clocked.intervals generation ≤ clocked.wakes generation) ∨
    ∃ failure, clocked.state.tasks (.heartbeat generation) = .raised failure
  spaced : clocked.beats.Pairwise fun earlier later => earlier.1 = later.1 →
    earlier.2.2 + clocked.intervals earlier.1 ≤ later.2.2

variable {action : Action} {state : State} {connection : ConnectionId} {generation : Nat}

/-- Intervals of heartbeat tasks do not change. -/
theorem intervals_advance (old : generation < clocked.state.shared.heartbeats) :
    (clocked.advance settings retryInterval action state).intervals generation =
      clocked.intervals generation := by
  simp only [advance]
  split
  · rfl
  · cases clocked.state.confirmation settings action with
    | none => rfl
    | some confirmed => exact Function.update_of_ne (Nat.ne_of_lt old) _ _

/-- A sleeping heartbeat task goes on when its time has come, or ends. -/
theorem woken_of_step {reply : Reply} {choice : Choice}
    (installs : Installs clocked.state.shared state.shared)
    (asleep : clocked.state.tasks (.heartbeat generation) = .heartbeat .sleeping)
    (enabled : clocked.enabled (.resume (.heartbeat generation) reply choice) = true)
    (moved : step settings clocked.state (.resume (.heartbeat generation) reply choice) =
      some state) :
    (reply = .returned ∧ clocked.wakes generation ≤ clocked.now) ∨
    (clocked.beaten state (.resume (.heartbeat generation) reply choice) = [] ∧
      ∃ failure, state.tasks (.heartbeat generation) = .raised failure) := by
  cases steps_of_step moved with
  | resume _ _ _ created resumes =>
      rw [asleep] at resumes
      cases reply with
      | returned => exact .inl ⟨rfl, by simpa [Clocked.enabled, asleep] using enabled⟩
      | raised failure =>
          obtain rfl : failure = .cancelled := by simpa [Clocked.enabled, asleep] using enabled
          simp only [Point.resume, HeartbeatPoint.resume, HeartbeatPoint.ended,
            Option.some.injEq] at resumes
          subst resumes
          have beats : clocked.state.shared.beats = clocked.state.shared.beats ++ [] :=
            (List.append_nil _).symm
          exact .inr ⟨beaten_of_beats installs beats, .cancelled,
            State.tasks_store_of_unspawned rfl⟩
      | _ => simp [Point.resume, HeartbeatPoint.resume] at resumes

theorem task_of_beat {beat : Nat × ConnectionId} (beaten : beat ∈ clocked.beaten state action) :
    action.task = some (.heartbeat beat.1) := by
  unfold Clocked.beaten at beaten
  split at beaten
  · obtain ⟨_, -, rfl⟩ := List.mem_map.mp beaten
    rfl
  · contradiction

/-- What a task has to do with the heartbeats that it has written. -/
theorem Spaced.rested_step (spaced : clocked.Spaced) (fits : clocked.state.Fits)
    (enabled : clocked.enabled action = true)
    (moved : Stompman.step settings clocked.state action = some state) {time : Nat}
    (member : (generation, connection, time) ∈ clocked.beats) :
    time + clocked.intervals generation ≤ clocked.now ∨
    (action.task ≠ some (.heartbeat generation) ∧
      state.tasks (.heartbeat generation) = .heartbeat .sleeping ∧
      time + clocked.intervals generation ≤ clocked.wakes generation) ∨
    ((∀ beat ∈ clocked.beaten state action, beat.1 ≠ generation) ∧
      ∃ failure, state.tasks (.heartbeat generation) = .raised failure) := by
  by_cases own : action.task = some (.heartbeat generation)
  · cases steps_of_step moved with
    | resume task reply choice created resumes =>
        obtain rfl : task = .heartbeat generation := by simpa [Action.task] using own
        rcases spaced.rested generation connection time member with past | ⟨asleep, rested⟩ |
          ⟨failure, raised⟩
        · exact .inl past
        · have installs := Installs.relates.of_step fits moved
          rcases woken_of_step installs asleep enabled moved with ⟨-, woken⟩ | ⟨quiet, ended⟩
          · exact .inl (rested.trans woken)
          · exact .inr (.inr ⟨by simp [quiet], ended⟩)
        · rw [raised] at resumes
          contradiction
    | _ => simp [Action.task] at own
  · have tasks := tasks_of_step fits moved own (by simp) (by simp)
    rw [tasks]
    rcases spaced.rested generation connection time member with past | ⟨asleep, rested⟩ | ended
    · exact .inl past
    · exact .inr (.inl ⟨own, asleep, rested⟩)
    · refine .inr (.inr ⟨?_, ended⟩)
      rintro beat beaten rfl
      exact own (task_of_beat beaten)

/-- A heartbeat is written by the task that is resumed, which then sleeps for its interval. -/
theorem beat_of_step (retryInterval : Nat) (fits : clocked.state.Fits) {beat : Nat × ConnectionId}
    (beaten : beat ∈ clocked.beaten state action)
    (moved : Stompman.step settings clocked.state action = some state) :
    clocked.beaten state action = [beat] ∧ beat.1 < clocked.state.shared.heartbeats ∧
      state.tasks (.heartbeat beat.1) = .heartbeat .sleeping ∧
      (clocked.advance settings retryInterval action state).wakes beat.1 =
        clocked.now + clocked.intervals beat.1 := by
  have installs := Installs.relates.of_step fits moved
  have own := task_of_beat beaten
  cases steps_of_step moved with
  | resume task reply choice created resumes =>
      obtain ⟨generation, connection⟩ := beat
      obtain rfl : task = .heartbeat generation := by simpa [Action.task] using own
      obtain ⟨point, standing⟩ := fits.beating resumes
      rw [standing] at resumes
      have unspawned := (Cycles.heartbeat generation resumes).spawned.resolve_right (by simp)
      rcases HeartbeatPoint.beats_resume resumes with quiet | ⟨other, written, asleep⟩
      · rw [beaten_of_beats installs (quiet.trans (List.append_nil _).symm)] at beaten
        contradiction
      · have single := @beaten_of_beats _ _ generation reply choice installs _ written
        obtain rfl : connection = other := by simpa [single] using beaten
        refine ⟨single, of_decide_eq_true created, ?_, ?_⟩
        · rwa [State.tasks_store_of_unspawned unspawned]
        · simp only [advance, single, List.map_cons, List.isEmpty_cons, Bool.false_eq_true,
            if_false, Function.update_self]
  | _ => simp [Action.task] at own

theorem Spaced.step (spaced : clocked.Spaced) (fits : clocked.state.Fits)
    (enabled : clocked.enabled action = true)
    (moved : Stompman.step settings clocked.state action = some state) :
    (clocked.advance settings retryInterval action state).Spaced := by
  have grows := (Drives.of_step fits moved).heartbeats_le
  have old : ∀ entry ∈ clocked.beats,
      (clocked.advance settings retryInterval action state).intervals entry.1 =
        clocked.intervals entry.1 :=
    fun entry member => intervals_advance (spaced.born entry member)
  have beats_eq : (clocked.advance settings retryInterval action state).beats = clocked.beats ++
      (clocked.beaten state action).map fun (generation, connection) =>
        (generation, connection, clocked.now) := rfl
  refine ⟨?_, ?_, ?_⟩
  · intro entry member
    rw [beats_eq, List.mem_append] at member
    rcases member with known | new
    · exact Nat.lt_of_lt_of_le (spaced.born entry known) grows
    · obtain ⟨beat, beaten, rfl⟩ := List.mem_map.mp new
      obtain ⟨-, born, -⟩ := beat_of_step retryInterval fits beaten moved
      exact Nat.lt_of_lt_of_le born grows
  · intro generation connection time member
    rw [beats_eq, List.mem_append] at member
    rcases member with known | new
    · rw [intervals_advance (spaced.born _ known)]
      rcases spaced.rested_step fits enabled moved known with past | ⟨other, asleep, rested⟩ |
        ⟨-, ended⟩
      · exact .inl past
      · refine .inr (.inl ⟨asleep, ?_⟩)
        rwa [wakes_advance other]
      · exact .inr (.inr ended)
    · obtain ⟨⟨own, beaten⟩, beat, same⟩ := List.mem_map.mp new
      obtain ⟨rfl, rfl, rfl⟩ : own = generation ∧ beaten = connection ∧ clocked.now = time := by
        simpa using same
      obtain ⟨-, born, asleep, wakes⟩ := beat_of_step retryInterval fits beat moved
      refine .inr (.inl ⟨asleep, ?_⟩)
      rw [wakes, intervals_advance born]
  · rw [beats_eq, List.pairwise_append]
    refine ⟨?_, ?_, ?_⟩
    · refine spaced.spaced.imp_of_mem fun known _ apart same => ?_
      rw [old _ known]
      exact apart same
    · cases written : clocked.beaten state action with
      | nil => exact .nil
      | cons beat others =>
          -- a step writes one heartbeat at most
          have beaten : beat ∈ clocked.beaten state action := by
            rw [written]
            exact List.mem_cons_self
          rw [← written, (beat_of_step retryInterval fits beaten moved).1]
          exact List.pairwise_singleton _ _
    · intro entry known later new same
      obtain ⟨beat, beaten, rfl⟩ := List.mem_map.mp new
      rw [old _ known]
      obtain ⟨generation, connection, time⟩ := entry
      obtain rfl : generation = beat.1 := same
      rcases spaced.rested_step fits enabled moved known with past | ⟨other, -⟩ | ⟨quiet, -⟩
      · exact past
      · exact absurd (task_of_beat beaten) other
      · exact absurd rfl (quiet beat beaten)

end Clocked

theorem spaced_of_reaches {allowed : Clocked → ClockedAction → Prop}
    (reach : (clockedClient settings retryInterval).Reaches allowed clocked) : clocked.Spaced := by
  refine (@invariant_of_clocked _ _ _ _ Clocked.Spaced ?_ ?_ ?_ ?_ reach).2
  · exact ⟨by simp [clockedClient], by simp [clockedClient], .nil⟩
  · intro clocked action state _ reachable spaced _ enabled moved
    exact spaced.step (fits_of_reaches reachable) enabled moved
  · intro clocked time spaced _
    refine ⟨spaced.born, fun generation connection beat member => ?_, spaced.spaced⟩
    exact (spaced.rested generation connection beat member).imp_left Nat.le_add_right_of_le
  · intro clocked connection spaced _
    exact ⟨spaced.born, spaced.rested, spaced.spaced⟩

/-- Times are recorded for all events. -/
theorem map_log_of_clocked {allowed : Clocked → ClockedAction → Prop}
    (reach : (clockedClient settings retryInterval).Reaches allowed clocked) :
    clocked.log.map Prod.fst = clocked.state.shared.trace := by
  refine (@invariant_of_clocked _ _ _ _
    (fun clocked => clocked.log.map Prod.fst = clocked.state.shared.trace) rfl ?_ ?_ ?_ reach).2
  · intro clocked action state _ reachable recorded _ _ moved
    obtain ⟨later, trace_eq, -⟩ := Installs.relates.of_step (fits_of_reaches reachable) moved
    simp [Clocked.advance, trace_eq, recorded, Function.comp_def]
  · exact fun _ _ recorded _ => recorded
  · exact fun _ _ recorded _ => recorded

end Runs

/-- Two heartbeats of one task are at least its interval apart.  If the current heartbeat task is
resumed in time, up to a delay, and is not cancelled, then an active connection has become active
or got a heartbeat recently: within the delay, or within the interval that its server wants and the
delay. -/
theorem heartbeats_of_reachable {settings : Settings} {retryInterval : Nat} {clocked : Clocked}
    (reach : (clockedClient settings retryInterval).Reachable clocked) :
    clocked.log.map Prod.fst = clocked.state.shared.trace ∧
    clocked.beats.Pairwise (fun earlier later => earlier.1 = later.1 →
      earlier.2.2 + clocked.intervals earlier.1 ≤ later.2.2) ∧
    ∀ delay connection, 0 < settings.writeRetryAttempts →
      (clockedClient settings retryInterval).Reaches (Punctual delay) clocked →
      clocked.state.shared.active = some connection →
      (∃ time, (.activated connection, time) ∈ clocked.log ∧ clocked.now ≤ time + delay) ∨
      ∃ generation time, (generation, connection, time) ∈ clocked.beats ∧
        clocked.now ≤ time +
          (clocked.serverHeartbeat connection).wantToReceiveIntervalMs.toNat + delay := by
  refine ⟨map_log_of_clocked reach, (spaced_of_reaches reach).spaced, ?_⟩
  intro delay connection positive punctual active
  obtain ⟨generation, -, interval, paced⟩ :=
    kept_of_reaches positive punctual connection (.inl active)
  rcases paced with ⟨-, started⟩ | ⟨-, -, time, beat, wakes, early⟩
  · exact .inl ⟨_, started active⟩
  · refine .inr ⟨generation, time, beat, ?_⟩
    rwa [wakes, interval] at early

/-- No time passes that the current heartbeat task should not sleep through, up to a delay, and no
heartbeat task is interrupted. -/
def punctually (delay : Nat) (clocked : Clocked) : ClockedAction → Bool
  | .passes time =>
      clocked.state.shared.heartbeats = 0 ||
        match clocked.state.tasks (.heartbeat (clocked.state.shared.heartbeats - 1)) with
        | .heartbeat .created | .heartbeat (.connecting _) =>
            clocked.now + time ≤ clocked.connectedAt + delay
        | .heartbeat .sleeping =>
            clocked.now + time ≤ clocked.wakes (clocked.state.shared.heartbeats - 1) + delay
        | _ => true
  | .client (.resume (.heartbeat _) (.raised _) _) => false
  | _ => true

theorem punctual_of_punctually {delay : Nat} {clocked : Clocked} {action : ClockedAction}
    (passes : punctually delay clocked action = true) : Punctual delay clocked action := by
  cases action with
  | passes time =>
      intro generation current _
      obtain rfl : generation = clocked.state.shared.heartbeats - 1 := by omega
      have some : clocked.state.shared.heartbeats ≠ 0 := by omega
      simp only [punctually, some, decide_false, Bool.false_or] at passes
      split at passes <;> simp_all
  | client action =>
      unfold punctually at passes
      split at passes
      · contradiction
      · contradiction
      · rename_i elsewhere
        unfold Punctual
        split
        · contradiction
        · rename_i same
          exact absurd same (elsewhere _ _ _)
        · trivial
  | reads connection => trivial

/-- The CONNECTED frame of a server that sends a heartbeat every five milliseconds and wants one
every ten. -/
def beatingConnected : Frame :=
  .bodyless .connected (Dict.empty.update [("version", "1.2"), ("heart-beat", "5,10")])

/-- A client connects to such a server, and its heartbeat task is resumed a little late each
time. -/
def beatsTwice : List ClockedAction :=
  [.client .enter, .client (returns .starter), .client (.resume .starter (.connected 0) {}),
    .client (returns .starter), .reads 0,
    .client (.resume .starter (.frame (.frame beatingConnected)) {}), .passes 1,
    .client (returns (.heartbeat 0)), .passes 11, .client (returns (.heartbeat 0)), .passes 4]

theorem heartbeats_of_reachable_beatsTwice :
    ∃ clocked, (clockedClient plainSettings 1000).Reaches (Punctual 1) clocked ∧
      clocked.now = 16 ∧ clocked.beats = [(0, 0, 1), (0, 0, 12)] ∧
      ((∃ time, (.activated 0, time) ∈ clocked.log ∧ 16 ≤ time + 1) ∨
        ∃ generation time, (generation, 0, time) ∈ clocked.beats ∧ 16 ≤ time + 10 + 1) := by
  have replayed : ((clockedClient plainSettings 1000).replay (punctually 1)
      (clockedClient plainSettings 1000).initial beatsTwice).map (fun clocked =>
        decide (clocked.now = 16 ∧ clocked.beats = [(0, 0, 1), (0, 0, 12)] ∧
          clocked.state.shared.active = some 0 ∧ clocked.serverHeartbeat 0 = ⟨5, 10⟩)) =
        some true := by
    decide +kernel
  obtain ⟨clocked, reach, happened⟩ :=
    System.exists_of_replay (fun _ _ => punctual_of_punctually) replayed
  obtain ⟨now, beats, active, server⟩ := of_decide_eq_true happened
  have recent := (heartbeats_of_reachable reach.reachable).2.2 1 0 (by decide) reach active
  rw [now, server] at recent
  exact ⟨clocked, reach, now, beats, recent⟩

end Stompman
