import Stompman.Heartbeats
import Stompman.Shutdown

/-!
# Whether the server is alive

`is_alive` compares the time since the last read with the interval at which the server said that it
would send heartbeats.  The time since the connection became active stands in where nothing has been
read yet, which never happens: a connection becomes active only after its CONNECTED frame has been
read.

The comparison is one of floats, and is a parameter here.  The task of the listener is done when its
loop is over and its task group has waited for the handlers.
-/

namespace Stompman

open Foundation

/-! ## Comparing times -/

/-- `now - since < interval / 1000 * factor` in floats, for two times, an interval in milliseconds
and a factor; `none` is the `OverflowError` of a number that is too large for a float. -/
def Comparison : Type := (now since : Nat) → (interval : Int) → (factor : Nat) → Option Bool

/-- What holds of a comparison in floats: rounding keeps the order and the sign of numbers, and the
times do not overflow. -/
structure Comparison.Rounds (within : Comparison) : Prop where
  monotone : ∀ {now since later interval factor}, since ≤ later → later ≤ now →
    within now since interval factor = some true → within now later interval factor = some true
  unsigned : ∀ {now since interval factor}, since ≤ now → interval ≤ 0 →
    within now since interval factor ≠ some true
  overflows : ∀ {now since interval factor}, within now since interval factor = none →
    ∀ later, within now later interval factor = none

/-- The comparison without rounding. -/
def Comparison.exact : Comparison := fun now since interval factor =>
  some (decide ((now : Int) - since < interval * factor))

theorem Comparison.rounds_exact : exact.Rounds where
  monotone := by
    intro now since later interval factor order past recent
    simp only [exact, Option.some.injEq, decide_eq_true_eq] at recent ⊢
    omega
  unsigned := by
    intro now since interval factor past silent recent
    have threshold := Int.mul_nonpos_of_nonpos_of_nonneg silent (Int.natCast_nonneg factor)
    simp only [exact, Option.some.injEq, decide_eq_true_eq] at recent
    omega
  overflows := by
    intro now since interval factor raised
    contradiction

namespace Clocked

/-- `ActiveConnectionState.is_alive`. -/
def isAliveOn (within : Comparison) (factor : Nat) (clocked : Clocked) (connection : ConnectionId) :
    Option Bool :=
  let interval := (clocked.serverHeartbeat connection).willSendIntervalMs
  match clocked.lastReadTime connection with
  | none => within clocked.now clocked.connectedAt interval factor
  | some lastReadTime => within clocked.now lastReadTime interval factor

/-- The loop of the listener is over, and so are the handlers that its task group waits for. -/
def joinable (clocked : Clocked) : Bool :=
  (clocked.state.tasks .listener).done &&
    (List.range clocked.state.shared.messages).all fun number =>
      match clocked.state.tasks (.handler number) with
      | .absent | .finished => true
      | _ => false

/-- `last_read_time` is the time of the last read, and something has been read from every
established connection. -/
structure Heard (clocked : Clocked) : Prop where
  recorded : ∀ connection time, clocked.lastReadTime connection = some time →
    (connection, time) ∈ clocked.reads
  latest : ∀ connection time, (connection, time) ∈ clocked.reads → time ≤ clocked.now ∧
    ∃ last, clocked.lastReadTime connection = some last ∧ time ≤ last
  heard : ∀ connection, clocked.state.shared.Established connection →
    (clocked.lastReadTime connection).isSome

variable {settings : Settings} {retryInterval : Nat} {clocked : Clocked} {action : Action}
  {state : State}

/-- CONNECTED comes out of bytes that have been read from its connection. -/
theorem isSome_of_confirmation {connection : ConnectionId} {heartbeat : Heartbeat}
    (guarded : clocked.state.Guarded) (enabled : clocked.enabled action = true)
    (confirmed : clocked.state.confirmation settings action = some (connection, heartbeat)) :
    (clocked.lastReadTime connection).isSome := by
  cases action with
  | resume task reply choice =>
      simp only [State.confirmation, Shared.confirmation] at confirmed
      split at confirmed
      · split at confirmed
        · rename_i owner issues other collected _ locked _
          split at confirmed
          · rename_i own
            obtain ⟨rfl, -⟩ := own
            obtain ⟨rfl, -⟩ := Prod.mk.inj (Option.some.inj confirmed)
            have connecting := guarded.owner _ locked
            have reads : clocked.state.readsFrom owner = some other := by
              simp only [State.readsFrom, locked]
              cases standing : clocked.state.tasks owner with
              | listener point =>
                  rw [standing] at connecting
                  cases point with
                  | connecting => simp
                  | _ => exact connecting.elim
              | _ => simp
            have given : (clocked.state.readsFrom owner).all fun connection =>
                (clocked.lastReadTime connection).isSome := by
              simpa [Clocked.enabled] using enabled
            rw [reads] at given
            exact given
          · contradiction
        · contradiction
      · contradiction
  | _ => contradiction

theorem Heard.step (heard : clocked.Heard) (fits : clocked.state.Fits)
    (guarded : clocked.state.Guarded) (enabled : clocked.enabled action = true)
    (moved : Stompman.step settings clocked.state action = some state) :
    (clocked.advance settings retryInterval action state).Heard := by
  refine ⟨heard.recorded, heard.latest, fun connection established => ?_⟩
  rcases restarts_of_step fits guarded moved with ⟨-, earlier⟩ |
    ⟨-, confirmed, heartbeat, confirmation, only⟩
  · exact heard.heard connection (earlier connection established)
  · obtain rfl := only connection established
    have read := isSome_of_confirmation guarded enabled confirmation
    exact read

theorem lastReadTime_read (clocked : Clocked) (connection : ConnectionId) :
    (clocked.read connection).lastReadTime connection = some clocked.now :=
  Function.update_self _ _ _

theorem lastReadTime_read_of_ne (clocked : Clocked) {connection other : ConnectionId}
    (different : other ≠ connection) :
    (clocked.read connection).lastReadTime other = clocked.lastReadTime other :=
  Function.update_of_ne different _ _

theorem Heard.read (heard : clocked.Heard) (connection : ConnectionId) :
    (clocked.read connection).Heard := by
  refine ⟨?_, ?_, ?_⟩
  · intro other time last
    by_cases same : other = connection
    · subst same
      rw [lastReadTime_read] at last
      obtain rfl := Option.some.inj last
      exact List.mem_append_right _ List.mem_cons_self
    · rw [lastReadTime_read_of_ne clocked same] at last
      exact List.mem_append_left _ (heard.recorded other time last)
  · intro other time member
    have past : time ≤ clocked.now := by
      rcases List.mem_append.mp member with known | new
      · exact (heard.latest other time known).1
      · exact Nat.le_of_eq (Prod.mk.inj (List.mem_singleton.mp new)).2
    refine ⟨past, ?_⟩
    by_cases same : other = connection
    · subst same
      exact ⟨clocked.now, lastReadTime_read _ _, past⟩
    · rw [lastReadTime_read_of_ne clocked same]
      rcases List.mem_append.mp member with known | new
      · exact (heard.latest other time known).2
      · exact absurd (Prod.mk.inj (List.mem_singleton.mp new)).1 same
  · intro other established
    by_cases same : other = connection
    · subst same
      rw [lastReadTime_read]
      rfl
    · rw [lastReadTime_read_of_ne clocked same]
      exact heard.heard other established

end Clocked

theorem heard_of_reaches {settings : Settings} {retryInterval : Nat} {clocked : Clocked}
    {allowed : Clocked → ClockedAction → Prop}
    (reach : (clockedClient settings retryInterval).Reaches allowed clocked) : clocked.Heard := by
  refine (@invariant_of_clocked _ _ _ _ Clocked.Heard ?_ ?_ ?_ ?_ reach).2
  · refine ⟨by simp [clockedClient], by simp [clockedClient], ?_⟩
    rintro connection (active | ⟨_, inside, -⟩)
    · contradiction
    · contradiction
  · intro clocked action state _ reachable heard _ enabled moved
    exact heard.step (fits_of_reaches reachable) (guarded_of_reaches reachable) enabled moved
  · intro clocked time heard _
    refine ⟨heard.recorded, fun connection read member => ?_, heard.heard⟩
    obtain ⟨past, last⟩ := heard.latest connection read member
    exact ⟨Nat.le_add_right_of_le past, last⟩
  · intro clocked connection heard _
    exact heard.read connection

/-! ## The task of the listener -/

/-- A client beside a clock, and whether `_listen_task` is done. -/
structure Tended where
  clocked : Clocked
  joined : Bool := false

/-- Steps of the client and of time, and the end of `_listen_task`. -/
inductive TendedAction
  | clocked (action : ClockedAction)
  | join

namespace Tended

/-- One step. -/
def step (settings : Settings) (retryInterval : Nat) (tended : Tended) :
    TendedAction → Option Tended
  | .clocked action =>
      ((clockedClient settings retryInterval).step tended.clocked action).map fun clocked =>
        { tended with clocked }
  | .join => if tended.clocked.joinable then some { tended with joined := true } else none

/-- `Client.is_alive`; `none` is an `OverflowError`. -/
def isAlive (within : Comparison) (factor : Nat) (tended : Tended) : Option Bool :=
  if tended.joined then some false
  else
    match tended.clocked.state.shared.active with
    | some connection => tended.clocked.isAliveOn within factor connection
    | none => some false

end Tended

/-- A client beside a clock with its `_listen_task`, as a transition system. -/
def tendedClient (settings : Settings) (retryInterval : Nat) : System Tended TendedAction where
  initial := { clocked := (clockedClient settings retryInterval).initial }
  step := Tended.step settings retryInterval

theorem clocked_of_tended {settings : Settings} {retryInterval : Nat} {tended : Tended}
    (reach : (tendedClient settings retryInterval).Reachable tended) :
    (clockedClient settings retryInterval).Reachable tended.clocked := by
  refine System.Reaches.map Tended.clocked rfl ?_ reach
  intro before after action _ stepped
  cases action with
  | clocked action =>
      obtain ⟨clocked, moved, rfl⟩ := Option.map_eq_some_iff.mp stepped
      exact .inr ⟨action, trivial, moved⟩
  | join =>
      refine .inl ?_
      simp only [tendedClient, Tended.step] at stepped
      split at stepped
      · rw [← Option.some.inj stepped]
      · contradiction

/-- The comparison that `is_alive` makes is one with the last read from the active connection. -/
theorem Clocked.Heard.isAliveOn_eq {clocked : Clocked} (heard : clocked.Heard)
    {connection : ConnectionId}
    (active : clocked.state.shared.active = some connection) :
    ∃ last, (connection, last) ∈ clocked.reads ∧ last ≤ clocked.now ∧
      (∀ time, (connection, time) ∈ clocked.reads → time ≤ last) ∧
      ∀ within factor, clocked.isAliveOn within factor connection =
        within clocked.now last (clocked.serverHeartbeat connection).willSendIntervalMs factor := by
  obtain ⟨last, read⟩ := Option.isSome_iff_exists.mp (heard.heard connection (.inl active))
  have member := heard.recorded connection last read
  refine ⟨last, member, (heard.latest connection last member).1, ?_, ?_⟩
  · intro time earlier
    obtain ⟨-, other, same, later⟩ := heard.latest connection time earlier
    obtain rfl := Option.some.inj (read.symm.trans same)
    exact later
  · intro within factor
    rw [isAliveOn, read]

/-- `is_alive` returns `True` exactly if the task of the listener is not done and a read from the
active connection is recent enough, in the comparison of the program; it raises exactly if the task
is not done and that comparison overflows.  A server that says that it sends no heartbeats is never
alive. -/
theorem isAlive_iff {settings : Settings} {retryInterval : Nat} {tended : Tended}
    (reach : (tendedClient settings retryInterval).Reachable tended) {within : Comparison}
    (rounds : within.Rounds) (factor : Nat) :
    (tended.isAlive within factor = some true ↔ tended.joined = false ∧
      ∃ connection time, tended.clocked.state.shared.active = some connection ∧
        (connection, time) ∈ tended.clocked.reads ∧ within tended.clocked.now time
          (tended.clocked.serverHeartbeat connection).willSendIntervalMs factor = some true) ∧
    (tended.isAlive within factor = none ↔ tended.joined = false ∧
      ∃ connection time, tended.clocked.state.shared.active = some connection ∧
        (connection, time) ∈ tended.clocked.reads ∧ within tended.clocked.now time
          (tended.clocked.serverHeartbeat connection).willSendIntervalMs factor = none) ∧
    ∀ connection, tended.clocked.state.shared.active = some connection →
      (tended.clocked.serverHeartbeat connection).willSendIntervalMs ≤ 0 →
      tended.isAlive within factor ≠ some true := by
  have heard := heard_of_reaches (clocked_of_tended reach)
  cases joined : tended.joined with
  | true => simp [Tended.isAlive, joined]
  | false =>
      cases active : tended.clocked.state.shared.active with
      | none => simp [Tended.isAlive, joined, active]
      | some connection =>
          obtain ⟨last, member, past, latest, compares⟩ := heard.isAliveOn_eq active
          have alive : tended.isAlive within factor = within tended.clocked.now last
              (tended.clocked.serverHeartbeat connection).willSendIntervalMs factor := by
            simp [Tended.isAlive, joined, active, compares]
          rw [alive]
          refine ⟨⟨fun recent => ⟨rfl, connection, last, rfl, member, recent⟩, ?_⟩,
            ⟨fun raised => ⟨rfl, connection, last, rfl, member, raised⟩, ?_⟩, ?_⟩
          · rintro ⟨-, other, time, own, earlier, recent⟩
            obtain rfl := Option.some.inj own
            exact rounds.monotone (latest time earlier) past recent
          · rintro ⟨-, other, time, own, earlier, raised⟩
            obtain rfl := Option.some.inj own
            exact rounds.overflows raised last
          · rintro other own silent
            obtain rfl := Option.some.inj own
            exact rounds.unsigned past silent

/-- Sixteen milliseconds after the only read, a server that sends a heartbeat every five is alive by
a factor of four, and not by a factor of three. -/
theorem isAlive_iff_beatsTwice :
    ∃ tended, (tendedClient plainSettings 1000).Reachable tended ∧
      tended.clocked.reads = [(0, 0)] ∧
      (∃ connection time, tended.clocked.state.shared.active = some connection ∧
        (connection, time) ∈ tended.clocked.reads ∧ Comparison.exact tended.clocked.now time
          (tended.clocked.serverHeartbeat connection).willSendIntervalMs 4 = some true) ∧
      tended.isAlive Comparison.exact 3 = some false := by
  have replayed : ((tendedClient plainSettings 1000).replay (fun _ _ => true)
      (tendedClient plainSettings 1000).initial (beatsTwice.map .clocked)).map (fun tended =>
        decide (tended.clocked.reads = [(0, 0)] ∧
          tended.isAlive Comparison.exact 4 = some true ∧
          tended.isAlive Comparison.exact 3 = some false)) = some true := by
    decide +kernel
  obtain ⟨tended, reach, happened⟩ :=
    System.exists_of_replay (fun _ _ _ => trivial) replayed
  obtain ⟨reads, alive, late⟩ := of_decide_eq_true happened
  exact ⟨tended, reach, reads, ((isAlive_iff reach Comparison.rounds_exact 4).1.mp alive).2, late⟩

end Stompman
