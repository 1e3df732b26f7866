import Stompman.Foundation.Retry
import Stompman.Retries

/-!
# Writing with reconnection

`write_frame_reconnecting` is run to its end while no other task runs.  Each pass of its loop takes
the outcomes of its connection attempts and of its write from a script.  Which of the three results
comes out is read off from the script, and the result is that of the coroutine that stops at every
`await`.
-/

namespace Stompman

open Foundation

/-- What one pass of the loop of `write_frame_reconnecting` meets: the outcomes of
`_connect_to_any_server`, if it has to connect, and whether `write_frame` returns or raises
`ConnectionLostError`.  Outcomes that are not reached are not read. -/
structure Pass where
  connects : Stream' (Except ConnectionIssue ConnectionId)
  written : Bool

/-- The attributes of `ConnectionManager` that a write changes, and its calls of connections. -/
structure Manager where
  /-- `_active_connection_state`. -/
  active : Option ConnectionId
  /-- `_reconnection_count`. -/
  reconnectionCount : Nat := 0
  /-- Calls of `close` in `_discard_failed_connection_state`. -/
  closed : List ConnectionId := []
  /-- Writes that raised `ConnectionLostError`. -/
  lost : List (ConnectionId × AnyFrame) := []
  /-- Writes that returned. -/
  written : List (ConnectionId × AnyFrame) := []
  deriving DecidableEq

namespace Manager

variable (settings : Settings)

/-- `_get_active_connection_state`.  Nobody else holds the lock, so that the second test of the
active connection gives what the first one gave. -/
def getActiveConnectionState (manager : Manager)
    (connects : Stream' (Except ConnectionIssue ConnectionId)) :
    Manager × Except Failure ConnectionId :=
  match manager.active with
  | some connection => (manager, .ok connection)
  | none =>
      match retry connects settings.connectRetryAttempts with
      | .ok connection => ({ manager with active := some connection }, .ok connection)
      | .error issues => (manager, .error (.failedAllConnectAttempts issues))

/-- `_discard_failed_connection_state`. -/
def discardFailedConnectionState (manager : Manager) (connection : ConnectionId) : Manager :=
  if manager.active ≠ some connection then manager
  else
    { manager with
      active := none
      reconnectionCount := manager.reconnectionCount + 1
      closed := manager.closed ++ [connection] }

/-- `write_frame` raises `ConnectionLostError`. -/
def noteLost (manager : Manager) (connection : ConnectionId) (frame : AnyFrame) : Manager :=
  { manager with lost := manager.lost ++ [(connection, frame)] }

/-- `write_frame` returns. -/
def noteWritten (manager : Manager) (connection : ConnectionId) (frame : AnyFrame) : Manager :=
  { manager with written := manager.written ++ [(connection, frame)] }

/-- The loop of `write_frame_reconnecting` and `write_heartbeat_reconnecting`. -/
def writeAttempts (frame : AnyFrame) :
    Nat → Stream' Pass → Manager → Manager × Except Failure Unit
  | 0, _, manager => (manager, .error .failedAllWriteAttempts)
  | left + 1, script, manager =>
      match manager.getActiveConnectionState settings script.head.connects with
      | (manager, .error failure) => (manager, .error failure)
      | (manager, .ok connection) =>
          if script.head.written then (manager.noteWritten connection frame, .ok ())
          else
            writeAttempts frame left script.tail
              ((manager.noteLost connection frame).discardFailedConnectionState connection)

/-- `write_frame_reconnecting`. -/
def writeFrameReconnecting (frame : Frame) (script : Stream' Pass) (manager : Manager) :
    Manager × Except Failure Unit :=
  writeAttempts settings (.frame frame) settings.writeRetryAttempts script manager

/-- `write_heartbeat_reconnecting`. -/
def writeHeartbeatReconnecting (script : Stream' Pass) (manager : Manager) :
    Manager × Except Failure Unit :=
  writeAttempts settings .heartbeat settings.writeRetryAttempts script manager

/-! ## Results of a script -/

/-- The cycle of a pass is made, and all its attempts come to issues.  The first pass connects only
if no connection is active; the later ones always do, for a lost connection has been discarded. -/
def Exhausts (manager : Manager) (script : Stream' Pass) (pass : Nat)
    (issues : List ConnectionIssue) : Prop :=
  (pass = 0 → manager.active = none) ∧
    (script.get pass).connects.take settings.connectRetryAttempts = issues.map .error

/-- The writes of all earlier passes are lost, and none of their cycles is exhausted. -/
def Reaches (manager : Manager) (script : Stream' Pass) (pass : Nat) : Prop :=
  ∀ earlier < pass, (script.get earlier).written = false ∧
    ∀ issues, ¬ manager.Exhausts settings script earlier issues

/-- A write among the attempts succeeds before any cycle is exhausted. -/
def Succeeds (manager : Manager) (script : Stream' Pass) (attempts : Nat) : Prop :=
  ∃ pass < attempts, manager.Reaches settings script pass ∧
    (∀ issues, ¬ manager.Exhausts settings script pass issues) ∧
    (script.get pass).written = true

/-- A cycle is exhausted with these issues before a write has succeeded. -/
def Disconnects (manager : Manager) (script : Stream' Pass) (attempts : Nat)
    (issues : List ConnectionIssue) : Prop :=
  ∃ pass < attempts, manager.Reaches settings script pass ∧
    manager.Exhausts settings script pass issues

/-- The results and effects that the retry contract promises, for a state before a call, its script
and what the call comes to. -/
structure KeepsContract (frame : AnyFrame) (script : Stream' Pass) (before after : Manager)
    (result : Except Failure Unit) : Prop where
  /-- The call returns, or raises one of two exceptions. -/
  ends : result = .ok () ∨ (∃ issues, result = .error (.failedAllConnectAttempts issues)) ∨
    result = .error .failedAllWriteAttempts
  returns : result = .ok () ↔ before.Succeeds settings script settings.writeRetryAttempts
  disconnects : ∀ issues, result = .error (.failedAllConnectAttempts issues) ↔
    before.Disconnects settings script settings.writeRetryAttempts issues
  loses : result = .error .failedAllWriteAttempts ↔
    before.Reaches settings script settings.writeRetryAttempts
  /-- One write has succeeded, on the connection that is active. -/
  writes : result = .ok () → ∃ connection, after.active = some connection ∧
    after.written = before.written ++ [(connection, frame)]
  /-- A call that fails has written nothing and leaves no active connection. -/
  fails : result ≠ .ok () → after.active = none ∧ after.written = before.written
  /-- Each connection on which a write failed is closed, and the failed writes are counted. -/
  closes : ∃ connections, after.lost = before.lost ++ connections.map (·, frame) ∧
    after.closed = before.closed ++ connections ∧
    after.reconnectionCount = before.reconnectionCount + connections.length

/-! ## One pass -/

/-- `_get_active_connection_state` has connected. -/
def activate (manager : Manager) (connection : ConnectionId) : Manager :=
  { manager with active := some connection }

theorem activate_of_active {manager : Manager} {connection : ConnectionId}
    (active : manager.active = some connection) : manager.activate connection = manager := by
  simp [activate, ← active]

/-- A write on a connection is lost, and the connection is discarded. -/
def lose (manager : Manager) (connection : ConnectionId) (frame : AnyFrame) : Manager :=
  { manager with
    active := none
    reconnectionCount := manager.reconnectionCount + 1
    closed := manager.closed ++ [connection]
    lost := manager.lost ++ [(connection, frame)] }

theorem discardFailedConnectionState_activate (manager : Manager) (connection : ConnectionId)
    (frame : AnyFrame) :
    ((manager.activate connection).noteLost connection frame).discardFailedConnectionState
      connection = manager.lose connection frame := by
  simp [discardFailedConnectionState, noteLost, activate, lose]

variable {settings} {manager before after : Manager} {script : Stream' Pass} {frame : AnyFrame}

/-- A pass comes to a write, unless its cycle is exhausted. -/
theorem getActiveConnectionState_cases (manager : Manager) (script : Stream' Pass) :
    (∃ issues, manager.Exhausts settings script 0 issues ∧
      manager.getActiveConnectionState settings script.head.connects =
        (manager, .error (.failedAllConnectAttempts issues))) ∨
    ((∀ issues, ¬ manager.Exhausts settings script 0 issues) ∧ ∃ connection,
      manager.getActiveConnectionState settings script.head.connects =
        (manager.activate connection, .ok connection)) := by
  unfold getActiveConnectionState
  cases active : manager.active with
  | some connection =>
      refine .inr ⟨?_, connection, ?_⟩
      · rintro issues ⟨idle, -⟩
        simp [active] at idle
      · rw [activate_of_active active]
  | none =>
      cases tried : retry script.head.connects settings.connectRetryAttempts with
      | error issues =>
          refine .inl ⟨issues, ⟨fun _ => active, ?_⟩, rfl⟩
          exact (retry_eq_error_iff _ _ issues).mp tried
      | ok connection =>
          refine .inr ⟨?_, connection, rfl⟩
          rintro issues ⟨-, taken⟩
          rw [(retry_eq_error_iff script.head.connects _ issues).mpr taken] at tried
          contradiction

/-- The rest of a pass, and of the loop, after a connection has been got. -/
def writeOn (settings : Settings) (frame : AnyFrame) (left : Nat) (connection : ConnectionId)
    (written : Bool) (script : Stream' Pass) (manager : Manager) : Manager × Except Failure Unit :=
  if written then ((manager.activate connection).noteWritten connection frame, .ok ())
  else writeAttempts settings frame left script (manager.lose connection frame)

theorem writeAttempts_of_connected {connection : ConnectionId} (left : Nat)
    (got : manager.getActiveConnectionState settings script.head.connects =
      (manager.activate connection, .ok connection)) :
    writeAttempts settings frame (left + 1) script manager =
      manager.writeOn settings frame left connection script.head.written script.tail := by
  simp only [writeAttempts, got, discardFailedConnectionState_activate]
  rfl

theorem writeAttempts_of_exhausted {failure : Failure} (left : Nat)
    (got : manager.getActiveConnectionState settings script.head.connects =
      (manager, .error failure)) :
    writeAttempts settings frame (left + 1) script manager = (manager, .error failure) := by
  simp only [writeAttempts, got]

/-- What the loop can come to. -/
inductive Concludes (settings : Settings) (frame : AnyFrame) :
    Nat → Stream' Pass → Manager → Manager × Except Failure Unit → Prop
  | spent (script : Stream' Pass) (manager : Manager) :
      Concludes settings frame 0 script manager (manager, .error .failedAllWriteAttempts)
  | exhausted (left : Nat) (script : Stream' Pass) (manager : Manager)
      (issues : List ConnectionIssue) (full : manager.Exhausts settings script 0 issues) :
      Concludes settings frame (left + 1) script manager
        (manager, .error (.failedAllConnectAttempts issues))
  | written (left : Nat) (script : Stream' Pass) (manager : Manager) (connection : ConnectionId)
      (connected : ∀ issues, ¬ manager.Exhausts settings script 0 issues)
      (succeeds : (script.get 0).written = true) :
      Concludes settings frame (left + 1) script manager
        ((manager.activate connection).noteWritten connection frame, .ok ())
  | lost (left : Nat) (script : Stream' Pass) (manager : Manager) (connection : ConnectionId)
      (connected : ∀ issues, ¬ manager.Exhausts settings script 0 issues)
      (fails : (script.get 0).written = false) {result : Manager × Except Failure Unit}
      (rest : Concludes settings frame left script.tail (manager.lose connection frame) result) :
      Concludes settings frame (left + 1) script manager result

theorem concludes_writeAttempts (attempts : Nat) (script : Stream' Pass) (manager : Manager) :
    Concludes settings frame attempts script manager
      (writeAttempts settings frame attempts script manager) := by
  induction attempts generalizing script manager with
  | zero => exact .spent script manager
  | succ left ih =>
      rcases manager.getActiveConnectionState_cases script with
        ⟨issues, full, got⟩ | ⟨connected, connection, got⟩
      · rw [writeAttempts_of_exhausted left got]
        exact .exhausted left script manager issues full
      · rw [writeAttempts_of_connected left got]
        cases succeeds : script.head.written with
        | true => exact .written left script manager connection connected succeeds
        | false => exact .lost left script manager connection connected succeeds (ih _ _)

/-! ## The script decides -/

/-- After a lost write every pass connects. -/
theorem exhausts_succ_iff (idle : after.active = none) (pass : Nat)
    (issues : List ConnectionIssue) :
    manager.Exhausts settings script (pass + 1) issues ↔
      after.Exhausts settings script.tail pass issues := by
  simp [Exhausts, idle]

theorem Reaches.succ (idle : after.active = none) (fails : (script.get 0).written = false)
    (connected : ∀ issues, ¬ manager.Exhausts settings script 0 issues) {pass : Nat}
    (reaches : after.Reaches settings script.tail pass) :
    manager.Reaches settings script (pass + 1) := by
  intro earlier within
  cases earlier with
  | zero => exact ⟨fails, connected⟩
  | succ earlier =>
      obtain ⟨lost, unspent⟩ := reaches earlier (Nat.lt_of_succ_lt_succ within)
      refine ⟨lost, fun issues full => ?_⟩
      exact unspent issues ((exhausts_succ_iff idle earlier issues).mp full)

theorem reaches_zero : manager.Reaches settings script 0 := by
  intro earlier within
  exact absurd within (Nat.not_lt_zero earlier)

/-- Each result has its reason in the script. -/
theorem Concludes.reason {attempts : Nat} {result : Manager × Except Failure Unit}
    (concludes : Concludes settings frame attempts script manager result) :
    (result.2 = .ok () ∧ manager.Succeeds settings script attempts) ∨
      (∃ issues, result.2 = .error (.failedAllConnectAttempts issues) ∧
        manager.Disconnects settings script attempts issues) ∨
      (result.2 = .error .failedAllWriteAttempts ∧ manager.Reaches settings script attempts) := by
  induction concludes with
  | spent => exact .inr (.inr ⟨rfl, reaches_zero⟩)
  | exhausted left script manager issues full =>
      exact .inr (.inl ⟨issues, rfl, 0, Nat.succ_pos left, reaches_zero, full⟩)
  | written left script manager connection connected succeeds =>
      exact .inl ⟨rfl, 0, Nat.succ_pos left, reaches_zero, connected, succeeds⟩
  | lost left script manager connection connected fails _ ih =>
      have idle : (manager.lose connection frame).active = none := rfl
      rcases ih with ⟨ended, pass, within, reaches, opened, succeeds⟩ |
        ⟨issues, ended, pass, within, reaches, full⟩ | ⟨ended, reaches⟩
      · refine .inl ⟨ended, pass + 1, Nat.succ_lt_succ within, reaches.succ idle fails connected,
          ?_, succeeds⟩
        intro issues full
        exact opened issues ((exhausts_succ_iff idle pass issues).mp full)
      · exact .inr (.inl ⟨issues, ended, pass + 1, Nat.succ_lt_succ within,
          reaches.succ idle fails connected, (exhausts_succ_iff idle pass issues).mpr full⟩)
      · exact .inr (.inr ⟨ended, reaches.succ idle fails connected⟩)

section Exclusion

variable {attempts : Nat} {issues other : List ConnectionIssue}

theorem Succeeds.not_reaches (succeeds : manager.Succeeds settings script attempts) :
    ¬ manager.Reaches settings script attempts := by
  obtain ⟨pass, within, -, -, written⟩ := succeeds
  intro reaches
  rw [(reaches pass within).1] at written
  contradiction

theorem Disconnects.not_reaches
    (disconnects : manager.Disconnects settings script attempts issues) :
    ¬ manager.Reaches settings script attempts := by
  obtain ⟨pass, within, -, full⟩ := disconnects
  intro reaches
  exact (reaches pass within).2 issues full

theorem Succeeds.not_disconnects (succeeds : manager.Succeeds settings script attempts) :
    ¬ manager.Disconnects settings script attempts issues := by
  obtain ⟨pass, -, reaches, connected, written⟩ := succeeds
  rintro ⟨cycle, -, arrives, full⟩
  rcases Nat.lt_trichotomy cycle pass with early | rfl | late
  · exact (reaches cycle early).2 issues full
  · exact connected issues full
  · rw [(arrives pass late).1] at written
    contradiction

/-- The issues of the exhausted cycle are determined. -/
theorem Disconnects.unique (disconnects : manager.Disconnects settings script attempts issues)
    (again : manager.Disconnects settings script attempts other) : issues = other := by
  obtain ⟨pass, -, reaches, full⟩ := disconnects
  obtain ⟨cycle, -, arrives, also⟩ := again
  rcases Nat.lt_trichotomy cycle pass with early | rfl | late
  · exact absurd also ((reaches cycle early).2 other)
  · have same : issues.map Except.error = other.map (@Except.error _ ConnectionId) :=
      full.2.symm.trans also.2
    exact List.map_injective_iff.mpr (fun _ _ => Except.error.inj) same
  · exact absurd full ((arrives pass late).2 issues)

end Exclusion

/-- What a call leaves behind. -/
theorem Concludes.effects {attempts : Nat} {result : Manager × Except Failure Unit}
    (concludes : Concludes settings frame attempts script manager result) :
    (result.2 = .ok () → ∃ connection, result.1.active = some connection ∧
      result.1.written = manager.written ++ [(connection, frame)]) ∧
    (result.2 ≠ .ok () → manager.active = none ∨ 0 < attempts →
      result.1.active = none ∧ result.1.written = manager.written) ∧
    ∃ connections, result.1.lost = manager.lost ++ connections.map (·, frame) ∧
      result.1.closed = manager.closed ++ connections ∧
      result.1.reconnectionCount = manager.reconnectionCount + connections.length := by
  induction concludes with
  | spent script manager =>
      refine ⟨by simp, ?_, [], by simp, by simp, rfl⟩
      rintro - (idle | some)
      · exact ⟨idle, rfl⟩
      · contradiction
  | exhausted left script manager issues full =>
      exact ⟨by simp, fun _ _ => ⟨full.1 rfl, rfl⟩, [], by simp, by simp, rfl⟩
  | written left script manager connection =>
      exact ⟨fun _ => ⟨connection, rfl, rfl⟩, fun failed => absurd rfl failed, [],
        by simp [noteWritten, activate], by simp [noteWritten, activate], rfl⟩
  | lost left script manager connection connected fails _ ih =>
      obtain ⟨writes, failed, connections, lost, closed, count⟩ := ih
      refine ⟨writes, fun ended _ => failed ended (.inl rfl), connection :: connections, ?_, ?_, ?_⟩
      · simp [lost, lose]
      · simp [closed, lose]
      · simp only [count, lose, List.length_cons]
        omega

theorem keepsContract_writeAttempts (positive : 0 < settings.writeRetryAttempts)
    (frame : AnyFrame) (script : Stream' Pass) (manager : Manager) :
    KeepsContract settings frame script manager
      (writeAttempts settings frame settings.writeRetryAttempts script manager).1
      (writeAttempts settings frame settings.writeRetryAttempts script manager).2 := by
  have concludes : Concludes settings frame settings.writeRetryAttempts script manager
      (writeAttempts settings frame settings.writeRetryAttempts script manager) :=
    concludes_writeAttempts _ _ _
  obtain ⟨writes, failed, closes⟩ := concludes.effects
  have fails := fun ended => failed ended (.inr positive)
  rcases concludes.reason with ⟨ended, succeeds⟩ | ⟨issues, ended, disconnects⟩ | ⟨ended, reaches⟩
  · refine ⟨.inl ended, ?_, ?_, ?_, writes, fails, closes⟩
    · simp [ended, succeeds]
    · simp [ended, succeeds.not_disconnects]
    · simp [ended, succeeds.not_reaches]
  · refine ⟨.inr (.inl ⟨issues, ended⟩), ?_, ?_, ?_, writes, fails, closes⟩
    · simp only [ended, reduceCtorEq, false_iff]
      exact fun succeeds => succeeds.not_disconnects disconnects
    · intro other
      simp only [ended, Except.error.injEq, Failure.failedAllConnectAttempts.injEq]
      exact ⟨fun same => same ▸ disconnects, disconnects.unique⟩
    · simp [ended, disconnects.not_reaches]
  · refine ⟨.inr (.inr ended), ?_, ?_, ?_, writes, fails, closes⟩
    · simp only [ended, reduceCtorEq, false_iff]
      exact fun succeeds => succeeds.not_reaches reaches
    · intro issues
      simp only [ended, Except.error.injEq, reduceCtorEq, false_iff]
      exact fun disconnects => disconnects.not_reaches reaches
    · simp [ended, reaches]

/-- The retry contract of `write_heartbeat_reconnecting`. -/
theorem keepsContract_writeHeartbeatReconnecting (settings : Settings)
    (positive : 0 < settings.writeRetryAttempts) (script : Stream' Pass) (manager : Manager) :
    KeepsContract settings .heartbeat script manager
      (manager.writeHeartbeatReconnecting settings script).1
      (manager.writeHeartbeatReconnecting settings script).2 :=
  keepsContract_writeAttempts positive .heartbeat script manager

/-- The retry contract of `write_frame_reconnecting`. -/
theorem keepsContract_writeFrameReconnecting (settings : Settings)
    (positive : 0 < settings.writeRetryAttempts) (frame : Frame) (script : Stream' Pass)
    (manager : Manager) :
    KeepsContract settings (.frame frame) script manager
      (manager.writeFrameReconnecting settings frame script).1
      (manager.writeFrameReconnecting settings frame script).2 :=
  keepsContract_writeAttempts positive (.frame frame) script manager

/-- A call that loses the active connection and the next one, and writes on a third. -/
def losesTwice : Stream' Pass :=
  .cons ⟨.const (.error .allServersUnavailable), false⟩
    (.cons ⟨.cons (.error .allServersUnavailable) (.const (.ok 1)), false⟩
      (.const ⟨.const (.ok 2), true⟩))

/-- The contract of a call with two losses and a failed attempt to connect. -/
theorem keepsContract_losesTwice :
    0 < plainSettings.writeRetryAttempts ∧ ∃ after result,
      writeFrameReconnecting plainSettings (beginFrame "first") losesTwice { active := some 0 } =
        (after, result) ∧
      result = .ok () ∧ after.active = some 2 ∧ after.closed = [0, 1] ∧
      after.reconnectionCount = 2 ∧
      KeepsContract plainSettings (.frame (beginFrame "first")) losesTwice { active := some 0 }
        after result :=
  ⟨by decide, _, _, rfl, rfl, rfl, rfl, rfl,
    keepsContract_writeFrameReconnecting plainSettings (by decide) (beginFrame "first") losesTwice
      { active := some 0 }⟩

end Manager

/-! ## The coroutine -/

namespace WriteFrame

/-- Replies of connections that keep their contract, without cancellation. -/
def Answers (settings : Settings) (task : TaskId) (shared : Shared) (reply : Reply) :
    WriteFrame → Prop
  | .connecting _ => shared.Mild task reply ∧ shared.Sane settings task reply
  | .writing .. => reply = .returned ∨ reply = .raised .connectionLost
  | .discarding .. => reply = .returned

/-- Runs of `write_frame_reconnecting` to its end, with nothing between its steps. -/
inductive Ends (settings : Settings) (task : TaskId) (frame : Frame) :
    Shared × Progress WriteFrame Unit → Shared × Except Failure Unit → Prop
  | returned (shared : Shared) :
      Ends settings task frame (shared, .returned ()) (shared, .ok ())
  | raised (shared : Shared) (failure : Failure) :
      Ends settings task frame (shared, .raised failure) (shared, .error failure)
  | resumed (shared : Shared) (point : WriteFrame) (reply : Reply) (pick : Option String)
      (answers : point.Answers settings task shared reply)
      {next : Shared × Progress WriteFrame Unit} {final : Shared × Except Failure Unit}
      (resumed : point.resume settings task frame reply pick shared = some next)
      (rest : Ends settings task frame next final) :
      Ends settings task frame (shared, .suspended point) final

end WriteFrame

/-- The state that a call finds. -/
def Shared.manager (shared : Shared) : Manager :=
  { active := shared.active, reconnectionCount := shared.reconnectionCount }

/-- The shared state has the attributes of the manager, and its trace has the calls. -/
structure Shared.Agrees (shared : Shared) (manager : Manager) : Prop where
  active : shared.active = manager.active
  count : shared.reconnectionCount = manager.reconnectionCount
  closed : ∀ connection ∈ manager.closed, .closed connection ∈ shared.trace
  written : ∀ connection frame, (connection, .frame frame) ∈ manager.written →
    .wrote connection frame ∈ shared.trace

namespace Manager

variable {settings : Settings} {task : TaskId} {frame : Frame} {shared after : Shared}
  {manager final : Manager} {result : Except Failure Unit}

/-- The rest of a cycle with these issues so far, and of the loop. -/
def connectOn (settings : Settings) (frame : AnyFrame) (left : Nat) (issues : List ConnectionIssue)
    (pass : Pass) (script : Stream' Pass) (manager : Manager) : Manager × Except Failure Unit :=
  match retryFrom issues pass.connects (settings.connectRetryAttempts - issues.length) with
  | .ok connection => manager.writeOn settings frame left connection pass.written script
  | .error issues => (manager, .error (.failedAllConnectAttempts issues))

theorem writeAttempts_eq_connectOn (idle : manager.active = none) (left : Nat)
    (frame : AnyFrame) (pass : Pass) (script : Stream' Pass) :
    writeAttempts settings frame (left + 1) (script.cons pass) manager =
      manager.connectOn settings frame left [] pass script := by
  unfold connectOn
  cases tried : retry pass.connects settings.connectRetryAttempts with
  | ok connection =>
      have got : manager.getActiveConnectionState settings (script.cons pass).head.connects =
          (manager.activate connection, .ok connection) := by
        simp [getActiveConnectionState, idle, tried, activate]
      rw [writeAttempts_of_connected left got]
      simp only [retry] at tried
      simp [tried]
  | error issues =>
      have got : manager.getActiveConnectionState settings (script.cons pass).head.connects =
          (manager, .error (.failedAllConnectAttempts issues)) := by
        simp [getActiveConnectionState, idle, tried]
      rw [writeAttempts_of_exhausted left got]
      simp only [retry] at tried
      simp [tried]

/-- Connecting keeps the attributes of the manager, apart from the connection that it finds. -/
theorem agrees_of_reconnects {reply : Reply} {progress : Progress Unit ConnectionId}
    {active : Option ConnectionId} (agrees : shared.Agrees manager)
    (effects : shared.Reconnects settings task reply after progress)
    (found : after.active = active) : after.Agrees { manager with active } := by
  obtain ⟨events, trace_eq, -⟩ := effects.extends
  refine ⟨found, effects.aside.2.2.trans agrees.count, ?_, ?_⟩
  · intro connection member
    rw [trace_eq]
    exact List.mem_append_left _ (agrees.closed connection member)
  · intro connection frame member
    rw [trace_eq]
    exact List.mem_append_left _ (agrees.written connection frame member)

theorem agrees_emit (agrees : shared.Agrees manager) (event : Event) :
    (shared.emit event).Agrees manager := by
  refine ⟨agrees.active, agrees.count, ?_, ?_⟩
  · intro connection member
    exact List.mem_append_left _ (agrees.closed connection member)
  · intro connection frame member
    exact List.mem_append_left _ (agrees.written connection frame member)

theorem agrees_noteWritten (agrees : shared.Agrees manager) (connection : ConnectionId)
    (frame : Frame) :
    (shared.noteWritten connection frame).Agrees
      (manager.noteWritten connection (.frame frame)) := by
  refine ⟨agrees.active, agrees.count, (agrees_emit agrees _).closed, ?_⟩
  intro other given member
  rcases List.mem_append.mp member with early | late
  · exact (agrees_emit agrees _).written other given early
  · obtain ⟨rfl, rfl⟩ : other = connection ∧ given = frame := by simpa using late
    exact List.mem_append_right _ (List.mem_singleton.mpr rfl)

theorem agrees_discard {connection : ConnectionId} (frame : AnyFrame)
    (agrees : shared.Agrees (manager.activate connection)) :
    (shared.discard connection).Agrees (manager.lose connection frame) := by
  have kept := agrees_emit (agrees_emit agrees (.discarded connection)) (.closed connection)
  refine ⟨rfl, congrArg (· + 1) agrees.count, ?_, kept.written⟩
  intro other member
  rcases List.mem_append.mp member with early | late
  · exact kept.closed other early
  · obtain rfl := List.mem_singleton.mp late
    exact List.mem_append_right _ (List.mem_singleton.mpr rfl)

/-- How the manager stands where the coroutine stands. -/
def Stands (settings : Settings) (shared : Shared) (manager : Manager) :
    Progress WriteFrame Unit → Prop
  | .suspended (.connecting _) =>
      shared.Agrees manager ∧ shared.active = none ∧ shared.Clean settings fun _ => True
  | .suspended (.writing _ connection) =>
      shared.Agrees (manager.activate connection) ∧ shared.reconnect = none
  | .suspended (.discarding ..) =>
      shared.Agrees manager ∧ shared.active = none ∧ shared.reconnect = none
  | .returned () => shared.Agrees manager
  | .raised _ => shared.Agrees manager

/-- What the loop makes of the rest of a script, from where the coroutine stands. -/
def Continues (settings : Settings) (frame : AnyFrame) (shared : Shared) (manager : Manager)
    (ending : Manager × Except Failure Unit) : Progress WriteFrame Unit → Prop
  | .suspended (.connecting left) => ∃ pass script,
      manager.connectOn settings frame left shared.issues pass script = ending
  | .suspended (.writing left connection) => ∃ written script,
      manager.writeOn settings frame left connection written script = ending
  | .suspended (.discarding left _) => ∃ script,
      writeAttempts settings frame left script manager = ending
  | .returned () => (manager, .ok ()) = ending
  | .raised failure => (manager, .error failure) = ending

/-- The head of the loop. -/
theorem stands_attempts (agrees : shared.Agrees manager) (free : shared.reconnect = none)
    (count : Nat) :
    Stands settings (WriteFrame.attempts frame shared count).1 manager
      (WriteFrame.attempts frame shared count).2 := by
  unfold WriteFrame.attempts
  split
  · exact agrees
  · split
    · rename_i connection active
      refine ⟨?_, free⟩
      rw [activate_of_active (agrees.active.symm.trans active)]
      exact agrees_emit agrees _
    · rename_i idle
      exact ⟨agrees, idle, .unlocked free⟩

theorem continues_attempts {ending : Manager × Except Failure Unit}
    (agrees : shared.Agrees manager) (free : shared.reconnect = none) (count : Nat)
    (continues : Continues settings (.frame frame) (WriteFrame.attempts frame shared count).1
      manager ending (WriteFrame.attempts frame shared count).2) :
    ∃ script, writeAttempts settings (.frame frame) count script manager = ending := by
  unfold WriteFrame.attempts at continues
  split at continues
  · exact ⟨.const ⟨.const (.ok 0), true⟩, continues⟩
  · rename_i left
    split at continues
    · rename_i connection active
      obtain ⟨written, script, rfl⟩ := continues
      have held : manager.active = some connection := agrees.active.symm.trans active
      refine ⟨script.cons ⟨.const (.ok 0), written⟩, ?_⟩
      refine writeAttempts_of_connected left ?_
      simp [getActiveConnectionState, held, activate_of_active]
    · rename_i idle
      obtain ⟨pass, script, rfl⟩ := continues
      refine ⟨script.cons pass, ?_⟩
      rw [writeAttempts_eq_connectOn (agrees.active.symm.trans idle), Shared.issues, free]

/-- An attempt that connects was not one too many. -/
theorem issues_lt_of_returned {reply : Reply} {connection : ConnectionId} {who : TaskId → Prop}
    (clean : shared.Clean settings who) (idle : shared.active = none)
    (effects : shared.Reconnects settings task reply after (.returned connection)) :
    shared.issues.length < settings.connectRetryAttempts := by
  cases effects with
  | found _ _ active => simp [idle] at active
  | finishes reconnect locked owned _ point phase =>
      rw [Shared.issues_of_locked locked]
      exact (clean.few reconnect locked).2 (by simp [phase])

section Cycle

variable {reply : Reply} {left : Nat}

/-- An attempt that goes on, or that comes to an issue, leaves the rest of the cycle. -/
theorem connectOn_of_suspended (clean : shared.Clean settings fun _ => True)
    (effects : shared.Reconnects settings task reply after (.suspended ())) (pass : Pass) :
    ∃ longer : Pass, ∀ script,
      manager.connectOn settings (.frame frame) left shared.issues longer script =
        manager.connectOn settings (.frame frame) left after.issues pass script := by
  rcases effects.issues_of_suspended with same | ⟨issue, ended, added⟩
  · exact ⟨pass, fun script => by rw [same]⟩
  · refine ⟨⟨pass.connects.cons (.error issue), pass.written⟩, fun script => ?_⟩
    have few := clean.issues_lt ended
    obtain ⟨more, more_eq⟩ : ∃ more,
        settings.connectRetryAttempts - shared.issues.length = more + 1 :=
      ⟨settings.connectRetryAttempts - (shared.issues.length + 1), by omega⟩
    have rest : settings.connectRetryAttempts - after.issues.length = more := by
      simp only [added, List.length_append, List.length_cons, List.length_nil]
      omega
    simp only [connectOn, more_eq, rest, retryFrom_error]
    rw [added]

/-- An attempt that connects ends the cycle. -/
theorem connectOn_of_returned (clean : shared.Clean settings fun _ => True)
    (idle : shared.active = none) {connection : ConnectionId}
    (effects : shared.Reconnects settings task reply after (.returned connection))
    (written : Bool) :
    ∃ pass : Pass, ∀ script,
      manager.connectOn settings (.frame frame) left shared.issues pass script =
        manager.writeOn settings (.frame frame) left connection written script := by
  have few := issues_lt_of_returned clean idle effects
  obtain ⟨more, more_eq⟩ : ∃ more,
      settings.connectRetryAttempts - shared.issues.length = more + 1 :=
    ⟨settings.connectRetryAttempts - (shared.issues.length + 1), by omega⟩
  refine ⟨⟨.cons (.ok connection) (.const (.ok connection)), written⟩, fun script => ?_⟩
  simp only [connectOn, more_eq, retryFrom_ok]

/-- An exhausted cycle raises, whatever the script says after it. -/
theorem connectOn_of_raised (clean : shared.Clean settings fun _ => True)
    (mild : shared.Mild task reply) {failure : Failure}
    (effects : shared.Reconnects settings task reply after (.raised failure)) (pass : Pass)
    (script : Stream' Pass) :
    manager.connectOn settings (.frame frame) left shared.issues pass script =
      (manager, .error failure) := by
  obtain ⟨rfl, full⟩ := clean.raised trivial mild effects
  simp only [connectOn, full, Nat.sub_self, retryFrom_zero]

end Cycle

/-- One resumption of the coroutine: the rest of a script for what follows gives one for what it
resumes from. -/
theorem stands_resume {point : WriteFrame} {reply : Reply} {pick : Option String}
    {next : Shared × Progress WriteFrame Unit}
    (stands : Stands settings shared manager (.suspended point))
    (answers : point.Answers settings task shared reply)
    (resumed : point.resume settings task frame reply pick shared = some next) :
    ∃ reached, Stands settings next.1 reached next.2 ∧ ∀ ending,
      Continues settings (.frame frame) next.1 reached ending next.2 →
        Continues settings (.frame frame) shared manager ending (.suspended point) := by
  cases point with
  | connecting left =>
      obtain ⟨agrees, idle, clean⟩ := stands
      obtain ⟨mild, sane⟩ := answers
      obtain ⟨⟨after, progress⟩, connects, rfl⟩ := Option.map_eq_some_iff.mp resumed
      have effects := Shared.reconnects_resumeConnecting connects
      cases progress with
      | suspended point =>
          have inactive : after.active = none := by
            rcases effects.lock with ⟨-, same, -⟩ | ⟨ended, -⟩ | ⟨ended, -⟩
            · exact same.trans idle
            · exact absurd rfl ended
            · exact absurd rfl ended
          refine ⟨manager, ⟨?_, inactive, ?_⟩, ?_⟩
          · exact agrees_of_reconnects agrees effects
              (inactive.trans (idle.symm.trans agrees.active))
          · exact clean.reconnects (fun _ => ⟨mild, sane⟩) effects
          · rintro ending ⟨pass, script, rfl⟩
            obtain ⟨longer, same⟩ := connectOn_of_suspended clean effects pass
            exact ⟨longer, script, same script⟩
      | returned connection =>
          refine ⟨manager, ⟨?_, ?_⟩, ?_⟩
          · exact agrees_emit (agrees_of_reconnects agrees effects effects.active_of_returned) _
          · cases effects with
            | found _ free => exact free
            | finishes => rfl
          · rintro ending ⟨written, script, rfl⟩
            obtain ⟨pass, same⟩ := connectOn_of_returned clean idle effects written
            exact ⟨pass, script, same script⟩
      | raised failure =>
          refine ⟨manager, ?_, ?_⟩
          · refine agrees_of_reconnects agrees effects (Eq.trans ?_ agrees.active)
            cases effects <;> rfl
          · rintro ending rfl
            exact ⟨⟨.const (.ok 0), true⟩, .const ⟨.const (.ok 0), true⟩,
              connectOn_of_raised clean mild effects _ _⟩
  | writing left connection =>
      obtain ⟨agrees, free⟩ := stands
      rcases answers with rfl | rfl
      · obtain rfl := Option.some.inj resumed
        refine ⟨_, agrees_noteWritten agrees connection frame, ?_⟩
        rintro ending rfl
        exact ⟨true, .const ⟨.const (.ok 0), true⟩, rfl⟩
      · simp only [WriteFrame.resume, agrees.active, activate, if_true] at resumed
        obtain rfl := Option.some.inj resumed
        refine ⟨manager.lose connection (.frame frame), ⟨agrees_discard _ agrees, rfl, free⟩, ?_⟩
        rintro ending ⟨script, rfl⟩
        exact ⟨false, script, rfl⟩
  | discarding left connection =>
      obtain ⟨agrees, idle, free⟩ := stands
      obtain rfl := answers
      obtain rfl := Option.some.inj resumed
      exact ⟨manager, stands_attempts agrees free left, fun ending =>
        continues_attempts agrees free left⟩

theorem continues_of_ends {current : Shared × Progress WriteFrame Unit}
    {ended : Shared × Except Failure Unit}
    (ends : WriteFrame.Ends settings task frame current ended)
    (stands : Stands settings current.1 manager current.2) :
    ∃ final, ended.1.Agrees final ∧
      Continues settings (.frame frame) current.1 manager (final, ended.2) current.2 := by
  induction ends generalizing manager with
  | returned shared => exact ⟨manager, stands, rfl⟩
  | raised shared failure => exact ⟨manager, stands, rfl⟩
  | resumed shared point reply pick answers resumed _ ih =>
      obtain ⟨reached, standing, back⟩ := stands_resume stands answers resumed
      obtain ⟨final, agrees, continues⟩ := ih standing
      exact ⟨final, agrees, back _ continues⟩

/-- The coroutine, run to its end with nothing between its steps, does what the loop does for some
script. -/
theorem writeFrameReconnecting_of_ends (free : shared.reconnect = none)
    (ends : WriteFrame.Ends settings task frame (WriteFrame.start settings frame shared)
      (after, result)) :
    ∃ script final, after.Agrees final ∧
      shared.manager.writeFrameReconnecting settings frame script = (final, result) := by
  have agrees : shared.Agrees shared.manager :=
    ⟨rfl, rfl, by simp [Shared.manager], by simp [Shared.manager]⟩
  obtain ⟨final, shown, continues⟩ :=
    continues_of_ends ends (stands_attempts agrees free settings.writeRetryAttempts)
  obtain ⟨script, wrote⟩ := continues_attempts agrees free settings.writeRetryAttempts continues
  exact ⟨script, final, shown, wrote⟩

end Manager

end Stompman
