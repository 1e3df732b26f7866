import Stompman.Acknowledgement
import Stompman.Greeting
import Stompman.Lending
import Stompman.Redump

/-!
# What the server reads

The frames that are passed to `write_frame` of a connection reach the server as one stream of bytes,
with heartbeats between them and cut anywhere.  If the texts of the client's calls have no carriage
return and no NUL, every frame that the client makes of them can be read back, so that the server's
parser yields exactly these frames, in order.
-/

namespace Stompman

open Foundation FrameParser

/-! ## Frames that can be read back -/

/-- The dump of a frame is read as the frame, whatever was read before. -/
def Frame.Readable (frame : Frame) : Prop :=
  ∀ previousByte, ∃ read : Frame, read.Equal frame ∧
    (idle previousByte).Yields (dumpFrame frame) [.frame read] (idle (some null))

theorem Frame.RoundTrips.readable {frame : Frame} (valid : frame.RoundTrips) : frame.Readable :=
  valid.yields

/-- A text without delimiters. -/
def Raw (text : String) : Prop :=
  ∀ char ∈ text.toList, char ∉ ['\n', ':', '\\', '\r', '\x00']

-- by the characters of the text, not by all characters
instance (text : String) : Decidable (Raw text) := List.decidableBAll _ _

theorem Raw.escape_eq {text : String} (raw : Raw text) : escape text = text := by
  have single : ∀ char ∈ text.toList, escapeChar char = [char] := by
    intro char member
    have ordinary := raw char member
    simp only [List.mem_cons, List.not_mem_nil, or_false, not_or] at ordinary
    simp [escapeChar, ordinary]
  rw [escape, List.flatMap_congr single]
  simp

/-- A CONNECT frame whose raw lines are what escaped lines would be. -/
structure Frame.Unescaped (frame : Frame) : Prop where
  connect : frame.type = .connect
  raw : ∀ item ∈ frame.headers.entries, Raw item.1 ∧ Raw item.2
  unmeasured : ∀ item ∈ frame.headers.entries, isContentLength item.1 = false

namespace Frame.Unescaped

variable {frame : Frame}

theorem headerLine_eq (unescaped : frame.Unescaped) {item : String × String}
    (member : item ∈ frame.headers.entries) :
    Text.encode (item.1 ++ ":" ++ item.2 ++ "\n") = headerLine item.1 item.2 ++ [newline] := by
  obtain ⟨name, value⟩ := unescaped.raw item member
  have dumped := dumpHeader_eq item.1 item.2
  rwa [dumpHeader, name.escape_eq, value.escape_eq] at dumped

theorem carriageFree (unescaped : frame.Unescaped) :
    ∀ item ∈ frame.headers.entries, '\r' ∉ item.1.toList ∧ '\r' ∉ item.2.toList := by
  intro item member
  obtain ⟨name, value⟩ := unescaped.raw item member
  exact ⟨fun found => name _ found (by simp), fun found => value _ found (by simp)⟩

/-- The bytes of the frame, line by line. -/
theorem dumpFrame_eq (unescaped : frame.Unescaped) :
    dumpFrame frame =
      framesToCommands frame.type ++ [newline] ++
        (((sortedHeaders frame.headers).map fun item => headerLine item.1 item.2).flatMap
          fun line => line ++ [newline]) ++
        [newline] ++ frame.body ++ [null] := by
  have lines_eq : ((sortedHeaders frame.headers).flatMap fun item =>
      Text.encode (item.1 ++ ":" ++ item.2 ++ "\n")) =
        (sortedHeaders frame.headers).flatMap fun item =>
          headerLine item.1 item.2 ++ [newline] :=
    List.flatMap_congr fun item member => unescaped.headerLine_eq (mem_sortedHeaders.mp member)
  have no_body := frame.body_eq_nil (by rw [unescaped.connect]; rfl)
  rw [dumpFrame, if_pos unescaped.connect, lines_eq, List.flatMap_map, no_body, ite_self]

/-- The headers are accepted as they are, and announce no length. -/
theorem acceptedBlock_eq (unescaped : frame.Unescaped) :
    (acceptedBlock frame.headers).1.entries = sortedHeaders frame.headers ∧
      (acceptedBlock frame.headers).2 = none := by
  refine ⟨(Frame.acceptedBlock_of_carriageFree unescaped.carriageFree).1, ?_⟩
  refine contentLength_foldl_of_no_item _ _ fun item member => ?_
  obtain ⟨original, original_mem, rfl⟩ := List.mem_map.mp member
  have listed := mem_sortedHeaders.mp original_mem
  obtain ⟨name, -⟩ := unescaped.carriageFree original listed
  rw [withoutCarriagesItem, withoutCarriages_eq_self name]
  exact unescaped.unmeasured original listed

theorem readable (unescaped : frame.Unescaped) : frame.Readable := by
  intro previousByte
  have no_body := frame.body_eq_nil (by rw [unescaped.connect]; rfl)
  obtain ⟨entries_eq, silent⟩ := unescaped.acceptedBlock_eq
  have block_eq := foldl_acceptLine_headerLines (sortedHeaders frame.headers) (Dict.empty, none)
  rw [← acceptedBlock] at block_eq
  have clean : ∀ line ∈ (sortedHeaders frame.headers).map fun item => headerLine item.1 item.2,
      newline ∉ line ∧ null ∉ line ∧ chomp line ≠ [] := by
    intro line member
    obtain ⟨item, item_mem, rfl⟩ := List.mem_map.mp member
    obtain ⟨name, value⟩ := unescaped.raw item (mem_sortedHeaders.mp item_mem)
    exact Frame.clean_headerLine
      ⟨fun found => name _ found (by simp), fun found => value _ found (by simp)⟩
  have framed : (acceptedBlock frame.headers).2 = none ∧ null ∉ frame.body :=
    ⟨silent, by rw [no_body]; exact List.not_mem_nil⟩
  rw [← block_eq] at framed
  have read := idle_yields_frame frame.type previousByte _ clean frame.body (.inl framed)
  rw [block_eq, ← unescaped.dumpFrame_eq] at read
  obtain ⟨own_type, own_headers, own_body⟩ := frameOfParts_of_body_eq_nil frame.type
    (acceptedBlock frame.headers).1 frame.body_eq_nil
  refine ⟨_, ⟨own_type, ?_, own_body⟩, read⟩
  rw [own_headers, Dict.Equal, entries_eq]
  exact List.perm_insertionSort itemLe frame.headers.entries

end Frame.Unescaped

/-! ## Frames that the client makes -/

/-- A text without carriage return and NUL. -/
def Spotless (text : String) : Prop := '\r' ∉ text.toList ∧ '\x00' ∉ text.toList

instance (text : String) : Decidable (Spotless text) := inferInstanceAs (Decidable (_ ∧ _))

/-- Headers with spotless texts that announce no length. -/
def SpotlessHeaders (headers : Headers) : Prop :=
  ∀ item ∈ headers.entries, Spotless item.1 ∧ Spotless item.2 ∧ isContentLength item.1 = false

theorem spotlessHeaders_empty : SpotlessHeaders Dict.empty := by simp [SpotlessHeaders, Dict.empty]

theorem SpotlessHeaders.set {headers : Headers} (spotless : SpotlessHeaders headers)
    {key value : String} (name : Spotless key) (unmeasured : isContentLength key = false)
    (content : Spotless value) : SpotlessHeaders (headers.set key value) := by
  intro item member
  rcases headers.mem_entries_set member with rfl | old
  · exact ⟨name, content, unmeasured⟩
  · exact spotless item old

theorem SpotlessHeaders.roundTrips {headers : Headers} (spotless : SpotlessHeaders headers)
    {type : FrameType} (escaped : type ≠ .connect) :
    (Frame.bodyless type headers).RoundTrips where
  escaped := escaped
  clean := fun item member =>
    have ⟨name, value, _⟩ := spotless item member
    ⟨name.1, name.2, value.1, value.2⟩
  spelled := fun item member named => by
    rw [(spotless item member).2.2] at named
    contradiction
  framed := by
    refine .inl ⟨?_, List.not_mem_nil⟩
    rw [Frame.bodyless, Dict.get?_eq_none_iff]
    intro listed
    obtain ⟨item, member, name⟩ := List.mem_map.mp listed
    have known := (spotless item member).2.2
    rw [name] at known
    exact absurd known (by decide +kernel)

theorem roundTrips_transactionFrame {type : FrameType} (escaped : type ≠ .connect)
    {transaction : String} (spotless : Spotless transaction) :
    (transactionFrame type transaction).RoundTrips :=
  (spotlessHeaders_empty.set (by decide) (by decide +kernel) spotless).roundTrips escaped

theorem roundTrips_unsubscribeFrame {id : String} (spotless : Spotless id) :
    (unsubscribeFrame id).RoundTrips :=
  (spotlessHeaders_empty.set (by decide) (by decide +kernel) spotless).roundTrips (by decide)

theorem roundTrips_settleFrame {type : FrameType} (escaped : type ≠ .connect)
    {ackId subscription : String} (ack : Spotless ackId) (id : Spotless subscription) :
    (settleFrame type ackId subscription).RoundTrips :=
  ((spotlessHeaders_empty.set (by decide) (by decide +kernel) ack).set (by decide)
    (by decide +kernel) id).roundTrips escaped

/-- The id of a subscription is a header of its SUBSCRIBE frame. -/
theorem Frame.RoundTrips.spotless_id {subscription : Subscription}
    (valid : subscription.frame.RoundTrips) : Spotless subscription.id := by
  have listed : ("id", subscription.id) ∈ subscription.frame.headers.entries := by
    rw [← Dict.get?_eq_some_iff]
    simp [Subscription.frame, subscribeFrame, Frame.bodyless, Dict.update, Dict.get?_set]
  obtain ⟨-, -, carriage_free, null_free⟩ := valid.clean _ listed
  exact ⟨carriage_free, null_free⟩

/-! ## Where the frames come from -/

/-- What is called, and what is read, has spotless texts and frames that survive a round trip. -/
def Action.Legible : Action → Prop
  | .send _ arguments => (sendFrame arguments none).RoundTrips
  | .subscribe subscription => subscription.frame.RoundTrips
  | .begin transaction => Spotless transaction
  | .transactionSend transaction arguments => (sendFrame arguments (some transaction)).RoundTrips
  | .resume .listener (.frame (.frame message)) _ =>
      ∀ ackId, message.headers.get? "ack" = some ackId → Spotless ackId
  | _ => True

/-- Frames other than ACK, NACK and CONNECT survive a round trip. -/
def Event.Legible : Event → Prop
  | .handed _ frame => frame.Settles ∨ frame.type = .connect ∨ frame.RoundTrips
  | .received _ _ _ (.frame message) =>
      ∀ ackId, message.headers.get? "ack" = some ackId → Spotless ackId
  | _ => True

/-- What a handshake has still to write. -/
def Enter.Legible : Enter → Prop
  | .resubscribing _ remaining => ∀ subscription ∈ remaining, subscription.frame.RoundTrips
  | .replaying _ current _ => Spotless current
  | _ => True

/-- Everything that may be written again. -/
structure Shared.Legible (shared : Shared) : Prop where
  trace : ∀ event ∈ shared.trace, event.Legible
  sent : ∀ transaction, ∀ frame ∈ shared.sentFrames transaction, frame.RoundTrips
  registered : ∀ subscription ∈ shared.subscriptions.getAll, subscription.frame.RoundTrips
  listed : ∀ transaction ∈ shared.transactions, Spotless transaction
  handshake : ∀ connection point, shared.handshake = some (connection, point) → point.Legible

namespace Shared.Legible

variable {settings : Settings} {shared base : Shared} {connection : ConnectionId} {frame : Frame}

theorem emit (legible : shared.Legible) (event : Event) (own : event.Legible) :
    (shared.emit event).Legible where
  trace other member := by
    rcases List.mem_append.mp member with old | new
    · exact legible.trace other old
    · rw [List.mem_singleton.mp new]
      exact own
  sent := legible.sent
  registered := legible.registered
  listed := legible.listed
  handshake := legible.handshake

theorem hand (legible : shared.Legible) (valid : frame.RoundTrips) :
    (shared.hand connection frame).Legible :=
  legible.emit _ (.inr (.inr valid))

theorem noteWritten (legible : shared.Legible) : (shared.noteWritten connection frame).Legible :=
  legible.emit _ trivial

theorem discard (legible : shared.Legible) : (shared.discard connection).Legible :=
  have closed := (legible.emit (.discarded connection) trivial).emit (.closed connection) trivial
  ⟨closed.trace, closed.sent, closed.registered, closed.listed, closed.handshake⟩

theorem hold (legible : shared.Legible) (reconnect : Reconnect) {phase : Phase}
    (entering : ∀ connection point, phase = .entering connection point → point.Legible) :
    (shared.hold reconnect phase).Legible where
  trace := legible.trace
  sent := legible.sent
  registered := legible.registered
  listed := legible.listed
  handshake := by
    intro connection point standing
    refine entering connection point ?_
    cases phase with
    | entering =>
        obtain ⟨rfl, rfl⟩ := eq_of_handshake_hold standing
        rfl
    | _ => contradiction

theorem unlock (legible : shared.Legible) (after : Shared) (trace : after.trace = shared.trace)
    (sent : after.sentFrames = shared.sentFrames)
    (subscriptions : after.subscriptions = shared.subscriptions)
    (transactions : after.transactions ⊆ shared.transactions)
    (free : after.reconnect = none ∨ after.reconnect = shared.reconnect) : after.Legible where
  trace := trace ▸ legible.trace
  sent := sent ▸ legible.sent
  registered := subscriptions ▸ legible.registered
  listed transaction member := legible.listed transaction (transactions member)
  handshake := by
    intro connection point standing
    rcases free with free | same
    · rw [Shared.handshake, free] at standing
      contradiction
    · exact legible.handshake connection point (by rwa [handshake_congr same] at standing)

theorem ready (legible : shared.Legible) {reply : Reply} {point : Enter} {rest : List Subscription}
    {walk : Walk} (entered : point.Legible)
    (ready : shared.Ready settings connection reply point base rest walk) :
    base.Legible ∧ ∀ subscription ∈ rest, subscription.frame.RoundTrips := by
  cases ready with
  | confirmed =>
      exact ⟨legible.unlock _ rfl rfl rfl (List.Subset.refl _) (.inr rfl), legible.registered⟩
  | resubscribed current remaining => exact ⟨legible.noteWritten, entered⟩
  | committed => exact ⟨legible.noteWritten, by simp⟩

theorem replayFrame (legible : shared.Legible) (reconnect : Reconnect) (walk : Walk)
    {transaction : String} (spotless : Spotless transaction) (index : Nat) :
    (shared.replayFrame reconnect connection walk transaction index).Legible := by
  unfold Shared.replayFrame
  split
  · rename_i frame found
    have valid := legible.sent transaction frame (List.mem_of_getElem? found)
    refine (legible.hand valid).hold reconnect ?_
    rintro connection point ⟨⟩
    exact spotless
  · refine (legible.hand (roundTrips_transactionFrame (by decide) spotless)).hold reconnect ?_
    rintro connection point ⟨⟩
    exact spotless

/-- Connecting writes CONNECT, and again what is registered or pending. -/
theorem reconnects (legible : shared.Legible) {task : TaskId} {reply : Reply} {after : Shared}
    {progress : Progress Unit ConnectionId}
    (effects : shared.Reconnects settings task reply after progress) : after.Legible := by
  have entered : ∀ {reconnect : Reconnect} {connection : ConnectionId} {point : Enter},
      shared.reconnect = some reconnect → reconnect.phase = .entering connection point →
        point.Legible := fun locked phase =>
    legible.handshake _ _ (handshake_of_phase locked phase)
  cases effects with
  | interrupted => exact legible
  | found => exact legible
  | races => exact legible.hold _ (by simp)
  | sleeps => exact legible.hold _ (by simp)
  | leaves => exact legible.unlock _ rfl rfl rfl (List.Subset.refl _) (.inl rfl)
  | opens reconnect locked owned calm pending server =>
      have opened := (legible.emit (.opened shared.connections) trivial).unlock
        { shared.emit (.opened shared.connections) with
          connections := shared.connections + 1
          abandoned := shared.abandoned ++ pending }
        rfl rfl rfl (List.Subset.refl _) (.inr rfl)
      have asked : Event.Legible (.handed shared.connections
          (connectFrame server settings.protocolVersion settings.heartbeat)) := .inr (.inl rfl)
      refine (opened.emit _ asked).hold reconnect ?_
      rintro connection point ⟨⟩
      trivial
  | fails reconnect locked owned connection point phase reason outcome fault =>
      exact (legible.emit (.closed connection) trivial).hold reconnect (by simp)
  | asks reconnect locked owned connection server phase =>
      refine legible.noteWritten.hold reconnect ?_
      rintro other point ⟨⟩
      trivial
  | collects reconnect locked owned connection collected phase frame =>
      refine legible.hold reconnect ?_
      rintro other point ⟨⟩
      trivial
  | subscribes reconnect locked owned connection point phase subscription remaining readied =>
      obtain ⟨sound, valid⟩ := legible.ready (entered locked phase) readied
      refine (sound.hand (valid subscription List.mem_cons_self)).hold reconnect ?_
      rintro other next ⟨⟩
      exact fun later member => valid later (List.mem_cons_of_mem _ member)
  | replays reconnect locked owned connection walk current index frame phase =>
      exact legible.noteWritten.replayFrame reconnect walk (entered locked phase) _
  | picks reconnect locked owned connection point phase readied transaction sized present =>
      obtain ⟨sound, -⟩ := legible.ready (entered locked phase) readied
      exact sound.replayFrame reconnect _ (sound.listed transaction present) 0
  | changed reconnect locked owned connection point phase readied =>
      obtain ⟨sound, -⟩ := legible.ready (entered locked phase) readied
      exact (sound.emit (.closed connection) trivial).hold reconnect (by simp)
  | @finishes reconnect locked owned connection point phase base walk readied =>
      obtain ⟨sound, -⟩ := legible.ready (entered locked phase) readied
      have cleared := sound.unlock base.clearTransactions rfl rfl rfl (List.nil_subset _) (.inr rfl)
      exact (cleared.emit (.activated connection) trivial).unlock _ rfl rfl rfl
        (List.Subset.refl _) (.inl rfl)

end Shared.Legible

/-! ## Steps -/

/-- Names of tasks that frames carry. -/
def TaskId.Legible : TaskId → Prop
  | .transaction id => Spotless id
  | .subscribe id => Spotless id
  | _ => True

/-- Frames that a task may write again. -/
def Point.Legible : Point → Prop
  | .sending frame _ => frame.RoundTrips
  | .subscribing subscription _ => subscription.frame.RoundTrips
  | .transacting _ frame _ => frame.RoundTrips
  | _ => True

/-- Every frame that may be written, other than ACK, NACK and CONNECT, survives a round trip. -/
structure State.Legible (state : State) : Prop where
  shared : state.shared.Legible
  tasks : ∀ task, state.tasks task ≠ .absent → task.Legible ∧ (state.tasks task).Legible

theorem Job.legible_point {job : Job} (valid : job.frame.RoundTrips) (writing : WriteFrame) :
    (job.point writing).Legible := by
  cases job with
  | begin => trivial
  | _ => exact valid

theorem Job.legible_failed (job : Job) (failure : Failure) : (job.failed failure).Legible := by
  cases job <;> trivial

theorem Duty.legible_point (duty : Duty) (writing : MaybeWrite) : (duty.point writing).Legible := by
  cases duty <;> trivial

theorem Duty.legible_failed (duty : Duty) (failure : Failure) : (duty.failed failure).Legible := by
  cases duty <;> trivial

theorem Point.legible_of_aside {point : Point} (aside : point.Aside) : point.Legible := by
  cases point <;> trivial

theorem TaskId.legible_of_background {task : TaskId} (background : task.Background) :
    task.Legible := by
  cases task <;> trivial

namespace Shared.Legible

variable {shared : Shared}

theorem removed (legible : shared.Legible) (transaction : String) :
    (Stompman.removeTransaction transaction shared).shared.Legible ∧
      (Stompman.removeTransaction transaction shared).point.Legible ∧
      (Stompman.removeTransaction transaction shared).spawned = none := by
  unfold Stompman.removeTransaction
  split
  · exact ⟨legible.unlock _ rfl rfl rfl (List.erase_subset) (.inr rfl), trivial, rfl⟩
  · exact ⟨legible, trivial, rfl⟩

theorem completed_job {task : TaskId} (legible : shared.Legible) {job : Job}
    (valid : job.frame.RoundTrips) (runs : job.Runs task) (named : task.Legible) :
    (job.completed shared).shared.Legible ∧ (job.completed shared).point.Legible ∧
      (job.completed shared).spawned = none := by
  cases job with
  | send => exact ⟨legible, trivial, rfl⟩
  | transact => exact ⟨legible, trivial, rfl⟩
  | subscribe subscription =>
      refine ⟨⟨legible.trace, legible.sent, ?_, legible.listed, legible.handshake⟩, trivial, rfl⟩
      intro other member
      rcases ActiveSubscriptions.mem_getAll_of_add member with rfl | old
      · exact valid
      · exact legible.registered other old
  | begin transaction =>
      obtain rfl : task = .transaction transaction := runs
      refine ⟨?_, trivial, rfl⟩
      change (shared.addTransaction transaction).Legible
      unfold Shared.addTransaction
      split
      · exact legible
      · refine ⟨legible.trace, legible.sent, legible.registered, ?_, legible.handshake⟩
        intro other member
        rcases List.mem_append.mp member with old | new
        · exact legible.listed other old
        · rw [List.mem_singleton.mp new]
          exact named

theorem completed_duty (legible : shared.Legible) (duty : Duty)
    (written : Bool) :
    (duty.completed written shared).shared.Legible ∧
      (duty.completed written shared).point.Legible ∧
      (duty.completed written shared).spawned = none := by
  cases duty with
  | unsubscribe id => exact ⟨legible.emit _ trivial, trivial, rfl⟩
  | abort transaction => exact removed legible transaction
  | commit transaction =>
      cases written with
      | true => exact removed legible transaction
      | false => exact ⟨legible, trivial, rfl⟩
  | settle delivery frame suppressed =>
      refine ⟨?_, trivial, rfl⟩
      change (handlerEnd delivery suppressed shared).shared.Legible
      unfold handlerEnd
      cases suppressed with
      | true => exact legible.emit _ trivial
      | false => exact legible
  | acknowledge => exact ⟨legible, trivial, rfl⟩

end Shared.Legible

namespace State.Legible

variable {settings : Settings} {state after : State} {action : Action} {task : TaskId}

theorem named_of_job (legible : state.Legible) {job : Job} {writing : WriteFrame}
    (standing : state.tasks task = job.point writing) : task.Legible := by
  refine (legible.tasks task ?_).1
  rw [standing]
  cases job <;> simp [Job.point]

theorem named_of_duty (legible : state.Legible) {duty : Duty} {writing : MaybeWrite}
    (standing : state.tasks task = duty.point writing) : task.Legible := by
  refine (legible.tasks task ?_).1
  rw [standing]
  cases duty <;> simp [Duty.point]

/-- The frame of a job is the one that its task stands at, or carries the name of the task. -/
theorem frame_of_job (legible : state.Legible) {job : Job} (runs : job.Runs task)
    {writing : WriteFrame} (standing : state.tasks task = job.point writing) :
    job.frame.RoundTrips := by
  have named := legible.named_of_job standing
  have valid : (job.point writing).Legible := by
    rw [← standing]
    refine (legible.tasks task ?_).2
    rw [standing]
    cases job <;> simp [Job.point]
  cases job with
  | begin transaction =>
      obtain rfl : task = .transaction transaction := runs
      exact roundTrips_transactionFrame (by decide) named
  | _ => exact valid

/-- A task moves. -/
theorem store (legible : state.Legible) {resumed : Resumed} (shared : resumed.shared.Legible)
    (own : task.Legible) (point : resumed.point.Legible)
    (created : ∀ other point, resumed.spawned = some (other, point) →
      other.Legible ∧ point.Legible) : (state.store task resumed).Legible := by
  refine ⟨shared, ?_⟩
  exact State.forall_tasks_store
    (fun other point => point ≠ .absent → other.Legible ∧ point.Legible)
    (fun other _ => legible.tasks other) (fun _ => ⟨own, point⟩)
    (fun other point spawned _ => created other point spawned)

/-- What a task with a duty writes carries the name of a task. -/
theorem asked (legible : state.Legible) {duty : Duty} {opened : Shared}
    (asked : duty.Asked state action task opened) :
    opened.Legible ∧ task.Legible ∧ duty.frame.RoundTrips := by
  cases asked with
  | unsubscribe number id subscribed absent =>
      have named : Spotless id :=
        (legible.tasks (.subscribe id) (by rw [subscribed]; simp)).1
      have called := legible.shared.emit (.unsubscribing id) trivial
      refine ⟨⟨called.trace, called.sent, ?_, called.listed, called.handshake⟩, trivial,
        roundTrips_unsubscribeFrame named⟩
      exact fun other member => legible.shared.registered other
        (ActiveSubscriptions.mem_getAll_of_deleteById member)
  | commit transaction failed inside =>
      have named : Spotless transaction :=
        (legible.tasks (.transaction transaction) (by rw [inside]; simp)).1
      exact ⟨legible.shared.emit _ trivial, named,
        roundTrips_transactionFrame (by decide) named⟩
  | abort transaction failed inside =>
      have named : Spotless transaction :=
        (legible.tasks (.transaction transaction) (by rw [inside]; simp)).1
      exact ⟨legible.shared.emit _ trivial, named,
        roundTrips_transactionFrame (by decide) named⟩

/-- The beginning of a step whose inputs are legible. -/
theorem begins (legible : state.Legible) (meets : action.Legible)
    (begins : Begins settings state action after) : after.Legible := by
  cases begins with
  | idles => exact legible
  | reconnects task reply choice effects =>
      exact ⟨legible.shared.reconnects effects, legible.tasks⟩
  | calls action task job asked absent left =>
      have valid : job.frame.RoundTrips ∧ task.Legible := by
        cases action with
        | send number arguments =>
            obtain ⟨rfl, rfl⟩ := Prod.mk.inj (Option.some.inj asked)
            exact ⟨meets, trivial⟩
        | subscribe subscription =>
            obtain ⟨rfl, rfl⟩ := Prod.mk.inj (Option.some.inj asked)
            exact ⟨meets, Frame.RoundTrips.spotless_id meets⟩
        | begin transaction =>
            obtain ⟨rfl, rfl⟩ := Prod.mk.inj (Option.some.inj asked)
            exact ⟨roundTrips_transactionFrame (by decide) meets, meets⟩
        | _ => contradiction
      exact legible.store legible.shared valid.2 (job.legible_point valid.1 _) (by simp)
  | sends transaction arguments failed inside left =>
      have named := (legible.tasks (.transaction transaction) (by rw [inside]; simp)).1
      have called := legible.shared.emit
        (.called transaction (sendFrame arguments (some transaction))) trivial
      refine legible.store ⟨called.trace, ?_, called.registered, called.listed, called.handshake⟩
        named meets (by simp)
      intro other frame member
      by_cases same : other = transaction
      · subst same
        simp only [Shared.appendSent, Function.update_self, List.mem_append,
          List.mem_singleton] at member
        rcases member with old | rfl
        · exact legible.shared.sent other frame old
        · exact meets
      · simp only [Shared.appendSent, Function.update_of_ne same] at member
        exact legible.shared.sent other frame member
  | writes task choice job runs left connection standing =>
      have named := legible.named_of_job standing
      obtain ⟨shared, point, unspawned⟩ := Shared.Legible.completed_job
        legible.shared.noteWritten (legible.frame_of_job runs standing) runs named
      exact legible.store shared named point (by simp [unspawned])
  | hands asked connection active =>
      obtain ⟨opened, named, valid⟩ := legible.asked asked
      exact legible.store (opened.hand valid) named (Duty.legible_point _ _) (by simp)
  | skips asked inactive =>
      obtain ⟨opened, named, -⟩ := legible.asked asked
      obtain ⟨shared, point, unspawned⟩ := opened.completed_duty _ false
      exact legible.store shared named point (by simp [unspawned])
  | fulfils task reply choice duty runs connection standing returned =>
      obtain ⟨shared, point, unspawned⟩ := Shared.Legible.completed_duty
        legible.shared.noteWritten duty true
      exact legible.store shared (legible.named_of_duty standing) point (by simp [unspawned])
  | drops task reply choice duty runs writing standing gone ended =>
      obtain ⟨shared, point, unspawned⟩ := legible.shared.completed_duty duty false
      exact legible.store shared (legible.named_of_duty standing) point (by simp [unspawned])
  | acknowledges action task aside duty runs settles number connection active built =>
      have handed := (legible.shared.emit (.handed connection duty.frame) (.inl settles)).emit
        (.acknowledged number connection duty.frame) trivial
      have named : task.Legible := by
        cases duty with
        | settle => obtain ⟨⟨number, rfl⟩, -⟩ := runs; trivial
        | acknowledge => obtain ⟨⟨number, rfl⟩, -⟩ := runs; trivial
        | unsubscribe => obtain ⟨number, rfl⟩ := runs; trivial
        | _ => exact absurd settles (not_settles_transactionFrame (by decide) _)
      exact legible.store handed named (Duty.legible_point _ _) (by simp)
  | takes choice connection epoch frame standing point routes =>
      have heard : Event.Legible (.received state.shared.messages connection epoch frame) := by
        cases frame with
        | heartbeat => trivial
        | frame message => exact meets
      have received := legible.shared.emit _ heard
      refine legible.store ⟨received.trace, received.sent, received.registered, received.listed,
        received.handshake⟩ trivial ?_ (by simp)
      cases routes with
      | delivers => trivial
      | passes frame point fits aside => exact Point.legible_of_aside aside

/-- What the resumed task does before its next `await`. -/
theorem reacts (legible : state.Legible) (reacts : Reacts state after) : after.Legible := by
  cases reacts with
  | hands task job runs writing standing left connection active =>
      have valid := legible.frame_of_job runs standing
      exact legible.store (legible.shared.hand valid) (legible.named_of_job standing)
        (job.legible_point valid _) (by simp)
  | waits task job runs writing standing next idle =>
      exact legible.store legible.shared (legible.named_of_job standing)
        (job.legible_point (legible.frame_of_job runs standing) _) (by simp)
  | fails task job runs writing standing failure =>
      exact legible.store legible.shared (legible.named_of_job standing)
        (job.legible_failed failure) (by simp)
  | loses task duty runs connection standing gone =>
      exact legible.store legible.shared (legible.named_of_duty standing) (duty.legible_point _)
        (by simp)
  | breaks task duty runs writing standing failure =>
      exact legible.store legible.shared (legible.named_of_duty standing)
        (duty.legible_failed failure) (by simp)
  | discards connection active => exact ⟨legible.shared.discard, legible.tasks⟩
  | opens =>
      have opened := legible.shared.emit (.opened state.shared.connections) trivial
      exact ⟨opened.unlock _ rfl rfl rfl (List.Subset.refl _) (.inr rfl), legible.tasks⟩
  | beats => exact ⟨legible.shared.emit _ trivial, legible.tasks⟩
  | reports number => exact ⟨legible.shared.emit _ trivial, legible.tasks⟩
  | creates delivery standing =>
      have created := legible.shared.emit (.created delivery.number delivery.subscription) trivial
      refine legible.store (created.unlock _ rfl rfl rfl (List.Subset.refl _) (.inr rfl)) trivial
        trivial ?_
      rintro other point ⟨⟩
      exact ⟨trivial, trivial⟩
  | stops delivery standing failure =>
      exact legible.store legible.shared trivial trivial (by simp)
  | elsewhere changes =>
      refine ⟨legible.shared.unlock _ changes.shared.trace changes.shared.sentFrames
        changes.shared.subscriptions (by rw [changes.shared.transactions]; exact List.Subset.refl _)
        (.inr changes.shared.reconnect), ?_⟩
      intro task present
      rcases changes.tasks task with same | ⟨background, -, aside⟩
      · rw [same] at present ⊢
        exact legible.tasks task present
      · exact ⟨TaskId.legible_of_background background, Point.legible_of_aside aside⟩

end State.Legible

theorem legible_initial (settings : Settings) : (client settings).initial.Legible := by
  refine ⟨⟨by simp [client], by simp [client], ?_, by simp [client], ?_⟩, ?_⟩
  · intro subscription member
    exact absurd member List.not_mem_nil
  · intro connection point entering
    contradiction
  · intro task present
    cases task <;> first | exact absurd rfl present | exact ⟨trivial, trivial⟩

theorem legible_of_reaches {settings : Settings} {state : State}
    (reach : (client settings).Reaches (fun _ action => action.Legible) state) : state.Legible :=
  invariant_of_moves (legible_initial settings) (fun _ legible meets => legible.begins meets)
    (fun _ legible => legible.reacts) reach

/-! ## Acknowledgements and CONNECT -/

/-- A client that is not left runs as before. -/
theorem session_of_reaches {settings : Settings} {allowed : State → Action → Prop} {state : State}
    (reach : (client settings).Reaches allowed state) : (session settings).Reachable { state } := by
  induction reach with
  | initial => exact .initial
  | @step before after action _ _ stepped ih =>
      have moved : step settings before action = some after := stepped
      refine @System.Reaches.step _ _ _ _ _ _ (.client action) ih trivial ?_
      simp [session, sessionStep, moved, ExitPoint.notices]

/-- An ACK or NACK carries the `ack` header of a message that was read and the id of a registered
subscription. -/
theorem settled_of_reaches {settings : Settings} {state : State}
    (reach : (client settings).Reaches (fun _ action => action.Legible) state) :
    ∀ connection frame, .handed connection frame ∈ state.shared.trace → frame.Settles →
      frame.RoundTrips := by
  refine @System.Reaches.invariant _ _ _ _ (fun state => ∀ connection frame,
    .handed connection frame ∈ state.shared.trace → frame.Settles → frame.RoundTrips)
    (by simp [client]) ?_ _ reach
  intro before after action reached known meets stepped connection frame handed settles
  have legible := legible_of_reaches reached
  obtain ⟨events, trace_eq, justified⟩ :=
    ((consistent_of_reachable reached.reachable).step (fits_of_reaches reached) stepped).justified
  rw [trace_eq, List.mem_append] at handed
  rcases handed with old | new
  · exact known connection frame old settles
  · obtain ⟨number, epoch, message, ackId, id, -, received, -, acked, built, registered⟩ :=
      justified connection frame settles new
    have spotless_ack : Spotless ackId := legible.shared.trace _ received ackId acked
    obtain ⟨subscription, found⟩ := Option.isSome_iff_exists.mp registered
    have named := (Session.greeted_of_reaches (session_of_reaches reached)).named id _ found
    have valid := legible.shared.registered subscription
      ((ActiveSubscriptions.mem_getAll_iff _ _).mpr ⟨id, found⟩)
    rw [built]
    refine roundTrips_settleFrame ?_ spotless_ack (named ▸ valid.spotless_id)
    rcases settles with ack | nack
    · rw [ack]
      decide
    · rw [nack]
      decide

/-- A CONNECT frame is that of a configured server. -/
theorem Greets.listed {settings : Settings} {sentFrames : String → List Frame}
    {connection : ConnectionId} {log : List Event}
    (greets : Greets settings sentFrames connection log)
    (escaped : ∀ transaction, ∀ frame ∈ sentFrames transaction, frame.type ≠ .connect)
    {frame : Frame} (handed : .handed connection frame ∈ log) (connect : frame.type = .connect) :
    ∃ server ∈ settings.servers,
      frame = connectFrame server settings.protocolVersion settings.heartbeat := by
  have greeted : ∀ {greeting : Greeting}, greeting.Sound settings sentFrames →
      .handed connection frame ∈ inTurn connection (greeting.frames settings) →
      ∃ server ∈ settings.servers,
        frame = connectFrame server settings.protocolVersion settings.heartbeat := by
    intro greeting sound member
    obtain ⟨other, listed, own⟩ := List.mem_flatMap.mp member
    obtain rfl : frame = other := by simpa using own
    rcases List.mem_cons.mp listed with rfl | later
    · exact ⟨greeting.server, sound.server, rfl⟩
    · exfalso
      rcases List.mem_append.mp later with subscribed | replayed
      · obtain ⟨subscription, -, rfl⟩ := List.mem_map.mp subscribed
        exact absurd connect (by simp [Subscription.frame, subscribeFrame, Frame.bodyless])
      · obtain ⟨transaction, pending, written⟩ := List.mem_flatMap.mp replayed
        rcases List.mem_append.mp written with sent | commit
        · exact escaped _ _ ((sound.replayed transaction pending).subset sent) connect
        · rw [List.mem_singleton.mp commit] at connect
          exact absurd connect (by simp [commitFrame, transactionFrame, Frame.bodyless])
  cases greets with
  | silent => contradiction
  | started sound early => exact greeted sound (early.subset handed)
  | completed sound ordinary =>
      rcases List.mem_append.mp handed with first | later
      · exact greeted sound first
      · rcases List.mem_cons.mp later with impossible | after
        · contradiction
        · exact absurd connect (ordinary _ after).2

/-- Every frame that is passed to a connection can be read back. -/
theorem readable_of_handed {settings : Settings} (unescaped : ∀ server ∈ settings.servers,
      (connectFrame server settings.protocolVersion settings.heartbeat).Unescaped) {state : State}
    (reach : (client settings).Reaches (fun _ action => action.Legible) state)
    {connection : ConnectionId} {frame : Frame}
    (handed : .handed connection frame ∈ state.shared.trace) : frame.Readable := by
  have legible := legible_of_reaches reach
  rcases legible.shared.trace _ handed with settles | connect | valid
  · exact (settled_of_reaches reach connection frame handed settles).readable
  · have greets := (Session.greeted_of_reaches (session_of_reaches reach)).shared.greets connection
    have logged : .handed connection frame ∈ state.shared.logOn connection :=
      List.mem_filter.mpr ⟨handed, by simp [Event.connection?]⟩
    obtain ⟨server, listed, rfl⟩ := greets.listed
      (fun transaction other member => (legible.shared.sent transaction other member).escaped)
      logged connect
    exact (unescaped server listed).readable
  · exact valid.readable

/-! ## The stream of a connection -/

/-- The frame of an element of a stream, if it is no heartbeat. -/
def AnyFrame.real? : AnyFrame → Option Frame
  | .heartbeat => none
  | .frame real => some real

/-- The frame that an event passes to a connection. -/
def Event.frameTo? (connection : ConnectionId) : Event → Option Frame
  | .handed other frame => if other = connection then some frame else none
  | _ => none

/-- The frames that were passed to a connection, in order. -/
def Shared.handedOn (shared : Shared) (connection : ConnectionId) : List Frame :=
  shared.trace.filterMap (Event.frameTo? connection)

theorem yields_of_readable {items : List AnyFrame}
    (readable : ∀ frame, .frame frame ∈ items → frame.Readable) (previousByte : Option UInt8) :
    ∃ read lastByte,
      (idle previousByte).Yields (items.flatMap AnyFrame.dump) read (idle lastByte) ∧
        List.Forall₂ AnyFrame.Equal read items := by
  induction items generalizing previousByte with
  | nil => exact ⟨[], previousByte, Yields.nil _, .nil⟩
  | cons item items ih =>
      have others : ∀ frame, .frame frame ∈ items → frame.Readable :=
        fun frame member => readable frame (List.mem_cons_of_mem _ member)
      cases item with
      | heartbeat =>
          obtain ⟨read, lastByte, tail, same⟩ := ih others (some newline)
          exact ⟨_, lastByte, (idle_yields_newline previousByte).append tail, .cons trivial same⟩
      | frame real =>
          obtain ⟨back, equal, head⟩ := readable real List.mem_cons_self previousByte
          obtain ⟨read, lastByte, tail, same⟩ := ih others (some null)
          exact ⟨_, lastByte, head.append tail, .cons equal same⟩

theorem parseChunks_of_reaches {settings : Settings} (unescaped : ∀ server ∈ settings.servers,
      (connectFrame server settings.protocolVersion settings.heartbeat).Unescaped) {state : State}
    (reach : (client settings).Reaches (fun _ action => action.Legible) state)
    (connection : ConnectionId) {items : List AnyFrame}
    (written : items.filterMap AnyFrame.real? = state.shared.handedOn connection)
    {received : List Bytes} (arrived : received.flatten <+: items.flatMap AnyFrame.dump) :
    ∃ last read, ({} : FrameParser).parseChunks received = .ok (last, read) ∧
      ∃ seen, seen <+: items ∧ List.Forall₂ AnyFrame.Equal read seen ∧
        (received.flatten = items.flatMap AnyFrame.dump → seen = items) := by
  have readable : ∀ frame, .frame frame ∈ items → frame.Readable := by
    intro frame member
    have passed : frame ∈ state.shared.handedOn connection := by
      rw [← written]
      exact List.mem_filterMap.mpr ⟨_, member, rfl⟩
    obtain ⟨event, happened, own⟩ := List.mem_filterMap.mp passed
    cases event with
    | handed other sent =>
        simp only [Event.frameTo?] at own
        split at own
        · obtain rfl := Option.some.inj own
          exact readable_of_handed unescaped reach happened
        · contradiction
    | _ => contradiction
  obtain ⟨all, lastByte, whole, same⟩ := yields_of_readable readable none
  obtain ⟨rest, split⟩ := arrived
  have sound : ({} : FrameParser).Sound := sound_fresh
  rw [← split] at whole
  obtain ⟨read, later, last, head, tail, -, rfl⟩ := whole.of_append sound
  refine ⟨last, read, by rw [parseChunks_eq]; exact head, items.take read.length,
    List.take_prefix _ _, ?_, ?_⟩
  · exact (List.forall₂_take_append _ _ _ same.flip).flip
  · intro complete
    obtain rfl : rest = [] := List.append_right_eq_self.mp (split.trans complete.symm)
    obtain ⟨rfl, -⟩ := (Yields.nil last).functional tail
    rw [List.append_nil] at same
    exact List.take_of_length_le (Nat.le_of_eq same.length_eq.symm)

/-- If the texts of all calls have no carriage return and no NUL, and no header map is written to
while something refers to it, every frame is dumped as it was built, and a server that has received
any part of what was written on a connection, cut in any way, has read the frames passed to it so
far, in order and with the heartbeats between them, and nothing else. -/
theorem read_by_server {settings : Settings} (unescaped : ∀ server ∈ settings.servers,
      (connectFrame server settings.protocolVersion settings.heartbeat).Unescaped)
    {lending : Lending}
    (reach : (lends settings).Reaches (Lending.Meets fun _ action => action.Legible) lending) :
    lending.Faithful ∧ ∀ connection (items : List AnyFrame) (received : List Bytes),
      items.filterMap AnyFrame.real? = lending.state.shared.handedOn connection →
      received.flatten <+: items.flatMap AnyFrame.dump →
      ∃ last read, ({} : FrameParser).parseChunks received = .ok (last, read) ∧
        ∃ seen, seen <+: items ∧ List.Forall₂ AnyFrame.Equal read seen ∧
          (received.flatten = items.flatMap AnyFrame.dump → seen = items) :=
  ⟨Lending.faithful_of_reaches (reach.mono fun _ _ => And.left),
    fun connection _ _ written arrived =>
      parseChunks_of_reaches unescaped (Lending.client_of_reaches reach) connection written arrived⟩

/-- A client subscribes, reads a message and acknowledges it. -/
def acknowledgesOnce : List Action :=
  receives ++ [returns (.handler 0), returns (.handler 0)]

/-- The inputs of this run. -/
def Action.sampled : Action → Bool
  | .enter => true
  | .subscribe subscription => subscription = plainSubscription
  | .resume .listener (.frame (.frame message)) _ => message = plainMessage
  | .resume .. => true
  | _ => false

/-- What is written, with a heartbeat before the SUBSCRIBE. -/
def acknowledgingItems : List AnyFrame :=
  (plainSettings.servers.map fun server =>
    .frame (connectFrame server plainSettings.protocolVersion plainSettings.heartbeat)) ++
    [.heartbeat, .frame plainSubscription.frame, .frame plainAck]

theorem Action.legible_of_sampled {action : Action} (sampled : action.sampled = true) :
    action.Legible := by
  unfold Action.sampled at sampled
  split at sampled
  · trivial
  · obtain rfl := of_decide_eq_true sampled
    have spotless : SpotlessHeaders plainSubscription.frame.headers := by
      unfold SpotlessHeaders
      decide +kernel
    exact spotless.roundTrips (by decide)
  · obtain rfl := of_decide_eq_true sampled
    intro ackId present
    obtain rfl : "a" = ackId := Option.some.inj present
    decide
  · rename_i task reply choice other
    cases task with
    | listener =>
        cases reply with
        | frame read =>
            cases read with
            | heartbeat => trivial
            | frame message => exact (other message rfl rfl).elim
        | _ => trivial
    | _ => trivial
  · contradiction

/-- The stream arrives in two chunks, cut inside the CONNECT frame. -/
theorem read_by_server_acknowledgesOnce :
    ∃ lending, (lends plainSettings).Reaches (Lending.Meets fun _ action => action.Legible)
        lending ∧
      lending.state.shared.handedOn 0 = acknowledgingItems.filterMap AnyFrame.real? ∧
      ∃ last read,
        ({} : FrameParser).parseChunks [(acknowledgingItems.flatMap AnyFrame.dump).take 20,
          (acknowledgingItems.flatMap AnyFrame.dump).drop 20] = .ok (last, read) ∧
        List.Forall₂ AnyFrame.Equal read acknowledgingItems := by
  have replayed : ((lends plainSettings).replay (Lending.test fun _ action => action.sampled)
      (lends plainSettings).initial (acknowledgesOnce.map .own)).map (fun lending =>
        decide (lending.state.shared.handedOn 0 = acknowledgingItems.filterMap AnyFrame.real?)) =
      some true := by
    decide +kernel
  obtain ⟨lending, reach, handed⟩ := System.exists_of_replay
    (Lending.meets_of_test fun _ _ => Action.legible_of_sampled) replayed
  have handed := of_decide_eq_true handed
  have unescaped : ∀ server ∈ plainSettings.servers,
      (connectFrame server plainSettings.protocolVersion plainSettings.heartbeat).Unescaped := by
    intro server listed
    obtain rfl := List.mem_singleton.mp listed
    exact ⟨rfl, by decide +kernel, by decide +kernel⟩
  have whole : [(acknowledgingItems.flatMap AnyFrame.dump).take 20,
      (acknowledgingItems.flatMap AnyFrame.dump).drop 20].flatten =
        acknowledgingItems.flatMap AnyFrame.dump := by
    simp only [List.flatten_cons, List.flatten_nil, List.append_nil, List.take_append_drop]
  obtain ⟨last, read, parsed, seen, -, same, complete⟩ :=
    (read_by_server unescaped reach).2 0 _ _ handed.symm ⟨[], by rw [whole, List.append_nil]⟩
  obtain rfl := complete whole
  exact ⟨lending, reach, handed, last, read, parsed, same⟩

end Stompman
