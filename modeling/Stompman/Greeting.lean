import Stompman.Connecting
import Stompman.Traffic
import Stompman.Waiting

/-!
# The first frames on a connection

A connection starts with its handshake: CONNECT, a SUBSCRIBE for each subscription, and the frames
of pending transactions, each with its COMMIT.  Every one of these frames is handed over only after
the one before it has been written, and nothing else is written before the connection is active.
`Greets` is this shape of the log of a connection; it holds in every run, whatever the tasks do.
-/

namespace Stompman

open Foundation

/-! ## Logs -/

/-- What has happened on a connection: calls and returns of `write_frame`, and that it became
active. -/
def Shared.logOn (shared : Shared) (connection : ConnectionId) : List Event :=
  shared.trace.filter fun event => event.connection? = some connection

/-- Frames that are written one after another. -/
def inTurn (connection : ConnectionId) (frames : List Frame) : List Event :=
  frames.flatMap fun frame => [.handed connection frame, .wrote connection frame]

@[simp] theorem inTurn_append (connection : ConnectionId) (first second : List Frame) :
    inTurn connection (first ++ second) = inTurn connection first ++ inTurn connection second :=
  List.flatMap_append

@[simp] theorem inTurn_nil (connection : ConnectionId) : inTurn connection [] = [] := rfl

@[simp] theorem inTurn_cons (connection : ConnectionId) (frame : Frame) (frames : List Frame) :
    inTurn connection (frame :: frames) =
      .handed connection frame :: .wrote connection frame :: inTurn connection frames :=
  rfl

theorem activated_notMem_inTurn (connection other : ConnectionId) (frames : List Frame) :
    .activated other ∉ inTurn connection frames := by
  simp [inTurn]

/-- A replay of a transaction: its frames and COMMIT. -/
def replay (transaction : String × List Frame) : List Frame :=
  transaction.2 ++ [commitFrame transaction.1]

/-- What a handshake writes. -/
structure Greeting where
  server : ConnectionParameters
  subscriptions : List Subscription := []
  /-- Replayed transactions, with the frames that were replayed. -/
  transactions : List (String × List Frame) := []

namespace Greeting

/-- The frames of a handshake, in order. -/
def frames (settings : Settings) (greeting : Greeting) : List Frame :=
  connectFrame greeting.server settings.protocolVersion settings.heartbeat ::
    (greeting.subscriptions.map Subscription.frame ++ greeting.transactions.flatMap replay)

/-- Handshakes that the client can make: with one of its servers, without a subscription that occurs
twice, and with the frames that the blocks of the transactions have sent so far. -/
structure Sound (settings : Settings) (sentFrames : String → List Frame) (greeting : Greeting) :
    Prop where
  server : greeting.server ∈ settings.servers
  ids : (greeting.subscriptions.map Subscription.id).Nodup
  replayed : ∀ transaction ∈ greeting.transactions,
    transaction.2 <+: sentFrames transaction.1

variable {settings : Settings} {sentFrames more : String → List Frame} {greeting : Greeting}

theorem Sound.mono (sound : greeting.Sound settings sentFrames)
    (grows : ∀ transaction, sentFrames transaction <+: more transaction) :
    greeting.Sound settings more :=
  ⟨sound.server, sound.ids, fun transaction member =>
    (sound.replayed transaction member).trans (grows transaction.1)⟩

/-- One more SUBSCRIBE. -/
def subscribe (greeting : Greeting) (subscription : Subscription) : Greeting :=
  { greeting with subscriptions := greeting.subscriptions ++ [subscription] }

/-- One more replay. -/
def commit (greeting : Greeting) (transaction : String) (frames : List Frame) : Greeting :=
  { greeting with transactions := greeting.transactions ++ [(transaction, frames)] }

theorem frames_subscribe (subscription : Subscription) (early : greeting.transactions = []) :
    (greeting.subscribe subscription).frames settings =
      greeting.frames settings ++ [subscription.frame] := by
  simp [frames, subscribe, early]

theorem frames_commit (transaction : String) (frames : List Frame) :
    (greeting.commit transaction frames).frames settings =
      greeting.frames settings ++ frames ++ [commitFrame transaction] := by
  simp [Greeting.frames, commit, replay]

theorem Sound.commit (sound : greeting.Sound settings sentFrames) {transaction : String}
    {frames : List Frame} (read : frames <+: sentFrames transaction) :
    (greeting.commit transaction frames).Sound settings sentFrames := by
  refine ⟨sound.server, sound.ids, ?_⟩
  intro other member
  rcases List.mem_append.mp member with old | new
  · exact sound.replayed other old
  · obtain rfl := List.mem_singleton.mp new
    exact read

end Greeting

/-- Events of a connection after its handshake. -/
def Event.Ordinary (connection : ConnectionId) : Event → Prop
  | .handed other frame | .wrote other frame => other = connection ∧ frame.type ≠ .connect
  | _ => False

/-- The log of a connection: at most a handshake, and after a complete one frames other than
CONNECT. -/
inductive Greets (settings : Settings) (sentFrames : String → List Frame)
    (connection : ConnectionId) : List Event → Prop
  | silent : Greets settings sentFrames connection []
  | started {greeting : Greeting} (sound : greeting.Sound settings sentFrames)
      {events : List Event} (early : events <+: inTurn connection (greeting.frames settings)) :
      Greets settings sentFrames connection events
  | completed {greeting : Greeting} (sound : greeting.Sound settings sentFrames)
      {later : List Event} (ordinary : ∀ event ∈ later, event.Ordinary connection) :
      Greets settings sentFrames connection
        (inTurn connection (greeting.frames settings) ++ .activated connection :: later)

namespace Greets

variable {settings : Settings} {sentFrames more : String → List Frame} {connection : ConnectionId}
  {log : List Event}

theorem mono (greets : Greets settings sentFrames connection log)
    (grows : ∀ transaction, sentFrames transaction <+: more transaction) :
    Greets settings more connection log := by
  cases greets with
  | silent => exact .silent
  | started sound early => exact .started (sound.mono grows) early
  | completed sound ordinary => exact .completed (sound.mono grows) ordinary

/-- A connection that has been active goes on with ordinary frames. -/
theorem append (greets : Greets settings sentFrames connection log)
    (used : .activated connection ∈ log) {events : List Event}
    (ordinary : ∀ event ∈ events, event.Ordinary connection) :
    Greets settings sentFrames connection (log ++ events) := by
  cases greets with
  | silent => contradiction
  | started sound early =>
      exact absurd (early.subset used) (activated_notMem_inTurn _ _ _)
  | completed sound known =>
      rw [List.append_assoc, List.cons_append]
      refine .completed sound ?_
      intro event member
      rcases List.mem_append.mp member with old | new
      · exact known event old
      · exact ordinary event new

end Greets

/-! ## Handshakes in progress -/

/-- The log of a connection whose handshake stands at an `await`. -/
inductive Underway (settings : Settings) (sentFrames : String → List Frame)
    (connection : ConnectionId) : Enter → List Event → Prop
  | writingConnect {server : ConnectionParameters} (listed : server ∈ settings.servers) :
      Underway settings sentFrames connection (.writingConnect server)
        [.handed connection (connectFrame server settings.protocolVersion settings.heartbeat)]
  | readingConnected {server : ConnectionParameters} (listed : server ∈ settings.servers)
      (collected : List AnyFrame) :
      Underway settings sentFrames connection (.readingConnected collected)
        (inTurn connection (Greeting.frames settings { server }))
  | resubscribing {greeting : Greeting} (listed : greeting.server ∈ settings.servers)
      (early : greeting.transactions = []) (current : Subscription) (remaining : List Subscription)
      (ids : ((greeting.subscriptions ++ current :: remaining).map Subscription.id).Nodup) :
      Underway settings sentFrames connection (.resubscribing current remaining)
        (inTurn connection (greeting.frames settings) ++ [.handed connection current.frame])
  | replaying {greeting : Greeting} (sound : greeting.Sound settings sentFrames) (walk : Walk)
      (current : String) (frames : List Frame) (frame : Frame)
      (read : frames ++ [frame] <+: sentFrames current) :
      Underway settings sentFrames connection
        (.replaying walk current (some (frames.length, frame)))
        (inTurn connection (greeting.frames settings ++ frames) ++ [.handed connection frame])
  | committing {greeting : Greeting} (sound : greeting.Sound settings sentFrames) (walk : Walk)
      (current : String) (frames : List Frame) (read : frames <+: sentFrames current) :
      Underway settings sentFrames connection (.replaying walk current none)
        (inTurn connection (greeting.frames settings ++ frames) ++
          [.handed connection (commitFrame current)])

namespace Underway

variable {settings : Settings} {sentFrames more : String → List Frame} {connection : ConnectionId}
  {point : Enter} {log : List Event}

theorem mono (underway : Underway settings sentFrames connection point log)
    (grows : ∀ transaction, sentFrames transaction <+: more transaction) :
    Underway settings more connection point log := by
  cases underway with
  | writingConnect listed => exact .writingConnect listed
  | readingConnected listed collected => exact .readingConnected listed collected
  | resubscribing listed early current remaining ids =>
      exact .resubscribing listed early current remaining ids
  | replaying sound walk current frames frame read =>
      exact .replaying (sound.mono grows) walk current frames frame (read.trans (grows current))
  | committing sound walk current frames read =>
      exact .committing (sound.mono grows) walk current frames (read.trans (grows current))

/-- A frame that is being written is the next one of the handshake. -/
theorem started_of_next {greeting : Greeting} (sound : greeting.Sound settings sentFrames)
    (written : List Frame) (frame : Frame) (rest : List Frame)
    (next : greeting.frames settings = written ++ frame :: rest) :
    Greets settings sentFrames connection
      (inTurn connection written ++ [.handed connection frame]) := by
  refine .started sound ?_
  rw [next, inTurn_append, inTurn_cons, List.prefix_append_right_inj]
  exact ⟨.wrote connection frame :: inTurn connection rest, rfl⟩

theorem greets (underway : Underway settings sentFrames connection point log) :
    Greets settings sentFrames connection log := by
  cases underway with
  | @writingConnect server listed =>
      have sound : ({ server } : Greeting).Sound settings sentFrames :=
        ⟨listed, by simp, by simp⟩
      exact started_of_next sound [] _ [] rfl
  | readingConnected listed =>
      exact .started ⟨listed, by simp, by simp⟩ List.prefix_rfl
  | @resubscribing greeting listed early current remaining ids =>
      have sound : (greeting.subscribe current).Sound settings sentFrames := by
        refine ⟨listed, ids.sublist (List.Sublist.map _ ?_), by simp [Greeting.subscribe, early]⟩
        exact List.Sublist.append_left (List.singleton_sublist.mpr List.mem_cons_self) _
      exact started_of_next sound _ _ [] (Greeting.frames_subscribe current early)
  | @replaying greeting sound walk current frames frame read =>
      refine started_of_next (sound.commit read) _ _ [commitFrame current] ?_
      simp [Greeting.frames_commit]
  | @committing greeting sound walk current frames read =>
      exact started_of_next (sound.commit read) _ _ [] (Greeting.frames_commit current frames)

/-- What has been written once `enter` goes on, and what is left to subscribe to. -/
theorem ready {shared base : Shared} {reply : Reply} {rest : List Subscription} {walk : Walk}
    (underway : Underway settings shared.sentFrames connection point log)
    (ids : (shared.subscriptions.getAll.map Subscription.id).Nodup)
    (ready : shared.Ready settings connection reply point base rest walk) :
    ∃ greeting : Greeting, greeting.Sound settings shared.sentFrames ∧
      log ++ Shared.writtenBy connection point = inTurn connection (greeting.frames settings) ∧
      ((greeting.subscriptions ++ rest).map Subscription.id).Nodup ∧
      (rest = [] ∨ greeting.transactions = []) := by
  cases ready with
  | confirmed collected =>
      cases underway with
      | @readingConnected server listed =>
          refine ⟨{ server }, ⟨listed, by simp, by simp⟩, ?_, ids, .inr rfl⟩
          simp [Shared.writtenBy]
  | resubscribed current remaining =>
      cases underway with
      | @resubscribing greeting listed early _ _ distinct =>
          rw [List.append_cons] at distinct
          refine ⟨greeting.subscribe current, ⟨listed, ?_, ?_⟩, ?_, distinct, .inr early⟩
          · exact distinct.sublist ((List.sublist_append_left _ _).map _)
          · simp [Greeting.subscribe, early]
          · simp [Greeting.frames_subscribe current early, Shared.writtenBy]
  | committed walk current =>
      cases underway with
      | @committing greeting sound _ _ frames read =>
          refine ⟨greeting.commit current frames, sound.commit read, ?_, ?_, .inl rfl⟩
          · simp [Greeting.frames_commit, Shared.writtenBy, Shared.replayedFrame]
          · simpa using (sound.commit read).ids

/-- The next frame of a transaction, or its COMMIT, is handed over. -/
theorem replays {shared : Shared} {greeting : Greeting}
    (sound : greeting.Sound settings shared.sentFrames) (walk : Walk) (transaction : String)
    (frames : List Frame) (read : frames <+: shared.sentFrames transaction) :
    Underway settings shared.sentFrames connection
      (.replaying walk transaction (shared.replayed transaction frames.length))
      (inTurn connection (greeting.frames settings ++ frames) ++ [.handed connection
        (Shared.replayedFrame transaction (shared.replayed transaction frames.length))]) := by
  cases next : (shared.sentFrames transaction)[frames.length]? with
  | none =>
      simp only [Shared.replayed, next, Option.map_none, Shared.replayedFrame]
      exact .committing sound walk transaction frames read
  | some frame =>
      simp only [Shared.replayed, next, Option.map_some, Shared.replayedFrame]
      refine .replaying sound walk transaction frames frame ?_
      obtain ⟨rest, sent⟩ := read
      rw [← sent] at next ⊢
      cases rest with
      | nil => simp at next
      | cons first rest =>
          obtain rfl : first = frame := by simpa using next
          exact ⟨rest, by simp⟩

end Underway

/-! ## Subscriptions and servers of a handshake -/

namespace ActiveSubscriptions

/-- Every subscription is filed under its id. -/
def Named (active : ActiveSubscriptions) : Prop :=
  ∀ id subscription, active.getById id = some subscription → subscription.id = id

theorem Named.nodup_ids {active : ActiveSubscriptions} (named : active.Named) :
    (active.getAll.map Subscription.id).Nodup := by
  have keys : active.getAll.map Subscription.id = active.subscriptions.keys := by
    rw [getAll, Dict.values, Dict.keys, List.map_map]
    refine List.map_congr_left fun entry member => ?_
    exact named entry.1 entry.2 ((Dict.get?_eq_some_iff _ _ _).mpr member)
  rw [keys]
  exact active.subscriptions.nodup_keys

theorem Named.add {active : ActiveSubscriptions} (named : active.Named)
    (subscription : Subscription) : (active.add subscription).Named := by
  intro id found current
  rw [getById_add] at current
  split at current
  · rename_i same
    obtain rfl := Option.some.inj current
    exact same.symm
  · exact named id found current

theorem Named.deleteById {active : ActiveSubscriptions} (named : active.Named) (id : String) :
    (active.deleteById id).Named := by
  intro other found current
  rw [getById_deleteById] at current
  split at current
  · contradiction
  · exact named other found current

theorem Named.relatesExit :
    RelatesExit fun before after => before.subscriptions.Named → after.subscriptions.Named where
  refl _ := id
  trans first second := second ∘ first
  hands _ _ _ := id
  writes _ _ _ := id
  discards _ _ _ := id
  closes _ _ := id
  unsubscribing _ id named := named.deleteById id
  unsubscribed _ _ := id

theorem Named.of_step {settings : Settings} {state after : State} {action : Action}
    (fits : state.Fits) (named : state.shared.subscriptions.Named)
    (stepped : step settings state action = some after) : after.shared.subscriptions.Named := by
  have revises := revises_of_step fits stepped
  generalize after.shared.subscriptions = active at revises
  cases revises with
  | keeps => exact named
  | adds subscription => exact named.add subscription
  | deletes _ id => exact named.deleteById id

end ActiveSubscriptions

namespace Shared

variable {settings : Settings} {shared before after : Shared}

/-- A handshake starts with one of the servers of the client. -/
def Listed (settings : Settings) (shared : Shared) : Prop :=
  ∀ connection server, shared.handshake = some (connection, .writingConnect server) →
    server ∈ settings.servers

theorem Listed.of_reconnect (listed : before.Listed settings)
    (same : after.reconnect = before.reconnect) : after.Listed settings := by
  intro connection server entering
  rw [handshake_congr same] at entering
  exact listed connection server entering

/-- A connection that a race has given belongs to a server of the list. -/
theorem mem_servers_of_opens {reconnect : Reconnect} {reply : Reply} {pick : Option String}
    {progress : Progress Unit ConnectionId} {pending others : List Nat}
    {server : ConnectionParameters} (racing : reconnect.phase = .racing others)
    (resumed : shared.resumeReconnect settings reconnect reply pick =
      some (shared.startHandshake settings reconnect pending server, progress)) :
    server ∈ settings.servers := by
  have started : ∀ {other : Shared}, other.handshake = none →
      other ≠ shared.startHandshake settings reconnect pending server := by
    rintro other calm rfl
    simp [startHandshake] at calm
  simp only [resumeReconnect, racing] at resumed
  split at resumed
  · split at resumed
    · obtain ⟨found, listed, same⟩ := Option.map_eq_some_iff.mp resumed
      have entering := congrArg (fun result => result.1.handshake) same
      simp only [startHandshake, handshake_hold, Option.some.injEq, Prod.mk.injEq,
        Enter.writingConnect.injEq, true_and] at entering
      rw [← entering]
      exact List.mem_of_getElem? listed
    · contradiction
  · split at resumed
    · split at resumed <;>
        exact absurd (congrArg Prod.fst (Option.some.inj resumed)) (started rfl)
    · contradiction
  · split at resumed
    · exact absurd (congrArg Prod.fst (Option.some.inj resumed)) (started rfl)
    · contradiction
  · exact absurd (congrArg Prod.fst (Option.some.inj resumed)) (started rfl)
  · contradiction

theorem Listed.resumeConnecting (listed : shared.Listed settings) {task : TaskId} {reply : Reply}
    {pick : Option String} {progress : Progress Unit ConnectionId}
    (resumed : shared.resumeConnecting settings task reply pick = some (after, progress)) :
    after.Listed settings := by
  have moved : ∀ {other : Shared} {reconnect : Reconnect} {connection : ConnectionId}
      {point : Enter}, (∀ server, point ≠ .writingConnect server) →
      (other.hold reconnect (.entering connection point)).Listed settings := by
    intro other reconnect connection point elsewhere current server entering
    exact absurd (eq_of_handshake_hold entering).2 (elsewhere server)
  have calm : ∀ {other : Shared}, other.handshake = none → other.Listed settings := by
    intro other quiet connection server entering
    rw [quiet] at entering
    contradiction
  have effects := reconnects_resumeConnecting resumed
  cases effects with
  | interrupted => exact listed
  | found => exact listed
  | races => exact calm rfl
  | sleeps => exact calm rfl
  | leaves => exact calm rfl
  | opens reconnect locked owned quiet pending server racing =>
      obtain ⟨others, phase⟩ := racing
      simp only [Shared.resumeConnecting, locked, owned, if_true] at resumed
      intro connection other entering
      obtain ⟨-, same⟩ := eq_of_handshake_hold entering
      obtain rfl := Enter.writingConnect.inj same
      exact mem_servers_of_opens phase resumed
  | fails => exact calm rfl
  | asks => exact moved (by simp)
  | collects => exact moved (by simp)
  | subscribes => exact moved (by simp)
  | replays =>
      rw [replayFrame_eq]
      exact moved (by simp)
  | picks =>
      rw [replayFrame_eq]
      exact moved (by simp)
  | changed => exact calm rfl
  | finishes => exact calm rfl

theorem Listed.of_step {state next : State} {action : Action} (fits : state.Fits)
    (listed : state.shared.Listed settings) (stepped : step settings state action = some next) :
    next.shared.Listed settings := by
  cases Drives.of_step fits stepped with
  | apart idle beside => exact listed.of_reconnect beside.reconnect
  | opens => exact listed.of_reconnect rfl
  | waits task reply choice standing resumed => exact listed.resumeConnecting resumed
  | leaves task reply choice standing resumed ended beside =>
      exact (listed.resumeConnecting resumed).of_reconnect beside.reconnect

theorem logOn_append {events : List Event} (trace_eq : after.trace = before.trace ++ events)
    (connection : ConnectionId) : after.logOn connection = before.logOn connection ++
      events.filter fun event => event.connection? = some connection := by
  rw [logOn, trace_eq, List.filter_append]
  rfl

/-- Events that concern one connection at most. -/
def Concern (connection : ConnectionId) (events : List Event) : Prop :=
  ∀ event ∈ events, ∀ used, event.connection? = some used → used = connection

theorem concern_writtenBy (connection : ConnectionId) (point : Enter) {later : List Event}
    (own : Concern connection later) :
    Concern connection (writtenBy connection point ++ later) := by
  intro event member used on
  rcases List.mem_append.mp member with early | late
  · exact (Placed.writtenBy_on connection point).1 event early used on
  · exact own event late used on

/-- Events of one connection do not show in the log of another. -/
theorem logOn_eq_of_concern {events : List Event} (trace_eq : after.trace = before.trace ++ events)
    {connection other : ConnectionId} (own : Concern connection events)
    (different : other ≠ connection) : after.logOn other = before.logOn other := by
  rw [logOn_append trace_eq, List.filter_eq_nil_iff.mpr, List.append_nil]
  intro event member
  rw [decide_eq_true_eq]
  exact fun used => different (own event member other used)

theorem filter_writtenBy (connection : ConnectionId) (point : Enter) :
    (writtenBy connection point).filter (fun event => event.connection? = some connection) =
      writtenBy connection point := by
  cases point <;> simp [writtenBy, Event.connection?]

/-- The logs of all connections. -/
structure Greeted (settings : Settings) (shared : Shared) : Prop where
  placed : shared.Placed
  handshake : ∀ connection point, shared.handshake = some (connection, point) →
    Underway settings shared.sentFrames connection point (shared.logOn connection)
  greets : ∀ connection, Greets settings shared.sentFrames connection (shared.logOn connection)

namespace Greeted

/-- Outside a handshake, only connections that have been active are used. -/
theorem speaks (greeted : before.Greeted settings) (speaks : before.Speaks after) :
    after.Greeted settings := by
  obtain ⟨events, trace_eq, later⟩ := speaks.trace
  have unused : ∀ connection, .activated connection ∉ before.trace →
      after.logOn connection = before.logOn connection := by
    intro connection fresh
    rw [logOn_append trace_eq, List.filter_eq_nil_iff.mpr, List.append_nil]
    intro event member
    rw [decide_eq_true_eq]
    intro on
    have known := later event member
    cases event with
    | handed other => exact fresh (Option.some.inj on ▸ known.1)
    | wrote other => exact fresh (Option.some.inj on ▸ known.1)
    | activated other => exact known
    | _ => simp [Event.connection?] at on
  refine ⟨greeted.placed.speaks speaks, ?_, ?_⟩
  · intro connection point entering
    rw [handshake_congr speaks.reconnect] at entering
    rw [unused connection (greeted.placed.handshake connection point entering).2]
    exact (greeted.handshake connection point entering).mono speaks.sentFrames
  · intro connection
    by_cases used : .activated connection ∈ before.trace
    · rw [logOn_append trace_eq]
      refine ((greeted.greets connection).append ?_ ?_).mono speaks.sentFrames
      · exact List.mem_filter.mpr ⟨used, by simp [Event.connection?]⟩
      · intro event member
        obtain ⟨added, on⟩ := List.mem_filter.mp member
        rw [decide_eq_true_eq] at on
        have known := later event added
        cases event with
        | handed other => exact ⟨Option.some.inj on, known.2⟩
        | wrote other => exact ⟨Option.some.inj on, known.2⟩
        | activated other => exact absurd known id
        | _ => simp [Event.connection?] at on
    · rw [unused connection used]
      exact (greeted.greets connection).mono speaks.sentFrames

/-- A handshake is over. -/
theorem ends (greeted : before.Greeted settings) (placed : after.Placed) (events : List Event)
    (trace_eq : after.trace = before.trace ++ events)
    (sentFrames : after.sentFrames = before.sentFrames) (calm : after.handshake = none)
    (connection : ConnectionId)
    (own : Concern connection events)
    (greets : Greets settings before.sentFrames connection (before.logOn connection ++
      events.filter fun event => event.connection? = some connection)) :
    after.Greeted settings := by
  refine ⟨placed, by simp [calm], ?_⟩
  intro other
  rw [sentFrames]
  by_cases same : other = connection
  · rw [same, logOn_append trace_eq]
    exact greets
  · rw [logOn_eq_of_concern trace_eq own same]
    exact greeted.greets other

/-- A handshake goes on. -/
theorem proceeds (greeted : before.Greeted settings) {reconnect : Reconnect}
    {connection : ConnectionId} {point : Enter}
    (placed : (after.hold reconnect (.entering connection point)).Placed) (events : List Event)
    (trace_eq : after.trace = before.trace ++ events)
    (sentFrames : after.sentFrames = before.sentFrames)
    (own : Concern connection events)
    (underway : Underway settings before.sentFrames connection point (before.logOn connection ++
      events.filter fun event => event.connection? = some connection)) :
    (after.hold reconnect (.entering connection point)).Greeted settings := by
  have log := logOn_append trace_eq connection
  refine ⟨placed, ?_, ?_⟩
  · intro other reached entering
    obtain ⟨rfl, rfl⟩ := eq_of_handshake_hold entering
    rw [← log, ← sentFrames] at underway
    exact underway
  · intro other
    by_cases same : other = connection
    · subst same
      rw [← log, ← sentFrames] at underway
      exact underway.greets
    · have kept : (after.hold reconnect (.entering connection point)).logOn other =
          before.logOn other := logOn_eq_of_concern trace_eq own same
      rw [kept]
      exact sentFrames ▸ greeted.greets other

theorem reconnects {task : TaskId} {reply : Reply} {progress : Progress Unit ConnectionId}
    (greeted : before.Greeted settings) (named : before.subscriptions.Named)
    (effects : before.Reconnects settings task reply after progress)
    (listed : after.Listed settings) : after.Greeted settings := by
  have placed := greeted.placed.reconnects effects
  have current : ∀ {reconnect connection point}, before.reconnect = some reconnect →
      reconnect.phase = .entering connection point →
      Underway settings before.sentFrames connection point (before.logOn connection) :=
    fun locked phase => greeted.handshake _ _ (handshake_of_phase locked phase)
  have rests : after.trace = before.trace → after.sentFrames = before.sentFrames →
      after.handshake = none → after.Greeted settings := by
    intro trace_eq sentFrames calm
    refine greeted.ends placed [] (by simp [trace_eq]) sentFrames calm 0 (by simp [Concern]) ?_
    simpa using greeted.greets 0
  have handed : ∀ connection frame, Concern connection [.handed connection frame] := by
    simp [Concern, Event.connection?]
  cases effects with
  | interrupted => exact greeted
  | found => exact greeted
  | races => exact rests rfl rfl rfl
  | sleeps => exact rests rfl rfl rfl
  | leaves => exact rests rfl rfl rfl
  | opens reconnect locked owned calm pending server =>
      have fresh : before.logOn before.connections = [] := by
        refine List.filter_eq_nil_iff.mpr fun event member => ?_
        rw [decide_eq_true_eq]
        exact fun on => Nat.lt_irrefl _ (greeted.placed.bound event member _ on)
      refine greeted.proceeds placed _ (List.append_assoc _ _ _) rfl ?_ ?_
      · simp [Concern, Event.connection?]
      · rw [fresh]
        simp only [List.singleton_append, Event.connection?, List.filter_cons, decide_true]
        exact .writingConnect (listed _ server rfl)
  | fails reconnect locked owned connection point phase =>
      refine greeted.ends placed [.closed connection] rfl rfl rfl connection
        (by simp [Concern, Event.connection?]) ?_
      simpa [Event.connection?] using (current locked phase).greets
  | asks reconnect locked owned connection server phase =>
      have underway := current locked phase
      refine greeted.proceeds placed [_] rfl rfl (by simp [Concern, Event.connection?]) ?_
      generalize before.logOn connection = log at underway
      cases underway with
      | writingConnect listed =>
          simpa [Event.connection?, Greeting.frames] using Underway.readingConnected listed []
  | collects reconnect locked owned connection collected phase frame =>
      have underway := current locked phase
      refine greeted.proceeds placed [] (by simp) rfl (by simp [Concern]) ?_
      generalize before.logOn connection = log at underway
      cases underway with
      | readingConnected listed =>
          simpa using Underway.readingConnected listed (collected ++ [frame])
  | subscribes reconnect locked owned connection point phase subscription remaining ready =>
      obtain ⟨greeting, sound, written, ids, rest | early⟩ :=
        (current locked phase).ready named.nodup_ids ready
      · contradiction
      refine greeted.proceeds placed _
        (ready.base.trace_append [.handed connection subscription.frame]) ready.base.sentFrames
        (concern_writtenBy connection point (handed _ _)) ?_
      rw [List.filter_append, filter_writtenBy, ← List.append_assoc, written]
      simpa [Event.connection?] using
        Underway.resubscribing sound.server early subscription remaining ids
  | replays reconnect locked owned connection walk transaction index frame phase =>
      have underway := current locked phase
      rw [replayFrame_eq] at placed ⊢
      refine greeted.proceeds placed _ (List.append_assoc _ _ _) rfl
        (by simp [Concern, Event.connection?]) ?_
      generalize before.logOn connection = log at underway
      cases underway with
      | @replaying greeting sound _ _ frames _ read =>
          have next := @Underway.replays settings connection before greeting sound walk transaction
            (frames ++ [frame]) read
          rw [List.length_append, List.length_singleton] at next
          simpa [Event.connection?, noteWritten, replayed, emit] using next
  | @picks reconnect locked owned connection point phase base walk ready transaction =>
      obtain ⟨greeting, sound, written, -⟩ := (current locked phase).ready named.nodup_ids ready
      rw [replayFrame_eq] at placed ⊢
      refine greeted.proceeds placed _ (ready.base.trace_append [.handed connection _])
        ready.base.sentFrames (concern_writtenBy connection point (handed _ _)) ?_
      rw [List.filter_append, filter_writtenBy, ← List.append_assoc, written]
      have next := @Underway.replays settings connection before greeting sound walk transaction
        [] List.nil_prefix
      simpa [Event.connection?, replayed, ready.base.sentFrames] using next
  | changed reconnect locked owned connection point phase ready =>
      obtain ⟨greeting, sound, written, -⟩ := (current locked phase).ready named.nodup_ids ready
      refine greeted.ends placed _ (ready.base.trace_append [.closed connection])
        ready.base.sentFrames rfl connection
        (concern_writtenBy connection point (by simp [Concern, Event.connection?])) ?_
      rw [List.filter_append, filter_writtenBy, ← List.append_assoc, written]
      exact .started sound (by simp [Event.connection?])
  | finishes reconnect locked owned connection point phase ready =>
      obtain ⟨greeting, sound, written, -⟩ := (current locked phase).ready named.nodup_ids ready
      refine greeted.ends placed _ (ready.base.trace_append [.activated connection])
        ready.base.sentFrames rfl connection
        (concern_writtenBy connection point (by simp [Concern, Event.connection?])) ?_
      rw [List.filter_append, filter_writtenBy, ← List.append_assoc, written]
      have complete : Greets settings before.sentFrames connection
          (inTurn connection (greeting.frames settings) ++ [.activated connection]) :=
        .completed sound (by simp)
      simpa [Event.connection?] using complete

theorem of_step {state next : State} {action : Action} (fits : state.Fits) (placed : state.Placed)
    (named : state.shared.subscriptions.Named) (listed : state.shared.Listed settings)
    (greeted : state.shared.Greeted settings) (stepped : step settings state action = some next) :
    next.shared.Greeted settings := by
  have reached := listed.of_step fits stepped
  suffices both : next.Placed ∧ (next.shared.Listed settings → next.shared.Greeted settings) from
    both.2 reached
  refine @holds_of_step settings state next action (fun later => later.Placed ∧
    (later.shared.Listed settings → later.shared.Greeted settings)) fits ?_ ?_ stepped
  · intro middle begins
    refine ⟨placed.begins begins, fun known => ?_⟩
    rcases begins.speaks placed with ⟨task, reply, after, progress, effects, rfl⟩ | speaks
    · exact greeted.reconnects named effects known
    · exact greeted.speaks speaks
  · rintro middle later - ⟨spoken, before⟩ reacts
    have speaks := reacts.speaks spoken
    refine ⟨spoken.reacts reacts, fun known => (before ?_).speaks speaks⟩
    exact known.of_reconnect speaks.reconnect.symm

end Greeted

end Shared

/-! ## Runs -/

namespace Session

variable {settings : Settings} {session next : Session}

/-- The invariant behind the first frames on a connection. -/
structure Greeted (settings : Settings) (session : Session) : Prop where
  placed : session.Placed
  named : session.state.shared.subscriptions.Named
  listed : session.state.shared.Listed settings
  shared : session.state.shared.Greeted settings

theorem Greeted.step {action : SessionAction} (greeted : session.Greeted settings)
    (stepped : sessionStep settings session action = some next) : next.Greeted settings := by
  have placed := greeted.placed.step stepped
  cases action with
  | client action =>
      obtain ⟨state, moved, rfl⟩ := Option.map_eq_some_iff.mp stepped
      have fits := greeted.placed.fits
      exact ⟨placed, greeted.named.of_step fits moved, greeted.listed.of_step fits moved,
        greeted.shared.of_step fits greeted.placed.state greeted.named greeted.listed moved⟩
  | exit raised =>
      simp only [sessionStep] at stepped
      split at stepped
      · split at stepped
        · obtain rfl := Option.some.inj stepped
          unfold Session.leave at placed ⊢
          split <;> rename_i waits <;> simp only [waits] at placed <;>
            exact ⟨placed, greeted.named, greeted.listed, greeted.shared⟩
        · contradiction
      · contradiction
  | resume reply receipt =>
      have speaks := (greeted.placed.recedes stepped).speaks
      exact ⟨placed, ActiveSubscriptions.Named.relatesExit.resume stepped greeted.named,
        greeted.listed.of_reconnect speaks.reconnect, greeted.shared.speaks speaks⟩

theorem greeted_of_reaches {allowed : Session → SessionAction → Prop} {current : Session}
    (reach : (Stompman.session settings).Reaches allowed current) : current.Greeted settings := by
  refine reach.invariant ⟨@placed_of_reaches settings allowed _ .initial, ?_, ?_, ?_, ?_, ?_⟩
    fun _ greeted _ stepped => greeted.step stepped
  · intro id subscription found
    contradiction
  · intro connection server entering
    contradiction
  · exact (@placed_of_reaches settings allowed _ .initial).state.shared
  · intro connection point entering
    contradiction
  · exact fun connection => .silent

end Session

/-- In every run, shutdown included, every connection starts with its handshake and nothing else is
written before it is active: CONNECT, the subscriptions, and complete replays of transactions, each
frame after the one before has been written.  CONNECT never comes again. -/
theorem greets_of_reachable {settings : Settings} {current : Session}
    (reach : (session settings).Reachable current) (connection : ConnectionId) :
    Greets settings current.state.shared.sentFrames connection
      (current.state.shared.logOn connection) :=
  (Session.greeted_of_reaches reach).shared.greets connection

/-- A subscription and a transaction with one frame, then a read that is lost and a new connection,
on which both are made good. -/
def replaysBoth : List Action :=
  enters ++ [.subscribe plainSubscription, returns (.subscribe "1"), .begin "t",
    returns (.transaction "t"), .transactionSend "t" { body := [], destination := "/queue" },
    returns (.transaction "t"), raises .listener .connectionLost, returns .listener] ++
  connects .listener ++ [returns .listener (some "t"), returns .listener, returns .listener]

/-- The type of a frame that is handed over. -/
def Event.sentType? : Event → Option FrameType
  | .handed _ frame => some frame.type
  | _ => none

theorem greets_of_reachable_replaysBoth :
    ∃ current, (session plainSettings).Reachable current ∧
      (current.state.shared.logOn 1).map Event.sentType? = [some .connect, none, some .subscribe,
        none, some .send, none, some .commit, none, none] ∧
      Greets plainSettings current.state.shared.sentFrames 1 (current.state.shared.logOn 1) := by
  have replayed : ((session plainSettings).replay (fun _ _ => true)
      (session plainSettings).initial (replaysBoth.map .client)).map
        (fun current => decide ((current.state.shared.logOn 1).map Event.sentType? =
          [some .connect, none, some .subscribe, none, some .send, none, some .commit, none,
            none])) = some true := by
    decide +kernel
  obtain ⟨current, reach, happened⟩ := System.exists_of_replay (fun _ _ _ => trivial) replayed
  exact ⟨current, reach, of_decide_eq_true happened, greets_of_reachable reach 1⟩

end Stompman
