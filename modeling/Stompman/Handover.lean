import Stompman.Config
import Stompman.Parser

/-!
# From the handshake to the listener

Both the handshake and the listener call `read_frames`, and each call starts a parser of its own.
The handshake stops at the CONNECTED frame, so what the same read brought after it is never parsed,
and the listener starts at the next read.  The file compares the frames that the two see together
with the frames of one parser on the whole stream.
-/

namespace Stompman

open Foundation

/-- What `_read_non_empty_bytes` returns; an empty read is the end of the stream. -/
structure Read where
  bytes : Bytes
  nonempty : bytes ≠ []
  deriving DecidableEq

namespace Handover

open FrameParser

/-- Progress of `take_connected_frame_and_collect_other_frames`. -/
inductive Scan
  | waiting (parser : FrameParser) (collected : List AnyFrame)
  | found (collected : List AnyFrame) (connected : Frame) (unread : Bytes)

/-- Frames of one read, up to the first CONNECTED frame.  The parser is lazy, so the bytes after
that frame are not looked at. -/
def scanRead (parser : FrameParser) (collected : List AnyFrame) :
    Bytes → Except ParserError Scan
  | [] => .ok (.waiting parser collected)
  | byte :: bytes => do
      let (next, frames) ← parser.parseByte byte
      match frames with
      | [.frame frame] =>
          if frame.type = .connected then .ok (.found collected frame bytes)
          else scanRead next (collected ++ [.frame frame]) bytes
      | frames => scanRead next (collected ++ frames) bytes

/-- The frames before CONNECTED, CONNECTED, the rest of its read and the reads after it. -/
structure Taken where
  collected : List AnyFrame
  connected : Frame
  unread : Bytes
  later : List Read
  deriving DecidableEq

/-- `take_connected_frame_and_collect_other_frames`; `none` while no CONNECTED frame has come. -/
def takeConnectedFrame (parser : FrameParser) (collected : List AnyFrame) :
    List Read → Except ParserError (Option Taken)
  | [] => .ok none
  | read :: reads => do
      match ← scanRead parser collected read.bytes with
      | .waiting next collected => takeConnectedFrame next collected reads
      | .found collected connected unread => .ok (some ⟨collected, connected, unread, reads⟩)

/-- Frames consumed by the handshake followed by those the listener gets from the later reads of an
established connection. -/
def framesSeen (protocolVersion : String) (reads : List Read) :
    Except ParserError (Option (List AnyFrame)) := do
  match ← takeConnectedFrame {} [] reads with
  | none => .ok none
  | some taken =>
      match confirm protocolVersion taken.connected with
      | .ok (.established _) =>
          let (_, frames) ← ({} : FrameParser).parseChunks (taken.later.map Read.bytes)
          .ok (some (taken.collected ++ [.frame taken.connected] ++ frames))
      | _ => .ok none

/-- The frames seen are those of one parser on the whole stream. -/
def Agrees (protocolVersion : String) (reads : List Read) : Prop :=
  ∃ frames last, framesSeen protocolVersion reads = .ok (some frames) ∧
    ({} : FrameParser).parseChunks (reads.map Read.bytes) = .ok (last, frames)

/-- A parser between frames reads these bytes without yielding a frame and is between frames
again. -/
def Silent (bytes : Bytes) : Prop :=
  ∃ lastByte, ({} : FrameParser).Yields bytes [] (idle lastByte)

/-! ## The handshake as a reading -/

theorem handleNullByte_frames {parser next : FrameParser} {frames : List AnyFrame}
    (handled : parser.handleNullByte = .ok (next, frames)) :
    frames = [] ∨ ∃ frame, frames = [.frame frame] ∧ next = parser.reset := by
  unfold handleNullByte at handled
  split at handled
  · simp_all
  · split at handled
    · simp_all
    · cases made : makeFrameFromParts (parser.command.getD []) parser.headers parser.currentBuf with
      | error error => simp [made, bind, Except.bind] at handled
      | ok frame =>
          simp only [made, bind, Except.bind, Except.ok.injEq, Prod.mk.injEq] at handled
          exact .inr ⟨frame, handled.2.symm, handled.1.symm⟩

theorem handleNewlineByte_frames {parser next : FrameParser} {frames : List AnyFrame}
    (handled : parser.handleNewlineByte = .ok (next, frames)) :
    frames = [] ∨ frames = [.heartbeat] ∧ parser.currentBuf = [] ∧ parser.hasCommand = false := by
  unfold handleNewlineByte at handled
  split at handled
  · rename_i silent
    simp only [Except.ok.injEq, Prod.mk.injEq] at handled
    exact .inr ⟨handled.2.symm, silent⟩
  · split at handled
    · split at handled <;> simp_all [bind, Except.bind]
    · simp_all [bind, Except.bind]

/-- One byte yields nothing, a heartbeat between frames, or the frame that its NUL ends. -/
theorem parseByte_frames {parser next : FrameParser} {byte : UInt8} {frames : List AnyFrame}
    (parsed : parser.parseByte byte = .ok (next, frames)) :
    frames = [] ∨
      (frames = [.heartbeat] ∧ parser.currentBuf = [] ∧ parser.hasCommand = false ∧
        parser.headersProcessed = false) ∨
      ∃ frame, frames = [.frame frame] ∧ next = idle (some null) := by
  unfold parseByte at parsed
  by_cases is_null : byte = null
  · rw [if_pos is_null] at parsed
    cases handled : parser.handleNullByte with
    | error error => simp [handled, bind, Except.bind] at parsed
    | ok result =>
        simp only [handled, bind, Except.bind, Except.ok.injEq, Prod.mk.injEq] at parsed
        obtain ⟨rfl, rfl⟩ := parsed
        rcases handleNullByte_frames handled with empty | ⟨frame, frames_eq, reset_eq⟩
        · exact .inl empty
        · refine .inr (.inr ⟨frame, frames_eq, ?_⟩)
          rw [reset_eq, is_null]
          rfl
  · rw [if_neg is_null] at parsed
    cases processed : parser.headersProcessed with
    | true =>
        simp only [processed, if_true, bind, Except.bind, Except.ok.injEq, Prod.mk.injEq] at parsed
        exact .inl parsed.2.symm
    | false =>
        rw [processed, if_neg (by decide)] at parsed
        by_cases is_newline : byte = newline
        · rw [if_pos is_newline] at parsed
          cases handled : parser.handleNewlineByte with
          | error error => simp [handled, bind, Except.bind] at parsed
          | ok result =>
              simp only [handled, bind, Except.bind, Except.ok.injEq, Prod.mk.injEq] at parsed
              obtain ⟨-, rfl⟩ := parsed
              rcases handleNewlineByte_frames handled with empty | ⟨beat, clear, silent⟩
              · exact .inl empty
              · exact .inr (.inl ⟨beat, clear, silent, rfl⟩)
        · simp only [is_newline, if_false, bind, Except.bind, Except.ok.injEq, Prod.mk.injEq]
            at parsed
          exact .inl parsed.2.symm

/-- A read in which CONNECTED comes is consumed up to the end of that frame. -/
theorem scanRead_found {parser : FrameParser} {collected frames : List AnyFrame} {connected : Frame}
    {bytes unread : Bytes}
    (scanned : scanRead parser collected bytes = .ok (.found frames connected unread)) :
    ∃ front before, bytes = front ++ unread ∧ frames = collected ++ before ∧
      parser.Yields front (before ++ [.frame connected]) (idle (some null)) := by
  induction bytes generalizing parser collected with
  | nil => simp [scanRead] at scanned
  | cons byte bytes ih =>
      rw [scanRead] at scanned
      cases parsed : parser.parseByte byte with
      | error error => simp [parsed, bind, Except.bind] at scanned
      | ok result =>
          obtain ⟨next, first⟩ := result
          simp only [parsed, bind, Except.bind] at scanned
          have continues : ∀ {first : List AnyFrame}, parser.parseByte byte = .ok (next, first) →
              scanRead next (collected ++ first) bytes = .ok (.found frames connected unread) →
              ∃ front before, byte :: bytes = front ++ unread ∧ frames = collected ++ before ∧
                parser.Yields front (before ++ [.frame connected]) (idle (some null)) := by
            intro first parsed scanned
            obtain ⟨front, before, bytes_eq, frames_eq, later⟩ := ih scanned
            refine ⟨byte :: front, first ++ before, by rw [bytes_eq]; rfl, ?_, ?_⟩
            · rw [frames_eq, List.append_assoc]
            · simpa using yields_cons parsed later
          split at scanned
          · rename_i frame
            split at scanned
            · simp only [Except.ok.injEq, Scan.found.injEq] at scanned
              obtain ⟨rfl, rfl, rfl⟩ := scanned
              rcases parseByte_frames parsed with impossible | impossible | ⟨other, same, next_eq⟩
              · simp at impossible
              · simp at impossible
              · refine ⟨[byte], [], rfl, by simp, ?_⟩
                rw [← next_eq]
                exact yields_singleton parsed
            · exact continues parsed scanned
          · exact continues parsed scanned

/-- A read without CONNECTED is consumed whole. -/
theorem scanRead_waiting {parser last : FrameParser} {collected frames : List AnyFrame}
    {bytes : Bytes} (scanned : scanRead parser collected bytes = .ok (.waiting last frames)) :
    ∃ before, frames = collected ++ before ∧ parser.Yields bytes before last := by
  induction bytes generalizing parser collected with
  | nil =>
      simp only [scanRead, Except.ok.injEq, Scan.waiting.injEq] at scanned
      obtain ⟨rfl, rfl⟩ := scanned
      exact ⟨[], by simp, Yields.nil _⟩
  | cons byte bytes ih =>
      rw [scanRead] at scanned
      cases parsed : parser.parseByte byte with
      | error error => simp [parsed, bind, Except.bind] at scanned
      | ok result =>
          obtain ⟨next, first⟩ := result
          simp only [parsed, bind, Except.bind] at scanned
          have continues : ∀ {first : List AnyFrame}, parser.parseByte byte = .ok (next, first) →
              scanRead next (collected ++ first) bytes = .ok (.waiting last frames) →
              ∃ before, frames = collected ++ before ∧
                parser.Yields (byte :: bytes) before last := by
            intro first parsed scanned
            obtain ⟨before, frames_eq, later⟩ := ih scanned
            exact ⟨first ++ before, by rw [frames_eq, List.append_assoc], yields_cons parsed later⟩
          split at scanned
          · split at scanned
            · simp at scanned
            · exact continues parsed scanned
          · exact continues parsed scanned

/-- The handshake is a reading of the stream up to the end of CONNECTED. -/
theorem takeConnectedFrame_yields {parser : FrameParser} {collected : List AnyFrame}
    {reads : List Read} {taken : Taken}
    (took : takeConnectedFrame parser collected reads = .ok (some taken)) :
    ∃ front before,
      (reads.map Read.bytes).flatten =
        front ++ (taken.unread ++ (taken.later.map Read.bytes).flatten) ∧
      taken.collected = collected ++ before ∧
      parser.Yields front (before ++ [.frame taken.connected]) (idle (some null)) := by
  induction reads generalizing parser collected with
  | nil => simp [takeConnectedFrame] at took
  | cons read reads ih =>
      rw [takeConnectedFrame] at took
      cases scanned : scanRead parser collected read.bytes with
      | error error => simp [scanned, bind, Except.bind] at took
      | ok scan =>
          cases scan with
          | waiting next frames =>
              simp only [scanned, bind, Except.bind] at took
              obtain ⟨first, frames_eq, head⟩ := scanRead_waiting scanned
              obtain ⟨front, before, bytes_eq, collected_eq, tail⟩ := ih took
              refine ⟨read.bytes ++ front, first ++ before, ?_, ?_, ?_⟩
              · rw [List.map_cons, List.flatten_cons, bytes_eq, List.append_assoc]
              · rw [collected_eq, frames_eq, List.append_assoc]
              · rw [List.append_assoc]
                exact head.append tail
          | found frames connected unread =>
              simp only [scanned, bind, Except.bind, Except.ok.injEq, Option.some.injEq] at took
              subst took
              obtain ⟨front, before, bytes_eq, frames_eq, head⟩ := scanRead_found scanned
              refine ⟨front, before, ?_, frames_eq, head⟩
              rw [List.map_cons, List.flatten_cons, bytes_eq, List.append_assoc]

/-- Reads after the one that brings CONNECTED do not change the handshake. -/
theorem takeConnectedFrame_append {parser : FrameParser} {collected : List AnyFrame}
    {reads : List Read} {taken : Taken}
    (took : takeConnectedFrame parser collected reads = .ok (some taken)) (more : List Read) :
    takeConnectedFrame parser collected (reads ++ more) =
      .ok (some { taken with later := taken.later ++ more }) := by
  induction reads generalizing parser collected with
  | nil => simp [takeConnectedFrame] at took
  | cons read reads ih =>
      rw [List.cons_append, takeConnectedFrame]
      rw [takeConnectedFrame] at took
      cases scanned : scanRead parser collected read.bytes with
      | error error => simp [scanned, bind, Except.bind] at took
      | ok scan =>
          cases scan with
          | waiting next frames =>
              simp only [scanned, bind, Except.bind] at took ⊢
              exact ih took
          | found frames connected unread =>
              simp only [scanned, bind, Except.bind, Except.ok.injEq, Option.some.injEq] at took ⊢
              subst took
              rfl

/-! ## Parsers between frames -/

theorem parseByte_idle (left right : Option UInt8) (byte : UInt8) :
    (idle left).parseByte byte = (idle right).parseByte byte := by
  unfold parseByte
  by_cases is_null : byte = null
  · simp [is_null, handleNullByte, idle, hasCommand, reset, bind, Except.bind]
  · by_cases is_newline : byte = newline
    · simp [is_newline, show newline ≠ null by decide, handleNewlineByte, idle, hasCommand, bind,
        Except.bind]
    · simp [is_null, is_newline, idle, bind, Except.bind]

/-- What a parser between frames yields does not depend on the byte before. -/
theorem yields_of_idle (left : Option UInt8) {bytes : Bytes} {frames : List AnyFrame}
    {last : FrameParser} (read : (idle left).Yields bytes frames last) (right : Option UInt8) :
    ∃ other, (idle right).Yields bytes frames other ∧ (bytes = [] ∨ other = last) := by
  cases bytes with
  | nil =>
      obtain ⟨rfl, -⟩ := read.functional (Yields.nil _)
      exact ⟨_, Yields.nil _, .inl rfl⟩
  | cons byte bytes =>
      refine ⟨last, ?_, .inr rfl⟩
      rw [Yields, parseFramesFromChunk, parseByte_idle right left]
      exact read

/-- A sound parser that answers a newline with a heartbeat is between frames. -/
theorem eq_idle_of_heartbeat {parser last : FrameParser} (sound : parser.Sound)
    (beat : parser.Yields [newline] [.heartbeat] last) : parser = idle parser.previousByte := by
  obtain ⟨next, frames, parsed, -⟩ := sound.parseByte newline
  have same := (beat.functional (yields_singleton parsed)).1
  rcases parseByte_frames parsed with empty | ⟨-, clear, silent, reading⟩ | ⟨frame, frames_eq, -⟩
  · simp [empty] at same
  · have missing : parser.command = none := by
      cases found : parser.command with
      | none => rfl
      | some command =>
          have running := sound.hasCommand_iff.mpr ⟨command, found⟩
          rw [silent] at running
          contradiction
    obtain ⟨no_headers, no_length, -⟩ := sound.bare missing
    cases parser
    simp_all [idle]
  · simp [frames_eq] at same

/-! ## The two readings compared -/

/-- The single-parser reading of the stream, split at the handshake. -/
theorem agrees_iff {protocolVersion : String} {reads : List Read} {taken : Taken}
    (took : takeConnectedFrame {} [] reads = .ok (some taken)) {heartbeat : Heartbeat}
    (confirmed : confirm protocolVersion taken.connected = .ok (.established heartbeat)) :
    Agrees protocolVersion reads ↔
      ∃ frames last other,
        ({} : FrameParser).Yields (taken.later.map Read.bytes).flatten frames last ∧
        (idle (some null)).Yields (taken.unread ++ (taken.later.map Read.bytes).flatten) frames
          other := by
  obtain ⟨front, before, bytes_eq, collected_eq, head⟩ := takeConnectedFrame_yields took
  rw [List.nil_append] at collected_eq
  have seen : ∀ {frames last},
      ({} : FrameParser).Yields (taken.later.map Read.bytes).flatten frames last →
      framesSeen protocolVersion reads =
        .ok (some (before ++ [.frame taken.connected] ++ frames)) := by
    intro frames last read
    rw [framesSeen, took]
    simp only [bind, Except.bind, confirmed, parseChunks_eq]
    rw [read, collected_eq]
  constructor
  · rintro ⟨frames, last, seen_eq, parsed⟩
    obtain ⟨later, laterLast, later_read, -⟩ :=
      (sound_idle none (by simp)).exists_yields (taken.later.map Read.bytes).flatten
    obtain ⟨rest, restLast, rest_read, -⟩ := (sound_idle (some null)
      (by decide)).exists_yields (taken.unread ++ (taken.later.map Read.bytes).flatten)
    have frames_eq := (seen later_read).symm.trans seen_eq
    rw [parseChunks_eq, bytes_eq] at parsed
    obtain ⟨whole_eq, -⟩ := (head.append rest_read).functional parsed
    have same : rest = later := by
      simp only [Except.ok.injEq, Option.some.injEq] at frames_eq
      rw [← frames_eq] at whole_eq
      exact List.append_cancel_left whole_eq
    subst same
    exact ⟨rest, laterLast, restLast, later_read, rest_read⟩
  · rintro ⟨frames, last, other, later_read, rest_read⟩
    refine ⟨_, other, seen later_read, ?_⟩
    rw [parseChunks_eq, bytes_eq]
    exact head.append rest_read

theorem not_agrees_of_unconfirmed {protocolVersion : String} {reads : List Read} {taken : Taken}
    (took : takeConnectedFrame {} [] reads = .ok (some taken))
    (unconfirmed : ¬ ∃ heartbeat, confirm protocolVersion taken.connected =
      .ok (.established heartbeat)) : ¬ Agrees protocolVersion reads := by
  rintro ⟨frames, last, seen, -⟩
  rw [framesSeen, took] at seen
  simp only [bind, Except.bind] at seen
  split at seen
  · rename_i heartbeat confirmed
    exact unconfirmed ⟨heartbeat, confirmed⟩
  · simp at seen

/-- Bytes that a parser between frames reads in silence change nothing after them. -/
theorem Silent.yields {unread rest : Bytes} (silent : Silent unread) {frames : List AnyFrame}
    {last : FrameParser} (read : ({} : FrameParser).Yields rest frames last) :
    ∃ other, (idle (some null)).Yields (unread ++ rest) frames other := by
  obtain ⟨lastByte, quiet⟩ := silent
  have quiet : (idle none).Yields unread [] (idle lastByte) := quiet
  obtain ⟨middle, unread_read, same⟩ := yields_of_idle none quiet (some null)
  rcases same with empty | rfl
  · subst empty
    obtain ⟨other, rest_read, -⟩ := yields_of_idle none read (some null)
    exact ⟨other, rest_read⟩
  · obtain ⟨other, rest_read, -⟩ := yields_of_idle none read lastByte
    exact ⟨other, unread_read.append rest_read⟩

/-- Bytes after which both the empty continuation and a newline are read as if they were not there
are read in silence. -/
theorem silent_of_agree {unread : Bytes} {first second : FrameParser}
    (quiet : (idle (some null)).Yields unread [] first)
    (beat : (idle (some null)).Yields (unread ++ [newline]) [.heartbeat] second) :
    Silent unread := by
  obtain ⟨frames, last, read, sound⟩ :=
    (sound_idle (some null) (by decide)).exists_yields unread
  obtain ⟨rfl, rfl⟩ := read.functional quiet
  obtain ⟨later, final, newline_read, -⟩ := sound.exists_yields [newline]
  obtain ⟨later_eq, -⟩ := (quiet.append newline_read).functional beat
  rw [List.nil_append] at later_eq
  subst later_eq
  have between := eq_idle_of_heartbeat sound newline_read
  rw [between] at quiet
  obtain ⟨other, fresh_read, same⟩ := yields_of_idle (some null) quiet none
  rcases same with empty | rfl
  · exact ⟨none, by rw [empty]; exact Yields.nil _⟩
  · exact ⟨_, fresh_read⟩

/-- Let `reads` be the reads up to the one that completes CONNECTED.  However the stream goes on,
the frames seen agree with one parser on the whole of it, exactly when the CONNECTED frame is
confirmed and the rest of its read is silent. -/
theorem agrees_iff_silent {protocolVersion : String} {reads : List Read} {taken : Taken}
    (took : takeConnectedFrame {} [] reads = .ok (some taken)) (ends : taken.later = []) :
    (∀ later : List Read, Agrees protocolVersion (reads ++ later)) ↔
      (∃ heartbeat, confirm protocolVersion taken.connected = .ok (.established heartbeat)) ∧
        Silent taken.unread := by
  have took_more : ∀ later, takeConnectedFrame {} [] (reads ++ later) =
      .ok (some { taken with later := later }) := by
    intro later
    rw [takeConnectedFrame_append took, ends, List.nil_append]
  constructor
  · intro agrees
    by_cases confirmed : ∃ heartbeat, confirm protocolVersion taken.connected =
        .ok (.established heartbeat)
    · refine ⟨confirmed, ?_⟩
      obtain ⟨heartbeat, confirmed⟩ := confirmed
      obtain ⟨none_seen, _, first, nothing, quiet⟩ :=
        (agrees_iff (took_more []) confirmed).mp (agrees [])
      obtain ⟨rfl, -⟩ := nothing.functional (Yields.nil _)
      obtain ⟨beat_seen, _, second, single, beat⟩ :=
        (agrees_iff (took_more [⟨[newline], by simp⟩]) confirmed).mp (agrees [⟨[newline], by simp⟩])
      obtain ⟨rfl, -⟩ := single.functional (idle_yields_newline none)
      exact silent_of_agree (by simpa using quiet) (by simpa using beat)
    · exact absurd (agrees []) (not_agrees_of_unconfirmed (took_more []) confirmed)
  · rintro ⟨⟨heartbeat, confirmed⟩, silent⟩ later
    rw [agrees_iff (took_more later) confirmed]
    obtain ⟨frames, last, read, -⟩ :=
      (sound_idle none (by simp)).exists_yields (later.map Read.bytes).flatten
    obtain ⟨other, rest_read⟩ := silent.yields read
    exact ⟨frames, last, other, read, rest_read⟩

/-- A server's CONNECTED frame. -/
def connectedBytes : Bytes :=
  Text.encode "CONNECTED\nversion:1.2\nheart-beat:0,0\n\n" ++ [null]

/-- The two reads of a CONNECTED frame that is cut in the middle. -/
def cutReads : List Read :=
  [⟨connectedBytes.take 20, by decide +kernel⟩, ⟨connectedBytes.drop 20, by decide +kernel⟩]

def connectedSample : Frame :=
  .bodyless .connected (Dict.empty.update [("version", "1.2"), ("heart-beat", "0,0")])

/-- CONNECTED at the end of its read: whatever follows, nothing is lost. -/
theorem agrees_cutReads :
    takeConnectedFrame {} [] cutReads = .ok (some ⟨[], connectedSample, [], []⟩) ∧
      ∀ later : List Read, Agrees "1.2" (cutReads ++ later) := by
  have took : takeConnectedFrame {} [] cutReads = .ok (some ⟨[], connectedSample, [], []⟩) := by
    decide +kernel
  refine ⟨took, (agrees_iff_silent took rfl).mpr ⟨⟨⟨0, 0⟩, ?_⟩, none, Yields.nil _⟩⟩
  decide +kernel

/-- CONNECTED and a message in one read. -/
def joinedRead : Read :=
  ⟨connectedBytes ++ Text.encode "MESSAGE\nsubscription:1\n\n" ++ [null], by decide +kernel⟩

def messageSample : Frame := ⟨.message, Dict.empty.update [("subscription", "1")], [], by decide⟩

theorem framesSeen_joinedRead :
    framesSeen "1.2" [joinedRead] = .ok (some [.frame connectedSample]) := by
  decide +kernel

theorem parseChunks_joinedRead :
    ({} : FrameParser).parseChunks [joinedRead.bytes] =
      .ok (idle (some null), [.frame connectedSample, .frame messageSample]) := by
  decide +kernel

/-- The message of a read that also brings CONNECTED is lost. -/
theorem not_forall_agrees :
    ¬ ∀ reads : List Read,
      (∃ last frames, ({} : FrameParser).parseChunks (reads.map Read.bytes) = .ok (last, frames) ∧
        ∃ connected : Frame, .frame connected ∈ frames ∧ connected.type = .connected ∧
          connected.headers.get? "version" = some "1.2") →
      Agrees "1.2" reads := by
  intro always
  obtain ⟨frames, last, seen, parsed⟩ := always [joinedRead]
    ⟨_, _, parseChunks_joinedRead, connectedSample, by simp, rfl, by decide +kernel⟩
  rw [framesSeen_joinedRead] at seen
  simp only [List.map_cons, List.map_nil, parseChunks_joinedRead, Except.ok.injEq,
    Prod.mk.injEq] at parsed
  simp only [Except.ok.injEq, Option.some.injEq] at seen
  rw [← seen] at parsed
  exact absurd parsed.2 (by decide +kernel)

end Handover

end Stompman
