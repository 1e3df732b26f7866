import Stompman.RoundTrip
import Mathlib.Data.List.Induction

/-!
# Recovery of the parser

A body of announced length ends when the buffer has that length, so a negative length is never
reached: the blank line after it leaves the parser in a state that swallows all later input.  From
every other state some continuation brings the parser back between frames.
-/

namespace Stompman

open Foundation

namespace FrameParser

variable {parser next last : FrameParser} {byte : UInt8} {bytes : Bytes} {frames : List AnyFrame}

/-- The line that a newline byte would complete. -/
def completeLine (parser : FrameParser) : Bytes :=
  if parser.previousByte = some carriage then parser.currentBuf.dropLast else parser.currentBuf

/-- The byte ends the headers of a frame that announces a negative length. -/
def Stalls (parser : FrameParser) (byte : UInt8) : Prop :=
  byte = newline ∧ parser.headersProcessed = false ∧ parser.hasCommand = true ∧
    parser.completeLine = [] ∧ ∃ length : Int, parser.contentLength = some length ∧ length < 0

/-- No byte of a stream that is fed to a fresh parser ends such headers. -/
def NeverStalls (bytes : Bytes) : Prop :=
  ∀ front byte rest, bytes = front ++ byte :: rest →
    ∀ frames parser, ({} : FrameParser).Yields front frames parser → ¬ parser.Stalls byte

/-! ## The dead state -/

/-- A body whose announced length is negative. -/
structure Dead (parser : FrameParser) : Prop where
  running : parser.hasCommand = true
  processed : parser.headersProcessed = true
  negative : ∃ length : Int, parser.contentLength = some length ∧ length < 0

theorem Dead.unfilled (dead : parser.Dead) :
    parser.contentLength ≠ none ∧ parser.contentLength ≠ some (parser.currentBuf.length : Int) := by
  obtain ⟨length, announced, negative⟩ := dead.negative
  rw [announced]
  refine ⟨by simp, fun filled => ?_⟩
  have := Option.some.inj filled
  omega

/-- Every byte goes to the body of a dead parser. -/
theorem Dead.parseByte (dead : parser.Dead) (byte : UInt8) :
    ∃ next, parser.parseByte byte = .ok (next, []) ∧ next.Dead := by
  refine ⟨{ parser with currentBuf := parser.currentBuf ++ [byte], previousByte := some byte }, ?_,
    ⟨dead.running, dead.processed, dead.negative⟩⟩
  by_cases is_null : byte = null
  · simp [FrameParser.parseByte, is_null, handleNullByte, dead.running, dead.processed,
      dead.unfilled, bind, Except.bind]
  · simp [FrameParser.parseByte, is_null, handleBodyByte, dead.processed, dead.unfilled, bind,
      Except.bind]

/-- A dead parser yields nothing and stays dead. -/
theorem Dead.yields (dead : parser.Dead) (bytes : Bytes) :
    ∃ last, parser.Yields bytes [] last ∧ last.Dead := by
  induction bytes generalizing parser with
  | nil => exact ⟨parser, Yields.nil _, dead⟩
  | cons byte bytes ih =>
      obtain ⟨next, head, next_dead⟩ := dead.parseByte byte
      obtain ⟨last, tail, last_dead⟩ := ih next_dead
      exact ⟨last, yields_cons head tail, last_dead⟩

theorem not_dead_idle (previousByte : Option UInt8) : ¬ (idle previousByte).Dead := by
  intro dead
  have processed := dead.processed
  contradiction

/-! ## What a newline does -/

theorem processHeader_nil (empty : parser.currentBuf = []) : parser.processHeader = parser := by
  unfold processHeader
  have blank : parseHeader [] = none := by decide
  rw [empty, blank]
  simp [← empty]

/-- A newline after a command completes a header line. -/
theorem Sound.parseByte_newline (sound : parser.Sound) (reading : parser.headersProcessed = false)
    (running : parser.hasCommand = true) :
    parser.parseByte newline =
      .ok ({ ({ parser with
        currentBuf := parser.completeLine
        headersProcessed := parser.completeLine.isEmpty } : FrameParser).processHeader with
          previousByte := some newline }, []) := by
  have not_null : newline ≠ null := by decide
  have busy : ¬ (parser.currentBuf = [] ∧ parser.hasCommand = false) := by simp [running]
  rw [FrameParser.parseByte, if_neg not_null, reading, if_neg (by decide), if_pos rfl,
    FrameParser.handleNewlineByte, if_neg busy]
  by_cases carried : parser.previousByte = some carriage
  · have filled : parser.currentBuf ≠ [] := fun empty => sound.previous reading empty carried
    rw [if_pos carried, if_neg filled, completeLine, if_pos carried]
    simp only [bind, Except.bind]
    rw [if_pos (by exact running)]
  · rw [if_neg carried, completeLine, if_neg carried]
    simp only [bind, Except.bind]
    rw [if_pos (by exact running)]

/-- The blank line after a negative length. -/
theorem Sound.dead_of_stalls (sound : parser.Sound) (stalls : parser.Stalls byte) :
    ∃ next, parser.parseByte byte = .ok (next, []) ∧ next.Dead := by
  obtain ⟨rfl, reading, running, blank, negative⟩ := stalls
  refine ⟨_, sound.parseByte_newline reading running, ?_⟩
  rw [processHeader_nil blank]
  exact ⟨running, by simp [blank], negative⟩

/-! ## The live states -/

/-- A body whose announced length, if there is one, can be reached. -/
def Live (parser : FrameParser) : Prop :=
  parser.headersProcessed = true → ∀ length : Int, parser.contentLength = some length → 0 ≤ length

theorem live_of_reading (reading : parser.headersProcessed = false) : parser.Live := by
  intro processed
  rw [reading] at processed
  contradiction

theorem live_of_unannounced (unannounced : parser.contentLength = none) : parser.Live := by
  intro _ length announced
  rw [unannounced] at announced
  contradiction

theorem headersProcessed_processHeader (parser : FrameParser) :
    parser.processHeader.headersProcessed = parser.headersProcessed := by
  unfold processHeader
  split
  · rfl
  · split <;> rfl

theorem Live.handleNullByte (live : parser.Live)
    (handled : parser.handleNullByte = .ok (next, frames)) : next.Live := by
  unfold FrameParser.handleNullByte at handled
  split at handled
  · obtain ⟨rfl, -⟩ := Prod.mk.inj (Except.ok.inj handled)
    exact live_of_unannounced rfl
  · split at handled
    · obtain ⟨rfl, -⟩ := Prod.mk.inj (Except.ok.inj handled)
      exact live
    · cases made : makeFrameFromParts (parser.command.getD []) parser.headers
          parser.currentBuf with
      | error error => simp [made, bind, Except.bind] at handled
      | ok frame =>
          simp only [made, bind, Except.bind, Except.ok.injEq, Prod.mk.injEq] at handled
          obtain ⟨rfl, -⟩ := handled
          exact live_of_unannounced rfl

theorem Live.handleBodyByte (live : parser.Live) (byte : UInt8) :
    (parser.handleBodyByte byte).Live := by
  unfold FrameParser.handleBodyByte
  split
  · exact live
  · exact live

theorem contentLength_processCommand (unannounced : parser.contentLength = none) :
    parser.processCommand.contentLength = none := by
  unfold processCommand
  split
  · exact unannounced
  · rfl

/-- Without a command a newline announces no length. -/
theorem Sound.unannounced_newline (sound : parser.Sound) (silent : parser.hasCommand = false)
    (handled : parser.handleNewlineByte = .ok (next, frames)) : next.contentLength = none := by
  have unannounced : parser.contentLength = none := by
    cases found : parser.command with
    | none => exact (sound.bare found).2.1
    | some command =>
        have running := sound.hasCommand_iff.mpr ⟨command, found⟩
        rw [silent] at running
        contradiction
  unfold FrameParser.handleNewlineByte at handled
  split at handled
  · obtain ⟨rfl, -⟩ := Prod.mk.inj (Except.ok.inj handled)
    exact unannounced
  · by_cases carried : parser.previousByte = some carriage
    · rw [if_pos carried] at handled
      split at handled
      · contradiction
      · obtain ⟨rfl, -⟩ := Prod.mk.inj (Except.ok.inj handled)
        rw [if_neg (by simpa [hasCommand] using silent)]
        exact contentLength_processCommand unannounced
    · rw [if_neg carried] at handled
      obtain ⟨rfl, -⟩ := Prod.mk.inj (Except.ok.inj handled)
      rw [if_neg (by simpa [hasCommand] using silent)]
      exact contentLength_processCommand unannounced

/-- A newline that does not end headers with a negative length keeps the parser live. -/
theorem Live.parseByte_newline (sound : parser.Sound) (reading : parser.headersProcessed = false)
    (unstalled : ¬ parser.Stalls newline)
    (read : parser.parseByte newline = .ok (next, frames)) : next.Live := by
  cases running : parser.hasCommand with
  | true =>
      rw [sound.parseByte_newline reading running] at read
      obtain ⟨rfl, -⟩ := Prod.mk.inj (Except.ok.inj read)
      by_cases blank : parser.completeLine = []
      · rw [processHeader_nil blank]
        intro _ length announced
        by_contra negative
        exact unstalled ⟨rfl, reading, running, blank, length, announced, by omega⟩
      · refine live_of_reading ?_
        simpa [headersProcessed_processHeader] using blank
  | false =>
      have not_null : newline ≠ null := by decide
      rw [FrameParser.parseByte, if_neg not_null, reading, if_neg (by decide), if_pos rfl] at read
      cases handled : parser.handleNewlineByte with
      | error error => simp [handled, bind, Except.bind] at read
      | ok result =>
          simp only [handled, bind, Except.bind, Except.ok.injEq, Prod.mk.injEq] at read
          obtain ⟨rfl, -⟩ := read
          have unannounced : result.1.contentLength = none :=
            sound.unannounced_newline running handled
          exact live_of_unannounced unannounced

/-- Every byte but the end of headers with a negative length keeps the parser live. -/
theorem Live.parseByte (live : parser.Live) (sound : parser.Sound)
    (unstalled : ¬ parser.Stalls byte) (read : parser.parseByte byte = .ok (next, frames)) :
    next.Live := by
  by_cases is_newline : byte = newline ∧ parser.headersProcessed = false
  · obtain ⟨rfl, reading⟩ := is_newline
    exact Live.parseByte_newline sound reading unstalled read
  unfold FrameParser.parseByte at read
  split at read
  · cases handled : parser.handleNullByte with
    | error error => simp [handled, bind, Except.bind] at read
    | ok result =>
        simp only [handled, bind, Except.bind, Except.ok.injEq, Prod.mk.injEq] at read
        obtain ⟨rfl, -⟩ := read
        have kept : result.1.Live := live.handleNullByte handled
        exact kept
  · split at read
    · obtain ⟨rfl, -⟩ := Prod.mk.inj (Except.ok.inj read)
      exact live.handleBodyByte byte
    · rename_i reading
      rw [if_neg (fun equal => is_newline ⟨equal, by simpa using reading⟩)] at read
      obtain ⟨rfl, -⟩ := Prod.mk.inj (Except.ok.inj read)
      exact live_of_reading (by simpa using reading)

/-- From a live state some bytes lead between frames. -/
theorem Live.recovers (live : parser.Live) (sound : parser.Sound) (bounded : parser.Bounded) :
    ∃ continuation frames, parser.Yields continuation frames (idle (some null)) := by
  cases processed : parser.headersProcessed with
  | false => exact ⟨[null], [], yields_null_of_reading processed⟩
  | true =>
      have commanded : ∃ type, parser.command = some (framesToCommands type) := by
        cases found : parser.command with
        | none =>
            have unprocessed := (sound.bare found).2.2
            rw [processed] at unprocessed
            contradiction
        | some command =>
            obtain ⟨type, known⟩ := Option.isSome_iff_exists.mp (sound.known command found)
            exact ⟨type, congrArg some (lookup_eq_some known)⟩
      obtain ⟨type, commanded⟩ := commanded
      have shape : parser = inBody (framesToCommands type) (parser.headers, parser.contentLength)
          parser.currentBuf parser.previousByte := by
        simp [inBody, ← processed, ← commanded]
      rw [shape]
      cases announced : parser.contentLength with
      | none => exact ⟨[null], _, inBody_yields_null type _ _ _ (.inl rfl)⟩
      | some length =>
          -- Fill the body up to its announced length, then end it.
          obtain ⟨size, rfl⟩ := Int.eq_ofNat_of_zero_le (live processed length announced)
          have within := bounded processed size (by omega) announced
          obtain ⟨missing, total⟩ :=
            Nat.exists_eq_add_of_le (show parser.currentBuf.length ≤ size by omega)
          obtain ⟨lastByte, filled⟩ := inBody_yields_counted (framesToCommands_ne_nil type)
            parser.headers parser.currentBuf size parser.previousByte
            (List.replicate missing null) (by
              intro other lower upper
              simp only [List.length_replicate] at upper
              omega)
          refine ⟨_, _, filled.append (inBody_yields_null type _ _ lastByte (.inr ?_))⟩
          simp [total]

/-! ## Runs -/

theorem Yields.of_append {front rest : Bytes}
    (read : parser.Yields (front ++ rest) frames last) (sound : parser.Sound) :
    ∃ first later middle, parser.Yields front first middle ∧ middle.Yields rest later last ∧
      middle.Sound ∧ frames = first ++ later := by
  obtain ⟨first, middle, head, middle_sound⟩ := sound.exists_yields front
  obtain ⟨later, final, tail, -⟩ := middle_sound.exists_yields rest
  obtain ⟨rfl, rfl⟩ := read.functional (head.append tail)
  exact ⟨first, later, middle, head, tail, middle_sound, rfl⟩

theorem NeverStalls.of_append {front rest : Bytes} (never : NeverStalls (front ++ rest)) :
    NeverStalls front := by
  intro before byte after split
  exact never before byte (after ++ rest) (by simp [split])

theorem sound_fresh : ({} : FrameParser).Sound := sound_idle none (by simp)

/-- A run without such an end of headers stays live. -/
theorem NeverStalls.live (never : NeverStalls bytes)
    (read : ({} : FrameParser).Yields bytes frames last) : last.Live := by
  induction bytes using List.reverseRecOn generalizing frames last with
  | nil =>
      obtain ⟨rfl, -⟩ := Prod.mk.inj (Except.ok.inj read)
      exact live_of_unannounced rfl
  | append_singleton front byte ih =>
      obtain ⟨first, later, middle, head, tail, middle_sound, -⟩ := read.of_append sound_fresh
      obtain ⟨next, ends, step, -⟩ := middle_sound.parseByte byte
      obtain ⟨-, rfl⟩ := tail.functional (yields_singleton step)
      exact (ih never.of_append head).parseByte middle_sound
        (never front byte [] rfl first middle head) step

/-- A run with such an end of headers is dead from there on. -/
theorem dead_of_stalls {front : Bytes} (head : ({} : FrameParser).Yields front frames parser)
    (stalls : parser.Stalls byte) (rest : Bytes) :
    ∃ last, ({} : FrameParser).Yields (front ++ byte :: rest) frames last ∧ last.Dead := by
  obtain ⟨first, middle, same, sound⟩ := sound_fresh.exists_yields front
  obtain ⟨rfl, rfl⟩ := head.functional same
  obtain ⟨next, step, dead⟩ := sound.dead_of_stalls stalls
  obtain ⟨last, tail, last_dead⟩ := dead.yields rest
  refine ⟨last, ?_, last_dead⟩
  simpa using head.append (yields_cons step tail)

/-- After these bytes the parser can be brought between frames, where it reads the next dumped
frame. -/
def Recovers (bytes : Bytes) : Prop :=
  ∃ continuation frames lastByte,
    ({} : FrameParser).Yields (bytes ++ continuation) frames (idle lastByte) ∧
      ∀ frame : Frame, frame.RoundTrips →
        ∃ read : Frame, read.Equal frame ∧ ∃ last,
          ({} : FrameParser).Yields (bytes ++ continuation ++ dumpFrame frame)
            (frames ++ [.frame read]) last

theorem neverStalls_of_recovers (recovers : Recovers bytes) : NeverStalls bytes := by
  obtain ⟨continuation, frames, lastByte, read, -⟩ := recovers
  intro front byte rest split first parser head stalls
  obtain ⟨last, dead_read, dead⟩ := dead_of_stalls head stalls (rest ++ continuation)
  rw [split, List.append_assoc, List.cons_append] at read
  obtain ⟨-, rfl⟩ := dead_read.functional read
  exact not_dead_idle lastByte dead

theorem NeverStalls.recovers (never : NeverStalls bytes) : Recovers bytes := by
  obtain ⟨first, middle, head, sound⟩ := sound_fresh.exists_yields bytes
  obtain ⟨continuation, later, tail⟩ :=
    (never.live head).recovers sound ((bounded_of_empty rfl).yields head)
  refine ⟨continuation, _, _, head.append tail, fun frame valid => ?_⟩
  obtain ⟨read, equal, yielded⟩ := valid.yields (some null)
  exact ⟨read, equal, _, (head.append tail).append yielded⟩

/-- A parser recovers from a stream exactly if no header block of the stream ends with a negative
length. -/
theorem recovers_iff_neverStalls (bytes : Bytes) : Recovers bytes ↔ NeverStalls bytes :=
  ⟨neverStalls_of_recovers, NeverStalls.recovers⟩

/-- A command and a header that announces a body of length minus one. -/
def negativeLength : Bytes := Text.encode "MESSAGE\ncontent-length:-1\n"

/-- The parser after them. -/
def negativeParser : FrameParser :=
  atHeaders (Text.encode "MESSAGE") (Dict.empty.set "content-length" "-1", some (-1)) (some newline)

theorem negativeParser_stalls : negativeParser.Stalls newline :=
  ⟨rfl, rfl, by decide +kernel, by decide +kernel, -1, rfl, by decide⟩

theorem negativeLength_yields : ({} : FrameParser).Yields negativeLength [] negativeParser := by
  unfold Yields
  decide +kernel

/-- After a blank line the parser yields nothing more, whatever it is fed. -/
theorem negativeLength_swallows :
    ¬ Recovers (negativeLength ++ [newline]) ∧
      ∀ bytes, ∃ last, ({} : FrameParser).Yields (negativeLength ++ newline :: bytes) [] last := by
  constructor
  · intro recovers
    exact neverStalls_of_recovers recovers negativeLength newline [] rfl [] _
      negativeLength_yields negativeParser_stalls
  · intro bytes
    obtain ⟨last, read, -⟩ := dead_of_stalls negativeLength_yields negativeParser_stalls bytes
    exact ⟨last, read⟩

end FrameParser

end Stompman
