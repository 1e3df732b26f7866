import Stompman.HeaderLine

/-!
# Readings of the incremental parser

`parser.Yields bytes frames last` says that feeding `bytes` yields `frames` and leaves the parser in
the state `last`.  The file gives the readings of a line, of a header block and of a body, and the
invariant under which no operation of the parser raises.
-/

namespace Stompman

open Foundation

namespace FrameParser

/-- Feeding `bytes` yields exactly `frames` and ends in `last`. -/
def Yields (parser : FrameParser) (bytes : Bytes) (frames : List AnyFrame)
    (last : FrameParser) : Prop :=
  parser.parseFramesFromChunk bytes = .ok (last, frames)

theorem Yields.nil (parser : FrameParser) : parser.Yields [] [] parser := rfl

theorem yields_cons {parser next last : FrameParser} {byte : UInt8} {bytes : Bytes}
    {first later : List AnyFrame} (head : parser.parseByte byte = .ok (next, first))
    (tail : next.Yields bytes later last) :
    parser.Yields (byte :: bytes) (first ++ later) last := by
  rw [Yields] at tail
  simp only [Yields, parseFramesFromChunk, head, tail, Except.bind, bind]

theorem yields_singleton {parser next : FrameParser} {byte : UInt8} {frames : List AnyFrame}
    (head : parser.parseByte byte = .ok (next, frames)) : parser.Yields [byte] frames next := by
  simpa using yields_cons head (Yields.nil next)

theorem parseFramesFromChunk_append (parser : FrameParser) (front rest : Bytes) :
    parser.parseFramesFromChunk (front ++ rest) =
      (parser.parseFramesFromChunk front).bind fun first =>
        (first.1.parseFramesFromChunk rest).map fun later => (later.1, first.2 ++ later.2) := by
  induction front generalizing parser with
  | nil =>
      simp only [List.nil_append, parseFramesFromChunk, Except.bind]
      cases parser.parseFramesFromChunk rest <;> rfl
  | cons byte front ih =>
      simp only [List.cons_append, parseFramesFromChunk, bind]
      cases parser.parseByte byte with
      | error error => rfl
      | ok next =>
          simp only [Except.bind, ih]
          cases next.1.parseFramesFromChunk front with
          | error error => rfl
          | ok middle =>
              simp only
              cases middle.1.parseFramesFromChunk rest with
              | error error => rfl
              | ok last => simp [Except.map]

/-- Readings compose along concatenation. -/
theorem Yields.append {parser middle last : FrameParser} {front rest : Bytes}
    {first later : List AnyFrame} (head : parser.Yields front first middle)
    (tail : middle.Yields rest later last) :
    parser.Yields (front ++ rest) (first ++ later) last := by
  rw [Yields] at head tail
  simp [Yields, parseFramesFromChunk_append, head, tail, Except.bind, Except.map]

/-- How a stream is cut into chunks does not matter to one parser. -/
theorem parseChunks_eq (parser : FrameParser) (chunks : List Bytes) :
    parser.parseChunks chunks = parser.parseFramesFromChunk chunks.flatten := by
  induction chunks generalizing parser with
  | nil => rfl
  | cons chunk chunks ih =>
      rw [List.flatten_cons, parseFramesFromChunk_append]
      simp only [parseChunks, bind, Except.bind]
      cases parser.parseFramesFromChunk chunk with
      | error error => rfl
      | ok middle =>
          simp only [ih]
          cases middle.1.parseFramesFromChunk chunks.flatten <;> rfl

theorem Yields.functional {parser last other : FrameParser} {bytes : Bytes}
    {frames others : List AnyFrame} (left : parser.Yields bytes frames last)
    (right : parser.Yields bytes others other) : frames = others ∧ last = other := by
  rw [Yields] at left right
  rw [left] at right
  simp only [Except.ok.injEq, Prod.mk.injEq] at right
  exact ⟨right.2, right.1⟩

/-! ## Parser states between lines -/

/-- A parser between frames. -/
def idle (previousByte : Option UInt8) : FrameParser := { previousByte }

/-- A parser after a command line and some header lines. -/
def atHeaders (command : Bytes) (block : Headers × Option Int) (previousByte : Option UInt8) :
    FrameParser :=
  { previousByte, command := some command, headers := block.1, contentLength := block.2 }

/-- A parser that has read part of a body. -/
def inBody (command : Bytes) (block : Headers × Option Int) (body : Bytes)
    (previousByte : Option UInt8) : FrameParser :=
  { currentBuf := body, previousByte, headersProcessed := true, command := some command,
    headers := block.1, contentLength := block.2 }

/-- A line without one trailing carriage return. -/
def chomp (line : Bytes) : Bytes :=
  if line.getLast? = some carriage then line.dropLast else line

/-- The headers and the content length after one more header. -/
def acceptItem (block : Headers × Option Int) (item : String × String) : Headers × Option Int :=
  if block.1.contains item.1 then block
  else
    (block.1.set item.1 item.2,
      if isContentLength item.1 then
        match Text.int item.2 with
        | some length => some length
        | none => block.2
      else block.2)

/-- The headers and the content length after one more header line. -/
def acceptLine (block : Headers × Option Int) (line : Bytes) : Headers × Option Int :=
  match parseHeader line with
  | none => block
  | some item => acceptItem block item

theorem chomp_eq_self {line : Bytes} (plain : carriage ∉ line) : chomp line = line := by
  rw [chomp, if_neg]
  intro last
  exact plain (List.mem_of_getLast? last)

/-- Bytes other than newline and NUL are collected in the buffer. -/
theorem yields_text {parser : FrameParser} (reading : parser.headersProcessed = false)
    (text : Bytes) (no_newline : newline ∉ text) (no_null : null ∉ text) :
    parser.Yields text []
      { parser with
        currentBuf := parser.currentBuf ++ text
        previousByte := text.getLast?.or parser.previousByte } := by
  induction text generalizing parser with
  | nil => simp [Yields, parseFramesFromChunk]
  | cons byte text ih =>
      rw [List.mem_cons, not_or] at no_newline no_null
      have head : parser.parseByte byte =
          .ok ({ parser with
            currentBuf := parser.currentBuf ++ [byte], previousByte := some byte }, []) := by
        simp [parseByte, Ne.symm no_newline.1, Ne.symm no_null.1, reading, bind, Except.bind]
      have tail := @ih { parser with
        currentBuf := parser.currentBuf ++ [byte], previousByte := some byte } reading
        no_newline.2 no_null.2
      have whole := yields_cons head tail
      simp only [List.nil_append, List.append_assoc, List.singleton_append] at whole
      rw [List.getLast?_cons]
      cases last : text.getLast? with
      | none => simpa [last] using whole
      | some final => simpa [last] using whole

theorem newline_ne_carriage : some newline ≠ some carriage := by decide

/-- Between frames a newline is a heartbeat. -/
theorem idle_yields_newline (previousByte : Option UInt8) :
    (idle previousByte).Yields [newline] [.heartbeat] (idle (some newline)) := by
  apply yields_singleton
  rfl

/-- The parser when a line is complete, before the line is interpreted. -/
def chomped (parser : FrameParser) : FrameParser :=
  { parser with
    currentBuf := chomp parser.currentBuf
    headersProcessed := (chomp parser.currentBuf).isEmpty }

/-- The previous byte is a carriage return exactly when the buffer ends in one. -/
def Tracks (parser : FrameParser) : Prop :=
  parser.previousByte = some carriage ↔ parser.currentBuf.getLast? = some carriage

theorem handleNewlineByte_eq {parser : FrameParser}
    (busy : parser.currentBuf ≠ [] ∨ parser.hasCommand = true) (tracks : parser.Tracks) :
    parser.handleNewlineByte =
      .ok (if parser.hasCommand then parser.chomped.processHeader
        else parser.chomped.processCommand, []) := by
  have not_idle : ¬ (parser.currentBuf = [] ∧ parser.hasCommand = false) := by
    rintro ⟨empty, silent⟩
    rcases busy with nonempty | commanded
    · exact nonempty empty
    · simp [silent] at commanded
  rw [handleNewlineByte, if_neg not_idle]
  by_cases carried : parser.previousByte = some carriage
  · have last := tracks.mp carried
    have nonempty : parser.currentBuf ≠ [] := by
      intro empty
      simp [empty] at last
    have chomp_eq : chomp parser.currentBuf = parser.currentBuf.dropLast := by
      rw [chomp, if_pos last]
    rw [if_pos carried, if_neg nonempty, ← chomp_eq]
    rfl
  · have chomp_eq : chomp parser.currentBuf = parser.currentBuf := by
      rw [chomp, if_neg (fun last => carried (tracks.mpr last))]
    rw [if_neg carried]
    nth_rewrite 1 [← chomp_eq]
    rfl

theorem parseByte_newline {parser : FrameParser} (reading : parser.headersProcessed = false)
    (busy : parser.currentBuf ≠ [] ∨ parser.hasCommand = true) (tracks : parser.Tracks) :
    parser.parseByte newline =
      .ok ({ (if parser.hasCommand then parser.chomped.processHeader
        else parser.chomped.processCommand) with previousByte := some newline }, []) := by
  have not_null : newline ≠ null := by decide
  rw [parseByte, if_neg not_null, reading, if_neg (by decide), if_pos rfl,
    handleNewlineByte_eq busy tracks]
  rfl

/-- The parser after the bytes of a line, before its newline. -/
def afterText (parser : FrameParser) (line : Bytes) : FrameParser :=
  { parser with
    currentBuf := parser.currentBuf ++ line
    previousByte := line.getLast?.or parser.previousByte }

theorem isCommand_nil : isCommand [] = false := by decide

theorem chomp_ne_nil_of_isCommand {line : Bytes} (known : isCommand (chomp line) = true) :
    chomp line ≠ [] := by
  intro empty
  rw [empty, isCommand_nil] at known
  contradiction

/-- Between frames a complete line is a command or is dropped. -/
theorem idle_yields_line (previousByte : Option UInt8) {line : Bytes} (nonempty : line ≠ [])
    (no_newline : newline ∉ line) (no_null : null ∉ line) :
    (idle previousByte).Yields (line ++ [newline]) []
      (if isCommand (chomp line) then atHeaders (chomp line) (Dict.empty, none) (some newline)
        else idle (some newline)) := by
  have text : (idle previousByte).Yields line [] ((idle previousByte).afterText line) :=
    yields_text rfl line no_newline no_null
  have tracks : ((idle previousByte).afterText line).Tracks := by
    simp [Tracks, afterText, idle, List.getLast?_eq_some_getLast nonempty]
  have ends := @parseByte_newline ((idle previousByte).afterText line) rfl
    (.inl (by simpa [afterText, idle] using nonempty)) tracks
  have whole := text.append (yields_singleton ends)
  have silent : ((idle previousByte).afterText line).hasCommand = false := rfl
  rw [silent, if_neg (by decide)] at whole
  by_cases known : isCommand (chomp line)
  · have filled := List.isEmpty_eq_false_iff.mpr (chomp_ne_nil_of_isCommand known)
    rw [if_pos known]
    simpa [idle, afterText, chomped, processCommand, known, filled, atHeaders] using whole
  · rw [if_neg known]
    simpa [idle, afterText, chomped, processCommand, known, reset] using whole

theorem processHeader_atHeaders (command line : Bytes) (block : Headers × Option Int)
    (previousByte : Option UInt8) (processed : Bool) :
    processHeader
        { currentBuf := line, previousByte, headersProcessed := processed,
          command := some command, headers := block.1, contentLength := block.2 } =
      { previousByte, headersProcessed := processed, command := some command,
        headers := (acceptLine block line).1, contentLength := (acceptLine block line).2 } := by
  unfold processHeader acceptLine
  cases parseHeader line with
  | none => rfl
  | some header =>
      simp only [acceptItem]
      split <;> rfl

/-- After a command every complete line is a header line, and a blank one ends the headers. -/
theorem atHeaders_yields_line {command : Bytes} (commanded : command ≠ [])
    (block : Headers × Option Int) {previousByte : Option UInt8}
    (previous : previousByte ≠ some carriage) {line : Bytes}
    (no_newline : newline ∉ line) (no_null : null ∉ line) :
    (atHeaders command block previousByte).Yields (line ++ [newline]) []
      (if chomp line = [] then inBody command block [] (some newline)
        else atHeaders command (acceptLine block (chomp line)) (some newline)) := by
  have text : (atHeaders command block previousByte).Yields line []
      ((atHeaders command block previousByte).afterText line) :=
    yields_text rfl line no_newline no_null
  have tracks : ((atHeaders command block previousByte).afterText line).Tracks := by
    cases last : line.getLast? with
    | none => simp [Tracks, afterText, atHeaders, last, previous]
    | some byte => simp [Tracks, afterText, atHeaders, last]
  have has_command : ((atHeaders command block previousByte).afterText line).hasCommand = true := by
    cases command with
    | nil => exact absurd rfl commanded
    | cons => rfl
  have ends := @parseByte_newline ((atHeaders command block previousByte).afterText line)
    rfl (.inr has_command) tracks
  have whole := text.append (yields_singleton ends)
  have processed := processHeader_atHeaders command (chomp line) block
    (line.getLast?.or previousByte) (chomp line).isEmpty
  rw [has_command, if_pos rfl] at whole
  simp only [chomped, afterText, atHeaders, List.nil_append, List.append_nil, processed] at whole
  by_cases blank : chomp line = []
  · have unchanged : acceptLine block [] = block := rfl
    rw [if_pos blank]
    simpa [blank, unchanged, inBody, atHeaders] using whole
  · have filled := List.isEmpty_eq_false_iff.mpr blank
    rw [if_neg blank]
    simpa [filled, atHeaders] using whole

/-- A blank line ends the headers. -/
theorem atHeaders_yields_blank {command : Bytes} (commanded : command ≠ [])
    (block : Headers × Option Int) {previousByte : Option UInt8}
    (previous : previousByte ≠ some carriage) :
    (atHeaders command block previousByte).Yields [newline] []
      (inBody command block [] (some newline)) :=
  @atHeaders_yields_line command commanded block previousByte previous [] (by simp) (by simp)

/-- A block of non-blank header lines, each ended by a newline. -/
theorem atHeaders_yields_lines {command : Bytes} (commanded : command ≠ [])
    (block : Headers × Option Int) {previousByte : Option UInt8}
    (previous : previousByte ≠ some carriage) (lines : List Bytes)
    (clean : ∀ line ∈ lines, newline ∉ line ∧ null ∉ line ∧ chomp line ≠ []) :
    ∃ lastByte, lastByte ≠ some carriage ∧
      (atHeaders command block previousByte).Yields (lines.flatMap fun line => line ++ [newline]) []
        (atHeaders command ((lines.map chomp).foldl acceptLine block) lastByte) := by
  induction lines generalizing block previousByte with
  | nil => exact ⟨previousByte, previous, Yields.nil _⟩
  | cons line lines ih =>
      obtain ⟨no_newline, no_null, filled⟩ := clean line List.mem_cons_self
      have first := atHeaders_yields_line commanded block previous no_newline no_null
      rw [if_neg filled] at first
      obtain ⟨lastByte, last_ne, later⟩ := ih (acceptLine block (chomp line))
        newline_ne_carriage
        fun other member => clean other (List.mem_cons_of_mem _ member)
      exact ⟨lastByte, last_ne, first.append later⟩

/-! ## Bodies -/

/-- Without a content length every byte but NUL belongs to the body. -/
theorem inBody_yields_text (command : Bytes) (headers : Headers) (body : Bytes)
    (previousByte : Option UInt8) (text : Bytes) (no_null : null ∉ text) :
    ∃ lastByte, (inBody command (headers, none) body previousByte).Yields text []
      (inBody command (headers, none) (body ++ text) lastByte) := by
  induction text generalizing body previousByte with
  | nil => exact ⟨previousByte, by simpa using Yields.nil _⟩
  | cons byte text ih =>
      rw [List.mem_cons, not_or] at no_null
      have head : (inBody command (headers, none) body previousByte).parseByte byte =
          .ok (inBody command (headers, none) (body ++ [byte]) (some byte), []) := by
        simp [parseByte, Ne.symm no_null.1, inBody, handleBodyByte, bind, Except.bind]
      obtain ⟨lastByte, tail⟩ := ih (body ++ [byte]) (some byte) no_null.2
      exact ⟨lastByte, by simpa using yields_cons head tail⟩

/-- While the buffer has another length than the announced one, every byte belongs to the body. -/
theorem inBody_yields_counted {command : Bytes} (commanded : command ≠ []) (headers : Headers)
    (body : Bytes) (length : Int) (previousByte : Option UInt8) (text : Bytes)
    (unfilled : ∀ size : Nat, body.length ≤ size → size < body.length + text.length →
      length ≠ (size : Int)) :
    ∃ lastByte, (inBody command (headers, some length) body previousByte).Yields text []
      (inBody command (headers, some length) (body ++ text) lastByte) := by
  induction text generalizing body previousByte with
  | nil => exact ⟨previousByte, by simpa using Yields.nil _⟩
  | cons byte text ih =>
      have differs : length ≠ (body.length : Int) :=
        unfilled body.length (Nat.le_refl _) (by simp)
      have head : (inBody command (headers, some length) body previousByte).parseByte byte =
          .ok (inBody command (headers, some length) (body ++ [byte]) (some byte), []) := by
        by_cases is_null : byte = null
        · subst is_null
          cases command with
          | nil => exact absurd rfl commanded
          | cons first rest =>
              simp [parseByte, inBody, handleNullByte, hasCommand, differs, bind, Except.bind]
        · simp [parseByte, is_null, inBody, handleBodyByte, differs, bind, Except.bind]
      obtain ⟨lastByte, tail⟩ := ih (body ++ [byte]) (some byte) (by
        intro size lower upper
        simp only [List.length_append, List.length_cons, List.length_nil] at lower upper
        exact unfilled size (by omega) (by simp only [List.length_cons]; omega))
      exact ⟨lastByte, by simpa using yields_cons head tail⟩

/-- Once the body has its announced length, bytes before NUL are dropped. -/
theorem inBody_yields_surplus (command : Bytes) (headers : Headers) (body : Bytes)
    (previousByte : Option UInt8) (text : Bytes) (no_null : null ∉ text) :
    ∃ lastByte,
      (inBody command (headers, some (body.length : Int)) body previousByte).Yields text []
        (inBody command (headers, some (body.length : Int)) body lastByte) := by
  induction text generalizing previousByte with
  | nil => exact ⟨previousByte, Yields.nil _⟩
  | cons byte text ih =>
      rw [List.mem_cons, not_or] at no_null
      have head : (inBody command (headers, some (body.length : Int)) body previousByte).parseByte
          byte = .ok (inBody command (headers, some (body.length : Int)) body (some byte), []) := by
        simp [parseByte, Ne.symm no_null.1, inBody, handleBodyByte, bind, Except.bind]
      obtain ⟨lastByte, tail⟩ := ih (some byte) no_null.2
      exact ⟨lastByte, yields_cons head tail⟩

/-- The frame that `make_frame_from_parts` builds for a known command. -/
def frameOfParts (type : FrameType) (headers : Headers) (body : Bytes) : Frame :=
  if with_body : type.hasBody then ⟨type, headers, body, by simp [with_body]⟩
  else Frame.bodyless type headers

theorem type_frameOfParts (type : FrameType) (headers : Headers) (body : Bytes) :
    (frameOfParts type headers body).type = type := by
  unfold frameOfParts
  split <;> rfl

theorem headers_frameOfParts (type : FrameType) (headers : Headers) (body : Bytes) :
    (frameOfParts type headers body).headers = headers := by
  unfold frameOfParts
  split <;> rfl

theorem lookup_framesToCommands (type : FrameType) :
    commandsToFrames.lookup (framesToCommands type) = some type := by
  cases type <;> decide

theorem lookup_eq_some {line : Bytes} {type : FrameType}
    (found : commandsToFrames.lookup line = some type) : line = framesToCommands type := by
  have inverse : ∀ pair ∈ commandsToFrames, pair.1 = framesToCommands pair.2 := by decide
  obtain ⟨front, rest, split, _⟩ := List.lookup_eq_some_iff.mp found
  exact inverse (line, type) (by rw [split]; simp)

theorem framesToCommands_ne_nil (type : FrameType) : framesToCommands type ≠ [] := by
  cases type <;> decide

/-- NUL ends a body that has its announced length, or has none announced. -/
theorem inBody_yields_null (type : FrameType) (block : Headers × Option Int) (body : Bytes)
    (previousByte : Option UInt8) (complete : block.2 = none ∨ block.2 = some (body.length : Int)) :
    (inBody (framesToCommands type) block body previousByte).Yields [null]
      [.frame (frameOfParts type block.1 body)] (idle (some null)) := by
  have framed : ¬ (block.2 ≠ none ∧ block.2 ≠ some (body.length : Int)) := by
    rintro ⟨announced, differs⟩
    exact complete.elim announced differs
  have made : makeFrameFromParts (framesToCommands type) block.1 body =
      .ok (frameOfParts type block.1 body) := by
    rw [makeFrameFromParts, lookup_framesToCommands]
    simp only [frameOfParts]
    split <;> rfl
  have has_command :
      (inBody (framesToCommands type) block body previousByte).hasCommand = true := by
    cases type <;> rfl
  apply yields_singleton
  rw [parseByte, if_pos rfl, handleNullByte, has_command]
  simp [inBody, framed, made, reset, idle, bind, Except.bind]

/-- Before the blank line NUL drops what has been read. -/
theorem yields_null_of_reading {parser : FrameParser} (reading : parser.headersProcessed = false) :
    parser.Yields [null] [] (idle (some null)) := by
  apply yields_singleton
  simp [parseByte, handleNullByte, reading, reset, idle, bind, Except.bind]

/-! ## The parser never raises -/

/-- What every reachable state satisfies: a stored command is known, a parser without a command has
no headers, and a carriage return is never the previous byte of an empty header buffer. -/
structure Sound (parser : FrameParser) : Prop where
  known : ∀ command, parser.command = some command → isCommand command = true
  bare : parser.command = none →
    parser.headers = Dict.empty ∧ parser.contentLength = none ∧ parser.headersProcessed = false
  previous : parser.headersProcessed = false → parser.currentBuf = [] →
    parser.previousByte ≠ some carriage

theorem sound_idle (previousByte : Option UInt8) (previous : previousByte ≠ some carriage) :
    (idle previousByte).Sound :=
  ⟨by simp [idle], by simp [idle], fun _ _ => previous⟩

theorem Sound.hasCommand_iff {parser : FrameParser} (sound : parser.Sound) :
    parser.hasCommand = true ↔ ∃ command, parser.command = some command := by
  unfold hasCommand
  cases found : parser.command with
  | none => simp
  | some command =>
      cases command with
      | nil =>
          have known := sound.known [] found
          rw [isCommand_nil] at known
          contradiction
      | cons => simp

theorem makeFrameFromParts_of_isCommand {command : Bytes} (known : isCommand command = true)
    (headers : Headers) (body : Bytes) :
    ∃ frame, makeFrameFromParts command headers body = .ok frame := by
  rw [isCommand, Option.isSome_iff_exists] at known
  obtain ⟨type, found⟩ := known
  rw [makeFrameFromParts, found]
  simp only
  split
  · exact ⟨_, rfl⟩
  · exact ⟨_, rfl⟩

theorem sound_of_running {parser : FrameParser} (running : parser.hasCommand = true)
    (known : ∀ command, parser.command = some command → isCommand command = true)
    (previous : parser.headersProcessed = false → parser.currentBuf = [] →
      parser.previousByte ≠ some carriage) : parser.Sound := by
  refine ⟨known, ?_, previous⟩
  intro missing
  simp [hasCommand, missing] at running

theorem Sound.handleNullByte {parser : FrameParser} (sound : parser.Sound) :
    ∃ next frames, parser.handleNullByte = .ok (next, frames) ∧
      { next with previousByte := some null }.Sound := by
  have fresh : { parser.reset with previousByte := some null }.Sound :=
    sound_idle (some null) (by decide)
  unfold FrameParser.handleNullByte
  split
  · exact ⟨_, _, rfl, fresh⟩
  · rename_i busy
    have running : parser.hasCommand = true := by simp_all
    split
    · refine ⟨_, _, rfl, sound_of_running running sound.known ?_⟩
      intro _ empty
      simp at empty
    · obtain ⟨command, found⟩ := sound.hasCommand_iff.mp running
      obtain ⟨frame, made⟩ := makeFrameFromParts_of_isCommand (sound.known command found)
        parser.headers parser.currentBuf
      refine ⟨parser.reset, [.frame frame], ?_, fresh⟩
      simp [found, made, bind, Except.bind]

theorem Sound.processHeader {parser : FrameParser} (running : parser.hasCommand = true)
    (known : ∀ command, parser.command = some command → isCommand command = true) :
    { parser.processHeader with previousByte := some newline }.Sound := by
  have command_eq : parser.processHeader.command = parser.command := by
    unfold FrameParser.processHeader
    split
    · rfl
    · split <;> rfl
  refine sound_of_running ?_ ?_ fun _ _ => newline_ne_carriage
  · simpa only [hasCommand, command_eq] using running
  · simpa only [command_eq] using known

theorem sound_processCommand (parser : FrameParser) :
    { parser.processCommand with previousByte := some newline }.Sound := by
  unfold FrameParser.processCommand
  split
  · rename_i known
    refine ⟨?_, by simp, fun _ _ => newline_ne_carriage⟩
    intro command found
    obtain rfl : parser.currentBuf = command := by simpa using found
    exact known
  · exact sound_idle (some newline) newline_ne_carriage

/-- Interpreting a complete line keeps the parser sound. -/
theorem Sound.interpret {parser : FrameParser} (sound : parser.Sound) (buffer : Bytes)
    (processed : Bool) :
    { (if ({ parser with currentBuf := buffer, headersProcessed := processed } :
          FrameParser).hasCommand then
        ({ parser with currentBuf := buffer, headersProcessed := processed } :
          FrameParser).processHeader
      else ({ parser with currentBuf := buffer, headersProcessed := processed } :
          FrameParser).processCommand) with previousByte := some newline }.Sound := by
  split
  · rename_i running
    exact Sound.processHeader running sound.known
  · exact sound_processCommand _

theorem Sound.handleNewlineByte {parser : FrameParser} (sound : parser.Sound)
    (reading : parser.headersProcessed = false) :
    ∃ next frames, parser.handleNewlineByte = .ok (next, frames) ∧
      { next with previousByte := some newline }.Sound := by
  unfold FrameParser.handleNewlineByte
  split
  · exact ⟨_, _, rfl, ⟨sound.known, sound.bare, fun _ _ => newline_ne_carriage⟩⟩
  · by_cases carried : parser.previousByte = some carriage
    · have filled : parser.currentBuf ≠ [] := fun empty => sound.previous reading empty carried
      rw [if_pos carried, if_neg filled]
      exact ⟨_, _, rfl, sound.interpret _ _⟩
    · rw [if_neg carried]
      exact ⟨_, _, rfl, sound.interpret _ _⟩

/-- One byte never raises. -/
theorem Sound.parseByte {parser : FrameParser} (sound : parser.Sound) (byte : UInt8) :
    ∃ next frames, parser.parseByte byte = .ok (next, frames) ∧ next.Sound := by
  unfold FrameParser.parseByte
  by_cases is_null : byte = null
  · subst is_null
    obtain ⟨next, frames, handled, after⟩ := sound.handleNullByte
    exact ⟨_, frames, by simp [handled, bind, Except.bind], after⟩
  rw [if_neg is_null]
  cases processed : parser.headersProcessed with
  | true =>
      refine ⟨_, [], rfl, ?_⟩
      have command_eq : (parser.handleBodyByte byte).command = parser.command := by
        unfold handleBodyByte; split <;> rfl
      have processed_eq : (parser.handleBodyByte byte).headersProcessed = true := by
        unfold handleBodyByte; split <;> exact processed
      refine ⟨?_, ?_, ?_⟩
      · simpa only [command_eq] using sound.known
      · intro missing
        have unprocessed := (sound.bare (command_eq.symm.trans missing)).2.2
        rw [processed] at unprocessed
        contradiction
      · intro unprocessed
        rw [processed_eq] at unprocessed
        contradiction
  | false =>
      rw [if_neg (by decide)]
      by_cases is_newline : byte = newline
      · subst is_newline
        obtain ⟨next, frames, handled, after⟩ := sound.handleNewlineByte processed
        exact ⟨_, frames, by simp [handled, bind, Except.bind], after⟩
      · rw [if_neg is_newline]
        refine ⟨_, [], rfl, sound.known, fun missing => ?_, by simp⟩
        exact ⟨(sound.bare missing).1, (sound.bare missing).2.1, rfl⟩

/-- Feeding bytes never raises. -/
theorem Sound.exists_yields {parser : FrameParser} (sound : parser.Sound) (bytes : Bytes) :
    ∃ frames last, parser.Yields bytes frames last ∧ last.Sound := by
  induction bytes generalizing parser with
  | nil => exact ⟨[], parser, Yields.nil _, sound⟩
  | cons byte bytes ih =>
      obtain ⟨next, first, head, next_sound⟩ := sound.parseByte byte
      obtain ⟨later, last, tail, last_sound⟩ := ih next_sound
      exact ⟨first ++ later, last, yields_cons head tail, last_sound⟩

/-! ## The announced length bounds the body -/

/-- After the blank line the buffer is never longer than an announced length. -/
def Bounded (parser : FrameParser) : Prop :=
  parser.headersProcessed = true → ∀ length : Int, 0 ≤ length →
    parser.contentLength = some length → (parser.currentBuf.length : Int) ≤ length

theorem bounded_of_empty {parser : FrameParser} (empty : parser.currentBuf = []) :
    parser.Bounded := by
  intro _ length nonnegative _
  simpa [empty] using nonnegative

/-- A byte is appended to a body only while the body is shorter than announced. -/
theorem Bounded.push {parser : FrameParser} (bounded : parser.Bounded)
    (unfilled : parser.contentLength ≠ some (parser.currentBuf.length : Int)) (byte : UInt8) :
    { parser with currentBuf := parser.currentBuf ++ [byte] }.Bounded := by
  intro processed length nonnegative announced
  have within := bounded processed length nonnegative announced
  have differs : length ≠ (parser.currentBuf.length : Int) := by
    rintro rfl
    exact unfilled announced
  simp only [List.length_append, List.length_cons, List.length_nil]
  omega

theorem currentBuf_processHeader (parser : FrameParser) : parser.processHeader.currentBuf = [] := by
  unfold processHeader
  split
  · rfl
  · split <;> rfl

theorem currentBuf_processCommand (parser : FrameParser) :
    parser.processCommand.currentBuf = [] := by
  unfold processCommand
  split <;> rfl

theorem Bounded.handleNullByte {parser next : FrameParser} {frames : List AnyFrame}
    (bounded : parser.Bounded) (handled : parser.handleNullByte = .ok (next, frames)) :
    next.Bounded := by
  unfold FrameParser.handleNullByte at handled
  split at handled
  · obtain ⟨rfl, -⟩ := Prod.mk.inj (Except.ok.inj handled)
    exact bounded_of_empty rfl
  · split at handled
    · rename_i unfilled
      obtain ⟨rfl, -⟩ := Prod.mk.inj (Except.ok.inj handled)
      exact bounded.push unfilled.2 null
    · cases made : makeFrameFromParts (parser.command.getD []) parser.headers
          parser.currentBuf with
      | error error => simp [made, bind, Except.bind] at handled
      | ok frame =>
          simp only [made, bind, Except.bind, Except.ok.injEq, Prod.mk.injEq] at handled
          obtain ⟨rfl, -⟩ := handled
          exact bounded_of_empty rfl

theorem Bounded.handleNewlineByte {parser next : FrameParser} {frames : List AnyFrame}
    (bounded : parser.Bounded) (handled : parser.handleNewlineByte = .ok (next, frames)) :
    next.Bounded := by
  have interpreted : ∀ line : FrameParser,
      (if line.hasCommand then line.processHeader else line.processCommand).Bounded := by
    intro line
    apply bounded_of_empty
    split
    · exact currentBuf_processHeader line
    · exact currentBuf_processCommand line
  unfold FrameParser.handleNewlineByte at handled
  split at handled
  · obtain ⟨rfl, -⟩ := Prod.mk.inj (Except.ok.inj handled)
    exact bounded
  · by_cases carried : parser.previousByte = some carriage
    · rw [if_pos carried] at handled
      split at handled
      · contradiction
      · obtain ⟨rfl, -⟩ := Prod.mk.inj (Except.ok.inj handled)
        exact interpreted _
    · rw [if_neg carried] at handled
      obtain ⟨rfl, -⟩ := Prod.mk.inj (Except.ok.inj handled)
      exact interpreted _

theorem Bounded.handleBodyByte {parser : FrameParser} (bounded : parser.Bounded) (byte : UInt8) :
    (parser.handleBodyByte byte).Bounded := by
  unfold FrameParser.handleBodyByte
  split
  · rename_i open_body
    apply bounded.push
    rcases open_body with unannounced | differs
    · rw [unannounced]
      simp
    · exact differs
  · exact bounded

/-- One byte keeps the bound. -/
theorem Bounded.parseByte {parser next : FrameParser} {byte : UInt8} {frames : List AnyFrame}
    (bounded : parser.Bounded) (read : parser.parseByte byte = .ok (next, frames)) :
    next.Bounded := by
  have remembers : ∀ {other : FrameParser}, other.Bounded →
      { other with previousByte := some byte }.Bounded := fun holds => holds
  unfold FrameParser.parseByte at read
  split at read
  · cases handled : parser.handleNullByte with
    | error error => simp [handled, bind, Except.bind] at read
    | ok result =>
        simp only [handled, bind, Except.bind, Except.ok.injEq, Prod.mk.injEq] at read
        obtain ⟨rfl, -⟩ := read
        exact remembers (bounded.handleNullByte handled)
  · split at read
    · obtain ⟨rfl, -⟩ := Prod.mk.inj (Except.ok.inj read)
      exact remembers (bounded.handleBodyByte byte)
    · rename_i reading
      split at read
      · cases handled : parser.handleNewlineByte with
        | error error => simp [handled, bind, Except.bind] at read
        | ok result =>
            simp only [handled, bind, Except.bind, Except.ok.injEq, Prod.mk.injEq] at read
            obtain ⟨rfl, -⟩ := read
            exact remembers (bounded.handleNewlineByte handled)
      · obtain ⟨rfl, -⟩ := Prod.mk.inj (Except.ok.inj read)
        intro processed
        exact absurd processed reading

theorem Bounded.yields {parser last : FrameParser} {bytes : Bytes} {frames : List AnyFrame}
    (bounded : parser.Bounded) (read : parser.Yields bytes frames last) : last.Bounded := by
  induction bytes generalizing parser frames with
  | nil =>
      obtain ⟨rfl, -⟩ := Prod.mk.inj (Except.ok.inj read)
      exact bounded
  | cons byte bytes ih =>
      rw [Yields, parseFramesFromChunk] at read
      cases head : parser.parseByte byte with
      | error error => simp [head, bind, Except.bind] at read
      | ok next =>
          cases tail : next.1.parseFramesFromChunk bytes with
          | error error => simp [head, tail, bind, Except.bind] at read
          | ok final =>
              simp only [head, tail, bind, Except.bind, Except.ok.injEq, Prod.mk.injEq] at read
              obtain ⟨rfl, -⟩ := read
              exact ih (bounded.parseByte head) tail

/-- A parser that is fed any chunks raises nothing, and its buffer never exceeds an announced
length. -/
theorem parseChunks_total (chunks : List Bytes) :
    ∃ last frames, ({} : FrameParser).parseChunks chunks = .ok (last, frames) ∧
      (last.headersProcessed = true → ∀ length : Int, 0 ≤ length →
        last.contentLength = some length → (last.currentBuf.length : Int) ≤ length) := by
  have sound : ({} : FrameParser).Sound := sound_idle none (by simp)
  obtain ⟨frames, last, read, -⟩ := sound.exists_yields chunks.flatten
  refine ⟨last, frames, ?_, (bounded_of_empty rfl).yields read⟩
  rw [parseChunks_eq]
  exact read

end FrameParser

end Stompman
