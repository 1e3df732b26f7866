import Stompman.Framing

/-!
# Header and frame injection

`dump_frame` writes one line for each header: escaped by `dump_header`, or raw in a `ConnectFrame`.
A text that brings a delimiter of its own can end the line, the header block or the frame.  The file
follows the written lines through the parser, NUL bytes included, and says in terms of the header
texts for which frames the parser gets back one frame with the same body and no header that the
frame did not have.
-/

namespace Stompman

open Foundation

open FrameParser

/-! ## Written lines -/

/-- The line of one header before its newline. -/
def writtenLine (type : FrameType) (item : String × String) : Bytes :=
  if type = .connect then Text.encode (item.1 ++ ":" ++ item.2) else headerLine item.1 item.2

/-- The header lines of a dumped frame. -/
def writtenLines (frame : Frame) : List Bytes :=
  (sortedHeaders frame.headers).map (writtenLine frame.type)

/-- The header texts of a `ConnectFrame`, which are written raw, have no newline. -/
def Frame.SingleLined (frame : Frame) : Prop :=
  frame.type = .connect → ∀ item ∈ frame.headers.entries,
    '\n' ∉ item.1.toList ∧ '\n' ∉ item.2.toList

theorem encode_rawLine (item : String × String) :
    Text.encode (item.1 ++ ":" ++ item.2) = Text.encode item.1 ++ colon :: Text.encode item.2 := by
  have colon_bytes : Text.encode ":" = [colon] := by decide
  simp [colon_bytes]

theorem dumpFrame_eq (frame : Frame) :
    dumpFrame frame =
      framesToCommands frame.type ++ [newline] ++
        ((writtenLines frame).flatMap fun line => line ++ [newline]) ++
        ([newline] ++ frame.body ++ [null]) := by
  by_cases raw : frame.type = .connect
  · have no_body : frame.body = [] := frame.body_eq_nil (by rw [raw]; rfl)
    have newline_bytes : Text.encode "\n" = [newline] := by decide
    have written : writtenLine .connect = fun item => Text.encode (item.1 ++ ":" ++ item.2) := rfl
    rw [dumpFrame, if_pos raw, no_body, writtenLines, List.flatMap_map, raw, written]
    simp [FrameType.hasBody, newline_bytes]
  · have written : writtenLine frame.type = fun item => headerLine item.1 item.2 := by
      funext item
      rw [writtenLine, if_neg raw]
    rw [dumpFrame_of_ne_connect raw, writtenLines, written]
    simp

theorem colon_mem_writtenLine (type : FrameType) (item : String × String) :
    colon ∈ writtenLine type item := by
  unfold writtenLine
  split
  · rw [encode_rawLine]
    simp
  · simp [headerLine]

theorem newline_not_mem_writtenLines {frame : Frame} (single : frame.SingleLined) :
    ∀ line ∈ writtenLines frame, newline ∉ line := by
  intro line member
  obtain ⟨item, item_mem, rfl⟩ := List.mem_map.mp member
  unfold writtenLine
  split
  · rename_i raw
    obtain ⟨name, value⟩ := single raw item (mem_sortedHeaders.mp item_mem)
    have transfers := fun text => @Text.mem_encode_iff '\n' (by decide) text
    rw [encode_rawLine, List.mem_append, List.mem_cons, not_or, not_or]
    exact ⟨fun found => name ((transfers _).mp found), by decide,
      fun found => value ((transfers _).mp found)⟩
  · exact newline_not_mem_headerLine _ _

theorem chomp_ne_nil_of_colon_mem {line : Bytes} (separated : colon ∈ line) : chomp line ≠ [] := by
  intro empty
  unfold chomp at empty
  split at empty
  · rename_i last
    obtain ⟨front, rfl⟩ := List.getLast?_eq_some_iff.mp last
    rw [List.dropLast_concat] at empty
    rw [empty] at separated
    revert separated
    decide
  · rw [empty] at separated
    contradiction

/-! ## Lines through the parser -/

/-- Where a parser stands between two lines of a header block: a NUL in a line takes it back between
frames, and there a line that is a command starts a new block. -/
inductive BlockReading
  | between
  | headers (type : FrameType) (block : Headers × Option Int)
  deriving DecidableEq

namespace BlockReading

/-- The part of a line after its last NUL. -/
def afterLastNull : Bytes → Bytes
  | [] => []
  | byte :: rest =>
      if null ∈ rest then afterLastNull rest
      else if byte = null then rest
      else byte :: rest

/-- A line read between frames; `none` is an empty one, which is a heartbeat. -/
def start (line : Bytes) : Option BlockReading :=
  if line = [] then none
  else
    match commandsToFrames.lookup (chomp line) with
    | some type => some (.headers type (Dict.empty, none))
    | none => some .between

/-- One line of a header block. -/
def next (reading : BlockReading) (line : Bytes) : Option BlockReading :=
  if null ∈ line then start (afterLastNull line)
  else
    match reading with
    | .between => start line
    | .headers type block => some (.headers type (acceptLine block (chomp line)))

/-- The parser at a reading. -/
def parser : BlockReading → Option UInt8 → FrameParser
  | .between, previousByte => idle previousByte
  | .headers type block, previousByte => atHeaders (framesToCommands type) block previousByte

theorem parser_headersProcessed (reading : BlockReading) (previousByte : Option UInt8) :
    (reading.parser previousByte).headersProcessed = false := by
  cases reading <;> rfl

theorem afterLastNull_spec {line : Bytes} (broken : null ∈ line) :
    null ∉ afterLastNull line ∧ ∃ front, line = front ++ null :: afterLastNull line := by
  induction line with
  | nil => simp at broken
  | cons byte rest ih =>
      by_cases later : null ∈ rest
      · obtain ⟨clean, front, rest_eq⟩ := ih later
        rw [afterLastNull, if_pos later]
        refine ⟨clean, byte :: front, ?_⟩
        rw [List.cons_append, ← rest_eq]
      · have is_null : byte = null := by
          rcases List.mem_cons.mp broken with same | inside
          · exact same.symm
          · exact absurd inside later
        rw [afterLastNull, if_neg later, if_pos is_null]
        exact ⟨later, [], by rw [is_null]; rfl⟩

/-- Text before a NUL is dropped in a header block. -/
theorem yields_through_null {reader : FrameParser} (reading : reader.headersProcessed = false)
    (front : Bytes) (no_newline : newline ∉ front) :
    reader.Yields (front ++ [null]) [] (idle (some null)) := by
  induction front generalizing reader with
  | nil => exact yields_null_of_reading reading
  | cons byte front ih =>
      rw [List.mem_cons, not_or] at no_newline
      by_cases is_null : byte = null
      · subst is_null
        exact (yields_null_of_reading reading).append (@ih (idle (some null)) rfl
          no_newline.2)
      · have head : reader.parseByte byte =
            .ok ({ reader with
              currentBuf := reader.currentBuf ++ [byte], previousByte := some byte }, []) := by
          simp [parseByte, is_null, Ne.symm no_newline.1, reading, bind, Except.bind]
        exact yields_cons head (@ih { reader with
          currentBuf := reader.currentBuf ++ [byte], previousByte := some byte } reading
            no_newline.2)

theorem start_yields {line : Bytes} (no_newline : newline ∉ line) (no_null : null ∉ line)
    (previousByte : Option UInt8) :
    match start line with
    | some after => (idle previousByte).Yields (line ++ [newline]) [] (after.parser (some newline))
    | none => (idle previousByte).Yields (line ++ [newline]) [.heartbeat]
        (idle (some newline)) := by
  unfold start
  by_cases empty : line = []
  · subst empty
    exact idle_yields_newline previousByte
  · have read := idle_yields_line previousByte empty no_newline no_null
    rw [if_neg empty]
    cases found : commandsToFrames.lookup (chomp line) with
    | none =>
        rw [isCommand, found] at read
        exact read
    | some type =>
        rw [isCommand, found, lookup_eq_some found] at read
        exact read

/-- The parser reads a written line as `next` says. -/
theorem next_yields (reading : BlockReading) {previousByte : Option UInt8}
    (previous : previousByte ≠ some carriage) {line : Bytes} (no_newline : newline ∉ line)
    (separated : colon ∈ line) :
    match reading.next line with
    | some after =>
        (reading.parser previousByte).Yields (line ++ [newline]) [] (after.parser (some newline))
    | none => (reading.parser previousByte).Yields (line ++ [newline]) [.heartbeat]
        (idle (some newline)) := by
  unfold next
  by_cases broken : null ∈ line
  · obtain ⟨clean, front, line_eq⟩ := afterLastNull_spec broken
    have front_clean : newline ∉ front := fun found =>
      no_newline (line_eq ▸ List.mem_append_left _ found)
    have rest_clean : newline ∉ afterLastNull line := fun found =>
      no_newline (line_eq ▸ List.mem_append_right _ (List.mem_cons_of_mem _ found))
    have dropped := yields_through_null (parser_headersProcessed reading previousByte) front
      front_clean
    have started := start_yields rest_clean clean (some null)
    have line_split : line ++ [newline] =
        (front ++ [null]) ++ (afterLastNull line ++ [newline]) := by
      conv_lhs => rw [line_eq]
      simp
    rw [if_pos broken]
    cases outcome : start (afterLastNull line) with
    | none =>
        simp only [outcome] at started
        rw [line_split]
        exact dropped.append started
    | some after =>
        simp only [outcome] at started
        rw [line_split]
        exact dropped.append started
  · rw [if_neg broken]
    cases reading with
    | between => exact start_yields no_newline broken previousByte
    | headers type block =>
        have read := atHeaders_yields_line (framesToCommands_ne_nil type) block previous
          no_newline broken
        rw [if_neg (chomp_ne_nil_of_colon_mem separated)] at read
        exact read

/-- Lines that keep the parser in a header block or between frames. -/
theorem yields_lines {lines : List Bytes} (clean : ∀ line ∈ lines, newline ∉ line ∧ colon ∈ line)
    {reading after : BlockReading} {previousByte : Option UInt8}
    (previous : previousByte ≠ some carriage) (read : lines.foldlM next reading = some after) :
    ∃ lastByte, lastByte ≠ some carriage ∧
      (reading.parser previousByte).Yields (lines.flatMap fun line => line ++ [newline]) []
        (after.parser lastByte) := by
  induction lines generalizing reading previousByte with
  | nil =>
      obtain rfl : reading = after := by simpa using read
      exact ⟨previousByte, previous, Yields.nil _⟩
  | cons line lines ih =>
      obtain ⟨no_newline, separated⟩ := clean line List.mem_cons_self
      have first := next_yields reading previous no_newline separated
      rw [List.foldlM_cons] at read
      cases stepped : reading.next line with
      | none => simp [stepped] at read
      | some middle =>
          simp only [stepped] at first read
          obtain ⟨lastByte, last_ne, later⟩ := ih
            (fun other member => clean other (List.mem_cons_of_mem _ member))
            newline_ne_carriage read
          exact ⟨lastByte, last_ne, first.append later⟩

/-- Lines that make the parser yield a heartbeat. -/
theorem heartbeat_of_lines {lines : List Bytes}
    (clean : ∀ line ∈ lines, newline ∉ line ∧ colon ∈ line)
    {reading : BlockReading} {previousByte : Option UInt8}
    (previous : previousByte ≠ some carriage) (broken : lines.foldlM next reading = none) :
    ∃ frames last, last.Sound ∧
      (reading.parser previousByte).Yields (lines.flatMap fun line => line ++ [newline])
        (.heartbeat :: frames) last := by
  induction lines generalizing reading previousByte with
  | nil => simp at broken
  | cons line lines ih =>
      obtain ⟨no_newline, separated⟩ := clean line List.mem_cons_self
      have first := next_yields reading previous no_newline separated
      rw [List.foldlM_cons] at broken
      cases stepped : reading.next line with
      | none =>
          simp only [stepped] at first
          obtain ⟨frames, last, later, sound⟩ := (sound_idle _ newline_ne_carriage).exists_yields
            (lines.flatMap fun line => line ++ [newline])
          exact ⟨frames, last, sound, first.append later⟩
      | some middle =>
          simp only [stepped] at first broken
          obtain ⟨frames, last, sound, later⟩ := ih
            (fun other member => clean other (List.mem_cons_of_mem _ member))
            newline_ne_carriage broken
          exact ⟨frames, last, sound, first.append later⟩

theorem foldlM_next_of_no_null {lines : List Bytes} (clean : ∀ line ∈ lines, null ∉ line)
    (type : FrameType) (block : Headers × Option Int) :
    lines.foldlM next (.headers type block) =
      some (.headers type ((lines.map chomp).foldl acceptLine block)) := by
  induction lines generalizing block with
  | nil => rfl
  | cons line lines ih =>
      have stepped : next (.headers type block) line =
          some (.headers type (acceptLine block (chomp line))) := by
        rw [next, if_neg (clean line List.mem_cons_self)]
      rw [List.foldlM_cons, stepped]
      exact ih (fun other member => clean other (List.mem_cons_of_mem _ member)) _

end BlockReading

/-! ## Bodies -/

/-- A body with the wrong framing is cut short, or swallows the NUL that should end it. -/
theorem inBody_yields_unframed (type : FrameType) (block : Headers × Option Int)
    (previousByte : Option UInt8) (body : Bytes)
    (unframed : ¬ ((block.2 = none ∧ null ∉ body) ∨ block.2 = some (body.length : Int))) :
    ∃ frames last, (inBody (framesToCommands type) block [] previousByte).Yields (body ++ [null])
        frames last ∧
      (frames = [] ∨ ∃ front later, front.length < body.length ∧
        frames = .frame (frameOfParts type block.1 front) :: later) := by
  obtain ⟨headers, length⟩ := block
  have ended : ∀ (front : Bytes) (lastByte : Option UInt8) (rest : Bytes),
      length = none ∨ length = some (front.length : Int) →
      ∃ later last, (inBody (framesToCommands type) (headers, length) front lastByte).Yields
        (null :: rest) (.frame (frameOfParts type headers front) :: later) last := by
    intro front lastByte rest complete
    obtain ⟨later, last, tail, _⟩ :=
      (sound_idle (some null) (by decide)).exists_yields rest
    exact ⟨later, last,
      (inBody_yields_null type (headers, length) front lastByte complete).append tail⟩
  cases length with
  | none =>
      have present : null ∈ body := by simpa using unframed
      obtain ⟨front, rest, rfl, clean⟩ := List.eq_append_cons_of_mem present
      obtain ⟨lastByte, text⟩ := inBody_yields_text (framesToCommands type) headers [] previousByte
        front clean
      obtain ⟨later, last, tail⟩ := ended front lastByte (rest ++ [null]) (.inl rfl)
      refine ⟨_, last, by simpa using text.append tail, .inr ⟨front, later, ?_, rfl⟩⟩
      simp
  | some length =>
      have differs : length ≠ (body.length : Int) := by simpa using unframed
      by_cases short : 0 ≤ length ∧ length < body.length
      · -- the announced length is reached inside the body: the next NUL ends the frame there
        obtain ⟨size, rfl⟩ := Int.eq_ofNat_of_zero_le short.1
        have size_lt : size < body.length := by omega
        have front_length : (body.take size).length = size := by simp; omega
        obtain ⟨middleByte, counted⟩ := inBody_yields_counted (framesToCommands_ne_nil type) headers
          [] (size : Int) previousByte (body.take size)
          (by simp only [List.length_nil, front_length]; omega)
        obtain ⟨skipped, rest, rest_eq, clean⟩ := List.eq_append_cons_of_mem
          (show null ∈ body.drop size ++ [null] by simp)
        have surplus := inBody_yields_surplus (framesToCommands type) headers (body.take size)
          middleByte skipped clean
        rw [front_length] at surplus
        obtain ⟨lastByte, surplus⟩ := surplus
        obtain ⟨later, last, tail⟩ := ended (body.take size) lastByte rest
          (.inr (by rw [front_length]))
        have whole : body ++ [null] = body.take size ++ (skipped ++ null :: rest) := by
          rw [← rest_eq, ← List.append_assoc, List.take_append_drop]
        refine ⟨_, last, ?_, .inr ⟨body.take size, later, by omega, rfl⟩⟩
        rw [whole]
        exact counted.append (surplus.append tail)
      · -- the announced length is never reached: the NUL is taken for a byte of the body
        have unfilled : ∀ size : Nat, ([] : Bytes).length ≤ size →
            size < ([] : Bytes).length + (body ++ [null]).length → length ≠ (size : Int) := by
          simp only [List.length_nil, List.length_append, List.length_singleton]
          omega
        obtain ⟨lastByte, counted⟩ := inBody_yields_counted (framesToCommands_ne_nil type) headers
          [] length previousByte (body ++ [null]) unfilled
        exact ⟨_, _, counted, .inl rfl⟩

/-! ## The verdict -/

/-- One frame is read back from a dumped frame, with the same type and body, and each of its headers
is a header of the dumped frame without carriage returns. -/
def Frame.NoInjection (frame : Frame) : Prop :=
  ∃ last read, ({} : FrameParser).parseFramesFromChunk (dumpFrame frame) =
      .ok (last, [.frame read]) ∧
    read.type = frame.type ∧ read.body = frame.body ∧
    ∀ item ∈ read.headers.entries, ∃ original ∈ frame.headers.entries,
      item = withoutCarriagesItem original

/-- The written header lines, read one by one, end in a block of the frame's own type whose headers
are the frame's and whose content length agrees with its body. -/
def Frame.ReadsBack (frame : Frame) : Prop :=
  ∃ block, (writtenLines frame).foldlM BlockReading.next
      (.headers frame.type (Dict.empty, none)) = some (.headers frame.type block) ∧
    ((block.2 = none ∧ null ∉ frame.body) ∨ block.2 = some (frame.body.length : Int)) ∧
    ∀ item ∈ block.1.entries, ∃ original ∈ frame.headers.entries,
      item = withoutCarriagesItem original

theorem clean_writtenLines {frame : Frame} (single : frame.SingleLined) :
    ∀ line ∈ writtenLines frame, newline ∉ line ∧ colon ∈ line := by
  intro line member
  refine ⟨newline_not_mem_writtenLines single line member, ?_⟩
  obtain ⟨item, _, rfl⟩ := List.mem_map.mp member
  exact colon_mem_writtenLine _ _

/-- The command line of a dumped frame. -/
theorem yields_command (type : FrameType) :
    ({} : FrameParser).Yields (framesToCommands type ++ [newline]) []
      ((BlockReading.headers type (Dict.empty, none)).parser (some newline)) := by
  obtain ⟨no_newline, no_null, whole_command, known⟩ := clean_framesToCommands type
  have read := idle_yields_line none (framesToCommands_ne_nil type) no_newline
    no_null
  rw [whole_command, if_pos known] at read
  exact read

/-- What the parser yields when the header lines of a dumped frame leave it in a header block. -/
theorem yields_dumpFrame {frame : Frame} (single : frame.SingleLined) {type : FrameType}
    {block : Headers × Option Int}
    (read : (writtenLines frame).foldlM BlockReading.next
      (.headers frame.type (Dict.empty, none)) = some (.headers type block))
    {frames : List AnyFrame} {last : FrameParser}
    (body_read : (inBody (framesToCommands type) block [] (some newline)).Yields
      (frame.body ++ [null]) frames last) :
    ({} : FrameParser).Yields (dumpFrame frame) frames last := by
  obtain ⟨lastByte, last_ne, lines_read⟩ := BlockReading.yields_lines (clean_writtenLines single)
    newline_ne_carriage read
  have blank_read := atHeaders_yields_blank (framesToCommands_ne_nil type) block last_ne
  have whole := ((yields_command frame.type).append lines_read).append
    (blank_read.append body_read)
  rw [dumpFrame_eq]
  simpa using whole

/-- A heartbeat comes first when the header lines leave the parser between frames. -/
theorem heartbeat_of_dumpFrame {frame : Frame} (single : frame.SingleLined)
    (lost : ∀ type block, (writtenLines frame).foldlM BlockReading.next
      (.headers frame.type (Dict.empty, none)) ≠ some (.headers type block)) :
    ∃ frames last, ({} : FrameParser).Yields (dumpFrame frame) (.heartbeat :: frames) last := by
  have clean := clean_writtenLines single
  have command_read := yields_command frame.type
  rw [dumpFrame_eq]
  cases read : (writtenLines frame).foldlM BlockReading.next
      (.headers frame.type (Dict.empty, none)) with
  | none =>
      obtain ⟨frames, middle, sound, lines_read⟩ := BlockReading.heartbeat_of_lines clean
        newline_ne_carriage read
      obtain ⟨later, last, tail, _⟩ := sound.exists_yields ([newline] ++ frame.body ++ [null])
      exact ⟨frames ++ later, last, (command_read.append lines_read).append tail⟩
  | some reading =>
      cases reading with
      | headers type block => exact absurd read (lost type block)
      | between =>
          obtain ⟨lastByte, _, lines_read⟩ := BlockReading.yields_lines clean
            newline_ne_carriage read
          obtain ⟨later, last, tail, _⟩ := (sound_idle _ newline_ne_carriage).exists_yields
            (frame.body ++ [null])
          have blank_read := (idle_yields_newline lastByte).append tail
          rw [← List.append_assoc] at blank_read
          exact ⟨later, last, (command_read.append lines_read).append blank_read⟩

theorem frameOfParts_of_body_eq_nil (type : FrameType) (headers : Headers) {body : Bytes}
    (bare : type.hasBody = false → body = []) :
    (frameOfParts type headers body).type = type ∧
      (frameOfParts type headers body).headers = headers ∧
      (frameOfParts type headers body).body = body := by
  refine ⟨type_frameOfParts type headers body, headers_frameOfParts type headers body, ?_⟩
  unfold frameOfParts
  split
  · rfl
  · rename_i no_body
    exact (bare (by simpa using no_body)).symm

/-- A frame is read back without injection exactly when its header lines read back. -/
theorem Frame.noInjection_iff_readsBack (frame : Frame) (single : frame.SingleLined) :
    frame.NoInjection ↔ frame.ReadsBack := by
  constructor
  · rintro ⟨final, read, parsed, type_eq, body_eq, own⟩
    have yielded : ({} : FrameParser).Yields (dumpFrame frame) [.frame read] final := parsed
    by_cases found : ∃ type block, (writtenLines frame).foldlM BlockReading.next
        (.headers frame.type (Dict.empty, none)) = some (.headers type block)
    · obtain ⟨type, block, lines_read⟩ := found
      by_cases framed : (block.2 = none ∧ null ∉ frame.body) ∨
          block.2 = some (frame.body.length : Int)
      · have other := yields_dumpFrame single lines_read
          (inBody_yields_body type block (some newline) frame.body framed)
        have same := (yielded.functional other).1
        obtain rfl : read = frameOfParts type block.1 frame.body := by simpa using same
        rw [type_frameOfParts] at type_eq
        rw [headers_frameOfParts] at own
        subst type_eq
        exact ⟨block, lines_read, framed, own⟩
      · obtain ⟨frames, last, body_read, shape⟩ :=
          inBody_yields_unframed type block (some newline) frame.body framed
        have same := (yielded.functional (yields_dumpFrame single lines_read body_read)).1
        rcases shape with empty | ⟨front, later, shorter, shape⟩
        · rw [empty] at same
          contradiction
        · rw [shape, List.cons.injEq, AnyFrame.frame.injEq] at same
          obtain ⟨rfl, -⟩ := same
          rw [type_frameOfParts] at type_eq
          subst type_eq
          unfold frameOfParts at body_eq
          split at body_eq
          · rw [← body_eq] at shorter
            exact absurd shorter (lt_irrefl _)
          · rw [← body_eq] at shorter
            exact absurd shorter (Nat.not_lt_zero _)
    · simp only [not_exists] at found
      obtain ⟨frames, last, other⟩ := heartbeat_of_dumpFrame single found
      have same := (yielded.functional other).1
      simp at same
  · rintro ⟨block, lines_read, framed, own⟩
    have body_read := inBody_yields_body frame.type block (some newline) frame.body framed
    obtain ⟨own_type, own_headers, own_body⟩ := frameOfParts_of_body_eq_nil frame.type block.1
      frame.body_eq_nil
    refine ⟨_, _, yields_dumpFrame single lines_read body_read, own_type, own_body, ?_⟩
    rw [own_headers]
    exact own

/-- Escaped headers without NUL are always the frame's own, so only the accepted content length
decides. -/
theorem Frame.readsBack_iff_of_escaped {frame : Frame} (escaped : frame.type ≠ .connect)
    (no_null : ∀ item ∈ frame.headers.entries,
      '\x00' ∉ item.1.toList ∧ '\x00' ∉ item.2.toList) :
    frame.ReadsBack ↔
      ((acceptedBlock frame.headers).2 = none ∧ null ∉ frame.body) ∨
        (acceptedBlock frame.headers).2 = some (frame.body.length : Int) := by
  have lines_eq : writtenLines frame =
      (sortedHeaders frame.headers).map fun item => headerLine item.1 item.2 := by
    refine List.map_congr_left fun item _ => ?_
    rw [writtenLine, if_neg escaped]
  have read : (writtenLines frame).foldlM BlockReading.next
      (.headers frame.type (Dict.empty, none)) =
        some (.headers frame.type (acceptedBlock frame.headers)) := by
    rw [lines_eq, acceptedBlock, ← foldl_acceptLine_headerLines]
    apply BlockReading.foldlM_next_of_no_null
    intro line member
    obtain ⟨item, item_mem, rfl⟩ := List.mem_map.mp member
    rw [null_mem_headerLine, not_or]
    exact no_null item (mem_sortedHeaders.mp item_mem)
  constructor
  · rintro ⟨block, other, framed, -⟩
    rw [read] at other
    obtain rfl : acceptedBlock frame.headers = block := by simpa using other
    exact framed
  · intro framed
    refine ⟨_, read, framed, ?_⟩
    intro item member
    have listed := mem_of_mem_foldl_acceptItem _ _ item member
    simp only [Dict.empty, List.not_mem_nil, false_or, List.mem_map] at listed
    obtain ⟨original, original_mem, rfl⟩ := listed
    exact ⟨original, mem_sortedHeaders.mp original_mem, rfl⟩

/-! ## Raw lines -/

/-- A text without a carriage return at its end. -/
def withoutLastCarriage (text : String) : String :=
  if text.toList.getLast? = some '\r' then String.ofList text.toList.dropLast else text

theorem chomp_append_colon (front value : Bytes) :
    chomp (front ++ colon :: value) = front ++ colon :: chomp value := by
  have last : (front ++ colon :: value).getLast? = some carriage ↔
      value.getLast? = some carriage := by
    cases value with
    | nil => simp; decide
    | cons byte value => simp [List.getLast?_append]
  by_cases ends : value.getLast? = some carriage
  · have nonempty : value ≠ [] := by
      rintro rfl
      simp at ends
    rw [chomp, chomp, if_pos ends, if_pos (last.mpr ends),
      List.dropLast_append_of_ne_nil (List.cons_ne_nil _ _),
      List.dropLast_cons_of_ne_nil nonempty]
  · rw [chomp, chomp, if_neg ends, if_neg (mt last.mp ends)]

theorem chomp_encode (text : String) :
    chomp (Text.encode text) = Text.encode (withoutLastCarriage text) := by
  unfold chomp withoutLastCarriage
  rcases List.eq_nil_or_concat text.toList with empty | ⟨front, last, split⟩
  · have bytes : Text.encode text = [] := by rw [Text.encode, empty]; rfl
    rw [empty, bytes]
    simp [bytes]
  · have bytes : Text.encode text =
        front.flatMap String.utf8EncodeChar ++ String.utf8EncodeChar last := by
      rw [Text.encode, split]
      simp
    by_cases carried : last = '\r'
    · subst carried
      have single : String.utf8EncodeChar '\r' = [carriage] := by decide
      rw [bytes, single, split]
      simp [Text.encode_ofList]
    · have last_ne : (Text.encode text).getLast? ≠ some carriage := by
        intro ends
        rw [bytes, List.getLast?_append_of_ne_nil _ (by simp)] at ends
        apply carried
        rw [← Char.toNat_inj]
        exact (@Text.toNat_of_mem_utf8EncodeChar last carriage (by decide)
          (List.mem_of_getLast? ends)).symm
      rw [if_neg last_ne, if_neg]
      rw [split]
      simpa using carried

theorem mem_withoutLastCarriage {char : Char} (other : char ≠ '\r') (text : String) :
    char ∈ (withoutLastCarriage text).toList ↔ char ∈ text.toList := by
  unfold withoutLastCarriage
  split
  · rename_i ends
    obtain ⟨front, split⟩ := List.getLast?_eq_some_iff.mp ends
    simp [split, other]
  · rfl

/-- A carriage return is left unless it was the last character. -/
theorem carriage_mem_withoutLastCarriage (text : String) :
    '\r' ∈ (withoutLastCarriage text).toList ↔ '\r' ∈ text.toList.dropLast := by
  unfold withoutLastCarriage
  split
  · rw [String.toList_ofList]
  · rename_i ends
    refine ⟨fun member => ?_, fun member => List.dropLast_subset _ member⟩
    rcases List.eq_nil_or_concat text.toList with empty | ⟨front, last, split⟩
    · simp [empty] at member
    · rw [List.concat_eq_append] at split
      rw [split, List.mem_append, List.mem_singleton] at member
      rw [split, List.dropLast_concat]
      rcases member with early | rfl
      · exact early
      · exact absurd (by simp [split]) ends

theorem withoutLastCarriage_eq {text : String} (trailing : '\r' ∉ text.toList.dropLast) :
    withoutLastCarriage text = withoutCarriages text := by
  have free := mt (carriage_mem_withoutLastCarriage text).mp trailing
  rw [← withoutCarriages_eq_self free]
  unfold withoutLastCarriage withoutCarriages
  split
  · rename_i ends
    obtain ⟨front, split⟩ := List.getLast?_eq_some_iff.mp ends
    simp [split]
  · rfl

/-- A raw header as the parser takes it. -/
def rawItem (item : String × String) : String × String := (item.1, withoutLastCarriage item.2)

theorem rawItem_eq {item : String × String} (name : '\r' ∉ item.1.toList)
    (value : '\r' ∉ item.2.toList.dropLast) : rawItem item = withoutCarriagesItem item := by
  rw [rawItem, withoutCarriagesItem, withoutCarriages_eq_self name, withoutLastCarriage_eq value]

/-- Only such a header has one colon in a raw line. -/
def ColonFree (item : String × String) : Prop := ':' ∉ item.1.toList ∧ ':' ∉ item.2.toList

instance (item : String × String) : Decidable (ColonFree item) :=
  inferInstanceAs (Decidable (_ ∧ _))

theorem unescape_of_no_backslash {text : String} (free : '\\' ∉ text.toList) :
    unescape (Text.encode text) = Text.encode text := by
  have plain : backslash ∉ Text.encode text := fun found =>
    free ((@Text.mem_encode_iff '\\' (by decide) text).mp found)
  simpa [unescape] using unescape_append_of_plain (Text.encode text) [] plain

/-- The parser drops a raw line with a second colon. -/
theorem acceptLine_rawLine {item : String × String}
    (free : '\\' ∉ item.1.toList ∧ '\\' ∉ item.2.toList) (block : Headers × Option Int) :
    acceptLine block (chomp (writtenLine .connect item)) =
      if ColonFree item then acceptItem block (rawItem item) else block := by
  have transfers := fun text => @Text.mem_encode_iff ':' (by decide) text
  have value_iff := mem_withoutLastCarriage (show ':' ≠ '\r' by decide) item.2
  have value_free := mt (mem_withoutLastCarriage (show '\\' ≠ '\r' by decide) item.2).mp free.2
  rw [writtenLine, if_pos rfl, encode_rawLine, chomp_append_colon, chomp_encode, acceptLine]
  by_cases named : ':' ∈ item.1.toList
  · obtain ⟨front, rest, split, front_free⟩ :=
      List.eq_append_cons_of_mem ((transfers item.1).mpr named)
    have two : Text.encode item.1 ++ colon :: Text.encode (withoutLastCarriage item.2) =
        front ++ colon :: (rest ++ colon :: Text.encode (withoutLastCarriage item.2)) := by
      rw [split, List.append_assoc]
      rfl
    rw [if_neg fun whole => whole.1 named, two, parseHeader_of_two_colons front_free (by simp)]
  · have key_free := mt (transfers item.1).mp named
    by_cases valued : ':' ∈ item.2.toList
    · rw [if_neg fun whole => whole.2 valued,
        parseHeader_of_two_colons key_free ((transfers _).mpr (value_iff.mpr valued))]
    · rw [if_pos ⟨named, valued⟩, parseHeader_of_one_colon key_free
        (mt (transfers _).mp (mt value_iff.mp valued)), unescape_of_no_backslash free.1,
        unescape_of_no_backslash value_free, Text.decode_encode, Text.decode_encode]
      rfl

theorem foldl_acceptLine_rawLines (items : List (String × String))
    (free : ∀ item ∈ items, '\\' ∉ item.1.toList ∧ '\\' ∉ item.2.toList)
    (block : Headers × Option Int) :
    ((items.map (writtenLine .connect)).map chomp).foldl acceptLine block =
      ((items.filter fun item => ColonFree item).map rawItem).foldl acceptItem block := by
  induction items generalizing block with
  | nil => rfl
  | cons item items ih =>
      have later := ih fun other member => free other (List.mem_cons_of_mem _ member)
      simp only [List.map_cons, List.foldl_cons, acceptLine_rawLine (free item List.mem_cons_self),
        later]
      by_cases whole : ColonFree item
      · simp [whole]
      · simp [whole]

/-! ## The announced length -/

/-- The headers whose name no earlier header has. -/
def firstOfName : List (String × String) → List (String × String)
  | [] => []
  | item :: items => item :: (firstOfName items).filter fun later => later.1 ≠ item.1

/-- The last length that a header with a new name announces is the parser's. -/
theorem contentLength_foldl_acceptItem (items : List (String × String))
    (block : Headers × Option Int) :
    (items.foldl acceptItem block).2 =
      (((firstOfName items).filter fun item => item.1 ∉ block.1.keys).filterMap
        FrameText.announced).getLast?.or block.2 := by
  induction items generalizing block with
  | nil => simp [firstOfName]
  | cons item items ih =>
      rw [List.foldl_cons, ih, firstOfName]
      by_cases stored : item.1 ∈ block.1.keys
      · have kept : acceptItem block item = block := by
          rw [acceptItem, if_pos ((Dict.contains_iff _ _).mpr stored)]
        have same : ∀ later : String × String,
            (later.1 ∉ block.1.keys ∧ later.1 ≠ item.1) ↔ later.1 ∉ block.1.keys := by
          intro later
          refine and_iff_left_of_imp fun absent equal => absent (equal ▸ stored)
        rw [kept, List.filter_cons_of_neg (by simpa using stored), List.filter_filter]
        simp only [← Bool.decide_and, same]
      · have keys_eq : (acceptItem block item).1.keys = block.1.keys ++ [item.1] := by
          rw [acceptItem, if_neg (mt (Dict.contains_iff _ _).mp stored)]
          simp only [Dict.keys, Dict.entries_set_of_absent _ _ stored, List.map_append]
          rfl
        have length_eq : (acceptItem block item).2 = (FrameText.announced item).or block.2 := by
          rw [acceptItem, if_neg (mt (Dict.contains_iff _ _).mp stored), FrameText.announced]
          simp only
          split
          · cases Text.int item.2 <;> rfl
          · rfl
        have same : ∀ later : String × String,
            (later.1 ∉ block.1.keys ++ [item.1]) ↔
              (later.1 ∉ block.1.keys ∧ later.1 ≠ item.1) := by
          intro later
          simp
        rw [keys_eq, length_eq, List.filter_cons_of_pos (by simpa using stored),
          List.filter_filter]
        simp only [← Bool.decide_and, same]
        cases value : FrameText.announced item with
        | none => rw [List.filterMap_cons_none value, Option.none_or]
        | some length =>
            rw [List.filterMap_cons_some value, List.getLast?_cons, Option.some_or]
            cases List.getLast? _ <;> rfl

/-! ## The condition -/

/-- No header text has a NUL, and those of a `ConnectFrame` have no newline and no backslash. -/
structure Frame.Undelimited (frame : Frame) : Prop where
  no_null : ∀ item ∈ frame.headers.entries, '\x00' ∉ item.1.toList ∧ '\x00' ∉ item.2.toList
  single : frame.SingleLined
  no_backslash : frame.type = .connect → ∀ item ∈ frame.headers.entries,
    '\\' ∉ item.1.toList ∧ '\\' ∉ item.2.toList

/-- The headers of a frame in the order of its dump, but for those of a `ConnectFrame` that have a
colon. -/
def Frame.carried (frame : Frame) : List (String × String) :=
  (sortedHeaders frame.headers).filter fun item => frame.type ≠ .connect ∨ ColonFree item

/-- A carriage return in a carried header of a `ConnectFrame` is the last character of its value. -/
def Frame.TrailsCarriages (frame : Frame) : Prop :=
  frame.type = .connect → ∀ item ∈ frame.carried,
    '\r' ∉ item.1.toList ∧ '\r' ∉ item.2.toList.dropLast

/-- The last length that the carried headers announce without their carriage returns; of headers
with one name only the first counts. -/
def Frame.announcedLength (frame : Frame) : Option Int :=
  ((firstOfName (frame.carried.map withoutCarriagesItem)).filterMap FrameText.announced).getLast?

/-- The announced length is that of the body, or none is announced and the body has no NUL. -/
def Frame.Agrees (frame : Frame) : Prop :=
  (frame.announcedLength = none ∧ null ∉ frame.body) ∨
    frame.announcedLength = some (frame.body.length : Int)

namespace Frame

variable {frame : Frame}

theorem announcedLength_eq (frame : Frame) :
    ((frame.carried.map withoutCarriagesItem).foldl acceptItem (Dict.empty, none)).2 =
      frame.announcedLength := by
  simp [contentLength_foldl_acceptItem, announcedLength, Dict.keys, Dict.empty]

theorem carried_of_escaped (escaped : frame.type ≠ .connect) :
    frame.carried = sortedHeaders frame.headers := by
  simp [carried, escaped]

theorem carried_of_raw (raw : frame.type = .connect) :
    frame.carried = (sortedHeaders frame.headers).filter fun item => ColonFree item := by
  simp [carried, raw]

/-- What the parser has stored after the raw lines. -/
theorem foldlM_writtenLines_of_raw (raw : frame.type = .connect)
    (undelimited : frame.Undelimited) :
    (writtenLines frame).foldlM BlockReading.next (.headers frame.type (Dict.empty, none)) =
      some (.headers frame.type
        ((frame.carried.map rawItem).foldl acceptItem (Dict.empty, none))) := by
  have free : ∀ item ∈ sortedHeaders frame.headers,
      '\\' ∉ item.1.toList ∧ '\\' ∉ item.2.toList := fun item member =>
    undelimited.no_backslash raw item (mem_sortedHeaders.mp member)
  rw [carried_of_raw raw, ← foldl_acceptLine_rawLines _ free, writtenLines, raw]
  apply BlockReading.foldlM_next_of_no_null
  intro line member
  obtain ⟨item, item_mem, rfl⟩ := List.mem_map.mp member
  obtain ⟨name, value⟩ := undelimited.no_null item (mem_sortedHeaders.mp item_mem)
  have transfers := fun text => @Text.mem_encode_iff '\x00' (by decide) text
  rw [writtenLine, if_pos rfl, encode_rawLine, List.mem_append, List.mem_cons, not_or, not_or]
  exact ⟨mt (transfers _).mp name, by decide, mt (transfers _).mp value⟩

/-- Carried headers keep their names, so all of them are stored. -/
theorem entries_of_raw (frame : Frame) :
    ((frame.carried.map rawItem).foldl acceptItem (Dict.empty, none)).1.entries =
      frame.carried.map rawItem := by
  rw [entries_foldl_acceptItem]
  · rfl
  · rw [List.map_map]
    exact (nodup_sortedHeaders frame.headers).sublist (List.filter_sublist.map Prod.fst)
  · simp [Dict.keys, Dict.empty]

theorem mem_of_mem_carried {item : String × String} (member : item ∈ frame.carried) :
    item ∈ frame.headers.entries :=
  mem_sortedHeaders.mp (List.mem_filter.mp member).1

/-- The stored headers are the frame's own exactly if the carriage returns stand where the parser
takes them for part of a line's end. -/
theorem own_iff_trailsCarriages (raw : frame.type = .connect) :
    (∀ item ∈ frame.carried.map rawItem, ∃ original ∈ frame.headers.entries,
        item = withoutCarriagesItem original) ↔ frame.TrailsCarriages := by
  rw [List.forall_mem_map]
  constructor
  · intro own _ item member
    obtain ⟨original, -, same⟩ := own item member
    obtain ⟨name, value⟩ := Prod.mk.inj same
    have removed : ∀ text : String, '\r' ∉ (withoutCarriages text).toList := by
      simp [withoutCarriages]
    refine ⟨name ▸ removed original.1, fun found => ?_⟩
    rw [← carriage_mem_withoutLastCarriage, value] at found
    exact removed original.2 found
  · intro trails item member
    obtain ⟨name, value⟩ := trails raw item member
    exact ⟨item, mem_of_mem_carried member, rawItem_eq name value⟩

theorem readsBack_iff_of_raw (raw : frame.type = .connect) (undelimited : frame.Undelimited) :
    frame.ReadsBack ↔ frame.TrailsCarriages ∧ frame.Agrees := by
  have read := foldlM_writtenLines_of_raw raw undelimited
  have length_eq : frame.TrailsCarriages →
      ((frame.carried.map rawItem).foldl acceptItem (Dict.empty, none)).2 =
        frame.announcedLength := by
    intro trails
    have items_eq : frame.carried.map rawItem = frame.carried.map withoutCarriagesItem := by
      refine List.map_congr_left fun item member => ?_
      exact rawItem_eq (trails raw item member).1 (trails raw item member).2
    rw [items_eq, announcedLength_eq]
  constructor
  · rintro ⟨block, other, framed, own⟩
    rw [read] at other
    obtain rfl := (BlockReading.headers.inj (Option.some.inj other)).2
    rw [entries_of_raw] at own
    have trails := (own_iff_trailsCarriages raw).mp own
    rw [length_eq trails] at framed
    exact ⟨trails, framed⟩
  · rintro ⟨trails, agrees⟩
    rw [Agrees, ← length_eq trails] at agrees
    refine ⟨_, read, agrees, ?_⟩
    rw [entries_of_raw]
    exact (own_iff_trailsCarriages raw).mpr trails

/-- A frame whose texts hold no delimiter that its lines leave open is read back without injection
exactly if its carriage returns and its announced length allow it. -/
theorem noInjection_iff_agrees (frame : Frame) (undelimited : frame.Undelimited) :
    frame.NoInjection ↔ frame.TrailsCarriages ∧ frame.Agrees := by
  rw [frame.noInjection_iff_readsBack undelimited.single]
  by_cases raw : frame.type = .connect
  · exact readsBack_iff_of_raw raw undelimited
  · have trails : frame.TrailsCarriages := fun connect => absurd connect raw
    have length_eq := frame.announcedLength_eq
    rw [carried_of_escaped raw] at length_eq
    rw [readsBack_iff_of_escaped raw undelimited.no_null, acceptedBlock, length_eq]
    exact (and_iff_right trails).symm

end Frame

/-- A `ConnectFrame` with a colon in its passcode. -/
def plainConnect : Frame :=
  .bodyless .connect (Dict.empty.update [("login", "guest"), ("passcode", "a:b")])

theorem plainConnect_noInjection : plainConnect.Undelimited ∧ plainConnect.NoInjection := by
  have undelimited : plainConnect.Undelimited :=
    ⟨by decide +kernel, fun _ => by decide +kernel, fun _ => by decide +kernel⟩
  refine ⟨undelimited, (plainConnect.noInjection_iff_agrees undelimited).mpr ⟨?_, ?_⟩⟩
  · intro _
    decide +kernel
  · exact .inl ⟨by decide +kernel, by decide +kernel⟩

/-- A NUL does no harm if the rest of its line is the frame's own command. -/
example : (Frame.bodyless .disconnect
    (Dict.empty.update [("receipt", "x\x00DISCONNECT")])).NoInjection := by
  refine ⟨idle (some null), .bodyless .disconnect Dict.empty, by decide +kernel, rfl, rfl, ?_⟩
  decide

/-- No content length and no NUL in the body, or the length of the body as content length. -/
def Frame.Framed (frame : Frame) : Prop :=
  (frame.headers.get? "content-length" = none ∧ null ∉ frame.body) ∨
    ∃ text, frame.headers.get? "content-length" = some text ∧
      Text.int text = some (frame.body.length : Int)

/-- A login with a newline adds a header of the sender's choice. -/
def forgedConnect : Frame :=
  .bodyless .connect (Dict.empty.update [("login", "guest\nadmin:yes")])

theorem forgedConnect_parsed :
    ({} : FrameParser).parseFramesFromChunk (dumpFrame forgedConnect) =
      .ok (idle (some null), [.frame (.bodyless .connect
        (Dict.empty.update [("login", "guest"), ("admin", "yes")]))]) := by
  decide +kernel

theorem not_forall_noInjection : ¬ ∀ frame : Frame, frame.Framed → frame.NoInjection := by
  intro always
  have framed : forgedConnect.Framed := .inl ⟨by decide +kernel, by decide +kernel⟩
  obtain ⟨last, read, parsed, -, -, own⟩ := always forgedConnect framed
  rw [forgedConnect_parsed] at parsed
  simp only [Except.ok.injEq, Prod.mk.injEq, List.cons.injEq, AnyFrame.frame.injEq] at parsed
  obtain ⟨-, rfl, -⟩ := parsed
  obtain ⟨original, member, forged⟩ := own ("admin", "yes") (by decide +kernel)
  have impossible : ∀ original ∈ forgedConnect.headers.entries,
      ("admin", "yes") ≠ withoutCarriagesItem original := by
    decide +kernel
  exact impossible original member forged

end Stompman
