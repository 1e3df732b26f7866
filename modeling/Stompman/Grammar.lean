import Stompman.RoundTrip

/-!
# The frame grammar

A frame is written as a command line, header lines, a blank line, a body and NUL, and every line may
end in LF or in CRLF.  One parser reads every such text as exactly one frame, whatever the header
lines hold: malformed lines are skipped, the first of several headers of one name wins, and a body
is as long as its content length says or goes up to NUL.
-/

namespace Stompman

open Foundation

/-- The end of a line. -/
inductive LineEnd
  | lf
  | crlf
  deriving DecidableEq

/-- What stands between a line and its newline. -/
def LineEnd.carriages : LineEnd → Bytes
  | .lf => []
  | .crlf => [carriage]

/-- The bytes that end a line. -/
def LineEnd.bytes (ending : LineEnd) : Bytes := ending.carriages ++ [newline]

/-- A header line of the grammar, with its end. -/
structure GrammarLine where
  text : Bytes
  ending : LineEnd
  nonempty : text ≠ []
  no_newline : newline ∉ text
  no_null : null ∉ text
  ends_plain : text.getLast? ≠ some carriage

/-- A header block: the first header of a name wins. -/
def firstHeaders (items : List (String × String)) : Headers :=
  items.foldl
    (fun headers item => if headers.contains item.1 then headers else headers.set item.1 item.2)
    Dict.empty

/-- The header map of some lines; lines that `parse_header` rejects are skipped. -/
def headersOf (lines : List GrammarLine) : Headers :=
  firstHeaders (lines.filterMap fun line => parseHeader line.text)

/-- The text of a frame. -/
def grammarText (command : Bytes) (commandEnd : LineEnd) (lines : List GrammarLine)
    (blankEnd : LineEnd) (rest : Bytes) : Bytes :=
  command ++ commandEnd.bytes ++ (lines.flatMap fun line => line.text ++ line.ending.bytes) ++
    blankEnd.bytes ++ rest ++ [null]

namespace FrameParser

theorem chomp_append_carriages {text : Bytes} (plain : text.getLast? ≠ some carriage)
    (ending : LineEnd) : chomp (text ++ ending.carriages) = text := by
  cases ending with
  | lf => simp [chomp, LineEnd.carriages, plain]
  | crlf => simp [chomp, LineEnd.carriages]

/-! ## The header block -/

theorem foldl_acceptLine_eq (lines : List Bytes) (block : Headers × Option Int) :
    lines.foldl acceptLine block = (lines.filterMap parseHeader).foldl acceptItem block := by
  induction lines generalizing block with
  | nil => rfl
  | cons line lines ih =>
      rw [List.foldl_cons, ih]
      cases parsed : parseHeader line with
      | none => simp [acceptLine, parsed]
      | some item => simp [acceptLine, parsed]

theorem headers_foldl_acceptItem (items : List (String × String)) (block : Headers × Option Int) :
    (items.foldl acceptItem block).1 =
      items.foldl
        (fun headers item =>
          if headers.contains item.1 then headers else headers.set item.1 item.2) block.1 := by
  induction items generalizing block with
  | nil => rfl
  | cons item items ih =>
      rw [List.foldl_cons, List.foldl_cons, ih]
      congr 1
      unfold acceptItem
      split <;> rfl

/-- The content length of a header block comes from one of its headers, and there is none only if
no header gives one. -/
structure Measured (block : Headers × Option Int) : Prop where
  some_of_length : ∀ length, block.2 = some length → ∃ key value,
    block.1.get? key = some value ∧ isContentLength key = true ∧ Text.int value = some length
  none_of_length : block.2 = none → ∀ key value, block.1.get? key = some value →
    isContentLength key = true → Text.int value = none

theorem Measured.acceptItem {block : Headers × Option Int} (measured : Measured block)
    (item : String × String) : Measured (acceptItem block item) := by
  unfold FrameParser.acceptItem
  split
  · exact measured
  · rename_i missing
    have absent : block.1.get? item.1 = none := by
      simpa [Dict.contains] using missing
    have keeps : ∀ key value, block.1.get? key = some value →
        (block.1.set item.1 item.2).get? key = some value := by
      intro key value found
      have differs : key ≠ item.1 := by
        rintro rfl
        rw [absent] at found
        contradiction
      rw [Dict.get?_set, if_neg differs]
      exact found
    have silent : ∀ {value : Option Int}, value = block.2 →
        (isContentLength item.1 = true → Text.int item.2 = none) →
        Measured (block.1.set item.1 item.2, value) := by
      rintro _ rfl unread
      refine ⟨?_, ?_⟩
      · intro length announced
        obtain ⟨key, value, found, named, valued⟩ := measured.some_of_length length announced
        exact ⟨key, value, keeps key value found, named, valued⟩
      · intro unannounced key value found named
        rw [Dict.get?_set] at found
        split at found
        · rename_i same
          obtain rfl := same
          obtain rfl := Option.some.inj found
          exact unread named
        · exact measured.none_of_length unannounced key value found named
    by_cases named : isContentLength item.1 = true
    · rw [if_pos named]
      cases valued : Text.int item.2 with
      | none => exact silent rfl fun _ => valued
      | some length =>
          refine ⟨?_, by simp⟩
          intro other announced
          obtain rfl : length = other := by simpa using announced
          exact ⟨item.1, item.2, by rw [Dict.get?_set, if_pos rfl], named, valued⟩
    · rw [if_neg named]
      exact silent rfl fun contrary => absurd contrary named

theorem measured_foldl (items : List (String × String)) {block : Headers × Option Int}
    (measured : Measured block) : Measured (items.foldl FrameParser.acceptItem block) := by
  induction items generalizing block with
  | nil => exact measured
  | cons item items ih => exact ih (measured.acceptItem item)

theorem measured_empty : Measured (Dict.empty, none) :=
  ⟨by simp, by simp⟩

/-! ## Frames -/

/-- The reading of the lines of a frame. -/
theorem idle_yields_lines (type : FrameType) (previousByte : Option UInt8)
    (commandEnd blankEnd : LineEnd) (lines : List GrammarLine) :
    ∃ length, Measured (headersOf lines, length) ∧
      (idle previousByte).Yields
        (framesToCommands type ++ commandEnd.bytes ++
          (lines.flatMap fun line => line.text ++ line.ending.bytes) ++ blankEnd.bytes) []
        (inBody (framesToCommands type) (headersOf lines, length) [] (some newline)) := by
  obtain ⟨no_newline, no_null, whole_command, known⟩ := clean_framesToCommands type
  have commanded := framesToCommands_ne_nil type
  have carried : ∀ (text : Bytes) (ending : LineEnd), newline ∉ text → null ∉ text →
      newline ∉ text ++ ending.carriages ∧ null ∉ text ++ ending.carriages := by
    intro text ending clean_newline clean_null
    cases ending with
    | lf => simpa [LineEnd.carriages] using ⟨clean_newline, clean_null⟩
    | crlf =>
        have newline_ne : newline ≠ carriage := by decide
        have null_ne : null ≠ carriage := by decide
        simp [LineEnd.carriages, clean_newline, clean_null, newline_ne, null_ne]
  have command_plain : (framesToCommands type).getLast? ≠ some carriage := by
    cases type <;> decide
  have command_clean := carried _ commandEnd no_newline no_null
  have command_read := idle_yields_line previousByte
    (List.append_ne_nil_of_left_ne_nil commanded _) command_clean.1 command_clean.2
  rw [chomp_append_carriages command_plain, if_pos known] at command_read
  obtain ⟨lastByte, last_ne, lines_read⟩ := atHeaders_yields_lines commanded
    (Dict.empty, none) newline_ne_carriage
    (lines.map fun line => line.text ++ line.ending.carriages)
    (by
      intro raw member
      obtain ⟨line, -, rfl⟩ := List.mem_map.mp member
      have clean := carried line.text line.ending line.no_newline line.no_null
      refine ⟨clean.1, clean.2, ?_⟩
      rw [chomp_append_carriages line.ends_plain]
      exact line.nonempty)
  have texts : (lines.map fun line => line.text ++ line.ending.carriages).map chomp =
      lines.map GrammarLine.text := by
    rw [List.map_map]
    apply List.map_congr_left
    intro line _
    exact chomp_append_carriages line.ends_plain line.ending
  have block_eq : (lines.map GrammarLine.text).foldl acceptLine (Dict.empty, none) =
      (lines.filterMap fun line => parseHeader line.text).foldl FrameParser.acceptItem
        (Dict.empty, none) := by
    rw [foldl_acceptLine_eq, List.filterMap_map]
    rfl
  rw [texts, block_eq] at lines_read
  have measured := measured_foldl (lines.filterMap fun line => parseHeader line.text)
    measured_empty
  have headers_eq : ((lines.filterMap fun line => parseHeader line.text).foldl
      FrameParser.acceptItem (Dict.empty, none)).1 = headersOf lines :=
    headers_foldl_acceptItem _ _
  generalize (lines.filterMap fun line => parseHeader line.text).foldl FrameParser.acceptItem
    (Dict.empty, none) = block at measured headers_eq lines_read
  obtain ⟨headers, length⟩ := block
  obtain rfl : headers = headersOf lines := headers_eq
  refine ⟨length, measured, ?_⟩
  have blank_read : (atHeaders (framesToCommands type) (headersOf lines, length) lastByte).Yields
      blankEnd.bytes []
      (inBody (framesToCommands type) (headersOf lines, length) [] (some newline)) := by
    have clean := carried [] blankEnd (by simp) (by simp)
    have read := atHeaders_yields_line commanded (headersOf lines, length) last_ne clean.1 clean.2
    rwa [chomp_append_carriages (by simp) blankEnd, if_pos rfl, List.nil_append] at read
  have whole := (command_read.append lines_read).append blank_read
  simpa [LineEnd.bytes, List.flatMap_map] using whole

/-- Once a body has its announced length, everything up to NUL is dropped. -/
theorem inBody_yields_counted_null (type : FrameType) (headers : Headers)
    (previousByte : Option UInt8) (body surplus : Bytes) (no_null : null ∉ surplus) :
    (inBody (framesToCommands type) (headers, some (body.length : Int)) [] previousByte).Yields
      (body ++ surplus ++ [null]) [.frame (frameOfParts type headers body)] (idle (some null)) := by
  obtain ⟨middle, body_read⟩ := inBody_yields_counted (framesToCommands_ne_nil type) headers []
    (body.length : Int) previousByte body (by simp; omega)
  obtain ⟨lastByte, surplus_read⟩ :=
    inBody_yields_surplus (framesToCommands type) headers body middle surplus no_null
  have null_read := inBody_yields_null type (headers, some (body.length : Int)) body lastByte
    (.inr rfl)
  exact (body_read.append surplus_read).append null_read

/-- A new parser makes one frame of a text, of this type and with these headers and this body, and
is as new afterwards up to the previous byte. -/
def ReadsFrame (text : Bytes) (type : FrameType) (headers : Headers) (body : Bytes) : Prop :=
  ∃ frame : Frame,
    ({} : FrameParser).parseFramesFromChunk text =
      .ok ({ previousByte := some null }, [.frame frame]) ∧
    frame.type = type ∧ frame.headers = headers ∧
    frame.body = if type.hasBody then body else []

theorem readsFrame_of_yields {text : Bytes} {type : FrameType} {headers : Headers} {body : Bytes}
    (read : (idle none).Yields text [.frame (frameOfParts type headers body)] (idle (some null))) :
    ReadsFrame text type headers body := by
  refine ⟨_, read, ?_⟩
  unfold frameOfParts
  split <;> exact ⟨rfl, rfl, rfl⟩

/-- The parser reads the frame grammar. -/
theorem readsFrame_grammarText {command : Bytes} {type : FrameType}
    (known : commandsToFrames.lookup command = some type) (commandEnd : LineEnd)
    (lines : List GrammarLine) (blankEnd : LineEnd)
    (single : ∀ left ∈ (headersOf lines).keys, ∀ right ∈ (headersOf lines).keys,
      isContentLength left = true → isContentLength right = true → left = right) :
    ((∀ key value, (headersOf lines).get? key = some value → isContentLength key = true →
        Text.int value = none) →
      ∀ body : Bytes, null ∉ body →
        ReadsFrame (grammarText command commandEnd lines blankEnd body) type (headersOf lines)
          body) ∧
    ∀ key value length, (headersOf lines).get? key = some value → isContentLength key = true →
      Text.int value = some length → 0 ≤ length →
        ∀ body surplus : Bytes, (body.length : Int) = length → null ∉ surplus →
          ReadsFrame (grammarText command commandEnd lines blankEnd (body ++ surplus)) type
            (headersOf lines) body := by
  obtain rfl := lookup_eq_some known
  obtain ⟨announced, measured, lines_read⟩ := idle_yields_lines type none commandEnd blankEnd lines
  constructor
  · intro unread body no_null
    have unannounced : announced = none := by
      cases announced with
      | none => rfl
      | some length =>
          obtain ⟨key, value, found, named, valued⟩ := measured.some_of_length length rfl
          rw [unread key value found named] at valued
          contradiction
    subst unannounced
    have body_read := inBody_yields_body type (headersOf lines, none) (some newline) body
      (.inl ⟨rfl, no_null⟩)
    have whole := lines_read.append body_read
    rw [← List.append_assoc] at whole
    exact readsFrame_of_yields whole
  · intro key value length found named valued _ body surplus sized no_null
    have announced_eq : announced = some (body.length : Int) := by
      cases announced with
      | none =>
          rw [measured.none_of_length rfl key value found named] at valued
          contradiction
      | some other =>
          obtain ⟨otherKey, otherValue, otherFound, otherNamed, otherValued⟩ :=
            measured.some_of_length other rfl
          have present : ∀ {name text}, (headersOf lines).get? name = some text →
              name ∈ (headersOf lines).keys := by
            intro name text held
            rw [← Dict.get?_isSome_iff, held]
            rfl
          obtain rfl := single otherKey (present otherFound) key (present found) otherNamed named
          obtain rfl := Option.some.inj (otherFound.symm.trans found)
          rw [sized]
          exact otherValued.symm.trans valued
    subst announced_eq
    have body_read := inBody_yields_counted_null type (headersOf lines) (some newline) body surplus
      no_null
    have whole := lines_read.append body_read
    rw [← List.append_assoc] at whole
    exact readsFrame_of_yields whole

/-- Header lines with a second header of one name, a malformed line and a content length. -/
def sampleLines : List GrammarLine :=
  [⟨Text.encode "a:b", .crlf, by decide, by decide, by decide, by decide⟩,
    ⟨Text.encode "content-length:2", .lf, by decide, by decide, by decide, by decide⟩,
    ⟨Text.encode "broken", .crlf, by decide, by decide, by decide, by decide⟩,
    ⟨Text.encode "a:c", .lf, by decide, by decide, by decide, by decide⟩]

/-- A body of two bytes, one of them NUL, with a surplus byte before the final NUL. -/
theorem readsFrame_sampleLines :
    commandsToFrames.lookup (Text.encode "SEND") = some .send ∧
      ReadsFrame (grammarText (Text.encode "SEND") .crlf sampleLines .lf ([null, 1] ++ [2])) .send
        (Dict.empty.update [("a", "b"), ("content-length", "2")]) [null, 1] := by
  have known : commandsToFrames.lookup (Text.encode "SEND") = some .send := by decide +kernel
  have headers_eq : headersOf sampleLines =
      Dict.empty.update [("a", "b"), ("content-length", "2")] := by decide +kernel
  have single : ∀ left ∈ (headersOf sampleLines).keys, ∀ right ∈ (headersOf sampleLines).keys,
      isContentLength left = true → isContentLength right = true → left = right := by
    rw [headers_eq]
    decide +kernel
  refine ⟨known, ?_⟩
  have read := (readsFrame_grammarText known .crlf sampleLines .lf single).2 "content-length" "2" 2
    (by rw [headers_eq]; decide +kernel) (by decide +kernel) (by decide +kernel) (by decide)
    [null, 1] [2] rfl (by decide)
  rwa [headers_eq] at read

end FrameParser

end Stompman
