import Stompman.Grammar
import Stompman.Recovery

/-!
# The text of a yielded frame

Every frame that a parser yields stands in the stream as a command line, header lines, a blank line,
a content and NUL, after bytes that leave the parser between frames.  The header map keeps the first
line of a name, while the announced length is that of the last accepted spelling of
`content-length`: the two agree exactly if the first and the last announced length do.
-/

namespace Stompman

open Foundation

/-- The lines and the content of a frame as they stand in a stream; a line keeps its carriage
return. -/
structure FrameText where
  command : Bytes
  lines : List Bytes
  blank : Bytes
  content : Bytes

namespace FrameText

open FrameParser

/-- Header lines with their newlines. -/
def headerBytes (lines : List Bytes) : Bytes := lines.flatMap fun line => line ++ [newline]

/-- The bytes of a frame. -/
def bytes (text : FrameText) : Bytes :=
  text.command ++ [newline] ++ headerBytes text.lines ++ (text.blank ++ [newline]) ++
    (text.content ++ [null])

/-- A known command, header lines and a blank line. -/
structure WellFormed (text : FrameText) : Prop where
  known : isCommand (chomp text.command) = true
  command_clean : newline ∉ text.command ∧ null ∉ text.command
  lines_clean : ∀ line ∈ text.lines, newline ∉ line ∧ null ∉ line ∧ chomp line ≠ []
  blank_clean : newline ∉ text.blank ∧ null ∉ text.blank ∧ chomp text.blank = []

/-- One more header line: a line that is no header or repeats a name is not accepted. -/
def acceptHeader (accepted : List (String × String)) (line : Bytes) : List (String × String) :=
  match parseHeader (chomp line) with
  | none => accepted
  | some item => if item.1 ∈ accepted.map Prod.fst then accepted else accepted ++ [item]

/-- The headers of the accepted lines, in the order of the lines. -/
def accepted (text : FrameText) : List (String × String) := text.lines.foldl acceptHeader []

/-- The length that a header announces. -/
def announced (item : String × String) : Option Int :=
  if isContentLength item.1 then Text.int item.2 else none

/-- The lengths that the accepted lines announce, in the order of the lines. -/
def lengths (text : FrameText) : List Int := text.accepted.filterMap announced

/-- The body of a frame is as long as the first of them says. -/
def FirstLengthWins (text : FrameText) (frame : Frame) : Prop :=
  frame.type.hasBody = true → ∀ length, text.lengths.head? = some length →
    (frame.body.length : Int) = length

/-- What the parser has stored after the header lines. -/
def block (text : FrameText) : Headers × Option Int :=
  (text.lines.map chomp).foldl acceptLine (Dict.empty, none)

/-- A text in a stream whose reading is the frame with this index. -/
structure Located (stream : Bytes) (frames : List AnyFrame) (index : Nat) (frame : Frame)
    (front : Bytes) (text : FrameText) : Prop where
  wellFormed : text.WellFormed
  placed : ∃ rest, stream = front ++ text.bytes ++ rest
  reads : ∃ lastByte, ({} : FrameParser).Yields front (frames.take index) (idle lastByte) ∧
    (idle lastByte).Yields text.bytes [.frame frame] (idle (some null))

/-! ## Accepted lines and the parser's header map -/

/-- The stored headers and length mirror the accepted headers. -/
structure Mirrors (accepted : List (String × String)) (block : Headers × Option Int) : Prop where
  headers : block.1.entries = accepted
  length : block.2 = (accepted.filterMap announced).getLast?

theorem Mirrors.acceptLine {accepted : List (String × String)} {block : Headers × Option Int}
    (mirrors : Mirrors accepted block) (line : Bytes) :
    Mirrors (acceptHeader accepted line) (acceptLine block (chomp line)) := by
  unfold acceptHeader FrameParser.acceptLine
  cases parseHeader (chomp line) with
  | none => exact mirrors
  | some item =>
      have stored : block.1.contains item.1 = true ↔ item.1 ∈ accepted.map Prod.fst := by
        rw [Dict.contains_iff, Dict.keys, mirrors.headers]
      simp only [acceptItem, stored]
      split
      · exact mirrors
      · rename_i absent
        refine ⟨?_, ?_⟩
        · rw [Dict.entries_set_of_absent, mirrors.headers]
          simpa [Dict.keys, mirrors.headers] using absent
        · have last : ((accepted ++ [item]).filterMap announced).getLast? =
              (announced item).or (accepted.filterMap announced).getLast? := by
            rw [List.filterMap_append, List.getLast?_append]
            congr 1
            cases value : announced item with
            | none => rw [List.filterMap_cons_none value]; rfl
            | some length => rw [List.filterMap_cons_some value]; rfl
          rw [last, mirrors.length, announced]
          split
          · cases Text.int item.2 <;> rfl
          · rfl

theorem mirrors_foldl (lines : List Bytes) {accepted : List (String × String)}
    {block : Headers × Option Int} (mirrors : Mirrors accepted block) :
    Mirrors (lines.foldl acceptHeader accepted)
      ((lines.map chomp).foldl FrameParser.acceptLine block) := by
  induction lines generalizing accepted block with
  | nil => exact mirrors
  | cons line lines ih => exact ih (mirrors.acceptLine line)

/-- The parser announces the last accepted length. -/
theorem length_block (text : FrameText) : text.block.2 = text.lengths.getLast? := by
  have empty : Mirrors [] (Dict.empty, none) := ⟨rfl, rfl⟩
  exact (mirrors_foldl text.lines empty).length

end FrameText

namespace FrameParser

/-! ## Splitting a stream -/

/-- The first newline or NUL of a stream. -/
theorem cut (stream : Bytes) :
    (newline ∉ stream ∧ null ∉ stream) ∨
      ∃ text rest, newline ∉ text ∧ null ∉ text ∧
        (stream = text ++ newline :: rest ∨ stream = text ++ null :: rest) := by
  induction stream with
  | nil => exact .inl ⟨by simp, by simp⟩
  | cons byte stream ih =>
      by_cases is_newline : byte = newline
      · exact .inr ⟨[], stream, by simp, by simp, .inl (by simp [is_newline])⟩
      by_cases is_null : byte = null
      · exact .inr ⟨[], stream, by simp, by simp, .inr (by simp [is_null])⟩
      rcases ih with ⟨no_newline, no_null⟩ | ⟨text, rest, no_newline, no_null, ends⟩
      · exact .inl ⟨by simp [Ne.symm is_newline, no_newline], by simp [Ne.symm is_null, no_null]⟩
      · refine .inr ⟨byte :: text, rest, by simp [Ne.symm is_newline, no_newline],
          by simp [Ne.symm is_null, no_null], ?_⟩
        rcases ends with rfl | rfl
        · exact .inl rfl
        · exact .inr rfl

/-- A byte of a body that does not end it. -/
theorem inBody_parseByte {command : Bytes} (commanded : command ≠ [])
    (block : Headers × Option Int) (body : Bytes) (previousByte : Option UInt8) {byte : UInt8}
    (within : ¬ (byte = null ∧ (block.2 = none ∨ block.2 = some (body.length : Int)))) :
    ∃ next, (inBody command block body previousByte).parseByte byte =
      .ok (inBody command block next (some byte), []) := by
  have running : (inBody command block body previousByte).hasCommand = true := by
    cases command with
    | nil => exact absurd rfl commanded
    | cons => rfl
  by_cases is_null : byte = null
  · have unfilled : block.2 ≠ none ∧ block.2 ≠ some (body.length : Int) :=
      not_or.mp fun complete => within ⟨is_null, complete⟩
    refine ⟨body ++ [null], ?_⟩
    rw [parseByte, if_pos is_null, handleNullByte, running, is_null]
    simp [inBody, unfilled, bind, Except.bind]
  · rw [parseByte, if_neg is_null]
    by_cases filled : block.2 = some (body.length : Int)
    · exact ⟨body, by simp [inBody, handleBodyByte, filled, bind, Except.bind]⟩
    · exact ⟨body ++ [byte], by simp [inBody, handleBodyByte, filled, bind, Except.bind]⟩

/-- A body is unfinished at the end of the stream or ends with a NUL of it. -/
theorem inBody_splits (type : FrameType) (block : Headers × Option Int) (body : Bytes)
    (previousByte : Option UInt8) (stream : Bytes) :
    (∃ last, (inBody (framesToCommands type) block body previousByte).Yields stream [] last) ∨
      ∃ content rest whole, stream = content ++ null :: rest ∧
        (inBody (framesToCommands type) block body previousByte).Yields (content ++ [null])
          [.frame (frameOfParts type block.1 whole)] (idle (some null)) ∧
        (block.2 = none ∨ block.2 = some (whole.length : Int)) := by
  induction stream generalizing body previousByte with
  | nil => exact .inl ⟨_, Yields.nil _⟩
  | cons byte stream ih =>
      by_cases ends : byte = null ∧ (block.2 = none ∨ block.2 = some (body.length : Int))
      · obtain ⟨rfl, complete⟩ := ends
        exact .inr ⟨[], stream, body, rfl, inBody_yields_null type block body previousByte complete,
          complete⟩
      · obtain ⟨next, head⟩ := inBody_parseByte (framesToCommands_ne_nil type) block body
          previousByte ends
        rcases ih next (some byte) with ⟨last, tail⟩ | ⟨content, rest, whole, rfl, tail, complete⟩
        · exact .inl ⟨last, yields_cons head tail⟩
        · exact .inr ⟨byte :: content, rest, whole, rfl, yields_cons head tail, complete⟩

/-- Text up to a NUL before the blank line is dropped. -/
theorem yields_text_null {parser : FrameParser} (reading : parser.headersProcessed = false)
    {text : Bytes} (no_newline : newline ∉ text) (no_null : null ∉ text) :
    parser.Yields (text ++ [null]) [] (idle (some null)) :=
  (yields_text reading text no_newline no_null).append (yields_null_of_reading reading)

/-- The lines after a command are unfinished at the end of the stream, are dropped by a NUL, or end
with a blank line. -/
theorem atHeaders_splits {command : Bytes} (commanded : command ≠ [])
    (block : Headers × Option Int) {previousByte : Option UInt8}
    (previous : previousByte ≠ some carriage) (stream : Bytes) :
    (∃ last, (atHeaders command block previousByte).Yields stream [] last) ∨
      (∃ front rest, stream = front ++ null :: rest ∧
        (atHeaders command block previousByte).Yields (front ++ [null]) [] (idle (some null))) ∨
      ∃ lines blank rest,
        stream = FrameText.headerBytes lines ++ (blank ++ [newline]) ++ rest ∧
          (∀ line ∈ lines, newline ∉ line ∧ null ∉ line ∧ chomp line ≠ []) ∧
          newline ∉ blank ∧ null ∉ blank ∧ chomp blank = [] := by
  induction total : stream.length using Nat.strong_induction_on generalizing stream block
    previousByte with
  | _ size ih =>
    rcases cut stream with
      ⟨no_newline, no_null⟩ | ⟨text, rest, no_newline, no_null, rfl | rfl⟩
    · exact .inl ⟨_, yields_text rfl stream no_newline no_null⟩
    · by_cases blank : chomp text = []
      · exact .inr (.inr ⟨[], text, rest, by simp [FrameText.headerBytes], by simp, no_newline,
          no_null, blank⟩)
      · -- One header line, then the rest of the block.
        have head := atHeaders_yields_line commanded block previous no_newline no_null
        rw [if_neg blank] at head
        have shorter : rest.length < size := by
          rw [← total, List.length_append, List.length_cons]
          omega
        rcases ih rest.length shorter (acceptLine block (chomp text)) newline_ne_carriage rest rfl
          with ⟨last, tail⟩ | ⟨front, rest, rfl, tail⟩ | ⟨lines, ending, rest, rfl, clean, ended⟩
        · refine .inl ⟨last, ?_⟩
          simpa using head.append tail
        · refine .inr (.inl ⟨text ++ newline :: front, rest, by simp, ?_⟩)
          simpa using head.append tail
        · refine .inr (.inr ⟨text :: lines, ending, rest, by simp [FrameText.headerBytes], ?_,
            ended⟩)
          exact List.forall_mem_cons.mpr ⟨⟨no_newline, no_null, blank⟩, clean⟩
    · exact .inr (.inl ⟨text, rest, rfl, yields_text_null rfl no_newline no_null⟩)

end FrameParser

namespace FrameText

open FrameParser

variable {text : FrameText} {frame : Frame}

/-- The bytes of a frame before its content. -/
def headBytes (text : FrameText) : Bytes :=
  text.command ++ [newline] ++ headerBytes text.lines ++ (text.blank ++ [newline])

theorem WellFormed.exists_type (formed : text.WellFormed) :
    ∃ type, chomp text.command = framesToCommands type := by
  obtain ⟨type, found⟩ := Option.isSome_iff_exists.mp formed.known
  exact ⟨type, lookup_eq_some found⟩

/-- The reading of the lines of a frame. -/
theorem WellFormed.yields_head (formed : text.WellFormed) (previousByte : Option UInt8) :
    (idle previousByte).Yields text.headBytes []
      (inBody (chomp text.command) text.block [] (some newline)) := by
  have commanded := chomp_ne_nil_of_isCommand formed.known
  have nonempty : text.command ≠ [] := by
    intro empty
    rw [empty] at commanded
    exact commanded rfl
  have command_read := idle_yields_line previousByte nonempty formed.command_clean.1
    formed.command_clean.2
  rw [if_pos formed.known] at command_read
  obtain ⟨lastByte, last_ne, lines_read⟩ := atHeaders_yields_lines commanded (Dict.empty, none)
    newline_ne_carriage text.lines formed.lines_clean
  obtain ⟨no_newline, no_null, blank⟩ := formed.blank_clean
  have blank_read := atHeaders_yields_line commanded text.block last_ne no_newline no_null
  rw [if_pos blank] at blank_read
  exact (command_read.append lines_read).append blank_read

/-- What the text of a frame says about the frame. -/
theorem WellFormed.frame_eq (formed : text.WellFormed) {previousByte : Option UInt8}
    {last : FrameParser}
    (read : (idle previousByte).Yields text.bytes [.frame frame] last) :
    ∃ type body, frame = frameOfParts type text.block.1 body ∧
      (text.block.2 = none ∨ text.block.2 = some (body.length : Int)) := by
  obtain ⟨type, command_eq⟩ := formed.exists_type
  have head := formed.yields_head previousByte
  rw [command_eq] at head
  rcases inBody_splits type text.block [] (some newline) (text.content ++ [null]) with
    ⟨last, tail⟩ | ⟨content, rest, body, split, tail, complete⟩
  · have whole := head.append tail
    have frames_eq := (read.functional whole).1
    contradiction
  · have sound : (idle (some null)).Sound := sound_idle (some null) (by decide)
    obtain ⟨later, final, after, -⟩ := sound.exists_yields rest
    have whole := head.append (tail.append after)
    rw [List.append_assoc, List.singleton_append, ← split] at whole
    have frames_eq := (read.functional whole).1
    rw [List.nil_append, List.singleton_append] at frames_eq
    obtain ⟨frame_eq, -⟩ := List.cons.inj frames_eq
    exact ⟨type, body, AnyFrame.frame.inj frame_eq, complete⟩

theorem body_frameOfParts {type : FrameType} (with_body : type.hasBody = true) (headers : Headers)
    (body : Bytes) : (frameOfParts type headers body).body = body := by
  unfold frameOfParts
  rw [dif_pos with_body]

/-- The first announced length wins exactly if it is the last one too. -/
theorem WellFormed.wins_iff (formed : text.WellFormed) {previousByte : Option UInt8}
    {last : FrameParser}
    (read : (idle previousByte).Yields text.bytes [.frame frame] last) :
    text.FirstLengthWins frame ↔
      (frame.type.hasBody = true → text.lengths.head? = text.lengths.getLast?) := by
  obtain ⟨type, body, rfl, complete⟩ := formed.frame_eq read
  rw [length_block] at complete
  rw [FirstLengthWins, type_frameOfParts]
  refine forall_congr' fun with_body => ?_
  rw [body_frameOfParts with_body]
  cases lengths_eq : text.lengths with
  | nil => simp
  | cons first rest =>
      have present : (first :: rest).getLast? ≠ none := by simp
      rw [lengths_eq] at complete
      have measured := complete.resolve_left present
      rw [measured, List.head?_cons]
      constructor
      · intro wins
        rw [wins first rfl]
      · intro same length is_first
        have first_eq : first = length := Option.some.inj is_first
        rw [← first_eq]
        exact (Option.some.inj same).symm

end FrameText

namespace FrameParser

/-- What stands first in a stream that is read from between frames. -/
inductive Splits (previousByte : Option UInt8) : Bytes → Prop
  /-- Nothing is yielded up to the end. -/
  | unfinished {stream : Bytes} {last : FrameParser} :
      (idle previousByte).Yields stream [] last → Splits previousByte stream
  /-- Bytes that are dropped. -/
  | dropped {front rest : Bytes} {lastByte : Option UInt8} : front ≠ [] →
      (idle previousByte).Yields front [] (idle lastByte) → Splits previousByte (front ++ rest)
  /-- A heartbeat. -/
  | heartbeat {rest : Bytes} : Splits previousByte (newline :: rest)
  /-- A frame. -/
  | frame {text : FrameText} {frame : Frame} {rest : Bytes} : text.WellFormed →
      (idle previousByte).Yields text.bytes [.frame frame] (idle (some null)) →
      Splits previousByte (text.bytes ++ rest)

/-- A command line, and what follows it. -/
theorem splits_of_command (previousByte : Option UInt8) {line : Bytes}
    (known : isCommand (chomp line) = true) (no_newline : newline ∉ line) (no_null : null ∉ line)
    (stream : Bytes) : Splits previousByte (line ++ newline :: stream) := by
  have commanded := chomp_ne_nil_of_isCommand known
  have nonempty : line ≠ [] := by
    intro empty
    rw [empty] at commanded
    exact commanded rfl
  have head := idle_yields_line previousByte nonempty no_newline no_null
  rw [if_pos known] at head
  rw [List.append_cons]
  rcases atHeaders_splits commanded (Dict.empty, none) newline_ne_carriage stream with
    ⟨last, tail⟩ | ⟨front, rest, rfl, tail⟩ | ⟨lines, blank, stream, rfl, clean, ended⟩
  · exact .unfinished (head.append tail)
  · rw [List.append_cons front, ← List.append_assoc]
    exact .dropped (by simp) (head.append tail)
  · obtain ⟨type, found⟩ := Option.isSome_iff_exists.mp known
    have formed : ∀ content, (FrameText.mk line lines blank content).WellFormed := fun _ =>
      ⟨known, ⟨no_newline, no_null⟩, clean, ended⟩
    have lines_read := (formed []).yields_head previousByte
    rw [show chomp line = framesToCommands type from lookup_eq_some found] at lines_read
    rcases inBody_splits type _ [] (some newline) stream with
      ⟨last, tail⟩ | ⟨content, rest, body, rfl, tail, -⟩
    · have whole := lines_read.append tail
      simp only [FrameText.headBytes] at whole
      rw [← List.append_assoc, ← List.append_assoc]
      exact .unfinished (by simpa using whole)
    · have whole := lines_read.append tail
      have bytes_eq : line ++ [newline] ++
          (FrameText.headerBytes lines ++ (blank ++ [newline]) ++ (content ++ null :: rest)) =
            (FrameText.mk line lines blank content).bytes ++ rest := by
        simp [FrameText.bytes]
      rw [bytes_eq]
      exact .frame (formed content) whole

theorem splits (previousByte : Option UInt8) (stream : Bytes) : Splits previousByte stream := by
  rcases cut stream with ⟨no_newline, no_null⟩ | ⟨text, rest, no_newline, no_null, rfl | rfl⟩
  · exact .unfinished (yields_text rfl stream no_newline no_null)
  · by_cases empty : text = []
    · subst empty
      exact .heartbeat
    by_cases known : isCommand (chomp text) = true
    · exact splits_of_command previousByte known no_newline no_null rest
    · have head := idle_yields_line previousByte empty no_newline no_null
      rw [if_neg known] at head
      rw [List.append_cons]
      exact .dropped (by simp) head
  · rw [List.append_cons]
    exact .dropped (by simp) (yields_text_null rfl no_newline no_null)

/-- A frame at an index, with its text and what stands before it. -/
def Sourced (previousByte : Option UInt8) (stream : Bytes) (frames : List AnyFrame) (index : Nat)
    (frame : Frame) : Prop :=
  ∃ (front : Bytes) (text : FrameText) (rest : Bytes) (lastByte : Option UInt8),
    stream = front ++ text.bytes ++ rest ∧ text.WellFormed ∧
    (idle previousByte).Yields front (frames.take index) (idle lastByte) ∧
    (idle lastByte).Yields text.bytes [.frame frame] (idle (some null))

/-- Bytes that are read before the rest of a stream stand before the text of a later frame. -/
theorem Sourced.behind {previousByte lastByte : Option UInt8} {front rest : Bytes}
    {first later : List AnyFrame} {index : Nat} {frame : Frame}
    (sourced : Sourced lastByte rest later index frame)
    (head : (idle previousByte).Yields front first (idle lastByte)) :
    Sourced previousByte (front ++ rest) (first ++ later) (first.length + index) frame := by
  obtain ⟨middle, text, surplus, ending, rfl, formed, before, read⟩ := sourced
  refine ⟨front ++ middle, text, surplus, ending, by simp, formed, ?_, read⟩
  rw [List.take_length_add_append]
  exact head.append before

/-- Every yielded frame stands in the stream. -/
theorem exists_sourced {previousByte : Option UInt8} (sound : (idle previousByte).Sound)
    {stream : Bytes} {frames : List AnyFrame} {last : FrameParser}
    (read : (idle previousByte).Yields stream frames last) {index : Nat} {frame : Frame}
    (yielded : frames[index]? = some (.frame frame)) :
    Sourced previousByte stream frames index frame := by
  induction total : stream.length using Nat.strong_induction_on generalizing stream previousByte
    frames index with
  | _ size ih =>
    cases splits previousByte stream with
    | unfinished nothing =>
        rw [(read.functional nothing).1] at yielded
        contradiction
    | @dropped front rest lastByte nonempty head =>
        obtain ⟨first, later, middle, head', tail, middle_sound, rfl⟩ := read.of_append sound
        obtain ⟨rfl, rfl⟩ := head.functional head'
        have shorter : rest.length < size := by
          have := List.length_pos_iff.mpr nonempty
          rw [← total, List.length_append]
          omega
        have sourced := (ih rest.length shorter middle_sound tail yielded rfl).behind head
        rwa [List.length_nil, Nat.zero_add] at sourced
    | @heartbeat rest =>
        have head := idle_yields_newline previousByte
        rw [← List.singleton_append] at read
        obtain ⟨first, later, middle, head', tail, middle_sound, rfl⟩ := read.of_append sound
        obtain ⟨rfl, rfl⟩ := head.functional head'
        cases index with
        | zero => simp at yielded
        | succ index =>
            have shorter : rest.length < size := by
              rw [← total, List.length_cons]
              omega
            have sourced := (ih rest.length shorter middle_sound tail yielded rfl).behind head
            rwa [List.length_singleton, Nat.add_comm 1] at sourced
    | @frame text framed rest formed head =>
        obtain ⟨first, later, middle, head', tail, middle_sound, rfl⟩ := read.of_append sound
        obtain ⟨rfl, rfl⟩ := head.functional head'
        cases index with
        | zero =>
            obtain rfl : framed = frame := by simpa using yielded
            exact ⟨[], text, rest, previousByte, rfl, formed, Yields.nil _, head⟩
        | succ index =>
            have shorter : rest.length < size := by
              rw [← total, List.length_append, FrameText.bytes]
              simp only [List.length_append, List.length_singleton]
              omega
            have sourced := (ih rest.length shorter middle_sound tail yielded rfl).behind head
            rwa [List.length_singleton, Nat.add_comm 1] at sourced

end FrameParser

namespace FrameText

open FrameParser

/-- Every frame that a new parser yields has its text in the stream, and its body is as long as the
first accepted content length says exactly if the last accepted one says the same. -/
theorem firstLengthWins_iff {stream : Bytes} {frames : List AnyFrame} {last : FrameParser}
    (read : ({} : FrameParser).Yields stream frames last) {index : Nat} {frame : Frame}
    (yielded : frames[index]? = some (.frame frame)) :
    (∃ front text, Located stream frames index frame front text) ∧
      ∀ front text, Located stream frames index frame front text →
        (text.FirstLengthWins frame ↔
          (frame.type.hasBody = true → text.lengths.head? = text.lengths.getLast?)) := by
  constructor
  · obtain ⟨front, text, rest, lastByte, split, formed, before, text_read⟩ :=
      exists_sourced sound_fresh read yielded
    exact ⟨front, text, formed, ⟨rest, split⟩, lastByte, before, text_read⟩
  · intro front text located
    obtain ⟨lastByte, -, text_read⟩ := located.reads
    exact located.wellFormed.wins_iff text_read

/-- A message with a repeated length and a body of two bytes. -/
def sampleText (first second : String) : FrameText :=
  ⟨Text.encode "MESSAGE", [Text.encode first, Text.encode second], [], Text.encode "ab"⟩

/-- The frame of a text whose second length is not accepted. -/
def repeatedFrame : Frame :=
  frameOfParts .message (Dict.empty.set "content-length" "2") (Text.encode "ab")

theorem repeatedFrame_yields :
    ({} : FrameParser).Yields (sampleText "content-length:2" "content-length:5").bytes
      [.frame repeatedFrame] (idle (some null)) := by
  unfold Yields
  decide +kernel

theorem repeatedFrame_located :
    Located (sampleText "content-length:2" "content-length:5").bytes [.frame repeatedFrame] 0
      repeatedFrame [] (sampleText "content-length:2" "content-length:5") where
  wellFormed :=
    ⟨by decide +kernel, by decide +kernel, by decide +kernel, by decide +kernel⟩
  placed := ⟨[], by simp⟩
  reads := ⟨none, Yields.nil _, repeatedFrame_yields⟩

/-- A second length under the same name is not accepted. -/
theorem repeatedFrame_firstLengthWins :
    (sampleText "content-length:2" "content-length:5").FirstLengthWins repeatedFrame :=
  ((@firstLengthWins_iff _ _ _ repeatedFrame_yields 0 _ rfl).2 _ _ repeatedFrame_located).mpr
    (by decide +kernel)

/-- The frame of a text whose second length has another spelling. -/
def respelledFrame : Frame :=
  frameOfParts .message (Dict.empty.update [("content-length", "1"), ("Content-Length", "2")])
    (Text.encode "ab")

theorem respelledFrame_yields :
    ({} : FrameParser).Yields (sampleText "content-length:1" "Content-Length:2").bytes
      [.frame respelledFrame] (idle (some null)) := by
  unfold Yields
  decide +kernel

/-- A second length under another spelling is accepted, and wins. -/
theorem respelledFrame_lastLengthWins :
    ({} : FrameParser).Yields (sampleText "content-length:1" "Content-Length:2").bytes
        [.frame respelledFrame] (idle (some null)) ∧
      Located (sampleText "content-length:1" "Content-Length:2").bytes [.frame respelledFrame] 0
        respelledFrame [] (sampleText "content-length:1" "Content-Length:2") ∧
      ¬ (sampleText "content-length:1" "Content-Length:2").FirstLengthWins respelledFrame := by
  refine ⟨respelledFrame_yields, ⟨?_, ⟨[], by simp⟩, none, Yields.nil _, respelledFrame_yields⟩, ?_⟩
  · exact ⟨by decide +kernel, by decide +kernel, by decide +kernel, by decide +kernel⟩
  · intro wins
    have first : (sampleText "content-length:1" "Content-Length:2").lengths.head? = some 1 := by
      decide +kernel
    have equal := wins (by decide) 1 first
    revert equal
    decide +kernel

end FrameText

end Stompman
