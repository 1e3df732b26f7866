import Stompman.Injection

/-!
# Dumping what was parsed

A frame that a parser has yielded can be dumped again.  The dump is never longer than the bytes of
the frame, and it reads back as the same frame exactly if no header has a carriage return and the
last announced length, in the order of the dump, is that of the body: a frame type without body
drops a body but keeps its length.
-/

namespace Stompman

open Foundation

/-! ## Halves of a header line -/

/-- How many bytes `dump_header` writes for a byte of a text. -/
def escapedSize (byte : UInt8) : Nat :=
  if byte = carriage then 0 else if byte ∈ [newline, colon, backslash] then 2 else 1

theorem length_escapeBytes (char : Char) :
    (escapeBytes char).length = ((String.utf8EncodeChar char).map escapedSize).sum := by
  by_cases special : char ∈ ['\n', ':', '\\', '\r']
  · simp only [List.mem_cons, List.not_mem_nil, or_false] at special
    rcases special with rfl | rfl | rfl | rfl <;> decide
  · have ordinary : ∀ byte ∈ String.utf8EncodeChar char, escapedSize byte = 1 := by
      intro byte member
      have code : ∀ delimiter ∈ [carriage, newline, colon, backslash],
          delimiter.toNat < 128 ∧
            ∃ other ∈ ['\n', ':', '\\', '\r'], delimiter.toNat = other.toNat := by
        intro delimiter listed
        simp only [List.mem_cons, List.not_mem_nil, or_false] at listed
        rcases listed with rfl | rfl | rfl | rfl
        · exact ⟨by decide, '\r', by simp, rfl⟩
        · exact ⟨by decide, '\n', by simp, rfl⟩
        · exact ⟨by decide, ':', by simp, rfl⟩
        · exact ⟨by decide, '\\', by simp, rfl⟩
      have plain : byte ∉ [carriage, newline, colon, backslash] := by
        intro delimiter
        obtain ⟨small, other, other_special, byte_eq⟩ := code byte delimiter
        have char_eq : char = other := by
          rw [← Char.toNat_inj, ← byte_eq]
          exact (Text.toNat_of_mem_utf8EncodeChar small member).symm
        exact special (char_eq ▸ other_special)
      rw [List.mem_cons, not_or] at plain
      rw [escapedSize, if_neg plain.1, if_neg plain.2]
    simp only [List.mem_cons, List.not_mem_nil, or_false, not_or] at special
    rw [escapeBytes_of_plain special.1 special.2.1 special.2.2.1 special.2.2.2,
      List.map_congr_left ordinary]
    simp

theorem length_encode_escape (text : String) :
    (Text.encode (escape text)).length = ((Text.encode text).map escapedSize).sum := by
  rw [encode_escape, Text.encode]
  generalize text.toList = chars
  induction chars with
  | nil => rfl
  | cons char chars ih =>
      rw [List.flatMap_cons, List.flatMap_cons, List.length_append, List.map_append,
        List.sum_append, length_escapeBytes, ih]

theorem Unescapes.size_le {half bytes : Bytes} (reads : Unescapes half bytes)
    (no_colon : colon ∉ half) (no_newline : newline ∉ half) :
    (bytes.map escapedSize).sum ≤ half.length := by
  induction reads with
  | nil => exact Nat.le_refl _
  | lone => exact Nat.zero_le _
  | newlineEscape _ ih | colonEscape _ ih | backslashEscape _ ih =>
      simp only [List.mem_cons, not_or] at no_colon no_newline
      have rest_le := ih no_colon.2.2 no_newline.2.2
      simp only [List.map_cons, List.sum_cons, List.length_cons]
      have doubled : escapedSize newline = 2 ∧ escapedSize colon = 2 ∧
          escapedSize backslash = 2 := by decide
      omega
  | unknownEscape _ _ ih =>
      simp only [List.mem_cons, not_or] at no_colon no_newline
      have rest_le := ih no_colon.2.2 no_newline.2.2
      simp only [List.length_cons]
      omega
  | @plain byte plain rest bytes _ ih =>
      rw [List.mem_cons, not_or] at no_colon no_newline
      have rest_le := ih no_colon.2 no_newline.2
      have single : escapedSize byte ≤ 1 := by
        unfold escapedSize
        split
        · exact Nat.zero_le _
        · rw [if_neg]
          simp [Ne.symm no_newline.1, Ne.symm no_colon.1, plain]
      simp only [List.map_cons, List.sum_cons, List.length_cons]
      omega

/-- Unescaping makes no NUL. -/
theorem Unescapes.null_mem {half bytes : Bytes} (reads : Unescapes half bytes)
    (found : null ∈ bytes) : null ∈ half := by
  induction reads with
  | nil | lone => contradiction
  | newlineEscape _ ih | colonEscape _ ih | backslashEscape _ ih =>
      rcases List.mem_cons.mp found with impossible | later
      · exact absurd impossible (by decide)
      · exact List.mem_cons_of_mem _ (List.mem_cons_of_mem _ (ih later))
  | unknownEscape _ _ ih => exact List.mem_cons_of_mem _ (List.mem_cons_of_mem _ (ih found))
  | plain _ _ ih =>
      rcases List.mem_cons.mp found with rfl | later
      · exact List.mem_cons_self
      · exact List.mem_cons_of_mem _ (ih later)

theorem Spells.length_le {half : Bytes} {text : String} (spells : Spells half text)
    (no_colon : colon ∉ half) (no_newline : newline ∉ half) :
    (Text.encode (escape text)).length ≤ half.length := by
  obtain ⟨bytes, reads, decoded⟩ := spells
  rw [length_encode_escape, Text.encode_of_decode decoded]
  exact reads.size_le no_colon no_newline

theorem Spells.no_null {half : Bytes} {text : String} (spells : Spells half text)
    (clean : null ∉ half) : '\x00' ∉ text.toList := by
  obtain ⟨bytes, reads, decoded⟩ := spells
  intro member
  have found : Text.asciiByte '\x00' ∈ Text.encode text :=
    (Text.mem_encode_iff (by decide) text).mpr member
  rw [Text.encode_of_decode decoded] at found
  exact clean (reads.null_mem found)

/-- A header is dumped with no more bytes than it was read from, and has no NUL. -/
theorem header_of_line {line : Bytes} {item : String × String}
    (parsed : parseHeader line = some item) (no_newline : newline ∉ line) (no_null : null ∉ line) :
    (headerLine item.1 item.2).length ≤ line.length ∧
      '\x00' ∉ item.1.toList ∧ '\x00' ∉ item.2.toList := by
  obtain ⟨key, value, rfl, key_free, value_free, named, contained⟩ :=
    (parseHeader_eq_some_iff line item).mp parsed
  simp only [List.mem_append, List.mem_cons, not_or] at no_newline no_null
  refine ⟨?_, named.no_null no_null.1, contained.no_null no_null.2.2⟩
  have name_le := named.length_le key_free no_newline.1
  have value_le := contained.length_le value_free no_newline.2.2
  simp only [headerLine, List.length_append, List.length_cons]
  omega

/-! ## Sizes -/

/-- How many bytes `dump_frame` writes for headers, with their newlines. -/
def Headers.size (headers : Headers) : Nat :=
  (headers.entries.map fun item => (headerLine item.1 item.2).length + 1).sum

/-- How many bytes `dump_frame` writes for a frame whose headers are escaped. -/
def Frame.size (frame : Frame) : Nat :=
  (framesToCommands frame.type).length + 1 + Headers.size frame.headers + 1 + frame.body.length + 1

theorem Headers.size_of_perm {left right : Headers} (same : left.Equal right) :
    Headers.size left = Headers.size right :=
  (same.map _).sum_nat

theorem Frame.size_of_equal {left right : Frame} (same : left.Equal right) :
    left.size = right.size := by
  obtain ⟨type_eq, headers_eq, body_eq⟩ := same
  rw [Frame.size, Frame.size, type_eq, body_eq, Headers.size_of_perm headers_eq]

theorem length_dumpFrame {frame : Frame} (escaped : frame.type ≠ .connect) :
    (dumpFrame frame).length = frame.size := by
  have sorted : ((sortedHeaders frame.headers).map fun item =>
      (headerLine item.1 item.2).length + 1).sum = Headers.size frame.headers :=
    ((List.perm_insertionSort itemLe frame.headers.entries).map _).sum_nat
  rw [dumpFrame_of_ne_connect escaped, Frame.size, ← sorted]
  simp only [List.flatMap_map, List.length_append, List.length_flatMap, List.length_singleton]

namespace FrameText

open FrameParser

/-- No header has a NUL. -/
def NullFree (headers : Headers) : Prop :=
  ∀ item ∈ headers.entries, '\x00' ∉ item.1.toList ∧ '\x00' ∉ item.2.toList

theorem accepted_acceptLine {block : Headers × Option Int} (free : NullFree block.1) {line : Bytes}
    (no_newline : newline ∉ line) (no_null : null ∉ line) :
    NullFree (acceptLine block line).1 ∧
      Headers.size (acceptLine block line).1 ≤ Headers.size block.1 + (line.length + 1) := by
  unfold FrameParser.acceptLine
  cases parsed : parseHeader line with
  | none => exact ⟨free, Nat.le_add_right _ _⟩
  | some item =>
      obtain ⟨shorter, clean⟩ := header_of_line parsed no_newline no_null
      simp only [acceptItem]
      split
      · exact ⟨free, Nat.le_add_right _ _⟩
      · rename_i missing
        rw [Dict.contains_iff] at missing
        have entries_eq : (block.1.set item.1 item.2).entries = block.1.entries ++ [item] :=
          Dict.entries_set_of_absent _ _ missing
        refine ⟨?_, ?_⟩
        · intro other member
          rw [entries_eq, List.mem_append, List.mem_singleton] at member
          rcases member with old | rfl
          · exact free other old
          · exact clean
        · rw [Headers.size, entries_eq, List.map_append, List.sum_append, ← Headers.size]
          simp only [List.map_cons, List.map_nil, List.sum_cons, List.sum_nil]
          omega

theorem chomp_subset (line : Bytes) : chomp line ⊆ line := by
  unfold chomp
  split
  · exact List.dropLast_subset line
  · exact List.Subset.refl line

theorem length_chomp_le (line : Bytes) : (chomp line).length ≤ line.length := by
  unfold chomp
  split
  · rw [List.length_dropLast]
    exact Nat.sub_le _ _
  · exact Nat.le_refl _

theorem accepted_foldl (lines : List Bytes)
    (clean : ∀ line ∈ lines, newline ∉ line ∧ null ∉ line ∧ chomp line ≠ [])
    {block : Headers × Option Int} (free : NullFree block.1) :
    NullFree ((lines.map chomp).foldl acceptLine block).1 ∧
      Headers.size ((lines.map chomp).foldl acceptLine block).1 ≤
        Headers.size block.1 + (headerBytes lines).length := by
  induction lines generalizing block with
  | nil => exact ⟨free, Nat.le_add_right _ _⟩
  | cons line lines ih =>
      obtain ⟨no_newline, no_null, -⟩ := clean line List.mem_cons_self
      obtain ⟨line_free, line_le⟩ := accepted_acceptLine free
        (fun found => no_newline (chomp_subset line found))
        (fun found => no_null (chomp_subset line found))
      obtain ⟨all_free, all_le⟩ := ih
        (fun other member => clean other (List.mem_cons_of_mem _ member)) line_free
      refine ⟨all_free, ?_⟩
      have chomp_le := length_chomp_le line
      have line_bytes : (headerBytes (line :: lines)).length =
          line.length + 1 + (headerBytes lines).length := by
        rw [headerBytes, List.flatMap_cons, List.length_append, List.length_append,
          List.length_singleton, ← headerBytes]
      simp only [List.map_cons, List.foldl_cons]
      omega

variable {text : FrameText} {frame : Frame} {previousByte : Option UInt8} {last : FrameParser}

theorem WellFormed.nullFree (formed : text.WellFormed) :
    NullFree text.block.1 ∧ Headers.size text.block.1 ≤ (headerBytes text.lines).length := by
  have none_yet : NullFree (Dict.empty, (none : Option Int)).1 := by simp [NullFree, Dict.empty]
  obtain ⟨free, size_le⟩ := accepted_foldl text.lines formed.lines_clean none_yet
  refine ⟨free, ?_⟩
  rwa [show Headers.size Dict.empty = 0 from rfl, Nat.zero_add] at size_le

/-- The body of a frame stands in its text, and without announced length it has no NUL. -/
theorem WellFormed.frame_body (formed : text.WellFormed)
    (read : (idle previousByte).Yields text.bytes [.frame frame] last) :
    ∃ type body, frame = frameOfParts type text.block.1 body ∧
      chomp text.command = framesToCommands type ∧ body.length ≤ text.content.length ∧
      ((text.block.2 = none ∧ null ∉ body) ∨ text.block.2 = some (body.length : Int)) := by
  obtain ⟨type, command_eq⟩ := formed.exists_type
  have head := formed.yields_head previousByte
  rw [command_eq] at head
  have sound : (idle (some null)).Sound := sound_idle (some null) (by decide)
  -- A body that ends in the content ends with the only frame of the text.
  have frame_eq : ∀ front rest body, text.content ++ [null] = front ++ rest →
      (inBody (framesToCommands type) text.block [] (some newline)).Yields front
        [.frame (frameOfParts type text.block.1 body)] (idle (some null)) →
      frame = frameOfParts type text.block.1 body := by
    intro front rest body split tail
    obtain ⟨later, final, after, -⟩ := sound.exists_yields rest
    have whole := head.append (tail.append after)
    rw [← split] at whole
    have frames_eq := (read.functional whole).1
    rw [List.nil_append, List.singleton_append] at frames_eq
    exact AnyFrame.frame.inj (List.cons.inj frames_eq).1
  cases announced : text.block.2 with
  | none =>
      obtain ⟨front, rest, split, no_null⟩ :=
        List.eq_append_cons_of_mem
          (List.mem_append_right text.content (List.mem_singleton_self null))
      obtain ⟨lastByte, front_read⟩ := inBody_yields_text (framesToCommands type) text.block.1 []
        (some newline) front no_null
      have block_eq : text.block = (text.block.1, none) := Prod.ext rfl announced
      rw [List.nil_append, ← block_eq] at front_read
      have ends := inBody_yields_null type text.block front lastByte (.inl announced)
      have body_read := front_read.append ends
      refine ⟨type, front, frame_eq _ rest _ (by simpa using split) body_read, command_eq, ?_,
        .inl ⟨rfl, no_null⟩⟩
      have lengths := congrArg List.length split
      simp only [List.length_append, List.length_cons, List.length_nil] at lengths
      omega
  | some length =>
      rcases inBody_splits type text.block [] (some newline) (text.content ++ [null]) with
        ⟨final, tail⟩ | ⟨content, rest, body, split, tail, complete⟩
      · have frames_eq := (read.functional (head.append tail)).1
        contradiction
      · rw [announced] at complete
        obtain rfl : length = (body.length : Int) := by simpa using complete
        refine ⟨type, body, frame_eq _ rest _ (by simpa using split) tail, command_eq, ?_, .inr rfl⟩
        by_contra beyond
        obtain ⟨lastByte, unfinished⟩ := inBody_yields_counted (framesToCommands_ne_nil type)
          text.block.1 [] (body.length : Int) (some newline) (text.content ++ [null]) (by
            intro size _ within
            simp only [List.length_append, List.length_nil, List.length_singleton] at within
            omega)
        have block_eq : text.block = (text.block.1, some (body.length : Int)) :=
          Prod.ext rfl announced
        rw [← block_eq] at unfinished
        have frames_eq := (read.functional (head.append unfinished)).1
        contradiction

/-- The dump of a frame is no longer than the text it was read from. -/
theorem WellFormed.size_le (formed : text.WellFormed)
    (read : (idle previousByte).Yields text.bytes [.frame frame] last) :
    frame.size ≤ text.bytes.length := by
  obtain ⟨type, body, rfl, command_eq, body_le, -⟩ := formed.frame_body read
  have headers_le := formed.nullFree.2
  have command_le := length_chomp_le text.command
  rw [command_eq] at command_le
  have own_body_le : (frameOfParts type text.block.1 body).body.length ≤ body.length := by
    unfold frameOfParts
    split
    · exact Nat.le_refl _
    · exact Nat.zero_le _
  rw [Frame.size, type_frameOfParts, headers_frameOfParts]
  simp only [FrameText.bytes, List.length_append, List.length_singleton]
  omega

end FrameText

/-! ## Yielded frames -/

/-- The lengths that a frame announces, in the order of its dump. -/
def Frame.announcedLengths (frame : Frame) : List Int :=
  (sortedHeaders frame.headers).filterMap FrameText.announced

/-- What every yielded frame satisfies: no NUL in a header, and none in a body of unannounced
length. -/
structure Frame.Accepted (frame : Frame) : Prop where
  nullFree : FrameText.NullFree frame.headers
  bodyFree : frame.announcedLengths = [] → null ∉ frame.body

/-- No header has a carriage return, and the last announced length is that of the body. -/
structure Frame.Canonical (frame : Frame) : Prop where
  carriageFree : ∀ item ∈ frame.headers.entries,
    '\r' ∉ item.1.toList ∧ '\r' ∉ item.2.toList
  measured : ∀ length, frame.announcedLengths.getLast? = some length →
    length = (frame.body.length : Int)

/-- What `write_heartbeat` and `write_frame` write. -/
def AnyFrame.dump : AnyFrame → Bytes
  | .heartbeat => [newline]
  | .frame real => dumpFrame real

/-- How many bytes they write, if headers are escaped. -/
def AnyFrame.size : AnyFrame → Nat
  | .heartbeat => 1
  | .frame real => real.size

theorem AnyFrame.length_dump {frame : AnyFrame}
    (escaped : ∀ real, frame = .frame real → real.type ≠ .connect) :
    frame.dump.length = frame.size := by
  cases frame with
  | heartbeat => rfl
  | frame real => exact length_dumpFrame (escaped real rfl)

theorem AnyFrame.size_of_equal {left right : AnyFrame} (same : left.Equal right) :
    left.size = right.size := by
  cases left with
  | heartbeat =>
      cases right with
      | heartbeat => rfl
      | frame => exact same.elim
  | frame written =>
      cases right with
      | heartbeat => exact same.elim
      | frame read => exact Frame.size_of_equal same

namespace FrameText

open FrameParser

variable {text : FrameText} {frame : Frame} {previousByte : Option UInt8} {last : FrameParser}

theorem entries_block (text : FrameText) : text.block.1.entries = text.accepted := by
  have empty : Mirrors [] (Dict.empty, none) := ⟨rfl, rfl⟩
  exact (mirrors_foldl text.lines empty).headers

theorem WellFormed.accepted_frame (formed : text.WellFormed)
    (read : (idle previousByte).Yields text.bytes [.frame frame] last) : frame.Accepted := by
  obtain ⟨type, body, rfl, -, -, framed⟩ := formed.frame_body read
  have own_headers := headers_frameOfParts type text.block.1 body
  refine ⟨by rw [own_headers]; exact formed.nullFree.1, ?_⟩
  rw [Frame.announcedLengths, own_headers]
  intro silent
  have unannounced : text.block.2 = none := by
    have sorted := (List.perm_insertionSort itemLe text.block.1.entries).filterMap announced
    rw [show (text.block.1.entries.insertionSort itemLe).filterMap announced = [] from silent]
      at sorted
    rw [length_block, lengths, ← entries_block, sorted.nil_eq.symm]
    rfl
  have free : null ∉ body := by
    rcases framed with ⟨-, free⟩ | measured
    · exact free
    · rw [unannounced] at measured
      contradiction
  unfold frameOfParts
  split
  · exact free
  · exact List.not_mem_nil

end FrameText

namespace FrameParser

theorem accepted_of_yields {previousByte : Option UInt8} (sound : (idle previousByte).Sound)
    {stream : Bytes} {frames : List AnyFrame} {last : FrameParser}
    (read : (idle previousByte).Yields stream frames last) {frame : Frame}
    (yielded : .frame frame ∈ frames) : frame.Accepted := by
  obtain ⟨index, found⟩ := List.getElem?_of_mem yielded
  obtain ⟨-, text, -, lastByte, -, formed, -, text_read⟩ := exists_sourced sound read found
  exact formed.accepted_frame text_read

/-- The dumps of the yielded frames are together no longer than the stream. -/
theorem size_of_yields {previousByte : Option UInt8} (sound : (idle previousByte).Sound)
    {stream : Bytes} {frames : List AnyFrame} {last : FrameParser}
    (read : (idle previousByte).Yields stream frames last) :
    (frames.map AnyFrame.size).sum ≤ stream.length := by
  induction total : stream.length using Nat.strong_induction_on generalizing stream previousByte
    frames with
  | _ length ih =>
    subst total
    cases splits previousByte stream with
    | unfinished nothing =>
        rw [(read.functional nothing).1]
        exact Nat.zero_le _
    | @dropped front rest lastByte nonempty head =>
        obtain ⟨first, later, middle, head', tail, middle_sound, rfl⟩ := read.of_append sound
        obtain ⟨rfl, rfl⟩ := head.functional head'
        have front_pos := List.length_pos_iff.mpr nonempty
        rw [List.length_append] at ih ⊢
        have rest_le := ih rest.length (by omega) middle_sound tail rfl
        rw [List.nil_append]
        omega
    | @heartbeat rest =>
        have head := idle_yields_newline previousByte
        rw [← List.singleton_append] at read
        obtain ⟨first, later, middle, head', tail, middle_sound, rfl⟩ := read.of_append sound
        obtain ⟨rfl, rfl⟩ := head.functional head'
        rw [List.length_cons] at ih ⊢
        have rest_le := ih rest.length (by omega) middle_sound tail rfl
        simp only [List.singleton_append, List.map_cons, List.sum_cons, AnyFrame.size]
        omega
    | @frame text framed rest formed head =>
        obtain ⟨first, later, middle, head', tail, middle_sound, rfl⟩ := read.of_append sound
        obtain ⟨rfl, rfl⟩ := head.functional head'
        have text_le := formed.size_le head
        have text_pos : 0 < text.bytes.length := by
          rw [FrameText.bytes]
          simp only [List.length_append, List.length_singleton]
          omega
        rw [List.length_append] at ih ⊢
        have rest_le := ih rest.length (by omega) middle_sound tail rfl
        simp only [List.singleton_append, List.map_cons, List.sum_cons, AnyFrame.size]
        omega

end FrameParser

/-! ## Dumps of yielded frames -/

theorem AnyFrame.length_dumps {frames : List AnyFrame}
    (escaped : ∀ real, .frame real ∈ frames → real.type ≠ .connect) :
    (frames.flatMap AnyFrame.dump).length = (frames.map AnyFrame.size).sum := by
  rw [List.length_flatMap]
  refine congrArg List.sum (List.map_congr_left fun frame member => ?_)
  refine AnyFrame.length_dump ?_
  rintro real rfl
  exact escaped real member

theorem AnyFrame.sizes_of_equal {left right : List AnyFrame}
    (same : List.Forall₂ AnyFrame.Equal left right) :
    (left.map AnyFrame.size).sum = (right.map AnyFrame.size).sum := by
  induction same with
  | nil => rfl
  | cons first _ ih => simp only [List.map_cons, List.sum_cons, AnyFrame.size_of_equal first, ih]

namespace Frame

open FrameParser

variable {frame : Frame} {previousByte : Option UInt8}

/-- The lines and the content of a dump. -/
def dumpText (frame : Frame) : FrameText where
  command := framesToCommands frame.type
  lines := (sortedHeaders frame.headers).map fun item => headerLine item.1 item.2
  blank := []
  content := frame.body

theorem bytes_dumpText (escaped : frame.type ≠ .connect) :
    frame.dumpText.bytes = dumpFrame frame := by
  rw [dumpFrame_of_ne_connect escaped, FrameText.bytes, dumpText, FrameText.headerBytes]
  simp

theorem block_dumpText (frame : Frame) : frame.dumpText.block = acceptedBlock frame.headers :=
  foldl_acceptLine_headerLines _ _

/-- The line of a header without NUL. -/
theorem clean_headerLine {item : String × String}
    (free : '\x00' ∉ item.1.toList ∧ '\x00' ∉ item.2.toList) :
    newline ∉ headerLine item.1 item.2 ∧ null ∉ headerLine item.1 item.2 ∧
      chomp (headerLine item.1 item.2) ≠ [] := by
  refine ⟨newline_not_mem_headerLine _ _, ?_, ?_⟩
  · rw [null_mem_headerLine, not_or]
    exact free
  · rw [chomp_eq_self (carriage_not_mem_headerLine _ _)]
    exact headerLine_ne_nil _ _

theorem Accepted.wellFormed (accepted : frame.Accepted) : frame.dumpText.WellFormed := by
  obtain ⟨no_newline, no_null, whole_command, known⟩ := clean_framesToCommands frame.type
  refine ⟨?_, ⟨no_newline, no_null⟩, ?_, by simp [dumpText, chomp]⟩
  · rw [dumpText, whole_command]
    exact known
  · intro line member
    obtain ⟨item, item_mem, rfl⟩ := List.mem_map.mp member
    exact clean_headerLine (accepted.nullFree item (mem_sortedHeaders.mp item_mem))

/-- Headers without carriage returns are accepted as they are. -/
theorem acceptedBlock_of_carriageFree
    (free : ∀ item ∈ frame.headers.entries, '\r' ∉ item.1.toList ∧ '\r' ∉ item.2.toList) :
    (acceptedBlock frame.headers).1.entries = sortedHeaders frame.headers ∧
      (acceptedBlock frame.headers).2 = frame.announcedLengths.getLast? := by
  have unchanged : (sortedHeaders frame.headers).map withoutCarriagesItem =
      sortedHeaders frame.headers := by
    refine (List.map_congr_left fun item member => ?_).trans (List.map_id _)
    obtain ⟨name, value⟩ := free item (mem_sortedHeaders.mp member)
    exact withoutCarriagesItem_eq_self name value
  have entries_eq : (acceptedBlock frame.headers).1.entries = sortedHeaders frame.headers := by
    rw [acceptedBlock, unchanged, entries_foldl_acceptItem _ _ (nodup_sortedHeaders _)]
    · rfl
    · simp [Dict.keys, Dict.empty]
  refine ⟨entries_eq, ?_⟩
  rw [← block_dumpText, FrameText.length_block, FrameText.lengths, ← FrameText.entries_block,
    block_dumpText, entries_eq, announcedLengths]

/-- The dump of a canonical frame reads back as the frame. -/
theorem Canonical.yields (canonical : frame.Canonical) (accepted : frame.Accepted)
    (escaped : frame.type ≠ .connect) (previousByte : Option UInt8) :
    ∃ read : Frame, read.Equal frame ∧
      (idle previousByte).Yields (dumpFrame frame) [.frame read] (idle (some null)) := by
  obtain ⟨entries_eq, length_eq⟩ := acceptedBlock_of_carriageFree canonical.carriageFree
  have framed : ((acceptedBlock frame.headers).2 = none ∧ null ∉ frame.body) ∨
      (acceptedBlock frame.headers).2 = some (frame.body.length : Int) := by
    rw [length_eq]
    cases announced : frame.announcedLengths.getLast? with
    | none => exact .inl ⟨rfl, accepted.bodyFree (List.getLast?_eq_none_iff.mp announced)⟩
    | some length => exact .inr (congrArg some (canonical.measured length announced))
  refine ⟨_, ?_, idle_yields_dumpFrame escaped previousByte accepted.nullFree framed⟩
  have headers_equal : (acceptedBlock frame.headers).1.Equal frame.headers := by
    rw [Dict.Equal, entries_eq]
    exact List.perm_insertionSort itemLe frame.headers.entries
  obtain ⟨own_type, own_headers, own_body⟩ := frameOfParts_of_body_eq_nil frame.type
    (acceptedBlock frame.headers).1 frame.body_eq_nil
  refine ⟨own_type, ?_, own_body⟩
  rw [own_headers]
  exact headers_equal

/-- Only a canonical frame is read back first from its dump and those of other frames, with the
other frames behind it. -/
theorem Accepted.canonical_of_yields (accepted : frame.Accepted) (escaped : frame.type ≠ .connect)
    {others : List AnyFrame} (others_escaped : ∀ other, .frame other ∈ others →
      other.type ≠ .connect)
    {again : List AnyFrame} {last : FrameParser}
    (read : (idle previousByte).Yields (dumpFrame frame ++ others.flatMap AnyFrame.dump) again last)
    (same : List.Forall₂ AnyFrame.Equal again (.frame frame :: others)) : frame.Canonical := by
  have head := accepted.wellFormed.yields_head previousByte
  have command_eq : chomp frame.dumpText.command = framesToCommands frame.type :=
    (clean_framesToCommands frame.type).2.2.1
  rw [command_eq, block_dumpText] at head
  have bytes_eq : dumpFrame frame ++ others.flatMap AnyFrame.dump =
      frame.dumpText.headBytes ++ (frame.body ++ null :: others.flatMap AnyFrame.dump) := by
    rw [← bytes_dumpText escaped, FrameText.bytes, FrameText.headBytes]
    simp [dumpText]
  rw [bytes_eq] at read
  rcases inBody_splits frame.type (acceptedBlock frame.headers) [] (some newline)
      (frame.body ++ null :: others.flatMap AnyFrame.dump) with
    ⟨final, tail⟩ | ⟨content, rest, whole, split, tail, complete⟩
  · rw [(read.functional (head.append tail)).1] at same
    cases same
  · have sound : (idle (some null)).Sound := sound_idle (some null) (by decide)
    obtain ⟨later, final, after, -⟩ := sound.exists_yields rest
    have reading := head.append (tail.append after)
    rw [List.append_assoc, List.singleton_append, ← split] at reading
    rw [(read.functional reading).1, List.nil_append, List.singleton_append] at same
    cases same with
    | cons first_equal others_equal =>
        obtain ⟨-, headers_equal, body_equal⟩ := first_equal
        rw [headers_frameOfParts] at headers_equal
        have free : ∀ item ∈ frame.headers.entries,
            '\r' ∉ item.1.toList ∧ '\r' ∉ item.2.toList := by
          intro item member
          have stored := headers_equal.mem_iff.mpr member
          rcases mem_of_mem_foldl_acceptItem _ _ item stored with impossible | listed
          · exact absurd impossible (by simp [Dict.empty])
          · obtain ⟨original, -, rfl⟩ := List.mem_map.mp listed
            simp [withoutCarriagesItem, withoutCarriages]
        refine ⟨free, fun length announced => ?_⟩
        rw [(acceptedBlock_of_carriageFree free).2, announced] at complete
        obtain rfl : length = (whole.length : Int) := by simpa using complete
        by_cases with_body : frame.type.hasBody = true
        · rw [← body_equal, FrameText.body_frameOfParts with_body]
        · have empty := frame.body_eq_nil (by simpa using with_body)
          rw [empty, List.nil_append] at split
          rw [empty]
          by_contra unmeasured
          cases content with
          | nil =>
              obtain ⟨lastByte, unfinished⟩ := inBody_yields_counted
                (framesToCommands_ne_nil frame.type) (acceptedBlock frame.headers).1 []
                (whole.length : Int) (some newline) [null] (by
                  intro size _ within
                  simp only [List.length_nil, List.length_singleton] at within unmeasured
                  omega)
              have block_eq : acceptedBlock frame.headers =
                  ((acceptedBlock frame.headers).1, some (whole.length : Int)) :=
                Prod.ext rfl ((acceptedBlock_of_carriageFree free).2.trans announced)
              rw [← block_eq] at unfinished
              have frames_eq := (tail.functional unfinished).1
              contradiction
          | cons byte content =>
              -- The frames behind the NUL would be read from fewer bytes than their dumps have.
              have shorter : rest.length < (others.flatMap AnyFrame.dump).length := by
                have dumps_eq : others.flatMap AnyFrame.dump = content ++ null :: rest :=
                  (List.cons.inj split).2
                rw [dumps_eq, List.length_append, List.length_cons]
                omega
              have rest_le := size_of_yields sound after
              rw [AnyFrame.sizes_of_equal others_equal,
                ← AnyFrame.length_dumps others_escaped] at rest_le
              omega

end Frame

namespace FrameParser

/-- The dumps of accepted frames read back as the frames exactly if all are canonical. -/
theorem yields_dumps_iff {frames : List AnyFrame}
    (accepted : ∀ frame, .frame frame ∈ frames → frame.Accepted)
    (escaped : ∀ frame, .frame frame ∈ frames → frame.type ≠ .connect)
    {previousByte : Option UInt8} (sound : (idle previousByte).Sound) :
    (∃ again last, (idle previousByte).Yields (frames.flatMap AnyFrame.dump) again last ∧
      List.Forall₂ AnyFrame.Equal again frames) ↔
      ∀ frame, .frame frame ∈ frames → frame.Canonical := by
  induction frames generalizing previousByte with
  | nil =>
      refine ⟨fun _ frame member => ?_, fun _ => ⟨[], _, Yields.nil _, .nil⟩⟩
      exact absurd member List.not_mem_nil
  | cons first others ih =>
      have others_accepted : ∀ frame, .frame frame ∈ others → frame.Accepted :=
        fun frame member => accepted frame (List.mem_cons_of_mem _ member)
      have others_escaped : ∀ frame, .frame frame ∈ others → frame.type ≠ .connect :=
        fun frame member => escaped frame (List.mem_cons_of_mem _ member)
      rw [List.flatMap_cons]
      cases first with
      | heartbeat =>
          have beat := idle_yields_newline previousByte
          have beat_sound : (idle (some newline)).Sound := sound_idle _ newline_ne_carriage
          have others_iff := ih others_accepted others_escaped beat_sound
          simp only [List.mem_cons, reduceCtorEq, false_or]
          rw [← others_iff]
          constructor
          · rintro ⟨again, last, read, same⟩
            obtain ⟨head, later, middle, head', tail, -, rfl⟩ := read.of_append sound
            obtain ⟨rfl, rfl⟩ := beat.functional head'
            cases same with
            | cons _ rest => exact ⟨later, last, tail, rest⟩
          · rintro ⟨again, last, read, same⟩
            exact ⟨_, last, beat.append read, .cons trivial same⟩
      | frame real =>
          have null_sound : (idle (some null)).Sound := sound_idle _ (by decide)
          have others_iff := ih others_accepted others_escaped null_sound
          have own_accepted := accepted real List.mem_cons_self
          have own_escaped := escaped real List.mem_cons_self
          simp only [List.mem_cons, AnyFrame.frame.injEq, forall_eq_or_imp]
          rw [← others_iff]
          constructor
          · rintro ⟨again, last, read, same⟩
            have canonical :=
              own_accepted.canonical_of_yields own_escaped others_escaped read same
            obtain ⟨back, -, yielded⟩ := canonical.yields own_accepted own_escaped previousByte
            obtain ⟨head, later, middle, head', tail, -, rfl⟩ := read.of_append sound
            obtain ⟨rfl, rfl⟩ := yielded.functional head'
            cases same with
            | cons _ rest => exact ⟨canonical, later, last, tail, rest⟩
          · rintro ⟨canonical, again, last, read, same⟩
            obtain ⟨back, equal, yielded⟩ := canonical.yields own_accepted own_escaped previousByte
            exact ⟨_, last, yielded.append read, .cons equal same⟩

/-- Whatever stream the frames were read from, and however their dumps are cut: the dumps are no
longer than the stream, and a parser yields the same frames for them exactly if no frame has a
carriage return in a header or announces, as the last length of its dump, another length than that
of its body. -/
theorem redump_iff {stream : List Bytes} {frames : List AnyFrame} {last : FrameParser}
    (parsed : ({} : FrameParser).parseChunks stream = .ok (last, frames))
    (escaped : ∀ frame, .frame frame ∈ frames → frame.type ≠ .connect) :
    (frames.flatMap AnyFrame.dump).length ≤ stream.flatten.length ∧
      ∀ chunks : List Bytes, chunks.flatten = frames.flatMap AnyFrame.dump →
        ((∃ final again, ({} : FrameParser).parseChunks chunks = .ok (final, again) ∧
            List.Forall₂ AnyFrame.Equal again frames) ↔
          ∀ frame, .frame frame ∈ frames → frame.Canonical) := by
  rw [parseChunks_eq] at parsed
  have accepted : ∀ frame, .frame frame ∈ frames → frame.Accepted :=
    fun frame member => accepted_of_yields sound_fresh parsed member
  refine ⟨?_, fun chunks cut => ?_⟩
  · rw [AnyFrame.length_dumps escaped]
    exact size_of_yields sound_fresh parsed
  · rw [← yields_dumps_iff accepted escaped sound_fresh, parseChunks_eq, cut]
    exact ⟨fun ⟨final, again, read, same⟩ => ⟨again, final, read, same⟩,
      fun ⟨again, final, read, same⟩ => ⟨final, again, read, same⟩⟩

/-- A message with a NUL as its body. -/
def sampleRead : Frame where
  type := .message
  headers := Dict.empty.update [("content-length", "1")]
  body := [null]
  body_eq_nil := by decide

/-- A receipt that was read with a body of one byte. -/
def measuredReceipt : Frame :=
  .bodyless .receipt (Dict.empty.update [("content-length", "1")])

/-- A message with CRLF line ends and a heartbeat read back from their dumps, the receipt does
not. -/
theorem redump_iff_sample :
    (∃ final again, ({} : FrameParser).parseChunks [dumpFrame sampleRead, [newline]] =
        .ok (final, again) ∧
      List.Forall₂ AnyFrame.Equal again [.frame sampleRead, .heartbeat]) ∧
    ¬ ∃ final again, ({} : FrameParser).parseChunks [dumpFrame measuredReceipt] =
        .ok (final, again) ∧
      List.Forall₂ AnyFrame.Equal again [.frame measuredReceipt] := by
  have message_parsed : ({} : FrameParser).parseChunks
      [Text.encode "MESSAGE\r\ncontent-length:1\r\n\r", [newline, null], [null, newline]] =
        .ok (idle (some newline), [.frame sampleRead, .heartbeat]) := by
    decide +kernel
  have receipt_parsed : ({} : FrameParser).parseChunks
      [Text.encode "RECEIPT\ncontent-length:1\n\nx", [null]] =
        .ok (idle (some null), [.frame measuredReceipt]) := by
    decide +kernel
  have message_escaped : ∀ frame, .frame frame ∈ [.frame sampleRead, AnyFrame.heartbeat] →
      frame.type ≠ .connect := by
    simp only [List.mem_cons, AnyFrame.frame.injEq, reduceCtorEq, List.not_mem_nil, or_false,
      forall_eq]
    decide
  have receipt_escaped : ∀ frame, .frame frame ∈ [AnyFrame.frame measuredReceipt] →
      frame.type ≠ .connect := by
    simp only [List.mem_cons, AnyFrame.frame.injEq, List.not_mem_nil, or_false, forall_eq]
    decide
  constructor
  · refine ((redump_iff message_parsed message_escaped).2 _ (by simp [AnyFrame.dump])).mpr ?_
    simp only [List.mem_cons, AnyFrame.frame.injEq, reduceCtorEq, List.not_mem_nil, or_false,
      forall_eq]
    have lengths : sampleRead.announcedLengths = [1] := by decide +kernel
    refine ⟨by decide +kernel, fun length announced => ?_⟩
    rw [lengths] at announced
    exact (Option.some.inj announced).symm
  · rw [(redump_iff receipt_parsed receipt_escaped).2 _ (by simp [AnyFrame.dump])]
    intro canonical
    have lengths : measuredReceipt.announcedLengths = [1] := by decide +kernel
    have measured := (canonical measuredReceipt (by simp)).measured 1 (by rw [lengths]; rfl)
    exact absurd measured (by decide)

end FrameParser

end Stompman
