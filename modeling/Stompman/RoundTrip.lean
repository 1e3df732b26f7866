import Stompman.Parser

/-!
# Stream round trip

Frames written by `dump_frame`, heartbeats and lines that are no command are read back from their
concatenation by one parser, however the bytes are cut into chunks.  The file also evaluates the
header block of a dumped frame for arbitrary header texts, which the analysis of header injection
uses.
-/

namespace Stompman

open Foundation

namespace FrameParser

/-- A header without the carriage returns of its name and value. -/
def withoutCarriagesItem (item : String × String) : String × String :=
  (withoutCarriages item.1, withoutCarriages item.2)

theorem acceptLine_headerLine (block : Headers × Option Int) (item : String × String) :
    acceptLine block (chomp (headerLine item.1 item.2)) =
      acceptItem block (withoutCarriagesItem item) := by
  rw [chomp_eq_self (carriage_not_mem_headerLine item.1 item.2), acceptLine,
    parseHeader_headerLine]
  rfl

/-- Accepting headers with new and distinct names appends them. -/
theorem entries_foldl_acceptItem (items : List (String × String)) (block : Headers × Option Int)
    (nodup : (items.map Prod.fst).Nodup) (fresh : ∀ item ∈ items, item.1 ∉ block.1.keys) :
    (items.foldl acceptItem block).1.entries = block.1.entries ++ items := by
  induction items generalizing block with
  | nil => simp
  | cons item items ih =>
      rw [List.map_cons, List.nodup_cons] at nodup
      have absent := fresh item List.mem_cons_self
      have missing : block.1.contains item.1 = false := by
        rw [← Bool.not_eq_true, Dict.contains_iff]
        exact absent
      have accepted : (acceptItem block item).1 = block.1.set item.1 item.2 := by
        simp [acceptItem, missing]
      have entries_eq : (acceptItem block item).1.entries = block.1.entries ++ [item] := by
        rw [accepted, Dict.entries_set_of_absent _ _ absent]
      rw [List.foldl_cons, ih _ nodup.2, entries_eq]
      · simp
      · intro other member
        rw [Dict.keys, entries_eq, List.map_append, List.mem_append, not_or]
        refine ⟨fresh other (List.mem_cons_of_mem _ member), ?_⟩
        simp only [List.map_cons, List.map_nil, List.mem_singleton]
        intro same
        exact nodup.1 (same ▸ List.mem_map_of_mem member)

/-- Every accepted header is one of the given ones. -/
theorem mem_of_mem_foldl_acceptItem (items : List (String × String)) (block : Headers × Option Int)
    (item : String × String) (member : item ∈ (items.foldl acceptItem block).1.entries) :
    item ∈ block.1.entries ∨ item ∈ items := by
  induction items generalizing block with
  | nil => exact .inl member
  | cons first items ih =>
      rcases ih _ member with accepted | later
      · unfold acceptItem at accepted
        split at accepted
        · exact .inl accepted
        · rename_i missing
          rw [Dict.contains_iff] at missing
          rw [Dict.entries_set_of_absent _ _ missing, List.mem_append, List.mem_singleton]
            at accepted
          rcases accepted with old | rfl
          · exact .inl old
          · exact .inr List.mem_cons_self
      · exact .inr (List.mem_cons_of_mem _ later)

/-- Headers of other names leave the content length alone. -/
theorem contentLength_foldl_of_no_item (items : List (String × String))
    (block : Headers × Option Int) (other : ∀ item ∈ items, isContentLength item.1 = false) :
    (items.foldl acceptItem block).2 = block.2 := by
  induction items generalizing block with
  | nil => rfl
  | cons item items ih =>
      rw [List.foldl_cons, ih _ fun later member => other later (List.mem_cons_of_mem _ member)]
      have plain := other item List.mem_cons_self
      unfold acceptItem
      split <;> simp [plain]

/-- The value of the only content-length header is the content length. -/
theorem contentLength_foldl_of_item (front rest : List (String × String)) (item : String × String)
    (nodup : ((front ++ item :: rest).map Prod.fst).Nodup) (named : isContentLength item.1 = true)
    {length : Int} (value : Text.int item.2 = some length)
    (after : ∀ other ∈ rest, isContentLength other.1 = false) :
    ((front ++ item :: rest).foldl acceptItem (Dict.empty, none)).2 = some length := by
  rw [List.foldl_append, List.foldl_cons, contentLength_foldl_of_no_item rest _ after]
  rw [List.map_append, List.map_cons, List.nodup_middle, List.nodup_cons, ← List.map_append]
    at nodup
  have front_nodup : (front.map Prod.fst).Nodup :=
    nodup.2.sublist ((List.sublist_append_left _ _).map _)
  have entries_eq := entries_foldl_acceptItem front (Dict.empty, none) front_nodup
    (by simp [Dict.keys, Dict.empty])
  have missing : (front.foldl acceptItem (Dict.empty, none)).1.contains item.1 = false := by
    rw [← Bool.not_eq_true, Dict.contains_iff, Dict.keys, entries_eq]
    intro member
    apply nodup.1
    rw [List.map_append]
    exact List.mem_append_left _ (by simpa [Dict.empty] using member)
  simp [acceptItem, missing, named, value]

theorem clean_framesToCommands (type : FrameType) :
    newline ∉ framesToCommands type ∧ null ∉ framesToCommands type ∧
      chomp (framesToCommands type) = framesToCommands type ∧
      isCommand (framesToCommands type) = true := by
  cases type <;> decide

/-- The reading of a body that has its announced length, or has none announced and no NUL. -/
theorem inBody_yields_body (type : FrameType) (block : Headers × Option Int)
    (previousByte : Option UInt8) (body : Bytes)
    (framed : (block.2 = none ∧ null ∉ body) ∨ block.2 = some (body.length : Int)) :
    (inBody (framesToCommands type) block [] previousByte).Yields (body ++ [null])
      [.frame (frameOfParts type block.1 body)] (idle (some null)) := by
  have text_read : ∃ lastByte,
      (inBody (framesToCommands type) block [] previousByte).Yields body []
        (inBody (framesToCommands type) block body lastByte) := by
    obtain ⟨headers, length⟩ := block
    rcases framed with ⟨unannounced, no_null⟩ | announced
    · obtain rfl : length = none := unannounced
      exact inBody_yields_text _ _ _ _ body no_null
    · obtain rfl : length = some (body.length : Int) := announced
      exact inBody_yields_counted (framesToCommands_ne_nil type) _ _ _ _ body (by simp; omega)
  obtain ⟨lastByte, text_read⟩ := text_read
  exact text_read.append (inBody_yields_null type _ _ _ (framed.imp And.left id))

/-- The reading of a command, non-blank header lines, a blank line and a body with NUL. -/
theorem idle_yields_frame (type : FrameType) (previousByte : Option UInt8) (lines : List Bytes)
    (clean : ∀ line ∈ lines, newline ∉ line ∧ null ∉ line ∧ chomp line ≠ []) (body : Bytes)
    (framed :
      (((lines.map chomp).foldl acceptLine (Dict.empty, none)).2 = none ∧ null ∉ body) ∨
        ((lines.map chomp).foldl acceptLine (Dict.empty, none)).2 = some (body.length : Int)) :
    (idle previousByte).Yields
      (framesToCommands type ++ [newline] ++ (lines.flatMap fun line => line ++ [newline]) ++
        [newline] ++ body ++ [null])
      [.frame (frameOfParts type ((lines.map chomp).foldl acceptLine (Dict.empty, none)).1 body)]
      (idle (some null)) := by
  obtain ⟨no_newline, no_null, whole_command, known⟩ := clean_framesToCommands type
  have commanded := framesToCommands_ne_nil type
  have command_read := idle_yields_line previousByte commanded no_newline no_null
  rw [whole_command, if_pos known] at command_read
  obtain ⟨lastByte, last_ne, lines_read⟩ := atHeaders_yields_lines commanded
    (Dict.empty, none) newline_ne_carriage lines clean
  generalize (lines.map chomp).foldl acceptLine (Dict.empty, none) = block at framed lines_read ⊢
  have blank_read := atHeaders_yields_blank commanded block last_ne
  have body_read := inBody_yields_body type block (some newline) body framed
  simpa using ((command_read.append lines_read).append blank_read).append body_read

end FrameParser

open FrameParser

theorem mem_sortedHeaders {headers : Headers} {item : String × String} :
    item ∈ sortedHeaders headers ↔ item ∈ headers.entries :=
  (List.perm_insertionSort itemLe headers.entries).mem_iff

theorem nodup_sortedHeaders (headers : Headers) :
    ((sortedHeaders headers).map Prod.fst).Nodup :=
  ((List.perm_insertionSort itemLe headers.entries).map Prod.fst).nodup_iff.mpr headers.nodup_keys

/-- The bytes of a dumped frame with escaped headers, line by line. -/
theorem dumpFrame_of_ne_connect {frame : Frame} (escaped : frame.type ≠ .connect) :
    dumpFrame frame =
      framesToCommands frame.type ++ [newline] ++
        (((sortedHeaders frame.headers).map fun item => headerLine item.1 item.2).flatMap
          fun line => line ++ [newline]) ++
        [newline] ++ frame.body ++ [null] := by
  have body_eq : (if frame.type.hasBody then frame.body else []) = frame.body := by
    split
    · rfl
    · rename_i no_body
      exact (frame.body_eq_nil (by simpa using no_body)).symm
  rw [dumpFrame, if_neg escaped, body_eq, List.flatMap_map]
  simp only [dumpHeader_eq]

/-- The header block of a dumped frame, as the parser accepts it. -/
def acceptedBlock (headers : Headers) : Headers × Option Int :=
  ((sortedHeaders headers).map withoutCarriagesItem).foldl acceptItem (Dict.empty, none)

theorem foldl_acceptLine_headerLines (items : List (String × String))
    (block : Headers × Option Int) :
    ((items.map fun item => headerLine item.1 item.2).map chomp).foldl acceptLine block =
      (items.map withoutCarriagesItem).foldl acceptItem block := by
  induction items generalizing block with
  | nil => rfl
  | cons item items ih =>
      simp only [List.map_cons, List.foldl_cons, acceptLine_headerLine]
      exact ih _

/-- Reading a dumped frame whose header texts have no NUL and whose accepted content length agrees
with its body. -/
theorem idle_yields_dumpFrame {frame : Frame} (escaped : frame.type ≠ .connect)
    (previousByte : Option UInt8)
    (no_null : ∀ item ∈ frame.headers.entries,
      '\x00' ∉ item.1.toList ∧ '\x00' ∉ item.2.toList)
    (framed : ((acceptedBlock frame.headers).2 = none ∧ null ∉ frame.body) ∨
      (acceptedBlock frame.headers).2 = some (frame.body.length : Int)) :
    (idle previousByte).Yields (dumpFrame frame)
      [.frame (frameOfParts frame.type (acceptedBlock frame.headers).1 frame.body)]
      (idle (some null)) := by
  rw [dumpFrame_of_ne_connect escaped]
  have block_eq := foldl_acceptLine_headerLines (sortedHeaders frame.headers) (Dict.empty, none)
  rw [acceptedBlock, ← block_eq] at framed ⊢
  apply idle_yields_frame
  · intro line member
    rw [List.mem_map] at member
    obtain ⟨item, item_mem, rfl⟩ := member
    have clean := no_null item (mem_sortedHeaders.mp item_mem)
    refine ⟨newline_not_mem_headerLine _ _, ?_, ?_⟩
    · rw [null_mem_headerLine, not_or]
      exact clean
    · rw [chomp_eq_self (carriage_not_mem_headerLine _ _)]
      exact headerLine_ne_nil _ _
  · exact framed

/-! ## Streams -/

/-- Frames that survive a round trip: escaped headers without carriage return and NUL, no second
spelling of `content-length`, and a body that is framed by NUL or by its own length. -/
structure Frame.RoundTrips (frame : Frame) : Prop where
  escaped : frame.type ≠ .connect
  clean : ∀ item ∈ frame.headers.entries,
    '\r' ∉ item.1.toList ∧ '\x00' ∉ item.1.toList ∧
      '\r' ∉ item.2.toList ∧ '\x00' ∉ item.2.toList
  spelled : ∀ item ∈ frame.headers.entries,
    isContentLength item.1 = true → item.1 = "content-length"
  framed :
    (frame.headers.get? "content-length" = none ∧ null ∉ frame.body) ∨
      ∃ text, frame.headers.get? "content-length" = some text ∧
        Text.str frame.body.length = some text

theorem withoutCarriagesItem_eq_self {item : String × String} (name : '\r' ∉ item.1.toList)
    (value : '\r' ∉ item.2.toList) : withoutCarriagesItem item = item := by
  rw [withoutCarriagesItem, withoutCarriages_eq_self name, withoutCarriages_eq_self value]

theorem Frame.RoundTrips.acceptedBlock_eq {frame : Frame} (valid : frame.RoundTrips) :
    acceptedBlock frame.headers =
      (sortedHeaders frame.headers).foldl acceptItem (Dict.empty, none) := by
  have unchanged : (sortedHeaders frame.headers).map withoutCarriagesItem =
      sortedHeaders frame.headers := by
    refine (List.map_congr_left fun item member => ?_).trans (List.map_id _)
    obtain ⟨name, _, value, _⟩ := valid.clean item (mem_sortedHeaders.mp member)
    exact withoutCarriagesItem_eq_self name value
  rw [acceptedBlock, unchanged]

/-- The accepted headers of a frame that round trips are its own, in sorted order. -/
theorem Frame.RoundTrips.entries_acceptedBlock {frame : Frame} (valid : frame.RoundTrips) :
    (acceptedBlock frame.headers).1.entries = sortedHeaders frame.headers := by
  rw [valid.acceptedBlock_eq, entries_foldl_acceptItem _ _ (nodup_sortedHeaders _)]
  · rfl
  · simp [Dict.keys, Dict.empty]

/-- The accepted content length of a frame that round trips agrees with its body. -/
theorem Frame.RoundTrips.framed_acceptedBlock {frame : Frame} (valid : frame.RoundTrips) :
    ((acceptedBlock frame.headers).2 = none ∧ null ∉ frame.body) ∨
      (acceptedBlock frame.headers).2 = some (frame.body.length : Int) := by
  have spelled : ∀ item ∈ sortedHeaders frame.headers,
      isContentLength item.1 = true → item.1 = "content-length" := fun item member =>
    valid.spelled item (mem_sortedHeaders.mp member)
  rw [valid.acceptedBlock_eq]
  rcases valid.framed with ⟨absent, no_null⟩ | ⟨text, present, printed⟩
  · refine .inl ⟨contentLength_foldl_of_no_item _ _ ?_, no_null⟩
    intro item member
    by_contra named
    have name := spelled item member (by simpa using named)
    have stored : frame.headers.get? "content-length" = some item.2 := by
      rw [Dict.get?_eq_some_iff, ← name]
      exact mem_sortedHeaders.mp member
    rw [absent] at stored
    contradiction
  · have member : ("content-length", text) ∈ sortedHeaders frame.headers :=
      mem_sortedHeaders.mpr ((Dict.get?_eq_some_iff _ _ _).mp present)
    have nodup := nodup_sortedHeaders frame.headers
    obtain ⟨front, rest, split⟩ := List.append_of_mem member
    rw [split] at nodup spelled ⊢
    have named : isContentLength "content-length" = true := by decide +kernel
    refine .inr (contentLength_foldl_of_item front rest _ nodup named
      (Text.int_of_str printed) ?_)
    intro other other_mem
    by_contra other_named
    have name := spelled other (by simp [other_mem]) (by simpa using other_named)
    rw [List.map_append, List.map_cons, List.nodup_middle, List.nodup_cons] at nodup
    apply nodup.1
    have listed : other.1 ∈ rest.map Prod.fst := List.mem_map_of_mem other_mem
    rw [name] at listed
    exact List.mem_append_right _ listed

/-- A dumped frame reads back as an equal frame. -/
theorem Frame.RoundTrips.yields {frame : Frame} (valid : frame.RoundTrips)
    (previousByte : Option UInt8) :
    ∃ read : Frame, read.Equal frame ∧
      (idle previousByte).Yields (dumpFrame frame) [.frame read] (idle (some null)) := by
  refine ⟨_, ?_, idle_yields_dumpFrame valid.escaped previousByte (fun item member => ?_)
    valid.framed_acceptedBlock⟩
  · have headers_equal : (acceptedBlock frame.headers).1.Equal frame.headers := by
      rw [Dict.Equal, valid.entries_acceptedBlock]
      exact List.perm_insertionSort itemLe frame.headers.entries
    unfold frameOfParts
    split
    · exact ⟨rfl, headers_equal, rfl⟩
    · rename_i no_body
      exact ⟨rfl, headers_equal, (frame.body_eq_nil (by simpa using no_body)).symm⟩
  · obtain ⟨_, name, _, value⟩ := valid.clean item member
    exact ⟨name, value⟩

/-- An element of a byte stream. -/
inductive StreamItem
  /-- A heartbeat. -/
  | heartbeat
  /-- A line that is no command. -/
  | noise (line : Bytes)
  /-- A dumped frame. -/
  | frame (frame : Frame)

namespace StreamItem

/-- Bytes of an element. -/
def encode : StreamItem → Bytes
  | .heartbeat => [newline]
  | .noise line => line ++ [newline]
  | .frame written => dumpFrame written

/-- What a parser should yield for an element. -/
def expected : StreamItem → List AnyFrame
  | .heartbeat => [.heartbeat]
  | .noise _ => []
  | .frame written => [.frame written]

/-- The elements that a stream may hold. -/
def Valid : StreamItem → Prop
  | .heartbeat => True
  | .noise line =>
      line ≠ [] ∧ newline ∉ line ∧ null ∉ line ∧ isCommand (chomp line) = false
  | .frame written => written.RoundTrips

/-- One element is read from any parser between frames, and leaves it between frames. -/
theorem yields {item : StreamItem} (valid : item.Valid) (previousByte : Option UInt8) :
    ∃ frames lastByte, (idle previousByte).Yields item.encode frames (idle lastByte) ∧
      List.Forall₂ AnyFrame.Equal frames item.expected := by
  cases item with
  | heartbeat =>
      exact ⟨_, _, idle_yields_newline previousByte, .cons trivial .nil⟩
  | noise line =>
      obtain ⟨nonempty, no_newline, no_null, unknown⟩ := valid
      have read := idle_yields_line previousByte nonempty no_newline no_null
      rw [if_neg (by simp [unknown])] at read
      exact ⟨_, _, read, .nil⟩
  | frame written =>
      obtain ⟨read, equal, yielded⟩ := Frame.RoundTrips.yields valid previousByte
      exact ⟨_, _, yielded, .cons equal .nil⟩

theorem yields_all (items : List StreamItem) (valid : ∀ item ∈ items, item.Valid)
    (previousByte : Option UInt8) :
    ∃ frames lastByte,
      (idle previousByte).Yields (items.flatMap encode) frames (idle lastByte) ∧
        List.Forall₂ AnyFrame.Equal frames (items.flatMap expected) := by
  induction items generalizing previousByte with
  | nil => exact ⟨[], previousByte, Yields.nil _, .nil⟩
  | cons item items ih =>
      obtain ⟨first, middle, head, head_equal⟩ :=
        yields (valid item List.mem_cons_self) previousByte
      obtain ⟨later, last, tail, tail_equal⟩ :=
        ih (fun other member => valid other (List.mem_cons_of_mem _ member)) middle
      exact ⟨first ++ later, last, head.append tail, List.rel_append head_equal tail_equal⟩

/-- However a stream of heartbeats, noise lines and dumped frames is cut into chunks, one fresh
parser yields exactly its heartbeats and frames, in order. -/
theorem parseChunks_round_trip (items : List StreamItem) (valid : ∀ item ∈ items, item.Valid)
    (chunks : List Bytes) (cut : chunks.flatten = items.flatMap encode) :
    ∃ last frames, ({} : FrameParser).parseChunks chunks = .ok (last, frames) ∧
      List.Forall₂ AnyFrame.Equal frames (items.flatMap expected) := by
  obtain ⟨frames, lastByte, read, equal⟩ := yields_all items valid none
  rw [← cut] at read
  refine ⟨idle lastByte, frames, ?_, equal⟩
  rw [parseChunks_eq]
  exact read

/-- A message whose header value needs escapes and whose body holds NUL and a newline. -/
def sampleMessage : Frame where
  type := .message
  headers := Dict.empty.update [("destination", "a:b\\\n"), ("content-length", "3")]
  body := [null, newline, 83]
  body_eq_nil := by decide

theorem sampleMessage_roundTrips : sampleMessage.RoundTrips where
  escaped := by decide
  clean := by decide +kernel
  spelled := by decide +kernel
  framed := .inr ⟨"3", by decide +kernel, by decide +kernel⟩

/-- A noise line, a heartbeat and a frame, cut inside the noise line and inside the body. -/
theorem parseChunks_round_trip_sample :
    ∃ last frames,
      ({} : FrameParser).parseChunks
          [[120], [], [carriage, newline, newline] ++ (dumpFrame sampleMessage).take 50,
            (dumpFrame sampleMessage).drop 50] = .ok (last, frames) ∧
        List.Forall₂ AnyFrame.Equal frames [.heartbeat, .frame sampleMessage] := by
  refine parseChunks_round_trip [.noise [120, carriage], .heartbeat, .frame sampleMessage] ?_ _ ?_
  · intro item member
    simp only [List.mem_cons, List.not_mem_nil, or_false] at member
    rcases member with rfl | rfl | rfl
    · exact ⟨by decide, by decide, by decide, by decide⟩
    · trivial
    · exact sampleMessage_roundTrips
  · simp [encode]

end StreamItem

end Stompman
