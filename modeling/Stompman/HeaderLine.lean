import Stompman.Serde

/-!
# Header lines

`parse_header` undoes escapes with a flag and the previous byte instead of consuming them in pairs.
This file shows that it computes the pairwise reading of the two halves around the only colon, and
that the reading of a line written by `dump_header` gives back the header without its carriage
returns.
-/

namespace Stompman

open Foundation

/-- Pairwise unescaping of one half of a header line.  An unknown escape is dropped, and so is a
backslash at the end. -/
def unescape : Bytes → Bytes
  | [] => []
  | [byte] => if byte = backslash then [] else [byte]
  | byte :: next :: rest =>
      if byte = backslash then (headerUnescapeChars next).toList ++ unescape rest
      else byte :: unescape (next :: rest)

theorem unescape_cons_of_ne {byte : UInt8} (plain : byte ≠ backslash) (rest : Bytes) :
    unescape (byte :: rest) = byte :: unescape rest := by
  cases rest with
  | nil => simp [unescape, plain]
  | cons next rest => simp [unescape, plain]

theorem unescape_append_of_plain (front rest : Bytes) (plain : backslash ∉ front) :
    unescape (front ++ rest) = front ++ unescape rest := by
  induction front with
  | nil => rfl
  | cons byte front ih =>
      rw [List.mem_cons, not_or] at plain
      rw [List.cons_append, unescape_cons_of_ne (Ne.symm plain.1), ih plain.2, List.cons_append]

namespace HeaderScan

/-- No escape is pending: the next byte is read on its own. -/
def Ready (scan : HeaderScan) : Prop :=
  scan.justEscapedLine = true ∨ scan.previousByte ≠ some backslash

/-- Extend the buffer of the current half by several bytes. -/
def extendAll (scan : HeaderScan) (bytes : Bytes) : HeaderScan :=
  if scan.keyParsed then { scan with valueBuffer := scan.valueBuffer ++ bytes }
  else { scan with keyBuffer := scan.keyBuffer ++ bytes }

/-- Two scans agree on what has been read, whatever their escape flags. -/
def SameBuffers (left right : HeaderScan) : Prop :=
  left.keyBuffer = right.keyBuffer ∧ left.valueBuffer = right.valueBuffer ∧
    left.keyParsed = right.keyParsed

theorem SameBuffers.extendAll {left right : HeaderScan} (same : left.SameBuffers right)
    (bytes : Bytes) : (left.extendAll bytes).SameBuffers (right.extendAll bytes) := by
  obtain ⟨key, value, parsed⟩ := same
  unfold HeaderScan.extendAll
  rw [parsed]
  split <;> simp [SameBuffers, key, value]

theorem SameBuffers.trans {left middle right : HeaderScan} (first : left.SameBuffers middle)
    (second : middle.SameBuffers right) : left.SameBuffers right :=
  ⟨first.1.trans second.1, first.2.1.trans second.2.1, first.2.2.trans second.2.2⟩

theorem extendAll_append (scan : HeaderScan) (first second : Bytes) :
    (scan.extendAll first).extendAll second = scan.extendAll (first ++ second) := by
  unfold extendAll
  cases scan.keyParsed <;> simp

@[simp]
theorem extendAll_nil (scan : HeaderScan) : scan.extendAll [] = scan := by
  unfold extendAll
  split <;> simp

@[simp]
theorem keyParsed_extendAll (scan : HeaderScan) (bytes : Bytes) :
    (scan.extendAll bytes).keyParsed = scan.keyParsed := by
  unfold extendAll
  split <;> rfl

/-- A byte that is neither a colon nor a backslash is copied when no escape is pending. -/
theorem step_plain {scan : HeaderScan} (ready : scan.Ready) {byte : UInt8}
    (not_colon : byte ≠ colon) (plain : byte ≠ backslash) :
    ∃ next, scan.step byte = some next ∧ next.Ready ∧
      next.SameBuffers (scan.extendAll [byte]) := by
  unfold step
  rw [if_neg not_colon]
  by_cases flag : scan.justEscapedLine
  · rw [if_pos flag]
    refine ⟨_, rfl, .inr ?_, ?_⟩
    · simpa using plain
    · simp only [plain, ne_eq, not_false_eq_true, if_true, extend, extendAll]
      split <;> simp [SameBuffers]
  · rw [if_neg flag]
    have previous : scan.previousByte ≠ some backslash := ready.resolve_left flag
    rw [unescapeByte, if_neg previous, if_neg plain]
    refine ⟨_, rfl, .inl ?_, ?_⟩
    · simp only [extend]
      split <;> rfl
    · simp only [extend, extendAll]
      split <;> simp [SameBuffers]

/-- A backslash only opens an escape when none is pending. -/
theorem step_backslash {scan : HeaderScan} (ready : scan.Ready) :
    ∃ next, scan.step backslash = some next ∧ next.justEscapedLine = false ∧
      next.previousByte = some backslash ∧ next.SameBuffers scan := by
  unfold step
  rw [if_neg (by decide)]
  by_cases flag : scan.justEscapedLine
  · rw [if_pos flag]
    exact ⟨_, rfl, by simp [SameBuffers]⟩
  · rw [if_neg flag]
    have previous : scan.previousByte ≠ some backslash := ready.resolve_left flag
    rw [unescapeByte, if_neg previous, if_pos rfl]
    exact ⟨_, rfl, by simpa using flag, rfl, rfl, rfl, rfl⟩

/-- The byte after an opening backslash is replaced or dropped. -/
theorem step_escaped {scan : HeaderScan} (flag : scan.justEscapedLine = false)
    (previous : scan.previousByte = some backslash) {byte : UInt8} (not_colon : byte ≠ colon) :
    ∃ next, scan.step byte = some next ∧ next.Ready ∧
      next.SameBuffers (scan.extendAll (headerUnescapeChars byte).toList) := by
  unfold step
  rw [if_neg not_colon, if_neg (by simp [flag]), unescapeByte, if_pos previous]
  cases found : headerUnescapeChars byte with
  | none =>
      have plain : byte ≠ backslash := by
        rintro rfl
        exact absurd found (by decide)
      refine ⟨_, rfl, .inr ?_, ?_⟩
      · simpa using plain
      · simp [SameBuffers]
  | some unescaped =>
      refine ⟨_, rfl, .inl ?_, ?_⟩
      · simp only [extend]
        split <;> rfl
      · simp only [extend, extendAll, Option.toList]
        split <;> simp [SameBuffers]

theorem run_append (scan : HeaderScan) (front rest : Bytes) :
    scan.run (front ++ rest) = (scan.run front).bind fun next => next.run rest := by
  induction front generalizing scan with
  | nil => rfl
  | cons byte front ih =>
      simp only [List.cons_append, run]
      cases scan.step byte with
      | none => rfl
      | some next => exact ih next

/-- Reading one half of a line extends its buffer by the unescaped half. -/
theorem run_half (half : Bytes) (no_colon : colon ∉ half) {scan : HeaderScan}
    (ready : scan.Ready) :
    ∃ next, scan.run half = some next ∧ next.SameBuffers (scan.extendAll (unescape half)) := by
  induction half using unescape.induct generalizing scan with
  | case1 => exact ⟨scan, rfl, by simp [unescape, SameBuffers]⟩
  | case2 =>
      obtain ⟨next, stepped, _, _, same⟩ := step_backslash ready
      refine ⟨next, by simp [run, stepped], ?_⟩
      simpa [unescape] using same
  | case3 byte plain =>
      have not_colon : byte ≠ colon := fun equal => no_colon (by simp [equal])
      obtain ⟨next, stepped, _, same⟩ := step_plain ready not_colon plain
      refine ⟨next, by simp [run, stepped], ?_⟩
      simpa [unescape, plain] using same
  | case4 next rest ih =>
      have next_ne : next ≠ colon := fun equal => no_colon (by simp [equal])
      have rest_free : colon ∉ rest := fun member => no_colon (by simp [member])
      obtain ⟨opened, opens, flag, previous, same_opened⟩ := step_backslash ready
      obtain ⟨closed, closes, closed_ready, same_closed⟩ := step_escaped flag previous next_ne
      obtain ⟨last, runs, same_last⟩ := ih rest_free closed_ready
      refine ⟨last, by simp [run, opens, closes, runs], ?_⟩
      rw [unescape, if_pos rfl, ← extendAll_append]
      exact same_last.trans
        ((same_closed.trans (same_opened.extendAll _)).extendAll _)
  | case5 byte next rest plain ih =>
      have not_colon : byte ≠ colon := fun equal => no_colon (by simp [equal])
      have rest_free : colon ∉ next :: rest := fun member =>
        no_colon (List.mem_cons_of_mem _ member)
      obtain ⟨copied, copies, copied_ready, same_copied⟩ := step_plain ready not_colon plain
      obtain ⟨last, runs, same_last⟩ := ih rest_free copied_ready
      refine ⟨last, ?_, ?_⟩
      · rw [run, copies]
        exact runs
      · rw [unescape_cons_of_ne plain, ← List.singleton_append, ← extendAll_append]
        exact same_last.trans (same_copied.extendAll _)

@[simp]
theorem keyParsed_extend (scan : HeaderScan) (byte : UInt8) :
    (scan.extend byte).keyParsed = scan.keyParsed := by
  unfold extend
  split <;> rfl

theorem keyParsed_of_step {scan next : HeaderScan} (parsed : scan.keyParsed = true) {byte : UInt8}
    (stepped : scan.step byte = some next) : next.keyParsed = true := by
  unfold step at stepped
  split at stepped
  · simp at stepped
  · split at stepped
    · obtain rfl := Option.some.inj stepped
      split <;> simp [parsed]
    · split at stepped <;> obtain rfl := Option.some.inj stepped <;> simp [parsed]

/-- A second colon ends the scan without a header. -/
theorem run_of_second_colon {scan : HeaderScan} (parsed : scan.keyParsed = true)
    (front rest : Bytes) : scan.run (front ++ colon :: rest) = none := by
  induction front generalizing scan with
  | nil => simp [run, step, parsed]
  | cons byte front ih =>
      rw [List.cons_append, run]
      cases stepped : scan.step byte with
      | none => rfl
      | some next => exact ih (keyParsed_of_step parsed stepped)

end HeaderScan

/-- A line without a colon is no header. -/
theorem parseHeader_of_no_colon {line : Bytes} (no_colon : colon ∉ line) :
    parseHeader line = none := by
  obtain ⟨scan, runs, _, _, parsed⟩ :=
    @HeaderScan.run_half line no_colon {} (.inr (by simp))
  rw [HeaderScan.keyParsed_extendAll] at parsed
  simp [parseHeader, runs, parsed]

/-- A line with exactly one colon is the header of its unescaped halves, if they decode. -/
theorem parseHeader_of_one_colon {key value : Bytes} (key_free : colon ∉ key)
    (value_free : colon ∉ value) :
    parseHeader (key ++ colon :: value) =
      (Text.decode (unescape key)).bind fun name =>
        (Text.decode (unescape value)).map fun content => (name, content) := by
  obtain ⟨first, first_runs, first_key, first_value, first_parsed⟩ :=
    @HeaderScan.run_half key key_free {} (.inr (by simp))
  simp only [HeaderScan.extendAll, Bool.false_eq_true, if_false, List.nil_append]
    at first_key first_value first_parsed
  let middle : HeaderScan := { first with keyParsed := true, previousByte := some colon }
  have crosses : first.step colon = some middle := by
    simp [HeaderScan.step, first_parsed, middle]
  obtain ⟨last, last_runs, last_key, last_value, last_parsed⟩ :=
    @HeaderScan.run_half value value_free middle (.inr (by simp [middle]; decide))
  simp only [HeaderScan.extendAll, middle, if_true, first_key, first_value, List.nil_append]
    at last_key last_value last_parsed
  have whole : HeaderScan.run {} (key ++ colon :: value) = some last := by
    rw [HeaderScan.run_append, first_runs, Option.bind_some, HeaderScan.run, crosses]
    exact last_runs
  simp [parseHeader, whole, last_parsed, last_key, last_value]

/-- A line with two colons is no header. -/
theorem parseHeader_of_two_colons {key value : Bytes} (key_free : colon ∉ key)
    (again : colon ∈ value) : parseHeader (key ++ colon :: value) = none := by
  obtain ⟨first, first_runs, _, _, first_parsed⟩ :=
    @HeaderScan.run_half key key_free {} (.inr (by simp))
  rw [HeaderScan.keyParsed_extendAll] at first_parsed
  obtain ⟨front, rest, rfl⟩ := List.append_of_mem again
  have crosses : first.step colon =
      some { first with keyParsed := true, previousByte := some colon } := by
    simp [HeaderScan.step, first_parsed]
  rw [parseHeader, HeaderScan.run_append, first_runs, Option.bind_some, HeaderScan.run, crosses,
    Option.bind_some, HeaderScan.run_of_second_colon rfl]
  rfl

/-! ## The reading of a line -/

/-- What one half of a header line stands for, read from left to right. -/
inductive Unescapes : Bytes → Bytes → Prop
  | nil : Unescapes [] []
  /-- A backslash at the end of the half is dropped. -/
  | lone : Unescapes [backslash] []
  /-- A backslash and `n`. -/
  | newlineEscape {rest bytes : Bytes} (reads : Unescapes rest bytes) :
      Unescapes (backslash :: 110 :: rest) (newline :: bytes)
  /-- A backslash and `c`. -/
  | colonEscape {rest bytes : Bytes} (reads : Unescapes rest bytes) :
      Unescapes (backslash :: 99 :: rest) (colon :: bytes)
  /-- Two backslashes. -/
  | backslashEscape {rest bytes : Bytes} (reads : Unescapes rest bytes) :
      Unescapes (backslash :: backslash :: rest) (backslash :: bytes)
  /-- A backslash and any other byte are dropped. -/
  | unknownEscape {byte : UInt8} (unknown : byte ∉ [110, 99, backslash]) {rest bytes : Bytes}
      (reads : Unescapes rest bytes) : Unescapes (backslash :: byte :: rest) bytes
  | plain {byte : UInt8} (plain : byte ≠ backslash) {rest bytes : Bytes}
      (reads : Unescapes rest bytes) : Unescapes (byte :: rest) (byte :: bytes)

theorem headerUnescapeChars_of_unknown {byte : UInt8} (unknown : byte ∉ [110, 99, backslash]) :
    headerUnescapeChars byte = none := by
  simp only [List.mem_cons, List.not_mem_nil, or_false, not_or] at unknown
  simp [headerUnescapeChars, unknown]

/-- Every half is read in exactly one way. -/
theorem unescapes_iff (half bytes : Bytes) : Unescapes half bytes ↔ unescape half = bytes := by
  constructor
  · intro reads
    induction reads with
    | nil => rfl
    | lone => rfl
    | newlineEscape _ ih =>
        rw [unescape, if_pos rfl, ih]
        rfl
    | colonEscape _ ih =>
        rw [unescape, if_pos rfl, ih]
        rfl
    | backslashEscape _ ih =>
        rw [unescape, if_pos rfl, ih]
        rfl
    | unknownEscape unknown _ ih =>
        rw [unescape, if_pos rfl, headerUnescapeChars_of_unknown unknown, ih]
        rfl
    | plain plain _ ih => rw [unescape_cons_of_ne plain, ih]
  · rintro rfl
    induction half using unescape.induct with
    | case1 => exact .nil
    | case2 => exact .lone
    | case3 byte plain =>
        rw [unescape_cons_of_ne plain]
        exact .plain plain .nil
    | case4 next rest ih =>
        rw [unescape, if_pos rfl]
        by_cases known : next ∈ [110, 99, backslash]
        · simp only [List.mem_cons, List.not_mem_nil, or_false] at known
          rcases known with rfl | rfl | rfl
          · exact .newlineEscape ih
          · exact .colonEscape ih
          · exact .backslashEscape ih
        · rw [headerUnescapeChars_of_unknown known]
          exact .unknownEscape known ih
    | case5 byte next rest plain ih =>
        rw [unescape_cons_of_ne plain]
        exact .plain plain ih

/-- A half is read as a text: its unescaped bytes are the UTF-8 form of the text. -/
def Spells (half : Bytes) (text : String) : Prop :=
  ∃ bytes, Unescapes half bytes ∧ Text.decode bytes = some text

theorem spells_iff (half : Bytes) (text : String) :
    Spells half text ↔ Text.decode (unescape half) = some text := by
  simp [Spells, unescapes_iff]

/-- A line is the header that its halves around its only colon spell, and no other line is a
header. -/
theorem parseHeader_eq_some_iff (line : Bytes) (header : String × String) :
    parseHeader line = some header ↔
      ∃ key value, line = key ++ colon :: value ∧ colon ∉ key ∧ colon ∉ value ∧
        Spells key header.1 ∧ Spells value header.2 := by
  constructor
  · intro parsed
    by_cases present : colon ∈ line
    · obtain ⟨key, value, rfl, key_free⟩ := List.eq_append_cons_of_mem present
      by_cases again : colon ∈ value
      · rw [parseHeader_of_two_colons key_free again] at parsed
        contradiction
      · rw [parseHeader_of_one_colon key_free again] at parsed
        obtain ⟨name, named, rest⟩ := Option.bind_eq_some_iff.mp parsed
        obtain ⟨content, contained, rfl⟩ := Option.map_eq_some_iff.mp rest
        exact ⟨key, value, rfl, key_free, again, (spells_iff key name).mpr named,
          (spells_iff value content).mpr contained⟩
    · rw [parseHeader_of_no_colon present] at parsed
      contradiction
  · rintro ⟨key, value, rfl, key_free, value_free, named, contained⟩
    rw [spells_iff] at named contained
    rw [parseHeader_of_one_colon key_free value_free, named, contained]
    rfl

/-! ## Lines written by `dump_header` -/

/-- A text without its carriage returns. -/
def withoutCarriages (text : String) : String :=
  String.ofList (text.toList.filter fun char => char ≠ '\r')

theorem withoutCarriages_eq_self {text : String} (free : '\r' ∉ text.toList) :
    withoutCarriages text = text := by
  rw [withoutCarriages, List.filter_eq_self.mpr, String.ofList_toList]
  intro char member
  simp only [ne_eq, decide_eq_true_eq]
  rintro rfl
  exact free member

/-- Bytes written for one character of a header name or value. -/
def escapeBytes (char : Char) : Bytes := (escapeChar char).flatMap String.utf8EncodeChar

theorem encode_escape (text : String) :
    Text.encode (escape text) = text.toList.flatMap escapeBytes := by
  rw [escape, Text.encode_ofList, List.flatMap_assoc]
  rfl

theorem escapeBytes_of_plain {char : Char} (no_newline : char ≠ '\n') (no_colon : char ≠ ':')
    (no_backslash : char ≠ '\\') (no_carriage : char ≠ '\r') :
    escapeBytes char = String.utf8EncodeChar char := by
  simp [escapeBytes, escapeChar, no_newline, no_colon, no_backslash, no_carriage]

/-- A delimiter other than the backslash and NUL never occurs in escaped bytes. -/
theorem not_mem_escapeBytes {byte : UInt8} (delimiter : byte ∈ [newline, carriage, colon])
    (char : Char) : byte ∉ escapeBytes char := by
  by_cases special : char ∈ ['\n', ':', '\\', '\r']
  · have all_special : ∀ delimiter ∈ [newline, carriage, colon],
        ∀ special ∈ ['\n', ':', '\\', '\r'], delimiter ∉ escapeBytes special := by
      simp only [List.mem_cons, List.not_mem_nil, or_false, forall_eq_or_imp, forall_eq]
      decide
    exact all_special byte delimiter char special
  · simp only [List.mem_cons, List.not_mem_nil, or_false, not_or] at special
    rw [escapeBytes_of_plain special.1 special.2.1 special.2.2.1 special.2.2.2]
    intro member
    have code : ∀ delimiter ∈ [newline, carriage, colon],
        delimiter.toNat < 128 ∧ ∃ other ∈ ['\n', ':', '\r'], delimiter.toNat = other.toNat := by
      simp only [List.mem_cons, List.not_mem_nil, or_false, forall_eq_or_imp, forall_eq,
        exists_eq_or_imp, exists_eq_left]
      decide
    obtain ⟨small, other, other_special, byte_eq⟩ := code byte delimiter
    have char_eq : char = other := by
      rw [← Char.toNat_inj, ← byte_eq]
      exact (Text.toNat_of_mem_utf8EncodeChar small member).symm
    subst char_eq
    simp only [List.mem_cons, List.not_mem_nil, or_false] at other_special
    rcases other_special with equal | equal | equal
    · exact special.1 equal
    · exact special.2.1 equal
    · exact special.2.2.2 equal

/-- An escaped text has no newline, carriage return or colon byte. -/
theorem not_mem_encode_escape {byte : UInt8} (delimiter : byte ∈ [newline, carriage, colon])
    (text : String) : byte ∉ Text.encode (escape text) := by
  rw [encode_escape, List.mem_flatMap]
  rintro ⟨char, _, member⟩
  exact not_mem_escapeBytes delimiter char member

/-- A NUL byte survives escaping and is never produced by it. -/
theorem null_mem_encode_escape (text : String) :
    null ∈ Text.encode (escape text) ↔ '\x00' ∈ text.toList := by
  have transfers : null ∈ Text.encode (escape text) ↔ '\x00' ∈ (escape text).toList :=
    @Text.mem_encode_iff '\x00' (by decide) (escape text)
  rw [transfers, escape, String.toList_ofList, List.mem_flatMap]
  constructor
  · rintro ⟨char, member, found⟩
    unfold escapeChar at found
    split at found
    · simp at found
    · split at found
      · simp at found
      · split at found
        · simp at found
        · split at found
          · simp at found
          · rw [List.mem_singleton] at found
            rwa [found]
  · intro member
    exact ⟨_, member, by decide⟩

/-- Unescaping reads back one escaped character. -/
theorem unescape_escapeBytes_append (char : Char) (rest : Bytes) :
    unescape (escapeBytes char ++ rest) =
      (if char = '\r' then [] else String.utf8EncodeChar char) ++ unescape rest := by
  by_cases newline_char : char = '\n'
  · subst newline_char
    rfl
  by_cases colon_char : char = ':'
  · subst colon_char
    rfl
  by_cases backslash_char : char = '\\'
  · subst backslash_char
    rfl
  by_cases carriage_char : char = '\r'
  · subst carriage_char
    rfl
  rw [escapeBytes_of_plain newline_char colon_char backslash_char carriage_char,
    if_neg carriage_char]
  apply unescape_append_of_plain
  intro member
  apply backslash_char
  rw [← Char.toNat_inj]
  exact (@Text.toNat_of_mem_utf8EncodeChar char backslash (by decide) member).symm

/-- Unescaping an escaped text drops exactly its carriage returns. -/
theorem unescape_encode_escape (text : String) :
    unescape (Text.encode (escape text)) = Text.encode (withoutCarriages text) := by
  rw [encode_escape, withoutCarriages, Text.encode_ofList]
  generalize text.toList = chars
  induction chars with
  | nil => rfl
  | cons char chars ih =>
      rw [List.flatMap_cons, unescape_escapeBytes_append, ih]
      by_cases carriage_char : char = '\r'
      · simp [carriage_char]
      · simp [carriage_char]

/-- The line that `dump_header` writes before its newline. -/
def headerLine (key value : String) : Bytes :=
  Text.encode (escape key) ++ colon :: Text.encode (escape value)

theorem dumpHeader_eq (key value : String) :
    dumpHeader key value = headerLine key value ++ [newline] := by
  have colon_bytes : Text.encode ":" = [colon] := by decide
  have newline_bytes : Text.encode "\n" = [newline] := by decide
  simp [dumpHeader, headerLine, colon_bytes, newline_bytes]

/-- A written header line reads back as the header without its carriage returns. -/
theorem parseHeader_headerLine (key value : String) :
    parseHeader (headerLine key value) = some (withoutCarriages key, withoutCarriages value) := by
  rw [headerLine, parseHeader_of_one_colon (not_mem_encode_escape (by decide) key)
    (not_mem_encode_escape (by decide) value), unescape_encode_escape, unescape_encode_escape,
    Text.decode_encode, Text.decode_encode]
  rfl

theorem headerLine_ne_nil (key value : String) : headerLine key value ≠ [] := by
  simp [headerLine]

theorem newline_not_mem_headerLine (key value : String) : newline ∉ headerLine key value := by
  simp [headerLine, @not_mem_encode_escape newline (by decide),
    show newline ≠ colon by decide]

theorem carriage_not_mem_headerLine (key value : String) : carriage ∉ headerLine key value := by
  simp [headerLine, @not_mem_encode_escape carriage (by decide),
    show carriage ≠ colon by decide]

theorem null_mem_headerLine (key value : String) :
    null ∈ headerLine key value ↔ '\x00' ∈ key.toList ∨ '\x00' ∈ value.toList := by
  simp [headerLine, null_mem_encode_escape, show null ≠ colon by decide]

end Stompman
