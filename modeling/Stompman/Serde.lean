import Mathlib.Data.List.Sort
import Stompman.Frames

/-!
# Serialisation and incremental parsing

The functions of `serde.py`.  `dumpFrame` writes a frame; `FrameParser` reads a byte stream one byte
at a time and yields the frames it completes.  Exceptions that the parser could raise are kept as
`ParserError`, so that their absence is a theorem and not a modelling decision.
-/

namespace Stompman

open Foundation

/-- `NEWLINE`. -/
def newline : UInt8 := 10
/-- `CARRIAGE`. -/
def carriage : UInt8 := 13
/-- `NULL`. -/
def null : UInt8 := 0
/-- `BACKSLASH`. -/
def backslash : UInt8 := 92
/-- `COLON_`. -/
def colon : UInt8 := 58

/-! ## Commands -/

/-- `COMMANDS_TO_FRAMES`. -/
def commandsToFrames : List (Bytes × FrameType) :=
  [(Text.encode "SEND", .send),
    (Text.encode "SUBSCRIBE", .subscribe),
    (Text.encode "UNSUBSCRIBE", .unsubscribe),
    (Text.encode "BEGIN", .begin),
    (Text.encode "COMMIT", .commit),
    (Text.encode "ABORT", .abort),
    (Text.encode "ACK", .ack),
    (Text.encode "NACK", .nack),
    (Text.encode "DISCONNECT", .disconnect),
    (Text.encode "CONNECT", .connect),
    (Text.encode "STOMP", .stomp),
    (Text.encode "CONNECTED", .connected),
    (Text.encode "MESSAGE", .message),
    (Text.encode "RECEIPT", .receipt),
    (Text.encode "ERROR", .error)]

/-- Membership of a byte string among the keys of `COMMANDS_TO_FRAMES`. -/
def isCommand (bytes : Bytes) : Bool := (commandsToFrames.lookup bytes).isSome

/-- `FRAMES_TO_COMMANDS`, the inverse of `COMMANDS_TO_FRAMES`. -/
def framesToCommands (type : FrameType) : Bytes :=
  ((commandsToFrames.map Prod.swap).lookup type).getD []

/-! ## Dumping -/

/-- `HEADER_ESCAPE_CHARS.get(char, char)`. -/
def escapeChar (char : Char) : List Char :=
  if char = '\n' then ['\\', 'n']
  else if char = ':' then ['\\', 'c']
  else if char = '\\' then ['\\', '\\']
  else if char = '\r' then []
  else [char]

/-- The joined escapes of a header name or value. -/
def escape (text : String) : String := String.ofList (text.toList.flatMap escapeChar)

/-- `dump_header`. -/
def dumpHeader (key value : String) : Bytes :=
  Text.encode (escape key ++ ":" ++ escape value ++ "\n")

/-- Order of `(name, value)` pairs under `sorted`. -/
def itemLe (left right : String × String) : Prop :=
  left.1 < right.1 ∨ left.1 = right.1 ∧ left.2 ≤ right.2

instance (left right : String × String) : Decidable (itemLe left right) :=
  inferInstanceAs (Decidable (_ ∨ _))

/-- `sorted(headers.items())`. -/
def sortedHeaders (headers : Headers) : List (String × String) :=
  headers.entries.insertionSort itemLe

/-- `dump_frame`.  The headers of a `ConnectFrame` are written as they are. -/
def dumpFrame (frame : Frame) : Bytes :=
  let dumpedHeaders :=
    if frame.type = .connect then
      (sortedHeaders frame.headers).flatMap fun item =>
        Text.encode (item.1 ++ ":" ++ item.2 ++ "\n")
    else
      (sortedHeaders frame.headers).flatMap fun item => dumpHeader item.1 item.2
  framesToCommands frame.type ++ [newline] ++ dumpedHeaders ++ [newline] ++
    (if frame.type.hasBody then frame.body else []) ++ [null]

/-! ## Header lines -/

/-- `HEADER_UNESCAPE_CHARS.get(byte)`. -/
def headerUnescapeChars (byte : UInt8) : Option UInt8 :=
  if byte = 110 then some newline
  else if byte = 99 then some colon
  else if byte = backslash then some backslash
  else none

/-- `unescape_byte`. -/
def unescapeByte (byte : UInt8) (previousByte : Option UInt8) : Option UInt8 :=
  if previousByte = some backslash then headerUnescapeChars byte
  else if byte = backslash then none
  else some byte

/-- Local variables of `parse_header`. -/
structure HeaderScan where
  keyBuffer : Bytes := []
  valueBuffer : Bytes := []
  keyParsed : Bool := false
  previousByte : Option UInt8 := none
  justEscapedLine : Bool := false
  deriving DecidableEq

/-- Extend the buffer of the half that is being read. -/
def HeaderScan.extend (scan : HeaderScan) (byte : UInt8) : HeaderScan :=
  if scan.keyParsed then { scan with valueBuffer := scan.valueBuffer ++ [byte] }
  else { scan with keyBuffer := scan.keyBuffer ++ [byte] }

/-- One iteration of the loop of `parse_header`; `none` is the early `return None`. -/
def HeaderScan.step (scan : HeaderScan) (byte : UInt8) : Option HeaderScan :=
  if byte = colon then
    if scan.keyParsed then none
    else some { scan with keyParsed := true, previousByte := some byte }
  else if scan.justEscapedLine then
    let scan := { scan with justEscapedLine := false }
    let scan := if byte ≠ backslash then scan.extend byte else scan
    some { scan with previousByte := some byte }
  else
    match unescapeByte byte scan.previousByte with
    | some unescaped =>
        let scan := { scan with justEscapedLine := true }
        some { scan.extend unescaped with previousByte := some byte }
    | none => some { scan with previousByte := some byte }

/-- The loop of `parse_header`. -/
def HeaderScan.run : HeaderScan → Bytes → Option HeaderScan
  | scan, [] => some scan
  | scan, byte :: bytes => (scan.step byte).bind fun next => next.run bytes

/-- `parse_header`. -/
def parseHeader (buffer : Bytes) : Option (String × String) :=
  (HeaderScan.run {} buffer).bind fun scan =>
    if scan.keyParsed then
      (Text.decode scan.keyBuffer).bind fun key =>
        (Text.decode scan.valueBuffer).map fun value => (key, value)
    else none

/-! ## The incremental parser -/

/-- Exceptions of the operations of `FrameParser` that are partial. -/
inductive ParserError
  /-- `COMMANDS_TO_FRAMES[command]` on an unknown command. -/
  | keyError
  /-- `bytearray.pop` on an empty buffer. -/
  | indexError
  deriving DecidableEq, Repr

/-- `make_frame_from_parts`. -/
def makeFrameFromParts (command : Bytes) (headers : Headers) (body : Bytes) :
    Except ParserError Frame :=
  match commandsToFrames.lookup command with
  | none => .error .keyError
  | some type =>
      if with_body : type.hasBody then .ok ⟨type, headers, body, by simp [with_body]⟩
      else .ok (Frame.bodyless type headers)

/-- Fields of `FrameParser`. -/
structure FrameParser where
  currentBuf : Bytes := []
  previousByte : Option UInt8 := none
  headersProcessed : Bool := false
  command : Option Bytes := none
  headers : Headers := Dict.empty
  contentLength : Option Int := none
  deriving DecidableEq

namespace FrameParser

/-- `FrameParser._reset`. -/
def reset (parser : FrameParser) : FrameParser :=
  { previousByte := parser.previousByte }

/-- Truth value of `self._command`. -/
def hasCommand (parser : FrameParser) : Bool :=
  match parser.command with
  | some (_ :: _) => true
  | _ => false

/-- `FrameParser._handle_null_byte`. -/
def handleNullByte (parser : FrameParser) : Except ParserError (FrameParser × List AnyFrame) :=
  if parser.hasCommand = false ∨ parser.headersProcessed = false then
    .ok (parser.reset, [])
  else if parser.contentLength ≠ none ∧
      parser.contentLength ≠ some (parser.currentBuf.length : Int) then
    .ok ({ parser with currentBuf := parser.currentBuf ++ [null] }, [])
  else do
    let frame ← makeFrameFromParts (parser.command.getD []) parser.headers parser.currentBuf
    .ok (parser.reset, [.frame frame])

/-- `FrameParser._process_command`. -/
def processCommand (parser : FrameParser) : FrameParser :=
  if isCommand parser.currentBuf then
    { parser with command := some parser.currentBuf, currentBuf := [] }
  else parser.reset

/-- The case-insensitive test for a content-length header.  No character outside ASCII has a
lower-case form with a letter of this name, so lowering the ASCII letters decides it. -/
def isContentLength (key : String) : Bool := key.toLower = "content-length"

/-- `FrameParser._process_header`. -/
def processHeader (parser : FrameParser) : FrameParser :=
  match parseHeader parser.currentBuf with
  | none => { parser with currentBuf := [] }
  | some (key, value) =>
      if parser.headers.contains key then { parser with currentBuf := [] }
      else
        let contentLength :=
          if isContentLength key then
            match Text.int value with
            | some length => some length
            | none => parser.contentLength
          else parser.contentLength
        { parser with
          headers := parser.headers.set key value
          contentLength := contentLength
          currentBuf := [] }

/-- `FrameParser._handle_newline_byte`. -/
def handleNewlineByte (parser : FrameParser) : Except ParserError (FrameParser × List AnyFrame) :=
  if parser.currentBuf = [] ∧ parser.hasCommand = false then .ok (parser, [.heartbeat])
  else do
    let buffer ←
      if parser.previousByte = some carriage then
        if parser.currentBuf = [] then .error .indexError else .ok parser.currentBuf.dropLast
      else .ok parser.currentBuf
    let parser := { parser with currentBuf := buffer, headersProcessed := buffer.isEmpty }
    .ok (if parser.hasCommand then parser.processHeader else parser.processCommand, [])

/-- `FrameParser._handle_body_byte`. -/
def handleBodyByte (parser : FrameParser) (byte : UInt8) : FrameParser :=
  if parser.contentLength = none ∨ parser.contentLength ≠ some (parser.currentBuf.length : Int) then
    { parser with currentBuf := parser.currentBuf ++ [byte] }
  else parser

/-- One iteration of the loop of `parse_frames_from_chunk`. -/
def parseByte (parser : FrameParser) (byte : UInt8) :
    Except ParserError (FrameParser × List AnyFrame) := do
  let (parser, frames) ←
    if byte = null then parser.handleNullByte
    else if parser.headersProcessed then .ok (parser.handleBodyByte byte, [])
    else if byte = newline then parser.handleNewlineByte
    else .ok ({ parser with currentBuf := parser.currentBuf ++ [byte] }, [])
  .ok ({ parser with previousByte := some byte }, frames)

/-- `FrameParser.parse_frames_from_chunk`: the parser after the chunk and the frames it yields. -/
def parseFramesFromChunk (parser : FrameParser) :
    Bytes → Except ParserError (FrameParser × List AnyFrame)
  | [] => .ok (parser, [])
  | byte :: bytes => do
      let (next, frames) ← parser.parseByte byte
      let (last, later) ← next.parseFramesFromChunk bytes
      .ok (last, frames ++ later)

/-- Feed chunks one after another to one parser. -/
def parseChunks (parser : FrameParser) :
    List Bytes → Except ParserError (FrameParser × List AnyFrame)
  | [] => .ok (parser, [])
  | chunk :: chunks => do
      let (next, frames) ← parser.parseFramesFromChunk chunk
      let (last, later) ← next.parseChunks chunks
      .ok (last, frames ++ later)

end FrameParser

end Stompman
