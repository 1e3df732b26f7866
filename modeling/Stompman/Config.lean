import Stompman.Frames

/-!
# Configuration and the confirmation of a connection

Heart-beat intervals, server parameters, the CONNECT frame that a lifespan writes and the check of
the CONNECTED frame that it gets back.
-/

namespace Stompman

open Foundation

/-- `Heartbeat`. -/
structure Heartbeat where
  willSendIntervalMs : Int
  wantToReceiveIntervalMs : Int
  deriving DecidableEq

namespace Heartbeat

/-- `Heartbeat.to_header`. -/
def toHeader (heartbeat : Heartbeat) : String :=
  toString heartbeat.willSendIntervalMs ++ "," ++ toString heartbeat.wantToReceiveIntervalMs

/-- `Heartbeat.from_header`: split at the first comma and read both parts; `none` is
`ValueError`. -/
def fromHeader (header : String) : Option Heartbeat :=
  match header.toList.span (· ≠ ',') with
  | (_, []) => none
  | (first, _ :: second) =>
      (Text.int (String.ofList first)).bind fun willSend =>
        (Text.int (String.ofList second)).map fun wantToReceive => ⟨willSend, wantToReceive⟩

end Heartbeat

/-- `ConnectionParameters`. -/
structure ConnectionParameters where
  host : String
  port : Int
  login : String
  passcode : String
  wsUriPath : Option String := none
  connectHeaders : Headers := Dict.empty
  deriving DecidableEq

/-- `ConnectionParameters.unescaped_passcode`. -/
def ConnectionParameters.unescapedPasscode (parameters : ConnectionParameters) : String :=
  Text.unquote parameters.passcode

/-- The `ConnectFrame` that `_establish_connection` writes. -/
def connectFrame (parameters : ConnectionParameters) (protocolVersion : String)
    (clientHeartbeat : Heartbeat) : Frame :=
  .bodyless .connect <| parameters.connectHeaders.update
    [("accept-version", protocolVersion),
      ("heart-beat", clientHeartbeat.toHeader),
      ("host", parameters.host),
      ("login", parameters.login),
      ("passcode", parameters.unescapedPasscode)]

/-- Exceptions of `_establish_connection` that no handler of the client expects. -/
inductive ConfirmationError
  /-- A CONNECTED frame without a header that is looked up. -/
  | keyError (header : String)
  /-- A `heart-beat` header that is not a pair of integers. -/
  | valueError
  deriving DecidableEq

/-- Outcomes of the check of a CONNECTED frame. -/
inductive Confirmation
  | established (serverHeartbeat : Heartbeat)
  | unsupportedProtocolVersion (givenVersion supportedVersion : String)
  deriving DecidableEq

/-- The part of `_establish_connection` after the CONNECTED frame. -/
def confirm (protocolVersion : String) (connected : Frame) :
    Except ConfirmationError Confirmation :=
  match connected.headers.get? "version" with
  | none => .error (.keyError "version")
  | some version =>
      if version ≠ protocolVersion then
        .ok (.unsupportedProtocolVersion version protocolVersion)
      else
        match connected.headers.get? "heart-beat" with
        | none => .error (.keyError "heart-beat")
        | some header =>
            match Heartbeat.fromHeader header with
            | none => .error .valueError
            | some serverHeartbeat => .ok (.established serverHeartbeat)

end Stompman
