import Stompman.Foundation.Dict
import Stompman.Foundation.Text

/-!
# STOMP frames

One type for the fifteen frame classes of `frames.py`: the class, the headers and the body.  A
class outside `FRAMES_WITH_BODY` has no body field, so such a frame carries the proof that its body
is empty.  What a parser yields is a frame or a heartbeat.
-/

namespace Stompman

open Foundation

/-- The frame classes with a command. -/
inductive FrameType
  | send
  | subscribe
  | unsubscribe
  | begin
  | commit
  | abort
  | ack
  | nack
  | disconnect
  | connect
  | stomp
  | connected
  | message
  | receipt
  | error
  deriving DecidableEq, Repr

/-- `FRAMES_WITH_BODY`. -/
def FrameType.hasBody : FrameType → Bool
  | .send | .message | .error => true
  | _ => false

/-- Header map of a frame. -/
abbrev Headers := Dict String String

/-- A frame object. -/
structure Frame where
  /-- Class of the frame. -/
  type : FrameType
  /-- Header map. -/
  headers : Headers
  /-- Body; empty for the classes without one. -/
  body : Bytes
  /-- Only the classes of `FRAMES_WITH_BODY` have a body. -/
  body_eq_nil : type.hasBody = false → body = []
  deriving DecidableEq

namespace Frame

/-- Equality of frame objects: the same class, equal header maps and the same body. -/
def Equal (left right : Frame) : Prop :=
  left.type = right.type ∧ left.headers.Equal right.headers ∧ left.body = right.body

instance (left right : Frame) : Decidable (left.Equal right) :=
  inferInstanceAs (Decidable (_ ∧ _))

/-- A frame of a class without body. -/
def bodyless (type : FrameType) (headers : Headers) : Frame :=
  ⟨type, headers, [], fun _ => rfl⟩

end Frame

/-! ## Building frames -/

/-- `AckMode`. -/
inductive AckMode
  | client
  | clientIndividual
  | auto
  deriving DecidableEq, Repr

/-- The header text of a mode. -/
def AckMode.text : AckMode → String
  | .client => "client"
  | .clientIndividual => "client-individual"
  | .auto => "auto"

/-- Arguments of `Client.send` and `Transaction.send`; `headers` is what the caller's map holds at
the moment of the call. -/
structure SendArguments where
  body : Bytes
  destination : String
  contentType : Option String := none
  addContentLength : Bool := true
  headers : Option Headers := none
  deriving DecidableEq

/-- The frame that `SendFrame.build` makes, with the headers that its map holds then. -/
def sendFrame (arguments : SendArguments) (transaction : Option String) : Frame :=
  let headers := (arguments.headers.getD Dict.empty).set "destination" arguments.destination
  let headers :=
    if arguments.addContentLength then
      headers.set "content-length" (toString arguments.body.length)
    else headers
  let headers := (arguments.contentType.map (headers.set "content-type")).getD headers
  let headers := (transaction.map (headers.set "transaction")).getD headers
  ⟨.send, headers, arguments.body, by simp [FrameType.hasBody]⟩

/-- `SubscribeFrame.build`. -/
def subscribeFrame (subscriptionId destination : String) (ack : AckMode)
    (headers : Option Headers) : Frame :=
  .bodyless .subscribe <| (headers.getD Dict.empty).update
    [("id", subscriptionId), ("destination", destination), ("ack", ack.text)]

/-- `UnsubscribeFrame(headers={"id": id})`. -/
def unsubscribeFrame (subscriptionId : String) : Frame :=
  .bodyless .unsubscribe (Dict.empty.set "id" subscriptionId)

/-- `BeginFrame`, `CommitFrame` or `AbortFrame` of a transaction. -/
def transactionFrame (type : FrameType) (transaction : String) : Frame :=
  .bodyless type (Dict.empty.set "transaction" transaction)

/-- `BeginFrame(headers={"transaction": id})`. -/
def beginFrame : String → Frame := transactionFrame .begin

/-- `CommitFrame(headers={"transaction": id})`. -/
def commitFrame : String → Frame := transactionFrame .commit

/-- `AbortFrame(headers={"transaction": id})`. -/
def abortFrame : String → Frame := transactionFrame .abort

/-- `AckFrame` or `NackFrame` with an `id` and a `subscription`. -/
def settleFrame (type : FrameType) (ackId subscriptionId : String) : Frame :=
  .bodyless type ((Dict.empty.set "id" ackId).set "subscription" subscriptionId)

/-- An element of the stream of frames: `HeartbeatFrame` or a frame with a command. -/
inductive AnyFrame
  | heartbeat
  | frame (frame : Frame)
  deriving DecidableEq

/-- Equality of the objects a parser yields. -/
def AnyFrame.Equal : AnyFrame → AnyFrame → Prop
  | .heartbeat, .heartbeat => True
  | .frame left, .frame right => left.Equal right
  | _, _ => False

instance : (left right : AnyFrame) → Decidable (left.Equal right)
  | .heartbeat, .heartbeat => inferInstanceAs (Decidable True)
  | .frame left, .frame right => inferInstanceAs (Decidable (left.Equal right))
  | .heartbeat, .frame _ => inferInstanceAs (Decidable False)
  | .frame _, .heartbeat => inferInstanceAs (Decidable False)

end Stompman
