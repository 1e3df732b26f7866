import Stompman.Foundation.Dict
import Stompman.Foundation.Text
import Stompman.Foundation.Heap
import Stompman.Foundation.Transition
import Stompman.Foundation.Trace
import Stompman.Foundation.Retry
import Stompman.Frames
import Stompman.Serde
import Stompman.SharedHeaders
import Stompman.Publishing
import Stompman.HeaderLine
import Stompman.Parser
import Stompman.RoundTrip
import Stompman.Recovery
import Stompman.Injection
import Stompman.Grammar
import Stompman.Framing
import Stompman.Redump
import Stompman.Config
import Stompman.Hosts
import Stompman.Handover
import Stompman.Session
import Stompman.Manager
import Stompman.Client
import Stompman.Lending
import Stompman.Reconnection
import Stompman.Effects
import Stompman.Moves
import Stompman.Resumption
import Stompman.Decomposition
import Stompman.Acknowledgement
import Stompman.Connections
import Stompman.Transactions
import Stompman.Commitment
import Stompman.Once
import Stompman.Content
import Stompman.Subscriptions
import Stompman.Resubscription
import Stompman.Unsubscription
import Stompman.Waiting
import Stompman.Dispatch
import Stompman.Connecting
import Stompman.SingleFlight
import Stompman.Retries
import Stompman.Listening
import Stompman.Transport
import Stompman.Bookkeeping
import Stompman.Cancellation
import Stompman.Bracketing
import Stompman.Shutdown
import Stompman.Leaks
import Stompman.Traffic
import Stompman.Greeting
import Stompman.Offers
import Stompman.Wire
import Stompman.Farewell
import Stompman.Discards
import Stompman.Handlers
import Stompman.Outcomes
import Stompman.StreamMessage
import Stompman.Writing
import Stompman.Progress
import Stompman.WebSocket
import Stompman.Rules
import Stompman.Silence
import Stompman.Accounting
import Stompman.Heartbeats
import Stompman.Alive
