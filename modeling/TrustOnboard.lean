import TrustOnboard.Program.Basic
import TrustOnboard.Program.Triple
import TrustOnboard.Memory.Buffer
import TrustOnboard.Memory.Base128
import TrustOnboard.Mqtt.Types
import TrustOnboard.Mqtt.Codec
import TrustOnboard.Mqtt.Packets
import TrustOnboard.Mqtt.Client
import TrustOnboard.Mqtt.Receive
import TrustOnboard.Mqtt.Operations
import TrustOnboard.Mqtt.Api
import TrustOnboard.Mqtt.Script
import TrustOnboard.Mqtt.Assertions
import TrustOnboard.Mqtt.Footprint
import TrustOnboard.Mqtt.Exchange
import TrustOnboard.Mqtt.Regime.Basic
import TrustOnboard.Mqtt.Regime.Operations
import TrustOnboard.Mqtt.Regime.Connection
import TrustOnboard.Mqtt.Regime.Yield
import TrustOnboard.Mqtt.Regime.Run
import TrustOnboard.Mqtt.StateMachine
import TrustOnboard.Mqtt.Network
import TrustOnboard.Mqtt.Subscriptions
import TrustOnboard.Mqtt.Correlation
import TrustOnboard.Mqtt.Resubscribe
import TrustOnboard.Mqtt.Reconnect
import TrustOnboard.Mqtt.Reading
import TrustOnboard.Mqtt.ReceiveBounds
import TrustOnboard.Mqtt.Boundary
import TrustOnboard.Mqtt.Stored
import TrustOnboard.Mqtt.Slices
import TrustOnboard.Mqtt.Integrity
import TrustOnboard.Mqtt.ConnectPacket
import TrustOnboard.Mqtt.Steady
import TrustOnboard.Mqtt.Handshake
import TrustOnboard.Mqtt.Outcome
import TrustOnboard.Mqtt.Acknowledge
import TrustOnboard.Mqtt.Transactions
import TrustOnboard.Mqtt.Quiet
import TrustOnboard.Mqtt.Connecting
import TrustOnboard.Mqtt.Busy
import TrustOnboard.Mqtt.KeepAlive
import TrustOnboard.Mqtt.BackOff
import TrustOnboard.Memory.Text
import TrustOnboard.Json.Grammar
import TrustOnboard.Json.Writer
import TrustOnboard.Shadow.Builder
import TrustOnboard.Shadow.BuilderBounds
import TrustOnboard.Shadow.BuilderDocument
import TrustOnboard.Program.History
import TrustOnboard.Shadow.Types
import TrustOnboard.Shadow.Topics
import TrustOnboard.Shadow.Parsing
import TrustOnboard.Shadow.Records
import TrustOnboard.Shadow.Actions
import TrustOnboard.Shadow.Lists
import TrustOnboard.Shadow.SubscribeAcks
import TrustOnboard.Shadow.AckStatus
import TrustOnboard.Shadow.Footprint
import TrustOnboard.Shadow.Documents
import TrustOnboard.Shadow.Versions
import TrustOnboard.Shadow.VersionTracking
import TrustOnboard.Topic.Levels
import TrustOnboard.Mqtt.Matching
import TrustOnboard.Mqtt.Delivery
import TrustOnboard.Mqtt.LengthDecoders
import TrustOnboard.Mqtt.PartialWrites
import TrustOnboard.Mqtt.Suback
import TrustOnboard.Mqtt.EncoderBounds
import TrustOnboard.Mqtt.SizeLimit
import TrustOnboard.Mqtt.Grammar
import TrustOnboard.Mqtt.Conformance
import TrustOnboard.Shadow.Registration
import TrustOnboard.Shadow.Scanning
import TrustOnboard.Shadow.BuilderTokens
import TrustOnboard.Shadow.BuilderSuccess
import TrustOnboard.Shadow.RoundTrip
import TrustOnboard.Shadow.Phases
import TrustOnboard.Shadow.Completion
import TrustOnboard.Tls.Accounting
import TrustOnboard.Se.Interface
import TrustOnboard.Se.Retry
import TrustOnboard.Se.Fcp
import TrustOnboard.Program.Returns
import TrustOnboard.Program.Passage
import TrustOnboard.Se.P11
import TrustOnboard.Se.Transmission
import TrustOnboard.Se.Chunks
import TrustOnboard.Se.Readers
import TrustOnboard.Shadow.Primitives
import TrustOnboard.Se.Cards
import TrustOnboard.Se.FileCard
import TrustOnboard.Se.Lookup
import TrustOnboard.Shadow.Placement
import TrustOnboard.Shadow.ClientTokens
import TrustOnboard.Shadow.DeltaValues
import TrustOnboard.Shadow.DeltaDispatch
import TrustOnboard.Shadow.DeltaSources
import TrustOnboard.Shadow.Jsmn
import TrustOnboard.Shadow.RequestTokens
import TrustOnboard.Mqtt.LengthCodec
import TrustOnboard.Se.Sending
import TrustOnboard.Se.Pins
import TrustOnboard.Se.Applet
import TrustOnboard.Se.Crypto
import TrustOnboard.Se.Pieces
import TrustOnboard.Se.MbedtlsSe
import TrustOnboard.Se.Inside
import TrustOnboard.Se.Selection
import TrustOnboard.Se.Channels
import TrustOnboard.Se.Calls
import TrustOnboard.Se.KeyPairs
import TrustOnboard.Se.Containers
import TrustOnboard.Mqtt.Streaming
import TrustOnboard.Shadow.Tokenising
import TrustOnboard.Memory.Hex
import TrustOnboard.Memory.Numeral
import TrustOnboard.At.Parser
import TrustOnboard.At.Modem
import TrustOnboard.At.Recognition
import TrustOnboard.At.Csim
import TrustOnboard.At.ConceptBoard
import TrustOnboard.At.BoardReply
import TrustOnboard.Program.Relational
import TrustOnboard.Se.Transports
import TrustOnboard.At.Sockets
import TrustOnboard.Memory.Ring
import TrustOnboard.Program.Interrupts
import TrustOnboard.At.Usart
import TrustOnboard.Mqtt.Effects
import TrustOnboard.Mqtt.Awaiting
import TrustOnboard.Mqtt.Forwarding
import TrustOnboard.Mqtt.Conversation
import TrustOnboard.Tls.Connecting
import TrustOnboard.Tls.Stream
import TrustOnboard.Tls.Timer
