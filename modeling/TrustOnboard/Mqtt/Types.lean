import TrustOnboard.Program.Basic
import TrustOnboard.Memory.Buffer

/-
  The data model of the MQTT client: return codes, client
  states, the client structure, the calls of its interface,
  the platform it runs on, and the events a run makes
  visible.

  The client structure follows `struct _Client` and its
  parts.  Two kinds of data are not kept: the wire images of
  the mutexes (only whether each is held), and the TLS
  parameters, which only the network layer reads.

  Key definitions include:
    * `IoTError`
    * `ClientState`
    * `MessageHandlers`
    * `Client`
    * `ApiCall`
    * `Event`
    * `Port`
-/

------------------------------------------------------------
-- Return Codes And Enumerations
------------------------------------------------------------

namespace TrustOnboard

namespace Mqtt

/- `IoT_Error_t`. -/
inductive IoTError where
  | networkPhysicalLayerConnected
  | networkManuallyDisconnected
  | networkAttemptingReconnect
  | networkReconnected
  | mqttNothingToRead
  | mqttConnackConnectionAccepted
  | success
  | failure
  | nullValueError
  | tcpConnectionError
  | sslConnectionError
  | tcpSetupError
  | networkSslConnectTimeoutError
  | networkSslWriteError
  | networkSslInitError
  | networkSslCertError
  | networkSslWriteTimeoutError
  | networkSslReadTimeoutError
  | networkSslReadError
  | networkDisconnectedError
  | networkReconnectTimedOutError
  | networkAlreadyConnectedError
  | networkMbedtlsErrCtrDrbgEntropySourceFailed
  | networkSslUnknownError
  | networkPhysicalLayerDisconnected
  | networkX509RootCrtParseError
  | networkX509DeviceCrtParseError
  | networkPkPrivateKeyParseError
  | networkErrNetSocketFailed
  | networkErrNetUnknownHost
  | networkErrNetConnectFailed
  | networkSslNothingToRead
  | mqttConnectionError
  | mqttConnectTimeoutError
  | mqttRequestTimeoutError
  | mqttUnexpectedClientStateError
  | mqttClientNotIdleError
  | mqttRxMessagePacketTypeInvalidError
  | mqttRxBufferTooShortError
  | mqttTxBufferTooShortError
  | mqttMaxSubscriptionsReachedError
  | mqttDecodeRemainingLengthError
  | mqttConnackUnknownError
  | mqttConnackUnacceptableProtocolVersionError
  | mqttConnackIdentifierRejectedError
  | mqttConnackServerUnavailableError
  | mqttConnackBadUserdataError
  | mqttConnackNotAuthorizedError
  | jsonParseError
  | shadowWaitForPublish
  | shadowJsonBufferTruncated
  | shadowJsonError
  | mutexInitError
  | mutexLockError
  | mutexUnlockError
  | mutexDestroyError
  deriving DecidableEq, Repr

/- `ClientState`. -/
inductive ClientState where
  | invalid
  | initialized
  | connecting
  | connectedIdle
  | connectedYieldInProgress
  | connectedPublishInProgress
  | connectedSubscribeInProgress
  | connectedUnsubscribeInProgress
  | connectedResubscribeInProgress
  | connectedWaitForCbReturn
  | disconnecting
  | disconnectedError
  | disconnectedManually
  | pendingReconnect
  deriving DecidableEq, Repr

/-
  `QoS`.  The enumeration names the first two values; the
  two header bits of a received packet can also carry the
  others.
-/
inductive QoS where
  | qos0
  | qos1
  | qos2
  | qos3
  deriving DecidableEq, Repr

/- The numeric value of a quality of service. -/
def QoS.value : QoS → UInt8
  | .qos0 => 0
  | .qos1 => 1
  | .qos2 => 2
  | .qos3 => 3

/- The quality of service held in two header bits. -/
def QoS.ofBits (bits : UInt8) : QoS :=
  if bits % 4 = 0 then .qos0
  else if bits % 4 = 1 then .qos1
  else if bits % 4 = 2 then .qos2
  else .qos3

/- The members of `MessageTypes` the client sends or reads. -/
inductive MessageType where
  | connect
  | connack
  | publish
  | puback
  | pubrec
  | pubrel
  | pubcomp
  | subscribe
  | suback
  | unsubscribe
  | unsuback
  | pingreq
  | pingresp
  | disconnect
  deriving DecidableEq, Repr

/- The nibble a message type occupies in the first byte. -/
def MessageType.nibble : MessageType → UInt8
  | .connect => 1
  | .connack => 2
  | .publish => 3
  | .puback => 4
  | .pubrec => 5
  | .pubrel => 6
  | .pubcomp => 7
  | .subscribe => 8
  | .suback => 9
  | .unsubscribe => 10
  | .unsuback => 11
  | .pingreq => 12
  | .pingresp => 13
  | .disconnect => 14

/- The message type a first byte announces, if any. -/
def MessageType.ofNibble (n : UInt8) : Option MessageType :=
  [.connect, .connack, .publish, .puback, .pubrec,
    .pubrel, .pubcomp, .subscribe, .suback, .unsubscribe,
    .unsuback, .pingreq, .pingresp, .disconnect].find?
    (fun t => t.nibble == n)

theorem MessageType.eq_nibble
    {n : UInt8}
    {t : MessageType}
    (hType : MessageType.ofNibble n = some t) :
    n = t.nibble := by
  unfold MessageType.ofNibble at hType
  have hFound := List.find?_some hType
  exact (beq_iff_eq.mp hFound).symm

end Mqtt

end TrustOnboard

------------------------------------------------------------
-- The Client Structure
------------------------------------------------------------

namespace TrustOnboard

namespace Mqtt

/- The characters of a C string, without its terminator. -/
structure CString where
  bytes : Bytes
  nul_free : (0 : UInt8) ∉ bytes
  deriving DecidableEq

/- A function pointer of the application. -/
abbrev HandlerId := Nat

/- One slot of the handler table. -/
structure MessageHandlers where
  topicName : Option CString
  topicNameLen : UInt16
  qos : QoS
  pApplicationHandler : Option HandlerId
  pApplicationHandlerData : Nat
  deriving DecidableEq

/- `IoT_MQTT_Will_Options`. -/
structure WillOptions where
  pTopicName : Option Bytes
  topicNameLen : UInt16
  pMessage : Option Bytes
  msgLen : UInt16
  isRetained : Bool
  qos : QoS
  deriving DecidableEq

/- `IoT_Client_Connect_Params`. -/
structure ConnectParams where
  mqttVersion : UInt8
  pClientID : Option Bytes
  clientIDLen : UInt16
  keepAliveIntervalInSec : UInt16
  isCleanSession : Bool
  isWillMsgPresent : Bool
  will : WillOptions
  pUsername : Option Bytes
  usernameLen : UInt16
  pPassword : Option Bytes
  passwordLen : UInt16
  deriving DecidableEq

/- `IoT_Client_Connect_Params_initializer`. -/
def ConnectParams.initializer : ConnectParams where
  mqttVersion := 4
  pClientID := none
  clientIDLen := 0
  keepAliveIntervalInSec := 60
  isCleanSession := true
  isWillMsgPresent := false
  will :=
    { pTopicName := none
      topicNameLen := 0
      pMessage := none
      msgLen := 0
      isRetained := false
      qos := .qos0 }
  pUsername := none
  usernameLen := 0
  pPassword := none
  passwordLen := 0

/-
  The parameters of a message being handled, the local `msg`
  of `handle_publish` that its handlers receive a pointer to.
  The identifier is only set for a quality of service other
  than zero.  The payload is a region of the receive buffer
  until an application puts one of its own there.
-/
structure MessageParams where
  qos : QoS
  isRetained : Bool
  id : Option UInt16
  ownPayload : Option Bytes
  deriving DecidableEq

/- The three mutexes of a threaded build. -/
inductive Mutex where
  | stateChange
  | tlsRead
  | tlsWrite
  deriving DecidableEq, Repr

/-
  The client, `struct _Client` with its parts flattened, and
  the parameters of the messages that are being handled, the
  innermost first.
-/
structure Client where
  clientState : ClientState
  isPingOutstanding : Bool
  isAutoReconnectEnabled : Bool
  nextPacketId : UInt16
  packetTimeoutMs : UInt32
  commandTimeoutMs : UInt32
  keepAliveInterval : UInt16
  currentReconnectWaitInterval : UInt32
  counterNetworkDisconnected : UInt32
  writeBufSize : Nat
  readBufSize : Nat
  writeBuf : Buffer
  readBuf : Buffer
  isBlockOnThreadLockEnabled : Bool
  locked : Mutex → Bool
  options : ConnectParams
  messageHandlers : List MessageHandlers
  disconnectHandler : Option HandlerId
  disconnectHandlerData : Nat
  messageParams : List MessageParams := []

end Mqtt

end TrustOnboard

------------------------------------------------------------
-- Interface Calls And Events
------------------------------------------------------------

namespace TrustOnboard

namespace Mqtt

/-
  The parameters of a message being handled, passed on by an
  application: how many messages were begun after it, and
  whether the application has put a payload of its own there.
-/
structure Forwarded where
  depth : Nat
  ownPayload : Bool
  deriving DecidableEq

/-
  `IoT_Publish_Message_Params` as an application fills it: a
  structure of its own, or that of a message being handled
  with the values the application leaves there.
-/
structure PublishParams where
  qos : QoS
  isRetained : UInt8
  id : UInt16
  payload : Option Bytes
  forwarded : Option Forwarded := none
  deriving DecidableEq

/- `IoT_Client_Init_Params`, as far as the client reads it. -/
structure InitParams where
  enableAutoReconnect : Bool
  pHostURL : Option Bytes
  port : UInt16
  pRootCALocation : Option Bytes
  pDeviceCertLocation : Option Bytes
  pDevicePrivateKeyLocation : Option Bytes
  mqttPacketTimeoutMs : UInt32
  mqttCommandTimeoutMs : UInt32
  disconnectHandler : Option HandlerId
  disconnectHandlerData : Nat
  isBlockOnThreadLockEnabled : Bool
  deriving DecidableEq

/-
  The calls a callback may make.  A `none` pointer argument
  stands for NULL.
-/
inductive ApiCall where
  | connect (params : Option ConnectParams)
  | disconnect
  | attemptReconnect
  | publish
      (topic : Option CString)
      (topicLen : UInt16)
      (params : Option PublishParams)
  | subscribe
      (topic : Option CString)
      (topicLen : UInt16)
      (qos : QoS)
      (handler : Option HandlerId)
      (data : Nat)
  | unsubscribe
      (filter : Option CString)
      (filterLen : UInt16)
  | resubscribe
  | yield (timeoutMs : UInt32)
  | autoreconnectSetStatus (status : Bool)
  | setDisconnectHandler
      (handler : Option HandlerId)
      (data : Nat)
  deriving DecidableEq

/-
  A received message as a handler sees it.  Topic and payload
  are regions of the receive buffer, whose content at the
  time of the call is `buf`, unless an earlier handler has
  put a payload of its own there.  The identifier is only set
  for a quality of service other than zero.
-/
structure Message where
  isDup : Bool
  qos : QoS
  isRetained : Bool
  id : Option UInt16
  topicOff : Nat
  topicLen : Nat
  payloadOff : Nat
  payloadLen : Nat
  buf : Buffer
  ownPayload : Option Bytes := none

/- The topic bytes a handler reads. -/
def Message.topic (m : Message) : Bytes :=
  m.buf.load m.topicOff m.topicLen

/- The payload bytes a handler reads. -/
def Message.payload (m : Message) : Bytes :=
  m.ownPayload.getD (m.buf.load m.payloadOff m.payloadLen)

/- The parameters of a message. -/
def Message.params (m : Message) : MessageParams where
  qos := m.qos
  isRetained := m.isRetained
  id := m.id
  ownPayload := m.ownPayload

/- The identifier `handle_publish` acknowledges. -/
def MessageParams.ackId
    (params : MessageParams) : Option UInt16 :=
  if params.qos = .qos0 then none else params.id

/- The message as its parameters and the buffer are now. -/
def Client.sees (c : Client) (msg : Message) : Message :=
  let params := c.messageParams.headD msg.params
  { msg with
    qos := params.qos
    isRetained := params.isRetained
    id := params.id
    ownPayload := params.ownPayload
    buf := c.readBuf }

/- The client while it handles a message. -/
def Client.handling (c : Client) (msg : Message) : Client :=
  { c with messageParams := msg.params :: c.messageParams }

/- A message whose parameters nobody has changed. -/
theorem Client.sees_of_head
    {c : Client}
    {msg : Message}
    {outer : List MessageParams}
    (hHead : c.messageParams = msg.params :: outer) :
    c.sees msg = { msg with buf := c.readBuf } := by
  unfold Client.sees
  rw [hHead]
  rfl

/- What an application leaves in a message it passes on. -/
def PublishParams.leave
    (p : PublishParams)
    (old : MessageParams) : MessageParams where
  qos := p.qos
  isRetained := p.isRetained != 0
  id := some p.id
  ownPayload :=
    match p.forwarded with
    | some { ownPayload := true, .. } =>
        some (p.payload.getD [])
    | _ => old.ownPayload

/- A change of the message whose parameters are passed on. -/
def PublishParams.change
    (p : PublishParams)
    (f : MessageParams → MessageParams)
    (messages : List MessageParams) : List MessageParams :=
  match p.forwarded with
  | none => messages
  | some forwarded => messages.modify forwarded.depth f

/- What the application writes before it makes a call. -/
def ApiCall.writes
    (c : ApiCall)
    (messages : List MessageParams) : List MessageParams :=
  match c with
  | .publish _ _ (some p) => p.change p.leave messages
  | _ => messages

/- The timers the client asks about. -/
inductive TimerName where
  | ping
  | reconnectDelay
  | command
  | packet
  | yield
  deriving DecidableEq, Repr

/- The place in `read_packet` a network read comes from. -/
inductive ReadSite where
  | header
  | length (index : Nat)
  | body
  | drain
  deriving DecidableEq, Repr

/- The function that tears the network connection down. -/
inductive Teardown where
  | connect
  | disconnect
  | forceClientDisconnect
  deriving DecidableEq, Repr

/-
  What a run makes visible.

  `call` and `ret` bracket the interface calls; the flag of
  `call` says whether some enclosing call is waiting for an
  acknowledgement.  The `net` events are the calls of the
  network layer with their results.  `rxStore` is a store
  into the receive buffer, `rxPacket` and `txPacket` are
  packets read or sent as a whole.  `timerChecked` is the
  answer of a timer.  `setState` is a state change that was
  tried and `setStateBusy` one that did not get its mutex,
  each with the state it found.  `registered` is the store of
  a subscription with the slot's previous content.
  `backOffStarted` is the store of the smallest interval
  between attempts to reconnect, and `reconnectFailed` an
  attempt that failed, with the state and the interval there.
-/
inductive Event where
  | init
  | call (waiting : Bool) (c : ApiCall)
  | ret
      (c : ApiCall)
      (rc : IoTError)
      (table : List MessageHandlers)
  | netConnect (rc : IoTError)
  | netRead
      (site : ReadSite)
      (requested : Nat)
      (received : Bytes)
      (rc : IoTError)
  | netWrite
      (requested : Nat)
      (accepted : Bytes)
      (rc : IoTError)
  | netDisconnect
  | netDestroy
      (site : Teardown)
      (rc : IoTError)
      (found : ClientState)
  | rxStore (off len : Nat)
  | rxPacket (packet : Bytes)
  | txPacket (packet : Bytes)
  | timerChecked (timer : TimerName) (expired : Bool)
  | setState
      (expected new found : ClientState)
  | setStateBusy
      (expected new found : ClientState)
  | stateRollback (found : ClientState)
  | deliver
      (slot : Nat)
      (handler : HandlerId)
      (data : Nat)
      (msg : Message)
  | registered (slot : Nat) (previous : MessageHandlers)
  | connectionLost
  | disconnectHandlerReturned (state : ClientState)
  | backOffStarted
  | reconnectFailed (found : ClientState) (interval : UInt32)

end Mqtt

end TrustOnboard

------------------------------------------------------------
-- The Platform
------------------------------------------------------------

namespace TrustOnboard

namespace Mqtt

/-
  What `iot_tls_read` can report for a read of `n` bytes: all
  of them, none before the timer ran out, some but not all,
  or a broken connection.
-/
inductive ReadResult (n : Nat) where
  | success (bs : Bytes) (h : bs.length = n)
  | nothingToRead (h : 0 < n)
  | readTimeout
      (bs : Bytes) (hPos : 0 < bs.length)
      (h : bs.length < n)
  | readError (bs : Bytes) (h : bs.length < n)

/- The bytes a read took from the connection. -/
def ReadResult.received {n : Nat} : ReadResult n → Bytes
  | .success bs _ => bs
  | .nothingToRead _ => []
  | .readTimeout bs _ _ => bs
  | .readError bs _ => bs

/- The code a read returns. -/
def ReadResult.rc {n : Nat} : ReadResult n → IoTError
  | .success _ _ => .success
  | .nothingToRead _ => .networkSslNothingToRead
  | .readTimeout _ _ _ => .networkSslReadTimeoutError
  | .readError _ _ => .networkSslReadError

/-
  What a write of `n` bytes can report, with the number of
  bytes that reached the connection.
-/
inductive WriteResult (n : Nat) where
  | success (count : Nat) (h : count ≤ n)
  | writeTimeout (count : Nat) (h : count ≤ n)
  | writeError (count : Nat) (h : count ≤ n)

/- A write may take all the bytes it is given. -/
theorem WriteResult.whole (bs : Bytes) :
    bs.length ≤ bs.length :=
  Nat.le_refl _

/- The number of bytes a write put on the connection. -/
def WriteResult.count {n : Nat} : WriteResult n → Nat
  | .success k _ => k
  | .writeTimeout k _ => k
  | .writeError k _ => k

theorem WriteResult.count_le
    {n : Nat}
    (r : WriteResult n) :
    r.count ≤ n := by
  cases r with
  | success k h => exact h
  | writeTimeout k h => exact h
  | writeError k h => exact h

/- The code a write returns. -/
def WriteResult.rc {n : Nat} : WriteResult n → IoTError
  | .success _ _ => .success
  | .writeTimeout _ _ => .networkSslWriteTimeoutError
  | .writeError _ _ => .networkSslWriteError

/-
  The platform a client runs on: build options, timers,
  network layer and the callbacks of the application.  Each
  operation may depend on and change a private state `E`, so
  that a platform can behave in any way whatsoever.
-/
structure Port (E : Type) where
  /- `_ENABLE_THREAD_SUPPORT_` -/
  threadSupport : Bool
  /- `AWS_IOT_MQTT_TX_BUF_LEN`, `AWS_IOT_MQTT_RX_BUF_LEN` -/
  txBufLen : Nat
  rxBufLen : Nat
  /- `AWS_IOT_MQTT_MIN_RECONNECT_WAIT_INTERVAL` and `MAX` -/
  minReconnectWaitInterval : UInt32
  maxReconnectWaitInterval : UInt32
  hasTimerExpired : TimerName → E → Bool × E
  countdown : TimerName → Nat → E → E
  tlsInit : E → IoTError × E
  netConnect : E → IoTError × E
  netRead : (n : Nat) → E → ReadResult n × E
  netWrite :
    (bs : Bytes) → E → WriteResult bs.length × E
  netDisconnect : E → E
  netDestroy : E → IoTError × E
  netIsConnected : E → IoTError × E
  mutexTrylock : Mutex → E → Bool × E
  onMessage :
    HandlerId → Nat → Message → E → List ApiCall × E
  onDisconnect : HandlerId → Nat → E → List ApiCall × E

/- The client and its platform as one state. -/
structure Sys (E : Type) where
  client : Client
  env : E

/- Programs of the client. -/
abbrev Code (E : Type) := Prog (Sys E) Event

/- Worlds of the client. -/
abbrev Run (E : Type) := World (Sys E) Event

end Mqtt

end TrustOnboard
