import TrustOnboard.Mqtt.Api

/-
  A scripted platform: a concrete network, timer and
  application whose behaviour is laid down in advance, on
  which the client can be run.

  The network delivers the bytes of prepared segments.  A
  read inside a segment succeeds, a read across its end gets
  the rest of the segment and times out, and a read of an
  empty segment finds nothing.  A missing segment is a broken
  connection, and so is the end of the script.

  Key definitions include:
    * `Script`
    * `Script.read`
    * `scriptPort`
    * `quietPort`
    * `completePort`
    * `scriptClient`
-/

------------------------------------------------------------
-- Scripts
------------------------------------------------------------

namespace TrustOnboard

namespace Mqtt

/-
  The segments the network delivers, the answers of the
  timers, the numbers of bytes failing writes accept, the
  results of the network's connect and destroy, and the calls
  of the message callbacks and of the disconnect handler.
-/
structure Script where
  incoming : List (Option Bytes)
  timers : List Bool
  writes : List (Option Nat)
  connects : List IoTError
  destroys : List IoTError
  callbacks : List (List ApiCall)
  handlers : List (List ApiCall)

/- A script in which nothing happens. -/
def Script.idle : Script where
  incoming := []
  timers := []
  writes := []
  connects := []
  destroys := []
  callbacks := []
  handlers := []

/- The next entry of a list, or a default. -/
def nextOr {α : Type} (d : α) : List α → α × List α
  | [] => (d, [])
  | a :: as => (a, as)

/- What is left to deliver after part of a segment. -/
def remaining
    (bs : Bytes)
    (rest : List (Option Bytes)) : List (Option Bytes) :=
  if bs = [] then rest else some bs :: rest

/- A read of the scripted network. -/
def Script.read
    (n : Nat)
    (e : Script) : ReadResult n × Script :=
  if hZero : n = 0 then
    (.success [] (by simp [hZero]), e)
  else
    match e.incoming with
    | [] => (.readError [] (by simp; omega), e)
    | none :: rest =>
        (.readError [] (by simp; omega),
          { e with incoming := rest })
    | some bs :: rest =>
        if h : n ≤ bs.length then
          (.success (bs.take n) (by simp [h]),
            { e with incoming := remaining (bs.drop n) rest })
        else if h' : 0 < bs.length then
          (.readTimeout bs h' (by omega),
            { e with incoming := rest })
        else
          (.nothingToRead (by omega),
            { e with incoming := rest })

/- A write of the scripted network. -/
def Script.write
    (bs : Bytes)
    (e : Script) : WriteResult bs.length × Script :=
  let next := nextOr none e.writes
  (match next.1 with
    | none => .success bs.length (WriteResult.whole bs)
    | some k =>
        .writeError (min k bs.length) (Nat.min_le_right _ _),
    { e with writes := next.2 })

/- The scripted platform. -/
def scriptPort : Port Script where
  threadSupport := false
  txBufLen := 64
  rxBufLen := 64
  minReconnectWaitInterval := 1000
  maxReconnectWaitInterval := 128000
  hasTimerExpired := fun _ e =>
    let next := nextOr true e.timers
    (next.1, { e with timers := next.2 })
  countdown := fun _ _ e => e
  tlsInit := fun e => (.success, e)
  netConnect := fun e =>
    let next := nextOr .success e.connects
    (next.1, { e with connects := next.2 })
  netRead := Script.read
  netWrite := Script.write
  netDisconnect := fun e => e
  netDestroy := fun e =>
    let next := nextOr .success e.destroys
    (next.1, { e with destroys := next.2 })
  netIsConnected := fun e =>
    (.networkPhysicalLayerConnected, e)
  mutexTrylock := fun _ e => (true, e)
  onMessage := fun _ _ _ e =>
    let next := nextOr [] e.callbacks
    (next.1, { e with callbacks := next.2 })
  onDisconnect := fun _ _ e =>
    let next := nextOr [] e.handlers
    (next.1, { e with handlers := next.2 })

/- The scripted platform with callbacks that make no calls. -/
def quietPort : Port Script :=
  { scriptPort with onMessage := fun _ _ _ e => ([], e) }

/- The same platform with writes that never fail. -/
def completePort : Port Script :=
  { quietPort with
    netWrite := fun bs e =>
      (.success bs.length (WriteResult.whole bs), e) }

end Mqtt

end TrustOnboard

------------------------------------------------------------
-- A Client To Run
------------------------------------------------------------

namespace TrustOnboard

namespace Mqtt

/- A free slot of the handler table. -/
def freeSlot : MessageHandlers where
  topicName := none
  topicNameLen := 0
  qos := .qos0
  pApplicationHandler := none
  pApplicationHandlerData := 0

/- The characters these topics are made of are not NUL. -/
theorem upperA_ne : (65 : UInt8) ≠ 0 := by decide

theorem upperB_ne : (66 : UInt8) ≠ 0 := by decide

theorem upperT_ne : (84 : UInt8) ≠ 0 := by decide

theorem lowerA_ne : (97 : UInt8) ≠ 0 := by decide

theorem lowerB_ne : (98 : UInt8) ≠ 0 := by decide

/- A topic of one character. -/
def letter (c : UInt8) (h : c ≠ 0) : CString where
  bytes := [c]
  nul_free := by
    simpa using h.symm

/- A slot that holds a topic of one character. -/
def letterSlot (c : UInt8) (h : c ≠ 0) : MessageHandlers where
  topicName := some (letter c h)
  topicNameLen := 1
  qos := .qos0
  pApplicationHandler := some 0
  pApplicationHandlerData := 0

/- A subscription to a topic of one character. -/
def subscribeLetter (c : UInt8) (h : c ≠ 0) : ApiCall :=
  .subscribe (some (letter c h)) 1 .qos0 (some 0) 0

/- A client in a given state with a given table. -/
def scriptClient
    (s : ClientState)
    (table : List MessageHandlers) : Client where
  clientState := s
  isPingOutstanding := false
  isAutoReconnectEnabled := false
  nextPacketId := 1
  packetTimeoutMs := 2000
  commandTimeoutMs := 20000
  keepAliveInterval := 0
  currentReconnectWaitInterval := 0
  counterNetworkDisconnected := 0
  writeBufSize := 64
  readBufSize := 64
  writeBuf := fun _ => 0
  readBuf := fun _ => 0
  isBlockOnThreadLockEnabled := true
  locked := fun _ => false
  options := ConnectParams.initializer
  messageHandlers := table
  disconnectHandler := none
  disconnectHandlerData := 0

/- The start of a run with an empty log. -/
def scriptStart (c : Client) (e : Script) : Run Script where
  st := { client := c, env := e }
  log := []

/- A connected client that is sent some bytes. -/
def onePacket (packet : Bytes) : Run Script :=
  scriptStart
    (scriptClient .connectedIdle [freeSlot])
    { Script.idle with incoming := [some packet] }

/- Parameters for init that name a disconnect handler. -/
def scriptInit : InitParams where
  enableAutoReconnect := false
  pHostURL := some []
  port := 8883
  pRootCALocation := some []
  pDeviceCertLocation := some []
  pDevicePrivateKeyLocation := some []
  mqttPacketTimeoutMs := 2000
  mqttCommandTimeoutMs := 20000
  disconnectHandler := some 0
  disconnectHandlerData := 0
  isBlockOnThreadLockEnabled := true

/- The wire image of a SUBACK that grants one topic. -/
def subackPacket (id : UInt8) : Bytes :=
  [144, 3, 0, id, 0]

/- The wire image of a PUBLISH to a topic of one character. -/
def publishPacket (c : UInt8) : Bytes :=
  [48, 4, 0, 1, c, 33]

/- The wire image of a CONNACK that accepts. -/
def connackPacket : Bytes :=
  [32, 2, 0, 0]

end Mqtt

end TrustOnboard
