import TrustOnboard.Mqtt.Receive

/-
  The operations of the client interface: publish, subscribe,
  unsubscribe, resubscribe, connect, disconnect, reconnect
  and yield.

  Each operation has an inner function that does the work and
  an outer one that checks the client state, moves it to the
  state of the operation and puts it back at the end.  The
  inner functions of subscribe and unsubscribe are split at
  the point where the acknowledgement has been accepted and
  the handler table is about to change.

  Key definitions include:
    * `publish`
    * `subscribe`
    * `unsubscribe`
    * `resubscribe`
    * `connect`
    * `disconnect`
    * `attemptReconnect`
    * `yield`
    * `init`
-/

------------------------------------------------------------
-- Publish
------------------------------------------------------------

namespace TrustOnboard

namespace Mqtt

variable {E : Type}

/- Start the command timer of an operation. -/
def startCommandTimer (port : Port E) : Code E Unit := do
  let c ← getClient
  countdown port .command c.commandTimeoutMs.toNat

/-
  Move the client to the state of an operation, perform it,
  and put the state back.  The code of the operation wins
  over a failure to put the state back.
-/
def withClientState
    (port : Port E)
    (clientState during : ClientState)
    (operation : Code E IoTError) : Code E IoTError := do
  let opRc ← operation
  let rc ← setClientState port during clientState
  if opRc = .success ∧ rc ≠ .success then
    pure rc
  else
    pure opRc

/-
  The common entry of publish, subscribe and unsubscribe: the
  client must be connected and either idle or inside a
  message callback.
-/
def enterOperation
    (port : Port E)
    (during : ClientState)
    (refused : ClientState → IoTError → Code E IoTError)
    (operation : Code E IoTError) : Code E IoTError := do
  let seen ← getClientState
  if ¬ isClientConnected seen then
    pure .networkDisconnectedError
  else do
    let clientState ← getClientState
    if clientState ≠ .connectedIdle ∧
        clientState ≠ .connectedWaitForCbReturn then
      pure .mqttClientNotIdleError
    else do
      let rc ← setClientState port clientState during
      if rc ≠ .success then
        refused clientState rc
      else
        withClientState port clientState during operation

/-
  The next identifier, stored in the parameters of the
  application.
-/
def assignPacketId
    (params : PublishParams) : Code E UInt16 := do
  let id ← getNextPacketId
  modifyMessages
    (params.change (fun old => { old with id := some id }))
  pure id

/- `_aws_iot_mqtt_internal_publish`. -/
def internalPublish
    (port : Port E)
    (fuel : Nat)
    (callback : Callback E)
    (topic : Option CString)
    (topicLen : UInt16)
    (params : PublishParams) : Code E IoTError := do
  startCommandTimer port
  let id ←
    if params.qos = .qos1 then assignPacketId params
    else pure params.id
  let rc ←
    sendSerialized port fuel .command (fun c =>
      serializePublish c.writeBufSize 0 params.qos
        params.isRetained id topic topicLen params.payload)
  if rc ≠ .success then
    pure rc
  else if params.qos = .qos1 then do
    let rc ← waitForRead port fuel callback .puback .command
    if rc ≠ .success then
      pure rc
    else do
      let c ← getClient
      match deserializeAck c.readBuf c.readBufSize with
      | .error rc => pure rc
      | .ok _ => pure .success
  else
    pure .success

/- `aws_iot_mqtt_publish`. -/
def publish
    (port : Port E)
    (fuel : Nat)
    (callback : Callback E)
    (topic : Option CString)
    (topicLen : UInt16)
    (params : Option PublishParams) : Code E IoTError :=
  match params with
  | none => pure .nullValueError
  | some params =>
      if topic.isNone ∨ topicLen = 0 then
        pure .nullValueError
      else
        enterOperation port .connectedPublishInProgress
          (fun _ rc => pure rc)
          (internalPublish port fuel callback topic topicLen
            params)

end Mqtt

end TrustOnboard

------------------------------------------------------------
-- Subscribe And Resubscribe
------------------------------------------------------------

namespace TrustOnboard

namespace Mqtt

variable {E : Type}

/-
  `_aws_iot_mqtt_get_free_message_handler_index`: the first
  free slot, or the size of the table.
-/
def getFreeMessageHandlerIndex
    (table : List MessageHandlers) : Nat :=
  table.findIdx (fun slot => slot.topicName.isNone)

/-
  One SUBSCRIBE request up to and including the decoding of
  its SUBACK.
-/
def subscribeExchange
    (port : Port E)
    (fuel : Nat)
    (callback : Callback E)
    (packetId : UInt16)
    (topic : Option CString)
    (topicLen : UInt16)
    (qos : QoS) : Code E IoTError := do
  let rc ←
    sendSerialized port fuel .command (fun c =>
      serializeSubscribe c.writeBufSize 0 packetId
        [(topic, topicLen, qos)])
  if rc ≠ .success then
    pure rc
  else do
    let rc ← waitForRead port fuel callback .suback .command
    if rc ≠ .success then
      pure rc
    else do
      let c ← getClient
      match deserializeSuback c.readBuf 1 c.readBufSize with
      | .error rc => pure rc
      | .ok _ => pure .success

/- The store of a subscription into its slot. -/
def registerHandler
    (index : Nat)
    (entry : MessageHandlers) : Code E Unit :=
  Prog.step (fun s =>
    ((),
      { s with
        client :=
          { s.client with
            messageHandlers :=
              s.client.messageHandlers.set index entry } },
      (s.client.messageHandlers[index]?.toList).map
        (fun previous => .registered index previous)))

/-
  `_aws_iot_mqtt_internal_subscribe`.  The packet is encoded
  before the table is searched for a free slot, and the slot
  found is used after the wait.
-/
def internalSubscribe
    (port : Port E)
    (fuel : Nat)
    (callback : Callback E)
    (topic : Option CString)
    (topicLen : UInt16)
    (qos : QoS)
    (handler : Option HandlerId)
    (data : Nat) : Code E IoTError := do
  startCommandTimer port
  let txPacketId ← getNextPacketId
  let encoded ←
    serialize (fun c =>
      serializeSubscribe c.writeBufSize 0 txPacketId
        [(topic, topicLen, qos)])
  match encoded with
  | .error rc => pure rc
  | .ok serializedLen => do
      let c ← getClient
      let index :=
        getFreeMessageHandlerIndex c.messageHandlers
      if c.messageHandlers.length ≤ index then
        pure .mqttMaxSubscriptionsReachedError
      else do
        let rc ← sendPacket port fuel serializedLen .command
        if rc ≠ .success then
          pure rc
        else do
          let rc ←
            waitForRead port fuel callback .suback .command
          if rc ≠ .success then
            pure rc
          else do
            let c ← getClient
            match
              deserializeSuback c.readBuf 1 c.readBufSize with
            | .error rc => pure rc
            | .ok _ => do
                registerHandler index
                  { topicName := topic
                    topicNameLen := topicLen
                    qos := qos
                    pApplicationHandler := handler
                    pApplicationHandlerData := data }
                pure .success

/- `aws_iot_mqtt_subscribe`. -/
def subscribe
    (port : Port E)
    (fuel : Nat)
    (callback : Callback E)
    (topic : Option CString)
    (topicLen : UInt16)
    (qos : QoS)
    (handler : Option HandlerId)
    (data : Nat) : Code E IoTError :=
  if topic.isNone ∨ handler.isNone then
    pure .nullValueError
  else
    enterOperation port .connectedSubscribeInProgress
      (fun _ rc => pure rc)
      (internalSubscribe port fuel callback topic topicLen
        qos handler data)

/- The slots `resubscribe` still has to send. -/
def resubscribeSlots
    (port : Port E)
    (fuel : Nat)
    (callback : Callback E) :
    List Nat → Code E IoTError
  | [] => pure .success
  | itr :: rest => do
      startCommandTimer port
      let packetId ← getNextPacketId
      let c ← getClient
      match c.messageHandlers[itr]? with
      | none => Prog.stop
      | some slot => do
          let rc ←
            subscribeExchange port fuel callback packetId
              slot.topicName slot.topicNameLen slot.qos
          if rc ≠ .success then
            pure rc
          else
            resubscribeSlots port fuel callback rest

/- `_aws_iot_mqtt_internal_resubscribe`. -/
def internalResubscribe
    (port : Port E)
    (fuel : Nat)
    (callback : Callback E) : Code E IoTError := do
  let c ← getClient
  let existingSubCount :=
    getFreeMessageHandlerIndex c.messageHandlers
  resubscribeSlots port fuel callback
    (List.range existingSubCount)

/- `aws_iot_mqtt_resubscribe`. -/
def resubscribe
    (port : Port E)
    (fuel : Nat)
    (callback : Callback E) : Code E IoTError := do
  let seen ← getClientState
  if ¬ isClientConnected seen then
    pure .networkDisconnectedError
  else do
    let clientState ← getClientState
    if clientState ≠ .connectedIdle then
      pure .mqttClientNotIdleError
    else do
      let rc ←
        setClientState port .connectedIdle
          .connectedResubscribeInProgress
      if rc ≠ .success then
        pure rc
      else
        withClientState port .connectedIdle
          .connectedResubscribeInProgress
          (internalResubscribe port fuel callback)

end Mqtt

end TrustOnboard

------------------------------------------------------------
-- Unsubscribe
------------------------------------------------------------

namespace TrustOnboard

namespace Mqtt

variable {E : Type}

/- A slot whose topic equals the filter under `strcmp`. -/
def MessageHandlers.holds
    (slot : MessageHandlers)
    (filter : Option CString) : Bool :=
  slot.topicName.isSome && slot.topicName == filter

/- Free every slot that holds the filter. -/
def removeFilter
    (filter : Option CString)
    (table : List MessageHandlers) : List MessageHandlers :=
  table.map (fun slot =>
    if slot.holds filter then { slot with topicName := none }
    else slot)

/- The UNSUBSCRIBE request up to the decoding of its ack. -/
def unsubscribeExchange
    (port : Port E)
    (fuel : Nat)
    (callback : Callback E)
    (filter : Option CString)
    (filterLen : UInt16) : Code E IoTError := do
  startCommandTimer port
  let packetId ← getNextPacketId
  let rc ←
    sendSerialized port fuel .command (fun c =>
      serializeUnsubscribe c.writeBufSize 0 packetId
        [(filter, filterLen)])
  if rc ≠ .success then
    pure rc
  else do
    let rc ← waitForRead port fuel callback .unsuback .command
    if rc ≠ .success then
      pure rc
    else do
      let c ← getClient
      match deserializeUnsuback c.readBuf c.readBufSize with
      | .error rc => pure rc
      | .ok _ => pure .success

/- `_aws_iot_mqtt_internal_unsubscribe`. -/
def internalUnsubscribe
    (port : Port E)
    (fuel : Nat)
    (callback : Callback E)
    (filter : Option CString)
    (filterLen : UInt16) : Code E IoTError := do
  let c ← getClient
  if ¬ c.messageHandlers.any (fun slot => slot.holds filter)
  then
    pure .failure
  else do
    let rc ←
      unsubscribeExchange port fuel callback filter filterLen
    if rc ≠ .success then
      pure rc
    else do
      modifyClient (fun c =>
        { c with
          messageHandlers :=
            removeFilter filter c.messageHandlers })
      pure .success

/-
  `aws_iot_mqtt_unsubscribe`.  When the state cannot be moved
  to the state of the operation, the source tries to move it
  back from there and returns the code of that attempt.
-/
def unsubscribe
    (port : Port E)
    (fuel : Nat)
    (callback : Callback E)
    (filter : Option CString)
    (filterLen : UInt16) : Code E IoTError :=
  if filter.isNone then
    pure .nullValueError
  else
    enterOperation port .connectedUnsubscribeInProgress
      (fun clientState _ => do
        Prog.emit (fun s =>
          .stateRollback s.client.clientState)
        setClientState port .connectedUnsubscribeInProgress
          clientState)
      (internalUnsubscribe port fuel callback filter filterLen)

end Mqtt

end TrustOnboard

------------------------------------------------------------
-- Connect And Disconnect
------------------------------------------------------------

namespace TrustOnboard

namespace Mqtt

variable {E : Type}

/- `_aws_iot_mqtt_is_client_state_valid_for_connect`. -/
def isClientStateValidForConnect : ClientState → Bool
  | .initialized => true
  | .disconnectedError => true
  | .disconnectedManually => true
  | .pendingReconnect => true
  | _ => false

/- The exchange of CONNECT and CONNACK on a new connection. -/
def connectExchange
    (port : Port E)
    (fuel : Nat)
    (callback : Callback E) : Code E IoTError := do
  startCommandTimer port
  modifyClient (fun c =>
    { c with
      keepAliveInterval := c.options.keepAliveIntervalInSec })
  let rc ←
    sendSerialized port fuel .command (fun c =>
      serializeConnect c.writeBufSize c.options)
  if rc ≠ .success then
    pure rc
  else do
    let rc ← waitForRead port fuel callback .connack .command
    if rc ≠ .success then
      pure rc
    else do
      let c ← getClient
      match deserializeConnack c.readBuf c.readBufSize with
      | .error rc => pure rc
      | .ok connackRc =>
          if connackRc ≠ .mqttConnackConnectionAccepted then
            pure connackRc
          else do
            modifyClient (fun c =>
              { c with isPingOutstanding := false })
            let c ← getClient
            countdown port .ping
              (c.keepAliveInterval.toNat * 1000)
            pure .success

/- `_aws_iot_mqtt_internal_connect`. -/
def internalConnect
    (port : Port E)
    (fuel : Nat)
    (callback : Callback E)
    (params : Option ConnectParams) : Code E IoTError := do
  match params with
  | none => pure ()
  | some params =>
      modifyClient (fun c => setConnectParams c params)
  let rc ← netConnect port
  if rc ≠ .success then
    pure rc
  else
    connectExchange port fuel callback

/- `aws_iot_mqtt_connect`. -/
def connect
    (port : Port E)
    (fuel : Nat)
    (callback : Callback E)
    (params : Option ConnectParams) : Code E IoTError := do
  let clientState ← getClientState
  if ¬ isClientStateValidForConnect clientState then
    pure .networkAlreadyConnectedError
  else do
    let _ ← setClientState port clientState .connecting
    let rc ← internalConnect port fuel callback params
    if rc ≠ .success then do
      netDisconnect port
      let _ ← netDestroy port .connect
      let _ ←
        setClientState port .connecting .disconnectedError
      pure rc
    else do
      let _ ← setClientState port .connecting .connectedIdle
      pure rc

/- `_aws_iot_mqtt_internal_disconnect`. -/
def internalDisconnect
    (port : Port E)
    (fuel : Nat) : Code E IoTError := do
  let encoded ←
    serialize (fun c =>
      serializeZero c.writeBufSize .disconnect)
  match encoded with
  | .error rc => pure rc
  | .ok serializedLen => do
      startCommandTimer port
      let rc ←
        if 0 < serializedLen then
          sendPacket port fuel serializedLen .command
        else
          pure .success
      if rc ≠ .success then
        pure rc
      else do
        netDisconnect port
        let rc ← netDestroy port .disconnect
        if rc ≠ .success then
          pure .failure
        else
          pure .success

/- `aws_iot_mqtt_disconnect`. -/
def disconnect
    (port : Port E)
    (fuel : Nat) : Code E IoTError := do
  let clientState ← getClientState
  let seen ← getClientState
  if ¬ isClientConnected seen then
    pure .networkDisconnectedError
  else do
    let rc ← setClientState port clientState .disconnecting
    if rc ≠ .success then
      pure rc
    else do
      let rc ← internalDisconnect port fuel
      if rc ≠ .success then do
        assignClientState clientState
        pure rc
      else do
        assignClientState .disconnectedManually
        pure rc

/- `aws_iot_mqtt_attempt_reconnect`. -/
def attemptReconnect
    (port : Port E)
    (fuel : Nat)
    (callback : Callback E) : Code E IoTError := do
  let seen ← getClientState
  if isClientConnected seen then
    pure .networkAlreadyConnectedError
  else do
    let _ ← connect port fuel callback none
    let clientState ← getClientState
    if clientState ≠ .connectedIdle then do
      Prog.emit (fun s =>
        .reconnectFailed s.client.clientState
          s.client.currentReconnectWaitInterval)
      let _ ←
        setClientState port .disconnectedError
          .pendingReconnect
      pure .networkAttemptingReconnect
    else do
      let rc ← resubscribe port fuel callback
      if rc ≠ .success then
        pure rc
      else
        pure .networkReconnected

end Mqtt

end TrustOnboard

------------------------------------------------------------
-- Yield
------------------------------------------------------------

namespace TrustOnboard

namespace Mqtt

variable {E : Type}

/- `_aws_iot_mqtt_force_client_disconnect`. -/
def forceClientDisconnect (port : Port E) : Code E Unit := do
  assignClientState .disconnectedError
  netDisconnect port
  let _ ← netDestroy port .forceClientDisconnect
  pure ()

/- A disconnect, by force when it fails. -/
def disconnectOrForce
    (port : Port E)
    (fuel : Nat) : Code E Unit := do
  let rc ← disconnect port fuel
  if rc ≠ .success then
    forceClientDisconnect port
  else
    pure ()

/- The call of the disconnect handler, if one is set. -/
def callDisconnectHandler
    (onLost : HandlerId → Nat → Code E Unit) :
    Code E Unit := do
  let c ← getClient
  match c.disconnectHandler with
  | none => pure ()
  | some handler => do
      onLost handler c.disconnectHandlerData
      Prog.emit (fun s =>
        .disconnectHandlerReturned s.client.clientState)

/-
  `_aws_iot_mqtt_handle_disconnect`.  `onLost` is the call of
  the application's disconnect handler.
-/
def handleDisconnect
    (port : Port E)
    (fuel : Nat)
    (onLost : HandlerId → Nat → Code E Unit) :
    Code E IoTError := do
  record .connectionLost
  disconnectOrForce port fuel
  callDisconnectHandler onLost
  assignClientState .disconnectedError
  pure .networkDisconnectedError

/-
  The end of `_aws_iot_mqtt_handle_reconnect`, reached when
  the attempt did not bring the connection back.
-/
def backOff
    (port : Port E)
    (rc : IoTError) : Code E IoTError := do
  modifyClient (fun c =>
    { c with
      currentReconnectWaitInterval :=
        c.currentReconnectWaitInterval * 2 })
  let c ← getClient
  if port.maxReconnectWaitInterval <
      c.currentReconnectWaitInterval then
    pure .networkReconnectTimedOutError
  else do
    countdown port .reconnectDelay
      c.currentReconnectWaitInterval.toNat
    pure rc

/- `_aws_iot_mqtt_handle_reconnect`. -/
def handleReconnect
    (port : Port E)
    (fuel : Nat)
    (callback : Callback E) : Code E IoTError := do
  let expired ← hasTimerExpired port .reconnectDelay
  if ¬ expired then
    pure .networkAttemptingReconnect
  else do
    let rc ← netIsConnected port
    if rc = .networkPhysicalLayerConnected then do
      let rc ← attemptReconnect port fuel callback
      if rc = .networkReconnected then do
        let rc ←
          setClientState port .connectedIdle
            .connectedYieldInProgress
        if rc ≠ .success then
          pure rc
        else
          pure .networkReconnected
      else
        backOff port rc
    else
      backOff port rc

/- `_aws_iot_mqtt_keep_alive`. -/
def keepAlive
    (port : Port E)
    (fuel : Nat)
    (onLost : HandlerId → Nat → Code E Unit) :
    Code E IoTError := do
  let c ← getClient
  if c.keepAliveInterval = 0 then
    pure .success
  else do
    let expired ← hasTimerExpired port .ping
    if ¬ expired then
      pure .success
    else do
      let c ← getClient
      if c.isPingOutstanding then
        handleDisconnect port fuel onLost
      else do
        startCommandTimer port
        let encoded ←
          serialize (fun c =>
            serializeZero c.writeBufSize .pingreq)
        match encoded with
        | .error rc => pure rc
        | .ok serializedLen => do
            let rc ←
              sendPacket port fuel serializedLen .command
            if rc ≠ .success then
              handleDisconnect port fuel onLost
            else do
              modifyClient (fun c =>
                { c with isPingOutstanding := true })
              let c ← getClient
              countdown port .ping
                (c.keepAliveInterval.toNat * 1000)
              pure .success

/- The codes of `cycle_read` that end the connection. -/
def isTerminal (rc : IoTError) : Bool :=
  rc == .networkSslReadError ||
    rc == .networkSslReadTimeoutError ||
    rc == .networkSslWriteError ||
    rc == .networkSslWriteTimeoutError

/-
  One round of `_aws_iot_mqtt_internal_yield` outside the
  pending state: read, then keep alive or give up.
-/
def yieldRead
    (port : Port E)
    (fuel : Nat)
    (callback : Callback E)
    (onLost : HandlerId → Nat → Code E Unit) :
    Code E IoTError := do
  let r ← cycleRead port fuel callback .yield
  if r.1 = .success then
    keepAlive port fuel onLost
  else if isTerminal r.1 then
    handleDisconnect port fuel onLost
  else
    pure r.1

/-
  The step from a lost connection to the pending state: the
  code to go on with, or the code to return at once.
-/
def startReconnect
    (port : Port E) : Code E (IoTError ⊕ IoTError) := do
  modifyClient (fun c =>
    { c with
      counterNetworkDisconnected :=
        c.counterNetworkDisconnected + 1 })
  let c ← getClient
  if c.isAutoReconnectEnabled then do
    let rc ←
      setClientState port .disconnectedError .pendingReconnect
    if rc ≠ .success then
      pure (.inr rc)
    else do
      record .backOffStarted
      modifyClient (fun c =>
        { c with
          currentReconnectWaitInterval :=
            port.minReconnectWaitInterval })
      countdown port .reconnectDelay
        port.minReconnectWaitInterval.toNat
      pure (.inl .networkAttemptingReconnect)
  else
    pure (.inr .networkDisconnectedError)

/- The test of the yield timer at the end of a round. -/
def yieldTimer
    (port : Port E)
    (yieldRc : IoTError) : Code E (Unit ⊕ IoTError) := do
  let expired ← hasTimerExpired port .yield
  if expired then
    pure (.inr yieldRc)
  else
    pure (.inl ())

/- One round of `_aws_iot_mqtt_internal_yield`. -/
def yieldRound
    (port : Port E)
    (fuel : Nat)
    (waitCallback yieldCallback : Callback E)
    (onLost : HandlerId → Nat → Code E Unit) :
    Code E (Unit ⊕ IoTError) := do
  let clientState ← getClientState
  if clientState = .pendingReconnect then do
    let c ← getClient
    if port.maxReconnectWaitInterval <
        c.currentReconnectWaitInterval then
      pure (.inr .networkReconnectTimedOutError)
    else do
      let yieldRc ← handleReconnect port fuel waitCallback
      yieldTimer port yieldRc
  else do
    let yieldRc ← yieldRead port fuel yieldCallback onLost
    if yieldRc = .networkDisconnectedError then do
      let r ← startReconnect port
      match r with
      | .inl yieldRc => yieldTimer port yieldRc
      | .inr yieldRc => pure (.inr yieldRc)
    else if yieldRc ≠ .success then
      pure (.inr yieldRc)
    else
      yieldTimer port yieldRc

/-
  `_aws_iot_mqtt_internal_yield`.  Callbacks are told apart by
  where they run: inside the wait of a reconnect, or in the
  yield itself.
-/
def internalYield
    (port : Port E)
    (fuel : Nat)
    (waitCallback yieldCallback : Callback E)
    (onLost : HandlerId → Nat → Code E Unit)
    (timeoutMs : UInt32) : Code E IoTError := do
  countdown port .yield timeoutMs.toNat
  Prog.loop fuel
    (fun _ =>
      yieldRound port fuel waitCallback yieldCallback onLost)
    ()

/- The end of `aws_iot_mqtt_yield`. -/
def finishYield
    (port : Port E)
    (yieldRc : IoTError) : Code E IoTError := do
  if yieldRc ≠ .networkDisconnectedError ∧
      yieldRc ≠ .networkAttemptingReconnect then do
    let rc ←
      setClientState port .connectedYieldInProgress
        .connectedIdle
    if yieldRc = .success ∧ rc ≠ .success then
      pure rc
    else
      pure yieldRc
  else
    pure yieldRc

/- `aws_iot_mqtt_yield`. -/
def yield
    (port : Port E)
    (fuel : Nat)
    (waitCallback yieldCallback : Callback E)
    (onLost : HandlerId → Nat → Code E Unit)
    (timeoutMs : UInt32) : Code E IoTError := do
  if timeoutMs = 0 then
    pure .nullValueError
  else do
    let clientState ← getClientState
    if clientState = .disconnectedManually then
      pure .networkManuallyDisconnected
    else if clientState = .pendingReconnect then do
      let yieldRc ←
        internalYield port fuel waitCallback yieldCallback
          onLost timeoutMs
      finishYield port yieldRc
    else do
      let seen ← getClientState
      if ¬ isClientConnected seen then
        pure .networkDisconnectedError
      else if clientState ≠ .connectedIdle then
        pure .mqttClientNotIdleError
      else do
        let rc ←
          setClientState port .connectedIdle
            .connectedYieldInProgress
        if rc ≠ .success then
          pure rc
        else do
          let yieldRc ←
            internalYield port fuel waitCallback
              yieldCallback onLost timeoutMs
          finishYield port yieldRc

end Mqtt

end TrustOnboard

------------------------------------------------------------
-- Initialisation
------------------------------------------------------------

namespace TrustOnboard

namespace Mqtt

variable {E : Type}

/- The handler table after `aws_iot_mqtt_init`. -/
def clearedTable
    (table : List MessageHandlers) : List MessageHandlers :=
  table.map (fun slot =>
    { slot with
      topicName := none
      pApplicationHandler := none
      pApplicationHandlerData := 0
      qos := .qos0 })

/- The fields `aws_iot_mqtt_init` sets before TLS is set up. -/
def initClient
    (port : Port E)
    (p : InitParams)
    (c : Client) : Client :=
  let c :=
    { c with
      messageHandlers := clearedTable c.messageHandlers
      packetTimeoutMs := p.mqttPacketTimeoutMs
      commandTimeoutMs := p.mqttCommandTimeoutMs
      writeBufSize := port.txBufLen
      readBufSize := port.rxBufLen
      counterNetworkDisconnected := 0
      disconnectHandler := p.disconnectHandler
      disconnectHandlerData := p.disconnectHandlerData
      nextPacketId := 1 }
  let c := setConnectParams c ConnectParams.initializer
  let c :=
    if port.threadSupport then
      { c with
        isBlockOnThreadLockEnabled :=
          p.isBlockOnThreadLockEnabled
        locked := fun _ => false }
    else c
  { c with
    isPingOutstanding := false
    isAutoReconnectEnabled := p.enableAutoReconnect }

/- `aws_iot_mqtt_init`. -/
def init
    (port : Port E)
    (params : Option InitParams) : Code E IoTError :=
  match params with
  | none => pure .nullValueError
  | some p =>
      if p.pHostURL.isNone ∨ p.port = 0 ∨
          p.pRootCALocation.isNone ∨
          p.pDevicePrivateKeyLocation.isNone ∨
          p.pDeviceCertLocation.isNone then
        pure .nullValueError
      else do
        record .init
        modifyClient (initClient port p)
        let rc ← Prog.step (fun s =>
          let r := port.tlsInit s.env
          (r.1, { s with env := r.2 }, []))
        if rc ≠ .success then do
          assignClientState .invalid
          pure rc
        else do
          countdown port .ping 0
          countdown port .reconnectDelay 0
          assignClientState .initialized
          pure .success

end Mqtt

end TrustOnboard
