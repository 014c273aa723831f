import TrustOnboard.Mqtt.Client

/-
  The receive path of the client: topic matching, delivery of
  messages to the handlers, the dispatch of one packet, and
  the wait for an acknowledgement.

  Message callbacks are a parameter: `Callback E` says what
  the application does when one of its handlers is called.
  The interface calls a callback makes are tied in
  `Mqtt/Api`.

  Key definitions include:
    * `isTopicMatched`
    * `deliverMessage`
    * `handlePublish`
    * `cycleRead`
    * `waitForRead`
-/

------------------------------------------------------------
-- Topic Matching
------------------------------------------------------------

namespace TrustOnboard

namespace Mqtt

/- The separator `/`. -/
def separator : UInt8 := 47

/- The single-level wildcard `+`. -/
def singleLevel : UInt8 := 43

/- The multi-level wildcard `#`. -/
def multiLevel : UInt8 := 35

/-
  `strncmp(name, filter, n) == 0` for the `n` bytes of a name
  and a filter that ends in a NUL.
-/
def strncmpEq : Bytes → Bytes → Bool
  | [], _ => true
  | a :: _, [] => a == 0
  | a :: as, b :: bs =>
      a == b && (a == 0 || strncmpEq as bs)

/-
  `_aws_iot_mqtt_internal_is_topic_matched` on the characters
  of the filter and the bytes of the name not yet consumed.
-/
def isTopicMatched : Bytes → Bytes → Bool
  | [], name => name.isEmpty
  | _ :: _, [] => false
  | f :: fs, n :: ns =>
      if n = separator ∧ f ≠ separator then false
      else if f ≠ singleLevel ∧ f ≠ multiLevel ∧ f ≠ n then
        false
      else if f = singleLevel then
        isTopicMatched fs
          (ns.dropWhile (fun b => b ≠ separator))
      else if f = multiLevel then
        isTopicMatched fs []
      else
        isTopicMatched fs ns

/- The test `deliver_message` applies to one slot. -/
def MessageHandlers.accepts
    (slot : MessageHandlers)
    (name : Bytes) : Bool :=
  match slot.topicName with
  | none => false
  | some filter =>
      (name.length = slot.topicNameLen.toNat &&
          strncmpEq name filter.bytes) ||
        isTopicMatched filter.bytes name

end Mqtt

end TrustOnboard

------------------------------------------------------------
-- Delivery And Dispatch
------------------------------------------------------------

namespace TrustOnboard

namespace Mqtt

variable {E : Type}

/- What the application does when a handler is called. -/
abbrev Callback (E : Type) :=
  HandlerId → Nat → Message → Code E Unit

/-
  The body of the delivery loop for one slot.  Slot, topic,
  payload and parameters are read when its turn comes.
-/
def deliverToSlot
    (callback : Callback E)
    (msg : Message)
    (itr : Nat) : Code E Unit := do
  let c ← getClient
  let seen := c.sees msg
  match c.messageHandlers[itr]? with
  | none => pure ()
  | some slot =>
      if slot.accepts seen.topic then
        match slot.pApplicationHandler with
        | none => pure ()
        | some handler => do
            record
              (.deliver itr handler
                slot.pApplicationHandlerData seen)
            callback handler slot.pApplicationHandlerData seen
      else
        pure ()

/- `_aws_iot_mqtt_internal_deliver_message`. -/
def deliverMessage
    (port : Port E)
    (callback : Callback E)
    (msg : Message) : Code E IoTError := do
  let clientState ← getClientState
  let _ ← setClientState port clientState
    .connectedWaitForCbReturn
  let c ← getClient
  Prog.each (deliverToSlot callback msg)
    (List.range c.messageHandlers.length)
  setClientState port .connectedWaitForCbReturn clientState

/-
  `_aws_iot_mqtt_internal_handle_publish`.  Its handlers may
  change the parameters of the message, which are read again
  for the acknowledgement.
-/
def handlePublish
    (port : Port E)
    (fuel : Nat)
    (callback : Callback E)
    (timer : TimerName) : Code E IoTError := do
  let c ← getClient
  match deserializePublish c.readBuf c.readBufSize with
  | .error rc => pure rc
  | .ok msg => do
      modifyMessages (fun messages => msg.params :: messages)
      let rc ← deliverMessage port callback msg
      let c ← getClient
      modifyMessages List.tail
      if rc ≠ .success then
        pure rc
      else
        match (c.sees msg).params.ackId with
        | none => pure .success
        | some id =>
            sendSerialized port fuel timer
              (fun c => serializeAck c.writeBufSize .puback 0 id)

/- The handling of a PINGRESP. -/
def handlePingresp (port : Port E) : Code E IoTError := do
  modifyClient (fun c => { c with isPingOutstanding := false })
  let c ← getClient
  countdown port .ping (c.keepAliveInterval.toNat * 1000)
  pure .success

/- The `switch` on the packet type in `cycle_read`. -/
def dispatchPacket
    (port : Port E)
    (fuel : Nat)
    (callback : Callback E)
    (timer : TimerName)
    (packetType : UInt8) : Code E IoTError :=
  match MessageType.ofNibble packetType with
  | some .connack => pure .success
  | some .puback => pure .success
  | some .suback => pure .success
  | some .unsuback => pure .success
  | some .publish => handlePublish port fuel callback timer
  | some .pubrec => pure .success
  | some .pubcomp => pure .success
  | some .pingresp => handlePingresp port
  | _ => pure .mqttRxMessagePacketTypeInvalidError

/-
  `aws_iot_mqtt_internal_cycle_read`: the code, and the packet
  type when a whole packet was read.
-/
def cycleRead
    (port : Port E)
    (fuel : Nat)
    (callback : Callback E)
    (timer : TimerName) :
    Code E (IoTError × Option UInt8) := do
  let threadRc ← lockMutex port .tlsRead
  if threadRc ≠ .success then
    pure (threadRc, none)
  else do
    let (rc, packetType) ← readPacket port fuel
    let threadRc ← unlockMutex port .tlsRead
    if threadRc ≠ .success ∧
        (rc = .mqttNothingToRead ∨ rc = .success) then
      pure (threadRc, packetType)
    else if rc = .mqttNothingToRead then
      pure (.success, packetType)
    else if rc ≠ .success then
      pure (rc, packetType)
    else
      match packetType with
      | none => pure (rc, packetType)
      | some type => do
          let rc ←
            dispatchPacket port fuel callback timer type
          pure (rc, packetType)

/-
  `aws_iot_mqtt_internal_wait_for_read`.  The packet type of
  an earlier round stays in place when a round reads none.
-/
def waitForRead
    (port : Port E)
    (fuel : Nat)
    (callback : Callback E)
    (awaited : MessageType)
    (timer : TimerName) : Code E IoTError :=
  Prog.loop fuel
    (fun (readPacketType : UInt8) => do
      let expired ← hasTimerExpired port timer
      if expired then
        pure (.inr .mqttRequestTimeoutError)
      else do
        let (rc, packetType) ←
          cycleRead port fuel callback timer
        let readPacketType := packetType.getD readPacketType
        if rc = .networkDisconnectedError then
          pure (.inr rc)
        else if readPacketType = awaited.nibble then
          pure (.inr rc)
        else
          pure (.inl readPacketType))
    0

end Mqtt

end TrustOnboard
