import TrustOnboard.Mqtt.Codec

/-
  The client's access to its own state and to the platform,
  and the transfer of single packets.

  Each primitive is one atomic action.  Everything else is
  written over the primitives in the order of the source, so
  that the same text describes a single-threaded run and one
  thread among several.

  Key definitions include:
    * `setClientState`
    * `isClientConnected`
    * `sendPacket`
    * `decodePacketRemainingLen`
    * `readPacket`
-/

------------------------------------------------------------
-- Primitives
------------------------------------------------------------

namespace TrustOnboard

namespace Mqtt

variable {E : Type}

/- Read the client structure. -/
def getClient : Code E Client :=
  Prog.read (fun s => s.client)

/- Change the client structure. -/
def modifyClient (f : Client → Client) : Code E Unit :=
  Prog.modify (fun s => { s with client := f s.client })

/- Change the parameters of the messages being handled. -/
def modifyMessages
    (f : List MessageParams → List MessageParams) :
    Code E Unit :=
  modifyClient (fun c =>
    { c with messageParams := f c.messageParams })

/- `aws_iot_mqtt_get_client_state`. -/
def getClientState : Code E ClientState :=
  Prog.read (fun s => s.client.clientState)

/- An assignment to `clientStatus.clientState`. -/
def assignClientState (new : ClientState) : Code E Unit :=
  modifyClient (fun c => { c with clientState := new })

/- Record an event. -/
def record (e : Event) : Code E Unit :=
  Prog.emit (fun _ => e)

/- `has_timer_expired`. -/
def hasTimerExpired
    (port : Port E)
    (timer : TimerName) : Code E Bool :=
  Prog.step (fun s =>
    let r := port.hasTimerExpired timer s.env
    (r.1, { s with env := r.2 }, [.timerChecked timer r.1]))

/- `countdown_ms` and `countdown_sec`, with `init_timer`. -/
def countdown
    (port : Port E)
    (timer : TimerName)
    (span : Nat) : Code E Unit :=
  Prog.modify (fun s =>
    { s with env := port.countdown timer span s.env })

/- `networkStack.connect`. -/
def netConnect (port : Port E) : Code E IoTError :=
  Prog.step (fun s =>
    let r := port.netConnect s.env
    (r.1, { s with env := r.2 }, [.netConnect r.1]))

/- `networkStack.disconnect`. -/
def netDisconnect (port : Port E) : Code E Unit :=
  Prog.step (fun s =>
    ((), { s with env := port.netDisconnect s.env },
      [.netDisconnect]))

/- `networkStack.destroy`. -/
def netDestroy
    (port : Port E)
    (site : Teardown) : Code E IoTError :=
  Prog.step (fun s =>
    let r := port.netDestroy s.env
    (r.1, { s with env := r.2 },
      [.netDestroy site r.1 s.client.clientState]))

/- `networkStack.isConnected`. -/
def netIsConnected (port : Port E) : Code E IoTError :=
  Prog.step (fun s =>
    let r := port.netIsConnected s.env
    (r.1, { s with env := r.2 }, []))

/-
  `networkStack.read` into the receive buffer at the given
  offset, or into a local variable.
-/
def netRead
    (port : Port E)
    (site : ReadSite)
    (target : Option Nat)
    (n : Nat) : Code E (ReadResult n) :=
  Prog.step (fun s =>
    let r := port.netRead n s.env
    let bs := r.1.received
    let event := Event.netRead site n bs r.1.rc
    match target with
    | none => (r.1, { s with env := r.2 }, [event])
    | some off =>
        (r.1,
          { client :=
              { s.client with
                readBuf := s.client.readBuf.store off bs }
            env := r.2 },
          [.rxStore off bs.length, event]))

/- `networkStack.write` of a region of the transmit buffer. -/
def netWrite
    (port : Port E)
    (off len : Nat) :
    Code E (IoTError × Nat) :=
  Prog.step (fun s =>
    let bs := s.client.writeBuf.load off len
    let r := port.netWrite bs s.env
    ((r.1.rc, r.1.count), { s with env := r.2 },
      [.netWrite len (bs.take r.1.count) r.1.rc]))

end Mqtt

end TrustOnboard

------------------------------------------------------------
-- Client State
------------------------------------------------------------

namespace TrustOnboard

namespace Mqtt

variable {E : Type}

/- Mark a mutex as held or free. -/
def Client.setLocked
    (c : Client)
    (m : Mutex)
    (held : Bool) : Client :=
  { c with
    locked := fun m' => if m' = m then held else c.locked m' }

/- `aws_iot_mqtt_client_lock_mutex`, where it is compiled. -/
def lockMutex
    (port : Port E)
    (m : Mutex) : Code E IoTError :=
  if port.threadSupport then do
    let c ← getClient
    if c.isBlockOnThreadLockEnabled then do
      Prog.await
        (fun s => !s.client.locked m)
        (fun s =>
          { s with client := s.client.setLocked m true })
      pure .success
    else
      Prog.step (fun s =>
        let r := port.mutexTrylock m s.env
        if r.1 && !s.client.locked m then
          (.success,
            { client := s.client.setLocked m true
              env := r.2 },
            [])
        else
          (.mutexLockError, { s with env := r.2 }, []))
  else
    pure .success

/- `aws_iot_mqtt_client_unlock_mutex`. -/
def unlockMutex
    (port : Port E)
    (m : Mutex) : Code E IoTError :=
  if port.threadSupport then do
    modifyClient (fun c => c.setLocked m false)
    pure .success
  else
    pure .success

/-
  The comparison and assignment inside
  `aws_iot_mqtt_set_client_state`.
-/
def compareAndSetState
    (expected new : ClientState) : Code E IoTError :=
  Prog.step (fun s =>
    let found := s.client.clientState
    if expected = found then
      (.success,
        { s with
          client := { s.client with clientState := new } },
        [.setState expected new found])
    else
      (.mqttUnexpectedClientStateError, s,
        [.setState expected new found]))

/- `aws_iot_mqtt_set_client_state`. -/
def setClientState
    (port : Port E)
    (expected new : ClientState) : Code E IoTError := do
  let rc ← lockMutex port .stateChange
  if rc ≠ .success then do
    Prog.emit (fun s =>
      .setStateBusy expected new s.client.clientState)
    pure rc
  else do
    let rc ← compareAndSetState expected new
    let threadRc ← unlockMutex port .stateChange
    if rc = .success ∧ threadRc ≠ .success then
      pure threadRc
    else
      pure rc

/- `aws_iot_mqtt_is_client_connected`. -/
def isClientConnected : ClientState → Bool
  | .invalid => false
  | .initialized => false
  | .connecting => false
  | .connectedIdle => true
  | .connectedYieldInProgress => true
  | .connectedPublishInProgress => true
  | .connectedSubscribeInProgress => true
  | .connectedUnsubscribeInProgress => true
  | .connectedResubscribeInProgress => true
  | .connectedWaitForCbReturn => true
  | .disconnecting => false
  | .disconnectedError => false
  | .disconnectedManually => false
  | .pendingReconnect => false

/- The value `aws_iot_mqtt_get_next_packet_id` computes. -/
def nextPacketIdAfter (id : UInt16) : UInt16 :=
  if id = 65535 then 1 else id + 1

/- `aws_iot_mqtt_get_next_packet_id`. -/
def getNextPacketId : Code E UInt16 :=
  Prog.step (fun s =>
    let id := nextPacketIdAfter s.client.nextPacketId
    (id,
      { s with client := { s.client with nextPacketId := id } },
      []))

/-
  `aws_iot_mqtt_set_connect_params`.  The password pointer is
  taken from the user name, as in the source.
-/
def setConnectParams
    (c : Client)
    (new : ConnectParams) : Client :=
  { c with
    options :=
      { isWillMsgPresent := new.isWillMsgPresent
        mqttVersion := new.mqttVersion
        pClientID := new.pClientID
        clientIDLen := new.clientIDLen
        pUsername := new.pUsername
        usernameLen := new.usernameLen
        pPassword := new.pUsername
        passwordLen := new.passwordLen
        will :=
          { pTopicName := new.will.pTopicName
            topicNameLen := new.will.topicNameLen
            pMessage := new.will.pMessage
            msgLen := new.will.msgLen
            qos := new.will.qos
            isRetained := new.will.isRetained }
        keepAliveIntervalInSec := new.keepAliveIntervalInSec
        isCleanSession := new.isCleanSession } }

end Mqtt

end TrustOnboard

------------------------------------------------------------
-- Sending One Packet
------------------------------------------------------------

namespace TrustOnboard

namespace Mqtt

variable {E : Type}

/-
  Put an encoded packet at the start of the transmit buffer
  and return its length, or the code of the encoder.
-/
def serialize
    (r : Client → Serialized) :
    Code E (Except IoTError Nat) := do
  let c ← getClient
  match r c with
  | none => Prog.stop
  | some (.error rc) => pure (.error rc)
  | some (.ok bs) => do
      modifyClient (fun c =>
        { c with writeBuf := c.writeBuf.store 0 bs })
      pure (.ok bs.length)

/-
  The loop of `send_packet`.  Every round asks for `length`
  bytes from the first byte not yet sent.
-/
def sendRounds
    (port : Port E)
    (fuel length : Nat)
    (timer : TimerName) : Code E Nat :=
  Prog.loop fuel
    (fun sent => do
      if sent < length then do
        let expired ← hasTimerExpired port timer
        if expired then
          pure (.inr sent)
        else do
          let r ← netWrite port sent length
          if r.1 ≠ .success then
            pure (.inr sent)
          else
            pure (.inl (sent + r.2))
      else
        pure (.inr sent))
    0

/- `aws_iot_mqtt_internal_send_packet`. -/
def sendPacket
    (port : Port E)
    (fuel length : Nat)
    (timer : TimerName) : Code E IoTError := do
  let c ← getClient
  if length ≥ c.writeBufSize then
    pure .mqttTxBufferTooShortError
  else do
    let rc ← lockMutex port .tlsWrite
    if rc ≠ .success then
      pure rc
    else do
      let sent ← sendRounds port fuel length timer
      let rc ← unlockMutex port .tlsWrite
      if rc ≠ .success then
        pure rc
      else if sent = length then do
        Prog.emit (fun s =>
          .txPacket (s.client.writeBuf.load 0 length))
        pure .success
      else
        pure .failure

/- Encode a packet and send it. -/
def sendSerialized
    (port : Port E)
    (fuel : Nat)
    (timer : TimerName)
    (r : Client → Serialized) : Code E IoTError := do
  let encoded ← serialize r
  match encoded with
  | .error rc => pure rc
  | .ok length => sendPacket port fuel length timer

end Mqtt

end TrustOnboard

------------------------------------------------------------
-- Reading One Packet
------------------------------------------------------------

namespace TrustOnboard

namespace Mqtt

variable {E : Type}

/- The values of `size_t`. -/
def sizeMax : Nat := 2 ^ 64

/-
  The local variables of the length decoder.  `len` is passed
  to the network layer, which overwrites it with the number
  of bytes read; `index` counts the bytes of the field.
-/
structure LenState where
  len : Nat
  index : Nat
  multiplier : Nat
  remLen : Nat

/- `_aws_iot_mqtt_internal_decode_packet_remaining_len`. -/
def decodePacketRemainingLen
    (port : Port E)
    (fuel : Nat) : Code E (Except IoTError Nat) :=
  Prog.loop fuel
    (fun (v : LenState) => do
      if v.len + 1 > maxNoOfRemainingLengthBytes then
        pure (.inr (.error .mqttDecodeRemainingLengthError))
      else do
        let r ← netRead port (.length v.index) none 1
        match r with
        | .success bs _ =>
            let encodedByte := bs.headD 0
            let remLen :=
              (v.remLen +
                (encodedByte &&& 127).toNat *
                  v.multiplier) % sizeMax
            if encodedByte &&& 128 ≠ 0 then
              pure (.inl
                { len := 1
                  index := v.index + 1
                  multiplier := v.multiplier * 128 % sizeMax
                  remLen := remLen })
            else
              pure (.inr (.ok remLen))
        | failed => pure (.inr (.error failed.rc)))
    { len := 0, index := 0, multiplier := 1, remLen := 0 }

/-
  The loop that reads and drops a packet that is too large
  for the receive buffer.
-/
def drainPacket
    (port : Port E)
    (fuel remLen readBufSize : Nat) : Code E Unit :=
  Prog.loop fuel
    (fun (v : Nat × Nat) => do
      let r ← netRead port .drain (some 0) v.2
      match r with
      | .success bs _ =>
          let total := v.1 + bs.length
          let next :=
            if remLen - total ≥ readBufSize then readBufSize
            else remLen - total
          if total < remLen then
            pure (.inl (total, next))
          else
            pure (.inr ())
      | _ => pure (.inr ()))
    (0, readBufSize)

/- The remaining length written behind the header byte. -/
def storeRemainingLen (lenBytes : Bytes) : Code E Unit :=
  Prog.step (fun s =>
    ((),
      { s with
        client :=
          { s.client with
            readBuf := s.client.readBuf.store 1 lenBytes } },
      [.rxStore 1 lenBytes.length]))

/- The read of the body; whether all of it arrived. -/
def readBody
    (port : Port E)
    (len remLen : Nat) : Code E Bool :=
  if remLen > 0 then do
    let r ← netRead port .body (some len) remLen
    match r with
    | .success _ _ => pure true
    | _ => pure false
  else
    pure true

/-
  The end of `_aws_iot_mqtt_internal_read_packet`, for a
  packet that passed the size check.
-/
def readContents
    (port : Port E)
    (remLen : Nat) : Code E (IoTError × Option UInt8) := do
  let lenBytes := writeLenToBuffer (UInt32.ofNat remLen)
  let len := 1 + lenBytes.length
  storeRemainingLen lenBytes
  let complete ← readBody port len remLen
  if complete then do
    let c ← getClient
    record (.rxPacket (c.readBuf.load 0 (len + remLen)))
    pure (.success, some (headerType (c.readBuf 0)))
  else
    pure (.failure, none)

/-
  `_aws_iot_mqtt_internal_read_packet`: the code, and the
  packet type when a whole packet was read.
-/
def readPacket
    (port : Port E)
    (fuel : Nat) : Code E (IoTError × Option UInt8) := do
  let c ← getClient
  countdown port .packet c.packetTimeoutMs.toNat
  let r ← netRead port .header (some 0) 1
  match r with
  | .nothingToRead _ => pure (.mqttNothingToRead, none)
  | .readTimeout _ _ _ => pure (r.rc, none)
  | .readError _ _ => pure (r.rc, none)
  | .success _ _ => do
      let decoded ← decodePacketRemainingLen port fuel
      match decoded with
      | .error rc => pure (rc, none)
      | .ok remLen => do
          let c ← getClient
          if remLen ≥ c.readBufSize then do
            drainPacket port fuel remLen c.readBufSize
            pure (.mqttRxBufferTooShortError, none)
          else
            readContents port remLen

end Mqtt

end TrustOnboard
