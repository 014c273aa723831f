import TrustOnboard.Mqtt.Types

/-
  Packet encoders and decoders of the MQTT client.

  The encoders return the bytes the source writes from the
  start of the transmit buffer, or the code it returns before
  writing any.  A `none` result stands for a copy from a NULL
  pointer, which has no defined outcome.  The decoders read
  the receive buffer at explicit offsets.

  Key definitions include:
    * `writeLenToBuffer`
    * `decodeRemainingLengthFromBuffer`
    * `initHeader`
    * `serializePublish`
    * `serializeSubscribe`
    * `serializeUnsubscribe`
    * `serializeAck`
    * `serializeZero`
    * `serializeConnect`
    * `deserializePublish`
    * `deserializeAck`
    * `deserializeSuback`
    * `deserializeConnack`
-/

------------------------------------------------------------
-- Remaining Length
------------------------------------------------------------

namespace TrustOnboard

namespace Mqtt

/- `MAX_NO_OF_REMAINING_LENGTH_BYTES`. -/
def maxNoOfRemainingLengthBytes : Nat := 4

/-
  The encoding loop.  Five rounds are enough for every
  32-bit length.
-/
def writeLenRounds : Nat → Nat → Bytes
  | 0, _ => []
  | k + 1, length =>
      let encodedByte := UInt8.ofNat (length % 128)
      if 0 < length / 128 then
        (encodedByte ||| 128) ::
          writeLenRounds k (length / 128)
      else
        [encodedByte]

/- `aws_iot_mqtt_internal_write_len_to_buffer`. -/
def writeLenToBuffer (length : UInt32) : Bytes :=
  writeLenRounds 5 length.toNat

/-
  The decoding loop: `rounds` is the number of bytes still
  allowed, `len` the number of bytes read.
-/
def decodeLenRounds
    (buf : Buffer) :
    (rounds off len multiplier decoded : Nat) →
      Except IoTError (Nat × Nat)
  | 0, _, _, _, _ =>
      .error .mqttDecodeRemainingLengthError
  | rounds + 1, off, len, multiplier, decoded =>
      let encodedByte := buf off
      let decoded' :=
        decoded + (encodedByte &&& 127).toNat * multiplier
      if encodedByte &&& 128 ≠ 0 then
        decodeLenRounds buf rounds (off + 1) (len + 1)
          (multiplier * 128) decoded'
      else
        .ok (decoded', len + 1)

/-
  `aws_iot_mqtt_internal_decode_remaining_length_from_buffer`:
  the decoded length and the number of bytes read.
-/
def decodeRemainingLengthFromBuffer
    (buf : Buffer)
    (off : Nat) : Except IoTError (Nat × Nat) :=
  decodeLenRounds buf maxNoOfRemainingLengthBytes
    off 0 1 0

/-
  `aws_iot_mqtt_internal_get_final_packet_length_from_`
  `remaining_length`.
-/
def getFinalPacketLength (remLen : UInt32) : UInt32 :=
  let remLen := remLen + 1
  if remLen < 128 then remLen + 1
  else if remLen < 16384 then remLen + 2
  else if remLen < 2097152 then remLen + 3
  else remLen + 4

end Mqtt

end TrustOnboard

------------------------------------------------------------
-- Header Byte And Fields
------------------------------------------------------------

namespace TrustOnboard

namespace Mqtt

/- `aws_iot_mqtt_internal_init_header`, the header byte. -/
def initHeader
    (messageType : MessageType)
    (qos : QoS)
    (dup retained : UInt8) : UInt8 :=
  let dupBit : UInt8 := if dup = 1 then 1 else 0
  let qosBits : UInt8 :=
    match qos with
    | .qos0 => 0
    | .qos1 => 1
    | _ => 0
  let retainBit : UInt8 := if retained = 1 then 1 else 0
  messageType.nibble * 16 + dupBit * 8 + qosBits * 2 +
    retainBit

/- The type bits of a header byte. -/
def headerType (byte : UInt8) : UInt8 :=
  byte / 16

/- The duplicate bit of a header byte. -/
def headerDup (byte : UInt8) : Bool :=
  byte / 8 % 2 = 1

/- The quality of service bits of a header byte. -/
def headerQos (byte : UInt8) : QoS :=
  QoS.ofBits (byte / 2)

/- The retain bit of a header byte. -/
def headerRetain (byte : UInt8) : Bool :=
  byte % 2 = 1

/- `aws_iot_mqtt_internal_write_uint_16`. -/
def writeUint16 (anInt : UInt16) : Bytes :=
  [UInt8.ofNat (anInt.toNat / 256),
    UInt8.ofNat (anInt.toNat % 256)]

/- `aws_iot_mqtt_internal_read_uint16_t`. -/
def readUint16 (buf : Buffer) (off : Nat) : UInt16 :=
  UInt16.ofNat
    ((buf (off + 1)).toNat + 256 * (buf off).toNat)

/-
  `memcpy` of `n` bytes from an object.  Bytes past the end
  of the object read as zero; copying from NULL has no
  outcome unless nothing is copied.
-/
def memcpyFrom
    (source : Option Bytes)
    (n : Nat) : Option Bytes :=
  if n = 0 then some []
  else
    source.map (fun bs =>
      (bs ++ List.replicate (n - bs.length) 0).take n)

/- The object a C string occupies, with its terminator. -/
def CString.object (s : CString) : Bytes :=
  s.bytes ++ [0]

/- `aws_iot_mqtt_internal_write_utf8_string`. -/
def writeUtf8String
    (string : Option Bytes)
    (stringLen : UInt16) : Option Bytes :=
  (memcpyFrom string stringLen.toNat).map
    (fun bs => writeUint16 stringLen ++ bs)

end Mqtt

end TrustOnboard

------------------------------------------------------------
-- Encoders
------------------------------------------------------------

namespace TrustOnboard

namespace Mqtt

/- The result of an encoder. -/
abbrev Serialized := Option (Except IoTError Bytes)

/-
  The common frame of the encoders: the header byte, the
  remaining length and the body, unless the packet cannot
  fit the transmit buffer.
-/
def serializeFrame
    (txBufLen : Nat)
    (header : UInt8)
    (remLen : UInt32)
    (body : Option Bytes) : Serialized :=
  if (getFinalPacketLength remLen).toNat > txBufLen then
    some (.error .mqttTxBufferTooShortError)
  else
    body.map (fun bs =>
      .ok (header :: writeLenToBuffer remLen ++ bs))

/- One filter of a SUBSCRIBE packet with its QoS byte. -/
def subscribeEntry
    (topic : Option CString)
    (topicLen : UInt16)
    (qos : QoS) : Option Bytes :=
  (writeUtf8String (topic.map CString.object) topicLen).map
    (fun bs => bs ++ [qos.value])

/- Concatenate optional parts; a missing part has no result. -/
def concatParts (parts : List (Option Bytes)) :
    Option Bytes :=
  parts.foldr
    (fun part rest =>
      part.bind (fun bs => rest.map (fun r => bs ++ r)))
    (some [])

/- `_aws_iot_mqtt_serialize_subscribe`. -/
def serializeSubscribe
    (txBufLen : Nat)
    (dup : UInt8)
    (packetId : UInt16)
    (topics : List (Option CString × UInt16 × QoS)) :
    Serialized :=
  let remLen : UInt32 :=
    topics.foldl
      (fun len topic => len + (topic.2.1.toUInt32 + 2 + 1))
      2
  serializeFrame txBufLen
    (initHeader .subscribe .qos1 dup 0) remLen
    (concatParts
      (some (writeUint16 packetId) ::
        topics.map
          (fun t => subscribeEntry t.1 t.2.1 t.2.2)))

/- `_aws_iot_mqtt_serialize_unsubscribe`. -/
def serializeUnsubscribe
    (txBufLen : Nat)
    (dup : UInt8)
    (packetId : UInt16)
    (topics : List (Option CString × UInt16)) :
    Serialized :=
  let remLen : UInt32 :=
    topics.foldl
      (fun len topic => len + (topic.2.toUInt32 + 2)) 2
  serializeFrame txBufLen
    (initHeader .unsubscribe .qos1 dup 0) remLen
    (concatParts
      (some (writeUint16 packetId) ::
        topics.map
          (fun t =>
            writeUtf8String (t.1.map CString.object) t.2)))

/- `_aws_iot_mqtt_internal_serialize_publish`. -/
def serializePublish
    (txBufLen : Nat)
    (dup : UInt8)
    (qos : QoS)
    (retained : UInt8)
    (packetId : UInt16)
    (topic : Option CString)
    (topicLen : UInt16)
    (payload : Option Bytes) : Serialized :=
  match payload with
  | none => some (.error .nullValueError)
  | some payload =>
      let remLen : UInt32 :=
        UInt32.ofNat
          (topicLen.toNat + payload.length + 2)
      let remLen : UInt32 :=
        if qos.value > 0 then remLen + 2 else remLen
      serializeFrame txBufLen
        (initHeader .publish qos dup retained) remLen
        (concatParts
          [writeUtf8String (topic.map CString.object)
              topicLen,
            some
              (if qos.value > 0 then writeUint16 packetId
              else []),
            some payload])

/- `aws_iot_mqtt_internal_serialize_ack`. -/
def serializeAck
    (txBufLen : Nat)
    (msgType : MessageType)
    (dup : UInt8)
    (packetId : UInt16) : Serialized :=
  if 4 > txBufLen then
    some (.error .mqttTxBufferTooShortError)
  else
    let requestQoS : QoS :=
      if msgType = .pubrel then .qos1 else .qos0
    some (.ok
      (initHeader msgType requestQoS dup 0 ::
        writeLenToBuffer 2 ++ writeUint16 packetId))

/- `aws_iot_mqtt_internal_serialize_zero`. -/
def serializeZero
    (txBufLen : Nat)
    (packetType : MessageType) : Serialized :=
  if 4 > txBufLen then
    some (.error .mqttTxBufferTooShortError)
  else
    some (.ok
      (initHeader packetType .qos0 0 0 ::
        writeLenToBuffer 0))

/- `_aws_iot_get_connect_packet_length`. -/
def getConnectPacketLength (p : ConnectParams) : UInt32 :=
  let len : UInt32 := 10
  let len := len + p.clientIDLen.toUInt32 + 2
  let len :=
    if p.isWillMsgPresent then
      len + p.will.topicNameLen.toUInt32 + 2 +
        p.will.msgLen.toUInt32 + 2
    else len
  let len :=
    if p.pUsername.isSome then
      len + p.usernameLen.toUInt32 + 2
    else len
  if p.pPassword.isSome then
    len + p.passwordLen.toUInt32 + 2
  else len

/- The flags byte of a CONNECT packet. -/
def connectFlags (p : ConnectParams) : UInt8 :=
  let cleansession : UInt8 :=
    if p.isCleanSession then 2 else 0
  let will : UInt8 :=
    if p.isWillMsgPresent then
      4 + p.will.qos.value * 8 +
        (if p.will.isRetained then 32 else 0)
    else 0
  let password : UInt8 := if p.pPassword.isSome then 64 else 0
  let username : UInt8 :=
    if p.pUsername.isSome then 128 else 0
  cleansession + will + password + username

/- The protocol name of MQTT 3.1.1. -/
def protocolName : Bytes := [77, 81, 84, 84]

/- `_aws_iot_mqtt_serialize_connect`. -/
def serializeConnect
    (txBufLen : Nat)
    (p : ConnectParams) : Serialized :=
  if (p.pClientID.isNone && p.clientIDLen ≠ 0) ||
      (p.pClientID.isSome && p.clientIDLen = 0) then
    some (.error .nullValueError)
  else if p.mqttVersion ≠ 4 then
    some (.error
      .mqttConnackUnacceptableProtocolVersionError)
  else
    serializeFrame txBufLen
      (initHeader .connect .qos0 0 0)
      (getConnectPacketLength p)
      (concatParts
        ([writeUtf8String (some protocolName) 4,
            some [p.mqttVersion, connectFlags p],
            some (writeUint16 p.keepAliveIntervalInSec),
            if p.pClientID.isNone then
              some (writeUint16 0)
            else
              writeUtf8String p.pClientID p.clientIDLen] ++
          (if p.isWillMsgPresent then
            [writeUtf8String p.will.pTopicName
                p.will.topicNameLen,
              writeUtf8String p.will.pMessage p.will.msgLen]
          else []) ++
          (if p.pUsername.isSome then
            [writeUtf8String p.pUsername p.usernameLen]
          else []) ++
          (if p.pPassword.isSome then
            [writeUtf8String p.pPassword p.passwordLen]
          else [])))

end Mqtt

end TrustOnboard

------------------------------------------------------------
-- Decoders
------------------------------------------------------------

namespace TrustOnboard

namespace Mqtt

/-
  `_aws_iot_mqtt_read_string_with_len`: the offset and length
  of the string and the offset after it.
-/
def readStringWithLen
    (buf : Buffer)
    (cur endData : Nat) :
    Except IoTError (Nat × Nat × Nat) :=
  if endData > cur + 1 then
    let stringLen := (readUint16 buf cur).toNat
    if cur + 2 + stringLen ≤ endData then
      .ok (cur + 2, stringLen, cur + 2 + stringLen)
    else
      .error .failure
  else
    .error .failure

/-
  `aws_iot_mqtt_internal_deserialize_publish`.  The payload
  length is an unsigned difference of pointers and wraps when
  the identifier reaches past the end of the packet.
-/
def deserializePublish
    (buf : Buffer)
    (rxBufLen : Nat) : Except IoTError Message :=
  if 4 > rxBufLen then
    .error .mqttRxBufferTooShortError
  else if headerType (buf 0) ≠ MessageType.publish.nibble then
    .error .failure
  else
    match decodeRemainingLengthFromBuffer buf 1 with
    | .error rc => .error rc
    | .ok (decodedLen, readBytesLen) =>
        let cur := 1 + readBytesLen
        let endData := cur + decodedLen
        match readStringWithLen buf cur endData with
        | .error _ => .error .failure
        | .ok (topicOff, topicLen, cur) =>
            let qos := headerQos (buf 0)
            let id :=
              if qos = .qos0 then none
              else some (readUint16 buf cur)
            let cur := if qos = .qos0 then cur else cur + 2
            .ok
              { isDup := headerDup (buf 0)
                qos := qos
                isRetained := headerRetain (buf 0)
                id := id
                topicOff := topicOff
                topicLen := topicLen
                payloadOff := cur
                payloadLen :=
                  (2 ^ 64 + endData - cur) % 2 ^ 64
                buf := buf }

/- A decoded message is acknowledged if it has an id. -/
theorem deserializePublish_ackId
    {buf : Buffer}
    {size : Nat}
    {msg : Message}
    (hMsg : deserializePublish buf size = .ok msg) :
    msg.params.ackId = msg.id := by
  unfold deserializePublish at hMsg
  split at hMsg
  · cases hMsg
  split at hMsg
  · cases hMsg
  split at hMsg
  · cases hMsg
  dsimp only at hMsg
  split at hMsg
  · cases hMsg
  cases hMsg
  unfold MessageParams.ackId Message.params
  split
  · rfl
  · rfl

/-
  `aws_iot_mqtt_internal_deserialize_ack`: the packet type
  and the identifier.
-/
def deserializeAck
    (buf : Buffer)
    (rxBufLen : Nat) : Except IoTError (UInt8 × UInt16) :=
  if 4 > rxBufLen then
    .error .mqttRxBufferTooShortError
  else
    match decodeRemainingLengthFromBuffer buf 1 with
    | .error rc => .error rc
    | .ok (decodedLen, readBytesLen) =>
        if decodedLen < 2 then
          .error .failure
        else
          .ok
            (headerType (buf 0),
              readUint16 buf (1 + readBytesLen))

/- The loop that stores the return codes of a SUBACK. -/
def readGrantedQoSs
    (buf : Buffer)
    (maxExpectedQoSCount : Nat) :
    (remaining cur count : Nat) → Except IoTError Bytes
  | 0, _, _ => .ok []
  | remaining + 1, cur, count =>
      if count > maxExpectedQoSCount then
        .error .failure
      else
        (readGrantedQoSs buf maxExpectedQoSCount remaining
          (cur + 1) (count + 1)).map
            (fun rest => buf cur :: rest)

/-
  `_aws_iot_mqtt_deserialize_suback`: the identifier and the
  return codes.
-/
def deserializeSuback
    (buf : Buffer)
    (maxExpectedQoSCount : Nat)
    (rxBufLen : Nat) : Except IoTError (UInt16 × Bytes) :=
  if 5 > rxBufLen then
    .error .mqttRxBufferTooShortError
  else if headerType (buf 0) ≠ MessageType.suback.nibble then
    .error .failure
  else
    match decodeRemainingLengthFromBuffer buf 1 with
    | .error rc => .error rc
    | .ok (decodedLen, readBytesLen) =>
        if decodedLen < 2 then
          .error .failure
        else
          let cur := 1 + readBytesLen
          (readGrantedQoSs buf maxExpectedQoSCount
            (decodedLen - 2) (cur + 2) 0).map
              (fun codes => (readUint16 buf cur, codes))

/- `_aws_iot_mqtt_deserialize_unsuback`. -/
def deserializeUnsuback
    (buf : Buffer)
    (rxBufLen : Nat) : Except IoTError UInt16 :=
  match deserializeAck buf rxBufLen with
  | .error rc => .error rc
  | .ok (type, packetId) =>
      if type ≠ MessageType.unsuback.nibble then
        .error .failure
      else
        .ok packetId

/- The code reported for a CONNACK return code. -/
def connackCode (code : UInt8) : IoTError :=
  if code = 0 then .mqttConnackConnectionAccepted
  else if code = 1 then
    .mqttConnackUnacceptableProtocolVersionError
  else if code = 2 then .mqttConnackIdentifierRejectedError
  else if code = 3 then .mqttConnackServerUnavailableError
  else if code = 4 then .mqttConnackBadUserdataError
  else if code = 5 then .mqttConnackNotAuthorizedError
  else .mqttConnackUnknownError

/-
  `_aws_iot_mqtt_deserialize_connack`: the code for the
  return code of the packet.
-/
def deserializeConnack
    (buf : Buffer)
    (rxBufLen : Nat) : Except IoTError IoTError :=
  if 4 > rxBufLen then
    .error .mqttRxBufferTooShortError
  else if headerType (buf 0) ≠ MessageType.connack.nibble then
    .error .failure
  else
    match decodeRemainingLengthFromBuffer buf 1 with
    | .error rc => .error rc
    | .ok (decodedLen, readBytesLen) =>
        if decodedLen ≠ 2 then
          .error .mqttDecodeRemainingLengthError
        else
          .ok (connackCode (buf (1 + readBytesLen + 1)))

end Mqtt

end TrustOnboard
