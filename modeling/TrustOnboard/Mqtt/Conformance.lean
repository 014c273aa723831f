import TrustOnboard.Mqtt.Grammar
import TrustOnboard.Mqtt.Slices

/-
  What the packets of the client say.

  A packet an encoder has written, from strings of the
  lengths it was given and with a remaining length that four
  bytes can carry, says what the encoder was asked to write.

  Key definitions include:
    * `Supplied`
    * `LengthsMatch`
    * `connectFields`

  Key results include:
    * `decodePublish_serialized`
    * `deserializePublish_serialized`
    * `decodeSubscribe_serialized`
    * `decodeUnsubscribe_serialized`
    * `decodeConnectFields_serialized`
    * `encoders_conform`
-/

------------------------------------------------------------
-- Strings And Headers
------------------------------------------------------------

namespace TrustOnboard

namespace Mqtt

/- The string at a pointer, with its length. -/
def Supplied
    (topic : Option CString)
    (len : UInt16) : Prop :=
  ∃ s, topic = some s ∧ s.bytes.length = len.toNat

/- The characters at a pointer. -/
def characters (topic : Option CString) : Bytes :=
  match topic with
  | none => []
  | some s => s.bytes

/- A supplied string is written with its length. -/
theorem Supplied.written
    {topic : Option CString}
    {len : UInt16}
    (hSupplied : Supplied topic len) :
    writeUtf8String (topic.map CString.object) len =
      some (writeUint16 len ++ characters topic) := by
  rcases hSupplied with ⟨s, rfl, hLength⟩
  unfold writeUtf8String memcpyFrom characters
  rw [← hLength]
  by_cases hEmpty : s.bytes.length = 0
  · simp [List.eq_nil_of_length_eq_zero hEmpty]
  · simp [hEmpty, CString.object]

theorem Supplied.length
    {topic : Option CString}
    {len : UInt16}
    (hSupplied : Supplied topic len) :
    (characters topic).length = len.toNat := by
  rcases hSupplied with ⟨s, rfl, hLength⟩
  exact hLength

/- The fields of a header byte the client writes. -/
theorem ofByte_initHeader
    (type : MessageType)
    (qos : QoS)
    (dup retained : UInt8) :
    FixedHeader.ofByte (initHeader type qos dup retained) =
      { type := type.nibble
        isDup := decide (dup = 1)
        qos := if qos = .qos1 then .qos1 else .qos0
        isRetained := decide (retained = 1) } := by
  unfold initHeader
  by_cases hDup : dup = 1 <;>
    by_cases hRetained : retained = 1 <;>
    simp only [hDup, hRetained, if_true, if_false] <;>
    cases type <;> cases qos <;> decide

/- Parts that are all there are put in a row. -/
theorem concatParts_map
    {α : Type}
    {f : α → Option Bytes}
    {g : α → Bytes}
    {xs : List α}
    (hSame : ∀ x ∈ xs, f x = some (g x)) :
    concatParts (xs.map f) = some (xs.map g).flatten := by
  induction xs with
  | nil => rfl
  | cons x xs ih =>
      have hRest :
          concatParts (xs.map f) = some (xs.map g).flatten :=
        ih (fun y hy => hSame y (List.mem_cons_of_mem x hy))
      have hFirst := hSame x (by simp)
      unfold concatParts at hRest ⊢
      rw [List.map_cons, List.foldr_cons, hRest, hFirst]
      rfl

/- Every entry takes at least one byte. -/
theorem length_le_flatten
    {α : Type}
    {write : α → Bytes}
    (hNonempty : ∀ entry, write entry ≠ [])
    (entries : List α) :
    entries.length ≤ (entries.map write).flatten.length := by
  induction entries with
  | nil => simp
  | cons entry entries ih =>
      have hPos := List.length_pos_of_ne_nil (hNonempty entry)
      rw [List.map_cons, List.flatten_cons,
        List.length_append, List.length_cons]
      omega

end Mqtt

end TrustOnboard

------------------------------------------------------------
-- PUBLISH
------------------------------------------------------------

namespace TrustOnboard

namespace Mqtt

variable {txBufLen : Nat}
variable {dup retained : UInt8}
variable {qos : QoS}
variable {id topicLen : UInt16}
variable {topic : Option CString}
variable {payload packet : Bytes}

/- The bytes of the identifier, if there is one. -/
def idBytes (qos : QoS) (id : UInt16) : Bytes :=
  if qos.value > 0 then writeUint16 id else []

/- The body of a PUBLISH: topic, identifier, payload. -/
def publishBytes
    (qos : QoS)
    (id topicLen : UInt16)
    (topic payload : Bytes) : Bytes :=
  writeUint16 topicLen ++
    (topic ++ (idBytes qos id ++ payload))

theorem publishBody_eq
    (hSupplied : Supplied topic topicLen) :
    publishBody qos id topic topicLen payload =
      some
        (publishBytes qos id topicLen (characters topic)
          payload) := by
  unfold publishBody concatParts publishBytes idBytes
  rw [List.foldr_cons, hSupplied.written]
  simp

/- The identifier is taken from where it was written. -/
theorem takeId_written
    (hQos : qos = .qos0 ∨ qos = .qos1) :
    takeId qos (idBytes qos id ++ payload) =
      some (if qos = .qos0 then none else some id, payload) := by
  rcases hQos with rfl | rfl
  · rfl
  · have hId : idBytes .qos1 id = writeUint16 id := rfl
    unfold takeId
    rw [hId, takeUint16_written]
    rfl

/- The header byte of a PUBLISH with a quality zero or one. -/
theorem ofByte_publish
    (hQos : qos = .qos0 ∨ qos = .qos1) :
    FixedHeader.ofByte
        (initHeader .publish qos dup retained) =
      { type := 3
        isDup := decide (dup = 1)
        qos := qos
        isRetained := decide (retained = 1) } := by
  rw [ofByte_initHeader]
  rcases hQos with rfl | rfl <;> rfl

theorem decodePublish_serialized
    (hQos : qos = .qos0 ∨ qos = .qos1)
    (hSupplied : Supplied topic topicLen)
    (hShort :
      publishLength qos topicLen payload < lengthLimit)
    (hEnc :
      serializePublish txBufLen dup qos retained id topic
          topicLen (some payload) = some (.ok packet)) :
    decodePublish packet =
      some
        { isDup := decide (dup = 1)
          qos := qos
          isRetained := decide (retained = 1)
          topic := characters topic
          id := if qos = .qos0 then none else some id
          payload := payload } := by
  rcases decodeFrame_framed
      (serializePublish_framed dup qos retained id topic
        topicLen payload) hShort hEnc with
    ⟨b, hBody, _, _, hFrame⟩
  rw [publishBody_eq hSupplied] at hBody
  cases hBody
  unfold decodePublish publishBytes at *
  rw [hFrame, ofByte_publish hQos]
  simp [takeString_written hSupplied.length,
    takeId_written hQos]

/- A number in the buffer is read as it was written. -/
theorem readUint16_written
    {buf : Buffer}
    {off : Nat}
    {n : UInt16}
    (hLoad :
      buf.load off (writeUint16 n).length = writeUint16 n) :
    readUint16 buf off = n := by
  have hLt := n.toNat_lt
  have hTwo : (writeUint16 n).length = 1 + 1 := rfl
  rw [hTwo, Buffer.load_succ, Buffer.load_succ,
    Buffer.load_zero] at hLoad
  unfold writeUint16 at hLoad
  rw [List.cons.injEq, List.cons.injEq] at hLoad
  rcases hLoad with ⟨hHigh, hLow, _⟩
  unfold readUint16
  rw [hHigh, hLow, UInt8.toNat_ofNat', UInt8.toNat_ofNat']
  have hSum :
      n.toNat % 256 % 2 ^ 8 + 256 * (n.toNat / 256 % 2 ^ 8) =
        n.toNat := by
    omega
  rw [hSum, UInt16.ofNat_toNat]

/- A packet in the buffer is stored like one that was read. -/
theorem stored_of_load
    {buf : Buffer}
    {header : UInt8}
    {body : Bytes}
    (hLoad :
      buf.load 0
          (header ::
            writeLenToBuffer (UInt32.ofNat body.length) ++
              body).length =
        header ::
          writeLenToBuffer (UInt32.ofNat body.length) ++
            body) :
    Stored buf header body := by
  rw [← List.singleton_append, List.append_assoc] at hLoad
  rcases Buffer.load_append hLoad with ⟨hHeader, hRest⟩
  rcases Buffer.load_append hRest with ⟨hField, hBody⟩
  refine ⟨?_, ?_, ?_⟩
  · simpa [Buffer.load] using hHeader
  · rw [Nat.zero_add, List.length_singleton] at hField
    exact hField
  · rw [Nat.zero_add, List.length_singleton] at hBody
    exact hBody

/- The message a client decodes from a PUBLISH. -/
structure Reports
    (msg : Message)
    (dup retained : UInt8)
    (qos : QoS)
    (id : UInt16)
    (topic payload : Bytes) : Prop where
  has_topic : msg.topic = topic
  has_payload : msg.payload = payload
  has_dup : msg.isDup = decide (dup = 1)
  has_qos : msg.qos = qos
  has_retain : msg.isRetained = decide (retained = 1)
  has_id : msg.id = if qos = .qos0 then none else some id

/- The length a body announces for its topic. -/
theorem topicLength_written
    {n : UInt16}
    {rest : Bytes} :
    topicLength (writeUint16 n ++ rest) = n.toNat := by
  unfold topicLength
  rw [readUint16_written]
  rfl

theorem length_publishBytes
    (qos : QoS)
    (id : UInt16)
    {t : Bytes}
    (hTopicLen : t.length = topicLen.toNat)
    (payload : Bytes) :
    (publishBytes qos id topicLen t payload).length =
      2 + topicLen.toNat + (idBytes qos id).length +
        payload.length := by
  have hTwo : (writeUint16 topicLen).length = 2 := rfl
  unfold publishBytes
  simp only [List.length_append, hTopicLen]
  omega

/- The message in the buffer is the one that was written. -/
theorem storedMessage_reports
    {buf : Buffer}
    {t : Bytes}
    (hQos : qos = .qos0 ∨ qos = .qos1)
    (hTopicLen : t.length = topicLen.toNat)
    (hStored :
      Stored buf (initHeader .publish qos dup retained)
        (publishBytes qos id topicLen t payload))
    (hShort :
      (publishBytes qos id topicLen t payload).length <
        2 ^ 32) :
    Reports
      (storedMessage buf
        (initHeader .publish qos dup retained)
        (publishBytes qos id topicLen t payload))
      dup retained qos id t payload := by
  have hHeader :
      FixedHeader.ofByte
          (initHeader .publish qos dup retained) =
        { type := 3
          isDup := decide (dup = 1)
          qos := qos
          isRetained := decide (retained = 1) } :=
    ofByte_publish hQos
  unfold FixedHeader.ofByte at hHeader
  rw [FixedHeader.mk.injEq] at hHeader
  rcases hHeader with ⟨_, hDup, hQosByte, hRetain⟩
  have hDecoded := Nat.mod_eq_of_lt hShort
  have hTotal :=
    length_publishBytes qos id hTopicLen payload
  rcases Buffer.load_append hStored.body with ⟨_, hRest⟩
  rcases Buffer.load_append hRest with ⟨hTopic, hIdAndPayload⟩
  rcases Buffer.load_append hIdAndPayload with
    ⟨hId, hPayload⟩
  have hTwo : (writeUint16 topicLen).length = 2 := rfl
  rw [hTwo] at hTopic hId hPayload
  rw [hTopicLen] at hTopic hId hPayload
  have hTopicLength :
      topicLength (publishBytes qos id topicLen t payload) =
        topicLen.toNat :=
    topicLength_written
  refine ⟨?_, ?_, hDup, hQosByte, hRetain, ?_⟩
  · unfold Message.topic storedMessage
    rw [hTopicLength]
    exact hTopic
  · unfold Message.payload storedMessage decodedLength
    dsimp only
    rw [hTopicLength, hQosByte, hDecoded, hTotal]
    rcases hQos with rfl | rfl
    · have hNone : (idBytes .qos0 id).length = 0 := rfl
      rw [hNone] at hPayload hTotal ⊢
      rw [if_pos rfl]
      have hLen :
          (2 ^ 64 +
              (bodyStart
                  (publishBytes .qos0 id topicLen t payload) +
                (2 + topicLen.toNat + 0 + payload.length)) -
              (bodyStart
                  (publishBytes .qos0 id topicLen t payload) +
                2 + topicLen.toNat)) % 2 ^ 64 =
            payload.length := by
        omega
      rw [hLen]
      exact hPayload
    · have hId2 : (idBytes .qos1 id).length = 2 := rfl
      rw [hId2] at hPayload hTotal ⊢
      rw [if_neg (by decide)]
      have hLen :
          (2 ^ 64 +
              (bodyStart
                  (publishBytes .qos1 id topicLen t payload) +
                (2 + topicLen.toNat + 2 + payload.length)) -
              (bodyStart
                  (publishBytes .qos1 id topicLen t payload) +
                2 + topicLen.toNat + 2)) % 2 ^ 64 =
            payload.length := by
        omega
      rw [hLen]
      exact hPayload
  · unfold storedMessage
    dsimp only
    rw [hTopicLength, hQosByte]
    rcases hQos with rfl | rfl
    · rfl
    · have hRead := readUint16_written hId
      rw [hRead]

/-
  The client's own decoder takes the packet for what it was
  written for, wherever it lies in a longer buffer.
-/
theorem deserializePublish_serialized
    (hQos : qos = .qos0 ∨ qos = .qos1)
    (hSupplied : Supplied topic topicLen)
    (hShort :
      publishLength qos topicLen payload < lengthLimit)
    (hEnc :
      serializePublish txBufLen dup qos retained id topic
          topicLen (some payload) = some (.ok packet))
    {buf : Buffer}
    {size : Nat}
    (hSize : packet.length ≤ size)
    (hLoad : buf.load 0 packet.length = packet) :
    ∃ msg,
      deserializePublish buf size = .ok msg ∧
        Reports msg dup retained qos id (characters topic)
          payload := by
  have hLimit : lengthLimit < 2 ^ 32 := by decide
  rcases decodeFrame_framed
      (serializePublish_framed dup qos retained id topic
        topicLen payload) hShort hEnc with
    ⟨b, hBody, hTotal, rfl, _⟩
  rw [← hTotal] at hShort hLoad hSize
  rw [publishBody_eq hSupplied] at hBody
  cases hBody
  have hStored := stored_of_load hLoad
  have hReports :=
    storedMessage_reports hQos hSupplied.length hStored
      (hShort.trans hLimit)
  have hType :
      headerType (initHeader .publish qos dup retained) =
        MessageType.publish.nibble :=
    congrArg FixedHeader.type (ofByte_publish hQos)
  rcases deserializePublish_stored hStored hType size with
    ⟨_, hRead⟩ | ⟨hNot, _⟩
  · exact ⟨_, hRead, hReports⟩
  · have hLength :=
      length_publishBytes qos id hSupplied.length payload
    have hField :=
      length_writeLenToBuffer
        (UInt32.ofNat
          (publishBytes qos id topicLen (characters topic)
            payload).length)
    unfold lengthBytes at hField
    refine absurd ⟨?_, ?_, ?_⟩ hNot
    · rw [List.length_append, List.length_cons] at hSize
      omega
    · apply length_writeLenToBuffer_le
      rw [UInt32.toNat_ofNat']
      exact lt_of_le_of_lt (Nat.mod_le _ _) hShort
    · unfold TopicFits decodedLength publishBytes at *
      rw [topicLength_written, Nat.mod_eq_of_lt (by omega)]
      omega

end Mqtt

end TrustOnboard

------------------------------------------------------------
-- SUBSCRIBE And UNSUBSCRIBE
------------------------------------------------------------

namespace TrustOnboard

namespace Mqtt

/-
  A list of entries behind an identifier, as the encoders of
  filters write it, is read back entry by entry.
-/
theorem takeAll_body
    {α β : Type}
    {part : α → Option Bytes}
    {xs : List α}
    {id : UInt16}
    {b : Bytes}
    (take : Bytes → Option (β × Bytes))
    (write : β → Bytes)
    (entry : α → β)
    (hNonempty : ∀ e, write e ≠ [])
    (hPart : ∀ x ∈ xs, part x = some (write (entry x)))
    (hTake :
      ∀ x ∈ xs, ∀ rest,
        take (write (entry x) ++ rest) =
          some (entry x, rest))
    (hBody :
      concatParts (some (writeUint16 id) :: xs.map part) =
        some b) :
    ∃ rest,
      takeUint16 b = some (id, rest) ∧
        takeAll take rest.length rest =
          some (xs.map entry) := by
  rcases concatParts_cons hBody with
    ⟨first, rest, hFirst, hRest, rfl⟩
  cases hFirst
  rw [concatParts_map hPart] at hRest
  cases hRest
  refine ⟨_, takeUint16_written id _, ?_⟩
  have hWrites :
      xs.map (fun x => write (entry x)) =
        (xs.map entry).map write := by
    rw [List.map_map]
    rfl
  rw [hWrites]
  apply takeAll_written hNonempty
  · intro e he
    rcases List.mem_map.mp he with ⟨x, hx, rfl⟩
    exact hTake x hx
  · exact length_le_flatten hNonempty (xs.map entry)

/- A string with its length in front. -/
def writeString (string : Bytes) : Bytes :=
  writeUint16 (UInt16.ofNat string.length) ++ string

/- A filter and the quality asked for. -/
def writeSubscription (s : Bytes × QoS) : Bytes :=
  writeString s.1 ++ [s.2.value]

theorem Supplied.writeString
    {topic : Option CString}
    {len : UInt16}
    (hSupplied : Supplied topic len) :
    writeUtf8String (topic.map CString.object) len =
      some (Mqtt.writeString (characters topic)) := by
  unfold Mqtt.writeString
  rw [hSupplied.written, hSupplied.length, UInt16.ofNat_toNat]

theorem Supplied.takeString
    {topic : Option CString}
    {len : UInt16}
    (hSupplied : Supplied topic len)
    (rest : Bytes) :
    Mqtt.takeString
        (Mqtt.writeString (characters topic) ++ rest) =
      some (characters topic, rest) := by
  unfold Mqtt.writeString
  rw [List.append_assoc, hSupplied.length,
    UInt16.ofNat_toNat, takeString_written hSupplied.length]

theorem Supplied.subscribeEntry
    {topic : Option CString}
    {len : UInt16}
    (hSupplied : Supplied topic len)
    (qos : QoS) :
    Mqtt.subscribeEntry topic len qos =
      some (writeSubscription (characters topic, qos)) := by
  unfold Mqtt.subscribeEntry writeSubscription
  rw [hSupplied.writeString]
  rfl

theorem qosByte_taken (qos : QoS) :
    qos.value < 4 ∧ QoS.ofBits qos.value = qos := by
  cases qos <;> decide

theorem Supplied.takeSubscription
    {topic : Option CString}
    {len : UInt16}
    (hSupplied : Supplied topic len)
    (qos : QoS)
    (rest : Bytes) :
    Mqtt.takeSubscription
        (writeSubscription (characters topic, qos) ++ rest) =
      some ((characters topic, qos), rest) := by
  rcases qosByte_taken qos with ⟨hLt, hQos⟩
  unfold Mqtt.takeSubscription writeSubscription
  rw [List.append_assoc, hSupplied.takeString]
  simp [hLt, hQos]

/- A list of filters comes back whole, in order. -/
theorem decodeSubscribe_serialized
    {txBufLen : Nat}
    {dup : UInt8}
    {id : UInt16}
    {topics : List (Option CString × UInt16 × QoS)}
    {packet : Bytes}
    (hSupplied : ∀ t ∈ topics, Supplied t.1 t.2.1)
    (hShort : subscribeLength topics < lengthLimit)
    (hEnc :
      serializeSubscribe txBufLen dup id topics =
        some (.ok packet)) :
    decodeSubscribe packet =
      some
        ({ type := 8
           isDup := decide (dup = 1)
           qos := .qos1
           isRetained := false },
          id, topics.map (fun t => (characters t.1, t.2.2))) := by
  rcases decodeFrame_framed
      (serializeSubscribe_framed dup id topics) hShort hEnc
    with ⟨b, hBody, _, _, hFrame⟩
  have hRead :=
    takeAll_body takeSubscription writeSubscription
      (fun t : Option CString × UInt16 × QoS =>
        (characters t.1, t.2.2))
      (by simp [writeSubscription])
      (fun t ht => (hSupplied t ht).subscribeEntry t.2.2)
      (fun t ht => (hSupplied t ht).takeSubscription t.2.2)
      hBody
  rcases hRead with ⟨rest, hId, hAll⟩
  unfold decodeSubscribe
  rw [hFrame, ofByte_initHeader]
  simp [MessageType.nibble, hId, hAll]

theorem decodeUnsubscribe_serialized
    {txBufLen : Nat}
    {dup : UInt8}
    {id : UInt16}
    {topics : List (Option CString × UInt16)}
    {packet : Bytes}
    (hSupplied : ∀ t ∈ topics, Supplied t.1 t.2)
    (hShort : unsubscribeLength topics < lengthLimit)
    (hEnc :
      serializeUnsubscribe txBufLen dup id topics =
        some (.ok packet)) :
    decodeUnsubscribe packet =
      some
        ({ type := 10
           isDup := decide (dup = 1)
           qos := .qos1
           isRetained := false },
          id, topics.map (fun t => characters t.1)) := by
  rcases decodeFrame_framed
      (serializeUnsubscribe_framed dup id topics) hShort hEnc
    with ⟨b, hBody, _, _, hFrame⟩
  have hRead :=
    takeAll_body takeString writeString
      (fun t : Option CString × UInt16 => characters t.1)
      (by simp [writeString, writeUint16])
      (fun t ht => (hSupplied t ht).writeString)
      (fun t ht => (hSupplied t ht).takeString)
      hBody
  rcases hRead with ⟨rest, hId, hAll⟩
  unfold decodeUnsubscribe
  rw [hFrame, ofByte_initHeader]
  simp [MessageType.nibble, hId, hAll]

end Mqtt

end TrustOnboard

------------------------------------------------------------
-- Packets Of Fixed Length
------------------------------------------------------------

namespace TrustOnboard

namespace Mqtt

/- An acknowledgement names what it acknowledges. -/
theorem decodeAck_serialized
    {txBufLen : Nat}
    {msgType : MessageType}
    {dup : UInt8}
    {id : UInt16}
    {packet : Bytes}
    (hEnc :
      serializeAck txBufLen msgType dup id =
        some (.ok packet)) :
    decodeAck packet =
      some
        ({ type := msgType.nibble
           isDup := decide (dup = 1)
           qos := if msgType = .pubrel then .qos1 else .qos0
           isRetained := false },
          id) := by
  unfold serializeAck at hEnc
  split at hEnc
  · cases hEnc
  · cases hEnc
    have hLength : (writeUint16 id).length = (2 : UInt32).toNat :=
      rfl
    have hTake := takeUint16_written id []
    rw [List.append_nil] at hTake
    unfold decodeAck
    rw [decodeFrame_written hLength (by rw [hLength]; decide),
      ofByte_initHeader]
    by_cases hRel : msgType = .pubrel
    · simp [hRel, hTake]
    · simp [hRel, hTake]

/- A packet without a body is its header. -/
theorem decodeBare_serialized
    {txBufLen : Nat}
    {packetType : MessageType}
    {packet : Bytes}
    (hEnc :
      serializeZero txBufLen packetType =
        some (.ok packet)) :
    decodeBare packet =
      some
        { type := packetType.nibble
          isDup := false
          qos := .qos0
          isRetained := false } := by
  unfold serializeZero at hEnc
  split at hEnc
  · cases hEnc
  · cases hEnc
    cases packetType <;> decide

end Mqtt

end TrustOnboard

------------------------------------------------------------
-- CONNECT
------------------------------------------------------------

namespace TrustOnboard

namespace Mqtt

/- The string a pointer and a length give. -/
def stringAt (source : Option Bytes) (len : UInt16) : Bytes :=
  (source.getD []).take len.toNat

/- The string has at least the length that is given for it. -/
def LengthMatches
    (source : Option Bytes)
    (len : UInt16) : Prop :=
  len.toNat ≤ (source.getD []).length

instance
    (source : Option Bytes)
    (len : UInt16) :
    Decidable (LengthMatches source len) :=
  Nat.decLe len.toNat (source.getD []).length

/- The strings of a CONNECT that are written. -/
structure ConnectSupplied (p : ConnectParams) : Prop where
  clientID : LengthMatches p.pClientID p.clientIDLen
  will :
    p.isWillMsgPresent = true →
      LengthMatches p.will.pTopicName p.will.topicNameLen ∧
        LengthMatches p.will.pMessage p.will.msgLen
  username :
    p.pUsername.isSome = true →
      LengthMatches p.pUsername p.usernameLen
  password :
    p.pPassword.isSome = true →
      LengthMatches p.pPassword p.passwordLen

/- The fields of the options record. -/
def connectFields (p : ConnectParams) : ConnectContents where
  clientID := stringAt p.pClientID p.clientIDLen
  will :=
    if p.isWillMsgPresent then
      some
        { topic := stringAt p.will.pTopicName p.will.topicNameLen
          message := stringAt p.will.pMessage p.will.msgLen
          qos := p.will.qos
          isRetained := p.will.isRetained }
    else
      none
  username :=
    if p.pUsername.isSome then
      some (stringAt p.pUsername p.usernameLen)
    else
      none
  password :=
    if p.pPassword.isSome then
      some (stringAt p.pPassword p.passwordLen)
    else
      none
  keepAliveInterval := p.keepAliveIntervalInSec
  isCleanSession := p.isCleanSession

/- What is copied is the string itself. -/
theorem copied_eq_stringAt
    {source : Option Bytes}
    {len : UInt16}
    (hLength : LengthMatches source len) :
    copied source len = stringAt source len := by
  unfold LengthMatches at hLength
  unfold copied stringAt memcpyFrom
  by_cases hZero : len.toNat = 0
  · simp [hZero]
  · cases source with
    | none =>
        simp only [Option.getD_none, List.length_nil] at hLength
        omega
    | some bs =>
        simp only [Option.getD_some] at hLength
        simp [hZero, Nat.sub_eq_zero_of_le hLength]

theorem connectContents_eq_fields
    {p : ConnectParams}
    (hSupplied : ConnectSupplied p) :
    connectContents p = connectFields p := by
  unfold connectContents connectFields
  rw [ConnectContents.mk.injEq]
  refine
    ⟨copied_eq_stringAt hSupplied.clientID, ?_, ?_, ?_, rfl,
      rfl⟩
  · split
    · rename_i hWill
      rcases hSupplied.will hWill with ⟨hTopic, hMessage⟩
      rw [copied_eq_stringAt hTopic,
        copied_eq_stringAt hMessage]
    · rfl
  · split
    · rename_i hSome
      rw [copied_eq_stringAt (hSupplied.username hSome)]
    · rfl
  · split
    · rename_i hSome
      rw [copied_eq_stringAt (hSupplied.password hSome)]
    · rfl

/- A CONNECT says what is in the options record. -/
theorem decodeConnectFields_serialized
    {txBufLen : Nat}
    {p : ConnectParams}
    {packet : Bytes}
    (hSupplied : ConnectSupplied p)
    (hEnc :
      serializeConnect txBufLen p = some (.ok packet)) :
    decodeConnectFields packet =
      some
        ({ type := 1
           isDup := false
           qos := .qos0
           isRetained := false },
          connectFields p) := by
  rcases serializeConnect_ok hEnc with
    ⟨hId, hVersion, body, hBody, rfl⟩
  rcases length_connectParts hId body hBody with
    ⟨hLength, hShort⟩
  have hProtocol :
      copied (some protocolName) 4 = protocolName := rfl
  rcases connectFlags_ofByte p with ⟨hReserved, hFlags⟩
  unfold connectParts at hBody
  simp only [List.append_assoc, List.cons_append,
    List.nil_append] at hBody
  rcases concatParts_cons hBody with
    ⟨name, bs₁, hName, hConcat₁, rfl⟩
  rcases concatParts_cons hConcat₁ with
    ⟨fixed, bs₂, hFixed, hConcat₂, rfl⟩
  rcases concatParts_cons hConcat₂ with
    ⟨interval, bs₃, hInterval, hConcat₃, rfl⟩
  cases hFixed
  cases hInterval
  have hPayload := decodeConnectPayload_parts hId hConcat₃
  rw [connectContents_eq_fields hSupplied] at hPayload
  unfold decodeConnectFields
  rw [decodeFrame_written hLength.symm (hLength ▸ hShort),
    ofByte_initHeader]
  simp [MessageType.nibble,
    takeString_writeUtf8String hName, hProtocol, hVersion,
    hReserved, hFlags, takeUint16_written, hPayload]

end Mqtt

end TrustOnboard

------------------------------------------------------------
-- Conformance
------------------------------------------------------------

namespace TrustOnboard

namespace Mqtt

variable {txBufLen : Nat}

/- The bytes a reported length of 32 bits covers. -/
def reportedBytes (packet : Bytes) : Bytes :=
  packet.take (reportedUint32 packet.length)

theorem reportedBytes_eq
    {packet : Bytes}
    (hShort : packet.length < 2 ^ 32) :
    reportedBytes packet = packet := by
  unfold reportedBytes reportedUint32
  rw [Nat.mod_eq_of_lt hShort, List.take_length]

/- The report covers a framed packet that is short. -/
theorem reportedBytes_framed
    {header : UInt8}
    {body : Option Bytes}
    {total : Nat}
    {readable : Prop}
    {encode : Nat → Serialized}
    (hFramed : Framed header body total readable encode)
    (hShort : total < lengthLimit)
    {packet : Bytes}
    (hEnc : encode txBufLen = some (.ok packet)) :
    reportedBytes packet = packet := by
  rcases decodeFrame_framed hFramed hShort hEnc with
    ⟨b, _, hLength, hPacket, _⟩
  have hLimit : lengthLimit = 2 ^ 28 := by decide
  have hField :=
    length_writeLenToBuffer_le (UInt32.ofNat total)
      (by rw [UInt32.toNat_ofNat']; omega)
  have hFour : maxNoOfRemainingLengthBytes = 4 := rfl
  apply reportedBytes_eq
  rw [hPacket, List.length_append, List.length_cons]
  omega

/- The packets of fixed length are short. -/
theorem reportedBytes_ack
    {msgType : MessageType}
    {dup : UInt8}
    {id : UInt16}
    {packet : Bytes}
    (hEnc :
      serializeAck txBufLen msgType dup id =
        some (.ok packet)) :
    reportedBytes packet = packet := by
  unfold serializeAck at hEnc
  split at hEnc
  · cases hEnc
  · cases hEnc
    exact reportedBytes_eq (by simp [writeUint16]; decide)

theorem reportedBytes_zero
    {packetType : MessageType}
    {packet : Bytes}
    (hEnc :
      serializeZero txBufLen packetType =
        some (.ok packet)) :
    reportedBytes packet = packet := by
  unfold serializeZero at hEnc
  split at hEnc
  · cases hEnc
  · cases hEnc
    exact reportedBytes_eq (by simp; decide)

/-
  Whatever an encoder reports as written reads back as what
  it was asked to write, and the client's own decoder of a
  PUBLISH reads the same.
-/
theorem encoders_conform :
    (∀ (dup retained : UInt8) (qos : QoS)
        (id topicLen : UInt16) (topic : Option CString)
        (payload packet : Bytes),
      qos = .qos0 ∨ qos = .qos1 →
      Supplied topic topicLen →
      publishLength qos topicLen payload < lengthLimit →
      serializePublish txBufLen dup qos retained id topic
          topicLen (some payload) = some (.ok packet) →
      decodePublish (reportedBytes packet) =
          some
            { isDup := decide (dup = 1)
              qos := qos
              isRetained := decide (retained = 1)
              topic := characters topic
              id := if qos = .qos0 then none else some id
              payload := payload } ∧
        ∀ (buf : Buffer) (size : Nat),
          packet.length ≤ size →
          buf.load 0 packet.length = packet →
          ∃ msg,
            deserializePublish buf size = .ok msg ∧
              Reports msg dup retained qos id
                (characters topic) payload) ∧
    (∀ (dup : UInt8) (id : UInt16)
        (topics : List (Option CString × UInt16 × QoS))
        (packet : Bytes),
      (∀ t ∈ topics, Supplied t.1 t.2.1) →
      subscribeLength topics < lengthLimit →
      serializeSubscribe txBufLen dup id topics =
          some (.ok packet) →
      decodeSubscribe (reportedBytes packet) =
        some
          ({ type := 8
             isDup := decide (dup = 1)
             qos := .qos1
             isRetained := false },
            id,
            topics.map (fun t => (characters t.1, t.2.2)))) ∧
    (∀ (dup : UInt8) (id : UInt16)
        (topics : List (Option CString × UInt16))
        (packet : Bytes),
      (∀ t ∈ topics, Supplied t.1 t.2) →
      unsubscribeLength topics < lengthLimit →
      serializeUnsubscribe txBufLen dup id topics =
          some (.ok packet) →
      decodeUnsubscribe (reportedBytes packet) =
        some
          ({ type := 10
             isDup := decide (dup = 1)
             qos := .qos1
             isRetained := false },
            id, topics.map (fun t => characters t.1))) ∧
    (∀ (msgType : MessageType) (dup : UInt8) (id : UInt16)
        (packet : Bytes),
      serializeAck txBufLen msgType dup id =
          some (.ok packet) →
      decodeAck (reportedBytes packet) =
        some
          ({ type := msgType.nibble
             isDup := decide (dup = 1)
             qos := if msgType = .pubrel then .qos1 else .qos0
             isRetained := false },
            id)) ∧
    (∀ (packetType : MessageType) (packet : Bytes),
      serializeZero txBufLen packetType =
          some (.ok packet) →
      decodeBare (reportedBytes packet) =
        some
          { type := packetType.nibble
            isDup := false
            qos := .qos0
            isRetained := false }) ∧
    (∀ (p : ConnectParams) (packet : Bytes),
      ConnectSupplied p →
      serializeConnect txBufLen p = some (.ok packet) →
      decodeConnectFields packet =
        some
          ({ type := 1
             isDup := false
             qos := .qos0
             isRetained := false },
            connectFields p)) := by
  refine ⟨?_, ?_, ?_, ?_, ?_, ?_⟩
  · intro dup retained qos id topicLen topic payload packet
      hQos hSupplied hShort hEnc
    rw [reportedBytes_framed
      (serializePublish_framed dup qos retained id topic
        topicLen payload) hShort hEnc]
    refine
      ⟨decodePublish_serialized hQos hSupplied hShort hEnc,
        ?_⟩
    intro buf size hSize hLoad
    exact
      deserializePublish_serialized hQos hSupplied hShort
        hEnc hSize hLoad
  · intro dup id topics packet hSupplied hShort hEnc
    rw [reportedBytes_framed
      (serializeSubscribe_framed dup id topics) hShort hEnc]
    exact decodeSubscribe_serialized hSupplied hShort hEnc
  · intro dup id topics packet hSupplied hShort hEnc
    rw [reportedBytes_framed
      (serializeUnsubscribe_framed dup id topics) hShort hEnc]
    exact decodeUnsubscribe_serialized hSupplied hShort hEnc
  · intro msgType dup id packet hEnc
    rw [reportedBytes_ack hEnc]
    exact decodeAck_serialized hEnc
  · intro packetType packet hEnc
    rw [reportedBytes_zero hEnc]
    exact decodeBare_serialized hEnc
  · intro p packet hSupplied hEnc
    exact decodeConnectFields_serialized hSupplied hEnc

/- Options with a client identifier and a user name. -/
def optionsAB : ConnectParams :=
  { ConnectParams.initializer with
    pClientID := some [97]
    clientIDLen := 1
    pUsername := some [98]
    usernameLen := 1 }

/-
  A PUBLISH of three bytes, a SUBSCRIBE and an UNSUBSCRIBE of
  two filters, a PUBACK, a PINGREQ and a CONNECT.
-/
theorem encoders_conform_packets :
    decodePublish
        (reportedBytes [50, 8, 0, 1, 97, 0, 7, 1, 2, 3]) =
      some
        { isDup := false
          qos := .qos1
          isRetained := false
          topic := [97]
          id := some 7
          payload := [1, 2, 3] } ∧
    decodeSubscribe
        (reportedBytes
          [130, 10, 0, 9, 0, 1, 97, 1, 0, 1, 97, 0]) =
      some
        (⟨8, false, .qos1, false⟩, 9,
          [([97], .qos1), ([97], .qos0)]) ∧
    decodeUnsubscribe
        (reportedBytes [162, 8, 0, 9, 0, 1, 97, 0, 1, 97]) =
      some (⟨10, false, .qos1, false⟩, 9, [[97], [97]]) ∧
    decodeAck (reportedBytes [64, 2, 0, 9]) =
      some (⟨4, false, .qos0, false⟩, 9) ∧
    decodeBare (reportedBytes [192, 0]) =
      some ⟨12, false, .qos0, false⟩ ∧
    decodeConnectFields
        [16, 16, 0, 4, 77, 81, 84, 84, 4, 130, 0, 60, 0, 1,
          97, 0, 1, 98] =
      some
        (⟨1, false, .qos0, false⟩, connectFields optionsAB) := by
  have hTopic :
      Supplied (some ⟨[97], by decide⟩) 1 :=
    ⟨_, rfl, rfl⟩
  rcases @encoders_conform 30 with
    ⟨hPublish, hSub, hUnsub, hAck, hZero, hConnect⟩
  refine ⟨?_, ?_, ?_, ?_, ?_, ?_⟩
  · exact
      (hPublish 0 0 .qos1 7 1 _ [1, 2, 3] _ (.inr rfl) hTopic
        (by decide) rfl).1
  · exact
      hSub 0 9
        [(some ⟨[97], by decide⟩, 1, .qos1),
          (some ⟨[97], by decide⟩, 1, .qos0)]
        _ (by simpa using hTopic) (by decide) rfl
  · exact
      hUnsub 0 9
        [(some ⟨[97], by decide⟩, 1),
          (some ⟨[97], by decide⟩, 1)]
        _ (by simpa using hTopic) (by decide) rfl
  · exact hAck .puback 0 9 _ rfl
  · exact hZero .pingreq _ rfl
  · refine hConnect optionsAB _ ?_ rfl
    exact
      ⟨by decide, by decide, fun _ => by decide,
        by decide⟩

end Mqtt

end TrustOnboard
