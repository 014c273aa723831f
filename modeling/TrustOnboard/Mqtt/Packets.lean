import Mathlib.Data.List.Forall2
import TrustOnboard.Mqtt.Codec
import TrustOnboard.Memory.Base128

/-
  Whole packets, and the encoders as writers of whole
  packets.

  Key definitions include:
    * `Packet`
    * `Packet.bytes`
    * `Sendable`
    * `Encodes`

  Key results include:
    * `writeLenToBuffer_base128`
    * `deserializeSuback_error`
    * `serializeSubscribe_encodes`
    * `serializeUnsubscribe_encodes`
    * `serializePublish_encodes`
    * `serializeAck_encodes`
    * `serializeZero_encodes`
    * `serializeConnect_encodes`
-/

------------------------------------------------------------
-- Packets
------------------------------------------------------------

namespace TrustOnboard

namespace Mqtt

/-
  A packet as the wire carries it: a header byte, a length
  field of at most four bytes that decodes to the length of
  the body, and the body.
-/
structure Packet where
  header : UInt8
  field : Bytes
  body : Bytes
  field_decodes : Base128 field body.length
  field_short : field.length ≤ maxNoOfRemainingLengthBytes

/- The bytes of a packet. -/
def Packet.bytes (p : Packet) : Bytes :=
  p.header :: (p.field ++ p.body)

/- The first length that four bytes cannot carry. -/
def lengthLimit : Nat := 128 ^ maxNoOfRemainingLengthBytes

/-
  Bytes that are one packet, unless they are too many for a
  length field of four bytes.
-/
def Sendable (bs : Bytes) : Prop :=
  bs.length < lengthLimit → ∃ p : Packet, p.bytes = bs

/- Every packet an encoder delivers is sendable. -/
def Encodes (r : Client → Serialized) : Prop :=
  ∀ c bs, r c = some (.ok bs) → Sendable bs

end Mqtt

end TrustOnboard

------------------------------------------------------------
-- Length Fields
------------------------------------------------------------

namespace TrustOnboard

namespace Mqtt

/- A number below 128 is its own field. -/
theorem base128_digit
    {n : Nat}
    (hDigit : n < 128) :
    Base128 [UInt8.ofNat n] n := by
  have hByte : (UInt8.ofNat n).toNat = n := by
    rw [UInt8.toNat_ofNat']
    omega
  have hField := Base128.last (UInt8.ofNat n)
    ((and_128_eq_zero_iff _).mpr (by omega))
  rwa [toNat_and_127, hByte,
    Nat.mod_eq_of_lt hDigit] at hField

/- The encoding loop stops after a number below 128. -/
theorem writeLenRounds_digit
    (k : Nat)
    {n : Nat}
    (hDigit : n < 128) :
    writeLenRounds (k + 1) n = [UInt8.ofNat n] := by
  have hStop : ¬ 0 < n / 128 := by omega
  simp [writeLenRounds, hStop, Nat.mod_eq_of_lt hDigit]

/- The encoding loop writes a field of the value. -/
theorem writeLenRounds_base128
    (k n : Nat)
    (hSmall : n < 128 ^ (k + 1)) :
    Base128 (writeLenRounds (k + 1) n) n := by
  induction k generalizing n with
  | zero =>
      have hDigit : n < 128 := by omega
      rw [writeLenRounds_digit 0 hDigit]
      exact base128_digit hDigit
  | succ k ih =>
      by_cases hMore : 0 < n / 128
      · have hRest : n / 128 < 128 ^ (k + 1) := by
          rw [Nat.pow_succ] at hSmall
          omega
        have hByte :=
          toNat_or_128 (n := n % 128) (by omega)
        have hField :=
          Base128.more (UInt8.ofNat (n % 128) ||| 128)
            _ _ (by
              rw [Ne, and_128_eq_zero_iff, hByte]
              omega) (ih (n / 128) hRest)
        rw [toNat_and_127, hByte] at hField
        have hValue :
            (n % 128 + 128) % 128 + n / 128 * 128 = n := by
          omega
        rw [hValue] at hField
        rw [writeLenRounds]
        simpa only [hMore, if_true] using hField
      · have hDigit : n < 128 := by omega
        rw [writeLenRounds_digit (k + 1) hDigit]
        exact base128_digit hDigit

/- The field written for a length decodes to it. -/
theorem writeLenToBuffer_base128
    (length : UInt32) :
    Base128 (writeLenToBuffer length) length.toNat := by
  apply writeLenRounds_base128
  have hLt := length.toNat_lt
  omega

/- The number of bytes the encoding loop writes. -/
theorem length_writeLenRounds_le
    (k n j : Nat)
    (hSmall : n < 128 ^ (j + 1)) :
    (writeLenRounds k n).length ≤ j + 1 := by
  induction k generalizing n j with
  | zero => simp [writeLenRounds]
  | succ k ih =>
      rw [writeLenRounds]
      by_cases hMore : 0 < n / 128
      · simp only [hMore, if_true, List.length_cons]
        cases j with
        | zero => omega
        | succ j =>
            have hRest : n / 128 < 128 ^ (j + 1) := by
              rw [Nat.pow_succ] at hSmall
              omega
            have hLen := ih (n / 128) j hRest
            omega
      · simp [hMore]

theorem length_writeLenToBuffer_le
    (length : UInt32)
    (hSmall : length.toNat < lengthLimit) :
    (writeLenToBuffer length).length ≤
      maxNoOfRemainingLengthBytes :=
  length_writeLenRounds_le 5 length.toNat 3 hSmall

end Mqtt

end TrustOnboard

------------------------------------------------------------
-- Encoders
------------------------------------------------------------

namespace TrustOnboard

namespace Mqtt

theorem length_memcpyFrom
    {source : Option Bytes}
    {n : Nat}
    {bs : Bytes}
    (hCopy : memcpyFrom source n = some bs) :
    bs.length = n := by
  unfold memcpyFrom at hCopy
  by_cases hZero : n = 0
  · simp only [hZero, if_true, Option.some.injEq] at hCopy
    subst hCopy
    simp [hZero]
  · simp only [hZero, if_false, Option.map_eq_some_iff]
      at hCopy
    rcases hCopy with ⟨source, _, rfl⟩
    simp only [List.length_take, List.length_append,
      List.length_replicate]
    omega

theorem length_writeUtf8String
    {string : Option Bytes}
    {stringLen : UInt16}
    {bs : Bytes}
    (hWrite : writeUtf8String string stringLen = some bs) :
    bs.length = stringLen.toNat + 2 := by
  simp only [writeUtf8String, Option.map_eq_some_iff]
    at hWrite
  rcases hWrite with ⟨copied, hCopy, rfl⟩
  have hLen := length_memcpyFrom hCopy
  simp only [writeUint16, List.length_append,
    List.length_cons, List.length_nil]
  omega

/- A part of a body has length `n` when it is there. -/
def PartLength (part : Option Bytes) (n : Nat) : Prop :=
  ∀ b, part = some b → b.length = n

/- Parts of known lengths make a body of known length. -/
theorem length_concatParts
    {parts : List (Option Bytes)}
    {ns : List Nat}
    (hParts : List.Forall₂ PartLength parts ns) :
    PartLength (concatParts parts) ns.sum := by
  induction hParts with
  | nil =>
      intro b hBody
      simp only [concatParts, List.foldr_nil,
        Option.some.injEq] at hBody
      simp [← hBody]
  | cons hPart _ ih =>
      intro b hBody
      simp only [concatParts, List.foldr_cons,
        Option.bind_eq_some_iff, Option.map_eq_some_iff]
        at hBody
      rcases hBody with ⟨first, hFirst, rest, hRest, rfl⟩
      have hHead := hPart first hFirst
      have hTail := ih rest hRest
      simp [hHead, hTail]

theorem partLength_some
    (part : Bytes) :
    PartLength (some part) part.length := by
  intro b hSome
  rw [Option.some.inj hSome]

theorem partLength_writeUtf8String
    (string : Option Bytes)
    (stringLen : UInt16) :
    PartLength (writeUtf8String string stringLen)
      (stringLen.toNat + 2) :=
  fun _ hWrite => length_writeUtf8String hWrite

theorem partLength_subscribeEntry
    (topic : Option CString)
    (topicLen : UInt16)
    (qos : QoS) :
    PartLength (subscribeEntry topic topicLen qos)
      (topicLen.toNat + 3) := by
  intro b hEntry
  simp only [subscribeEntry, Option.map_eq_some_iff]
    at hEntry
  rcases hEntry with ⟨str, hStr, rfl⟩
  have hLen := length_writeUtf8String hStr
  simp only [List.length_append, List.length_cons,
    List.length_nil]
  omega

/-
  A frame is sendable when its remaining length is the
  length of its body, at least for bodies that are not too
  long.
-/
theorem serializeFrame_sendable
    {txBufLen : Nat}
    {header : UInt8}
    {remLen : UInt32}
    {body : Option Bytes}
    {bs : Bytes}
    (hFrame :
      serializeFrame txBufLen header remLen body =
        some (.ok bs))
    (hBody :
      ∀ b, body = some b → b.length < lengthLimit →
        b.length = remLen.toNat) :
    Sendable bs := by
  intro hShort
  unfold serializeFrame at hFrame
  by_cases hFits :
      (getFinalPacketLength remLen).toNat > txBufLen
  · simp [hFits] at hFrame
  · simp only [hFits, if_false, Option.map_eq_some_iff,
      Except.ok.injEq] at hFrame
    rcases hFrame with ⟨b, hSome, rfl⟩
    simp only [List.length_append, List.length_cons]
      at hShort
    have hLen : b.length = remLen.toNat :=
      hBody b hSome (by omega)
    refine ⟨⟨header, writeLenToBuffer remLen, b, ?_, ?_⟩, ?_⟩
    · rw [hLen]
      exact writeLenToBuffer_base128 remLen
    · exact length_writeLenToBuffer_le remLen (by omega)
    · simp [Packet.bytes]

/- A frame as header byte, length field and body. -/
theorem serializeFrame_ok
    {txBufLen : Nat}
    {header : UInt8}
    {remLen : UInt32}
    {body : Option Bytes}
    {packet : Bytes}
    (hFrame :
      serializeFrame txBufLen header remLen body =
        some (.ok packet)) :
    ∃ b,
      body = some b ∧
        packet = header :: writeLenToBuffer remLen ++ b := by
  unfold serializeFrame at hFrame
  split at hFrame
  · cases hFrame
  · rcases Option.map_eq_some_iff.mp hFrame with
      ⟨b, hBody, hEq⟩
    cases hEq
    exact ⟨b, hBody, rfl⟩

/- The only code a frame fails with. -/
theorem serializeFrame_error
    {txBufLen : Nat}
    {header : UInt8}
    {remLen : UInt32}
    {body : Option Bytes}
    {rc : IoTError}
    (hError :
      serializeFrame txBufLen header remLen body =
        some (.error rc)) :
    rc = .mqttTxBufferTooShortError := by
  unfold serializeFrame at hError
  by_cases hFits :
      (getFinalPacketLength remLen).toNat > txBufLen
  · simp only [hFits, if_true, Option.some.injEq,
      Except.error.injEq] at hError
    exact hError.symm
  · simp only [hFits, if_false, Option.map_eq_some_iff]
      at hError
    rcases hError with ⟨b, _, hNo⟩
    cases hNo

theorem serializeSubscribe_encodes
    (id : UInt16)
    (topic : Option CString)
    (topicLen : UInt16)
    (qos : QoS) :
    Encodes (fun c =>
      serializeSubscribe c.writeBufSize 0 id
        [(topic, topicLen, qos)]) := by
  intro c bs hSome
  refine serializeFrame_sendable hSome ?_
  intro b hBody _
  have hLen :=
    length_concatParts
      (.cons (partLength_some (writeUint16 id))
        (.cons (partLength_subscribeEntry topic topicLen qos)
          .nil)) b hBody
  have hLt := topicLen.toNat_lt
  simp only [writeUint16, List.length_cons, List.length_nil,
    List.sum_cons, List.sum_nil] at hLen
  simp only [List.foldl_cons, List.foldl_nil,
    UInt32.toNat_add, UInt16.toNat_toUInt32,
    UInt32.reduceToNat]
  omega

theorem serializeUnsubscribe_encodes
    (id : UInt16)
    (filter : Option CString)
    (filterLen : UInt16) :
    Encodes (fun c =>
      serializeUnsubscribe c.writeBufSize 0 id
        [(filter, filterLen)]) := by
  intro c bs hSome
  refine serializeFrame_sendable hSome ?_
  intro b hBody _
  have hLen :=
    length_concatParts
      (.cons (partLength_some (writeUint16 id))
        (.cons
          (partLength_writeUtf8String
            (filter.map CString.object) filterLen)
          .nil)) b hBody
  have hLt := filterLen.toNat_lt
  simp only [writeUint16, List.length_cons, List.length_nil,
    List.sum_cons, List.sum_nil] at hLen
  simp only [List.foldl_cons, List.foldl_nil,
    UInt32.toNat_add, UInt16.toNat_toUInt32,
    UInt32.reduceToNat]
  omega

/-
  The remaining length of a PUBLISH is taken modulo 2^32, so
  only payloads that are not too long give whole packets.
-/
theorem serializePublish_encodes
    (dup : UInt8)
    (qos : QoS)
    (retained : UInt8)
    (id : UInt16)
    (topic : Option CString)
    (topicLen : UInt16)
    (payload : Option Bytes) :
    Encodes (fun c =>
      serializePublish c.writeBufSize dup qos retained id
        topic topicLen payload) := by
  intro c bs hSome
  cases payload with
  | none => simp [serializePublish] at hSome
  | some payload =>
      refine serializeFrame_sendable hSome ?_
      intro b hBody hShort
      have hLen :=
        length_concatParts
          (.cons
            (partLength_writeUtf8String
              (topic.map CString.object) topicLen)
            (.cons (partLength_some _)
              (.cons (partLength_some payload) .nil)))
          b hBody
      have hLt := topicLen.toNat_lt
      simp only [List.sum_cons, List.sum_nil] at hLen
      simp only [lengthLimit, maxNoOfRemainingLengthBytes]
        at hShort
      by_cases hQos : qos.value > 0
      · simp only [hQos, if_true, writeUint16,
          List.length_cons, List.length_nil] at hLen
        simp only [hQos, if_true, UInt32.toNat_add,
          UInt32.toNat_ofNat', UInt32.reduceToNat]
        omega
      · simp only [hQos, if_false, List.length_nil] at hLen
        simp only [hQos, if_false, UInt32.toNat_ofNat']
        omega

theorem serializeAck_encodes
    (msgType : MessageType)
    (dup : UInt8)
    (id : UInt16) :
    Encodes (fun c =>
      serializeAck c.writeBufSize msgType dup id) := by
  intro c bs hSome _
  unfold serializeAck at hSome
  by_cases hShort : 4 > c.writeBufSize
  · simp [hShort] at hSome
  · simp only [hShort, if_false, Option.some.injEq,
      Except.ok.injEq] at hSome
    refine ⟨⟨_, writeLenToBuffer 2, writeUint16 id,
      writeLenToBuffer_base128 2, ?_⟩, hSome⟩
    exact length_writeLenToBuffer_le 2 (by decide)

theorem serializeZero_encodes
    (packetType : MessageType) :
    Encodes (fun c =>
      serializeZero c.writeBufSize packetType) := by
  intro c bs hSome _
  unfold serializeZero at hSome
  by_cases hShort : 4 > c.writeBufSize
  · simp [hShort] at hSome
  · simp only [hShort, if_false, Option.some.injEq,
      Except.ok.injEq] at hSome
    refine ⟨⟨initHeader packetType .qos0 0 0,
      writeLenToBuffer 0, [],
      writeLenToBuffer_base128 0, ?_⟩, ?_⟩
    · exact length_writeLenToBuffer_le 0 (by decide)
    · simpa [Packet.bytes] using hSome

/- The only code the encoder of a bare packet fails with. -/
theorem serializeZero_error
    {txBufLen : Nat}
    {packetType : MessageType}
    {rc : IoTError}
    (hError :
      serializeZero txBufLen packetType =
        some (.error rc)) :
    rc = .mqttTxBufferTooShortError := by
  unfold serializeZero at hError
  by_cases hShort : 4 > txBufLen
  · simp only [hShort, if_true, Option.some.injEq,
      Except.error.injEq] at hError
    exact hError.symm
  · simp [hShort] at hError

/- The wire image of a PUBACK. -/
def pubackPacket (id : UInt16) : Bytes :=
  initHeader .puback .qos0 0 0 ::
    (writeLenToBuffer 2 ++ writeUint16 id)

theorem serializeAck_puback
    {txBufLen : Nat}
    {id : UInt16}
    {packet : Bytes}
    (hEnc :
      serializeAck txBufLen .puback 0 id =
        some (.ok packet)) :
    packet = pubackPacket id := by
  unfold serializeAck at hEnc
  split at hEnc
  · cases hEnc
  · cases hEnc
    rfl

theorem serializeAck_error
    {txBufLen : Nat}
    {msgType : MessageType}
    {dup : UInt8}
    {id : UInt16}
    {rc : IoTError}
    (hError :
      serializeAck txBufLen msgType dup id =
        some (.error rc)) :
    rc = .mqttTxBufferTooShortError := by
  unfold serializeAck at hError
  by_cases hShort : 4 > txBufLen
  · simp only [hShort, if_true, Option.some.injEq,
      Except.error.injEq] at hError
    exact hError.symm
  · simp [hShort] at hError

/- The optional parts of a CONNECT body. -/
theorem partLengths_ite
    {b : Bool}
    {parts : List (Option Bytes)}
    {ns : List Nat}
    (hParts : List.Forall₂ PartLength parts ns) :
    List.Forall₂ PartLength
      (if b = true then parts else [])
      (if b = true then ns else []) := by
  by_cases hFlag : b = true
  · simpa only [hFlag, if_true] using hParts
  · simp only [hFlag]
    exact List.Forall₂.nil

/- The part that holds the client identifier. -/
def clientIDPart (p : ConnectParams) : Option Bytes :=
  if p.pClientID.isNone then
    some (writeUint16 0)
  else
    writeUtf8String p.pClientID p.clientIDLen

/- The parts that hold the will. -/
def willParts (p : ConnectParams) : List (Option Bytes) :=
  if p.isWillMsgPresent then
    [writeUtf8String p.will.pTopicName p.will.topicNameLen,
      writeUtf8String p.will.pMessage p.will.msgLen]
  else []

/- The parts that hold an optional string. -/
def optionalParts
    (source : Option Bytes)
    (len : UInt16) : List (Option Bytes) :=
  if source.isSome then [writeUtf8String source len] else []

/- All parts of the body, in their order. -/
def connectParts (p : ConnectParams) : List (Option Bytes) :=
  [writeUtf8String (some protocolName) 4,
      some [p.mqttVersion, connectFlags p],
      some (writeUint16 p.keepAliveIntervalInSec),
      clientIDPart p] ++
    willParts p ++
    optionalParts p.pUsername p.usernameLen ++
    optionalParts p.pPassword p.passwordLen

theorem partLength_clientIDPart
    {p : ConnectParams}
    (hId : p.pClientID.isNone = true → p.clientIDLen = 0) :
    PartLength (clientIDPart p)
      (p.clientIDLen.toNat + 2) := by
  unfold clientIDPart
  split
  · rename_i hNone
    rw [hId hNone]
    exact partLength_some (writeUint16 0)
  · exact partLength_writeUtf8String _ _

/- The length of the body is computed without overflow. -/
theorem length_connectParts
    {p : ConnectParams}
    (hId : p.pClientID.isNone = true → p.clientIDLen = 0)
    (body : Bytes)
    (hBody : concatParts (connectParts p) = some body) :
    (getConnectPacketLength p).toNat = body.length ∧
      (getConnectPacketLength p).toNat < lengthLimit := by
  have hLen :=
    length_concatParts
      (List.rel_append
        (List.rel_append
          (List.rel_append
            (.cons
              (partLength_writeUtf8String
                (some protocolName) 4)
              (.cons
                (partLength_some
                  [p.mqttVersion, connectFlags p])
                (.cons
                  (partLength_some
                    (writeUint16 p.keepAliveIntervalInSec))
                  (.cons (partLength_clientIDPart hId)
                    .nil))))
            (partLengths_ite
              (.cons (partLength_writeUtf8String _ _)
                (.cons (partLength_writeUtf8String _ _)
                  .nil))))
          (partLengths_ite
            (.cons (partLength_writeUtf8String _ _) .nil)))
        (partLengths_ite
          (.cons (partLength_writeUtf8String _ _) .nil)))
      body hBody
  rw [hLen]
  have hLt1 := p.clientIDLen.toNat_lt
  have hLt2 := p.will.topicNameLen.toNat_lt
  have hLt3 := p.will.msgLen.toNat_lt
  have hLt4 := p.usernameLen.toNat_lt
  have hLt5 := p.passwordLen.toNat_lt
  unfold getConnectPacketLength lengthLimit
    maxNoOfRemainingLengthBytes
  cases p.isWillMsgPresent <;> cases p.pUsername.isSome <;>
    cases p.pPassword.isSome <;>
    simp [UInt32.toNat_add, writeUint16] <;> omega

/- What the encoder of a CONNECT accepts and writes. -/
theorem serializeConnect_ok
    {txBufLen : Nat}
    {p : ConnectParams}
    {packet : Bytes}
    (hEnc :
      serializeConnect txBufLen p = some (.ok packet)) :
    (p.pClientID.isNone = true → p.clientIDLen = 0) ∧
      p.mqttVersion = 4 ∧
        ∃ body,
          concatParts (connectParts p) = some body ∧
            packet =
              initHeader .connect .qos0 0 0 ::
                writeLenToBuffer
                  (getConnectPacketLength p) ++ body := by
  unfold serializeConnect at hEnc
  split at hEnc
  · cases hEnc
  · rename_i hId
    split at hEnc
    · cases hEnc
    · rename_i hVersion
      refine ⟨?_, not_not.mp hVersion, ?_⟩
      · intro hNone
        simpa [hNone] using hId
      · rcases serializeFrame_ok hEnc with
          ⟨body, hBody, rfl⟩
        exact ⟨body, hBody, rfl⟩

theorem serializeConnect_sendable
    {txBufLen : Nat}
    {p : ConnectParams}
    {bs : Bytes}
    (hSome : serializeConnect txBufLen p = some (.ok bs)) :
    Sendable bs := by
  intro _
  rcases serializeConnect_ok hSome with
    ⟨hId, _, body, hBody, rfl⟩
  rcases length_connectParts hId body hBody with
    ⟨hLength, hShort⟩
  refine
    ⟨⟨_, writeLenToBuffer (getConnectPacketLength p), body,
      ?_, length_writeLenToBuffer_le _ hShort⟩, rfl⟩
  rw [← hLength]
  exact writeLenToBuffer_base128 _

theorem serializeConnect_encodes :
    Encodes (fun c =>
      serializeConnect c.writeBufSize c.options) :=
  fun _ _ hSome => serializeConnect_sendable hSome

end Mqtt

end TrustOnboard

------------------------------------------------------------
-- Packet Types
------------------------------------------------------------

namespace TrustOnboard

namespace Mqtt

/- The type of a packet. -/
def packetType (packet : Bytes) : UInt8 :=
  headerType (packet.headD 0)

/- The type bits of a header byte the client writes. -/
theorem headerType_initHeader
    (type : MessageType)
    (qos : QoS)
    (dup retained : UInt8) :
    headerType (initHeader type qos dup retained) =
      type.nibble := by
  unfold initHeader
  by_cases hDup : dup = 1 <;>
    by_cases hRetained : retained = 1 <;>
    simp only [hDup, hRetained, if_true, if_false] <;>
    cases type <;> cases qos <;> decide

theorem packetType_frame
    {txBufLen : Nat}
    {type : MessageType}
    {qos : QoS}
    {dup retained : UInt8}
    {remLen : UInt32}
    {body : Option Bytes}
    {packet : Bytes}
    (hFrame :
      serializeFrame txBufLen
          (initHeader type qos dup retained) remLen body =
        some (.ok packet)) :
    packetType packet = type.nibble := by
  rcases serializeFrame_ok hFrame with ⟨_, _, rfl⟩
  exact headerType_initHeader type qos dup retained

theorem packetType_zero
    {txBufLen : Nat}
    {type : MessageType}
    {packet : Bytes}
    (hEnc :
      serializeZero txBufLen type = some (.ok packet)) :
    packetType packet = type.nibble := by
  unfold serializeZero at hEnc
  split at hEnc
  · cases hEnc
  · cases hEnc
    exact headerType_initHeader type .qos0 0 0

theorem packetType_puback
    {txBufLen : Nat}
    {id : UInt16}
    {packet : Bytes}
    (hEnc :
      serializeAck txBufLen .puback 0 id =
        some (.ok packet)) :
    packetType packet = MessageType.puback.nibble := by
  rw [serializeAck_puback hEnc]
  exact headerType_initHeader .puback .qos0 0 0

theorem packetType_connect
    {txBufLen : Nat}
    {params : ConnectParams}
    {packet : Bytes}
    (hEnc :
      serializeConnect txBufLen params =
        some (.ok packet)) :
    packetType packet = MessageType.connect.nibble := by
  rcases serializeConnect_ok hEnc with ⟨_, _, _, _, rfl⟩
  exact headerType_initHeader .connect .qos0 0 0

theorem packetType_publish
    {txBufLen : Nat}
    {dup : UInt8}
    {qos : QoS}
    {retained : UInt8}
    {id : UInt16}
    {topic : Option CString}
    {topicLen : UInt16}
    {payload : Option Bytes}
    {packet : Bytes}
    (hEnc :
      serializePublish txBufLen dup qos retained id topic
          topicLen payload = some (.ok packet)) :
    packetType packet = MessageType.publish.nibble := by
  cases payload with
  | none => simp [serializePublish] at hEnc
  | some payload => exact packetType_frame hEnc

end Mqtt

end TrustOnboard

------------------------------------------------------------
-- Codes Of The Decoders
------------------------------------------------------------

namespace TrustOnboard

namespace Mqtt

/- The codes a length field in a buffer fails with. -/
theorem decodeLenRounds_error
    {buf : Buffer}
    {rounds off len multiplier decoded : Nat}
    {rc : IoTError}
    (hError :
      decodeLenRounds buf rounds off len multiplier decoded =
        .error rc) :
    rc = .mqttDecodeRemainingLengthError := by
  induction rounds generalizing off len multiplier decoded with
  | zero =>
      simp only [decodeLenRounds, Except.error.injEq]
        at hError
      exact hError.symm
  | succ rounds ih =>
      simp only [decodeLenRounds] at hError
      split at hError
      · exact ih hError
      · cases hError

theorem readGrantedQoSs_error
    {buf : Buffer}
    {maxCount remaining cur count : Nat}
    {rc : IoTError}
    (hError :
      readGrantedQoSs buf maxCount remaining cur count =
        .error rc) :
    rc = .failure := by
  induction remaining generalizing cur count with
  | zero => cases hError
  | succ remaining ih =>
      simp only [readGrantedQoSs] at hError
      split at hError
      · cases hError
        rfl
      · cases hRest :
            readGrantedQoSs buf maxCount remaining (cur + 1)
              (count + 1) with
        | error rc' =>
            rw [hRest] at hError
            cases hError
            exact ih hRest
        | ok codes =>
            rw [hRest] at hError
            cases hError

/- The codes a SUBACK is refused with. -/
theorem deserializeSuback_error
    {buf : Buffer}
    {maxCount rxBufLen : Nat}
    {rc : IoTError}
    (hError :
      deserializeSuback buf maxCount rxBufLen =
        .error rc) :
    rc = .mqttRxBufferTooShortError ∨ rc = .failure ∨
      rc = .mqttDecodeRemainingLengthError := by
  unfold deserializeSuback at hError
  split at hError
  · cases hError
    simp
  · split at hError
    · cases hError
      simp
    · cases hDecode :
          decodeRemainingLengthFromBuffer buf 1 with
      | error rc' =>
          rw [hDecode] at hError
          cases hError
          rw [decodeLenRounds_error hDecode]
          simp
      | ok decoded =>
          rw [hDecode] at hError
          dsimp only at hError
          split at hError
          · cases hError
            simp
          · cases hCodes :
                readGrantedQoSs buf maxCount
                  (decoded.1 - 2) (1 + decoded.2 + 2) 0 with
            | error rc' =>
                rw [hCodes] at hError
                cases hError
                rw [readGrantedQoSs_error hCodes]
                simp
            | ok codes =>
                rw [hCodes] at hError
                cases hError

end Mqtt

end TrustOnboard
