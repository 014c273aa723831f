import Mathlib.Data.Nat.Log
import TrustOnboard.Mqtt.Packets

/-
  The encoders and the length of the transmit buffer.

  An encoder compares an estimate of the packet's length,
  computed with 32 bits, with the length of the buffer, and
  then copies every part at its full length.  The estimate
  counts at most four bytes for the remaining length, so it
  is one too small from 2^28 on, and it wraps around.

  Key definitions include:
    * `StaysInBuffer`
    * `RespectsBuffer`
    * `lengthEstimate`
    * `FrameSafe`

  Key results include:
    * `length_writeLenToBuffer`
    * `serializeFrame_respects`
    * `serializeFrame_respects_iff`
    * `encoders_respect_iff`
-/

------------------------------------------------------------
-- Bounds
------------------------------------------------------------

namespace TrustOnboard

namespace Mqtt

/-
  The bytes an encoder has written from the start of the
  buffer, against the length it reports for them.
-/
structure StaysInBuffer
    (txBufLen reported : Nat)
    (bs : Bytes) : Prop where
  inside : bs.length ≤ reported
  fits : reported ≤ txBufLen
  framed :
    ∃ header field body remLen,
      bs = header :: (field ++ body) ∧
        Base128 field remLen ∧
          reported = 1 + field.length + remLen

/-
  An encoder that returns an error has written nothing.  One
  that copies from NULL has no outcome at all.
-/
def RespectsBuffer
    (txBufLen : Nat)
    (reported : Nat → Nat) : Serialized → Prop
  | none => False
  | some (.error _) => True
  | some (.ok bs) =>
      StaysInBuffer txBufLen (reported bs.length) bs

/- The length an encoder reports as a `uint32_t`. -/
def reportedUint32 (written : Nat) : Nat :=
  written % 2 ^ 32

/- The length an encoder reports as a `size_t`. -/
def reportedSize (written : Nat) : Nat := written

/-
  The length of a packet the encoders reckon with, for the
  true remaining length.  The header byte is counted before
  the length field is chosen, and both sums wrap.
-/
def lengthEstimate (total : Nat) : Nat :=
  let counted := (total + 1) % 2 ^ 32
  (counted +
    if counted < 128 then 1
    else if counted < 16384 then 2
    else if counted < 2097152 then 3
    else 4) % 2 ^ 32

/- The check the encoders make before they write. -/
def RefusedLength (txBufLen total : Nat) : Prop :=
  txBufLen < lengthEstimate total

/-
  The encoder refuses the packet, or every pointer it copies
  from has an object and the remaining length needs no fifth
  byte, or there is room for a fifth byte and nothing wraps.
-/
def FrameSafe
    (txBufLen total : Nat)
    (readable : Prop) : Prop :=
  RefusedLength txBufLen total ∨
    (readable ∧
      (total < 2 ^ 28 ∨
        (total + 6 < 2 ^ 32 ∧ total + 6 ≤ txBufLen)))

/- The number of bytes a remaining length takes. -/
def lengthBytes (n : Nat) : Nat :=
  Nat.log 128 n + 1

/- The length of a packet with a given remaining length. -/
def packetLength (total : Nat) : Nat :=
  1 + lengthBytes total + total

/- A pointer from which `len` bytes can be copied. -/
def Readable
    {α : Type}
    (source : Option α)
    (len : UInt16) : Prop :=
  len = 0 ∨ source.isSome = true

/-
  For every buffer the result is a frame with the given
  header and body.  The body has the given length, and is
  there if its parts can be read.
-/
structure Framed
    (header : UInt8)
    (body : Option Bytes)
    (total : Nat)
    (readable : Prop)
    (encode : Nat → Serialized) : Prop where
  frame :
    ∃ remLen : UInt32,
      remLen.toNat = total % 2 ^ 32 ∧
        ∀ txBufLen,
          encode txBufLen =
            serializeFrame txBufLen header remLen body
  length : PartLength body total
  present : body.isSome = true ↔ readable

end Mqtt

end TrustOnboard

------------------------------------------------------------
-- Lengths
------------------------------------------------------------

namespace TrustOnboard

namespace Mqtt

/- The number of bytes of a remaining length. -/
theorem length_writeLenRounds
    (k n : Nat)
    (hSmall : n < 128 ^ (k + 1)) :
    (writeLenRounds (k + 1) n).length = lengthBytes n := by
  unfold lengthBytes
  induction k generalizing n with
  | zero =>
      have hDigit : n < 128 := by omega
      rw [writeLenRounds_digit 0 hDigit,
        Nat.log_of_lt hDigit]
      rfl
  | succ k ih =>
      by_cases hDigit : n < 128
      · rw [writeLenRounds_digit (k + 1) hDigit,
          Nat.log_of_lt hDigit]
        rfl
      · have hRest : n / 128 < 128 ^ (k + 1) := by
          rw [Nat.pow_succ] at hSmall
          omega
        have hMore : 0 < n / 128 := by omega
        have hLog :=
          Nat.log_of_one_lt_of_le (b := 128) (n := n)
            (by decide) (by omega)
        rw [writeLenRounds, hLog]
        simp only [hMore, if_true, List.length_cons, ih _ hRest]

theorem length_writeLenToBuffer
    (length : UInt32) :
    (writeLenToBuffer length).length =
      lengthBytes length.toNat := by
  apply length_writeLenRounds
  have hLt := length.toNat_lt
  omega

/- The lengths at which one more byte is needed. -/
theorem lengthBytes_eq
    {n : Nat}
    (hSmall : n < 2 ^ 32) :
    lengthBytes n =
      if n < 128 then 1
      else if n < 16384 then 2
      else if n < 2097152 then 3
      else if n < 268435456 then 4
      else 5 := by
  unfold lengthBytes
  split_ifs with h1 h2 h3 h4
  · rw [Nat.log_of_lt h1]
  · rw [Nat.log_eq_of_pow_le_of_lt_pow (m := 1)] <;> omega
  · rw [Nat.log_eq_of_pow_le_of_lt_pow (m := 2)] <;> omega
  · rw [Nat.log_eq_of_pow_le_of_lt_pow (m := 3)] <;> omega
  · rw [Nat.log_eq_of_pow_le_of_lt_pow (m := 4)] <;> omega

/- Below 2^28 the estimate is never too small. -/
theorem packetLength_le_estimate
    {total : Nat}
    (hShort : total < 2 ^ 28) :
    packetLength total ≤ lengthEstimate total := by
  have hCounted : (total + 1) % 2 ^ 32 = total + 1 := by
    omega
  unfold packetLength lengthEstimate
  rw [lengthBytes_eq (by omega), hCounted]
  dsimp only
  split_ifs <;> omega

/- The estimate of the source, as a number. -/
theorem getFinalPacketLength_eq
    {remLen : UInt32}
    {total : Nat}
    (hRem : remLen.toNat = total % 2 ^ 32) :
    (getFinalPacketLength remLen).toNat =
      lengthEstimate total := by
  have hCounted :
      (remLen + 1).toNat = (total + 1) % 2 ^ 32 := by
    rw [UInt32.toNat_add, hRem]
    simp
  unfold getFinalPacketLength lengthEstimate
  simp only [UInt32.lt_iff_toNat_lt, UInt32.reduceToNat,
    hCounted]
  split_ifs <;> rw [UInt32.toNat_add, hCounted] <;> rfl

/- A length that is summed up entry by entry. -/
theorem toNat_foldl_add
    {α : Type}
    (f : α → UInt32)
    (xs : List α)
    (len : UInt32) :
    (xs.foldl (fun len x => len + f x) len).toNat =
      (len.toNat + (xs.map (fun x => (f x).toNat)).sum) %
        2 ^ 32 := by
  induction xs generalizing len with
  | nil =>
      have hLt := len.toNat_lt
      simp only [List.foldl_nil, List.map_nil, List.sum_nil]
      omega
  | cons x xs ih =>
      rw [List.foldl_cons, ih, UInt32.toNat_add,
        List.map_cons, List.sum_cons]
      omega

end Mqtt

end TrustOnboard

------------------------------------------------------------
-- Frames
------------------------------------------------------------

namespace TrustOnboard

namespace Mqtt

variable {txBufLen total : Nat}
variable {header : UInt8}
variable {remLen : UInt32}
variable {body : Option Bytes}

theorem serializeFrame_refused
    (hRem : remLen.toNat = total % 2 ^ 32)
    (hRefused : RefusedLength txBufLen total) :
    serializeFrame txBufLen header remLen body =
      some (.error .mqttTxBufferTooShortError) := by
  unfold serializeFrame
  rw [getFinalPacketLength_eq hRem]
  exact if_pos hRefused

theorem serializeFrame_written
    (hRem : remLen.toNat = total % 2 ^ 32)
    (hFits : ¬ RefusedLength txBufLen total) :
    serializeFrame txBufLen header remLen body =
      body.map (fun bs =>
        .ok (header :: writeLenToBuffer remLen ++ bs)) := by
  unfold serializeFrame
  rw [getFinalPacketLength_eq hRem]
  exact if_neg hFits

theorem length_frame
    {b : Bytes}
    (hLength : b.length = total) :
    (header :: writeLenToBuffer remLen ++ b).length =
      1 + lengthBytes remLen.toNat + total := by
  simp only [List.cons_append, List.length_cons,
    List.length_append, length_writeLenToBuffer]
  omega

/- A frame whose reported length is its length is framed. -/
theorem staysInBuffer_frame
    {b : Bytes}
    {reported : Nat}
    (hRem : remLen.toNat = total)
    (hLength : b.length = total)
    (hReported : reported = packetLength total)
    (hFits : packetLength total ≤ txBufLen) :
    StaysInBuffer txBufLen reported
      (header :: writeLenToBuffer remLen ++ b) := by
  refine
    ⟨?_, by omega, header, writeLenToBuffer remLen, b,
      remLen.toNat, rfl, writeLenToBuffer_base128 remLen, ?_⟩
  · rw [length_frame hLength, hReported, hRem]
    rfl
  · rw [hReported, length_writeLenToBuffer, hRem]
    rfl

/-
  A frame with a remaining length of at most four bytes keeps
  to the buffer as soon as its parts can be read.
-/
theorem serializeFrame_respects
    {reported : Nat → Nat}
    (hReported : ∀ n, n < 2 ^ 32 → reported n = n)
    (hRem : remLen.toNat = total)
    (hShort : total < 2 ^ 28)
    (hBody : PartLength body total) :
    RespectsBuffer txBufLen reported
        (serializeFrame txBufLen header remLen body) ↔
      RefusedLength txBufLen total ∨
        body.isSome = true := by
  have hMod : remLen.toNat = total % 2 ^ 32 := by omega
  by_cases hRefused : RefusedLength txBufLen total
  · rw [serializeFrame_refused hMod hRefused]
    exact iff_of_true trivial (.inl hRefused)
  rw [serializeFrame_written hMod hRefused]
  cases hSome : body with
  | none => exact iff_of_false id (by simp [hRefused])
  | some b =>
      refine iff_of_true ?_ (.inr rfl)
      have hLength := hBody b hSome
      have hEstimate := packetLength_le_estimate hShort
      have hBytes :=
        lengthBytes_eq (n := total) (by omega)
      unfold RefusedLength at hRefused
      refine
        staysInBuffer_frame hRem hLength ?_ (by omega)
      rw [length_frame hLength, hRem]
      apply hReported
      split_ifs at hBytes <;> omega

/- When a frame keeps to the buffer. -/
theorem serializeFrame_respects_iff
    (hRem : remLen.toNat = total % 2 ^ 32)
    (hBody : PartLength body total) :
    RespectsBuffer txBufLen reportedUint32
        (serializeFrame txBufLen header remLen body) ↔
      FrameSafe txBufLen total (body.isSome = true) := by
  unfold FrameSafe
  by_cases hShort : total < 2 ^ 28
  · have hReported :
        ∀ n, n < 2 ^ 32 → reportedUint32 n = n :=
      fun n hn => Nat.mod_eq_of_lt hn
    rw [serializeFrame_respects hReported (by omega) hShort
      hBody]
    simp only [hShort, true_or, and_true]
  by_cases hRefused : RefusedLength txBufLen total
  · rw [serializeFrame_refused hRem hRefused]
    exact iff_of_true trivial (.inl hRefused)
  rw [serializeFrame_written hRem hRefused]
  cases hSome : body with
  | none => exact iff_of_false id (by simp [hRefused])
  | some b =>
      have hLength := hBody b hSome
      simp only [hRefused, hShort, false_or,
        Option.isSome_some, true_and]
      constructor
      · intro hRespects
        have hInside := hRespects.inside
        have hFits := hRespects.fits
        have hBytes :=
          lengthBytes_eq remLen.toNat_lt
        unfold reportedUint32 at hInside hFits
        rw [length_frame hLength] at hInside hFits
        split_ifs at hBytes <;> omega
      · rintro ⟨hNoWrap, hRoom⟩
        have hBytes :=
          lengthBytes_eq (n := total) (by omega)
        have hFive : packetLength total = total + 6 := by
          unfold packetLength
          split_ifs at hBytes <;> omega
        have hSame : remLen.toNat = total := by omega
        refine
          staysInBuffer_frame hSame hLength ?_ (by omega)
        rw [length_frame hLength, hSame]
        unfold reportedUint32
        rw [← packetLength]
        omega

theorem Framed.respects_iff
    {readable : Prop}
    {encode : Nat → Serialized}
    (hFramed : Framed header body total readable encode)
    (txBufLen : Nat) :
    RespectsBuffer txBufLen reportedUint32
        (encode txBufLen) ↔
      FrameSafe txBufLen total readable := by
  rcases hFramed.frame with ⟨remLen, hRem, hEncode⟩
  rw [hEncode,
    serializeFrame_respects_iff hRem hFramed.length]
  unfold FrameSafe
  rw [hFramed.present]

theorem Framed.respects
    {readable : Prop}
    {encode : Nat → Serialized}
    {reported : Nat → Nat}
    (hFramed : Framed header body total readable encode)
    (hReported : ∀ n, n < 2 ^ 32 → reported n = n)
    (hShort : total < 2 ^ 28)
    (txBufLen : Nat) :
    RespectsBuffer txBufLen reported (encode txBufLen) ↔
      RefusedLength txBufLen total ∨ readable := by
  rcases hFramed.frame with ⟨remLen, hRem, hEncode⟩
  rw [hEncode,
    serializeFrame_respects hReported (by omega) hShort
      hFramed.length,
    hFramed.present]

end Mqtt

end TrustOnboard

------------------------------------------------------------
-- Readable Parts
------------------------------------------------------------

namespace TrustOnboard

namespace Mqtt

theorem isSome_concatParts
    (parts : List (Option Bytes)) :
    (concatParts parts).isSome = true ↔
      ∀ part ∈ parts, part.isSome = true := by
  induction parts with
  | nil => simp [concatParts]
  | cons part parts ih =>
      rw [List.forall_mem_cons, ← ih]
      cases hPart : part with
      | none => simp [concatParts]
      | some first =>
          cases hRest : concatParts parts with
          | none =>
              simp only [concatParts] at hRest
              simp [concatParts, hRest]
          | some rest =>
              simp only [concatParts] at hRest
              simp [concatParts, hRest]

theorem isSome_writeUtf8String
    (source : Option Bytes)
    (len : UInt16) :
    (writeUtf8String source len).isSome = true ↔
      Readable source len := by
  unfold writeUtf8String Readable memcpyFrom
  rw [Option.isSome_map]
  by_cases hZero : len = 0
  · simp [hZero]
  · have hPos : len.toNat ≠ 0 := by
      intro hNat
      exact hZero (UInt16.toNat_inj.mp hNat)
    simp [hZero, hPos]

/- A C string is readable like the object it occupies. -/
theorem readable_object
    (topic : Option CString)
    (len : UInt16) :
    Readable (topic.map CString.object) len ↔
      Readable topic len := by
  unfold Readable
  rw [Option.isSome_map]

end Mqtt

end TrustOnboard

------------------------------------------------------------
-- The Encoders
------------------------------------------------------------

namespace TrustOnboard

namespace Mqtt

/- The remaining length of a PUBLISH. -/
def publishLength
    (qos : QoS)
    (topicLen : UInt16)
    (payload : Bytes) : Nat :=
  topicLen.toNat + 2 +
    ((if qos.value > 0 then 2 else 0) + payload.length)

/- The remaining length of a SUBSCRIBE. -/
def subscribeLength
    (topics : List (Option CString × UInt16 × QoS)) : Nat :=
  2 + (topics.map (fun t => t.2.1.toNat + 3)).sum

/- The remaining length of an UNSUBSCRIBE. -/
def unsubscribeLength
    (topics : List (Option CString × UInt16)) : Nat :=
  2 + (topics.map (fun t => t.2.toNat + 2)).sum

/- The remaining length of a CONNECT. -/
def connectLength (p : ConnectParams) : Nat :=
  12 + p.clientIDLen.toNat +
    (if p.isWillMsgPresent then
      p.will.topicNameLen.toNat + p.will.msgLen.toNat + 4
    else 0) +
    (if p.pUsername.isSome then p.usernameLen.toNat + 2
    else 0) +
    (if p.pPassword.isSome then p.passwordLen.toNat + 2
    else 0)

/- The body of a PUBLISH. -/
def publishBody
    (qos : QoS)
    (id : UInt16)
    (topic : Option CString)
    (topicLen : UInt16)
    (payload : Bytes) : Option Bytes :=
  concatParts
    [writeUtf8String (topic.map CString.object) topicLen,
      some (if qos.value > 0 then writeUint16 id else []),
      some payload]

/- The body of a SUBSCRIBE. -/
def subscribeBody
    (id : UInt16)
    (topics : List (Option CString × UInt16 × QoS)) :
    Option Bytes :=
  concatParts
    (some (writeUint16 id) ::
      topics.map (fun t => subscribeEntry t.1 t.2.1 t.2.2))

/- The body of an UNSUBSCRIBE. -/
def unsubscribeBody
    (id : UInt16)
    (topics : List (Option CString × UInt16)) :
    Option Bytes :=
  concatParts
    (some (writeUint16 id) ::
      topics.map (fun t =>
        writeUtf8String (t.1.map CString.object) t.2))

/- A PUBLISH that keeps to the buffer. -/
def PublishSafe
    (txBufLen : Nat)
    (qos : QoS)
    (topic : Option CString)
    (topicLen : UInt16) : Option Bytes → Prop
  | none => True
  | some payload =>
      FrameSafe txBufLen (publishLength qos topicLen payload)
        (Readable topic topicLen)

/- The pointers a CONNECT is copied from. -/
def ConnectReadable (p : ConnectParams) : Prop :=
  p.isWillMsgPresent = true →
    Readable p.will.pTopicName p.will.topicNameLen ∧
      Readable p.will.pMessage p.will.msgLen

/- Options the encoder of a CONNECT does not accept. -/
def ConnectRejected (p : ConnectParams) : Prop :=
  (p.pClientID.isSome = true ↔ p.clientIDLen = 0) ∨
    p.mqttVersion ≠ 4

/-
  The encoder of the acknowledgements with the type as its
  caller passes it, where `none` stands for `UNKNOWN` and
  every number that is no type: the header is refused after
  the length of the buffer has been checked.
-/
def serializeAckOf
    (txBufLen : Nat)
    (msgType : Option MessageType)
    (dup : UInt8)
    (packetId : UInt16) : Serialized :=
  match msgType with
  | some msgType => serializeAck txBufLen msgType dup packetId
  | none =>
      if 4 > txBufLen then
        some (.error .mqttTxBufferTooShortError)
      else
        some (.error .failure)

/- The encoder of the bare packets, likewise. -/
def serializeZeroOf
    (txBufLen : Nat)
    (packetType : Option MessageType) : Serialized :=
  match packetType with
  | some packetType => serializeZero txBufLen packetType
  | none =>
      if 4 > txBufLen then
        some (.error .mqttTxBufferTooShortError)
      else
        some (.error .failure)

theorem serializePublish_framed
    (dup : UInt8)
    (qos : QoS)
    (retained : UInt8)
    (id : UInt16)
    (topic : Option CString)
    (topicLen : UInt16)
    (payload : Bytes) :
    Framed (initHeader .publish qos dup retained)
      (publishBody qos id topic topicLen payload)
      (publishLength qos topicLen payload)
      (Readable topic topicLen)
      (fun txBufLen =>
        serializePublish txBufLen dup qos retained id topic
          topicLen (some payload)) := by
  have hParts :=
    length_concatParts
      (.cons
        (partLength_writeUtf8String
          (topic.map CString.object) topicLen)
        (.cons
          (partLength_some
            (if qos.value > 0 then writeUint16 id else []))
          (.cons (partLength_some payload) .nil)))
  refine ⟨⟨_, ?_, fun _ => rfl⟩, ?_, ?_⟩
  · unfold publishLength
    by_cases hQos : qos.value > 0
    · simp only [hQos, if_true, UInt32.toNat_add,
        UInt32.toNat_ofNat', UInt32.reduceToNat]
      omega
    · simp only [hQos, if_false, UInt32.toNat_ofNat']
      omega
  · intro b hBody
    rw [hParts b hBody]
    unfold publishLength
    split_ifs <;> simp [writeUint16]
  · rw [publishBody, isSome_concatParts]
    simp only [List.forall_mem_cons, Option.isSome_some,
      isSome_writeUtf8String, readable_object,
      List.not_mem_nil, false_implies, implies_true,
      and_true]

theorem serializePublish_respects_iff
    (txBufLen : Nat)
    (dup : UInt8)
    (qos : QoS)
    (retained : UInt8)
    (id : UInt16)
    (topic : Option CString)
    (topicLen : UInt16)
    (payload : Option Bytes) :
    RespectsBuffer txBufLen reportedUint32
        (serializePublish txBufLen dup qos retained id topic
          topicLen payload) ↔
      PublishSafe txBufLen qos topic topicLen payload := by
  cases payload with
  | none => exact Iff.rfl
  | some payload =>
      exact
        (serializePublish_framed dup qos retained id topic
          topicLen payload).respects_iff txBufLen

theorem serializeSubscribe_framed
    (dup : UInt8)
    (id : UInt16)
    (topics : List (Option CString × UInt16 × QoS)) :
    Framed (initHeader .subscribe .qos1 dup 0)
      (subscribeBody id topics) (subscribeLength topics)
      (∀ t ∈ topics, Readable t.1 t.2.1)
      (fun txBufLen =>
        serializeSubscribe txBufLen dup id topics) := by
  have hEntry :
      (fun t : Option CString × UInt16 × QoS =>
        (t.2.1.toUInt32 + 2 + 1).toNat) =
          fun t => t.2.1.toNat + 3 := by
    funext t
    have hLt := t.2.1.toNat_lt
    simp only [UInt32.toNat_add, UInt16.toNat_toUInt32,
      UInt32.reduceToNat]
    omega
  have hParts :
      List.Forall₂ PartLength
        (topics.map
          (fun t => subscribeEntry t.1 t.2.1 t.2.2))
        (topics.map (fun t => t.2.1.toNat + 3)) := by
    rw [List.forall₂_map_left_iff,
      List.forall₂_map_right_iff, List.forall₂_same]
    intro t _
    exact partLength_subscribeEntry t.1 t.2.1 t.2.2
  refine ⟨⟨_, ?_, fun _ => rfl⟩, ?_, ?_⟩
  · rw [toNat_foldl_add, hEntry]
    rfl
  · exact
      length_concatParts
        (.cons (partLength_some (writeUint16 id)) hParts)
  · rw [subscribeBody, isSome_concatParts]
    simp only [List.forall_mem_cons, Option.isSome_some,
      List.forall_mem_map, true_and, subscribeEntry,
      Option.isSome_map, isSome_writeUtf8String,
      readable_object]

theorem serializeUnsubscribe_framed
    (dup : UInt8)
    (id : UInt16)
    (topics : List (Option CString × UInt16)) :
    Framed (initHeader .unsubscribe .qos1 dup 0)
      (unsubscribeBody id topics) (unsubscribeLength topics)
      (∀ t ∈ topics, Readable t.1 t.2)
      (fun txBufLen =>
        serializeUnsubscribe txBufLen dup id topics) := by
  have hEntry :
      (fun t : Option CString × UInt16 =>
        (t.2.toUInt32 + 2).toNat) =
          fun t => t.2.toNat + 2 := by
    funext t
    have hLt := t.2.toNat_lt
    simp only [UInt32.toNat_add, UInt16.toNat_toUInt32,
      UInt32.reduceToNat]
    omega
  have hParts :
      List.Forall₂ PartLength
        (topics.map (fun t =>
          writeUtf8String (t.1.map CString.object) t.2))
        (topics.map (fun t => t.2.toNat + 2)) := by
    rw [List.forall₂_map_left_iff,
      List.forall₂_map_right_iff, List.forall₂_same]
    intro t _
    exact partLength_writeUtf8String _ t.2
  refine ⟨⟨_, ?_, fun _ => rfl⟩, ?_, ?_⟩
  · rw [toNat_foldl_add, hEntry]
    rfl
  · exact
      length_concatParts
        (.cons (partLength_some (writeUint16 id)) hParts)
  · rw [unsubscribeBody, isSome_concatParts]
    simp only [List.forall_mem_cons, Option.isSome_some,
      List.forall_mem_map, true_and,
      isSome_writeUtf8String, readable_object]

/- The remaining length of a CONNECT. -/
theorem getConnectPacketLength_eq
    (p : ConnectParams) :
    (getConnectPacketLength p).toNat = connectLength p ∧
      connectLength p < 2 ^ 20 := by
  have hLt1 := p.clientIDLen.toNat_lt
  have hLt2 := p.will.topicNameLen.toNat_lt
  have hLt3 := p.will.msgLen.toNat_lt
  have hLt4 := p.usernameLen.toNat_lt
  have hLt5 := p.passwordLen.toNat_lt
  unfold getConnectPacketLength connectLength
  cases p.isWillMsgPresent <;> cases p.pUsername.isSome <;>
    cases p.pPassword.isSome <;>
    simp [UInt32.toNat_add] <;> omega

/- An optional string is written only when it is there. -/
theorem isSome_optionalParts
    (source : Option Bytes)
    (len : UInt16) :
    ∀ part ∈ optionalParts source len,
      part.isSome = true := by
  intro part hPart
  unfold optionalParts at hPart
  split_ifs at hPart with hSome
  · rw [List.mem_singleton.mp hPart, isSome_writeUtf8String]
    exact .inr hSome
  · cases hPart

theorem isSome_willParts
    (p : ConnectParams) :
    (∀ part ∈ willParts p, part.isSome = true) ↔
      ConnectReadable p := by
  unfold willParts ConnectReadable
  split_ifs with hWill
  · simp only [List.forall_mem_cons, isSome_writeUtf8String,
      List.not_mem_nil, false_implies, implies_true,
      and_true, hWill, true_implies]
  · simp [hWill]

theorem isSome_clientIDPart
    (p : ConnectParams) :
    (clientIDPart p).isSome = true := by
  unfold clientIDPart
  split_ifs with hNone
  · rfl
  · rw [isSome_writeUtf8String]
    right
    cases hClient : p.pClientID with
    | none => simp [hClient] at hNone
    | some clientID => rfl

/- The parts of a CONNECT can be copied. -/
theorem isSome_connectParts
    (p : ConnectParams) :
    (concatParts (connectParts p)).isSome = true ↔
      ConnectReadable p := by
  rw [isSome_concatParts, ← isSome_willParts]
  unfold connectParts
  simp only [List.forall_mem_append, List.forall_mem_cons,
    isSome_writeUtf8String, isSome_clientIDPart,
    Option.isSome_some, List.not_mem_nil, false_implies,
    implies_true, and_true]
  constructor
  · rintro ⟨⟨⟨_, hWill⟩, _⟩, _⟩
    exact hWill
  · intro hWill
    exact
      ⟨⟨⟨.inr rfl, hWill⟩, isSome_optionalParts _ _⟩,
        isSome_optionalParts _ _⟩

theorem clientID_accepted_iff
    (p : ConnectParams) :
    ((p.pClientID.isNone && p.clientIDLen ≠ 0) ||
        (p.pClientID.isSome && p.clientIDLen = 0)) = true ↔
      (p.pClientID.isSome = true ↔ p.clientIDLen = 0) := by
  cases p.pClientID <;> by_cases hLen : p.clientIDLen = 0 <;>
    simp [hLen]

/- What the encoder of a CONNECT checks before it writes. -/
theorem serializeConnect_rejected
    {txBufLen : Nat}
    {p : ConnectParams}
    (hRejected : ConnectRejected p) :
    ∃ rc, serializeConnect txBufLen p = some (.error rc) := by
  unfold serializeConnect
  by_cases hId :
      (p.pClientID.isSome = true ↔ p.clientIDLen = 0)
  · rw [if_pos ((clientID_accepted_iff p).mpr hId)]
    exact ⟨_, rfl⟩
  · have hVersion := hRejected.resolve_left hId
    rw [if_neg ((clientID_accepted_iff p).not.mpr hId),
      if_pos hVersion]
    exact ⟨_, rfl⟩

theorem serializeConnect_framed
    {p : ConnectParams}
    (hAccepted : ¬ ConnectRejected p) :
    Framed (initHeader .connect .qos0 0 0)
      (concatParts (connectParts p)) (connectLength p)
      (ConnectReadable p)
      (fun txBufLen => serializeConnect txBufLen p) := by
  rcases getConnectPacketLength_eq p with ⟨hRem, hSmall⟩
  unfold ConnectRejected at hAccepted
  rw [not_or] at hAccepted
  have hId :
      p.pClientID.isNone = true → p.clientIDLen = 0 := by
    intro hNone
    by_contra hLen
    apply hAccepted.1
    cases hClient : p.pClientID with
    | none => simp [hLen]
    | some clientID => simp [hClient] at hNone
  refine
    ⟨⟨getConnectPacketLength p, by omega, ?_⟩, ?_,
      isSome_connectParts p⟩
  · intro txBufLen
    unfold serializeConnect
    rw [if_neg
        ((clientID_accepted_iff p).not.mpr hAccepted.1),
      if_neg hAccepted.2]
    rfl
  · intro b hSome
    rw [← hRem]
    exact (length_connectParts hId b hSome).1.symm

theorem serializeConnect_respects_iff
    (txBufLen : Nat)
    (p : ConnectParams) :
    RespectsBuffer txBufLen reportedSize
        (serializeConnect txBufLen p) ↔
      ConnectRejected p ∨
        RefusedLength txBufLen (connectLength p) ∨
          ConnectReadable p := by
  by_cases hRejected : ConnectRejected p
  · rcases serializeConnect_rejected hRejected with
      ⟨rc, hError⟩
    rw [hError]
    exact iff_of_true trivial (.inl hRejected)
  have hSmall := (getConnectPacketLength_eq p).2
  have hReported :
      ∀ n, n < 2 ^ 32 → reportedSize n = n :=
    fun _ _ => rfl
  have hRespects :=
    (serializeConnect_framed hRejected).respects hReported
      (by omega) txBufLen
  simp only [hRespects, hRejected, false_or]

/- A packet that is shorter than the least buffer. -/
theorem respectsBuffer_short
    {txBufLen : Nat}
    {reported : Nat → Nat}
    {header : UInt8}
    {remLen : UInt32}
    {b : Bytes}
    (hReported : ∀ n, n < 2 ^ 32 → reported n = n)
    (hLength : b.length = remLen.toNat)
    (hDigit : remLen.toNat < 128)
    (hFits : remLen.toNat + 2 ≤ txBufLen) :
    RespectsBuffer txBufLen reported
      (some (.ok
        (header :: writeLenToBuffer remLen ++ b))) := by
  have hByte : lengthBytes remLen.toNat = 1 := by
    rw [lengthBytes_eq remLen.toNat_lt, if_pos hDigit]
  have hPacket :
      packetLength remLen.toNat = remLen.toNat + 2 := by
    unfold packetLength
    omega
  refine staysInBuffer_frame rfl hLength ?_ (by omega)
  rw [length_frame hLength, ← packetLength]
  exact hReported _ (by omega)

theorem serializeAckOf_respects
    (txBufLen : Nat)
    (msgType : Option MessageType)
    (dup : UInt8)
    (id : UInt16) :
    RespectsBuffer txBufLen reportedUint32
      (serializeAckOf txBufLen msgType dup id) := by
  have hReported :
      ∀ n, n < 2 ^ 32 → reportedUint32 n = n :=
    fun n hn => Nat.mod_eq_of_lt hn
  cases msgType with
  | none =>
      unfold serializeAckOf
      split_ifs <;> trivial
  | some msgType =>
      unfold serializeAckOf serializeAck
      dsimp only
      by_cases hShort : 4 > txBufLen
      · rw [if_pos hShort]
        trivial
      · rw [if_neg hShort]
        exact
          respectsBuffer_short hReported rfl (by decide)
            (Nat.not_lt.mp hShort)

theorem serializeZeroOf_respects
    (txBufLen : Nat)
    (packetType : Option MessageType) :
    RespectsBuffer txBufLen reportedUint32
      (serializeZeroOf txBufLen packetType) := by
  have hReported :
      ∀ n, n < 2 ^ 32 → reportedUint32 n = n :=
    fun n hn => Nat.mod_eq_of_lt hn
  cases packetType with
  | none =>
      unfold serializeZeroOf
      split_ifs <;> trivial
  | some packetType =>
      unfold serializeZeroOf serializeZero
      dsimp only
      by_cases hShort : 4 > txBufLen
      · rw [if_pos hShort]
        trivial
      · rw [if_neg hShort, ← List.append_nil (_ :: _)]
        exact
          respectsBuffer_short hReported rfl (by decide)
            (by simp only [UInt32.reduceToNat]; omega)

/-
  When the encoders keep to the transmit buffer: the packet
  is refused, or its parts can be copied and its length is
  counted right.  A bare packet and an acknowledgement always
  do, and a CONNECT is never long enough to be miscounted.
-/
theorem encoders_respect_iff
    (txBufLen : Nat) :
    (∀ dup qos retained id topic topicLen payload,
      RespectsBuffer txBufLen reportedUint32
          (serializePublish txBufLen dup qos retained id
            topic topicLen payload) ↔
        PublishSafe txBufLen qos topic topicLen payload) ∧
    (∀ dup id topics,
      RespectsBuffer txBufLen reportedUint32
          (serializeSubscribe txBufLen dup id topics) ↔
        FrameSafe txBufLen (subscribeLength topics)
          (∀ t ∈ topics, Readable t.1 t.2.1)) ∧
    (∀ dup id topics,
      RespectsBuffer txBufLen reportedUint32
          (serializeUnsubscribe txBufLen dup id topics) ↔
        FrameSafe txBufLen (unsubscribeLength topics)
          (∀ t ∈ topics, Readable t.1 t.2)) ∧
    (∀ p,
      RespectsBuffer txBufLen reportedSize
          (serializeConnect txBufLen p) ↔
        ConnectRejected p ∨
          RefusedLength txBufLen (connectLength p) ∨
            ConnectReadable p) ∧
    (∀ msgType dup id,
      RespectsBuffer txBufLen reportedUint32
        (serializeAckOf txBufLen msgType dup id)) ∧
    ∀ packetType,
      RespectsBuffer txBufLen reportedUint32
        (serializeZeroOf txBufLen packetType) :=
  ⟨serializePublish_respects_iff txBufLen,
    fun dup id topics =>
      (serializeSubscribe_framed dup id topics).respects_iff
        txBufLen,
    fun dup id topics =>
      (serializeUnsubscribe_framed dup id topics).respects_iff
        txBufLen,
    serializeConnect_respects_iff txBufLen,
    serializeAckOf_respects txBufLen,
    serializeZeroOf_respects txBufLen⟩

/-
  A packet that needs a fifth length byte and a buffer with
  no room for it.
-/
theorem publish_one_short
    {payload : Bytes}
    (hLength : payload.length = 268435453)
    (topic : CString) :
    ¬ RespectsBuffer 268435461 reportedUint32
      (serializePublish 268435461 0 .qos0 0 1 (some topic) 1
        (some payload)) := by
  have hTotal : publishLength .qos0 1 payload = 2 ^ 28 := by
    unfold publishLength
    rw [hLength]
    rfl
  rw [serializePublish_respects_iff]
  change
    ¬ FrameSafe 268435461 (publishLength .qos0 1 payload) _
  have hEstimate : lengthEstimate (2 ^ 28) = 268435461 := by
    decide +kernel
  rw [hTotal]
  unfold FrameSafe RefusedLength
  rw [hEstimate]
  omega

/-
  A payload of 2^28 - 3 bytes and a buffer that is one byte
  too short for its PUBLISH: the packet is written past the
  end and reported with its length.
-/
theorem publish_past_end :
    ¬ RespectsBuffer 268435461 reportedUint32
      (serializePublish 268435461 0 .qos0 0 1
        (some ⟨[97], by decide⟩) 1
        (some (List.replicate 268435453 0))) :=
  publish_one_short List.length_replicate _

end Mqtt

end TrustOnboard
