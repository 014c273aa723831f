import TrustOnboard.Mqtt.ConnectPacket
import TrustOnboard.Mqtt.EncoderBounds

/-
  The layouts of the MQTT 3.1.1 packets a client sends, as
  decoders of their fields.

  Each decoder takes a packet apart from the front and must
  consume all of it.  None of them compares two fields with
  each other, and none knows the encoders.

  Key definitions include:
    * `FixedHeader`
    * `decodeFrame`
    * `takeAll`
    * `decodePublish`
    * `decodeSubscribe`
    * `decodeUnsubscribe`
    * `decodeAck`
    * `decodeBare`
    * `decodeConnectFields`

  Key results include:
    * `decodeFrame_framed`
    * `takeAll_written`
-/

------------------------------------------------------------
-- The Fixed Header
------------------------------------------------------------

namespace TrustOnboard

namespace Mqtt

/- The first byte of a packet. -/
structure FixedHeader where
  type : UInt8
  isDup : Bool
  qos : QoS
  isRetained : Bool
  deriving DecidableEq

def FixedHeader.ofByte (byte : UInt8) : FixedHeader where
  type := headerType byte
  isDup := headerDup byte
  qos := headerQos byte
  isRetained := headerRetain byte

/-
  The first byte and the body of a packet whose remaining
  length is the length of its body.
-/
def decodeFrame : Bytes → Option (FixedHeader × Bytes)
  | [] => none
  | header :: bs => do
      let (remLen, body) ←
        takeLength maxNoOfRemainingLengthBytes bs
      if remLen = body.length then
        some (FixedHeader.ofByte header, body)
      else
        none

/- A frame with a short body is taken apart into its parts. -/
theorem decodeFrame_written
    {header : UInt8}
    {remLen : UInt32}
    {body : Bytes}
    (hLength : body.length = remLen.toNat)
    (hShort : body.length < lengthLimit) :
    decodeFrame
        (header :: writeLenToBuffer remLen ++ body) =
      some (FixedHeader.ofByte header, body) := by
  have hField :=
    takeLength_field (writeLenToBuffer_base128 remLen) body
      (length_writeLenToBuffer_le remLen
        (hLength ▸ hShort))
  rw [List.cons_append, decodeFrame, hField]
  simp [hLength]

/- What an encoder has written is taken apart likewise. -/
theorem decodeFrame_framed
    {header : UInt8}
    {body : Option Bytes}
    {total txBufLen : Nat}
    {readable : Prop}
    {encode : Nat → Serialized}
    (hFramed : Framed header body total readable encode)
    (hShort : total < lengthLimit)
    {packet : Bytes}
    (hEnc : encode txBufLen = some (.ok packet)) :
    ∃ b,
      body = some b ∧ b.length = total ∧
        packet =
          header :: writeLenToBuffer (UInt32.ofNat total) ++
            b ∧
          decodeFrame packet =
            some (FixedHeader.ofByte header, b) := by
  rcases hFramed.frame with ⟨remLen, hRem, hFrame⟩
  rw [hFrame] at hEnc
  rcases serializeFrame_ok hEnc with ⟨b, hBody, rfl⟩
  have hLength := hFramed.length b hBody
  have hLimit : lengthLimit < 2 ^ 32 := by decide
  have hTotal : remLen.toNat = total := by omega
  refine ⟨b, hBody, hLength, ?_, ?_⟩
  · rw [← hTotal, UInt32.ofNat_toNat]
  · exact decodeFrame_written (by omega) (by omega)

end Mqtt

end TrustOnboard

------------------------------------------------------------
-- Lists Of Fields
------------------------------------------------------------

namespace TrustOnboard

namespace Mqtt

variable {α : Type}

/- As many entries as there are, `n` at most. -/
def takeAll
    (take : Bytes → Option (α × Bytes)) :
    Nat → Bytes → Option (List α)
  | _, [] => some []
  | 0, _ :: _ => none
  | n + 1, byte :: bs => do
      let (entry, rest) ← take (byte :: bs)
      let entries ← takeAll take n rest
      some (entry :: entries)

/- Entries written one after another are all taken. -/
theorem takeAll_written
    {take : Bytes → Option (α × Bytes)}
    {write : α → Bytes}
    (hNonempty : ∀ entry, write entry ≠ [])
    {entries : List α}
    (hTake :
      ∀ entry ∈ entries, ∀ rest,
        take (write entry ++ rest) = some (entry, rest))
    {n : Nat}
    (hCount : entries.length ≤ n) :
    takeAll take n (entries.map write).flatten =
      some entries := by
  induction entries generalizing n with
  | nil => cases n <;> rfl
  | cons entry entries ih =>
      cases n with
      | zero => simp at hCount
      | succ n =>
          have hRest :
              takeAll take n (entries.map write).flatten =
                some entries := by
            apply ih
            · intro e he
              exact hTake e (List.mem_cons_of_mem entry he)
            · simp only [List.length_cons] at hCount
              omega
          have hFirst :=
            hTake entry (by simp)
              (entries.map write).flatten
          rw [List.map_cons, List.flatten_cons]
          cases hWrite : write entry with
          | nil => exact absurd hWrite (hNonempty entry)
          | cons byte bs =>
              rw [hWrite] at hFirst
              rw [List.cons_append] at hFirst ⊢
              rw [takeAll, hFirst]
              simp [hRest]

end Mqtt

end TrustOnboard

------------------------------------------------------------
-- The Packets
------------------------------------------------------------

namespace TrustOnboard

namespace Mqtt

/- What a PUBLISH says. -/
structure PublishContents where
  isDup : Bool
  qos : QoS
  isRetained : Bool
  topic : Bytes
  id : Option UInt16
  payload : Bytes
  deriving DecidableEq

/- The identifier is there for a quality other than zero. -/
def takeId
    (qos : QoS)
    (bs : Bytes) : Option (Option UInt16 × Bytes) :=
  if qos = .qos0 then
    some (none, bs)
  else
    (takeUint16 bs).map (fun r => (some r.1, r.2))

def decodePublish (bs : Bytes) : Option PublishContents := do
  let (header, body) ← decodeFrame bs
  if header.type = 3 then do
    let (topic, rest) ← takeString body
    let (id, payload) ← takeId header.qos rest
    some
      { isDup := header.isDup
        qos := header.qos
        isRetained := header.isRetained
        topic := topic
        id := id
        payload := payload }
  else
    none

/- A filter and the quality of service asked for. -/
def takeSubscription
    (bs : Bytes) : Option ((Bytes × QoS) × Bytes) := do
  let (filter, rest) ← takeString bs
  match rest with
  | [] => none
  | qos :: rest =>
      if qos < 4 then
        some ((filter, QoS.ofBits qos), rest)
      else
        none

/- The first byte, the identifier and the subscriptions. -/
def decodeSubscribe
    (bs : Bytes) :
    Option (FixedHeader × UInt16 × List (Bytes × QoS)) := do
  let (header, body) ← decodeFrame bs
  if header.type = 8 then do
    let (id, rest) ← takeUint16 body
    let filters ← takeAll takeSubscription rest.length rest
    some (header, id, filters)
  else
    none

/- The first byte, the identifier and the filters. -/
def decodeUnsubscribe
    (bs : Bytes) :
    Option (FixedHeader × UInt16 × List Bytes) := do
  let (header, body) ← decodeFrame bs
  if header.type = 10 then do
    let (id, rest) ← takeUint16 body
    let filters ← takeAll takeString rest.length rest
    some (header, id, filters)
  else
    none

/- The first byte and the identifier of an acknowledgement. -/
def decodeAck (bs : Bytes) : Option (FixedHeader × UInt16) := do
  let (header, body) ← decodeFrame bs
  let (id, rest) ← takeUint16 body
  if rest = [] then
    some (header, id)
  else
    none

/- The first byte of a packet that has no body. -/
def decodeBare (bs : Bytes) : Option FixedHeader := do
  let (header, body) ← decodeFrame bs
  if body = [] then
    some header
  else
    none

/-
  The fields of a CONNECT: name and level of the protocol,
  flags whose reserved bit is zero, the interval, and the
  payload the flags announce.
-/
def decodeConnectFields
    (bs : Bytes) :
    Option (FixedHeader × ConnectContents) := do
  let (header, body) ← decodeFrame bs
  if header.type = 1 then do
    let (name, rest) ← takeString body
    match rest with
    | level :: flags :: rest =>
        if name = protocolName ∧ level = 4 ∧ flags % 2 = 0
        then do
          let (keepAlive, rest) ← takeUint16 rest
          let contents ←
            decodeConnectPayload (ConnectFlags.ofByte flags)
              keepAlive rest
          some (header, contents)
        else
          none
    | _ => none
  else
    none

end Mqtt

end TrustOnboard
