import TrustOnboard.Mqtt.EncoderBounds
import TrustOnboard.Mqtt.Handshake

/-
  The limit on the length of a request.

  The encoder of a request compares an estimate with the
  length of the transmit buffer, and `send_packet` the length
  of the packet.  The second comparison is the one that
  counts, and it refuses a packet that fills the buffer.

  Key definitions include:
    * `Outgoing`
    * `outgoing`
    * `Healthy`

  Key results include:
    * `sized_steady`
    * `waitForRead_notShort`
    * `serializeFrame_decides`
    * `sizeLimit_iff`
-/

------------------------------------------------------------
-- The Length Of The Transmit Buffer
------------------------------------------------------------

namespace TrustOnboard

namespace Mqtt

variable {E : Type}
variable {port : Port E}
variable {size : Nat}

/- The transmit buffer has `size` bytes. -/
def Sized (size : Nat) (w : Run E) : Prop :=
  w.st.client.writeBufSize = size

theorem sized_aside :
    KeptAside (Contract.plain (Sys E) Event)
      (Sized size) where
  halt := fun _ _ => trivial
  aside := fun _ _ _ _ hAside hSized =>
    hAside.writeBufSize.trans hSized

theorem sized_send
    (fuel n : Nat)
    (timer : TimerName) :
    Keeps (Contract.plain (Sys E) Event) (Sized size)
      (sendPacket port fuel n timer) := by
  refine
    sendPacket_steps (Q := fun _ => Sized size)
      (fun _ _ => trivial) ?_ (fun _ h => h)
      (fun _ _ _ h => h) fuel
  rintro s s' es l ⟨⟨locked, hClient⟩, _⟩ hSized
  unfold Sized at hSized ⊢
  dsimp only at hSized ⊢
  rw [hClient]
  exact hSized

theorem sized_ack
    (fuel : Nat)
    (timer : TimerName)
    (id : UInt16) :
    Keeps (Contract.plain (Sys E) Event) (Sized size)
      (sendSerialized port fuel timer (fun c =>
        serializeAck c.writeBufSize .puback 0 id)) := by
  refine (sized_aside.states.serialize_ready _).bind ?_
  intro encoded
  cases encoded with
  | error rc => exact Triple.pure (fun _ h => h.2)
  | ok n => exact (sized_send fuel n timer).pre (fun _ h => h.2)

theorem sized_receives
    (s s' : Sys E)
    (es l : List Event)
    (hReceives : Receives s s' es)
    (hSized : Sized size ⟨s, l⟩) :
    Sized size ⟨s', es ++ l⟩ := by
  rcases hReceives with ⟨⟨readBuf, hClient⟩, _⟩
  unfold Sized at hSized ⊢
  dsimp only at hSized ⊢
  rw [hClient]
  exact hSized

/- No call changes the length of the transmit buffer. -/
theorem sized_steady :
    Steady port (Contract.plain (Sys E) Event)
      (Sized size) := by
  refine sized_aside.steady ?_ ?_ ?_
  · intro r _ fuel n
    exact (sized_send fuel n .command).pre (fun _ h => h.2)
  · intro call hCall fuel timer
    refine
      sized_aside.cycleRead sized_receives ?_
        (sized_ack fuel timer)
    intro handler data msg
    exact
      (sized_aside.states.platform
        (port.onMessage handler data msg)).seq
        (sized_aside.states.eachCall hCall)
  · intro s l waiting c hSized
    exact Or.inr ⟨hSized, fun _ _ _ _ _ _ h => h⟩

end Mqtt

end TrustOnboard

------------------------------------------------------------
-- Codes Of A Wait
------------------------------------------------------------

namespace TrustOnboard

namespace Mqtt

variable {E : Type}
variable {port : Port E}
variable {size : Nat}
variable {callback : Callback E}

/- The code is not that of a transmit buffer too short. -/
abbrev NotShort (rc : IoTError) : Prop :=
  rc ≠ .mqttTxBufferTooShortError

theorem lockMutex_notShort
    (m : Mutex) :
    Triple (Contract.plain (Sys E) Event) (fun _ => True)
      (lockMutex port m) (fun rc _ => NotShort rc) := by
  unfold lockMutex
  refine Triple.ite (fun _ => ?_)
    (fun _ => Triple.pure (fun _ _ => by decide))
  refine Triple.anything.bind (P := fun _ => True)
    (M := fun _ _ => True) ?_
  intro c
  refine Triple.ite (fun _ => ?_) (fun _ => ?_)
  · refine Triple.anything.bind ?_
    intro _
    exact Triple.pure (fun _ _ => by decide)
  · refine Triple.step ?_
    intro w _
    right
    dsimp only
    split
    · exact (by decide : NotShort .success)
    · exact (by decide : NotShort .mutexLockError)

theorem unlockMutex_notShort
    (m : Mutex) :
    Triple (Contract.plain (Sys E) Event) (fun _ => True)
      (unlockMutex port m) (fun rc _ => NotShort rc) := by
  unfold unlockMutex
  refine Triple.ite (fun _ => ?_)
    (fun _ => Triple.pure (fun _ _ => by decide))
  refine Triple.anything.bind (P := fun _ => True)
    (M := fun _ _ => True) ?_
  intro _
  exact Triple.pure (fun _ _ => by decide)

theorem setClientState_notShort
    (expected new : ClientState) :
    Triple (Contract.plain (Sys E) Event) (fun _ => True)
      (setClientState port expected new)
      (fun rc _ => NotShort rc) := by
  refine (lockMutex_notShort .stateChange).bind ?_
  intro rc
  refine Triple.ite (fun _ => ?_) (fun _ => ?_)
  · refine Triple.bind (M := fun _ _ => NotShort rc)
      (Triple.emit (fun _ h => Or.inr h)) ?_
    exact fun _ => Triple.pure (fun _ h => h)
  refine Triple.bind (M := fun rc _ => NotShort rc)
    (Triple.step ?_) ?_
  · intro w _
    right
    dsimp only
    split
    · exact (by decide : NotShort .success)
    · exact
        (by decide :
          NotShort .mqttUnexpectedClientStateError)
  intro rc
  refine Triple.of_fact (φ := NotShort rc) ?_ |>.pre
    (P := fun _ => NotShort rc) (fun _ h => ⟨h, trivial⟩)
  intro hRc
  refine (unlockMutex_notShort .stateChange).bind ?_
  intro threadRc
  exact
    Triple.ite (fun _ => Triple.pure (fun _ h => h))
      (fun _ => Triple.pure (fun _ _ => hRc))

theorem decodePacketRemainingLen_notShort
    (fuel : Nat) :
    Triple (Contract.plain (Sys E) Event) (fun _ => True)
      (decodePacketRemainingLen port fuel)
      (fun r _ => ∀ rc, r = .error rc → NotShort rc) := by
  refine Triple.loop (fun _ _ => True) (fun _ _ _ => trivial) ?_
  intro v
  refine Triple.ite (fun _ => ?_) (fun _ => ?_)
  · apply Triple.pure
    rintro _ _ rc ⟨⟩
    decide
  refine Triple.anything.bind (M := fun _ _ => True) ?_
  intro r
  cases r with
  | success bs h =>
      refine
        Triple.ite (fun _ => Triple.pure (fun _ h => h))
          (fun _ => Triple.pure ?_)
      rintro _ _ rc ⟨⟩
  | nothingToRead h =>
      apply Triple.pure
      rintro _ _ rc ⟨⟩
      exact (by decide : NotShort .networkSslNothingToRead)
  | readTimeout bs hPos h =>
      apply Triple.pure
      rintro _ _ rc ⟨⟩
      exact
        (by decide : NotShort .networkSslReadTimeoutError)
  | readError bs h =>
      apply Triple.pure
      rintro _ _ rc ⟨⟩
      exact (by decide : NotShort .networkSslReadError)

theorem readPacket_notShort
    (fuel : Nat) :
    Triple (Contract.plain (Sys E) Event) (fun _ => True)
      (readPacket port fuel) (fun r _ => NotShort r.1) := by
  refine Triple.anything.bind (P := fun _ => True)
    (M := fun _ _ => True) ?_
  intro c
  refine Triple.anything.bind (M := fun _ _ => True) ?_
  intro _
  refine Triple.anything.bind (M := fun _ _ => True) ?_
  intro r
  cases r with
  | nothingToRead h => exact Triple.pure (fun _ _ => by decide)
  | readTimeout bs hPos h =>
      apply Triple.pure
      intro _ _
      exact
        (by decide : NotShort .networkSslReadTimeoutError)
  | readError bs h =>
      apply Triple.pure
      intro _ _
      exact (by decide : NotShort .networkSslReadError)
  | success bs h =>
      refine (decodePacketRemainingLen_notShort fuel).bind ?_
      intro decoded
      cases decoded with
      | error rc => exact Triple.pure (fun _ h => h rc rfl)
      | ok remLen =>
          refine Triple.anything.bind (M := fun _ _ => True) ?_
          intro c
          refine Triple.ite (fun _ => ?_) (fun _ => ?_)
          · refine
              Triple.anything.bind (M := fun _ _ => True) ?_
            intro _
            exact Triple.pure (fun _ _ => by decide)
          refine Triple.anything.bind (M := fun _ _ => True) ?_
          intro _
          refine Triple.anything.bind (M := fun _ _ => True) ?_
          intro complete
          cases complete with
          | false => exact Triple.pure (fun _ _ => by decide)
          | true =>
              refine
                Triple.anything.bind (M := fun _ _ => True) ?_
              intro c
              refine
                Triple.anything.bind (M := fun _ _ => True) ?_
              intro _
              apply Triple.pure
              intro _ _
              exact (by decide : NotShort .success)

/-
  `send_packet` fails for a buffer too short exactly when the
  packet would fill it.
-/
theorem sendPacket_short_iff
    (fuel n : Nat)
    (timer : TimerName) :
    Triple (Contract.plain (Sys E) Event) (Sized size)
      (sendPacket port fuel n timer)
      (fun rc _ =>
        rc = .mqttTxBufferTooShortError ↔ size ≤ n) := by
  refine Triple.bind
    (M := fun (c : Client) _ =>
      c.writeBufSize = size ∧ True)
    (Triple.read (fun _ h => ⟨h, trivial⟩)) ?_
  intro c
  refine Triple.of_fact ?_
  rintro rfl
  refine Triple.ite (fun hFull => ?_) (fun hFits => ?_)
  · exact Triple.pure (fun _ _ => iff_of_true rfl hFull)
  suffices hCode :
      Triple (Contract.plain (Sys E) Event) (fun _ => True)
        (do
          let rc ← lockMutex port .tlsWrite
          if rc ≠ .success then
            pure rc
          else do
            let sent ← sendRounds port fuel n timer
            let rc ← unlockMutex port .tlsWrite
            if rc ≠ .success then
              pure rc
            else if sent = n then do
              Prog.emit (fun s =>
                .txPacket (s.client.writeBuf.load 0 n))
              pure .success
            else
              pure .failure)
        (fun rc _ => NotShort rc) from
    hCode.post (fun _ _ hRc => iff_of_false hRc hFits)
  refine (lockMutex_notShort .tlsWrite).bind ?_
  intro rc
  refine
    Triple.ite (fun _ => Triple.pure (fun _ h => h)) ?_
  intro _
  refine Triple.anything.bind (M := fun _ _ => True) ?_
  intro sent
  refine (unlockMutex_notShort .tlsWrite).bind ?_
  intro rc
  refine
    Triple.ite (fun _ => Triple.pure (fun _ h => h)) ?_
  intro _
  refine Triple.ite (fun _ => ?_) (fun _ => ?_)
  · refine Triple.anything.bind (M := fun _ _ => True) ?_
    intro _
    exact Triple.pure (fun _ _ => by decide)
  · exact Triple.pure (fun _ _ => by decide)

/- A PUBACK fits a buffer of more than four bytes. -/
theorem sendPuback_notShort
    (hRoom : 4 < size)
    (fuel : Nat)
    (timer : TimerName)
    (id : UInt16) :
    Triple (Contract.plain (Sys E) Event) (Sized size)
      (sendSerialized port fuel timer (fun c =>
        serializeAck c.writeBufSize .puback 0 id))
      (fun rc _ => NotShort rc) := by
  refine Triple.bind
    (M := fun r w => r = .ok 4 ∧ Sized size w) ?_ ?_
  · intro w hSized
    right
    have hEnc :
        serializeAck w.st.client.writeBufSize .puback 0 id =
          some (.ok (pubackPacket id)) := by
      unfold serializeAck
      rw [if_neg (by unfold Sized at hSized; omega)]
      rfl
    rw [serialize_run hEnc]
    exact ⟨rfl, hSized⟩
  intro r
  refine Triple.of_fact ?_
  rintro rfl
  refine (sendPacket_short_iff fuel 4 timer).post ?_
  intro rc w hIff hShort
  have hLe := hIff.mp hShort
  omega

theorem deserializePublish_notShort
    {buf : Buffer}
    {rxBufLen : Nat}
    {rc : IoTError}
    (hError : deserializePublish buf rxBufLen = .error rc) :
    NotShort rc := by
  unfold deserializePublish at hError
  split at hError
  · cases hError
    decide
  split at hError
  · cases hError
    decide
  cases hDecode : decodeRemainingLengthFromBuffer buf 1 with
  | error rc' =>
      rw [hDecode] at hError
      cases hError
      rw [decodeLenRounds_error hDecode]
      decide
  | ok decoded =>
      rw [hDecode] at hError
      dsimp only at hError
      split at hError
      · cases hError
        decide
      · cases hError

/- Packets that are dispatched are no obstacle. -/
theorem dispatchPacket_notShort
    (hRoom : 4 < size)
    (hCb :
      ∀ handler data msg,
        Keeps (Contract.plain (Sys E) Event) (Sized size)
          (callback handler data msg))
    (fuel : Nat)
    (timer : TimerName)
    (type : UInt8) :
    Triple (Contract.plain (Sys E) Event) (Sized size)
      (dispatchPacket port fuel callback timer type)
      (fun rc _ => NotShort rc) := by
  have hSuccess :
      Triple (Contract.plain (Sys E) Event) (Sized size)
        (pure .success : Code E IoTError)
        (fun rc _ => NotShort rc) :=
    Triple.pure (fun _ _ => by decide)
  have hDeliver :
      ∀ msg, Triple (Contract.plain (Sys E) Event)
        (Sized size) (deliverMessage port callback msg)
        (fun rc w => NotShort rc ∧ Sized size w) := by
    intro msg
    have hCode :
        Triple (Contract.plain (Sys E) Event)
          (fun _ => True) (deliverMessage port callback msg)
          (fun rc _ => NotShort rc) := by
      refine Triple.anything.bind (P := fun _ => True)
        (M := fun _ _ => True) ?_
      intro clientState
      refine Triple.anything.bind (M := fun _ _ => True) ?_
      intro _
      refine Triple.anything.bind (M := fun _ _ => True) ?_
      intro c
      refine Triple.anything.bind (M := fun _ _ => True) ?_
      intro _
      exact setClientState_notShort _ _
    refine
      (hCode.and_plain
        (sized_aside.states.deliverMessage trivial hCb
          msg)).pre
          (fun _ h => ⟨trivial, h⟩)
  have hPublish :
      Triple (Contract.plain (Sys E) Event) (Sized size)
        (handlePublish port fuel callback timer)
        (fun rc _ => NotShort rc) := by
    refine Triple.bind (M := fun _ => Sized size)
      (Triple.read (fun _ h => h)) ?_
    intro c
    cases hMsg :
        deserializePublish c.readBuf c.readBufSize with
    | error rc =>
        exact
          Triple.pure
            (fun _ _ => deserializePublish_notShort hMsg)
    | ok msg =>
        refine Triple.seq (Triple.modify (fun _ h => h)) ?_
        intro _
        refine (hDeliver msg).bind ?_
        intro rc
        refine Triple.seq (Triple.read (fun _ h => h)) ?_
        intro c'
        refine Triple.seq (Triple.modify (fun _ h => h)) ?_
        intro _
        refine
          Triple.ite (fun _ => Triple.pure (fun _ h => h.1)) ?_
        intro _
        cases (c'.sees msg).params.ackId with
        | none => exact Triple.pure (fun _ _ => by decide)
        | some id =>
            exact
              (sendPuback_notShort hRoom fuel timer id).pre
                (fun _ h => h.2)
  unfold dispatchPacket
  split
  case h_5 => exact hPublish
  case h_8 =>
    refine Triple.anything.bind (M := fun _ _ => True) ?_
    intro _
    refine Triple.anything.bind (M := fun _ _ => True) ?_
    intro c
    refine Triple.anything.bind (M := fun _ _ => True) ?_
    intro _
    exact Triple.pure (fun _ _ => by decide)
  case h_9 => exact Triple.pure (fun _ _ => by decide)
  all_goals exact hSuccess

theorem cycleRead_notShort
    (hRoom : 4 < size)
    (hCb :
      ∀ handler data msg,
        Keeps (Contract.plain (Sys E) Event) (Sized size)
          (callback handler data msg))
    (fuel : Nat)
    (timer : TimerName) :
    Triple (Contract.plain (Sys E) Event) (Sized size)
      (cycleRead port fuel callback timer)
      (fun r _ => NotShort r.1) := by
  refine
    ((sized_aside.states.lockMutex .tlsRead).and_plain
      (lockMutex_notShort .tlsRead)).pre
        (fun _ h => ⟨h, trivial⟩) |>.bind ?_
  intro threadRc
  refine
    Triple.ite (fun _ => Triple.pure (fun _ h => h.2)) ?_
  intro _
  refine
    (((readPacket_receives fuel).triple (fun _ _ => trivial)
      sized_receives).and_plain
        (readPacket_notShort fuel)).pre
          (fun _ h => ⟨h.1, trivial⟩) |>.bind ?_
  rintro ⟨rc, packetType⟩
  refine Triple.bind
    (M := fun threadRc w =>
      (Sized size w ∧ NotShort rc) ∧ NotShort threadRc) ?_ ?_
  · exact
      (((sized_aside.states.unlockMutex .tlsRead).and_plain
        (Triple.log_mono (I := fun _ => NotShort rc)
          (fun _ _ h => h))).and_plain
            (unlockMutex_notShort .tlsRead)).pre
              (fun _ h => ⟨h, trivial⟩)
  intro threadRc
  refine
    Triple.ite (fun _ => Triple.pure (fun _ h => h.2)) ?_
  intro _
  refine Triple.ite (fun _ => ?_) (fun _ => ?_)
  · apply Triple.pure
    intro _ _
    exact (by decide : NotShort .success)
  refine
    Triple.ite (fun _ => Triple.pure (fun _ h => h.1.2)) ?_
  intro _
  cases packetType with
  | none => exact Triple.pure (fun _ h => h.1.2)
  | some type =>
      refine
        ((dispatchPacket_notShort hRoom hCb fuel timer
          type).pre (fun _ h => h.1.1)).bind ?_
      intro rc
      exact Triple.pure (fun _ h => h)

/- A wait never fails for a buffer too short. -/
theorem waitForRead_notShort
    (hRoom : 4 < size)
    (hCb :
      ∀ handler data msg,
        Keeps (Contract.plain (Sys E) Event) (Sized size)
          (callback handler data msg))
    (fuel : Nat)
    (awaited : MessageType)
    (timer : TimerName) :
    Triple (Contract.plain (Sys E) Event) (Sized size)
      (waitForRead port fuel callback awaited timer)
      (fun rc _ => NotShort rc) := by
  refine Triple.loop (fun _ => Sized size)
    (fun _ _ _ => trivial) ?_
  intro seen
  refine Triple.bind (M := fun _ => Sized size)
    (Triple.step (fun _ h => Or.inr h)) ?_
  intro expired
  refine Triple.ite (fun _ => ?_) (fun _ => ?_)
  · apply Triple.pure
    intro _ _
    exact (by decide : NotShort .mqttRequestTimeoutError)
  refine
    ((cycleRead_notShort hRoom hCb fuel timer).and_plain
      (sized_aside.cycleRead sized_receives hCb
        (sized_ack fuel timer))).pre
          (fun _ h => ⟨h, h⟩) |>.bind ?_
  rintro ⟨rc, packetType⟩
  dsimp only
  refine
    Triple.ite (fun _ => Triple.pure (fun _ h => h.1)) ?_
  intro _
  exact
    Triple.ite (fun _ => Triple.pure (fun _ h => h.1))
      (fun _ => Triple.pure (fun _ h => h.2))

end Mqtt

end TrustOnboard

------------------------------------------------------------
-- Requests And Their Lengths
------------------------------------------------------------

namespace TrustOnboard

namespace Mqtt

/-
  The packet a call asks for: its remaining length, what its
  encoder copies from, how it reports the length, and what it
  does with a buffer of a given length and an identifier.
-/
structure Outgoing where
  total : Nat
  readable : Prop
  reported : Nat → Nat
  encode : Nat → UInt16 → Serialized

/- The options a connect uses. -/
def connectOptions
    (c : Client)
    (params : Option ConnectParams) : ConnectParams :=
  match params with
  | none => c.options
  | some params => storedParams params

/- The packet a call asks for, if it sends one by itself. -/
def outgoing
    (c : Client) : ApiCall → Option Outgoing
  | .publish topic topicLen (some params) =>
      params.payload.map (fun payload =>
        { total :=
            publishLength params.qos topicLen payload
          readable := Readable topic topicLen
          reported := reportedUint32
          encode := fun size id =>
            serializePublish size 0 params.qos
              params.isRetained id topic topicLen
              (some payload) })
  | .subscribe topic topicLen qos _ _ =>
      some
        { total := subscribeLength [(topic, topicLen, qos)]
          readable := Readable topic topicLen
          reported := reportedUint32
          encode := fun size id =>
            serializeSubscribe size 0 id
              [(topic, topicLen, qos)] }
  | .unsubscribe filter filterLen =>
      some
        { total := unsubscribeLength [(filter, filterLen)]
          readable := Readable filter filterLen
          reported := reportedUint32
          encode := fun size id =>
            serializeUnsubscribe size 0 id
              [(filter, filterLen)] }
  | .connect params =>
      some
        { total := connectLength (connectOptions c params)
          readable :=
            ConnectReadable (connectOptions c params)
          reported := reportedSize
          encode := fun size _ =>
            serializeConnect size (connectOptions c params) }
  | _ => none

/-
  The encoder keeps to its buffer, and the call fails for a
  buffer too short exactly when the packet is longer than it.
-/
def Outgoing.Exact
    (out : Outgoing)
    (size : Nat)
    (rc : IoTError) : Prop :=
  (∀ id,
      RespectsBuffer size out.reported
        (out.encode size id)) ∧
    (rc = .mqttTxBufferTooShortError ↔
      size < packetLength out.total)

/-
  The encoder counts the length right, and the packet does
  not fill the buffer to the last byte.
-/
def Outgoing.Clear (out : Outgoing) (size : Nat) : Prop :=
  FrameSafe size out.total out.readable ∧
    packetLength out.total ≠ size

/- What an encoder decides about a buffer. -/
def Decides (size total : Nat) : Serialized → Prop
  | none => True
  | some (.error rc) =>
      rc = .mqttTxBufferTooShortError ∧
        size ≤ packetLength total
  | some (.ok bs) => bs.length = packetLength total

/- The estimate is at most one byte too large. -/
theorem lengthEstimate_le
    (total : Nat) :
    lengthEstimate total ≤ packetLength total + 1 := by
  unfold packetLength lengthEstimate
  by_cases hShort : total < 2 ^ 28
  · have hCounted : (total + 1) % 2 ^ 32 = total + 1 := by
      omega
    rw [lengthBytes_eq (by omega), hCounted]
    dsimp only
    split_ifs <;> omega
  · have hBytes : lengthBytes (2 ^ 28) ≤ lengthBytes total :=
      Nat.succ_le_succ (Nat.log_mono_right (by omega))
    have hFive : lengthBytes (2 ^ 28) = 5 := by
      rw [lengthBytes_eq (by omega)]
      simp
    dsimp only
    split_ifs <;> omega

/- A frame that keeps to the buffer decides about it. -/
theorem Framed.decides
    {header : UInt8}
    {body : Option Bytes}
    {size total : Nat}
    {readable : Prop}
    {encode : Nat → Serialized}
    (hFramed : Framed header body total readable encode)
    (hSafe : FrameSafe size total readable) :
    Decides size total (encode size) := by
  rcases hFramed.frame with ⟨remLen, hRem, hEncode⟩
  rw [hEncode]
  by_cases hRefused : RefusedLength size total
  · rw [serializeFrame_refused hRem hRefused]
    refine ⟨rfl, ?_⟩
    have hEstimate := lengthEstimate_le total
    unfold RefusedLength at hRefused
    omega
  rw [serializeFrame_written hRem hRefused]
  cases hSome : body with
  | none => trivial
  | some b =>
      have hSmall : total < 2 ^ 32 := by
        rcases hSafe.resolve_left hRefused with
          ⟨_, hShort | hRoom⟩
        · omega
        · omega
      have hSame : remLen.toNat = total := by omega
      change
        (header :: writeLenToBuffer remLen ++ b).length =
          packetLength total
      rw [length_frame (hFramed.length b hSome), hSame]
      rfl

/- The packet of a call is a frame. -/
def Outgoing.WellFramed (out : Outgoing) : Prop :=
  (∀ id, ∃ header body,
      Framed header body out.total out.readable
        (fun size => out.encode size id)) ∧
    ((∀ n, out.reported n = reportedUint32 n) ∨
      (out.total < 2 ^ 28 ∧
        ∀ n, out.reported n = n))

/- When the encoder of a framed packet keeps to its buffer. -/
theorem Outgoing.WellFramed.respects_iff
    {out : Outgoing}
    (hFramed : out.WellFramed)
    (size : Nat) :
    (∀ id,
        RespectsBuffer size out.reported
          (out.encode size id)) ↔
      FrameSafe size out.total out.readable := by
  rcases hFramed with ⟨hEncode, hReported | ⟨hShort, hReported⟩⟩
  · have hSame : out.reported = reportedUint32 :=
      funext hReported
    rw [hSame]
    constructor
    · intro hAll
      rcases hEncode 0 with ⟨_, _, hFramed⟩
      exact (hFramed.respects_iff size).mp (hAll 0)
    · intro hSafe id
      rcases hEncode id with ⟨_, _, hFramed⟩
      exact (hFramed.respects_iff size).mpr hSafe
  · have hOne :
        ∀ id,
          RespectsBuffer size out.reported
              (out.encode size id) ↔
            RefusedLength size out.total ∨
              out.readable := by
      intro id
      rcases hEncode id with ⟨_, _, hFramed⟩
      exact
        hFramed.respects (fun n _ => hReported n) hShort size
    unfold FrameSafe
    simp only [hOne, forall_const, hShort, true_or, and_true]

end Mqtt

end TrustOnboard

------------------------------------------------------------
-- Sending A Request
------------------------------------------------------------

namespace TrustOnboard

namespace Mqtt

variable {E : Type}
variable {port : Port E}
variable {size total : Nat}
variable {callback : Callback E}
variable {P : Run E → Prop}

/- What an encoding has decided about the buffer. -/
def Measured (size total : Nat) : Except IoTError Nat → Prop
  | .error rc =>
      rc = .mqttTxBufferTooShortError ∧
        size ≤ packetLength total
  | .ok n => n = packetLength total

/- A call fails for a buffer that the packet fills. -/
abbrev ShortIff (size total : Nat) (rc : IoTError) : Prop :=
  rc = .mqttTxBufferTooShortError ↔
    size ≤ packetLength total

theorem serialize_measured
    {r : Client → Serialized}
    {Q : Client → Prop}
    (hDecides :
      ∀ c, Q c → Decides size total (r c))
    (hBuf : ∀ c buf, Q c → Q { c with writeBuf := buf }) :
    Triple (Contract.plain (Sys E) Event)
      (fun w => Q w.st.client) (serialize r : Code E _)
      (fun res w =>
        Measured size total res ∧ Q w.st.client) := by
  intro w hw
  have hHere := hDecides w.st.client hw
  right
  unfold serialize
  have hRead :
      (getClient : Code E Client).run w =
        (some w.st.client, w) := rfl
  rw [Prog.run_bind_of_run hRead]
  cases hEnc : r w.st.client with
  | none => trivial
  | some res =>
      rw [hEnc] at hHere
      cases res with
      | error rc => exact ⟨hHere, hw⟩
      | ok bs => exact ⟨hHere, hBuf _ _ hw⟩

theorem sendSerialized_shortIff
    {r : Client → Serialized}
    {Q : Client → Prop}
    (hDecides :
      ∀ c, Q c → Decides size total (r c))
    (hBuf : ∀ c buf, Q c → Q { c with writeBuf := buf })
    (hSized : ∀ c, Q c → c.writeBufSize = size)
    (fuel : Nat)
    (timer : TimerName) :
    Triple (Contract.plain (Sys E) Event)
      (fun w => Q w.st.client)
      (sendSerialized port fuel timer r)
      (fun rc w => ShortIff size total rc ∧ Sized size w) := by
  refine (serialize_measured hDecides hBuf).bind ?_
  intro encoded
  cases encoded with
  | error rc =>
      exact
        Triple.pure
          (fun _ h =>
            ⟨iff_of_true h.1.1 h.1.2, hSized _ h.2⟩)
  | ok n =>
      refine Triple.of_fact ?_
      rintro rfl
      exact
        ((sendPacket_short_iff fuel _ timer).and_plain
          (sized_send fuel _ timer)).pre
            (fun _ h => ⟨hSized _ h, hSized _ h⟩)

/- What follows a send does not fail for the buffer. -/
theorem shortIff_then
    {first rest : Code E IoTError}
    (hFirst :
      Triple (Contract.plain (Sys E) Event) P first
        (fun rc w => ShortIff size total rc ∧ Sized size w))
    (hRest :
      packetLength total < size →
        Triple (Contract.plain (Sys E) Event) (Sized size)
          rest (fun rc _ => NotShort rc)) :
    Triple (Contract.plain (Sys E) Event) P
      (do
        let rc ← first
        if rc ≠ .success then
          pure rc
        else
          rest)
      (fun rc _ => ShortIff size total rc) := by
  refine hFirst.bind ?_
  intro rc
  refine Triple.of_fact ?_
  intro hIff
  refine Triple.ite (fun _ => ?_) (fun hRc => ?_)
  · exact Triple.pure (fun _ _ => hIff)
  have hLess : ¬ size ≤ packetLength total := by
    intro hLe
    rw [hIff.mpr hLe] at hRc
    exact hRc (by decide)
  refine (hRest (by omega)).post ?_
  intro rc w hRc
  exact iff_of_false hRc hLess

/- A wait and what follows it. -/
theorem wait_then_notShort
    {rest : Client → Code E IoTError}
    (hRoom : 4 < size)
    (hCb :
      ∀ handler data msg,
        Keeps (Contract.plain (Sys E) Event) (Sized size)
          (callback handler data msg))
    (hRest :
      ∀ c, Triple (Contract.plain (Sys E) Event)
        (fun _ => True) (rest c) (fun rc _ => NotShort rc))
    (fuel : Nat)
    (awaited : MessageType) :
    Triple (Contract.plain (Sys E) Event) (Sized size)
      (do
        let rc ←
          waitForRead port fuel callback awaited .command
        if rc ≠ .success then
          pure rc
        else do
          let c ← getClient
          rest c)
      (fun rc _ => NotShort rc) := by
  refine
    (waitForRead_notShort hRoom hCb fuel awaited
      .command).bind ?_
  intro rc
  refine Triple.ite (fun _ => Triple.pure (fun _ h => h)) ?_
  intro _
  refine Triple.anything.bind (M := fun _ _ => True) ?_
  exact hRest

end Mqtt

end TrustOnboard

------------------------------------------------------------
-- Operations On Their Packets
------------------------------------------------------------

namespace TrustOnboard

namespace Mqtt

variable {E : Type}
variable {port : Port E}
variable {size total : Nat}
variable {callback : Callback E}

theorem deserializeAck_notShort
    {buf : Buffer}
    {rxBufLen : Nat}
    {rc : IoTError}
    (hError : deserializeAck buf rxBufLen = .error rc) :
    NotShort rc := by
  unfold deserializeAck at hError
  split at hError
  · cases hError
    decide
  cases hDecode : decodeRemainingLengthFromBuffer buf 1 with
  | error rc' =>
      rw [hDecode] at hError
      cases hError
      rw [decodeLenRounds_error hDecode]
      decide
  | ok decoded =>
      rw [hDecode] at hError
      dsimp only at hError
      split at hError
      · cases hError
        decide
      · cases hError

theorem deserializeUnsuback_notShort
    {buf : Buffer}
    {rxBufLen : Nat}
    {rc : IoTError}
    (hError : deserializeUnsuback buf rxBufLen = .error rc) :
    NotShort rc := by
  unfold deserializeUnsuback at hError
  cases hAck : deserializeAck buf rxBufLen with
  | error rc' =>
      rw [hAck] at hError
      cases hError
      exact deserializeAck_notShort hAck
  | ok ack =>
      rw [hAck] at hError
      dsimp only at hError
      split at hError
      · cases hError
        decide
      · cases hError

theorem deserializeSuback_notShort
    {buf : Buffer}
    {maxCount rxBufLen : Nat}
    {rc : IoTError}
    (hError :
      deserializeSuback buf maxCount rxBufLen =
        .error rc) :
    NotShort rc := by
  rcases deserializeSuback_error hError with rfl | rfl | rfl
  · decide
  · decide
  · decide

theorem connackCode_notShort
    (code : UInt8) :
    NotShort (connackCode code) := by
  unfold connackCode
  split_ifs <;> decide

theorem deserializeConnack_notShort
    {buf : Buffer}
    {rxBufLen : Nat} :
    (∀ rc, deserializeConnack buf rxBufLen = .error rc →
        NotShort rc) ∧
      ∀ rc, deserializeConnack buf rxBufLen = .ok rc →
        NotShort rc := by
  unfold deserializeConnack
  split
  · constructor
    · rintro rc ⟨⟩
      decide
    · rintro rc ⟨⟩
  split
  · constructor
    · rintro rc ⟨⟩
      decide
    · rintro rc ⟨⟩
  cases hDecode : decodeRemainingLengthFromBuffer buf 1 with
  | error rc' =>
      constructor
      · rintro rc ⟨⟩
        rw [decodeLenRounds_error hDecode]
        decide
      · rintro rc ⟨⟩
  | ok decoded =>
      dsimp only
      split
      · constructor
        · rintro rc ⟨⟩
          decide
        · rintro rc ⟨⟩
      · constructor
        · rintro rc ⟨⟩
        · rintro rc ⟨⟩
          exact connackCode_notShort _

/- Starting the timer leaves the client alone. -/
theorem startCommandTimer_same
    {P : Client → Prop} :
    Keeps (Contract.plain (Sys E) Event)
      (fun w => P w.st.client) (startCommandTimer port) := by
  refine Triple.bind (M := fun _ w => P w.st.client)
    (Triple.read (fun _ h => h)) ?_
  exact fun _ => Triple.modify (fun _ h => h)

theorem internalPublish_shortIff
    (hLong : 4 < packetLength total)
    (hCb :
      ∀ handler data msg,
        Keeps (Contract.plain (Sys E) Event) (Sized size)
          (callback handler data msg))
    {topic : Option CString}
    {topicLen : UInt16}
    {params : PublishParams}
    (hDecides :
      ∀ id, Decides size total
        (serializePublish size 0 params.qos params.isRetained
          id topic topicLen params.payload))
    (fuel : Nat) :
    Triple (Contract.plain (Sys E) Event) (Sized size)
      (internalPublish port fuel callback topic topicLen
        params)
      (fun rc _ => ShortIff size total rc) := by
  refine
    (startCommandTimer_same
      (P := fun c => c.writeBufSize = size)).bind ?_
  intro _
  have hSend :
      ∀ id, Triple (Contract.plain (Sys E) Event)
        (Sized size)
        (sendSerialized port fuel .command (fun c =>
          serializePublish c.writeBufSize 0 params.qos
            params.isRetained id topic topicLen
            params.payload))
        (fun rc w =>
          ShortIff size total rc ∧ Sized size w) := by
    intro id
    refine
      sendSerialized_shortIff
        (Q := fun c => c.writeBufSize = size) ?_
        (fun _ _ h => h) (fun _ h => h) fuel .command
    rintro c rfl
    exact hDecides id
  refine Triple.ite (fun hQos => ?_) (fun hQos => ?_)
  · refine Triple.bind (M := fun _ => Sized size)
      (sized_aside.states.assignPacketId params) ?_
    intro id
    refine shortIff_then (hSend id) ?_
    intro hFits
    rw [if_pos hQos]
    refine
      wait_then_notShort (by omega) hCb ?_ fuel .puback
    intro c
    cases hAck : deserializeAck c.readBuf c.readBufSize with
    | error rc =>
        exact
          Triple.pure (fun _ _ => deserializeAck_notShort hAck)
    | ok ack => exact Triple.pure (fun _ _ => by decide)
  · refine shortIff_then (hSend params.id) ?_
    intro hFits
    rw [if_neg hQos]
    exact Triple.pure (fun _ _ => by decide)

/- A subscribe that has a free slot. -/
theorem internalSubscribe_shortIff
    (hLong : 4 < packetLength total)
    (hCb :
      ∀ handler data msg,
        Keeps (Contract.plain (Sys E) Event) (Sized size)
          (callback handler data msg))
    {table : List MessageHandlers}
    (hFree : getFreeMessageHandlerIndex table < table.length)
    {topic : Option CString}
    {topicLen : UInt16}
    {qos : QoS}
    (hDecides :
      ∀ id, Decides size total
        (serializeSubscribe size 0 id
          [(topic, topicLen, qos)]))
    (handler : Option HandlerId)
    (data : Nat)
    (fuel : Nat) :
    Triple (Contract.plain (Sys E) Event)
      (fun w =>
        Sized size w ∧ w.st.client.messageHandlers = table)
      (internalSubscribe port fuel callback topic topicLen
        qos handler data)
      (fun rc _ => ShortIff size total rc) := by
  refine
    (startCommandTimer_same
      (P := fun c =>
        c.writeBufSize = size ∧
          c.messageHandlers = table)).bind ?_
  intro _
  refine Triple.bind
    (M := fun _ w =>
      Sized size w ∧ w.st.client.messageHandlers = table)
    (Triple.step (fun _ h => Or.inr h)) ?_
  intro id
  have hEncode :
      Triple (Contract.plain (Sys E) Event)
        (fun w =>
          w.st.client.writeBufSize = size ∧
            w.st.client.messageHandlers = table)
        (serialize (fun c =>
          serializeSubscribe c.writeBufSize 0 id
            [(topic, topicLen, qos)]))
        (fun res w =>
          Measured size total res ∧
            w.st.client.writeBufSize = size ∧
              w.st.client.messageHandlers = table) := by
    refine
      serialize_measured
        (Q := fun c =>
          c.writeBufSize = size ∧ c.messageHandlers = table)
        ?_ (fun _ _ h => h)
    rintro c ⟨rfl, _⟩
    exact hDecides id
  refine hEncode.bind ?_
  intro encoded
  cases encoded with
  | error rc =>
      exact
        Triple.pure (fun _ h => iff_of_true h.1.1 h.1.2)
  | ok n =>
      refine Triple.of_fact ?_
      rintro rfl
      refine Triple.bind
        (M := fun (c : Client) w =>
          c.messageHandlers = table ∧ Sized size w)
        (Triple.read (fun _ h => ⟨h.2, h.1⟩)) ?_
      intro c
      refine Triple.of_fact ?_
      rintro rfl
      dsimp only
      rw [if_neg (by omega)]
      refine
        shortIff_then
          ((sendPacket_short_iff fuel _ .command).and_plain
            (sized_send fuel _ .command) |>.pre
              (fun _ h => ⟨h, h⟩)) ?_
      intro hFits
      refine
        wait_then_notShort (by omega) hCb ?_ fuel .suback
      intro c
      cases hAck :
          deserializeSuback c.readBuf 1 c.readBufSize with
      | error rc =>
          exact
            Triple.pure
              (fun _ _ => deserializeSuback_notShort hAck)
      | ok ack =>
          refine Triple.anything.bind (M := fun _ _ => True) ?_
          intro _
          exact Triple.pure (fun _ _ => by decide)

/- An unsubscribe of a filter that is in the table. -/
theorem internalUnsubscribe_shortIff
    (hLong : 4 < packetLength total)
    (hCb :
      ∀ handler data msg,
        Keeps (Contract.plain (Sys E) Event) (Sized size)
          (callback handler data msg))
    {filter : Option CString}
    {filterLen : UInt16}
    (hDecides :
      ∀ id, Decides size total
        (serializeUnsubscribe size 0 id
          [(filter, filterLen)]))
    (fuel : Nat) :
    Triple (Contract.plain (Sys E) Event)
      (fun w =>
        Sized size w ∧
          w.st.client.messageHandlers.any
              (fun slot => slot.holds filter) = true)
      (internalUnsubscribe port fuel callback filter
        filterLen)
      (fun rc _ => ShortIff size total rc) := by
  have hExchange :
      Triple (Contract.plain (Sys E) Event) (Sized size)
        (unsubscribeExchange port fuel callback filter
          filterLen)
        (fun rc _ => ShortIff size total rc) := by
    refine
      (startCommandTimer_same
        (P := fun c => c.writeBufSize = size)).bind ?_
    intro _
    refine Triple.bind (M := fun _ => Sized size)
      (Triple.step (fun _ h => Or.inr h)) ?_
    intro id
    refine
      shortIff_then
        (sendSerialized_shortIff
          (Q := fun c => c.writeBufSize = size) ?_
          (fun _ _ h => h) (fun _ h => h) fuel .command) ?_
    · rintro c rfl
      exact hDecides id
    intro hFits
    refine
      wait_then_notShort (by omega) hCb ?_ fuel .unsuback
    intro c
    cases hAck :
        deserializeUnsuback c.readBuf c.readBufSize with
    | error rc =>
        exact
          Triple.pure
            (fun _ _ => deserializeUnsuback_notShort hAck)
    | ok ack => exact Triple.pure (fun _ _ => by decide)
  refine Triple.bind
    (M := fun (c : Client) w =>
      c.messageHandlers.any (fun slot => slot.holds filter) =
          true ∧
        Sized size w)
    (Triple.read (fun _ h => ⟨h.2, h.1⟩)) ?_
  intro c
  refine Triple.of_fact ?_
  intro hAny
  rw [if_neg (not_not.mpr hAny)]
  refine hExchange.bind ?_
  intro rc
  refine Triple.ite (fun _ => Triple.pure (fun _ h => h)) ?_
  intro hRc
  have hSuccess : rc = .success := not_not.mp hRc
  refine Triple.bind
    (M := fun _ _ => ShortIff size total rc)
    (Triple.modify (fun _ h => h)) ?_
  intro _
  rw [hSuccess]
  exact Triple.pure (fun _ h => h)

/- A connect over a network that connects. -/
theorem internalConnect_shortIff
    (hLong : 4 < packetLength total)
    (hCb :
      ∀ handler data msg,
        Keeps (Contract.plain (Sys E) Event) (Sized size)
          (callback handler data msg))
    (hNet : ∀ e, (port.netConnect e).1 = .success)
    {params : Option ConnectParams}
    {o : ConnectParams}
    (hDecides :
      Decides size total (serializeConnect size o))
    (fuel : Nat) :
    Triple (Contract.plain (Sys E) Event)
      (fun w =>
        Sized size w ∧ connectOptions w.st.client params = o)
      (internalConnect port fuel callback params)
      (fun rc _ => ShortIff size total rc) := by
  have hExchange :
      Triple (Contract.plain (Sys E) Event)
        (fun w =>
          w.st.client.writeBufSize = size ∧
            w.st.client.options = o)
        (connectExchange port fuel callback)
        (fun rc _ => ShortIff size total rc) := by
    refine
      (startCommandTimer_same
        (P := fun c =>
          c.writeBufSize = size ∧ c.options = o)).bind ?_
    intro _
    refine Triple.bind
      (M := fun _ w =>
        w.st.client.writeBufSize = size ∧
          w.st.client.options = o)
      (Triple.modify (fun _ h => h)) ?_
    intro _
    refine
      shortIff_then
        (sendSerialized_shortIff
          (Q := fun c => c.writeBufSize = size ∧ c.options = o)
          ?_ (fun _ _ h => h) (fun _ h => h.1) fuel .command)
        ?_
    · rintro c ⟨rfl, rfl⟩
      exact hDecides
    intro hFits
    refine
      wait_then_notShort (by omega) hCb ?_ fuel .connack
    intro c
    cases hAck :
        deserializeConnack c.readBuf c.readBufSize with
    | error rc =>
        exact
          Triple.pure
            (fun _ _ => deserializeConnack_notShort.1 rc hAck)
    | ok connackRc =>
        refine Triple.ite (fun _ => ?_) (fun _ => ?_)
        · exact
            Triple.pure
              (fun _ _ =>
                deserializeConnack_notShort.2 connackRc hAck)
        refine Triple.anything.bind (M := fun _ _ => True) ?_
        intro _
        refine Triple.anything.bind (M := fun _ _ => True) ?_
        intro c
        refine Triple.anything.bind (M := fun _ _ => True) ?_
        intro _
        exact Triple.pure (fun _ _ => by decide)
  have hConnect :
      Triple (Contract.plain (Sys E) Event)
        (fun w =>
          w.st.client.writeBufSize = size ∧
            w.st.client.options = o)
        (internalConnect port fuel callback none)
        (fun rc _ => ShortIff size total rc) := by
    change Triple _ _ (netConnect port >>= _) _
    refine Triple.bind
      (M := fun rc w =>
        rc = .success ∧
          w.st.client.writeBufSize = size ∧
            w.st.client.options = o)
      (Triple.step (fun w h => Or.inr ⟨hNet _, h⟩)) ?_
    intro rc
    refine Triple.of_fact ?_
    rintro rfl
    rw [if_neg (by decide)]
    exact hExchange
  cases params with
  | none => exact hConnect
  | some params =>
      change Triple _ _
        (modifyClient _ >>= fun _ =>
          internalConnect port fuel _ none) _
      exact
        Triple.bind
          (Triple.modify (fun _ h => h)) (fun _ => hConnect)

end Mqtt

end TrustOnboard

------------------------------------------------------------
-- Entering An Operation
------------------------------------------------------------

namespace TrustOnboard

namespace Mqtt

variable {E : Type}
variable {port : Port E}
variable {size total : Nat}

/- The mutex around the client state can be had. -/
def StateFree (port : Port E) (s : Sys E) : Prop :=
  port.threadSupport = true →
    s.client.locked .stateChange = false ∧
      (s.client.isBlockOnThreadLockEnabled = false →
        (port.mutexTrylock .stateChange s.env).1 = true)

/- The client may begin an operation. -/
structure Enterable (port : Port E) (s : Sys E) : Prop where
  state :
    s.client.clientState = .connectedIdle ∨
      s.client.clientState = .connectedWaitForCbReturn
  free : StateFree port s

/- A property of the client that a state change keeps. -/
def StateBlind (Q : Client → Prop) : Prop :=
  ∀ c clientState locked,
    Q c →
      Q { c with clientState := clientState, locked := locked }

theorem onlyLocks_blind
    {Q : Client → Prop}
    (hBlind : StateBlind Q)
    {expected : ClientState}
    (s s' : Sys E)
    (es l : List Event)
    (hStep : OnlyLocks s s' es)
    (hHere :
      (⟨s, l⟩ : Run E).st.client.clientState = expected ∧
        Q (⟨s, l⟩ : Run E).st.client) :
    (⟨s', es ++ l⟩ : Run E).st.client.clientState =
        expected ∧
      Q (⟨s', es ++ l⟩ : Run E).st.client := by
  rcases hStep with ⟨⟨held, hClient⟩, _⟩
  dsimp only at hHere ⊢
  rw [hClient]
  exact ⟨hHere.1, hBlind _ _ _ hHere.2⟩

theorem lockMutex_free
    {Q : Client → Prop}
    (hBlind : StateBlind Q)
    (expected : ClientState) :
    Triple (Contract.plain (Sys E) Event)
      (fun w =>
        StateFree port w.st ∧
          w.st.client.clientState = expected ∧ Q w.st.client)
      (lockMutex port .stateChange)
      (fun rc w =>
        rc = .success ∧
          w.st.client.clientState = expected ∧
            Q w.st.client) := by
  unfold lockMutex
  refine Triple.ite (fun hThreads => ?_) (fun _ => ?_)
  · refine Triple.bind
      (M := fun (c : Client) w =>
        c.isBlockOnThreadLockEnabled =
            w.st.client.isBlockOnThreadLockEnabled ∧
          StateFree port w.st ∧
            w.st.client.clientState = expected ∧
              Q w.st.client)
      (Triple.read (fun _ h => ⟨rfl, h⟩)) ?_
    intro c
    refine Triple.ite (fun hBlock => ?_) (fun hBlock => ?_)
    · refine Triple.bind
        (M := fun _ w =>
          w.st.client.clientState = expected ∧
            Q w.st.client) ?_
        (fun _ => Triple.pure (fun _ h => ⟨rfl, h⟩))
      have hUses :
          (Prog.await (fun s => !s.client.locked .stateChange)
            (fun s =>
              { s with
                client :=
                  s.client.setLocked .stateChange true }) :
            Code E Unit).Uses OnlyLocks :=
        Prog.Uses.await (fun _ => ⟨⟨_, rfl⟩, rfl⟩)
      refine
        (hUses.triple (fun _ _ => trivial)
          (onlyLocks_blind hBlind)).pre (fun _ h => h.2.2)
    · refine Triple.step ?_
      rintro w ⟨hSame, hFree, hState, hQ⟩
      right
      rcases hFree hThreads with ⟨hUnlocked, hTry⟩
      have hTrylock := hTry (by rw [← hSame]; simpa using hBlock)
      simp only [hTrylock, hUnlocked, Bool.not_false,
        Bool.and_self, if_true]
      exact ⟨trivial, hState, hBlind _ _ _ hQ⟩
  · exact Triple.pure (fun _ h => ⟨rfl, h.2⟩)

/- A state change that nothing stands in the way of. -/
theorem setClientState_free
    {Q : Client → Prop}
    (hBlind : StateBlind Q)
    (expected new : ClientState) :
    Triple (Contract.plain (Sys E) Event)
      (fun w =>
        StateFree port w.st ∧
          w.st.client.clientState = expected ∧ Q w.st.client)
      (setClientState port expected new)
      (fun rc w => rc = .success ∧ Q w.st.client) := by
  refine (lockMutex_free hBlind expected).bind ?_
  intro rc
  refine Triple.of_fact ?_
  rintro rfl
  rw [if_neg (by decide)]
  refine Triple.bind
    (M := fun rc w => rc = .success ∧ Q w.st.client)
    (Triple.step ?_) ?_
  · rintro w ⟨hState, hQ⟩
    right
    simp only [hState, if_true]
    exact ⟨trivial, hBlind _ _ _ hQ⟩
  intro rc
  refine Triple.of_fact ?_
  rintro rfl
  unfold unlockMutex
  split
  · refine Triple.bind
      (M := fun rc w => rc = .success ∧ Q w.st.client)
      (Triple.bind (M := fun _ w => Q w.st.client)
        (Triple.modify (fun _ hQ => hBlind _ _ _ hQ))
        (fun _ => Triple.pure (fun _ hQ => ⟨rfl, hQ⟩))) ?_
    intro threadRc
    refine Triple.of_fact ?_
    rintro rfl
    rw [if_neg (by decide)]
    exact Triple.pure (fun _ hQ => ⟨rfl, hQ⟩)
  · refine Triple.bind
      (M := fun rc w => rc = .success ∧ Q w.st.client)
      (Triple.pure (fun _ hQ => ⟨rfl, hQ⟩)) ?_
    intro threadRc
    refine Triple.of_fact ?_
    rintro rfl
    rw [if_neg (by decide)]
    exact Triple.pure (fun _ hQ => ⟨rfl, hQ⟩)

/- The common entry of an operation that may begin. -/
theorem enterOperation_shortIff
    {Q : Client → Prop}
    (hBlind : StateBlind Q)
    {operation : Code E IoTError}
    (hOp :
      Triple (Contract.plain (Sys E) Event)
        (fun w => Q w.st.client) operation
        (fun rc _ => ShortIff size total rc))
    (during : ClientState)
    (refused : ClientState → IoTError → Code E IoTError) :
    Triple (Contract.plain (Sys E) Event)
      (fun w => Enterable port w.st ∧ Q w.st.client)
      (enterOperation port during refused operation)
      (fun rc _ => ShortIff size total rc) := by
  refine Triple.bind
    (M := fun seen w =>
      isClientConnected seen = true ∧
        Enterable port w.st ∧ Q w.st.client)
    (Triple.read ?_) ?_
  · rintro w ⟨hEnter, hQ⟩
    refine ⟨?_, hEnter, hQ⟩
    rcases hEnter.state with hState | hState
    · rw [hState]
      rfl
    · rw [hState]
      rfl
  intro seen
  refine Triple.of_fact ?_
  intro hConnected
  rw [if_neg (not_not.mpr hConnected)]
  refine Triple.bind
    (M := fun clientState w =>
      (clientState = .connectedIdle ∨
          clientState = .connectedWaitForCbReturn) ∧
        StateFree port w.st ∧
          w.st.client.clientState = clientState ∧
            Q w.st.client)
    (Triple.read
      (fun _ h => ⟨h.1.state, h.1.free, rfl, h.2⟩)) ?_
  intro clientState
  refine Triple.of_fact ?_
  intro hReady
  have hAllowed :
      ¬ (clientState ≠ .connectedIdle ∧
        clientState ≠ .connectedWaitForCbReturn) := by
    rintro ⟨hIdle, hWait⟩
    exact hReady.elim hIdle hWait
  rw [if_neg hAllowed]
  refine (setClientState_free hBlind _ _).bind ?_
  intro rc
  refine Triple.of_fact ?_
  rintro rfl
  rw [if_neg (by decide)]
  refine hOp.bind ?_
  intro opRc
  refine Triple.bind
    (M := fun rc _ =>
      NotShort rc ∧ ShortIff size total opRc) ?_ ?_
  · exact
      ((setClientState_notShort _ _).and_plain
        (Triple.log_mono
          (I := fun _ => ShortIff size total opRc)
          (fun _ _ h => h))).pre (fun _ h => ⟨trivial, h⟩)
  intro rc
  refine Triple.ite (fun hFail => ?_) (fun _ => ?_)
  · apply Triple.pure
    rintro w ⟨hRc, hIff⟩
    rw [hFail.1] at hIff
    have hLess : ¬ size ≤ packetLength total := by
      intro hLe
      have hNo := hIff.mpr hLe
      cases hNo
    exact iff_of_false hRc hLess
  · exact Triple.pure (fun _ h => h.2)

end Mqtt

end TrustOnboard

------------------------------------------------------------
-- The Limit
------------------------------------------------------------

namespace TrustOnboard

namespace Mqtt

variable {E : Type}
variable {port : Port E}
variable {size total : Nat}
variable {callback : Callback E}

/-
  The call has what it needs to send its packet: arguments
  that are accepted, a client that may begin, a free slot or
  one to free, a network that connects.
-/
def Healthy (port : Port E) (s : Sys E) : ApiCall → Prop
  | .publish topic topicLen _ =>
      topic.isSome = true ∧ topicLen ≠ 0 ∧ Enterable port s
  | .subscribe topic _ _ handler _ =>
      topic.isSome = true ∧ handler.isSome = true ∧
        Enterable port s ∧
          getFreeMessageHandlerIndex s.client.messageHandlers <
            s.client.messageHandlers.length
  | .unsubscribe filter _ =>
      filter.isSome = true ∧ Enterable port s ∧
        s.client.messageHandlers.any
            (fun slot => slot.holds filter) = true
  | .connect params =>
      isClientStateValidForConnect s.client.clientState =
          true ∧
        (∀ e, (port.netConnect e).1 = .success) ∧
          ¬ ConnectRejected (connectOptions s.client params)
  | _ => True

/- A connect from a state it may start from. -/
theorem connect_shortIff
    (hLong : 4 < packetLength total)
    (hCb :
      ∀ handler data msg,
        Keeps (Contract.plain (Sys E) Event) (Sized size)
          (callback handler data msg))
    (hNet : ∀ e, (port.netConnect e).1 = .success)
    {params : Option ConnectParams}
    {o : ConnectParams}
    (hDecides :
      Decides size total (serializeConnect size o))
    (fuel : Nat) :
    Triple (Contract.plain (Sys E) Event)
      (fun w =>
        isClientStateValidForConnect
            w.st.client.clientState = true ∧
          Sized size w ∧
            connectOptions w.st.client params = o)
      (connect port fuel callback params)
      (fun rc _ => ShortIff size total rc) := by
  have hKept :
      KeptAside (Contract.plain (Sys E) Event)
        (fun w =>
          Sized size w ∧
            connectOptions w.st.client params = o) := by
    refine ⟨fun _ _ => trivial, ?_⟩
    rintro s s' es l hAside ⟨hSized, hOptions⟩
    refine ⟨hAside.writeBufSize.trans hSized, ?_⟩
    rw [← hOptions]
    cases params with
    | none => exact hAside.options
    | some params => rfl
  refine Triple.bind
    (M := fun clientState w =>
      isClientStateValidForConnect clientState = true ∧
        Sized size w ∧
          connectOptions w.st.client params = o)
    (Triple.read (fun _ h => h)) ?_
  intro clientState
  refine Triple.of_fact ?_
  intro hValid
  rw [if_neg (not_not.mpr hValid)]
  refine (hKept.states.setClientState _ trivial).bind ?_
  intro _
  refine
    (internalConnect_shortIff hLong hCb hNet hDecides
      fuel).bind ?_
  intro rc
  have hStay :
      ∀ {α : Type} (p : Code E α),
        Keeps (Contract.plain (Sys E) Event)
          (fun _ => ShortIff size total rc) p :=
    fun _ =>
      Triple.log_mono (I := fun _ => ShortIff size total rc)
        (fun _ _ h => h)
  refine Triple.ite (fun _ => ?_) (fun _ => ?_)
  · refine (hStay (netDisconnect port)).seq ?_
    intro _
    refine (hStay (netDestroy port .connect)).seq ?_
    intro _
    refine
      (hStay (setClientState port .connecting
        .disconnectedError)).seq ?_
    exact fun _ => Triple.same
  · refine
      (hStay (setClientState port .connecting
        .connectedIdle)).seq ?_
    exact fun _ => Triple.same

/- The packet of a call that may go ahead is a frame. -/
theorem outgoing_framed
    {s : Sys E}
    {call : ApiCall}
    {out : Outgoing}
    (hOut : outgoing s.client call = some out)
    (hHealthy : Healthy port s call) :
    out.WellFramed ∧ 4 < packetLength out.total := by
  unfold packetLength lengthBytes
  cases call with
  | publish topic topicLen params =>
      cases params with
      | none => cases hOut
      | some params =>
          rcases Option.map_eq_some_iff.mp hOut with
            ⟨payload, _, rfl⟩
          refine ⟨⟨fun id => ?_, .inl (fun _ => rfl)⟩, ?_⟩
          · exact
              ⟨_, _,
                serializePublish_framed 0 params.qos
                  params.isRetained id topic topicLen
                  payload⟩
          · have hPos : 0 < topicLen.toNat := by
              rw [Nat.pos_iff_ne_zero]
              intro hZero
              exact hHealthy.2.1 (UInt16.toNat_inj.mp hZero)
            unfold publishLength
            dsimp only
            omega
  | subscribe topic topicLen qos handler data =>
      cases hOut
      refine ⟨⟨fun id => ?_, .inl (fun _ => rfl)⟩, ?_⟩
      · have hFramed :=
          serializeSubscribe_framed 0 id
            [(topic, topicLen, qos)]
        rw [List.forall_mem_singleton] at hFramed
        exact ⟨_, _, hFramed⟩
      · simp only [subscribeLength, List.map_cons,
          List.map_nil, List.sum_cons, List.sum_nil]
        omega
  | unsubscribe filter filterLen =>
      cases hOut
      refine ⟨⟨fun id => ?_, .inl (fun _ => rfl)⟩, ?_⟩
      · have hFramed :=
          serializeUnsubscribe_framed 0 id
            [(filter, filterLen)]
        rw [List.forall_mem_singleton] at hFramed
        exact ⟨_, _, hFramed⟩
      · simp only [unsubscribeLength, List.map_cons,
          List.map_nil, List.sum_cons, List.sum_nil]
        omega
  | connect params =>
      cases hOut
      have hSmall :=
        (getConnectPacketLength_eq
          (connectOptions s.client params)).2
      refine
        ⟨⟨fun _ =>
            ⟨_, _, serializeConnect_framed hHealthy.2.2⟩,
          .inr ⟨?_, fun _ => rfl⟩⟩, ?_⟩
      · dsimp only
        omega
      · unfold connectLength
        dsimp only
        omega
  | disconnect => cases hOut
  | attemptReconnect => cases hOut
  | resubscribe => cases hOut
  | yield timeoutMs => cases hOut
  | autoreconnectSetStatus status => cases hOut
  | setDisconnectHandler handler data => cases hOut

/- The body of a call whose packet keeps to the buffer. -/
theorem apiBody_shortIff
    {out : Outgoing}
    {s : Sys E}
    {call : ApiCall}
    (hOut : outgoing s.client call = some out)
    (hHealthy : Healthy port s call)
    (hSafe :
      FrameSafe s.client.writeBufSize out.total out.readable)
    (fuel : Nat)
    (inYield : ApiCall → Code E IoTError) :
    Triple (Contract.plain (Sys E) Event)
      (fun w => w.st = s)
      (apiBody port fuel (api port fuel true) inYield call)
      (fun rc _ =>
        ShortIff s.client.writeBufSize out.total rc) := by
  rcases outgoing_framed hOut hHealthy with
    ⟨⟨hFramed, _⟩, hLong⟩
  have hDecides :
      ∀ id,
        Decides s.client.writeBufSize out.total
          (out.encode s.client.writeBufSize id) := by
    intro id
    rcases hFramed id with ⟨_, _, hFramed⟩
    exact hFramed.decides hSafe
  have hCb :
      ∀ handler data msg,
        Keeps (Contract.plain (Sys E) Event)
          (Sized s.client.writeBufSize)
          (runCallback port (api port fuel true) handler data
            msg) := by
    intro handler data msg
    exact
      (sized_aside.states.platform
        (port.onMessage handler data msg)).seq
        (sized_aside.states.eachCall
          (fun c => sized_steady.api fuel true c))
  cases call with
  | publish topic topicLen params =>
      cases params with
      | none => cases hOut
      | some params =>
          rcases Option.map_eq_some_iff.mp hOut with
            ⟨payload, hPayload, rfl⟩
          rcases hHealthy with ⟨hTopic, hLen, hEnter⟩
          have hArgs :
              ¬ (topic.isNone = true ∨ topicLen = 0) := by
            rw [← Option.not_isSome, hTopic]
            simpa using hLen
          unfold apiBody publish
          dsimp only
          rw [if_neg hArgs]
          refine
            (enterOperation_shortIff
              (Q := fun c =>
                c.writeBufSize = s.client.writeBufSize)
              (fun _ _ _ h => h)
              (internalPublish_shortIff hLong hCb ?_ fuel)
              _ _).pre ?_
          · rw [hPayload]
            exact hDecides
          · rintro w rfl
            exact ⟨hEnter, rfl⟩
  | subscribe topic topicLen qos handler data =>
      cases hOut
      rcases hHealthy with ⟨hTopic, hHandler, hEnter, hFree⟩
      have hArgs :
          ¬ (topic.isNone = true ∨ handler.isNone = true) := by
        rw [← Option.not_isSome, ← Option.not_isSome, hTopic,
          hHandler]
        decide
      unfold apiBody subscribe
      dsimp only
      rw [if_neg hArgs]
      refine
        (enterOperation_shortIff
          (Q := fun c =>
            c.writeBufSize = s.client.writeBufSize ∧
              c.messageHandlers = s.client.messageHandlers)
          (fun _ _ _ h => h)
          (internalSubscribe_shortIff hLong hCb hFree hDecides
            handler data fuel) _ _).pre ?_
      rintro w rfl
      exact ⟨hEnter, rfl, rfl⟩
  | unsubscribe filter filterLen =>
      cases hOut
      rcases hHealthy with ⟨hFilter, hEnter, hAny⟩
      have hArgs : ¬ filter.isNone = true := by
        rw [← Option.not_isSome, hFilter]
        decide
      unfold apiBody unsubscribe
      dsimp only
      rw [if_neg hArgs]
      refine
        (enterOperation_shortIff
          (Q := fun c =>
            c.writeBufSize = s.client.writeBufSize ∧
              c.messageHandlers.any
                  (fun slot => slot.holds filter) = true)
          (fun _ _ _ h => h)
          (internalUnsubscribe_shortIff hLong hCb hDecides
            fuel) _ _).pre ?_
      rintro w rfl
      exact ⟨hEnter, rfl, hAny⟩
  | connect params =>
      cases hOut
      rcases hHealthy with ⟨hValid, hNet, _⟩
      refine
        (connect_shortIff hLong hCb hNet (hDecides 0)
          fuel).pre ?_
      rintro w rfl
      exact ⟨hValid, rfl, rfl⟩
  | disconnect => cases hOut
  | attemptReconnect => cases hOut
  | resubscribe => cases hOut
  | yield timeoutMs => cases hOut
  | autoreconnectSetStatus status => cases hOut
  | setDisconnectHandler handler data => cases hOut

/-
  On a healthy connection the limit is exact for the packets
  that do not fill the buffer to its last byte, as long as
  the encoder keeps to the buffer at all.
-/
theorem sizeLimit_iff
    (port : Port E)
    (fuel : Nat)
    (waiting : Bool)
    (call : ApiCall)
    {out : Outgoing}
    {w w' : Run E}
    {rc : IoTError}
    (hOut : outgoing w.st.client call = some out)
    (hHealthy : Healthy port w.st call)
    (hRun :
      (api port fuel waiting call).run w = (some rc, w')) :
    out.Exact w.st.client.writeBufSize rc ↔
      out.Clear w.st.client.writeBufSize := by
  have hFramed := (outgoing_framed hOut hHealthy).1
  unfold Outgoing.Exact Outgoing.Clear
  rw [hFramed.respects_iff]
  by_cases hSafe :
      FrameSafe w.st.client.writeBufSize out.total
        out.readable
  case neg => simp [hSafe]
  simp only [hSafe, true_and]
  cases fuel with
  | zero => cases hRun
  | succ fuel =>
      have hTriple :
          Triple (Contract.plain (Sys E) Event)
            (fun w₀ : Run E => w₀.st = w.st)
            (api port (fuel + 1) waiting call)
            (fun rc _ =>
              ShortIff w.st.client.writeBufSize out.total
                rc) := by
        refine Triple.bind (M := fun _ w₀ => w₀.st = w.st)
          (Triple.emit (fun _ h => Or.inr h)) ?_
        intro _
        refine
          (apiBody_shortIff hOut hHealthy hSafe fuel _).bind ?_
        intro rc
        refine Triple.bind
          (M := fun _ _ =>
            ShortIff w.st.client.writeBufSize out.total rc)
          (Triple.emit (fun _ h => Or.inr h)) ?_
        exact fun _ => Triple.pure (fun _ h => h)
      rcases hTriple.of_run rfl hRun with hNo | hIff
      · exact hNo.elim
      rw [show rc = .mqttTxBufferTooShortError ↔ _ from hIff]
      omega

/- An idle client with a transmit buffer of `size` bytes. -/
def bufferOf (size : Nat) : Run Script :=
  scriptStart
    { scriptClient .connectedIdle [freeSlot] with
      writeBufSize := size }
    { Script.idle with timers := [false] }

/- The publish of an empty payload to a topic of one byte. -/
def emptyPublish : ApiCall :=
  .publish (some (letter 97 lowerA_ne)) 1
    (some
      { qos := .qos0
        isRetained := 0
        id := 0
        payload := some [] })

theorem emptyPublish_healthy
    (size : Nat) :
    Healthy scriptPort (bufferOf size).st emptyPublish :=
  ⟨rfl, by decide, .inl rfl, fun hNo => by cases hNo⟩

theorem sizeLimit_iff_spare :
    ∃ (out : Outgoing) (w' : Run Script),
      (api scriptPort 3 false emptyPublish).run
          (bufferOf 6) = (some .success, w') ∧
        (out.Exact 6 .success ↔ out.Clear 6) := by
  have hRun :=
    Prog.run_of_returns
      (p := api scriptPort 3 false emptyPublish)
      (w := bufferOf 6) (a := .success) (by decide +kernel)
  exact
    ⟨_, _, hRun,
      sizeLimit_iff scriptPort 3 false emptyPublish rfl
        (emptyPublish_healthy 6) hRun⟩

/- A packet of five bytes is refused by a buffer of five. -/
theorem full_buffer_refused :
    ∃ (out : Outgoing) (w' : Run Script),
      outgoing (bufferOf 5).st.client emptyPublish =
          some out ∧
        Healthy scriptPort (bufferOf 5).st emptyPublish ∧
          (api scriptPort 3 false emptyPublish).run
              (bufferOf 5) =
            (some .mqttTxBufferTooShortError, w') ∧
          packetLength out.total = 5 ∧
            ¬ out.Exact 5 .mqttTxBufferTooShortError := by
  have hRun :=
    Prog.run_of_returns
      (p := api scriptPort 3 false emptyPublish)
      (w := bufferOf 5) (a := .mqttTxBufferTooShortError)
      (by decide +kernel)
  have hLength :
      packetLength (publishLength .qos0 1 []) = 5 := by
    unfold packetLength
    rw [lengthBytes_eq (by decide)]
    rfl
  refine
    ⟨_, _, rfl, emptyPublish_healthy 5, hRun, hLength, ?_⟩
  rintro ⟨_, hIff⟩
  have hLess := hIff.mp rfl
  rw [show packetLength _ = 5 from hLength] at hLess
  omega

end Mqtt

end TrustOnboard
