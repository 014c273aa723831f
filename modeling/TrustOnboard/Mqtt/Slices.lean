import TrustOnboard.Mqtt.Stored
import TrustOnboard.Mqtt.Script
import TrustOnboard.Mqtt.Footprint

/-
  The slices of a PUBLISH that handlers receive.

  The topic is checked against the end of the packet, but the
  packet identifier behind it is not.  A packet that ends
  inside its identifier is accepted, and the length of its
  payload wraps around.

  Key definitions include:
    * `Called`
    * `Hands`
    * `Contained`
    * `CutOff`

  Key results include:
    * `deserializePublish_stored`
    * `contained_iff_not_cutOff`
-/

------------------------------------------------------------
-- The Calls Of A Delivery
------------------------------------------------------------

namespace TrustOnboard

namespace Mqtt

variable {E : Type}

/-
  In the delivery loop the handler of slot `itr` is called in
  the world `wc` with the message `seen`.
-/
structure Called
    (callback : Callback E)
    (msg : Message)
    (w : Run E)
    (itr : Nat)
    (wc : Run E)
    (handler : HandlerId)
    (data : Nat)
    (seen : Message) : Prop where
  slot_lt : itr < w.st.client.messageHandlers.length
  before :
    (Prog.each (deliverToSlot callback msg)
      (List.range itr)).run w = (some (), wc)
  seen_eq : seen = wc.st.client.sees msg
  matched :
    ∃ slot,
      wc.st.client.messageHandlers[itr]? = some slot ∧
        slot.accepts seen.topic = true ∧
        slot.pApplicationHandler = some handler ∧
        slot.pApplicationHandlerData = data

/- The turn of a slot is the call of its handler. -/
theorem Called.turn
    {callback : Callback E}
    {msg : Message}
    {w wc : Run E}
    {itr : Nat}
    {handler : HandlerId}
    {data : Nat}
    {seen : Message}
    (hCalled :
      Called callback msg w itr wc handler data seen) :
    (deliverToSlot callback msg itr).run wc =
      (callback handler data seen).run
        ⟨wc.st, .deliver itr handler data seen :: wc.log⟩ := by
  rcases hCalled.matched with
    ⟨slot, hSlot, hAccepts, hHandler, hData⟩
  have hSeen := hCalled.seen_eq
  rw [hSeen] at hAccepts ⊢
  have hRead :
      (getClient : Code E Client).run wc =
        (some wc.st.client, wc) := rfl
  unfold deliverToSlot
  rw [Prog.run_bind_of_run hRead]
  dsimp only
  rw [hSlot]
  dsimp only
  rw [if_pos hAccepts, hHandler]
  dsimp only
  rw [hData]
  rfl

end Mqtt

end TrustOnboard

------------------------------------------------------------
-- Decoding A Stored PUBLISH
------------------------------------------------------------

namespace TrustOnboard

namespace Mqtt

/-
  The length of a body as the decoders find it: the length of
  the body, which a field of four bytes always carries.
-/
def decodedLength (body : Bytes) : Nat :=
  body.length % 2 ^ 32

/- The topic length a body announces. -/
def topicLength (body : Bytes) : Nat :=
  (readUint16 (fun i => body.getD i 0) 0).toNat

/- The topic of a body ends inside the packet. -/
def TopicFits (body : Bytes) : Prop :=
  2 + topicLength body ≤ decodedLength body

/- The packet ends inside the packet identifier. -/
structure CutOff
    (size : Nat)
    (header : UInt8)
    (body : Bytes) : Prop where
  large : 4 ≤ size
  short_field :
    (lengthField body).length ≤ maxNoOfRemainingLengthBytes
  with_id : headerQos header ≠ .qos0
  topic_fits : TopicFits body
  id_cut : decodedLength body < 4 + topicLength body

/- The message decoded from a stored PUBLISH. -/
def storedMessage
    (buf : Buffer)
    (header : UInt8)
    (body : Bytes) : Message :=
  let topicOff := bodyStart body + 2
  let cur := topicOff + topicLength body
  let payloadOff :=
    if headerQos header = .qos0 then cur else cur + 2
  { isDup := headerDup header
    qos := headerQos header
    isRetained := headerRetain header
    id :=
      if headerQos header = .qos0 then none
      else some (readUint16 buf cur)
    topicOff := topicOff
    topicLen := topicLength body
    payloadOff := payloadOff
    payloadLen :=
      (2 ^ 64 + (bodyStart body + decodedLength body) -
        payloadOff) % 2 ^ 64
    buf := buf }

theorem decodedLength_le
    (body : Bytes) :
    decodedLength body ≤ body.length :=
  Nat.mod_le _ _

/- A number in the buffer is that of the body. -/
theorem Stored.readUint16_at
    {buf : Buffer}
    {header : UInt8}
    {body : Bytes}
    (hStored : Stored buf header body)
    {i : Nat}
    (hTwo : i + 2 ≤ body.length) :
    Mqtt.readUint16 buf (bodyStart body + i) =
      Mqtt.readUint16 (fun j => body.getD j 0) i := by
  have hFirst := hStored.body_apply (show i < _ by omega)
  have hSecond :=
    hStored.body_apply (show i + 1 < _ by omega)
  have hGet :
      ∀ j (h : j < body.length), body.getD j 0 = body[j] := by
    intro j h
    rw [List.getD_eq_getElem?_getD,
      List.getElem?_eq_getElem h]
    rfl
  have hGetFirst := hGet i (by omega)
  have hGetSecond := hGet (i + 1) (by omega)
  unfold Mqtt.readUint16
  dsimp only
  rw [hGetFirst, hGetSecond, Nat.add_assoc, hFirst, hSecond]

/- The topic length in the buffer is that of the body. -/
theorem Stored.readUint16
    {buf : Buffer}
    {header : UInt8}
    {body : Bytes}
    (hStored : Stored buf header body)
    (hTwo : 2 ≤ body.length) :
    (Mqtt.readUint16 buf (bodyStart body)).toNat =
      topicLength body := by
  have hFirst := hStored.readUint16_at (show 0 + 2 ≤ _ by omega)
  rw [Nat.add_zero] at hFirst
  rw [hFirst]
  rfl

/- The topic of a stored PUBLISH, or an error. -/
theorem Stored.readStringWithLen
    {buf : Buffer}
    {header : UInt8}
    {body : Bytes}
    (hStored : Stored buf header body) :
    (TopicFits body ∧
      readStringWithLen buf (bodyStart body)
          (bodyStart body + decodedLength body) =
        .ok
          (bodyStart body + 2, topicLength body,
            bodyStart body + 2 + topicLength body)) ∨
    (¬ TopicFits body ∧
      readStringWithLen buf (bodyStart body)
          (bodyStart body + decodedLength body) =
        .error .failure) := by
  have hLe := decodedLength_le body
  unfold Mqtt.readStringWithLen TopicFits
  by_cases hTwo : 2 ≤ decodedLength body
  · rw [if_pos (by omega)]
    dsimp only
    rw [hStored.readUint16 (by omega)]
    by_cases hFits :
        2 + topicLength body ≤ decodedLength body
    · left
      refine ⟨hFits, ?_⟩
      rw [if_pos (by omega)]
    · right
      refine ⟨hFits, ?_⟩
      rw [if_neg (by omega)]
  · right
    refine ⟨by omega, ?_⟩
    rw [if_neg (by omega)]

/-
  A stored PUBLISH is decoded to its message when the buffer
  is large enough, the length field short enough and the
  topic inside the packet, and is refused otherwise.
-/
theorem deserializePublish_stored
    {buf : Buffer}
    {header : UInt8}
    {body : Bytes}
    (hStored : Stored buf header body)
    (hType :
      headerType header = MessageType.publish.nibble)
    (size : Nat) :
    ((4 ≤ size ∧
        (lengthField body).length ≤
          maxNoOfRemainingLengthBytes ∧
        TopicFits body) ∧
      deserializePublish buf size =
        .ok (storedMessage buf header body)) ∨
    (¬ (4 ≤ size ∧
        (lengthField body).length ≤
          maxNoOfRemainingLengthBytes ∧
        TopicFits body) ∧
      ∃ rc, rc ≠ .success ∧
        deserializePublish buf size = .error rc) := by
  unfold deserializePublish
  rw [hStored.header, hStored.decode]
  by_cases hLarge : 4 ≤ size
  · rw [if_neg (by omega), if_neg (by rw [hType]; simp)]
    by_cases hShort :
        (lengthField body).length ≤
          maxNoOfRemainingLengthBytes
    · rw [if_pos hShort]
      dsimp only
      rcases hStored.readStringWithLen with
        ⟨hFits, hRead⟩ | ⟨hNot, hRead⟩
      · left
        refine ⟨⟨hLarge, hShort, hFits⟩, ?_⟩
        unfold bodyStart decodedLength at hRead
        rw [hRead]
        rfl
      · right
        refine ⟨fun h => hNot h.2.2, .failure, by decide, ?_⟩
        unfold bodyStart decodedLength at hRead
        rw [hRead]
    · right
      rw [if_neg hShort]
      exact ⟨fun h => hShort h.2.1, _, by decide, rfl⟩
  · right
    rw [if_pos (by omega)]
    exact ⟨fun h => hLarge h.1, _, by decide, rfl⟩

end Mqtt

end TrustOnboard

------------------------------------------------------------
-- Slices Inside The Packet
------------------------------------------------------------

namespace TrustOnboard

namespace Mqtt

variable {E : Type}
variable {port : Port E}
variable {callback : Callback E}

/- Topic and payload lie in a region of the buffer. -/
structure Message.Inside
    (m : Message)
    (start length : Nat) : Prop where
  topic_ge : start ≤ m.topicOff
  topic_le : m.topicOff + m.topicLen ≤ start + length
  payload_ge : start ≤ m.payloadOff
  payload_le : m.payloadOff + m.payloadLen ≤ start + length

/- So do the two bytes behind the topic, if they are read. -/
def Message.IdInside
    (m : Message)
    (start length : Nat) : Prop :=
  m.id ≠ none →
    start ≤ m.topicOff + m.topicLen ∧
      m.topicOff + m.topicLen + 2 ≤ start + length

/- The parameters of the message are set up. -/
def begun (msg : Message) (w : Run E) : Run E where
  st := { w.st with client := w.st.client.handling msg }
  log := w.log

/- The handler calls of one `handle_publish`. -/
def Hands
    (port : Port E)
    (callback : Callback E)
    (msg : Message)
    (w : Run E)
    (seen : Message) : Prop :=
  ∃ rc w₁ itr wc handler data,
    (setClientState port w.st.client.clientState
        .connectedWaitForCbReturn).run (begun msg w) =
      (some rc, w₁) ∧
    Called callback msg w₁ itr wc handler data seen

/-
  `handle_publish` refuses the packet without a call, or
  everything it reads and hands over lies inside the region.
-/
def Contained
    (port : Port E)
    (fuel : Nat)
    (callback : Callback E)
    (timer : TimerName)
    (w : Run E)
    (start length : Nat) : Prop :=
  (∃ rc, rc ≠ .success ∧
    (handlePublish port fuel callback timer).run w =
      (some rc, w)) ∨
  ∃ msg,
    deserializePublish w.st.client.readBuf
        w.st.client.readBufSize = .ok msg ∧
      msg.IdInside start length ∧
      ∀ seen, Hands port callback msg w seen →
        seen.Inside start length

/- The message of a packet that is not cut off. -/
theorem storedMessage_inside
    (buf : Buffer)
    {header : UInt8}
    {body : Bytes}
    (hFits : TopicFits body)
    (hWhole :
      headerQos header = .qos0 ∨
        4 + topicLength body ≤ decodedLength body) :
    (storedMessage buf header body).Inside (bodyStart body)
        (decodedLength body) ∧
      (storedMessage buf header body).IdInside
        (bodyStart body) (decodedLength body) := by
  unfold TopicFits at hFits
  by_cases hQos : headerQos header = .qos0
  · constructor
    · constructor <;> simp [storedMessage, hQos] <;> omega
    · intro hId
      simp [storedMessage, hQos] at hId
  · have hEnough := hWhole.resolve_left hQos
    constructor
    · constructor <;> simp [storedMessage, hQos] <;> omega
    · intro _
      simp only [storedMessage]
      omega

/- A handler sees the slices of the decoded message. -/
theorem inside_of_hands
    {msg seen : Message}
    {w : Run E}
    {start length : Nat}
    (hInside : msg.Inside start length)
    (hHands : Hands port callback msg w seen) :
    seen.Inside start length := by
  rcases hHands with ⟨_, _, _, _, _, _, _, hCalled⟩
  rw [hCalled.seen_eq]
  exact
    ⟨hInside.topic_ge, hInside.topic_le, hInside.payload_ge,
      hInside.payload_le⟩

/- The log has grown. -/
def LongerThan (n : Nat) (w : Run E) : Prop :=
  n < w.log.length

theorem longerThan_kept
    {α : Type}
    (n : Nat)
    (p : Code E α) :
    Triple (Contract.plain (Sys E) Event) (LongerThan n) p
      (fun _ => LongerThan n) := by
  apply Triple.log_mono (I := fun l => n < l.length)
  intro es l hLong
  rw [List.length_append]
  omega

/- A state change that was tried shows in the log. -/
theorem setClientState_longer
    (port : Port E)
    (expected new : ClientState)
    (n : Nat) :
    Triple (Contract.plain (Sys E) Event)
      (fun w => w.log.length = n)
      (setClientState port expected new)
      (fun _ => LongerThan n) := by
  refine Triple.bind (M := fun _ w => w.log.length = n) ?_ ?_
  · refine (uses_lockMutex port _).triple
      (fun _ _ => trivial) ?_
    rintro s s' es l ⟨_, rfl⟩ hLength
    exact hLength
  intro rc
  apply Triple.ite
  · intro _
    refine Triple.bind (M := fun _ => LongerThan n) ?_
      (fun _ => Triple.same)
    apply Triple.emit
    intro w hLength
    right
    unfold LongerThan
    rw [List.length_cons]
    omega
  · intro _
    refine Triple.bind (M := fun _ => LongerThan n) ?_
      (fun _ => longerThan_kept n _)
    apply Triple.step
    intro w hLength
    right
    unfold LongerThan
    dsimp only
    split
    · rw [List.length_append, List.length_singleton]
      omega
    · rw [List.length_append, List.length_singleton]
      omega

/- A PUBLISH that is decoded leaves a trace in the log. -/
theorem handlePublish_longer
    {fuel : Nat}
    {timer : TimerName}
    {w w' : Run E}
    {msg : Message}
    {rc : IoTError}
    (hMsg :
      deserializePublish w.st.client.readBuf
        w.st.client.readBufSize = .ok msg)
    (hRun :
      (handlePublish port fuel callback timer).run w =
        (some rc, w')) :
    w.log.length < w'.log.length := by
  have hTriple :
      Triple (Contract.plain (Sys E) Event)
        (fun v => v = w)
        (handlePublish port fuel callback timer)
        (fun _ => LongerThan w.log.length) := by
    refine Triple.bind
      (M := fun c v =>
        deserializePublish c.readBuf c.readBufSize =
            .ok msg ∧ v.log.length = w.log.length) ?_ ?_
    · apply Triple.read
      rintro v rfl
      exact ⟨hMsg, rfl⟩
    intro c
    apply Triple.of_fact
    intro hOk
    rw [hOk]
    refine Triple.seq (Triple.modify (fun _ h => h)) ?_
    intro _
    refine Triple.bind
      (M := fun _ => LongerThan w.log.length) ?_
      (fun _ => longerThan_kept _ _)
    refine Triple.seq (Triple.read (fun _ h => h)) ?_
    intro clientState
    exact
      (setClientState_longer port clientState
        .connectedWaitForCbReturn _).bind
        (fun _ => longerThan_kept _ _)
  rcases hTriple.of_run rfl hRun with hNo | hLong
  · exact hNo.elim
  · exact hLong

/-
  For a PUBLISH that the reader has stored, nothing outside
  its body is read or handed to a handler exactly when the
  packet does not end inside its packet identifier.
-/
theorem contained_iff_not_cutOff
    (port : Port E)
    (fuel readFuel : Nat)
    (callback : Callback E)
    (timer : TimerName)
    (w₀ w : Run E)
    (hRead :
      (readPacket port readFuel).run w₀ =
        (some (.success, some MessageType.publish.nibble),
          w)) :
    ∃ header body l,
      w.log =
          .rxPacket (header :: (lengthField body ++ body)) ::
            l ∧
        Stored w.st.client.readBuf header body ∧
        (Contained port fuel callback timer w
            (bodyStart body) (decodedLength body) ↔
          ¬ CutOff w.st.client.readBufSize header body) := by
  have hReader :=
    readPacket_stores port readFuel
      w₀.st.client.readBufSize
  rcases hReader.of_run rfl hRead with hNo | hStores
  · exact hNo.elim
  rcases hStores rfl with
    ⟨header, body, hType, hStored, _, hSize, l, hLog⟩
  refine ⟨header, body, l, hLog, hStored, ?_⟩
  have hPublish := Option.some.inj hType
  rcases deserializePublish_stored hStored hPublish.symm
    w.st.client.readBufSize with
    ⟨hFits, hMsg⟩ | ⟨hRefused, rc, hRc, hMsg⟩
  · constructor
    · rintro hContained hCut
      rcases hContained with
        ⟨rc, hRc, hRun⟩ | ⟨msg, hOk, hId, _⟩
      · have hLong := handlePublish_longer hMsg hRun
        omega
      · rw [hMsg] at hOk
        cases hOk
        have hSome :
            (storedMessage w.st.client.readBuf header
              body).id ≠ none := by
          simp [storedMessage, hCut.with_id]
        have hEnd := (hId hSome).2
        have hCutOff := hCut.id_cut
        simp only [storedMessage] at hEnd
        omega
    · intro hWhole
      right
      refine ⟨_, hMsg, ?_⟩
      have hUncut :
          headerQos header = .qos0 ∨
            4 + topicLength body ≤ decodedLength body := by
        by_contra hNo
        rw [not_or] at hNo
        exact
          hWhole
            ⟨hFits.1, hFits.2.1, hNo.1, hFits.2.2, by omega⟩
      have hInside :=
        storedMessage_inside w.st.client.readBuf hFits.2.2
          hUncut
      exact
        ⟨hInside.2,
          fun seen hHands => inside_of_hands hInside.1 hHands⟩
  · constructor
    · intro _ hCut
      exact
        hRefused
          ⟨hCut.large, hCut.short_field, hCut.topic_fits⟩
    · intro _
      left
      refine ⟨rc, hRc, ?_⟩
      have hClient :
          (getClient : Code E Client).run w =
            (some w.st.client, w) := rfl
      unfold handlePublish
      rw [Prog.run_bind_of_run hClient, hMsg]
      rfl

/- A client with one handler that is sent some bytes. -/
def oneHandler (packet : Bytes) : Run Script :=
  scriptStart
    (scriptClient .connectedIdle
      [letterSlot 97 lowerA_ne])
    { Script.idle with
      incoming := [some packet]
      timers := [false] }

theorem contained_iff_not_cutOff_publish :
    ∃ w header body,
      (readPacket scriptPort 6).run
          (oneHandler (publishPacket 97)) =
        (some (.success, some MessageType.publish.nibble),
          w) ∧
      (Contained scriptPort 6 (fun _ _ _ => pure ()) .yield w
          (bodyStart body) (decodedLength body) ↔
        ¬ CutOff w.st.client.readBufSize header body) := by
  have hRun :=
    Prog.run_of_returns
      (a := (IoTError.success,
        some MessageType.publish.nibble))
      (p := readPacket scriptPort 6)
      (w := oneHandler (publishPacket 97))
      (by decide +kernel)
  rcases
    contained_iff_not_cutOff scriptPort 6 6
      (fun _ _ _ => pure ()) .yield _ _ hRun with
    ⟨header, body, _, _, _, hIff⟩
  exact ⟨_, header, body, hRun, hIff⟩

/- The event hands over a payload that ends past an offset. -/
def Event.payloadPast (stop : Nat) : Event → Bool
  | .deliver _ _ _ msg =>
      stop < msg.payloadOff + msg.payloadLen
  | _ => false

/-
  A PUBLISH of quality of service one that ends behind its
  topic.  The packet has five bytes; the payload the handler
  receives has all but two of the values of its length type.
-/
theorem missingId_escapes :
    ∃ w,
      (cycleRead scriptPort 6 (fun _ _ _ => pure ())
          .yield).run
        (oneHandler [50, 3, 0, 1, 97]) =
        (some (.success, some MessageType.publish.nibble),
          w) ∧
      ∃ slot handler data msg,
        .deliver slot handler data msg ∈ w.log ∧
          ¬ msg.Inside 2 3 := by
  refine ⟨_, Prog.run_of_returns (by decide +kernel), ?_⟩
  have hAny :
      ((cycleRead scriptPort 6 (fun _ _ _ => pure ())
        .yield).run
          (oneHandler [50, 3, 0, 1, 97])).2.log.any
        (Event.payloadPast 5) = true := by
    decide +kernel
  rcases List.any_eq_true.mp hAny with ⟨e, hMem, hPast⟩
  cases e with
  | deliver slot handler data msg =>
      refine ⟨slot, handler, data, msg, hMem, ?_⟩
      intro hInside
      have hLe := hInside.payload_le
      have hPastEnd :
          5 < msg.payloadOff + msg.payloadLen := by
        simpa [Event.payloadPast] using hPast
      omega
  | _ => cases hPast

end Mqtt

end TrustOnboard
