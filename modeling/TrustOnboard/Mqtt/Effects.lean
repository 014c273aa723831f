import TrustOnboard.Mqtt.Grammar
import TrustOnboard.Mqtt.Slices
import TrustOnboard.Mqtt.Streaming

/-
  What a packet does, told by its bytes alone.

  A packet the client has read is handed on by its type.  The
  effect of that on the application and on the peer depends
  on the bytes of the packet and on the table of handlers,
  and on nothing else that is in the client: the receive
  buffer, the packets before and the way in which the bytes
  came in do not matter.

  Key definitions include:
    * `Effect`
    * `Packet.effects`
    * `Packet.result`
    * `Went`

  Key results include:
    * `deserializePublish_contents`
    * `went_handlePublish`
    * `went_cycleRead`
-/

------------------------------------------------------------
-- Effects
------------------------------------------------------------

namespace TrustOnboard

namespace Mqtt

/- What the application and the peer see of the client. -/
inductive Effect where
  | received (packet : Bytes)
  | sent (packet : Bytes)
  | handed
      (slot : Nat)
      (handler : HandlerId)
      (data : Nat)
      (contents : PublishContents)

/- What a handler reads of a message. -/
def Message.contents (m : Message) : PublishContents where
  isDup := m.isDup
  qos := m.qos
  isRetained := m.isRetained
  topic := m.topic
  id := m.id
  payload := m.payload

/- The effect of an event, if it has one. -/
def Event.effect : Event → Option Effect
  | .rxPacket packet => some (.received packet)
  | .txPacket packet => some (.sent packet)
  | .deliver slot handler data msg =>
      some (.handed slot handler data msg.contents)
  | _ => none

/- The effects of a log, the oldest first. -/
def effects (es : List Event) : List Effect :=
  (es.filterMap Event.effect).reverse

@[simp]
theorem effects_append
    (es l : List Event) :
    effects (es ++ l) = effects l ++ effects es := by
  unfold effects
  rw [List.filterMap_append, List.reverse_append]

theorem effects_cons
    (e : Event)
    (l : List Event) :
    effects (e :: l) = effects l ++ e.effect.toList := by
  unfold effects
  cases hEffect : e.effect with
  | none =>
      rw [List.filterMap_cons_none hEffect]
      exact (List.append_nil _).symm
  | some out =>
      rw [List.filterMap_cons_some hEffect,
        List.reverse_cons]
      rfl

theorem effects_of_none
    {es : List Event}
    (hNone : ∀ e ∈ es, e.effect = none) :
    effects es = [] := by
  unfold effects
  rw [List.filterMap_eq_nil_iff.mpr hNone]
  rfl

theorem effect_of_isInput
    {e : Event}
    (hInput : e.isInput = true) :
    e.effect = none := by
  cases e
  all_goals first | rfl | cases hInput

end Mqtt

end TrustOnboard

------------------------------------------------------------
-- The Effects Of A Packet
------------------------------------------------------------

namespace TrustOnboard

namespace Mqtt

/- A handler whose slot accepts the topic is called. -/
def MessageHandlers.handed
    (slot : MessageHandlers)
    (itr : Nat)
    (contents : PublishContents) : Option Effect :=
  if slot.accepts contents.topic then
    slot.pApplicationHandler.map (fun handler =>
      .handed itr handler slot.pApplicationHandlerData
        contents)
  else
    none

/- The calls of the handlers, in the order of the table. -/
def handedOver
    (table : List MessageHandlers)
    (contents : PublishContents) : List Effect :=
  (List.range table.length).filterMap (fun itr =>
    table[itr]?.bind (fun slot => slot.handed itr contents))

/- A message with an identifier is acknowledged. -/
def acknowledged
    (contents : PublishContents) : List Effect :=
  (contents.id.map (fun id =>
    Effect.sent (pubackPacket id))).toList

/- The body of a packet is no shorter than the buffer. -/
def Packet.isOversized
    (p : Packet)
    (readBufSize : Nat) : Bool :=
  readBufSize ≤ p.body.length

/- A PUBLISH is handed to the handlers and acknowledged. -/
def Packet.reaction
    (p : Packet)
    (table : List MessageHandlers) : List Effect :=
  match decodePublish p.bytes with
  | none => []
  | some contents =>
      handedOver table contents ++ acknowledged contents

/- The effects of a packet; one that is dropped has none. -/
def Packet.effects
    (p : Packet)
    (readBufSize : Nat)
    (table : List MessageHandlers) : List Effect :=
  if p.isOversized readBufSize then
    []
  else
    .received
        (p.header :: (lengthField p.body ++ p.body)) ::
      p.reaction table

/- The code a packet of this type is handed on with. -/
def Packet.code
    (p : Packet)
    (readBufSize : Nat) : IoTError :=
  match MessageType.ofNibble (headerType p.header) with
  | some .connack => .success
  | some .puback => .success
  | some .suback => .success
  | some .unsuback => .success
  | some .pubrec => .success
  | some .pubcomp => .success
  | some .pingresp => .success
  | some .publish =>
      if (decodePublish p.bytes).isSome then .success
      else if readBufSize < 4 then .mqttRxBufferTooShortError
      else .failure
  | _ => .mqttRxMessagePacketTypeInvalidError

/- What a cycle that reads the packet returns. -/
def Packet.result
    (p : Packet)
    (readBufSize : Nat) : IoTError × Option UInt8 :=
  if p.isOversized readBufSize then
    (.mqttRxBufferTooShortError, none)
  else
    (p.code readBufSize, some (headerType p.header))

/- The packet answers the ping that is outstanding. -/
def Packet.answersPing
    (p : Packet)
    (readBufSize : Nat) : Bool :=
  !p.isOversized readBufSize &&
    headerType p.header == MessageType.pingresp.nibble

/-
  A packet the reader can deal with: it fits in the buffer or
  is dropped whole, and a PUBLISH with a topic does not end
  inside its identifier.
-/
structure Packet.Manageable
    (p : Packet)
    (readBufSize : Nat) : Prop where
  sized : p.Fits readBufSize ∨ p.Oversized readBufSize
  with_id :
    headerType p.header = MessageType.publish.nibble →
      takeString p.body ≠ none →
        decodePublish p.bytes ≠ none

theorem Packet.isOversized_iff
    {p : Packet}
    {readBufSize : Nat} :
    p.isOversized readBufSize = true ↔
      p.Oversized readBufSize :=
  decide_eq_true_iff

theorem Packet.Manageable.fits
    {p : Packet}
    {readBufSize : Nat}
    (hManageable : p.Manageable readBufSize)
    (hSmall : ¬ p.isOversized readBufSize = true) :
    p.Fits readBufSize := by
  rcases hManageable.sized with hFits | hOversized
  · exact hFits
  · exact absurd (p.isOversized_iff.mpr hOversized) hSmall

end Mqtt

end TrustOnboard

------------------------------------------------------------
-- The Client's Decoder And The Format
------------------------------------------------------------

namespace TrustOnboard

namespace Mqtt

/- A packet is one frame, however its length is written. -/
theorem decodeFrame_bytes
    (p : Packet) :
    decodeFrame p.bytes =
      some (FixedHeader.ofByte p.header, p.body) := by
  have hLength :=
    takeLength_field p.field_decodes p.body p.field_short
  unfold decodeFrame Packet.bytes
  dsimp only
  rw [hLength]
  simp

theorem Packet.length_body_small
    (p : Packet) :
    p.body.length < 2 ^ 32 :=
  Nat.lt_of_lt_of_le p.length_body_lt (by decide)

/- The length of a packet is written in four bytes. -/
theorem Packet.lengthField_short
    (p : Packet) :
    (lengthField p.body).length ≤
      maxNoOfRemainingLengthBytes := by
  apply length_writeLenToBuffer_le
  rw [UInt32.toNat_ofNat', Nat.mod_eq_of_lt p.length_body_small]
  exact p.length_body_lt

/- The parts of a packet that is a PUBLISH. -/
theorem decodePublish_parts
    {p : Packet}
    {contents : PublishContents}
    (hContents : decodePublish p.bytes = some contents) :
    headerType p.header = MessageType.publish.nibble ∧
      ∃ topic rest id payload,
        takeString p.body = some (topic, rest) ∧
          takeId (headerQos p.header) rest =
            some (id, payload) ∧
            contents =
              { isDup := headerDup p.header
                qos := headerQos p.header
                isRetained := headerRetain p.header
                topic := topic
                id := id
                payload := payload } := by
  unfold decodePublish at hContents
  rw [decodeFrame_bytes] at hContents
  simp only [Option.bind_eq_bind, Option.bind_some]
    at hContents
  split at hContents
  · rename_i hType
    simp only [Option.bind_eq_some_iff, Prod.exists,
      Option.some.injEq] at hContents
    rcases hContents with
      ⟨topic, rest, hTopic, id, payload, hId, hSame⟩
    exact
      ⟨hType, topic, rest, id, payload, hTopic, hId,
        hSame.symm⟩
  · cases hContents

/- The announced length of a topic that is all there. -/
theorem topicLength_of_takeString
    {body topic rest : Bytes}
    (hTopic : takeString body = some (topic, rest)) :
    topicLength body = topic.length ∧
      ∃ high low, body = [high, low] ++ (topic ++ rest) := by
  rcases takeString_some hTopic with
    ⟨high, low, hBody, hLength⟩
  refine ⟨?_, high, low, hBody⟩
  unfold topicLength readUint16
  rw [hBody, hLength, Nat.mul_comm high.toNat, Nat.add_comm]
  rfl

/- The identifier stands where the decoder reads it. -/
theorem takeId_stored
    {qos : QoS}
    {buf : Buffer}
    {off : Nat}
    {rest payload : Bytes}
    {id : Option UInt16}
    (hId : takeId qos rest = some (id, payload))
    (hRest : buf.load off rest.length = rest)
    {start : Nat}
    (hStart :
      start = if qos = .qos0 then off else off + 2) :
    (if qos = .qos0 then none
      else some (readUint16 buf off)) = id ∧
      start + payload.length = off + rest.length ∧
        buf.load start payload.length = payload := by
  unfold takeId at hId
  by_cases hQos : qos = .qos0
  · rw [if_pos hQos] at hId
    cases hId
    rw [if_pos hQos] at hStart ⊢
    subst hStart
    exact ⟨rfl, rfl, hRest⟩
  · rw [if_neg hQos] at hId hStart ⊢
    subst hStart
    match rest, hId, hRest with
    | [], hId, _ => cases hId
    | [_], hId, _ => cases hId
    | high :: low :: more, hId, hRest =>
        cases hId
        have hParts :
            buf.load off ([high, low] ++ more).length =
              [high, low] ++ more :=
          hRest
        rcases Buffer.load_append hParts with ⟨hTwo, hMore⟩
        have hPair : [high, low].length = 1 + 1 := rfl
        rw [hPair, Buffer.load_succ, Buffer.load_succ,
          Buffer.load_zero] at hTwo
        rw [List.cons.injEq, List.cons.injEq] at hTwo
        refine ⟨?_, ?_, hMore⟩
        · unfold readUint16
          rw [hTwo.1, hTwo.2.1, Nat.mul_comm 256,
            Nat.add_comm]
        · simp only [List.length_cons]
          omega

/-
  A stored packet that is a PUBLISH is decoded to what the
  format says it contains.
-/
theorem deserializePublish_contents
    {p : Packet}
    {buf : Buffer}
    {size : Nat}
    {contents : PublishContents}
    (hStored : Stored buf p.header p.body)
    (hFits : p.Fits size)
    (hContents : decodePublish p.bytes = some contents) :
    ∃ msg,
      deserializePublish buf size = .ok msg ∧
        msg.buf = buf ∧ msg.contents = contents := by
  rcases decodePublish_parts hContents with
    ⟨hType, topic, rest, id, payload, hTopic, hId, rfl⟩
  rcases topicLength_of_takeString hTopic with
    ⟨hTopicLength, high, low, hBody⟩
  have hTotal : p.body.length = 2 + topic.length + rest.length := by
    rw [hBody]
    simp only [List.length_append, List.length_cons,
      List.length_nil]
    omega
  have hSmall := p.length_body_small
  have hDecoded : decodedLength p.body = p.body.length :=
    Nat.mod_eq_of_lt hSmall
  rcases deserializePublish_stored hStored hType size with
    ⟨_, hRead⟩ | ⟨hNot, _⟩
  · refine ⟨_, hRead, rfl, ?_⟩
    have hLoad :
        buf.load (bodyStart p.body)
            ([high, low] ++ (topic ++ rest)).length =
          [high, low] ++ (topic ++ rest) := by
      rw [← hBody]
      exact hStored.body
    rcases Buffer.load_append hLoad with ⟨_, hBehind⟩
    rcases Buffer.load_append hBehind with ⟨hName, hRest⟩
    have hTwo : [high, low].length = 2 := rfl
    rw [hTwo] at hName hRest
    obtain ⟨start, hStart⟩ :
        ∃ start,
          start =
            if headerQos p.header = .qos0 then
              bodyStart p.body + 2 + topic.length
            else
              bodyStart p.body + 2 + topic.length + 2 :=
      ⟨_, rfl⟩
    have hFrom : bodyStart p.body ≤ start := by
      rw [hStart]
      split
      · omega
      · omega
    rcases takeId_stored hId hRest hStart with
      ⟨hNumber, hEnd, hPayload⟩
    simp only [Message.contents, Message.topic,
      Message.payload, storedMessage, hTopicLength, hDecoded,
      PublishContents.mk.injEq, true_and]
    refine ⟨hName, hNumber, ?_⟩
    rw [← hStart]
    have hLength :
        (2 ^ 64 + (bodyStart p.body + p.body.length) -
            start) % 2 ^ 64 =
          payload.length := by
      omega
    rw [hLength]
    exact hPayload
  · refine absurd ⟨?_, p.lengthField_short, ?_⟩ hNot
    · have hPos := p.field_decodes.length_pos
      unfold Packet.Fits at hFits
      omega
    · unfold TopicFits
      omega

/- A topic that fits in the body is taken from it. -/
theorem takeString_of_topicFits
    {body : Bytes}
    (hSmall : body.length < 2 ^ 32)
    (hFits : TopicFits body) :
    takeString body ≠ none := by
  have hDecoded : decodedLength body = body.length :=
    Nat.mod_eq_of_lt hSmall
  unfold TopicFits at hFits
  rw [hDecoded] at hFits
  match body, hFits with
  | [], hFits => simp at hFits
  | [_], hFits =>
      simp only [List.length_singleton] at hFits
      omega
  | high :: low :: rest, hFits =>
      have hLength :
          topicLength (high :: low :: rest) =
            (UInt16.ofNat
              (high.toNat * 256 + low.toNat)).toNat := by
        unfold topicLength readUint16
        rw [Nat.mul_comm high.toNat, Nat.add_comm]
        rfl
      simp only [List.length_cons] at hFits
      unfold takeString takeUint16
      dsimp only
      rw [if_pos (by omega)]
      exact Option.some_ne_none _

/- A PUBLISH whose topic is cut off is refused. -/
theorem deserializePublish_refused
    {p : Packet}
    {buf : Buffer}
    (hStored : Stored buf p.header p.body)
    (hType :
      headerType p.header = MessageType.publish.nibble)
    (hNone : takeString p.body = none)
    (size : Nat) :
    deserializePublish buf size =
      .error
        (if size < 4 then .mqttRxBufferTooShortError
        else .failure) := by
  have hSmall := p.length_body_small
  unfold deserializePublish
  rw [hStored.header, hStored.decode]
  by_cases hLarge : size < 4
  · rw [if_pos hLarge, if_pos hLarge]
  · rw [if_neg hLarge, if_neg (not_not.mpr hType),
      if_pos p.lengthField_short, if_neg hLarge]
    dsimp only
    rcases hStored.readStringWithLen with
      ⟨hFits, _⟩ | ⟨_, hRead⟩
    · exact absurd hNone (takeString_of_topicFits hSmall hFits)
    · unfold bodyStart decodedLength at hRead
      rw [hRead]

end Mqtt

end TrustOnboard

------------------------------------------------------------
-- Sending Over A Stream
------------------------------------------------------------

namespace TrustOnboard

namespace Mqtt

variable {E : Type}
variable {C : Contract (Sys E) Event}
variable {port : Port E}
variable {timer : TimerName}
variable {rest : E → Bytes}
variable {c : Client}
variable {l : List Event}
variable {ys : Bytes}

/- The client is known, and events without effect happened. -/
def Quietly
    (c : Client)
    (l : List Event)
    (A : E → Prop)
    (w : Run E) : Prop :=
  ∃ es, (∀ e ∈ es, e.effect = none) ∧ Here c (es ++ l) A w

/- One round of a send puts all the bytes on the stream. -/
theorem quietly_sendRounds
    (hStream : Streaming port timer rest)
    {length : Nat}
    (hPos : 0 < length)
    {fuel : Nat}
    (hFuel : 2 ≤ fuel) :
    Triple C (Here c l (Ahead rest ys))
      (sendRounds port fuel length timer)
      (fun sent w =>
        sent = length ∧ Quietly c l (Ahead rest ys) w) := by
  rcases Nat.exists_eq_add_of_le' hFuel with ⟨fuel, rfl⟩
  unfold sendRounds
  rw [Prog.loop_succ, if_pos hPos]
  refine Triple.bind
    (M := fun next w =>
      next = .inl length ∧ Quietly c l (Ahead rest ys) w)
    ?_ ?_
  · refine Triple.bind
      (M := fun expired w =>
        expired = false ∧
          Here c (.timerChecked timer false :: l)
            (Ahead rest ys) w)
      (Triple.step ?_) ?_
    · rintro w ⟨hClient, hLog, hA⟩
      right
      have hTime := hStream.in_time w.st.env
      refine ⟨hTime, hClient, ?_, ?_⟩
      · dsimp only
        rw [hTime, hLog]
        rfl
      · exact (hStream.hasTimerExpired _ _).trans hA
    intro expired
    apply Triple.of_fact
    rintro rfl
    refine Triple.bind
      (M := fun r w =>
        r = (.success, length) ∧
          Quietly c l (Ahead rest ys) w)
      (Triple.step ?_) ?_
    · rintro w ⟨hClient, hLog, hA⟩
      right
      have hWrite :=
        hStream.write (w.st.client.writeBuf.load 0 length)
          w.st.env
      refine
        ⟨?_, [.netWrite length _ _, .timerChecked timer false],
          ?_, hClient, congrArg (_ :: ·) hLog,
          hWrite.2.trans hA⟩
      · dsimp only
        rw [hWrite.1]
        simp [WriteResult.rc, WriteResult.count]
      · intro e he
        simp only [List.mem_cons, List.not_mem_nil,
          or_false] at he
        rcases he with rfl | rfl
        · rfl
        · rfl
    intro r
    apply Triple.of_fact
    rintro rfl
    refine Triple.ite (fun hNo => absurd rfl hNo) ?_
    intro _
    apply Triple.ret
    intro w hQuietly
    exact ⟨by rw [Nat.zero_add], hQuietly⟩
  · intro next
    apply Triple.of_fact
    rintro rfl
    dsimp only
    rw [Prog.loop_succ, if_neg (Nat.lt_irrefl length)]
    exact Triple.ret (fun _ hQuietly => ⟨rfl, hQuietly⟩)

/- What an encoder delivers is put into the buffer. -/
theorem here_serialize
    {A : E → Prop}
    {r : Client → Serialized}
    {bs : Bytes}
    (hEnc : r c = some (.ok bs)) :
    Triple C (Here c l A) (serialize r)
      (fun res w =>
        res = .ok bs.length ∧
          Here { c with writeBuf := c.writeBuf.store 0 bs } l
            A w) := by
  intro w hHere
  rcases hHere with ⟨rfl, hLog, hA⟩
  rw [serialize_run hEnc]
  exact Or.inr ⟨rfl, rfl, hLog, hA⟩

/- A packet in the buffer is sent whole. -/
theorem effects_sendPacket
    (hStream : Streaming port timer rest)
    (hLocks : Lockable port (Ahead rest ys) c)
    {bs : Bytes}
    (hBuf : c.writeBuf.load 0 bs.length = bs)
    (hPos : 0 < bs.length)
    (hShort : bs.length < c.writeBufSize)
    {fuel : Nat}
    (hFuel : 2 ≤ fuel) :
    Triple C (Here c l (Ahead rest ys))
      (sendPacket port fuel bs.length timer)
      (fun rc w =>
        rc = .success ∧
          ∃ es,
            effects es = [.sent bs] ∧
              Here c (es ++ l) (Ahead rest ys) w) := by
  refine Triple.bind
    (M := fun c' w =>
      c' = c ∧ Here c l (Ahead rest ys) w)
    (Triple.read (fun _ hHere => ⟨hHere.1, hHere⟩)) ?_
  intro c'
  apply Triple.of_fact
  rintro rfl
  refine
    Triple.ite
      (fun hNo => absurd hShort (Nat.not_lt.mpr hNo)) ?_
  intro _
  refine (here_lockMutex hLocks l .tlsWrite).bind ?_
  intro rc
  apply Triple.of_fact
  rintro rfl
  refine Triple.ite (fun hNo => absurd rfl hNo) ?_
  intro _
  refine (quietly_sendRounds hStream hPos hFuel).bind ?_
  intro sent
  apply Triple.of_fact
  rintro rfl
  apply Triple.exists_pre
  intro es
  apply Triple.of_fact
  intro hNone
  refine (here_unlockMutex hLocks _ .tlsWrite).bind ?_
  intro threadRc
  apply Triple.of_fact
  rintro rfl
  refine Triple.ite (fun hNo => absurd rfl hNo) ?_
  intro _
  rw [if_pos rfl]
  refine Triple.bind
    (M := fun _ =>
      Here c' (.txPacket bs :: (es ++ l)) (Ahead rest ys))
    (Triple.emit ?_) ?_
  · intro w hHere
    rcases hHere with ⟨hClient, hLog, hA⟩
    right
    refine ⟨hClient, ?_, hA⟩
    dsimp only
    rw [hClient, hLog, hBuf]
  · intro _
    apply Triple.ret
    intro w hHere
    refine ⟨rfl, .txPacket bs :: es, ?_, hHere⟩
    rw [effects_cons, effects_of_none hNone]
    rfl

/- A packet that an encoder delivers is sent whole. -/
theorem effects_sendSerialized
    (hStream : Streaming port timer rest)
    (hLocks : Lockable port (Ahead rest ys) c)
    {r : Client → Serialized}
    {bs : Bytes}
    (hEnc : r c = some (.ok bs))
    (hPos : 0 < bs.length)
    (hShort : bs.length < c.writeBufSize)
    {fuel : Nat}
    (hFuel : 2 ≤ fuel) :
    Triple C (Here c l (Ahead rest ys))
      (sendSerialized port fuel timer r)
      (fun rc w =>
        rc = .success ∧
          ∃ es,
            effects es = [.sent bs] ∧
              Here
                { c with writeBuf := c.writeBuf.store 0 bs }
                (es ++ l) (Ahead rest ys) w) := by
  apply (here_serialize hEnc).bind
  intro encoded
  apply Triple.of_fact
  rintro rfl
  apply
    effects_sendPacket
      (c := { c with writeBuf := c.writeBuf.store 0 bs })
      hStream ⟨hLocks.free, hLocks.trylock⟩
  · exact c.writeBuf.load_store_self 0 bs
  · exact hPos
  · exact hShort
  · exact hFuel

end Mqtt

end TrustOnboard

------------------------------------------------------------
-- A PUBLISH
------------------------------------------------------------

namespace TrustOnboard

namespace Mqtt

variable {E : Type}
variable {C : Contract (Sys E) Event}
variable {port : Port E}
variable {callback : Callback E}
variable {timer : TimerName}
variable {rest : E → Bytes}
variable {c : Client}
variable {l : List Event}
variable {ys : Bytes}

/- The calls of the handlers are those the contents ask for. -/
theorem effects_deliveries
    {msg : Message}
    (hSeen : c.sees msg = msg) :
    effects (c.deliveries msg).reverse =
      handedOver c.messageHandlers msg.contents := by
  have hCall :
      ∀ itr,
        (c.delivery msg itr).bind Event.effect =
          c.messageHandlers[itr]?.bind
            (fun slot => slot.handed itr msg.contents) := by
    intro itr
    unfold Client.delivery
    cases c.messageHandlers[itr]? with
    | none => rfl
    | some slot =>
        dsimp only
        rw [hSeen]
        unfold MessageHandlers.handed
        change
          _ =
            if slot.accepts msg.topic = true then _ else _
        by_cases hAccepts : slot.accepts msg.topic = true
        · rw [if_pos hAccepts, if_pos hAccepts]
          cases slot.pApplicationHandler with
          | none => rfl
          | some handler => rfl
        · rw [if_neg hAccepts, if_neg hAccepts]
          rfl
  unfold effects Client.deliveries handedOver
  rw [List.filterMap_reverse, List.reverse_reverse,
    List.filterMap_filterMap]
  exact congrArg (List.filterMap · _) (funext hCall)

/- A delivery has the effects of its calls. -/
theorem effects_deliveredLog
    {msg : Message}
    (hSeen : c.sees msg = msg)
    (l : List Event) :
    ∃ es,
      effects es = handedOver c.messageHandlers msg.contents ∧
        c.deliveredLog msg l = es ++ l := by
  refine
    ⟨.setState .connectedWaitForCbReturn c.clientState
        .connectedWaitForCbReturn ::
      ((c.deliveries msg).reverse ++
        [.setState c.clientState .connectedWaitForCbReturn
          c.clientState]), ?_, ?_⟩
  · rw [effects_cons, effects_append,
      effects_deliveries hSeen]
    exact List.append_nil _
  · unfold Client.deliveredLog
    simp

/-
  A stored PUBLISH is handed to the handlers and acknowledged
  as its contents ask for, or refused.
-/
theorem effects_handlePublish
    (hStream : Streaming port timer rest)
    (hLocks : Lockable port (Ahead rest ys) c)
    (hCb : Calm C (Ahead rest ys) callback)
    (hAck : 5 ≤ c.writeBufSize)
    {p : Packet}
    (hStored : Stored c.readBuf p.header p.body)
    (hFits : p.Fits c.readBufSize)
    (hType :
      headerType p.header = MessageType.publish.nibble)
    (hManageable : p.Manageable c.readBufSize)
    {fuel : Nat}
    (hFuel : 2 ≤ fuel) :
    Triple C (Here c l (Ahead rest ys))
      (handlePublish port fuel callback timer)
      (fun rc w =>
        rc = p.code c.readBufSize ∧
          ∃ es writeBuf,
            effects es = p.reaction c.messageHandlers ∧
              Here { c with writeBuf := writeBuf } (es ++ l)
                (Ahead rest ys) w) := by
  have hCode :
      p.code c.readBufSize =
        if (decodePublish p.bytes).isSome then .success
        else if c.readBufSize < 4 then
          .mqttRxBufferTooShortError
        else .failure := by
    unfold Packet.code
    rw [hType]
    rfl
  rw [hCode]
  unfold Packet.reaction
  refine Triple.bind
    (M := fun c' w =>
      c' = c ∧ Here c l (Ahead rest ys) w)
    (Triple.read (fun _ hHere => ⟨hHere.1, hHere⟩)) ?_
  intro c'
  apply Triple.of_fact
  rintro rfl
  cases hContents : decodePublish p.bytes with
  | none =>
      have hNone : takeString p.body = none := by
        by_contra hSome
        exact hManageable.with_id hType hSome hContents
      rw [deserializePublish_refused hStored hType hNone]
      apply Triple.ret
      intro w hHere
      exact ⟨rfl, [], c'.writeBuf, rfl, hHere⟩
  | some contents =>
      rcases deserializePublish_contents hStored hFits
          hContents with
        ⟨msg, hRead, hBuf, rfl⟩
      rw [hRead]
      dsimp only
      have hSeen : (c'.handling msg).sees msg = msg := by
        rw [Client.sees_of_head rfl]
        change { msg with buf := c'.readBuf } = msg
        rw [← hBuf]
      rcases effects_deliveredLog hSeen l with
        ⟨es, hHanded, hLog⟩
      change effects es = handedOver c'.messageHandlers _
        at hHanded
      refine here_handleMessage hLocks hCb l msg ?_
      rw [hLog, hSeen]
      refine Triple.ite (fun hNo => absurd rfl hNo) ?_
      intro _
      rw [deserializePublish_ackId hRead]
      cases hId : msg.id with
      | none =>
          apply Triple.ret
          intro w hHere
          refine ⟨rfl, es, c'.writeBuf, ?_, hHere⟩
          have hNoAck : acknowledged msg.contents = [] := by
            unfold acknowledged
            change (msg.id.map _).toList = []
            rw [hId]
            rfl
          rw [hNoAck, List.append_nil]
          exact hHanded
      | some id =>
          have hEnc :
              serializeAck c'.writeBufSize .puback 0 id =
                some (.ok (pubackPacket id)) := by
            unfold serializeAck
            rw [if_neg (by omega)]
            rfl
          refine
            (effects_sendSerialized hStream hLocks
              (r := fun c =>
                serializeAck c.writeBufSize .puback 0 id)
              hEnc (Nat.zero_lt_succ _)
              (Nat.lt_of_succ_le hAck) hFuel).post ?_
          intro rc w hSent
          rcases hSent with ⟨rfl, es', hEffects, hHere⟩
          refine
            ⟨rfl, es' ++ es,
              c'.writeBuf.store 0 (pubackPacket id), ?_, ?_⟩
          · have hAcked :
                acknowledged msg.contents =
                  [.sent (pubackPacket id)] := by
              unfold acknowledged
              change (msg.id.map _).toList = _
              rw [hId]
              rfl
            rw [effects_append, hHanded, hEffects, hAcked]
          · rw [List.append_assoc]
            exact hHere

/- No other packet has contents to hand over. -/
theorem reaction_of_other
    {p : Packet}
    (hOther :
      headerType p.header ≠ MessageType.publish.nibble)
    (table : List MessageHandlers) :
    p.reaction table = [] := by
  unfold Packet.reaction
  cases hContents : decodePublish p.bytes with
  | none => rfl
  | some contents =>
      exact absurd (decodePublish_parts hContents).1 hOther

/- The dispatch of other packets is done at once. -/
theorem dispatchPacket_other
    {p : Packet}
    (hOther :
      headerType p.header ≠ MessageType.publish.nibble)
    (hPing :
      headerType p.header ≠ MessageType.pingresp.nibble)
    (fuel size : Nat) :
    dispatchPacket port fuel callback timer
        (headerType p.header) =
      pure (p.code size) := by
  unfold dispatchPacket Packet.code
  cases hOf : MessageType.ofNibble (headerType p.header) with
  | none => rfl
  | some type =>
      have hType := MessageType.eq_nibble hOf
      cases type
      case publish => exact absurd hType hOther
      case pingresp => exact absurd hType hPing
      all_goals rfl

/- A stored packet is dispatched with its own effects. -/
theorem effects_dispatchPacket
    (hStream : Streaming port timer rest)
    (hLocks : Lockable port (Ahead rest ys) c)
    (hCb : Calm C (Ahead rest ys) callback)
    (hAck : 5 ≤ c.writeBufSize)
    {p : Packet}
    (hStored : Stored c.readBuf p.header p.body)
    (hFits : p.Fits c.readBufSize)
    (hManageable : p.Manageable c.readBufSize)
    {fuel : Nat}
    (hFuel : 2 ≤ fuel) :
    Triple C (Here c l (Ahead rest ys))
      (dispatchPacket port fuel callback timer
        (headerType p.header))
      (fun rc w =>
        rc = p.code c.readBufSize ∧
          ∃ es writeBuf,
            effects es = p.reaction c.messageHandlers ∧
              Here
                { c with
                  writeBuf := writeBuf
                  isPingOutstanding :=
                    c.isPingOutstanding &&
                      !(headerType p.header ==
                        MessageType.pingresp.nibble) }
                (es ++ l) (Ahead rest ys) w) := by
  by_cases hType :
      headerType p.header = MessageType.publish.nibble
  · have hRun :
        dispatchPacket port fuel callback timer
            (headerType p.header) =
          handlePublish port fuel callback timer := by
      rw [hType]
      rfl
    have hSame :
        (c.isPingOutstanding &&
          !(headerType p.header ==
            MessageType.pingresp.nibble)) =
          c.isPingOutstanding := by
      rw [hType]
      exact Bool.and_true _
    rw [hRun, hSame]
    exact
      effects_handlePublish hStream hLocks hCb hAck hStored
        hFits hType hManageable hFuel
  rw [reaction_of_other hType]
  by_cases hPing :
      headerType p.header = MessageType.pingresp.nibble
  · have hRun :
        dispatchPacket port fuel callback timer
            (headerType p.header) =
          handlePingresp port := by
      rw [hPing]
      rfl
    have hCode : p.code c.readBufSize = .success := by
      unfold Packet.code
      rw [hPing]
      rfl
    have hClear :
        (c.isPingOutstanding &&
          !(headerType p.header ==
            MessageType.pingresp.nibble)) = false := by
      rw [hPing]
      exact Bool.and_false _
    rw [hRun, hCode, hClear]
    refine Triple.bind
      (M := fun _ =>
        Here { c with isPingOutstanding := false } l
          (Ahead rest ys))
      (Triple.modify ?_) ?_
    · intro w hHere
      rcases hHere with ⟨rfl, hLog, hA⟩
      exact ⟨rfl, hLog, hA⟩
    intro _
    refine Triple.seq (Triple.read (fun _ hHere => hHere)) ?_
    intro c'
    refine Triple.seq (Triple.modify ?_) ?_
    · intro w hHere
      rcases hHere with ⟨hClient, hLog, hA⟩
      exact
        ⟨hClient, hLog,
          (hStream.countdown _ _ _).trans hA⟩
    intro _
    apply Triple.ret
    intro w hHere
    exact ⟨rfl, [], c.writeBuf, rfl, hHere⟩
  · have hSame :
        (c.isPingOutstanding &&
          !(headerType p.header ==
            MessageType.pingresp.nibble)) =
          c.isPingOutstanding := by
      rw [beq_false_of_ne hPing]
      exact Bool.and_true _
    rw [dispatchPacket_other hType hPing fuel c.readBufSize,
      hSame]
    apply Triple.ret
    intro w hHere
    exact ⟨rfl, [], c.writeBuf, rfl, hHere⟩

end Mqtt

end TrustOnboard

------------------------------------------------------------
-- One Cycle
------------------------------------------------------------

namespace TrustOnboard

namespace Mqtt

variable {E : Type}
variable {C : Contract (Sys E) Event}
variable {port : Port E}
variable {callback : Callback E}
variable {timer : TimerName}
variable {rest : E → Bytes}
variable {c : Client}
variable {l : List Event}
variable {ys : Bytes}

/-
  A client that can take packets: its mutexes are free, where
  there are threads, and its buffers hold a byte to read and
  an acknowledgement to write.
-/
structure Client.Ready
    (c : Client)
    (port : Port E) : Prop where
  free :
    port.threadSupport = true → ∀ m, c.locked m = false
  room_read : 0 < c.readBufSize
  room_ack : 5 ≤ c.writeBufSize

/- The buffers and the flag of the ping do not matter. -/
theorem Client.Ready.touched
    (hReady : c.Ready port)
    (readBuf writeBuf : Buffer)
    (ping : Bool) :
    Client.Ready
      { c with
        readBuf := readBuf
        writeBuf := writeBuf
        isPingOutstanding := ping } port :=
  ⟨hReady.free, hReady.room_read, hReady.room_ack⟩

/- On a stream free mutexes can be had. -/
theorem Streaming.lockable
    (hStream : Streaming port timer rest)
    (hReady : c.Ready port) :
    Lockable port (Ahead rest ys) c where
  free := hReady.free
  trylock := by
    intro _ m e hA
    have hTry := hStream.mutexTrylock m e
    exact ⟨hTry.1, hTry.2.trans hA⟩

/- On a stream the callbacks leave the client alone. -/
theorem Streaming.calm
    (hStream : Streaming port timer rest)
    (call : ApiCall → Code E IoTError) :
    Calm C (Ahead rest ys) (runCallback port call) := by
  apply calm_runCallback
  · intro handler data msg e
    exact (hStream.onMessage handler data msg e).1
  · intro handler data msg e hA
    exact (hStream.onMessage handler data msg e).2.trans hA

/-
  The client differs from a known one in its buffers and the
  ping it waits for, and since a point in the log these were
  the effects.
-/
structure Went
    (c : Client)
    (l : List Event)
    (A : E → Prop)
    (out : List Effect)
    (answered : Bool)
    (w : Run E) : Prop where
  client :
    ∃ readBuf writeBuf,
      w.st.client =
        { c with
          readBuf := readBuf
          writeBuf := writeBuf
          isPingOutstanding :=
            c.isPingOutstanding && !answered }
  env : A w.st.env
  log : ∃ es, w.log = es ++ l ∧ effects es = out

/-
  What goes on after a change of the client is put behind what
  went on before it, where the client ends as one that had the
  change at the start.
-/
theorem Went.changed
    {A B : E → Prop}
    {out out' : List Effect}
    {answered answered' : Bool}
    {w w' : Run E}
    {before after : Client}
    (hFirst : Went c l A out answered w)
    (hSecond : Went after w.log B out' answered' w')
    (hClient :
      ∃ readBuf writeBuf,
        w'.st.client =
          { before with
            readBuf := readBuf
            writeBuf := writeBuf
            isPingOutstanding :=
              before.isPingOutstanding &&
                !(answered || answered') }) :
    Went before l B (out ++ out') (answered || answered')
      w' where
  client := hClient
  env := hSecond.env
  log := by
    rcases hFirst.log with ⟨es, hFrom, hOut⟩
    rcases hSecond.log with ⟨es', hTo, hOut'⟩
    refine ⟨es' ++ es, ?_, ?_⟩
    · rw [hTo, hFrom, List.append_assoc]
    · rw [effects_append, hOut, hOut']

/- What happened so far, and what happens from there on. -/
theorem Went.trans
    {A B : E → Prop}
    {out out' : List Effect}
    {answered answered' : Bool}
    {w w' : Run E}
    (hFirst : Went c l A out answered w)
    (hSecond :
      Went w.st.client w.log B out' answered' w') :
    Went c l B (out ++ out') (answered || answered') w' := by
  rcases hFirst.client with ⟨_, _, hFrom⟩
  rcases hSecond.client with ⟨readBuf, writeBuf, hTo⟩
  refine hFirst.changed hSecond ⟨readBuf, writeBuf, ?_⟩
  rw [hTo, hFrom]
  dsimp only
  rw [Bool.not_or, Bool.and_assoc]

/- Nothing happened. -/
theorem Went.refl
    {A : E → Prop}
    {w : Run E}
    (hA : A w.st.env) :
    Went w.st.client w.log A [] false w where
  client :=
    ⟨w.st.client.readBuf, w.st.client.writeBuf, by
      rw [Bool.not_false, Bool.and_true]⟩
  env := hA
  log := ⟨[], rfl, rfl⟩

/- Holding a mutex has nothing to do with the buffer. -/
theorem holding_readBuf
    (c : Client)
    (port : Port E)
    (m : Mutex)
    (readBuf : Buffer) :
    { c.holding port m with readBuf := readBuf } =
      Client.holding { c with readBuf := readBuf } port m := by
  unfold Client.holding
  split
  · rfl
  · rfl

theorem holding_readBufSize
    (c : Client)
    (port : Port E)
    (m : Mutex) :
    (c.holding port m).readBufSize = c.readBufSize := by
  unfold Client.holding
  split
  · rfl
  · rfl

/- The lock, the read and the unlock of a cycle. -/
theorem effects_readPacket
    (hStream : Streaming port timer rest)
    (hReady : c.Ready port)
    {p : Packet}
    (hManageable : p.Manageable c.readBufSize)
    {fuel : Nat}
    (hFuel : p.rounds ≤ fuel) :
    Triple C
      (Here (c.holding port .tlsRead) l
        (Ahead rest (p.bytes ++ ys)))
      (readPacket port fuel)
      (fun r w =>
        r =
            (if p.isOversized c.readBufSize then
              (.mqttRxBufferTooShortError, none)
            else (.success, some (headerType p.header))) ∧
          ∃ readBuf es,
            (p.isOversized c.readBufSize = false →
              Stored readBuf p.header p.body) ∧
              effects es =
                (if p.isOversized c.readBufSize then []
                else
                  [.received
                    (p.header ::
                      (lengthField p.body ++ p.body))]) ∧
                Here
                  (Client.holding
                    { c with readBuf := readBuf } port
                    .tlsRead)
                  (es ++ l) (Ahead rest ys) w) := by
  have hSize := holding_readBufSize c port .tlsRead
  have hStart :
      ∀ w : Run E,
        Here (c.holding port .tlsRead) l
            (Ahead rest (p.bytes ++ ys)) w →
          Since Event.isInput (c.holding port .tlsRead) l
            (Ahead rest (p.bytes ++ ys)) w := by
    intro w hHere
    exact ⟨hHere.1, hHere.2.2, [], hHere.2.1, noEvents⟩
  have hSilent :
      ∀ es : List Event,
        (∀ e ∈ es, e.isInput = true) → effects es = [] := by
    intro es hInput
    apply effects_of_none
    intro e he
    exact effect_of_isInput (hInput e he)
  by_cases hLarge : p.isOversized c.readBufSize = true
  · have hOversized := p.isOversized_iff.mp hLarge
    rw [if_pos hLarge, if_pos hLarge]
    refine
      ((readPacket_oversized hStream
        (c := c.holding port .tlsRead)
        (by rw [hSize]; exact hReady.room_read)
        (by rw [hSize]; exact hOversized) hFuel).pre
          hStart).post ?_
    intro r w hDropped
    rcases hDropped with
      ⟨rfl, readBuf, hClient, hA, es, hLog, hInput⟩
    refine ⟨rfl, readBuf, es, ?_, hSilent es hInput, ?_⟩
    · intro hSmall
      rw [hLarge] at hSmall
      cases hSmall
    · rw [← holding_readBuf]
      exact ⟨hClient, hLog, hA⟩
  · have hFits := hManageable.fits hLarge
    rw [if_neg hLarge, if_neg hLarge]
    refine
      ((readPacket_fits hStream
        (c := c.holding port .tlsRead)
        (by rw [hSize]; exact hFits) hFuel).pre
          hStart).post ?_
    intro r w hRead
    rcases hRead with
      ⟨rfl, readBuf, es, hStored, hClient, hA, hLog, hInput⟩
    refine
      ⟨rfl, readBuf,
        .rxPacket
            (p.header :: (lengthField p.body ++ p.body)) ::
          es, fun _ => hStored, ?_, ?_⟩
    · rw [effects_cons, hSilent es hInput]
      rfl
    · rw [← holding_readBuf]
      exact ⟨hClient, hLog, hA⟩

/-
  A cycle takes one packet from the stream and does with it
  what its bytes ask for.
-/
theorem went_cycleRead
    (hStream : Streaming port timer rest)
    (hReady : c.Ready port)
    (hCb : ∀ ys, Calm C (Ahead rest ys) callback)
    {p : Packet}
    (hManageable : p.Manageable c.readBufSize)
    {fuel : Nat}
    (hFuel : p.rounds + 2 ≤ fuel) :
    Triple C (Here c l (Ahead rest (p.bytes ++ ys)))
      (cycleRead port fuel callback timer)
      (fun r w =>
        r = p.result c.readBufSize ∧
          (p.isOversized c.readBufSize = false →
            Stored w.st.client.readBuf p.header p.body) ∧
            Went c l (Ahead rest ys)
              (p.effects c.readBufSize c.messageHandlers)
              (p.answersPing c.readBufSize) w) := by
  unfold Packet.result Packet.effects Packet.answersPing
  refine
    (here_lockMutex (hStream.lockable hReady) l
      .tlsRead).bind ?_
  intro threadRc
  apply Triple.of_fact
  rintro rfl
  refine Triple.ite (fun hNo => absurd rfl hNo) ?_
  intro _
  refine
    (effects_readPacket hStream hReady hManageable
      (Nat.le_trans (Nat.le_add_right _ 2) hFuel)).bind ?_
  intro r
  apply Triple.of_fact
  rintro rfl
  apply Triple.exists_pre
  intro readBuf
  apply Triple.exists_pre
  intro es
  apply Triple.of_fact
  intro hStored
  apply Triple.of_fact
  intro hEffects
  have hReady' :
      Client.Ready { c with readBuf := readBuf } port :=
    ⟨hReady.free, hReady.room_read, hReady.room_ack⟩
  by_cases hLarge : p.isOversized c.readBufSize = true
  · rw [hLarge] at hEffects ⊢
    simp only [if_true, Bool.not_true, Bool.false_and]
      at hEffects ⊢
    refine
      (here_unlockMutex (hStream.lockable hReady') _
        .tlsRead).bind ?_
    intro threadRc
    apply Triple.of_fact
    rintro rfl
    refine Triple.ite (fun hNo => absurd rfl hNo.1) ?_
    intro _
    rw [if_neg (by decide), if_pos (by decide)]
    apply Triple.ret
    intro w hHere
    refine ⟨rfl, nofun, ?_⟩
    refine ⟨⟨readBuf, c.writeBuf, ?_⟩, hHere.2.2, es,
      hHere.2.1, hEffects⟩
    rw [hHere.1, Bool.not_false, Bool.and_true]
  · have hSmall : p.isOversized c.readBufSize = false := by
      simpa using hLarge
    have hFits := hManageable.fits hLarge
    rw [hSmall] at hEffects ⊢
    simp only [Bool.false_eq_true, if_false, Bool.not_false,
      Bool.true_and] at hEffects ⊢
    refine
      (here_unlockMutex (hStream.lockable hReady') _
        .tlsRead).bind ?_
    intro threadRc
    apply Triple.of_fact
    rintro rfl
    refine Triple.ite (fun hNo => absurd rfl hNo.1) ?_
    intro _
    rw [if_neg (by decide), if_neg (not_not.mpr rfl)]
    refine
      (effects_dispatchPacket hStream
        (hStream.lockable hReady') (hCb ys) hReady.room_ack
        (hStored hSmall) hFits hManageable
        (Nat.le_trans (Nat.le_add_left 2 _) hFuel)).bind ?_
    intro rc
    apply Triple.of_fact
    rintro rfl
    apply Triple.ret
    intro w hDispatched
    rcases hDispatched with
      ⟨es', writeBuf, hReaction, hClient, hLog, hA⟩
    refine ⟨rfl, fun _ => ?_, ?_⟩
    · rw [hClient]
      exact hStored hSmall
    · refine
        ⟨⟨readBuf, writeBuf, hClient⟩, hA, es' ++ es, ?_, ?_⟩
      · rw [hLog, List.append_assoc]
      · rw [effects_append, hEffects, hReaction]
        rfl

end Mqtt

end TrustOnboard
