import TrustOnboard.Mqtt.Awaiting
import TrustOnboard.Mqtt.Conformance

/-
  Messages from one client to another.

  What a client publishes reaches another client as the bytes
  it sent.  However many messages are forwarded while the
  other client waits for an acknowledgement, its handlers are
  called for each of them once, in the order in which they
  were published and with the topic and the payload that were
  published, and each that asks for it is acknowledged.

  Key definitions include:
    * `Publication`
    * `Publication.Sent`
    * `forwardedEffects`

  Key results include:
    * `Publication.Sent.exists_packet`
    * `forwarded_packets`
    * `waitForRead_forwarded`
-/

------------------------------------------------------------
-- Publications
------------------------------------------------------------

namespace TrustOnboard

namespace Mqtt

/- What a client is asked to publish. -/
structure Publication where
  dup : UInt8
  qos : QoS
  retained : UInt8
  id : UInt16
  topic : Option CString
  topicLen : UInt16
  payload : Bytes

/- The contents that are to reach the handlers. -/
def Publication.contents
    (m : Publication) : PublishContents where
  isDup := decide (m.dup = 1)
  qos := m.qos
  isRetained := decide (m.retained = 1)
  topic := characters m.topic
  id := if m.qos = .qos0 then none else some m.id
  payload := m.payload

/-
  The publication was encoded to these bytes, which fit in
  the receive buffer of the other client.
-/
structure Publication.Sent
    (m : Publication)
    (packet : Bytes)
    (readBufSize : Nat) : Prop where
  qos : m.qos = .qos0 ∨ m.qos = .qos1
  supplied : Supplied m.topic m.topicLen
  short : publishLength m.qos m.topicLen m.payload < lengthLimit
  encoded :
    ∃ txBufLen,
      serializePublish txBufLen m.dup m.qos m.retained m.id
          m.topic m.topicLen (some m.payload) =
        some (.ok packet)
  fits : packet.length ≤ readBufSize

/- The effects of the messages, one after the other. -/
def forwardedEffects
    (items : List (Publication × Bytes))
    (table : List MessageHandlers) : List Effect :=
  items.flatMap (fun x =>
    .received x.2 ::
      (handedOver table x.1.contents ++
        acknowledged x.1.contents))

variable {m : Publication}
variable {bytes : Bytes}
variable {size : Nat}

/- The bytes of a publication are a packet of its own. -/
theorem Publication.Sent.exists_packet
    (hSent : m.Sent bytes size) :
    ∃ p : Packet,
      p.bytes = bytes ∧ p.Fits size ∧
        headerType p.header = MessageType.publish.nibble ∧
          p.header :: (lengthField p.body ++ p.body) =
              bytes ∧
            decodePublish p.bytes = some m.contents := by
  rcases hSent.encoded with ⟨txBufLen, hEnc⟩
  have hContents :=
    decodePublish_serialized hSent.qos hSent.supplied
      hSent.short hEnc
  rcases decodeFrame_framed
      (serializePublish_framed m.dup m.qos m.retained m.id
        m.topic m.topicLen m.payload) hSent.short hEnc with
    ⟨b, _, hTotal, hBytes, _⟩
  have hShort : b.length < lengthLimit := by
    rw [hTotal]
    exact hSent.short
  obtain ⟨p, hp⟩ :
      ∃ p,
        p =
          Packet.written
            (initHeader .publish m.qos m.dup m.retained) b
            hShort :=
    ⟨_, rfl⟩
  have hWritten : p.bytes = bytes := by
    rw [hp, hBytes, ← hTotal]
    rfl
  have hField :
      p.header :: (lengthField p.body ++ p.body) = bytes := by
    rw [← hWritten, hp]
    rfl
  have hFits : p.Fits size := by
    have hLength := congrArg List.length hWritten
    have hInside := hSent.fits
    simp only [Packet.bytes, List.length_cons,
      List.length_append] at hLength
    unfold Packet.Fits
    omega
  rw [← hWritten] at hContents
  exact
    ⟨p, hWritten, hFits, (decodePublish_parts hContents).1,
      hField, hContents⟩

/- A publication passes every wait, and has its effects. -/
theorem Publication.Sent.passes
    (hSent : m.Sent bytes size)
    {awaited : MessageType}
    (hAck : awaited.isAck = true)
    (table : List MessageHandlers) :
    ∃ p : Packet,
      p.bytes = bytes ∧ p.Passes awaited size ∧
        p.rounds ≤ bytes.length ∧
          p.answersPing size = false ∧
            p.effects size table =
              .received bytes ::
                (handedOver table m.contents ++
                  acknowledged m.contents) := by
  rcases hSent.exists_packet with
    ⟨p, hBytes, hFits, hType, hWritten, hContents⟩
  have hOther :
      headerType p.header ≠ awaited.nibble := by
    rw [hType]
    cases awaited <;> first | decide | cases hAck
  have hSmall : p.isOversized size = false := by
    unfold Packet.Fits at hFits
    apply decide_eq_false
    have hPos := p.field_decodes.length_pos
    omega
  refine ⟨p, hBytes, ⟨⟨Or.inl hFits, ?_⟩, Or.inr hOther⟩,
    ?_, ?_, ?_⟩
  · intro _ _
    rw [hContents]
    exact Option.some_ne_none _
  · rw [← hBytes]
    unfold Packet.rounds Packet.bytes
    simp only [List.length_cons, List.length_append]
    omega
  · unfold Packet.answersPing
    rw [hType]
    exact Bool.and_false _
  · unfold Packet.effects Packet.reaction
    rw [hSmall, hWritten, hContents]
    rfl

/- Publications in a row are packets in a row. -/
theorem forwarded_packets
    {items : List (Publication × Bytes)}
    (hSent : ∀ x ∈ items, x.1.Sent x.2 size)
    {awaited : MessageType}
    (hAck : awaited.isAck = true)
    (table : List MessageHandlers)
    {fuel : Nat}
    (hFuel : ∀ x ∈ items, x.2.length + 2 ≤ fuel) :
    ∃ ps : List Packet,
      streamOf ps = items.flatMap Prod.snd ∧
        ps.length = items.length ∧
          (∀ p ∈ ps, p.Passes awaited size) ∧
            (∀ p ∈ ps, p.rounds + 2 ≤ fuel) ∧
              answersPing ps size = false ∧
                effectsOf ps size table =
                  forwardedEffects items table := by
  induction items with
  | nil => exact ⟨[], rfl, rfl, nofun, nofun, rfl, rfl⟩
  | cons x items ih =>
      have hHere := hSent x List.mem_cons_self
      have hEnough := hFuel x List.mem_cons_self
      rcases hHere.passes hAck table with
        ⟨p, hBytes, hPasses, hRounds, hPing, hEffects⟩
      rcases
          ih (fun y hy => hSent y (List.mem_cons_of_mem _ hy))
            (fun y hy =>
              hFuel y (List.mem_cons_of_mem _ hy)) with
        ⟨ps, hStream, hLength, hAll, hEach, hPings, hOut⟩
      refine ⟨p :: ps, ?_, ?_, ?_, ?_, ?_, ?_⟩
      · unfold streamOf at hStream ⊢
        rw [List.flatMap_cons, List.flatMap_cons, hStream,
          hBytes]
      · rw [List.length_cons, List.length_cons, hLength]
      · intro q hq
        rcases List.mem_cons.mp hq with rfl | hq
        · exact hPasses
        · exact hAll q hq
      · intro q hq
        rcases List.mem_cons.mp hq with rfl | hq
        · omega
        · exact hEach q hq
      · unfold answersPing at hPings ⊢
        rw [List.any_cons, hPing, hPings]
        rfl
      · unfold effectsOf at hOut ⊢
        rw [List.flatMap_cons, hOut, hEffects]
        rfl

end Mqtt

end TrustOnboard

------------------------------------------------------------
-- A Client That Waits
------------------------------------------------------------

namespace TrustOnboard

namespace Mqtt

variable {E : Type}

/- One message to the topic `A`, and the bytes of it. -/
def sentA : Publication × Bytes :=
  (⟨0, .qos1, 0, 7, some (letter 65 upperA_ne), 1, [33]⟩,
    [50, 6, 0, 1, 65, 0, 7, 33])

/- A client that listens to `A` and is sent it. -/
def forwardWorld : Run Bytes :=
  ⟨⟨scriptClient .connectedIdle [letterSlot 65 upperA_ne],
    sentA.2 ++ ((subackOf 2).bytes ++ [])⟩, []⟩

/-
  A client that waits for an acknowledgement is forwarded
  publications.  The wait succeeds, and until then the
  handlers were called for each publication once and in
  order, and each with an identifier was acknowledged.
-/
theorem waitForRead_forwarded
    (port : Port E)
    (rest : E → Bytes)
    (call : ApiCall → Code E IoTError)
    (timer : TimerName)
    (awaited : MessageType)
    (fuel : Nat)
    (w : Run E)
    (items : List (Publication × Bytes))
    (ack : Packet)
    (ys : Bytes)
    (hStream : Streaming port timer rest)
    (hReady : w.st.client.Ready port)
    (hAck : awaited.isAck = true)
    (hSent :
      ∀ x ∈ items, x.1.Sent x.2 w.st.client.readBufSize)
    (hAnswers : ack.Answers awaited w.st.client.readBufSize)
    (hMany : items.length < fuel)
    (hFuel : ∀ x ∈ items, x.2.length + 2 ≤ fuel)
    (hLast : ack.rounds + 2 ≤ fuel)
    (hAhead :
      rest w.st.env =
        items.flatMap Prod.snd ++ (ack.bytes ++ ys)) :
    ∃ w',
      (waitForRead port fuel (runCallback port call) awaited
          timer).run w =
        (some .success, w') ∧
      Went w.st.client w.log (Ahead rest ys)
        (forwardedEffects items
            w.st.client.messageHandlers ++
          [.received
            (ack.header ::
              (lengthField ack.body ++ ack.body))])
        false w' := by
  rcases
      forwarded_packets hSent hAck
        w.st.client.messageHandlers hFuel with
    ⟨ps, hBytes, hLength, hPasses, hEach, hPings, hOut⟩
  rcases result_answers hAck hAnswers with ⟨hSmall, _⟩
  have hSuffices : Suffices fuel (ps ++ [ack]) := by
    refine ⟨?_, ?_⟩
    · rw [List.length_append, hLength]
      exact hMany
    · intro p hp
      rcases List.mem_append.mp hp with hp | hp
      · exact hEach p hp
      · rw [List.mem_singleton.mp hp]
        exact hLast
  have hStart :
      rest w.st.env = streamOf (ps ++ [ack]) ++ ys := by
    rw [hAhead, ← hBytes]
    simp [streamOf]
  have hOther :
      awaited.nibble ≠ MessageType.publish.nibble ∧
        (awaited.nibble == MessageType.pingresp.nibble) =
          false := by
    cases awaited <;> first | decide | cases hAck
  have hEffects :
      effectsOf (ps ++ [ack]) w.st.client.readBufSize
          w.st.client.messageHandlers =
        forwardedEffects items
            w.st.client.messageHandlers ++
          [.received
            (ack.header ::
              (lengthField ack.body ++ ack.body))] := by
    have hType : headerType ack.header ≠ MessageType.publish.nibble := by
      rw [hAnswers.type]
      exact hOther.1
    rw [← hOut]
    unfold effectsOf
    rw [List.flatMap_append, List.flatMap_singleton]
    unfold Packet.effects
    rw [hSmall, reaction_of_other hType]
    rfl
  have hPing :
      answersPing (ps ++ [ack]) w.st.client.readBufSize =
        false := by
    unfold answersPing at hPings ⊢
    rw [List.any_append, hPings, List.any_cons]
    unfold Packet.answersPing
    rw [hAnswers.type, hOther.2]
    simp
  rcases
      (went_waitForRead hStream (fun _ => hStream.calm call)
        hAck hReady ⟨hPasses, hAnswers⟩ hSuffices).returns
          ⟨rfl, rfl, hStart⟩ with
    ⟨rc, w', hRun, rfl, _, hWent⟩
  rw [hEffects, hPing] at hWent
  exact ⟨w', hRun, hWent⟩

theorem waitForRead_forwarded_one :
    ∃ w' es,
      (waitForRead pipePort 20
          (runCallback pipePort (fun _ => pure .success))
          .suback .command).run forwardWorld =
        (some .success, w') ∧
      w'.log = es ∧
        effects es =
          forwardedEffects [sentA]
              [letterSlot 65 upperA_ne] ++
            [.received [144, 3, 0, 2, 0]] := by
  have hSent :
      ∀ x ∈ [sentA], x.1.Sent x.2 64 := by
    intro x hx
    rw [List.mem_singleton.mp hx]
    exact
      { qos := Or.inr rfl
        supplied := ⟨letter 65 upperA_ne, rfl, rfl⟩
        short := by decide
        encoded := ⟨64, by decide⟩
        fits := by decide }
  have hFuel : ∀ x ∈ [sentA], x.2.length + 2 ≤ 20 := by
    intro x hx
    rw [List.mem_singleton.mp hx]
    decide
  have hAnswers : (subackOf 2).Answers .suback 64 :=
    ⟨by unfold Packet.Fits; decide, rfl⟩
  rcases
      waitForRead_forwarded pipePort id
        (fun _ => pure .success) .command .suback 20
        forwardWorld [sentA] (subackOf 2) []
        (streaming_pipePort .command)
        (ready_pipeWorld _ _) rfl hSent hAnswers (by decide)
        hFuel (by decide) rfl with
    ⟨w', hRun, hWent⟩
  rcases hWent.log with ⟨es, hLog, hEffects⟩
  refine ⟨w', es, hRun, ?_, hEffects⟩
  rw [hLog]
  exact List.append_nil _

end Mqtt

end TrustOnboard
