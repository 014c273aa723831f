import TrustOnboard.Mqtt.Assertions

/-
  Requests and their waits keep an assertion.

  `Kept` lists what an assertion must survive: reading one
  packet, sending one packet, and events of no interest.
  When it also survives the delivery of a message to the
  callbacks, it survives every exchange with the broker.

  Key definitions include:
    * `Kept`
    * `KeptInWaits`

  Key results include:
    * `Kept.cycleRead`
    * `Kept.waitForRead`
    * `KeptInWaits.internalPublish`
    * `KeptInWaits.subscribeExchange`
    * `KeptInWaits.internalSubscribe`
    * `KeptInWaits.internalUnsubscribe`
    * `KeptInWaits.internalResubscribe`
    * `KeptInWaits.connectExchange`
-/

------------------------------------------------------------
-- What An Assertion Must Survive
------------------------------------------------------------

namespace TrustOnboard

namespace Mqtt

variable {E : Type}

/- An assertion kept by the transfer of single packets. -/
structure Kept
    (port : Port E)
    (C : Contract (Sys E) Event)
    (K : Cond) : Prop where
  halt : ∀ w : Run E, Holds K w → C.halted w
  quiet :
    ∀ s f l e, Event.quiet e = true → K s f l →
      K s f (e :: l)
  read :
    ∀ fuel, Triple C (Holds K) (readPacket port fuel)
      (fun _ => Holds K)
  send :
    ∀ fuel length timer,
      Triple C
        (fun w =>
          Sendable (w.st.client.writeBuf.load 0 length) ∧
            Holds K w)
        (sendPacket port fuel length timer)
        (fun _ => Holds K)

/-
  The assertion still holds, or the code says that a callback
  has left it for `D`.
-/
def KeptOrLeft
    (K D : Cond)
    (rc : IoTError)
    (w : Run E) : Prop :=
  Holds K w ∨
    (rc = .mqttUnexpectedClientStateError ∧ Holds D w)

end Mqtt

end TrustOnboard

------------------------------------------------------------
-- Receiving
------------------------------------------------------------

namespace TrustOnboard

namespace Mqtt

namespace Kept

variable {E : Type}
variable {port : Port E}
variable {C : Contract (Sys E) Event}
variable {K : Cond}
variable {D : Cond}
variable {callback : Callback E}

/- Encode and send. -/
theorem sendSerialized
    (hKept : Kept port C K)
    {r : Client → Serialized}
    (hEnc : Encodes r)
    (fuel : Nat)
    (timer : TimerName) :
    Triple C (Holds K)
      (sendSerialized port fuel timer r)
      (fun _ => Holds K) := by
  refine (holds_serialize hKept.halt hEnc).bind ?_
  intro res
  cases res with
  | error rc => exact Triple.pure (fun _ h => h.2)
  | ok n => exact hKept.send fuel n timer

/- The PUBACK of a message. -/
theorem sendPuback
    (hKept : Kept port C K)
    (fuel : Nat)
    (timer : TimerName)
    (id : UInt16) :
    Triple C (Holds K)
      (Mqtt.sendSerialized port fuel timer (fun c =>
        serializeAck c.writeBufSize .puback 0 id))
      (fun _ => Holds K) :=
  hKept.sendSerialized (serializeAck_encodes .puback 0 id)
    fuel timer

end Kept

variable {E : Type}
variable {port : Port E}
variable {C : Contract (Sys E) Event}
variable {K : Cond}
variable {D : Cond}
variable {callback : Callback E}
variable {fuel : Nat}
variable {timer : TimerName}

/-
  Handling a PUBLISH, given its delivery and its PUBACK.  A
  delivery that ends outside `K` must say so in its code, and
  the handling then stops.
-/
theorem holds_handlePublish
    (hDeliver :
      ∀ msg, Triple C (Holds K)
        (deliverMessage port callback msg)
        (fun rc => KeptOrLeft K D rc))
    (hAck :
      ∀ id, Triple C (Holds K)
        (sendSerialized port fuel timer (fun c =>
          serializeAck c.writeBufSize .puback 0 id))
        (fun _ => Holds K)) :
    Triple C (Holds K)
      (handlePublish port fuel callback timer)
      (fun rc => KeptOrLeft K D rc) := by
  refine (holds_read _).bind ?_
  intro c
  cases deserializePublish c.readBuf c.readBufSize with
  | error rc => exact Triple.ret (fun _ h => Or.inl h)
  | ok msg =>
      refine (holds_modifyMessages _).bind ?_
      intro _
      refine (hDeliver msg).bind ?_
      intro rc
      refine Triple.seq (Triple.read (fun _ h => h)) ?_
      intro c'
      refine Triple.seq (Triple.modify (fun _ h => h)) ?_
      intro _
      refine Triple.ite ?_ ?_
      · intro _
        exact Triple.same
      · intro hRc
        have hBack :
            ∀ w : Run E,
              KeptOrLeft K D rc w → Holds K w := by
          intro w hPost
          rcases hPost with hK | ⟨hLeft, _⟩
          · exact hK
          · exact absurd (by rw [hLeft]; decide) hRc
        refine Triple.pre ?_ hBack
        cases (c'.sees msg).params.ackId with
        | none => exact Triple.ret (fun _ h => Or.inl h)
        | some id =>
            exact (hAck id).post (fun _ _ h => Or.inl h)

theorem holds_handlePingresp :
    Triple C (Holds K) (handlePingresp port)
      (fun _ => Holds K) := by
  refine Triple.seq ?_ ?_
  · exact
      holds_modifyClient (fun _ => rfl) (fun _ => rfl)
  intro _
  refine (holds_read _).seq ?_
  intro c
  exact
    (holds_countdown _ _).seq (fun _ => Triple.same)

/- The dispatch of one packet. -/
theorem holds_dispatchPacket
    (hDeliver :
      ∀ msg, Triple C (Holds K)
        (deliverMessage port callback msg)
        (fun rc => KeptOrLeft K D rc))
    (hAck :
      ∀ id, Triple C (Holds K)
        (sendSerialized port fuel timer (fun c =>
          serializeAck c.writeBufSize .puback 0 id))
        (fun _ => Holds K))
    (packetType : UInt8) :
    Triple C (Holds K)
      (dispatchPacket port fuel callback timer packetType)
      (fun rc => KeptOrLeft K D rc) := by
  unfold Mqtt.dispatchPacket
  split
  case h_5 => exact holds_handlePublish hDeliver hAck
  case h_8 =>
      exact holds_handlePingresp.post (fun _ _ h => Or.inl h)
  all_goals exact Triple.ret (fun _ h => Or.inl h)

namespace Kept

/- One cycle of the receive path. -/
theorem cycleRead
    (hKept : Kept port C K)
    (hSingle : port.threadSupport = false)
    (hDeliver :
      ∀ msg, Triple C (Holds K)
        (deliverMessage port callback msg)
        (fun rc => KeptOrLeft K D rc))
    (fuel : Nat)
    (timer : TimerName) :
    Triple C (Holds K)
      (cycleRead port fuel callback timer)
      (fun r => KeptOrLeft K D r.1) := by
  rw [cycleRead_single hSingle]
  refine (hKept.read fuel).bind ?_
  rintro ⟨rc, packetType⟩
  refine Triple.ite ?_ ?_
  · intro _
    exact Triple.ret (fun _ h => Or.inl h)
  · intro _
    refine Triple.ite ?_ ?_
    · intro _
      exact Triple.ret (fun _ h => Or.inl h)
    · intro _
      cases packetType with
      | none => exact Triple.ret (fun _ h => Or.inl h)
      | some type =>
          refine
            (holds_dispatchPacket hDeliver
              (hKept.sendPuback fuel timer) type).bind ?_
          intro rc
          exact Triple.same

/- A delivery that never leaves `K` keeps it in a cycle. -/
theorem cycleRead_of_deliver
    (hKept : Kept port C K)
    (hSingle : port.threadSupport = false)
    (hDeliver :
      ∀ msg, Triple C (Holds K)
        (deliverMessage port callback msg)
        (fun _ => Holds K))
    (fuel : Nat)
    (timer : TimerName) :
    Triple C (Holds K)
      (Mqtt.cycleRead port fuel callback timer)
      (fun _ => Holds K) := by
  have hCycle :=
    hKept.cycleRead (D := fun _ _ _ => False) hSingle
      (fun msg =>
        (hDeliver msg).post (fun _ _ h => Or.inl h))
      fuel timer
  refine hCycle.post ?_
  intro r w hPost
  rcases hPost with hK | ⟨_, hNo⟩
  · exact hK
  · exact hNo.elim

/- The wait for an acknowledgement. -/
theorem waitForRead
    (hKept : Kept port C K)
    (hCycle :
      ∀ fuel timer, Triple C (Holds K)
        (Mqtt.cycleRead port fuel callback timer)
        (fun _ => Holds K))
    (fuel : Nat)
    (awaited : MessageType)
    (timer : TimerName) :
    Triple C (Holds K)
      (waitForRead port fuel callback awaited timer)
      (fun _ => Holds K) := by
  refine
    Triple.loop (fun _ => Holds K)
      (fun _ w hK => hKept.halt w hK) ?_
  intro readPacketType
  refine (holds_hasTimerExpired hKept.quiet timer).bind ?_
  intro expired
  cases expired with
  | true => exact Triple.same
  | false =>
      refine (hCycle fuel timer).bind ?_
      rintro ⟨rc, packetType⟩
      dsimp only
      refine Triple.ite ?_ ?_
      · intro _
        exact Triple.same
      · intro _
        refine Triple.ite ?_ ?_
        · intro _
          exact Triple.same
        · intro _
          exact Triple.same

end Kept

end Mqtt

end TrustOnboard

------------------------------------------------------------
-- Requests
------------------------------------------------------------

namespace TrustOnboard

namespace Mqtt

/- An assertion that is also kept while a request waits. -/
structure KeptInWaits
    {E : Type}
    (port : Port E)
    (C : Contract (Sys E) Event)
    (callback : Callback E)
    (K : Cond) : Prop extends Kept port C K where
  wait :
    ∀ fuel awaited timer, Triple C (Holds K)
      (waitForRead port fuel callback awaited timer)
      (fun _ => Holds K)

namespace KeptInWaits

variable {E : Type}
variable {port : Port E}
variable {C : Contract (Sys E) Event}
variable {K : Cond}
variable {callback : Callback E}

/-
  A wait and what follows it when it succeeded: most often
  the decoding of the acknowledgement.
-/
theorem waitThen
    (hKept : KeptInWaits port C callback K)
    {rest : Client → Code E IoTError}
    {Q : IoTError → Run E → Prop}
    (hFail : ∀ rc w, rc ≠ .success → Holds K w → Q rc w)
    (hRest : ∀ c, Triple C (Holds K) (rest c) Q)
    (fuel : Nat)
    (awaited : MessageType)
    (timer : TimerName) :
    Triple C (Holds K)
      (do
        let rc ←
          waitForRead port fuel callback awaited timer
        if rc ≠ .success then
          pure rc
        else do
          let c ← getClient
          rest c) Q := by
  refine (hKept.wait fuel awaited timer).bind ?_
  intro rc
  refine Triple.ite ?_ ?_
  · intro hRc
    exact Triple.ret (fun w hK => hFail rc w hRc hK)
  · intro _
    exact (holds_read _).bind hRest

theorem internalPublish
    (hKept : KeptInWaits port C callback K)
    (fuel : Nat)
    (topic : Option CString)
    (topicLen : UInt16)
    (params : PublishParams) :
    Triple C (Holds K)
      (internalPublish port fuel callback topic topicLen
        params)
      (fun _ => Holds K) := by
  refine holds_startCommandTimer.bind ?_
  intro _
  have hSend :
      ∀ id, Triple C (Holds K)
        (sendSerialized port fuel .command (fun c =>
          serializePublish c.writeBufSize 0 params.qos
            params.isRetained id topic topicLen
            params.payload))
        (fun _ => Holds K) := by
    intro id
    exact
      hKept.sendSerialized
        (serializePublish_encodes _ _ _ _ _ _ _)
        fuel .command
  refine Triple.ite ?_ ?_
  · intro hQos
    refine (holds_assignPacketId params).bind ?_
    intro id
    refine (hSend id).bind ?_
    intro rc
    refine Triple.ite ?_ ?_
    · intro _
      exact Triple.same
    · intro _
      rw [if_pos hQos]
      refine hKept.waitThen (fun _ _ _ h => h) ?_ fuel
        .puback .command
      intro c
      cases deserializeAck c.readBuf c.readBufSize with
      | error rc => exact Triple.same
      | ok _ => exact Triple.same
  · intro hQos
    refine (hSend params.id).bind ?_
    intro rc
    refine Triple.ite ?_ ?_
    · intro _
      exact Triple.same
    · intro _
      rw [if_neg hQos]
      exact Triple.same

theorem subscribeExchange
    (hKept : KeptInWaits port C callback K)
    (fuel : Nat)
    (packetId : UInt16)
    (topic : Option CString)
    (topicLen : UInt16)
    (qos : QoS) :
    Triple C (Holds K)
      (subscribeExchange port fuel callback packetId topic
        topicLen qos)
      (fun _ => Holds K) := by
  refine
    (hKept.sendSerialized
      (serializeSubscribe_encodes packetId topic topicLen
        qos) fuel .command).bind ?_
  intro rc
  refine Triple.ite ?_ ?_
  · intro _
    exact Triple.same
  · intro _
    refine hKept.waitThen (fun _ _ _ h => h) ?_ fuel
      .suback .command
    intro c
    cases deserializeSuback c.readBuf 1 c.readBufSize with
    | error rc => exact Triple.same
    | ok _ => exact Triple.same

/-
  A subscription, given the store into its slot.  The slot is
  one of the table that was searched before the wait.
-/
theorem internalSubscribe
    (hKept : KeptInWaits port C callback K)
    {Q : IoTError → Run E → Prop}
    (hFail : ∀ rc w, rc ≠ .success → Holds K w → Q rc w)
    (fuel : Nat)
    (topic : Option CString)
    (topicLen : UInt16)
    (qos : QoS)
    (handler : Option HandlerId)
    (data : Nat)
    (hStore :
      ∀ s f l, K s f l →
        getFreeMessageHandlerIndex f.table <
          f.table.length →
        Triple C (Holds K)
          (registerHandler
            (getFreeMessageHandlerIndex f.table)
            { topicName := topic
              topicNameLen := topicLen
              qos := qos
              pApplicationHandler := handler
              pApplicationHandlerData := data } :
                Code E Unit)
          (fun _ => Q .success)) :
    Triple C (Holds K)
      (internalSubscribe port fuel callback topic topicLen
        qos handler data) Q := by
  refine holds_startCommandTimer.bind ?_
  intro _
  refine holds_getNextPacketId.bind ?_
  intro txPacketId
  refine
    (holds_serialize hKept.halt
      (serializeSubscribe_encodes txPacketId topic topicLen
        qos)).bind ?_
  intro encoded
  cases encoded with
  | error rc =>
      refine Triple.ret ?_
      rintro w ⟨⟨c, hError⟩, hK⟩
      refine hFail rc w ?_ hK
      rw [serializeFrame_error hError]
      decide
  | ok n =>
      refine Triple.bind (M := fun c w =>
        (∃ s f l, K s f l ∧ f.table = c.messageHandlers) ∧
          Sendable (w.st.client.writeBuf.load 0 n) ∧
            Holds K w) ?_ ?_
      · refine Triple.read ?_
        intro w hPre
        exact ⟨⟨_, _, _, hPre.2, rfl⟩, hPre⟩
      intro c
      refine Triple.of_fact ?_
      rintro ⟨s, f, l, hSeen, hTable⟩
      refine Triple.ite ?_ ?_
      · intro _
        exact Triple.ret
          (fun w h => hFail _ w (by decide) h.2)
      · intro hFree
        refine (hKept.send fuel n .command).bind ?_
        intro rc
        refine Triple.ite ?_ ?_
        · intro hRc
          exact Triple.ret (fun w hK => hFail rc w hRc hK)
        · intro _
          refine hKept.waitThen hFail ?_ fuel .suback .command
          intro c'
          cases hAck :
              deserializeSuback c'.readBuf 1
                c'.readBufSize with
          | error rc =>
              refine Triple.ret (fun w hK => ?_)
              refine hFail rc w ?_ hK
              rcases deserializeSuback_error hAck with
                rfl | rfl | rfl
              · decide
              · decide
              · decide
          | ok _ =>
              rw [← hTable] at hFree ⊢
              exact
                (hStore s f l hSeen
                  (Nat.lt_of_not_le hFree)).bind
                    (fun _ => Triple.same)

theorem unsubscribeExchange
    (hKept : KeptInWaits port C callback K)
    (fuel : Nat)
    (filter : Option CString)
    (filterLen : UInt16) :
    Triple C (Holds K)
      (unsubscribeExchange port fuel callback filter
        filterLen)
      (fun _ => Holds K) := by
  refine holds_startCommandTimer.bind ?_
  intro _
  refine holds_getNextPacketId.bind ?_
  intro packetId
  refine
    (hKept.sendSerialized
      (serializeUnsubscribe_encodes packetId filter
        filterLen) fuel .command).bind ?_
  intro rc
  refine Triple.ite ?_ ?_
  · intro _
    exact Triple.same
  · intro _
    refine hKept.waitThen (fun _ _ _ h => h) ?_ fuel
      .unsuback .command
    intro c
    cases deserializeUnsuback c.readBuf c.readBufSize with
    | error rc => exact Triple.same
    | ok _ => exact Triple.same

/- An unsubscription, given the change of the table. -/
theorem internalUnsubscribe
    (hKept : KeptInWaits port C callback K)
    {Q : IoTError → Run E → Prop}
    (hFail : ∀ rc w, rc ≠ .success → Holds K w → Q rc w)
    (fuel : Nat)
    (filter : Option CString)
    (filterLen : UInt16)
    (hRemove :
      ∀ s f l, K s f l →
        f.table.any (fun slot => slot.holds filter) →
        Triple C (Holds K)
          (modifyClient (fun c =>
            { c with
              messageHandlers :=
                removeFilter filter c.messageHandlers }) :
                  Code E Unit)
          (fun _ => Q .success)) :
    Triple C (Holds K)
      (internalUnsubscribe port fuel callback filter
        filterLen) Q := by
  refine Triple.bind (M := fun c w =>
    (∃ s f l, K s f l ∧ f.table = c.messageHandlers) ∧
      Holds K w) ?_ ?_
  · refine Triple.read ?_
    intro w hK
    exact ⟨⟨_, _, _, hK, rfl⟩, hK⟩
  intro c
  refine Triple.of_fact ?_
  rintro ⟨s, f, l, hSeen, hTable⟩
  refine Triple.ite ?_ ?_
  · intro _
    exact Triple.ret (fun w hK => hFail _ w (by decide) hK)
  · intro hHeld
    refine
      (hKept.unsubscribeExchange fuel filter
        filterLen).bind ?_
    intro rc
    refine Triple.ite ?_ ?_
    · intro hRc
      exact Triple.ret (fun w hK => hFail rc w hRc hK)
    · intro _
      rw [← hTable] at hHeld
      exact
        (hRemove s f l hSeen (not_not.mp hHeld)).bind
          (fun _ => Triple.same)

theorem resubscribeSlots
    (hKept : KeptInWaits port C callback K)
    (fuel : Nat)
    (slots : List Nat) :
    Triple C (Holds K)
      (resubscribeSlots port fuel callback slots)
      (fun _ => Holds K) := by
  induction slots with
  | nil => exact Triple.same
  | cons itr rest ih =>
      refine holds_startCommandTimer.bind ?_
      intro _
      refine holds_getNextPacketId.bind ?_
      intro packetId
      refine (holds_read _).bind ?_
      intro c
      cases c.messageHandlers[itr]? with
      | none => exact Triple.stop hKept.halt
      | some slot =>
          refine
            (hKept.subscribeExchange fuel packetId _ _
              _).bind ?_
          intro rc
          refine Triple.ite ?_ ?_
          · intro _
            exact Triple.same
          · intro _
            exact ih

theorem internalResubscribe
    (hKept : KeptInWaits port C callback K)
    (fuel : Nat) :
    Triple C (Holds K)
      (internalResubscribe port fuel callback)
      (fun _ => Holds K) :=
  (holds_read _).bind
    (fun _ => hKept.resubscribeSlots fuel _)

theorem connectExchange
    (hKept : KeptInWaits port C callback K)
    (fuel : Nat) :
    Triple C (Holds K)
      (connectExchange port fuel callback)
      (fun _ => Holds K) := by
  refine holds_startCommandTimer.bind ?_
  intro _
  refine Triple.seq
    (holds_modifyClient (fun _ => rfl) (fun _ => rfl)) ?_
  intro _
  refine
    (hKept.sendSerialized serializeConnect_encodes fuel
      .command).bind ?_
  intro rc
  refine Triple.ite ?_ ?_
  · intro _
    exact Triple.same
  · intro _
    refine hKept.waitThen (fun _ _ _ h => h) ?_ fuel
      .connack .command
    intro c
    cases deserializeConnack c.readBuf c.readBufSize with
    | error rc => exact Triple.same
    | ok connackRc =>
        refine Triple.ite ?_ ?_
        · intro _
          exact Triple.same
        · intro _
          refine Triple.seq
            (holds_modifyClient (fun _ => rfl)
              (fun _ => rfl)) ?_
          intro _
          refine (holds_read _).seq ?_
          intro c
          exact
            (holds_countdown _ _).seq
              (fun _ => Triple.same)

end KeptInWaits

end Mqtt

end TrustOnboard
