import TrustOnboard.Mqtt.Script
import TrustOnboard.Mqtt.Trace

/-
  Requests and the acknowledgements that end them.

  A request that reports success has read a packet of the
  type it awaits after it was sent.  The identifier of that
  packet is not compared with the one of the request, so that
  the two agree exactly when the first packet of that type
  carries it.

  Key definitions include:
    * `ApiCall.awaits`
    * `ApiCall.request`
    * `packetsRead`
    * `packetIdentifier`
    * `Acknowledged`
    * `FirstAcknowledges`

  Key results include:
    * `acknowledged_iff_first`
-/

------------------------------------------------------------
-- Requests And Acknowledgements
------------------------------------------------------------

namespace TrustOnboard

namespace Mqtt

/- The type of the acknowledgement a call waits for. -/
def ApiCall.awaits : ApiCall → Option MessageType
  | .subscribe _ _ _ _ _ => some .suback
  | .unsubscribe _ _ => some .unsuback
  | .publish _ _ (some params) =>
      if params.qos = .qos1 then some .puback else none
  | _ => none

/- The request packet of a call with a given identifier. -/
def ApiCall.request
    (c : ApiCall)
    (txBufLen : Nat)
    (id : UInt16) : Serialized :=
  match c with
  | .subscribe topic topicLen qos _ _ =>
      serializeSubscribe txBufLen 0 id
        [(topic, topicLen, qos)]
  | .unsubscribe filter filterLen =>
      serializeUnsubscribe txBufLen 0 id
        [(filter, filterLen)]
  | .publish topic topicLen (some params) =>
      serializePublish txBufLen 0 params.qos
        params.isRetained id topic topicLen params.payload
  | _ => none

/- The packets of one type that were read, newest first. -/
def packetsRead (type : MessageType) :
    List Event → List Bytes
  | [] => []
  | .rxPacket packet :: l =>
      if packetType packet = type.nibble then
        packet :: packetsRead type l
      else packetsRead type l
  | _ :: l => packetsRead type l

/-
  The identifier at the start of the body of a packet, behind
  the header byte and the length field.
-/
def packetIdentifier (packet : Bytes) : Option UInt16 :=
  match (packet.drop 1).dropWhile
      (fun b => b &&& 128 ≠ 0) with
  | _ :: high :: low :: _ =>
      some (UInt16.ofNat (low.toNat + 256 * high.toNat))
  | _ => none

/- Some acknowledgement with the identifier was read. -/
def Acknowledged
    (ack : MessageType)
    (id : UInt16)
    (after : List Event) : Prop :=
  ∃ packet ∈ packetsRead ack after,
    packetIdentifier packet = some id

/- The first acknowledgement that was read carries it. -/
def FirstAcknowledges
    (ack : MessageType)
    (id : UInt16)
    (after : List Event) : Prop :=
  ∃ packet,
    (packetsRead ack after).getLast? = some packet ∧
      packetIdentifier packet = some id

theorem packetsRead_cons
    {type : MessageType}
    {e : Event}
    (hOther : ∀ packet, e ≠ .rxPacket packet)
    (l : List Event) :
    packetsRead type (e :: l) = packetsRead type l := by
  cases e <;> simp_all [packetsRead]

theorem packetsRead_append
    (type : MessageType)
    (es l : List Event) :
    packetsRead type (es ++ l) =
      packetsRead type es ++ packetsRead type l := by
  induction es with
  | nil => rfl
  | cons e es ih =>
      by_cases hRead : ∃ packet, e = .rxPacket packet
      · rcases hRead with ⟨packet, rfl⟩
        simp only [List.cons_append, packetsRead, ih]
        split
        · rfl
        · rfl
      · have hOther : ∀ packet, e ≠ .rxPacket packet :=
          fun packet hEq => hRead ⟨packet, hEq⟩
        rw [List.cons_append, packetsRead_cons hOther,
          packetsRead_cons hOther, ih]

/- The first acknowledgement is one of them. -/
theorem acknowledged_of_first
    {ack : MessageType}
    {id : UInt16}
    {after : List Event}
    (hFirst : FirstAcknowledges ack id after) :
    Acknowledged ack id after := by
  rcases hFirst with ⟨packet, hLast, hId⟩
  exact ⟨packet, List.mem_of_getLast? hLast, hId⟩

/- When there is only one, it is the first. -/
theorem first_of_acknowledged
    {ack : MessageType}
    {id : UInt16}
    {after : List Event}
    {packet : Bytes}
    (hOne : packetsRead ack after = [packet])
    (hAck : Acknowledged ack id after) :
    FirstAcknowledges ack id after := by
  rcases hAck with ⟨packet', hMem, hId⟩
  rw [hOne, List.mem_singleton] at hMem
  subst hMem
  exact ⟨packet', by rw [hOne]; rfl, hId⟩

theorem failsWithError_request
    (c : ApiCall)
    (id : UInt16) :
    FailsWithError
      (fun cl => c.request cl.writeBufSize id) := by
  intro cl rc hError
  cases c with
  | subscribe topic topicLen qos handler data =>
      rw [serializeFrame_error hError]
      decide
  | unsubscribe filter filterLen =>
      rw [serializeFrame_error hError]
      decide
  | publish topic topicLen params =>
      cases params with
      | none => cases hError
      | some params =>
          cases hPayload : params.payload with
          | none =>
              simp only [ApiCall.request, serializePublish,
                hPayload, Option.some.injEq,
                Except.error.injEq] at hError
              rw [← hError]
              decide
          | some payload =>
              simp only [ApiCall.request, serializePublish,
                hPayload] at hError
              rw [serializeFrame_error hError]
              decide
  | connect params => cases hError
  | disconnect => cases hError
  | attemptReconnect => cases hError
  | resubscribe => cases hError
  | yield timeoutMs => cases hError
  | autoreconnectSetStatus status => cases hError
  | setDisconnectHandler handler data => cases hError

end Mqtt

end TrustOnboard

------------------------------------------------------------
-- The Stages Of A Request
------------------------------------------------------------

namespace TrustOnboard

namespace Mqtt

/- Nothing was sent since the given point of the log. -/
def Unsent (l₀ : List Event) : Fact :=
  fun _ l =>
    ∃ before,
      l = before ++ l₀ ∧
        ∀ packet, .txPacket packet ∉ before

/-
  The request was the first packet sent since then, and what
  happened after it satisfies `A`.
-/
def Requested
    (c : ApiCall)
    (l₀ : List Event)
    (A : List Event → Prop) : Fact :=
  fun _ l =>
    ∃ txBufLen id request before after,
      c.request txBufLen id = some (.ok request) ∧
        l = after ++ .txPacket request :: (before ++ l₀) ∧
          (∀ packet, .txPacket packet ∉ before) ∧
            A after

theorem Unsent.cons
    {l₀ l : List Event}
    {f f' : Frame}
    {e : Event}
    (hOther : ∀ packet, e ≠ .txPacket packet)
    (hUnsent : Unsent l₀ f l) :
    Unsent l₀ f' (e :: l) := by
  rcases hUnsent with ⟨before, rfl, hNone⟩
  refine ⟨e :: before, rfl, ?_⟩
  intro packet hMem
  rcases List.mem_cons.mp hMem with hEq | hMem
  · exact hOther packet hEq.symm
  · exact hNone packet hMem

theorem Requested.cons
    {c : ApiCall}
    {l₀ l : List Event}
    {A : List Event → Prop}
    {f f' : Frame}
    {e : Event}
    (hStep : ∀ after, A after → A (e :: after))
    (hReq : Requested c l₀ A f l) :
    Requested c l₀ A f' (e :: l) := by
  rcases hReq with
    ⟨txBufLen, id, request, before, after, hEnc, rfl, hNone,
      hA⟩
  exact
    ⟨txBufLen, id, request, before, e :: after, hEnc, rfl,
      hNone, hStep after hA⟩

theorem Requested.mono
    {c : ApiCall}
    {l₀ l : List Event}
    {A B : List Event → Prop}
    {f : Frame}
    (hSub : ∀ after, A after → B after)
    (hReq : Requested c l₀ A f l) :
    Requested c l₀ B f l := by
  rcases hReq with
    ⟨txBufLen, id, request, before, after, hEnc, hLog, hNone,
      hA⟩
  exact
    ⟨txBufLen, id, request, before, after, hEnc, hLog, hNone,
      hSub after hA⟩

/- The request has just been sent. -/
theorem requested_of_sent
    {c : ApiCall}
    {l₀ l : List Event}
    {A : List Event → Prop}
    {f : Frame}
    {txBufLen : Nat}
    {id : UInt16}
    {packet : Bytes}
    (hEnc : c.request txBufLen id = some (.ok packet))
    (hA : A [])
    (hSent : Sent .success packet (Unsent l₀) f l) :
    Requested c l₀ A f l := by
  rcases hSent with ⟨l', rfl, before, rfl, hNone⟩
  exact ⟨txBufLen, id, packet, before, [], hEnc, rfl, hNone, hA⟩

variable {E : Type}
variable {port : Port E}
variable {callback : Callback E}

/-
  A wait that leads from one stage to the next, and what the
  stages are kept by.
-/
structure WaitsFor
    (port : Port E)
    (callback : Callback E)
    (c : ApiCall)
    (l₀ : List Event)
    (ack : MessageType)
    (A B : List Event → Prop) : Prop where
  start : A []
  step :
    ∀ e after, Event.isReceive e = false → B after →
      B (e :: after)
  wait :
    ∀ fuel,
      Triple (Contract.plain (Sys E) Event)
        (Holds (Requested c l₀ A).cond)
        (waitForRead port fuel callback ack .command)
        (fun rc w =>
          rc = .success →
            Holds (Requested c l₀ B).cond w)

end Mqtt

end TrustOnboard

------------------------------------------------------------
-- The Operations
------------------------------------------------------------

namespace TrustOnboard

namespace Mqtt

variable {E : Type}
variable {port : Port E}
variable {callback : Callback E}
variable {c : ApiCall}
variable {l₀ : List Event}
variable {ack : MessageType}
variable {A B : List Event → Prop}

namespace WaitsFor

/- The next stage is kept by all but received packets. -/
theorem cons
    (hWaits : WaitsFor port callback c l₀ ack A B)
    {f f' : Frame}
    {l : List Event}
    {e : Event}
    (hOther : e.isReceive = false)
    (hReq : Requested c l₀ B f l) :
    Requested c l₀ B f' (e :: l) :=
  hReq.cons (fun after => hWaits.step e after hOther)

theorem quiet
    (hWaits : WaitsFor port callback c l₀ ack A B)
    (f : Frame)
    (l : List Event)
    (e : Event)
    (hQuiet : e.quiet = true)
    (hReq : Requested c l₀ B f l) :
    Requested c l₀ B f (e :: l) :=
  hWaits.cons (isReceive_of_quiet hQuiet) hReq

/- A sent request and its wait, with what follows them. -/
theorem exchange
    (hWaits : WaitsFor port callback c l₀ ack A B)
    {P : Run E → Prop}
    {send : Code E IoTError}
    {k : Client → Code E IoTError}
    (hSend :
      Triple (Contract.plain (Sys E) Event) P send
        (fun rc w =>
          rc = .success → Holds (Requested c l₀ A).cond w))
    (hFinish :
      ∀ cl,
        Triple (Contract.plain (Sys E) Event)
          (Holds (Requested c l₀ B).cond) (k cl)
          (fun _ => Holds (Requested c l₀ B).cond))
    (fuel : Nat) :
    Triple (Contract.plain (Sys E) Event) P
      (do
        let rc ← send
        if rc ≠ .success then
          pure rc
        else do
          let rc ←
            waitForRead port fuel callback ack .command
          if rc ≠ .success then
            pure rc
          else do
            let cl ← getClient
            k cl)
      (fun rc w =>
        rc = .success → Holds (Requested c l₀ B).cond w) := by
  refine hSend.bind ?_
  intro rc
  refine Triple.ite ?_ ?_
  · intro hRc
    exact Triple.ret (fun _ _ hYes => absurd hYes hRc)
  · intro hRc
    have hOk : rc = .success := not_not.mp hRc
    refine ((hWaits.wait fuel).pre (fun _ h => h hOk)).bind ?_
    intro rc
    refine Triple.ite ?_ ?_
    · intro hRc
      exact Triple.ret (fun _ _ hYes => absurd hYes hRc)
    · intro hRc
      have hOk : rc = .success := not_not.mp hRc
      refine
        ((holds_read _).pre (fun _ h => h hOk)).bind ?_
      intro cl
      exact (hFinish cl).post (fun _ _ h _ => h)

/- Encoding and sending a request. -/
theorem sendRequest
    (hWaits : WaitsFor port callback c l₀ ack A B)
    (hSingle : port.threadSupport = false)
    (fuel : Nat)
    (id : UInt16) :
    Triple (Contract.plain (Sys E) Event)
      (Holds (Unsent l₀).cond)
      (sendSerialized port fuel .command (fun cl =>
        c.request cl.writeBufSize id))
      (fun rc w =>
        rc = .success → Holds (Requested c l₀ A).cond w) := by
  refine
    (in_sendSerialized_sent hSingle (fun _ _ => trivial) ?_
      (failsWithError_request c id) fuel .command).post ?_
  · intro f l e hOutput hUnsent
    refine hUnsent.cons ?_
    rintro packet rfl
    cases hOutput
  · intro rc w hPost hRc
    rcases hPost with ⟨hNo, _⟩ | ⟨_, cl, packet, hEnc, hIn⟩
    · exact absurd hRc hNo
    · exact
        ⟨trivial, requested_of_sent hEnc hWaits.start hIn.2⟩

theorem registerHandler
    (hWaits : WaitsFor port callback c l₀ ack A B)
    (index : Nat)
    (entry : MessageHandlers) :
    Triple (Contract.plain (Sys E) Event)
      (Holds (Requested c l₀ B).cond)
      (registerHandler index entry : Code E Unit)
      (fun _ => Holds (Requested c l₀ B).cond) := by
  refine Triple.step ?_
  intro w hReq
  refine Or.inr ⟨trivial, ?_⟩
  dsimp only
  cases w.st.client.messageHandlers[index]? with
  | none => exact hReq.2
  | some previous => exact hWaits.cons rfl hReq.2

/- `_aws_iot_mqtt_internal_subscribe`. -/
theorem internalSubscribe
    {topic : Option CString}
    {topicLen : UInt16}
    {qos : QoS}
    {handler : Option HandlerId}
    {data : Nat}
    (hWaits :
      WaitsFor port callback
        (.subscribe topic topicLen qos handler data) l₀
        .suback A B)
    (hSingle : port.threadSupport = false)
    (fuel : Nat) :
    Triple (Contract.plain (Sys E) Event)
      (Holds (Unsent l₀).cond)
      (internalSubscribe port fuel callback topic topicLen
        qos handler data)
      (fun rc w =>
        rc = .success →
          Holds (Requested
            (.subscribe topic topicLen qos handler data) l₀
            B).cond w) := by
  refine holds_startCommandTimer.bind ?_
  intro _
  refine holds_getNextPacketId.bind ?_
  intro id
  refine
    (holds_serialize_packet (fun _ _ => trivial)
      (failsWithError_request
        (.subscribe topic topicLen qos handler data)
        id)).bind ?_
  intro res
  cases res with
  | error rc =>
      exact Triple.ret (fun _ hNe hRc => absurd hRc hNe.1)
  | ok n =>
      refine Triple.exists_pre ?_
      intro cl
      refine Triple.exists_pre ?_
      intro packet
      refine Triple.of_fact ?_
      intro hEnc
      refine Triple.seq (Triple.read (fun _ h => h)) ?_
      intro cl'
      refine Triple.ite ?_ ?_
      · intro _
        exact Triple.ret (fun _ _ hNo => by cases hNo)
      · intro _
        refine hWaits.exchange ?_ ?_ fuel
        · refine
            (in_sendPacket_sent hSingle (fun _ _ => trivial)
              ?_ fuel n .command packet).post ?_
          · intro f l e hOutput hUnsent
            refine hUnsent.cons ?_
            rintro packet rfl
            cases hOutput
          · intro rc w hSent hRc
            subst hRc
            exact
              ⟨trivial,
                requested_of_sent hEnc hWaits.start hSent.2⟩
        · intro cl
          cases
            deserializeSuback cl.readBuf 1
              cl.readBufSize with
          | error rc => exact Triple.same
          | ok _ =>
              exact
                (hWaits.registerHandler _ _).seq
                  (fun _ => Triple.same)

/- `_aws_iot_mqtt_internal_unsubscribe`. -/
theorem internalUnsubscribe
    {filter : Option CString}
    {filterLen : UInt16}
    (hWaits :
      WaitsFor port callback (.unsubscribe filter filterLen)
        l₀ .unsuback A B)
    (hSingle : port.threadSupport = false)
    (fuel : Nat) :
    Triple (Contract.plain (Sys E) Event)
      (Holds (Unsent l₀).cond)
      (internalUnsubscribe port fuel callback filter
        filterLen)
      (fun rc w =>
        rc = .success →
          Holds (Requested (.unsubscribe filter filterLen) l₀
            B).cond w) := by
  have hExchange :
      Triple (Contract.plain (Sys E) Event)
        (Holds (Unsent l₀).cond)
        (unsubscribeExchange port fuel callback filter
          filterLen)
        (fun rc w =>
          rc = .success →
            Holds (Requested (.unsubscribe filter filterLen)
              l₀ B).cond w) := by
    refine holds_startCommandTimer.bind ?_
    intro _
    refine holds_getNextPacketId.bind ?_
    intro id
    refine
      hWaits.exchange (hWaits.sendRequest hSingle fuel id)
        ?_ fuel
    intro cl
    cases deserializeUnsuback cl.readBuf cl.readBufSize with
    | error rc => exact Triple.same
    | ok _ => exact Triple.same
  refine (holds_read _).bind ?_
  intro cl
  refine Triple.ite ?_ ?_
  · intro _
    exact Triple.ret (fun _ _ hNo => by cases hNo)
  · intro _
    refine hExchange.bind ?_
    intro rc
    refine Triple.ite ?_ ?_
    · intro hRc
      exact Triple.ret (fun _ _ hYes => absurd hYes hRc)
    · intro hRc
      refine Triple.bind
        (M := fun _ =>
          Holds (Requested (.unsubscribe filter filterLen) l₀
            B).cond) ?_
        (fun _ => Triple.ret (fun _ h _ => h))
      refine Triple.modify ?_
      intro w hReq
      exact ⟨trivial, (hReq (not_not.mp hRc)).2⟩

/- `_aws_iot_mqtt_internal_publish` with QoS 1. -/
theorem internalPublish
    {topic : Option CString}
    {topicLen : UInt16}
    {params : PublishParams}
    (hQos : params.qos = .qos1)
    (hWaits :
      WaitsFor port callback
        (.publish topic topicLen (some params)) l₀ .puback
        A B)
    (hSingle : port.threadSupport = false)
    (fuel : Nat) :
    Triple (Contract.plain (Sys E) Event)
      (Holds (Unsent l₀).cond)
      (internalPublish port fuel callback topic topicLen
        params)
      (fun rc w =>
        rc = .success →
          Holds (Requested
            (.publish topic topicLen (some params)) l₀
            B).cond w) := by
  refine holds_startCommandTimer.bind ?_
  intro _
  rw [if_pos hQos]
  refine (holds_assignPacketId params).bind ?_
  intro id
  simp only [if_pos hQos]
  refine
    hWaits.exchange (hWaits.sendRequest hSingle fuel id) ?_
      fuel
  intro cl
  cases deserializeAck cl.readBuf cl.readBufSize with
  | error rc => exact Triple.same
  | ok _ => exact Triple.same

end WaitsFor

end Mqtt

end TrustOnboard

------------------------------------------------------------
-- Whole Calls
------------------------------------------------------------

namespace TrustOnboard

namespace Mqtt

variable {E : Type}
variable {port : Port E}
variable {callback : Callback E}
variable {c : ApiCall}
variable {l₀ : List Event}
variable {ack : MessageType}
variable {A B : List Event → Prop}

theorem Unsent.quiet
    (f : Frame)
    (l : List Event)
    (e : Event)
    (hQuiet : e.quiet = true)
    (hUnsent : Unsent l₀ f l) :
    Unsent l₀ f (e :: l) := by
  refine hUnsent.cons ?_
  rintro packet rfl
  cases hQuiet

/- `aws_iot_mqtt_subscribe`. -/
theorem WaitsFor.subscribe
    {topic : Option CString}
    {topicLen : UInt16}
    {qos : QoS}
    {handler : Option HandlerId}
    {data : Nat}
    (hWaits :
      WaitsFor port callback
        (.subscribe topic topicLen qos handler data) l₀
        .suback A B)
    (hSingle : port.threadSupport = false)
    (fuel : Nat) :
    Triple (Contract.plain (Sys E) Event)
      (Holds (Unsent l₀).cond)
      (Mqtt.subscribe port fuel callback topic topicLen qos
        handler data)
      (fun rc w =>
        rc = .success →
          Holds (Requested
            (.subscribe topic topicLen qos handler data) l₀
            B).cond w) := by
  refine Triple.ite ?_ ?_
  · intro _
    exact Triple.ret (fun _ _ hNo => by cases hNo)
  · intro _
    exact
      enterOperation_success hSingle Unsent.quiet
        hWaits.quiet (hWaits.internalSubscribe hSingle fuel)

/- The body of a call that awaits an acknowledgement. -/
theorem WaitsFor.apiBody
    {inWait inYield : ApiCall → Code E IoTError}
    (hWaits :
      WaitsFor port (runCallback port inWait) c l₀ ack A B)
    (hSingle : port.threadSupport = false)
    (hAwaits : c.awaits = some ack)
    (fuel : Nat) :
    Triple (Contract.plain (Sys E) Event)
      (Holds (Unsent l₀).cond)
      (apiBody port fuel inWait inYield c)
      (fun rc w =>
        rc = .success →
          Holds (Requested c l₀ B).cond w) := by
  cases c with
  | subscribe topic topicLen qos handler data =>
      cases hAwaits
      exact hWaits.subscribe hSingle fuel
  | unsubscribe filter filterLen =>
      cases hAwaits
      refine Triple.ite ?_ ?_
      · intro _
        exact Triple.ret (fun _ _ hNo => by cases hNo)
      · intro _
        exact
          enterOperation_success hSingle Unsent.quiet
            hWaits.quiet
            (hWaits.internalUnsubscribe hSingle fuel)
  | publish topic topicLen params =>
      cases params with
      | none => cases hAwaits
      | some params =>
          simp only [ApiCall.awaits] at hAwaits
          split at hAwaits
          case isFalse hQos => cases hAwaits
          case isTrue hQos =>
            cases hAwaits
            refine Triple.ite ?_ ?_
            · intro _
              exact Triple.ret (fun _ _ hNo => by cases hNo)
            · intro _
              exact
                enterOperation_success hSingle Unsent.quiet
                  hWaits.quiet
                  (hWaits.internalPublish hQos hSingle fuel)
  | connect params => cases hAwaits
  | disconnect => cases hAwaits
  | attemptReconnect => cases hAwaits
  | resubscribe => cases hAwaits
  | yield timeoutMs => cases hAwaits
  | autoreconnectSetStatus status => cases hAwaits
  | setDisconnectHandler handler data => cases hAwaits

/- A call that succeeds has reached the last stage. -/
theorem requested_of_success
    (hSingle : port.threadSupport = false)
    (hAwaits : c.awaits = some ack)
    {fuel : Nat}
    {waiting : Bool}
    {w w' : Run E}
    (hRun :
      (api port fuel waiting c).run w = (some .success, w'))
    (hWaits :
      ∀ call : ApiCall → Code E IoTError,
        WaitsFor port (runCallback port call) c w.log ack
          A B)
    (f : Frame) :
    Requested c w.log B f w'.log := by
  cases fuel with
  | zero => cases hRun
  | succ fuel =>
      have hCall :
          Triple (Contract.plain (Sys E) Event)
            (Holds (Unsent w.log).cond)
            (api port (fuel + 1) waiting c)
            (fun rc w' =>
              rc = .success →
                Holds (Requested c w.log B).cond w') := by
        refine Triple.bind
          (M := fun _ => Holds (Unsent w.log).cond) ?_ ?_
        · refine Triple.emit ?_
          intro v hUnsent
          exact
            Or.inr
              ⟨trivial,
                hUnsent.2.cons (fun _ hEq => by cases hEq)⟩
        intro _
        refine
          ((hWaits (api port fuel true)).apiBody hSingle
            hAwaits fuel).bind ?_
        intro rc
        refine Triple.bind
          (M := fun _ w' =>
            rc = .success →
              Holds (Requested c w.log B).cond w')
          (Triple.emit ?_) (fun _ => Triple.same)
        intro v hReq
        refine Or.inr ?_
        intro hRc
        exact
          ⟨trivial, (hWaits (api port fuel true)).cons rfl
            (hReq hRc).2⟩
      have hStart : Holds (Unsent w.log).cond w :=
        ⟨trivial, [], rfl, fun _ h => by cases h⟩
      rcases hCall.of_run hStart hRun with hNo | hPost
      · exact hNo.elim
      · exact (hPost rfl).2

end Mqtt

end TrustOnboard

------------------------------------------------------------
-- What A Successful Call Has Read
------------------------------------------------------------

namespace TrustOnboard

namespace Mqtt

variable {E : Type}
variable {port : Port E}
variable {callback : Callback E}
variable {c : ApiCall}
variable {l₀ : List Event}
variable {ack : MessageType}

/- Reading a packet moves a stage on. -/
theorem readPacket_requested
    {A : List Event → Prop}
    {P : UInt8 → List Event → Prop}
    (hInput :
      ∀ e after, Event.isInput e = true → A after →
        A (e :: after))
    (hPacket :
      ∀ packet after, A after →
        P (packetType packet) (.rxPacket packet :: after))
    (fuel : Nat) :
    Triple (Contract.plain (Sys E) Event)
      (Holds (Requested c l₀ A).cond)
      (readPacket port fuel)
      (fun r =>
        Holds (AfterRead (Requested c l₀ A).cond
          (fun type => (Requested c l₀ (P type)).cond)
          r.2)) := by
  refine
    (in_readPacket_received (fun _ _ => trivial) ?_
      fuel).post ?_
  · intro f l e hE hReq
    exact hReq.cons (fun after => hInput e after hE)
  · intro r w hIn
    have hLast := hIn.2
    cases hType : r.2 with
    | none =>
        rw [hType] at hLast
        exact ⟨trivial, hLast⟩
    | some type =>
        rw [hType] at hLast
        rcases hLast with ⟨packet, l', hLog, hEq, hReq⟩
        refine ⟨trivial, ?_⟩
        rw [hLog, ← hEq]
        rcases hReq with
          ⟨txBufLen, id, request, before, after, hEnc, rfl,
            hNone, hA⟩
        exact
          ⟨txBufLen, id, request, before,
            .rxPacket packet :: after, hEnc, rfl, hNone,
            hPacket packet after hA⟩

/- A successful wait has read an acknowledgement. -/
theorem waitsFor_some
    (hSingle : port.threadSupport = false) :
    WaitsFor port callback c l₀ ack (fun _ => True)
      (fun after => packetsRead ack after ≠ []) where
  start := trivial
  step := by
    intro e after hOther hSome
    rw [packetsRead_cons]
    · exact hSome
    · rintro packet rfl
      cases hOther
  wait := by
    intro fuel
    refine
      (waitForRead_received
        (P := fun type =>
          (Requested c l₀ (fun after =>
            type = ack.nibble →
              packetsRead ack after ≠ [])).cond)
        hSingle (fun _ _ => trivial)
        (fun _ _ _ _ _ hReq =>
          ⟨trivial, hReq.2.cons (fun _ _ => trivial)⟩)
        (readPacket_requested (fun _ _ _ _ => trivial) ?_
          fuel) ?_ ?_).post ?_
    · intro packet after _ hType
      simp [packetsRead, hType]
    · intro type
      refine
        (Triple.log_mono
          (I := fun l =>
            Requested c l₀ (fun after =>
              type = ack.nibble →
                packetsRead ack after ≠ []) ⟨[], 0, 0⟩ l)
          ?_).conseq (fun _ h => h.2)
            (fun _ _ h => ⟨trivial, h⟩)
      intro es l hReq
      rcases hReq with
        ⟨txBufLen, id, request, before, after, hEnc, rfl,
          hNone, hSome⟩
      refine
        ⟨txBufLen, id, request, before, es ++ after, hEnc,
          by simp, hNone, ?_⟩
      intro hType
      rw [packetsRead_append]
      simp [hSome hType]
    · intro type s f l _ hReq
      exact ⟨trivial, hReq.2.mono (fun _ _ => trivial)⟩
    · intro rc w hPost hRc
      exact
        ⟨trivial,
          (hPost.received hRc).2.mono (fun _ h => h rfl)⟩

/- With quiet callbacks it has read exactly one. -/
theorem waitsFor_one
    (hSingle : port.threadSupport = false)
    (hCb :
      Harmless (Contract.plain (Sys E) Event) callback) :
    WaitsFor port callback c l₀ ack
      (fun after => packetsRead ack after = [])
      (fun after =>
        ∃ packet, packetsRead ack after = [packet]) where
  start := rfl
  step := by
    intro e after hOther hOne
    rw [packetsRead_cons]
    · exact hOne
    · rintro packet rfl
      cases hOther
  wait := by
    intro fuel
    have hKeep :
        ∀ type (e : Event) after, e.isReceive = false →
          (if type = ack.nibble then
            ∃ packet, packetsRead ack after = [packet]
          else packetsRead ack after = []) →
          (if type = ack.nibble then
            ∃ packet, packetsRead ack (e :: after) = [packet]
          else packetsRead ack (e :: after) = []) := by
      intro type e after hOther hCount
      rw [packetsRead_cons]
      · exact hCount
      · rintro packet rfl
        cases hOther
    refine
      (waitForRead_received
        (P := fun type =>
          (Requested c l₀ (fun after =>
            if type = ack.nibble then
              ∃ packet, packetsRead ack after = [packet]
            else packetsRead ack after = [])).cond)
        hSingle (fun _ _ => trivial) ?_
        (readPacket_requested ?_ ?_ fuel) ?_ ?_).post ?_
    · intro s f l e hQuiet hReq
      refine ⟨trivial, hReq.2.cons ?_⟩
      intro after hNone
      rw [packetsRead_cons]
      · exact hNone
      · rintro packet rfl
        cases hQuiet
    · intro e after hInput hNone
      rw [packetsRead_cons]
      · exact hNone
      · rintro packet rfl
        cases hInput
    · intro packet after hNone
      by_cases hType : packetType packet = ack.nibble
      · simp [packetsRead, hType, hNone]
      · simp [packetsRead, hType, hNone]
    · intro type
      refine
        in_dispatchPacket hSingle hCb ?_
          (fun s id =>
            in_sendPuback hSingle (fun _ _ => trivial) ?_ ?_
              fuel .command id) type
      · intro f l e hQuiet hReq
        exact
          hReq.cons (fun after =>
            hKeep type e after (isReceive_of_quiet hQuiet))
      · intro f l e hSend hReq
        exact
          hReq.cons (fun after =>
            hKeep type e after (isReceive_of_isOutput hSend))
      · intro f l packet _ hReq
        exact
          hReq.cons
            (fun after => hKeep type _ after rfl)
    · intro type s f l hType hReq
      refine ⟨trivial, hReq.2.mono ?_⟩
      intro after hCount
      rw [if_neg hType] at hCount
      exact hCount
    · intro rc w hPost hRc
      refine ⟨trivial, (hPost.received hRc).2.mono ?_⟩
      intro after hCount
      rw [if_pos rfl] at hCount
      exact hCount

/-
  A subscribe, an unsubscribe or a publish with quality of
  service one that returns success has sent its request and
  then read a packet of the type it awaits.  If the first
  such packet carries the identifier of the request, the call
  was acknowledged; and when callbacks make no calls, it was
  acknowledged only if the first such packet carries it.
-/
theorem acknowledged_iff_first
    (port : Port E)
    (hSingle : port.threadSupport = false)
    (fuel : Nat)
    (waiting : Bool)
    (c : ApiCall)
    (ack : MessageType)
    (hAwaits : c.awaits = some ack)
    (w w' : Run E)
    (hRun :
      (api port fuel waiting c).run w =
        (some .success, w')) :
    ∃ txBufLen id request before after,
      c.request txBufLen id = some (.ok request) ∧
      w'.log =
        after ++ .txPacket request :: (before ++ w.log) ∧
      (∀ packet, .txPacket packet ∉ before) ∧
      packetsRead ack after ≠ [] ∧
      (FirstAcknowledges ack id after →
        Acknowledged ack id after) ∧
      (QuietCallbacks port →
        (Acknowledged ack id after ↔
          FirstAcknowledges ack id after)) := by
  by_cases hQuiet : QuietCallbacks port
  · rcases requested_of_success hSingle hAwaits hRun
      (fun call =>
        waitsFor_one hSingle
          (harmless_runCallback hQuiet call))
      ⟨[], 0, 0⟩ with
      ⟨txBufLen, id, request, before, after, hEnc, hLog,
        hNone, packet, hOne⟩
    refine
      ⟨txBufLen, id, request, before, after, hEnc, hLog,
        hNone, by simp [hOne], acknowledged_of_first, ?_⟩
    intro _
    exact
      ⟨first_of_acknowledged hOne, acknowledged_of_first⟩
  · rcases requested_of_success hSingle hAwaits hRun
      (fun _ => waitsFor_some hSingle) ⟨[], 0, 0⟩ with
      ⟨txBufLen, id, request, before, after, hEnc, hLog,
        hNone, hSome⟩
    exact
      ⟨txBufLen, id, request, before, after, hEnc, hLog,
        hNone, hSome, acknowledged_of_first,
        fun hYes => absurd hYes hQuiet⟩

/- A client with two free slots and an incoming packet. -/
def oneAck (packet : Bytes) (timers : List Bool) :
    Run Script :=
  scriptStart
    (scriptClient .connectedIdle [freeSlot, freeSlot])
    { Script.idle with
      incoming := [some packet]
      timers := timers }

theorem acknowledged_iff_first_subscribe :
    ∃ w' id after,
      (api quietPort 6 false
        (subscribeLetter 65 upperA_ne)).run
          (oneAck (subackPacket 2) [false, false]) =
        (some .success, w') ∧
      (∃ rest, w'.log = after ++ rest) ∧
      (Acknowledged .suback id after ↔
        FirstAcknowledges .suback id after) := by
  have hRun :=
    Prog.run_of_returns (a := IoTError.success)
      (p :=
        api quietPort 6 false
          (subscribeLetter 65 upperA_ne))
      (w := oneAck (subackPacket 2) [false, false])
      (by decide +kernel)
  rcases acknowledged_iff_first quietPort rfl 6 false _
    .suback rfl _ _ hRun with
    ⟨_, id, _, _, after, _, hLog, _, _, _, hIff⟩
  exact
    ⟨_, id, after, hRun, ⟨_, hLog⟩,
      hIff (fun _ _ _ _ => rfl)⟩

/- The events of a run since it was in a given world. -/
def eventsSince (w w' : Run Script) : List Event :=
  w'.log.take (w'.log.length - w.log.length)

/- The packets sent, newest first. -/
def packetsSent (l : List Event) : List Bytes :=
  l.filterMap (fun e =>
    match e with
    | .txPacket packet => some packet
    | _ => none)

/-
  A subscribe gives up on its SUBACK.  The next subscribe
  reads it and takes it for its own: it sent one packet, with
  identifier three, and read no SUBACK with that identifier.
-/
theorem staleSuback_accepted :
    ∃ w₁ w₂ request,
      (api quietPort 6 false
        (subscribeLetter 65 upperA_ne)).run
          (oneAck (subackPacket 2)
            [false, true, false, false]) =
        (some .mqttRequestTimeoutError, w₁) ∧
      (api quietPort 6 false
        (subscribeLetter 66 upperB_ne)).run w₁ =
        (some .success, w₂) ∧
      (subscribeLetter 66 upperB_ne).request 64 3 =
        some (.ok request) ∧
      packetsSent (eventsSince w₁ w₂) = [request] ∧
      ∀ packet ∈ packetsRead .suback (eventsSince w₁ w₂),
        packetIdentifier packet ≠ some 3 :=
  ⟨_, _, [130, 6, 0, 3, 0, 1, 66, 0],
    Prog.run_of_returns (by decide +kernel),
    Prog.run_of_returns (by decide +kernel),
    by decide +kernel, by decide +kernel,
    by decide +kernel⟩

end Mqtt

end TrustOnboard
