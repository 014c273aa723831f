import TrustOnboard.Mqtt.Footprint
import TrustOnboard.Mqtt.Api

/-
  Invariants of the requests a client makes.

  A step apart transfers nothing and keeps the settings of
  the client, its state and its counters.  An invariant that
  survives such steps, the sending of a request and a cycle
  of the receive path is kept by every exchange.  When it
  also allows the client a set of states, it is kept by the
  calls that move between these.

  Key definitions include:
    * `Apart`
    * `Request`
    * `Ready`
    * `KeptApart`
    * `KeptStates`
    * `SendsRequests`
    * `Requests`

  Key results include:
    * `serialize_ready`
    * `sendPacket_steps`
    * `readPacket_receives`
    * `SendsRequests.internalPublish`
    * `Requests.resubscribe`
-/

------------------------------------------------------------
-- Steps That Transfer Nothing
------------------------------------------------------------

namespace TrustOnboard

namespace Mqtt

variable {E : Type}

/- Events that neither transfer bytes nor begin a call. -/
def Event.aside : Event → Bool
  | .netRead _ _ _ _ => false
  | .netWrite _ _ _ => false
  | .rxStore _ _ => false
  | .rxPacket _ => false
  | .txPacket _ => false
  | .call _ _ => false
  | .init => false
  | _ => true

/- The events of a lost connection and of reconnecting. -/
def Event.isOutage : Event → Bool
  | .timerChecked .reconnectDelay _ => true
  | .connectionLost => true
  | .disconnectHandlerReturned _ => true
  | _ => false

/- A change of the state that found the mutex held. -/
def Event.isRefusal : Event → Bool
  | .setStateBusy _ _ _ => true
  | _ => false

/- Events aside that belong to no outage and no refusal. -/
def Event.apart (e : Event) : Bool :=
  e.aside && !e.isOutage && !e.isRefusal

theorem aside_of_apart
    {e : Event}
    (hApart : e.apart = true) :
    e.aside = true := by
  unfold Event.apart at hApart
  simp only [Bool.and_eq_true] at hApart
  exact hApart.1.1

/- What an invariant may read of the client. -/
structure Settings where
  clientState : ClientState
  isPingOutstanding : Bool
  currentReconnectWaitInterval : UInt32
  writeBufSize : Nat
  readBufSize : Nat
  options : ConnectParams

def Client.settings (c : Client) : Settings where
  clientState := c.clientState
  isPingOutstanding := c.isPingOutstanding
  currentReconnectWaitInterval :=
    c.currentReconnectWaitInterval
  writeBufSize := c.writeBufSize
  readBufSize := c.readBufSize
  options := c.options

/- A step with such events that keeps the settings. -/
structure Apart
    (s s' : Sys E)
    (es : List Event) : Prop where
  settings : s'.client.settings = s.client.settings
  events : ∀ e ∈ es, e.apart = true

/- A step with no events. -/
theorem apart_silent
    {s s' : Sys E}
    (hSettings : s'.client.settings = s.client.settings) :
    Apart s s' [] :=
  ⟨hSettings, fun _ h => by cases h⟩

/- A step with one event. -/
theorem apart_event
    {s s' : Sys E}
    {e : Event}
    (hSettings : s'.client.settings = s.client.settings)
    (hApart : e.apart = true) :
    Apart s s' [e] := by
  refine ⟨hSettings, ?_⟩
  intro e' he'
  rw [List.mem_singleton.mp he']
  exact hApart

/-
  The encoders of the packets a call sends by itself, but
  for the PINGREQ of a yield.
-/
inductive Request : (Client → Serialized) → Prop where
  | publish
      (qos : QoS)
      (retained : UInt8)
      (id : UInt16)
      (topic : Option CString)
      (topicLen : UInt16)
      (payload : Option Bytes) :
      Request (fun c =>
        serializePublish c.writeBufSize 0 qos retained id
          topic topicLen payload)
  | subscribe
      (id : UInt16)
      (topic : Option CString)
      (topicLen : UInt16)
      (qos : QoS) :
      Request (fun c =>
        serializeSubscribe c.writeBufSize 0 id
          [(topic, topicLen, qos)])
  | unsubscribe
      (id : UInt16)
      (filter : Option CString)
      (filterLen : UInt16) :
      Request (fun c =>
        serializeUnsubscribe c.writeBufSize 0 id
          [(filter, filterLen)])
  | connect :
      Request (fun c =>
        serializeConnect c.writeBufSize c.options)
  | disconnect :
      Request (fun c =>
        serializeZero c.writeBufSize .disconnect)

/-
  No request is a PUBACK or a PINGREQ, and only one is a
  CONNECT.
-/
theorem Request.packetType
    {r : Client → Serialized}
    (hRequest : Request r)
    {c : Client}
    {packet : Bytes}
    (hEnc : r c = some (.ok packet)) :
    packetType packet ≠ MessageType.puback.nibble ∧
      packetType packet ≠ MessageType.pingreq.nibble ∧
      (packetType packet = MessageType.connect.nibble →
        serializeConnect c.writeBufSize c.options =
          some (.ok packet)) := by
  cases hRequest with
  | connect =>
      refine ⟨?_, ?_, fun _ => hEnc⟩
      · rw [packetType_connect hEnc]
        decide
      · rw [packetType_connect hEnc]
        decide
  | publish qos retained id topic topicLen payload =>
      rw [packetType_publish hEnc]
      exact ⟨by decide, by decide, fun hNo => by cases hNo⟩
  | subscribe id topic topicLen qos =>
      rw [packetType_frame hEnc]
      exact ⟨by decide, by decide, fun hNo => by cases hNo⟩
  | unsubscribe id filter filterLen =>
      rw [packetType_frame hEnc]
      exact ⟨by decide, by decide, fun hNo => by cases hNo⟩
  | disconnect =>
      rw [packetType_zero hEnc]
      exact ⟨by decide, by decide, fun hNo => by cases hNo⟩

/-
  The first `n` bytes of the transmit buffer are a packet of
  the encoder, for the options the client has.
-/
def Ready
    (r : Client → Serialized)
    (n : Nat)
    (c' : Client) : Prop :=
  ∃ c,
    r c = some (.ok (c'.writeBuf.load 0 n)) ∧
      c.options = c'.options

/- What encoding achieved. -/
def Readied
    (r : Client → Serialized)
    (res : Except IoTError Nat)
    (c' : Client) : Prop :=
  match res with
  | .error _ => True
  | .ok n => Ready r n c'

/- An invariant that survives the steps apart. -/
structure KeptApart
    (C : Contract (Sys E) Event)
    (I : Run E → Prop) : Prop where
  halt : ∀ w, I w → C.halted w
  apart :
    ∀ s s' es l, Apart s s' es → I ⟨s, l⟩ →
      I ⟨s', es ++ l⟩

/- The system with another client state. -/
def Sys.inState
    (s : Sys E)
    (new : ClientState) : Sys E :=
  { s with client := { s.client with clientState := new } }

/- Such an invariant that allows a set of states. -/
structure KeptStates
    (C : Contract (Sys E) Event)
    (φ : ClientState → Prop)
    (I : Run E → Prop) : Prop extends KeptApart C I where
  inside : ∀ w, I w → φ w.st.client.clientState
  state :
    ∀ s l new, φ new → I ⟨s, l⟩ → I ⟨s.inState new, l⟩
  refused :
    ∀ s l expected new, I ⟨s, l⟩ →
      C.excused
          (.setStateBusy expected new s.client.clientState ::
            l) ∨
        I ⟨s,
          .setStateBusy expected new s.client.clientState ::
            l⟩

/- An invariant that survives the sending of requests. -/
structure SendsRequests
    (port : Port E)
    (C : Contract (Sys E) Event)
    (I : Run E → Prop) : Prop extends KeptApart C I where
  send :
    ∀ r, Request r → ∀ fuel n,
      Triple C
        (fun w => Ready r n w.st.client ∧ I w)
        (sendPacket port fuel n .command)
        (fun _ => I)

/- One that does both. -/
structure Requests
    (port : Port E)
    (C : Contract (Sys E) Event)
    (φ : ClientState → Prop)
    (I : Run E → Prop) : Prop
    extends KeptStates C φ I, SendsRequests port C I

end Mqtt

end TrustOnboard

------------------------------------------------------------
-- Primitives
------------------------------------------------------------

namespace TrustOnboard

namespace Mqtt

namespace KeptApart

variable {E : Type}
variable {port : Port E}
variable {C : Contract (Sys E) Event}
variable {I : Run E → Prop}

theorem step
    (hI : KeptApart C I)
    {α : Type}
    {f : Sys E → α × Sys E × List Event}
    (hStep : ∀ s, Apart s (f s).2.1 (f s).2.2) :
    Keeps C I (Prog.step f) :=
  Triple.step
    (fun w hw => Or.inr (hI.apart _ _ _ _ (hStep w.st) hw))

theorem read
    {α : Type}
    (f : Sys E → α) :
    Keeps C I (Prog.read f) :=
  Triple.read (fun _ hw => hw)

theorem modifyClient
    (hI : KeptApart C I)
    {f : Client → Client}
    (hSettings : ∀ c, (f c).settings = c.settings) :
    Keeps C I (Mqtt.modifyClient f : Code E Unit) :=
  hI.step (fun s => apart_silent (hSettings s.client))

/- An event is recorded. -/
theorem emit
    (hI : KeptApart C I)
    {f : Sys E → Event}
    (hApart : ∀ s, (f s).apart = true) :
    Keeps C I (Prog.emit f) :=
  hI.step (fun s => apart_event rfl (hApart s))

/- A change of the platform. -/
theorem platform
    (hI : KeptApart C I)
    {α : Type}
    (f : E → α × E) :
    Keeps C I
      (Prog.step (fun s : Sys E =>
        ((f s.env).1, { s with env := (f s.env).2 }, []))) :=
  hI.step (fun _ => apart_silent rfl)

/- A change of the platform that shows. -/
theorem answer
    (hI : KeptApart C I)
    {α : Type}
    (f : E → α × E)
    (e : Sys E → Event)
    (hApart : ∀ s, (e s).apart = true) :
    Keeps C I
      (Prog.step (fun s : Sys E =>
        ((f s.env).1, { s with env := (f s.env).2 },
          [e s]))) :=
  hI.step (fun s => apart_event rfl (hApart s))

theorem hasTimerExpired
    (hI : KeptApart C I)
    {timer : TimerName}
    (hTimer : timer ≠ .reconnectDelay) :
    Keeps C I (Mqtt.hasTimerExpired port timer) := by
  refine hI.answer (port.hasTimerExpired timer) _ ?_
  intro s
  cases timer <;> first | rfl | exact absurd rfl hTimer

theorem countdown
    (hI : KeptApart C I)
    (timer : TimerName)
    (span : Nat) :
    Keeps C I (Mqtt.countdown port timer span) :=
  hI.step (fun _ => apart_silent rfl)

theorem startCommandTimer
    (hI : KeptApart C I) :
    Keeps C I (Mqtt.startCommandTimer port) :=
  (KeptApart.read _).seq (fun _ => hI.countdown _ _)

theorem getNextPacketId
    (hI : KeptApart C I) :
    Keeps C I (Mqtt.getNextPacketId : Code E UInt16) :=
  hI.step (fun _ => apart_silent rfl)

theorem modifyMessages
    (hI : KeptApart C I)
    (f : List MessageParams → List MessageParams) :
    Keeps C I (Mqtt.modifyMessages f : Code E Unit) :=
  hI.modifyClient (fun _ => rfl)

theorem assignPacketId
    (hI : KeptApart C I)
    (params : PublishParams) :
    Keeps C I (Mqtt.assignPacketId params : Code E UInt16) := by
  refine hI.getNextPacketId.seq ?_
  intro id
  exact (hI.modifyMessages _).seq (fun _ => Triple.same)

/- A call of a callback, given the call itself. -/
theorem makeCall
    (hI : KeptApart C I)
    {call : ApiCall → Code E IoTError}
    {c : ApiCall}
    (hCall : Keeps C I (call c)) :
    Keeps C I (Mqtt.makeCall call c) :=
  (hI.modifyMessages _).seq
    (fun _ => hCall.seq (fun _ => Triple.same))

/- The calls an application makes in a callback. -/
theorem eachCall
    (hI : KeptApart C I)
    {call : ApiCall → Code E IoTError}
    (hCall : ∀ c, Keeps C I (call c))
    (calls : List ApiCall) :
    Keeps C I (Prog.each (Mqtt.makeCall call) calls) := by
  refine Triple.each ?_
  intro c _
  exact hI.makeCall (hCall c)

theorem lockMutex
    (hI : KeptApart C I)
    (m : Mutex) :
    Keeps C I (Mqtt.lockMutex port m) := by
  unfold Mqtt.lockMutex
  refine Triple.ite (fun _ => ?_) (fun _ => Triple.same)
  refine (KeptApart.read _).seq ?_
  intro c
  refine Triple.ite (fun _ => ?_) (fun _ => ?_)
  · refine Triple.seq ?_ (fun _ => Triple.same)
    refine Prog.Uses.triple (R := Apart)
      (Prog.Uses.await ?_) hI.halt hI.apart
    exact fun _ => apart_silent rfl
  · refine hI.step ?_
    intro s
    dsimp only
    split
    · exact apart_silent rfl
    · exact apart_silent rfl

theorem unlockMutex
    (hI : KeptApart C I)
    (m : Mutex) :
    Keeps C I (Mqtt.unlockMutex port m) := by
  unfold Mqtt.unlockMutex
  refine Triple.ite (fun _ => ?_) (fun _ => Triple.same)
  refine Triple.seq ?_ (fun _ => Triple.same)
  exact hI.modifyClient (fun _ => rfl)

theorem netDisconnect
    (hI : KeptApart C I) :
    Keeps C I (Mqtt.netDisconnect port) :=
  hI.step (fun _ => apart_event rfl rfl)

theorem netDestroy
    (hI : KeptApart C I)
    (site : Teardown) :
    Keeps C I (Mqtt.netDestroy port site) :=
  hI.answer port.netDestroy _ (fun _ => rfl)

/- What encoding leaves behind. -/
theorem serialize_ready
    (hI : KeptApart C I)
    (r : Client → Serialized) :
    Triple C I (serialize r : Code E _)
      (fun res w =>
        Readied r res w.st.client ∧ I w) := by
  intro w hw
  unfold serialize
  have hRead :
      (getClient : Code E Client).run w =
        (some w.st.client, w) := rfl
  rw [Prog.run_bind_of_run hRead]
  cases hEnc : r w.st.client with
  | none => exact Or.inr (hI.halt w hw)
  | some res =>
      cases res with
      | error rc => exact Or.inr ⟨trivial, hw⟩
      | ok bs =>
          refine Or.inr ⟨?_, ?_⟩
          · refine ⟨w.st.client, ?_, rfl⟩
            rw [hEnc]
            exact
              congrArg (fun bs => some (Except.ok bs))
                (w.st.client.writeBuf.load_store_self 0
                  bs).symm
          · let s' : Sys E :=
              { w.st with
                client :=
                  { w.st.client with
                    writeBuf :=
                      w.st.client.writeBuf.store 0 bs } }
            have hApart : Apart w.st s' [] :=
              apart_silent rfl
            exact hI.apart w.st s' [] w.log hApart hw

end KeptApart

namespace KeptStates

variable {E : Type}
variable {port : Port E}
variable {C : Contract (Sys E) Event}
variable {φ : ClientState → Prop}
variable {I : Run E → Prop}

/- The state that was read is one of those allowed. -/
theorem getClientState
    (hI : KeptStates C φ I) :
    Triple C I (Mqtt.getClientState : Code E ClientState)
      (fun s w => φ s ∧ I w) :=
  Triple.read (fun w hw => ⟨hI.inside w hw, hw⟩)

theorem setClientState
    (hI : KeptStates C φ I)
    (expected : ClientState)
    {new : ClientState}
    (hNew : φ new) :
    Keeps C I (Mqtt.setClientState port expected new) := by
  refine (hI.lockMutex .stateChange).seq ?_
  intro rc
  refine Triple.ite (fun _ => ?_) (fun _ => ?_)
  · refine Triple.seq (Triple.emit ?_) (fun _ => Triple.same)
    exact fun w hw => hI.refused w.st w.log expected new hw
  · refine Triple.seq (Triple.step ?_) ?_
    · intro w hw
      right
      dsimp only
      split
      · exact
          hI.apart _ _ [_] w.log (apart_event rfl rfl)
            (hI.state w.st w.log new hNew hw)
      · exact
          hI.apart w.st w.st [_] w.log
            (apart_event rfl rfl) hw
    · intro rc
      refine (hI.unlockMutex .stateChange).seq ?_
      intro threadRc
      exact
        Triple.ite (fun _ => Triple.same)
          (fun _ => Triple.same)

theorem assignClientState
    (hI : KeptStates C φ I)
    {new : ClientState}
    (hNew : φ new) :
    Keeps C I (Mqtt.assignClientState new : Code E Unit) :=
  Triple.modify
    (fun w hw => hI.state w.st w.log new hNew hw)

/- The end of a connect, once its exchange is over. -/
theorem finishConnect
    (hI : KeptStates C φ I)
    (hError : φ .disconnectedError)
    (hIdle : φ .connectedIdle)
    (rc : IoTError) :
    Keeps C I
      (if rc ≠ .success then do
        Mqtt.netDisconnect port
        let _ ← Mqtt.netDestroy port .connect
        let _ ←
          Mqtt.setClientState port .connecting
            .disconnectedError
        pure rc
      else do
        let _ ←
          Mqtt.setClientState port .connecting .connectedIdle
        pure rc : Code E IoTError) := by
  refine Triple.ite (fun _ => ?_) (fun _ => ?_)
  · refine hI.netDisconnect.seq ?_
    intro _
    refine (hI.netDestroy _).seq ?_
    intro _
    exact
      (hI.setClientState _ hError).seq
        (fun _ => Triple.same)
  · exact
      (hI.setClientState _ hIdle).seq (fun _ => Triple.same)

end KeptStates

end Mqtt

end TrustOnboard

------------------------------------------------------------
-- Single Packets
------------------------------------------------------------

namespace TrustOnboard

namespace Mqtt

variable {E : Type}
variable {port : Port E}
variable {C : Contract (Sys E) Event}
variable {I : Run E → Prop}
variable {callback : Callback E}

/- The events of writing bytes under the given timer. -/
def Event.isOutputOf (timer : TimerName) : Event → Bool
  | .netWrite _ _ _ => true
  | .timerChecked timer' _ => timer' == timer
  | _ => false

theorem isOutput_of_isOutputOf
    {timer : TimerName}
    {e : Event}
    (hOutput : e.isOutputOf timer = true) :
    e.isOutput = true := by
  cases e <;> first | rfl | cases hOutput

/- A step of a send: only mutexes and the platform change. -/
def Sends
    (timer : TimerName)
    (s s' : Sys E)
    (es : List Event) : Prop :=
  (∃ locked,
    s'.client = { s.client with locked := locked }) ∧
    ∀ e ∈ es, e.isOutputOf timer = true

/- A step of a read: the receive buffer changes. -/
def Receives
    (s s' : Sys E)
    (es : List Event) : Prop :=
  (∃ readBuf,
    s'.client = { s.client with readBuf := readBuf }) ∧
    ∀ e ∈ es, Event.isReceive e = true

theorem sends_silent
    {timer : TimerName}
    {s s' : Sys E}
    (hClient :
      ∃ locked,
        s'.client = { s.client with locked := locked }) :
    Sends timer s s' [] :=
  ⟨hClient, fun _ h => by cases h⟩

theorem sends_event
    {timer : TimerName}
    {s s' : Sys E}
    {e : Event}
    (hClient : s'.client = s.client)
    (hOutput : e.isOutputOf timer = true) :
    Sends timer s s' [e] := by
  refine ⟨⟨s.client.locked, hClient⟩, ?_⟩
  intro e' he'
  rw [List.mem_singleton.mp he']
  exact hOutput

/- A send keeps the packet in the transmit buffer. -/
theorem Ready.sends
    {timer : TimerName}
    {s s' : Sys E}
    {es : List Event}
    {r : Client → Serialized}
    {n : Nat}
    (hReady : Ready r n s.client)
    (hSends : Sends timer s s' es) :
    Ready r n s'.client := by
  rcases hSends with ⟨⟨locked, hClient⟩, _⟩
  rcases hReady with ⟨c, hEnc, hOptions⟩
  refine ⟨c, ?_, ?_⟩
  · rw [hClient]
    exact hEnc
  · rw [hClient]
    exact hOptions

theorem lockMutex_sends
    (timer : TimerName)
    (m : Mutex) :
    (lockMutex port m).Uses (Sends timer) := by
  unfold lockMutex
  split
  · refine Prog.Uses.bind
      (Prog.Uses.step (fun _ => sends_silent ⟨_, rfl⟩)) ?_
    intro c
    split
    · refine Prog.Uses.bind (Prog.Uses.await ?_)
        (fun _ => Prog.Uses.pure _)
      exact fun _ => sends_silent ⟨_, rfl⟩
    · refine Prog.Uses.step ?_
      intro s
      dsimp only
      split
      · exact sends_silent ⟨_, rfl⟩
      · exact sends_silent ⟨_, rfl⟩
  · exact Prog.Uses.pure _

theorem unlockMutex_sends
    (timer : TimerName)
    (m : Mutex) :
    (unlockMutex port m).Uses (Sends timer) := by
  unfold unlockMutex
  split
  · refine Prog.Uses.bind (Prog.Uses.step ?_)
      (fun _ => Prog.Uses.pure _)
    exact fun _ => sends_silent ⟨_, rfl⟩
  · exact Prog.Uses.pure _

theorem sendRounds_sends
    (fuel length : Nat)
    (timer : TimerName) :
    (sendRounds port fuel length timer).Uses
      (Sends timer) := by
  refine Prog.Uses.loop ?_
  intro sent
  split
  · refine Prog.Uses.bind
      (Prog.Uses.step
        (fun _ => sends_event rfl (beq_self_eq_true timer)))
      ?_
    intro expired
    split
    · exact Prog.Uses.pure _
    · refine Prog.Uses.bind
        (Prog.Uses.step (fun _ => sends_event rfl rfl)) ?_
      intro r
      split
      · exact Prog.Uses.pure _
      · exact Prog.Uses.pure _
  · exact Prog.Uses.pure _

/-
  Sending a packet: what survives the steps of a send holds
  at its end, and the packet in the buffer is the one sent.
-/
theorem sendPacket_steps
    {Q : IoTError → Run E → Prop}
    {timer : TimerName}
    (hHalt : ∀ w, I w → C.halted w)
    (hStep :
      ∀ s s' es l, Sends timer s s' es → I ⟨s, l⟩ →
        I ⟨s', es ++ l⟩)
    {n : Nat}
    (hSent :
      ∀ w, I w →
        Q .success
          ⟨w.st,
            .txPacket (w.st.client.writeBuf.load 0 n) ::
              w.log⟩)
    (hFail : ∀ rc w, rc ≠ .success → I w → Q rc w)
    (fuel : Nat) :
    Triple C I (sendPacket port fuel n timer) Q := by
  refine Triple.seq (Triple.read (fun _ h => h)) ?_
  intro c
  refine Triple.ite ?_ ?_
  · intro _
    exact Triple.ret (fun w h => hFail _ w (by decide) h)
  intro _
  refine
    ((lockMutex_sends timer .tlsWrite).triple hHalt hStep).seq ?_
  intro rc
  refine Triple.ite ?_ ?_
  · intro hRc
    exact Triple.ret (fun w h => hFail rc w hRc h)
  intro _
  refine
    ((sendRounds_sends fuel n timer).triple hHalt hStep).seq ?_
  intro sent
  refine
    ((unlockMutex_sends timer .tlsWrite).triple hHalt hStep).seq ?_
  intro rc
  refine Triple.ite ?_ ?_
  · intro hRc
    exact Triple.ret (fun w h => hFail rc w hRc h)
  intro _
  refine Triple.ite ?_ ?_
  · intro _
    refine Triple.bind (M := fun _ => Q .success)
      (Triple.emit (fun w h => Or.inr (hSent w h))) ?_
    exact fun _ => Triple.ret (fun _ h => h)
  · intro _
    exact Triple.ret (fun w h => hFail _ w (by decide) h)

theorem receives_silent
    {s s' : Sys E}
    (hClient : s'.client = s.client) :
    Receives s s' [] :=
  ⟨⟨s.client.readBuf, hClient⟩, fun _ h => by cases h⟩

theorem netRead_receives
    (site : ReadSite)
    (target : Option Nat)
    (n : Nat) :
    (netRead port site target n).Uses Receives := by
  refine Prog.Uses.step ?_
  intro s
  cases target with
  | none =>
      refine ⟨⟨s.client.readBuf, rfl⟩, ?_⟩
      intro e he
      rw [List.mem_singleton.mp he]
      rfl
  | some off =>
      refine ⟨⟨_, rfl⟩, ?_⟩
      intro e he
      simp only [List.mem_cons, List.not_mem_nil,
        or_false] at he
      rcases he with rfl | rfl
      · rfl
      · rfl

/- Reading a packet is made of such steps. -/
theorem readPacket_receives
    (fuel : Nat) :
    (readPacket port fuel).Uses Receives := by
  have hDecode :
      (decodePacketRemainingLen port fuel).Uses
        Receives := by
    refine Prog.Uses.loop ?_
    intro v
    dsimp only
    split
    · exact Prog.Uses.pure _
    · refine Prog.Uses.bind (netRead_receives _ _ _) ?_
      intro r
      cases r with
      | success bs h =>
          dsimp only
          split
          · exact Prog.Uses.pure _
          · exact Prog.Uses.pure _
      | nothingToRead h => exact Prog.Uses.pure _
      | readTimeout bs hPos h => exact Prog.Uses.pure _
      | readError bs h => exact Prog.Uses.pure _
  have hDrain :
      ∀ remLen size,
        (drainPacket port fuel remLen size).Uses
          Receives := by
    intro remLen size
    refine Prog.Uses.loop ?_
    intro v
    refine Prog.Uses.bind (netRead_receives _ _ _) ?_
    intro r
    cases r with
    | success bs h =>
        dsimp only
        split
        · exact Prog.Uses.pure _
        · exact Prog.Uses.pure _
    | nothingToRead h => exact Prog.Uses.pure _
    | readTimeout bs hPos h => exact Prog.Uses.pure _
    | readError bs h => exact Prog.Uses.pure _
  have hBody :
      ∀ len remLen,
        (readBody port len remLen).Uses Receives := by
    intro len remLen
    unfold readBody
    split
    · refine Prog.Uses.bind (netRead_receives _ _ _) ?_
      intro r
      cases r with
      | success bs h => exact Prog.Uses.pure _
      | nothingToRead h => exact Prog.Uses.pure _
      | readTimeout bs hPos h => exact Prog.Uses.pure _
      | readError bs h => exact Prog.Uses.pure _
    · exact Prog.Uses.pure _
  have hRead :
      (getClient : Code E Client).Uses Receives :=
    Prog.Uses.step (fun _ => receives_silent rfl)
  have hContents :
      ∀ remLen,
        (readContents port remLen).Uses Receives := by
    intro remLen
    refine Prog.Uses.bind (Prog.Uses.step ?_) ?_
    · intro s
      refine ⟨⟨_, rfl⟩, ?_⟩
      intro e he
      rw [List.mem_singleton.mp he]
      rfl
    intro _
    refine Prog.Uses.bind (hBody _ _) ?_
    intro complete
    split
    · refine Prog.Uses.bind hRead ?_
      intro c
      refine Prog.Uses.bind (Prog.Uses.step ?_)
        (fun _ => Prog.Uses.pure _)
      intro s
      refine ⟨⟨s.client.readBuf, rfl⟩, ?_⟩
      intro e he
      rw [List.mem_singleton.mp he]
      rfl
    · exact Prog.Uses.pure _
  refine Prog.Uses.bind hRead ?_
  intro c
  refine Prog.Uses.bind
    (Prog.Uses.step (fun _ => receives_silent rfl)) ?_
  intro _
  refine Prog.Uses.bind (netRead_receives _ _ _) ?_
  intro r
  cases r with
  | nothingToRead h => exact Prog.Uses.pure _
  | readTimeout bs hPos h => exact Prog.Uses.pure _
  | readError bs h => exact Prog.Uses.pure _
  | success bs h =>
      refine Prog.Uses.bind hDecode ?_
      intro decoded
      cases decoded with
      | error rc => exact Prog.Uses.pure _
      | ok remLen =>
          refine Prog.Uses.bind hRead ?_
          intro c
          split
          · exact
              Prog.Uses.bind (hDrain _ _)
                (fun _ => Prog.Uses.pure _)
          · exact hContents _

namespace KeptApart

/- One slot's turn in the delivery loop. -/
theorem deliverToSlot
    (hI : KeptApart C I)
    (hCb :
      ∀ handler data msg,
        Keeps C I (callback handler data msg))
    (msg : Message)
    (itr : Nat) :
    Keeps C I (Mqtt.deliverToSlot callback msg itr) := by
  refine (KeptApart.read _).seq ?_
  intro c
  dsimp only
  cases c.messageHandlers[itr]? with
  | none => exact Triple.same
  | some slot =>
      refine Triple.ite (fun _ => ?_) (fun _ => Triple.same)
      cases slot.pApplicationHandler with
      | none => exact Triple.same
      | some handler =>
          exact
            (hI.emit (fun _ => rfl)).seq
              (fun _ => hCb _ _ _)

end KeptApart

namespace KeptStates

variable {φ : ClientState → Prop}

/- The delivery of a message, given the callbacks. -/
theorem deliverMessage
    (hI : KeptStates C φ I)
    (hWaiting : φ .connectedWaitForCbReturn)
    (hCb :
      ∀ handler data msg,
        Keeps C I (callback handler data msg))
    (msg : Message) :
    Keeps C I (Mqtt.deliverMessage port callback msg) := by
  refine hI.getClientState.bind ?_
  intro clientState
  refine Triple.of_fact ?_
  intro hState
  refine (hI.setClientState _ hWaiting).seq ?_
  intro _
  refine (KeptApart.read _).seq ?_
  intro c
  refine Triple.seq (Triple.each ?_)
    (fun _ => hI.setClientState _ hState)
  intro itr _
  exact hI.deliverToSlot hCb msg itr

end KeptStates

namespace KeptApart

/-
  The dispatch of a packet, given the delivery of messages,
  the PUBACK and the handling of a PINGRESP.
-/
theorem dispatchPacket
    (hI : KeptApart C I)
    (hDeliver :
      ∀ msg, Keeps C I (deliverMessage port callback msg))
    {fuel : Nat}
    {timer : TimerName}
    (hAck :
      ∀ id, Keeps C I
        (sendSerialized port fuel timer (fun c =>
          serializeAck c.writeBufSize .puback 0 id)))
    (type : UInt8)
    (hPong :
      MessageType.ofNibble type = some .pingresp →
        Keeps C I (handlePingresp port)) :
    Keeps C I
      (Mqtt.dispatchPacket port fuel callback timer
        type) := by
  have hPublish :
      Keeps C I
        (handlePublish port fuel callback timer) := by
    refine (KeptApart.read _).seq ?_
    intro c
    cases deserializePublish c.readBuf c.readBufSize with
    | error rc => exact Triple.same
    | ok msg =>
        refine (hI.modifyMessages _).seq ?_
        intro _
        refine (hDeliver msg).seq ?_
        intro rc
        refine (KeptApart.read _).seq ?_
        intro c'
        refine (hI.modifyMessages _).seq ?_
        intro _
        refine
          Triple.ite (fun _ => Triple.same) (fun _ => ?_)
        cases (c'.sees msg).params.ackId with
        | none => exact Triple.same
        | some id => exact hAck id
  unfold Mqtt.dispatchPacket
  split
  case h_5 => exact hPublish
  case h_8 hType => exact hPong hType
  all_goals exact Triple.same

/-
  One cycle of the receive path, given the steps of a read
  and the dispatch.
-/
theorem cycleRead
    (hI : KeptApart C I)
    (hReceive :
      ∀ s s' es l, Receives s s' es → I ⟨s, l⟩ →
        I ⟨s', es ++ l⟩)
    {fuel : Nat}
    {timer : TimerName}
    (hDispatch :
      ∀ type, Keeps C I
        (Mqtt.dispatchPacket port fuel callback timer type)) :
    Keeps C I
      (Mqtt.cycleRead port fuel callback timer) := by
  refine (hI.lockMutex .tlsRead).seq ?_
  intro threadRc
  refine Triple.ite (fun _ => Triple.same) (fun _ => ?_)
  refine
    ((readPacket_receives fuel).triple hI.halt
      hReceive).seq ?_
  rintro ⟨rc, packetType⟩
  refine (hI.unlockMutex .tlsRead).seq ?_
  intro threadRc
  refine Triple.ite (fun _ => Triple.same) (fun _ => ?_)
  refine Triple.ite (fun _ => Triple.same) (fun _ => ?_)
  refine Triple.ite (fun _ => Triple.same) (fun _ => ?_)
  cases packetType with
  | none => exact Triple.same
  | some type =>
      exact (hDispatch type).seq (fun _ => Triple.same)

/- The wait for an acknowledgement. -/
theorem waitForRead
    (hI : KeptApart C I)
    {timer : TimerName}
    (hTimer : timer ≠ .reconnectDelay)
    (hCycle :
      ∀ fuel,
        Keeps C I (Mqtt.cycleRead port fuel callback timer))
    (fuel : Nat)
    (awaited : MessageType) :
    Keeps C I
      (Mqtt.waitForRead port fuel callback awaited timer) := by
  refine Triple.loop (fun _ => I) (fun _ => hI.halt) ?_
  intro seen
  refine (hI.hasTimerExpired hTimer).seq ?_
  intro expired
  refine Triple.ite (fun _ => Triple.same) (fun _ => ?_)
  refine (hCycle fuel).seq ?_
  rintro ⟨rc, packetType⟩
  dsimp only
  refine Triple.ite (fun _ => Triple.same) (fun _ => ?_)
  exact
    Triple.ite (fun _ => Triple.same) (fun _ => Triple.same)

end KeptApart

end Mqtt

end TrustOnboard

------------------------------------------------------------
-- Requests
------------------------------------------------------------

namespace TrustOnboard

namespace Mqtt

namespace SendsRequests

variable {E : Type}
variable {port : Port E}
variable {C : Contract (Sys E) Event}
variable {I : Run E → Prop}
variable {callback : Callback E}

/- Encode a request and send it. -/
theorem sendSerialized
    (hI : SendsRequests port C I)
    {r : Client → Serialized}
    (hRequest : Request r)
    (fuel : Nat) :
    Keeps C I
      (Mqtt.sendSerialized port fuel .command r) := by
  refine (hI.serialize_ready r).bind ?_
  intro encoded
  cases encoded with
  | error rc => exact Triple.pure (fun _ h => h.2)
  | ok n => exact hI.send r hRequest fuel n

/- A wait and what follows it when it succeeded. -/
theorem waitThen
    (hI : SendsRequests port C I)
    (hCycle :
      ∀ fuel,
        Keeps C I (cycleRead port fuel callback .command))
    {rest : Client → Code E IoTError}
    (hRest : ∀ c, Keeps C I (rest c))
    (fuel : Nat)
    (awaited : MessageType) :
    Keeps C I
      (do
        let rc ←
          Mqtt.waitForRead port fuel callback awaited .command
        if rc ≠ .success then
          pure rc
        else do
          let c ← getClient
          rest c) := by
  refine
    (hI.waitForRead (by decide) hCycle fuel awaited).seq ?_
  intro rc
  refine Triple.ite (fun _ => Triple.same) (fun _ => ?_)
  exact (KeptApart.read _).seq hRest

/- A request, its wait and what follows it. -/
theorem request
    (hI : SendsRequests port C I)
    (hCycle :
      ∀ fuel,
        Keeps C I (cycleRead port fuel callback .command))
    {r : Client → Serialized}
    (hRequest : Request r)
    {rest : Client → Code E IoTError}
    (hRest : ∀ c, Keeps C I (rest c))
    (fuel : Nat)
    (awaited : MessageType) :
    Keeps C I
      (do
        let rc ← Mqtt.sendSerialized port fuel .command r
        if rc ≠ .success then
          pure rc
        else do
          let rc ←
            Mqtt.waitForRead port fuel callback awaited
              .command
          if rc ≠ .success then
            pure rc
          else do
            let c ← getClient
            rest c) := by
  refine (hI.sendSerialized hRequest fuel).seq ?_
  intro rc
  refine Triple.ite (fun _ => Triple.same) (fun _ => ?_)
  exact hI.waitThen hCycle hRest fuel awaited

theorem internalPublish
    (hI : SendsRequests port C I)
    (hCycle :
      ∀ fuel,
        Keeps C I (cycleRead port fuel callback .command))
    (fuel : Nat)
    (topic : Option CString)
    (topicLen : UInt16)
    (params : PublishParams) :
    Keeps C I
      (Mqtt.internalPublish port fuel callback topic topicLen
        params) := by
  refine hI.startCommandTimer.seq ?_
  intro _
  have hSend :=
    fun id =>
      hI.sendSerialized
        (Request.publish params.qos params.isRetained id
          topic topicLen params.payload) fuel
  refine Triple.ite ?_ ?_
  · intro hQos
    refine (hI.assignPacketId params).seq ?_
    intro id
    refine (hSend id).seq ?_
    intro rc
    refine Triple.ite (fun _ => Triple.same) (fun _ => ?_)
    rw [if_pos hQos]
    refine hI.waitThen hCycle ?_ fuel .puback
    intro c
    cases deserializeAck c.readBuf c.readBufSize with
    | error rc => exact Triple.same
    | ok _ => exact Triple.same
  · intro hQos
    refine (hSend params.id).seq ?_
    intro rc
    refine Triple.ite (fun _ => Triple.same) (fun _ => ?_)
    rw [if_neg hQos]
    exact Triple.same

theorem subscribeExchange
    (hI : SendsRequests port C I)
    (hCycle :
      ∀ fuel,
        Keeps C I (cycleRead port fuel callback .command))
    (fuel : Nat)
    (packetId : UInt16)
    (topic : Option CString)
    (topicLen : UInt16)
    (qos : QoS) :
    Keeps C I
      (Mqtt.subscribeExchange port fuel callback packetId
        topic topicLen qos) := by
  refine
    hI.request hCycle (Request.subscribe _ _ _ _) ?_ fuel
      .suback
  intro c
  cases deserializeSuback c.readBuf 1 c.readBufSize with
  | error rc => exact Triple.same
  | ok _ => exact Triple.same

theorem registerHandler
    (hI : SendsRequests port C I)
    (index : Nat)
    (entry : MessageHandlers) :
    Keeps C I
      (Mqtt.registerHandler index entry : Code E Unit) := by
  refine hI.step ?_
  intro s
  refine ⟨rfl, ?_⟩
  intro e he
  rcases List.mem_map.mp he with ⟨previous, _, rfl⟩
  rfl

theorem internalSubscribe
    (hI : SendsRequests port C I)
    (hCycle :
      ∀ fuel,
        Keeps C I (cycleRead port fuel callback .command))
    (fuel : Nat)
    (topic : Option CString)
    (topicLen : UInt16)
    (qos : QoS)
    (handler : Option HandlerId)
    (data : Nat) :
    Keeps C I
      (Mqtt.internalSubscribe port fuel callback topic
        topicLen qos handler data) := by
  refine hI.startCommandTimer.seq ?_
  intro _
  refine hI.getNextPacketId.seq ?_
  intro txPacketId
  refine (hI.serialize_ready _).bind ?_
  intro encoded
  cases encoded with
  | error rc => exact Triple.pure (fun _ h => h.2)
  | ok n =>
      refine Triple.seq
        (Triple.read (fun _ h => h)) ?_
      intro c
      refine Triple.ite
        (fun _ => Triple.ret (fun _ h => h.2)) (fun _ => ?_)
      refine Triple.bind
        (hI.send _
          (Request.subscribe txPacketId topic topicLen qos)
          fuel n) ?_
      intro rc
      refine Triple.ite (fun _ => Triple.same) (fun _ => ?_)
      refine hI.waitThen hCycle ?_ fuel .suback
      intro c'
      cases deserializeSuback c'.readBuf 1 c'.readBufSize with
      | error rc => exact Triple.same
      | ok _ =>
          exact
            (hI.registerHandler _ _).seq
              (fun _ => Triple.same)

theorem resubscribeSlots
    (hI : SendsRequests port C I)
    (hCycle :
      ∀ fuel,
        Keeps C I (cycleRead port fuel callback .command))
    (fuel : Nat)
    (slots : List Nat) :
    Keeps C I
      (Mqtt.resubscribeSlots port fuel callback slots) := by
  induction slots with
  | nil => exact Triple.same
  | cons itr rest ih =>
      refine hI.startCommandTimer.seq ?_
      intro _
      refine hI.getNextPacketId.seq ?_
      intro packetId
      refine (KeptApart.read _).seq ?_
      intro c
      cases c.messageHandlers[itr]? with
      | none => exact Triple.stop hI.halt
      | some slot =>
          refine
            (hI.subscribeExchange hCycle fuel packetId _ _
              _).seq ?_
          intro rc
          exact
            Triple.ite (fun _ => Triple.same) (fun _ => ih)

theorem internalUnsubscribe
    (hI : SendsRequests port C I)
    (hCycle :
      ∀ fuel,
        Keeps C I (cycleRead port fuel callback .command))
    (fuel : Nat)
    (filter : Option CString)
    (filterLen : UInt16) :
    Keeps C I
      (Mqtt.internalUnsubscribe port fuel callback filter
        filterLen) := by
  refine (KeptApart.read _).seq ?_
  intro c
  refine Triple.ite (fun _ => Triple.same) (fun _ => ?_)
  refine Triple.seq ?_ ?_
  · refine hI.startCommandTimer.seq ?_
    intro _
    refine hI.getNextPacketId.seq ?_
    intro packetId
    refine
      hI.request hCycle (Request.unsubscribe _ _ _) ?_ fuel
        .unsuback
    intro c
    cases deserializeUnsuback c.readBuf c.readBufSize with
    | error rc => exact Triple.same
    | ok _ => exact Triple.same
  · intro rc
    refine Triple.ite (fun _ => Triple.same) (fun _ => ?_)
    refine Triple.seq ?_ (fun _ => Triple.same)
    exact hI.modifyClient (fun _ => rfl)

/-
  The exchange of CONNECT and CONNACK, given what clearing
  the flag for an outstanding ping does.
-/
theorem connectExchange
    (hI : SendsRequests port C I)
    (hCycle :
      ∀ fuel,
        Keeps C I (cycleRead port fuel callback .command))
    (hClear :
      Keeps C I
        (Mqtt.modifyClient (fun c =>
          { c with isPingOutstanding := false }) :
          Code E Unit))
    (fuel : Nat) :
    Keeps C I (Mqtt.connectExchange port fuel callback) := by
  refine hI.startCommandTimer.seq ?_
  intro _
  refine Triple.seq (hI.modifyClient (fun _ => rfl)) ?_
  intro _
  refine hI.request hCycle Request.connect ?_ fuel .connack
  intro c
  cases deserializeConnack c.readBuf c.readBufSize with
  | error rc => exact Triple.same
  | ok connackRc =>
      refine Triple.ite (fun _ => Triple.same) (fun _ => ?_)
      refine hClear.seq ?_
      intro _
      refine (KeptApart.read _).seq ?_
      intro c
      exact
        (hI.countdown _ _).seq (fun _ => Triple.same)

/- The command timer is started behind the encoder. -/
theorem startTimer_ready
    (hI : SendsRequests port C I)
    (r : Client → Serialized)
    (n : Nat) :
    Keeps C (fun w => Ready r n w.st.client ∧ I w)
      (Mqtt.startCommandTimer port) := by
  refine Triple.seq (Triple.read (fun _ h => h)) ?_
  intro c
  refine Triple.modify ?_
  intro w hPre
  let s' : Sys E :=
    { w.st with
      env :=
        port.countdown .command c.commandTimeoutMs.toNat
          w.st.env }
  have hApart : Apart w.st s' [] := apart_silent rfl
  exact ⟨hPre.1, hI.apart w.st s' [] w.log hApart hPre.2⟩

/- The DISCONNECT and the end of the connection. -/
theorem internalDisconnect
    (hI : SendsRequests port C I)
    (fuel : Nat) :
    Keeps C I (Mqtt.internalDisconnect port fuel) := by
  have hTail :
      ∀ rc, Keeps C I
        (if rc ≠ .success then pure rc
        else do
          Mqtt.netDisconnect port
          let rc ← Mqtt.netDestroy port .disconnect
          if rc ≠ .success then
            pure .failure
          else
            pure .success : Code E IoTError) := by
    intro rc
    refine Triple.ite (fun _ => Triple.same) (fun _ => ?_)
    refine hI.netDisconnect.seq ?_
    intro _
    refine (hI.netDestroy _).seq ?_
    intro rc
    exact
      Triple.ite (fun _ => Triple.same)
        (fun _ => Triple.same)
  refine (hI.serialize_ready _).bind ?_
  intro encoded
  cases encoded with
  | error rc => exact Triple.pure (fun _ h => h.2)
  | ok n =>
      refine (hI.startTimer_ready _ n).bind ?_
      intro _
      refine Triple.ite (fun _ => ?_) (fun _ => ?_)
      · exact
          (hI.send _ Request.disconnect fuel n).bind hTail
      · exact (hTail .success).pre (fun _ h => h.2)

end SendsRequests

end Mqtt

end TrustOnboard

------------------------------------------------------------
-- Calls That Keep The Client Connected
------------------------------------------------------------

namespace TrustOnboard

namespace Mqtt

namespace Requests

variable {E : Type}
variable {port : Port E}
variable {C : Contract (Sys E) Event}
variable {φ : ClientState → Prop}
variable {I : Run E → Prop}
variable {callback : Callback E}

theorem withClientState
    (hI : Requests port C φ I)
    {operation : Code E IoTError}
    (hOp : Keeps C I operation)
    {clientState : ClientState}
    (hState : φ clientState)
    (during : ClientState) :
    Keeps C I
      (Mqtt.withClientState port clientState during
        operation) := by
  refine hOp.seq ?_
  intro opRc
  refine (hI.setClientState _ hState).seq ?_
  intro rc
  exact
    Triple.ite (fun _ => Triple.same) (fun _ => Triple.same)

theorem enterOperation
    (hI : Requests port C φ I)
    {refused : ClientState → IoTError → Code E IoTError}
    (hRefused : ∀ s rc, φ s → Keeps C I (refused s rc))
    {operation : Code E IoTError}
    (hOp : Keeps C I operation)
    {during : ClientState}
    (hDuring : φ during) :
    Keeps C I
      (Mqtt.enterOperation port during refused
        operation) := by
  refine (KeptApart.read _).seq ?_
  intro seen
  refine Triple.ite (fun _ => Triple.same) (fun _ => ?_)
  refine hI.getClientState.bind ?_
  intro clientState
  refine Triple.of_fact ?_
  intro hState
  refine Triple.ite (fun _ => Triple.same) (fun _ => ?_)
  refine (hI.setClientState _ hDuring).seq ?_
  intro rc
  exact
    Triple.ite (fun _ => hRefused _ _ hState)
      (fun _ => hI.withClientState hOp hState _)

theorem publish
    (hI : Requests port C φ I)
    (hDuring : φ .connectedPublishInProgress)
    (hCycle :
      ∀ fuel,
        Keeps C I (cycleRead port fuel callback .command))
    (fuel : Nat)
    (topic : Option CString)
    (topicLen : UInt16)
    (params : Option PublishParams) :
    Keeps C I
      (Mqtt.publish port fuel callback topic topicLen
        params) := by
  cases params with
  | none => exact Triple.same
  | some params =>
      refine Triple.ite (fun _ => Triple.same) (fun _ => ?_)
      exact
        hI.enterOperation (fun _ _ _ => Triple.same)
          (hI.internalPublish hCycle fuel _ _ _) hDuring

theorem subscribe
    (hI : Requests port C φ I)
    (hDuring : φ .connectedSubscribeInProgress)
    (hCycle :
      ∀ fuel,
        Keeps C I (cycleRead port fuel callback .command))
    (fuel : Nat)
    (topic : Option CString)
    (topicLen : UInt16)
    (qos : QoS)
    (handler : Option HandlerId)
    (data : Nat) :
    Keeps C I
      (Mqtt.subscribe port fuel callback topic topicLen qos
        handler data) := by
  refine Triple.ite (fun _ => Triple.same) (fun _ => ?_)
  exact
    hI.enterOperation (fun _ _ _ => Triple.same)
      (hI.internalSubscribe hCycle fuel _ _ _ _ _) hDuring

theorem unsubscribe
    (hI : Requests port C φ I)
    (hDuring : φ .connectedUnsubscribeInProgress)
    (hCycle :
      ∀ fuel,
        Keeps C I (cycleRead port fuel callback .command))
    (fuel : Nat)
    (filter : Option CString)
    (filterLen : UInt16) :
    Keeps C I
      (Mqtt.unsubscribe port fuel callback filter
        filterLen) := by
  refine Triple.ite (fun _ => Triple.same) (fun _ => ?_)
  refine
    hI.enterOperation ?_
      (hI.internalUnsubscribe hCycle fuel _ _) hDuring
  intro s rc hState
  exact
    (hI.emit (fun _ => rfl)).seq
      (fun _ => hI.setClientState _ hState)

theorem resubscribe
    (hI : Requests port C φ I)
    (hDuring : φ .connectedResubscribeInProgress)
    (hCycle :
      ∀ fuel,
        Keeps C I (cycleRead port fuel callback .command))
    (fuel : Nat) :
    Keeps C I (Mqtt.resubscribe port fuel callback) := by
  refine (KeptApart.read _).seq ?_
  intro seen
  refine Triple.ite (fun _ => Triple.same) (fun _ => ?_)
  refine hI.getClientState.bind ?_
  intro clientState
  refine Triple.of_fact ?_
  intro hState
  refine Triple.ite (fun _ => Triple.same) ?_
  intro hIdle
  rw [Classical.not_not.mp hIdle] at hState
  refine (hI.setClientState _ hDuring).seq ?_
  intro rc
  refine Triple.ite (fun _ => Triple.same) (fun _ => ?_)
  refine hI.withClientState ?_ hState _
  exact
    (KeptApart.read _).seq
      (fun _ => hI.resubscribeSlots hCycle fuel _)

end Requests

end Mqtt

end TrustOnboard
