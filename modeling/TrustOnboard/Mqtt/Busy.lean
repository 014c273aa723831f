import TrustOnboard.Mqtt.Steady

/-
  Calls made while another call is under way.

  A client is busy from the moment a call moves its state to
  one of its own until the call puts it back.  A callback
  that makes calls then finds the client busy, and as long
  as it does not disconnect, none of these calls opens a
  connection, yields or leaves the busy states.  An
  invariant that does not look at the client state is
  therefore kept by such calls when it is kept by requests
  alone.

  Key definitions include:
    * `ClientState.isBusy`
    * `Within`
    * `Blind`
    * `KeepsConnection`

  Key results include:
    * `Blind.within`
    * `Blind.api_busy`
    * `Blind.cycleRead`
-/

------------------------------------------------------------
-- Busy States
------------------------------------------------------------

namespace TrustOnboard

namespace Mqtt

variable {E : Type}

/- The states of a client in the middle of a call. -/
def ClientState.isBusy : ClientState → Bool
  | .connecting => true
  | .connectedYieldInProgress => true
  | .connectedPublishInProgress => true
  | .connectedSubscribeInProgress => true
  | .connectedUnsubscribeInProgress => true
  | .connectedResubscribeInProgress => true
  | .connectedWaitForCbReturn => true
  | _ => false

/- The client is in one of the states and `N` holds. -/
def Within
    (φ : ClientState → Prop)
    (N : Run E → Prop)
    (w : Run E) : Prop :=
  φ w.st.client.clientState ∧ N w

/- The client is busy and `N` holds. -/
abbrev WithinBusy (N : Run E → Prop) : Run E → Prop :=
  Within (fun s => s.isBusy = true) N

/- No message callback disconnects the client. -/
def KeepsConnection (port : Port E) : Prop :=
  ∀ handler data msg e,
    ∀ c ∈ (port.onMessage handler data msg e).1,
      c ≠ .disconnect

/-
  An invariant of requests that looks neither at the client
  state nor at the flag for an outstanding ping.
-/
structure Blind
    (port : Port E)
    (C : Contract (Sys E) Event)
    (N : Run E → Prop) : Prop
    extends Requests port C (fun _ => True) N where
  flag :
    ∀ s l outstanding, N ⟨s, l⟩ →
      N ⟨s.withPing outstanding, l⟩
  receive :
    ∀ s s' es l, Receives s s' es → N ⟨s, l⟩ →
      N ⟨s', es ++ l⟩
  ack :
    ∀ fuel timer id, timer ≠ .reconnectDelay →
      Keeps C N
        (sendSerialized port fuel timer (fun c =>
          serializeAck c.writeBufSize .puback 0 id))
  call :
    ∀ s l waiting c, N ⟨s, l⟩ →
      N ⟨s, .call waiting c :: l⟩

end Mqtt

end TrustOnboard

------------------------------------------------------------
-- The Receive Path
------------------------------------------------------------

namespace TrustOnboard

namespace Mqtt

variable {E : Type}
variable {port : Port E}
variable {C : Contract (Sys E) Event}
variable {N : Run E → Prop}
variable {φ : ClientState → Prop}
variable {callback : Callback E}

/- Sending a packet does not touch the client state. -/
theorem sendPacket_inState
    (fuel n : Nat)
    (timer : TimerName) :
    Keeps (Contract.plain (Sys E) Event)
      (fun w => φ w.st.client.clientState)
      (sendPacket port fuel n timer) := by
  refine
    sendPacket_steps
      (Q := fun _ w => φ w.st.client.clientState)
      (fun _ _ => trivial) ?_
      (fun _ h => h) (fun _ _ _ h => h) fuel
  rintro s s' es l ⟨⟨locked, hClient⟩, _⟩ hState
  change φ s'.client.clientState
  rw [hClient]
  exact hState

namespace Blind

/- The allowed states are kept beside the invariant. -/
theorem within
    (hN : Blind port C N) :
    Requests port C φ (Within φ N) where
  halt := fun w hw => hN.halt w hw.2
  apart := by
    intro s s' es l hApart hw
    have hSame :=
      congrArg Settings.clientState hApart.settings
    refine ⟨?_, hN.apart s s' es l hApart hw.2⟩
    change φ s'.client.settings.clientState
    rw [hSame]
    exact hw.1
  inside := fun _ hw => hw.1
  state := fun s l new hNew hw =>
    ⟨hNew, hN.state s l new trivial hw.2⟩
  refused := fun s l expected new hw =>
    (hN.refused s l expected new hw.2).imp_right
      (fun hHere => ⟨hw.1, hHere⟩)
  send := by
    intro r hRequest fuel n
    have hBoth :=
      (hN.send r hRequest fuel n).and_plain
        (sendPacket_inState (φ := φ) fuel n .command)
    exact
      hBoth.conseq
        (fun _ h => ⟨⟨h.1, h.2.2⟩, h.2.1⟩)
        (fun _ _ h => ⟨h.2, h.1⟩)

theorem sendPuback
    (hN : Blind port C N)
    (fuel : Nat)
    {timer : TimerName}
    (hTimer : timer ≠ .reconnectDelay)
    (id : UInt16) :
    Keeps C (Within φ N)
      (sendSerialized port fuel timer (fun c =>
        serializeAck c.writeBufSize .puback 0 id)) := by
  have hState :
      Keeps (Contract.plain (Sys E) Event)
        (Within φ (fun _ => True))
        (sendSerialized port fuel timer (fun c =>
          serializeAck c.writeBufSize .puback 0 id)) := by
    have hKept :
        KeptApart (Contract.plain (Sys E) Event)
          (Within φ (fun _ : Run E => True)) := by
      refine ⟨fun _ _ => trivial, ?_⟩
      intro s s' es l hApart hw
      have hSame :=
        congrArg Settings.clientState hApart.settings
      refine ⟨?_, trivial⟩
      change φ s'.client.settings.clientState
      rw [hSame]
      exact hw.1
    refine (hKept.serialize_ready _).bind ?_
    intro encoded
    cases encoded with
    | error rc => exact Triple.pure (fun _ h => h.2)
    | ok n =>
        exact
          (sendPacket_inState fuel n timer).conseq
            (fun _ h => h.2.1) (fun _ _ h => ⟨h, trivial⟩)
  exact
    ((hN.ack fuel timer id hTimer).and_plain hState).conseq
      (fun _ h => ⟨h.2, h.1, trivial⟩)
      (fun _ _ h => ⟨h.2.1, h.1⟩)

theorem handlePingresp
    (hN : Blind port C N) :
    Keeps C (Within φ N) (Mqtt.handlePingresp port) := by
  refine Triple.seq (Triple.modify ?_) ?_
  · exact fun w hw => ⟨hw.1, hN.flag w.st w.log false hw.2⟩
  intro _
  refine (KeptApart.read _).seq ?_
  intro c
  exact
    (hN.within.countdown _ _).seq (fun _ => Triple.same)

/-
  A message is delivered in the state for callbacks, which
  is a busy one; afterwards the client is in the state it
  was in or still busy.
-/
theorem deliverMessage
    (hN : Blind port C N)
    (hSingle : port.threadSupport = false)
    (hBusy : ∀ s, s.isBusy = true → φ s)
    (hCb :
      ∀ handler data msg,
        Keeps C (WithinBusy N) (callback handler data msg))
    (msg : Message) :
    Keeps C (Within φ N)
      (Mqtt.deliverMessage port callback msg) := by
  refine Triple.bind
    (M := fun s w =>
      φ s ∧ s = w.st.client.clientState ∧ N w)
    (Triple.read (fun _ hw => ⟨hw.1, rfl, hw.2⟩)) ?_
  intro clientState
  refine Triple.of_fact ?_
  intro hState
  refine Triple.bind (M := fun _ => WithinBusy N) ?_ ?_
  · rw [setClientState_single hSingle]
    refine Triple.step ?_
    rintro w ⟨rfl, hHere⟩
    right
    rw [if_pos rfl]
    refine ⟨rfl, ?_⟩
    exact
      hN.apart _ _ [_] w.log (apart_event rfl rfl)
        (hN.state w.st w.log _ trivial hHere)
  intro _
  refine (KeptApart.read _).seq ?_
  intro c
  refine Triple.bind
    (M := fun _ => WithinBusy N) (Triple.each ?_) ?_
  · intro itr _
    exact
      (hN.within
        (φ := fun s => s.isBusy = true)).deliverToSlot hCb
          msg itr
  · intro _
    exact
      (hN.within.setClientState _ hState).pre
        (fun w hw => ⟨hBusy _ hw.1, hw.2⟩)

/- One cycle of the receive path. -/
theorem cycle
    (hN : Blind port C N)
    (hSingle : port.threadSupport = false)
    (hBusy : ∀ s, s.isBusy = true → φ s)
    (hCb :
      ∀ handler data msg,
        Keeps C (WithinBusy N) (callback handler data msg))
    {timer : TimerName}
    (hTimer : timer ≠ .reconnectDelay)
    (fuel : Nat) :
    Keeps C (Within φ N)
      (Mqtt.cycleRead port fuel callback timer) := by
  refine hN.within.cycleRead ?_ ?_
  · rintro s s' es l hReceives hw
    refine ⟨?_, hN.receive s s' es l hReceives hw.2⟩
    rcases hReceives.1 with ⟨readBuf, hClient⟩
    change φ s'.client.clientState
    rw [hClient]
    exact hw.1
  · intro type
    exact
      hN.within.dispatchPacket
        (hN.deliverMessage hSingle hBusy hCb)
        (hN.sendPuback fuel hTimer) type
        (fun _ => hN.handlePingresp)

end Blind

end Mqtt

end TrustOnboard

------------------------------------------------------------
-- Calls On A Busy Client
------------------------------------------------------------

namespace TrustOnboard

namespace Mqtt

variable {E : Type}
variable {port : Port E}
variable {C : Contract (Sys E) Event}
variable {N : Run E → Prop}
variable {φ : ClientState → Prop}
variable {callback : Callback E}

/- No connection is opened on a busy client. -/
theorem isBusy_not_valid
    {s : ClientState}
    (hBusy : s.isBusy = true) :
    isClientStateValidForConnect s = false := by
  cases s <;> first | rfl | cases hBusy

namespace Blind

/- The state of a busy client. -/
theorem getBusyState :
    Triple C (WithinBusy N)
      (getClientState : Code E ClientState)
      (fun s w => s.isBusy = true ∧ WithinBusy N w) :=
  Triple.read (fun _ hw => ⟨hw.1, hw⟩)

theorem connect_busy
    (fuel : Nat)
    (params : Option ConnectParams) :
    Keeps C (WithinBusy N)
      (connect port fuel callback params) := by
  refine getBusyState.bind ?_
  intro clientState
  refine Triple.of_fact ?_
  intro hBusy
  rw [if_pos (by simp [isBusy_not_valid hBusy])]
  exact Triple.same

/- An attempt to reconnect gives up where connect does. -/
theorem attemptReconnect_busy
    (hN : Blind port C N)
    (hSingle : port.threadSupport = false)
    (fuel : Nat) :
    Keeps C (WithinBusy N)
      (attemptReconnect port fuel callback) := by
  refine (KeptApart.read _).seq ?_
  intro seen
  refine Triple.ite (fun _ => Triple.same) (fun _ => ?_)
  refine (connect_busy fuel none).seq ?_
  intro _
  refine getBusyState.bind ?_
  intro clientState
  refine Triple.of_fact ?_
  intro hBusy
  refine Triple.ite (fun _ => ?_) ?_
  · refine (hN.within.emit (fun _ => rfl)).seq ?_
    intro _
    refine Triple.seq ?_ (fun _ => Triple.same)
    rw [setClientState_single hSingle]
    refine Triple.step ?_
    intro w hw
    right
    have hNot :
        ClientState.disconnectedError ≠
          w.st.client.clientState := by
      intro hEq
      have hHere := hw.1
      rw [← hEq] at hHere
      cases hHere
    rw [if_neg hNot]
    exact
      hN.within.apart w.st w.st [_] w.log
        (apart_event rfl rfl) hw
  · intro hIdle
    rw [Classical.not_not.mp hIdle] at hBusy
    cases hBusy

/- A busy client does not yield. -/
theorem yield_busy
    (fuel : Nat)
    (waitCallback yieldCallback : Callback E)
    (onLost : HandlerId → Nat → Code E Unit)
    (timeoutMs : UInt32) :
    Keeps C (WithinBusy N)
      (yield port fuel waitCallback yieldCallback onLost
        timeoutMs) := by
  refine Triple.ite (fun _ => Triple.same) (fun _ => ?_)
  refine getBusyState.bind ?_
  intro clientState
  refine Triple.of_fact ?_
  intro hBusy
  have hManually :
      clientState ≠ .disconnectedManually := by
    rintro rfl
    cases hBusy
  have hPending : clientState ≠ .pendingReconnect := by
    rintro rfl
    cases hBusy
  have hIdle : clientState ≠ .connectedIdle := by
    rintro rfl
    cases hBusy
  rw [if_neg hManually, if_neg hPending]
  refine (KeptApart.read _).seq ?_
  intro seen
  refine Triple.ite (fun _ => Triple.same) (fun _ => ?_)
  rw [if_pos hIdle]
  exact Triple.same

/- Callbacks make their calls on a busy client. -/
theorem runCallback_busy
    (hN : Blind port C N)
    (hCalls : KeepsConnection port)
    {call : ApiCall → Code E IoTError}
    (hCall :
      ∀ c, c ≠ .disconnect → Keeps C (WithinBusy N) (call c))
    (handler : HandlerId)
    (data : Nat)
    (msg : Message) :
    Keeps C (WithinBusy N)
      (runCallback port call handler data msg) := by
  refine Triple.bind
    (M := fun calls w =>
      (∀ c ∈ calls, c ≠ .disconnect) ∧ WithinBusy N w)
    (Triple.step ?_) ?_
  · intro w hw
    right
    refine ⟨hCalls _ _ _ _, ?_⟩
    exact
      hN.within.apart w.st _ [] w.log (apart_silent rfl) hw
  · intro calls
    refine Triple.of_fact ?_
    intro hAllowed
    refine Triple.each ?_
    intro c hMem
    exact
      (hN.within
        (φ := fun s => s.isBusy = true)).makeCall
          (hCall c (hAllowed c hMem))

/- One call on a busy client, given those one level deeper. -/
theorem apiBody_busy
    (hN : Blind port C N)
    (hSingle : port.threadSupport = false)
    (hCalls : KeepsConnection port)
    {inWait inYield : ApiCall → Code E IoTError}
    (hWait :
      ∀ c, c ≠ .disconnect →
        Keeps C (WithinBusy N) (inWait c))
    (fuel : Nat)
    (c : ApiCall)
    (hStays : c ≠ .disconnect) :
    Keeps C (WithinBusy N)
      (apiBody port fuel inWait inYield c) := by
  have hCommand : TimerName.command ≠ .reconnectDelay := by
    decide
  have hCycle :=
    hN.cycle (φ := fun s => s.isBusy = true) hSingle
      (fun _ h => h) (hN.runCallback_busy hCalls hWait)
      hCommand
  have hI :
      Requests port C (fun s => s.isBusy = true)
        (WithinBusy N) :=
    hN.within
  cases c with
  | connect params => exact connect_busy fuel params
  | disconnect => exact absurd rfl hStays
  | attemptReconnect =>
      exact hN.attemptReconnect_busy hSingle fuel
  | publish topic topicLen params =>
      exact hI.publish rfl hCycle fuel _ _ _
  | subscribe topic topicLen qos handler data =>
      exact hI.subscribe rfl hCycle fuel _ _ _ _ _
  | unsubscribe filter filterLen =>
      exact hI.unsubscribe rfl hCycle fuel _ _
  | resubscribe =>
      exact hI.resubscribe rfl hCycle fuel
  | yield timeoutMs =>
      exact yield_busy fuel _ _ _ timeoutMs
  | autoreconnectSetStatus status =>
      refine Triple.seq ?_ (fun _ => Triple.same)
      exact hI.modifyClient (fun _ => rfl)
  | setDisconnectHandler handler data =>
      refine
        Triple.ite (fun _ => Triple.same) (fun _ => ?_)
      refine Triple.seq ?_ (fun _ => Triple.same)
      exact hI.modifyClient (fun _ => rfl)

/- Every call but disconnect keeps a busy client busy. -/
theorem api_busy
    (hN : Blind port C N)
    (hSingle : port.threadSupport = false)
    (hCalls : KeepsConnection port)
    (fuel : Nat)
    (waiting : Bool)
    (c : ApiCall)
    (hStays : c ≠ .disconnect) :
    Keeps C (WithinBusy N) (api port fuel waiting c) := by
  induction fuel generalizing waiting c with
  | zero => exact Triple.stop (fun w hw => hN.halt w hw.2)
  | succ fuel ih =>
      refine Triple.seq (Triple.emit ?_) ?_
      · intro w hw
        right
        exact
          ⟨hw.1, hN.call w.st w.log waiting c hw.2⟩
      intro _
      refine
        (hN.apiBody_busy hSingle hCalls (ih true) fuel c
          hStays).seq ?_
      intro rc
      exact
        (hN.within.emit (fun _ => rfl)).seq
          (fun _ => Triple.same)

/- A cycle with the callbacks of an application. -/
theorem cycleRead
    (hN : Blind port C N)
    (hSingle : port.threadSupport = false)
    (hCalls : KeepsConnection port)
    (hBusy : ∀ s, s.isBusy = true → φ s)
    (depth : Nat)
    (waiting : Bool)
    {timer : TimerName}
    (hTimer : timer ≠ .reconnectDelay)
    (fuel : Nat) :
    Keeps C (Within φ N)
      (Mqtt.cycleRead port fuel
        (runCallback port (api port depth waiting)) timer) :=
  hN.cycle hSingle hBusy
    (hN.runCallback_busy hCalls
      (hN.api_busy hSingle hCalls depth waiting))
    hTimer fuel

end Blind

end Mqtt

end TrustOnboard
