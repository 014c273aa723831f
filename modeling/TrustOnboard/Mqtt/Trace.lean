import TrustOnboard.Mqtt.Exchange
import TrustOnboard.Mqtt.Footprint
import TrustOnboard.Mqtt.Api

/-
  Requests followed packet by packet.

  The rules of this module say what a run has read and sent
  when a call reports success; a call that fails is not
  followed further.

  Key definitions include:
    * `Fact.cond`
    * `QuietCallbacks`
    * `Harmless`
    * `AfterRead`

  Key results include:
    * `in_dispatchPacket`
    * `waitForRead_received`
    * `withClientState_success`
    * `enterOperation_success`
-/

------------------------------------------------------------
-- Callbacks That Make No Calls
------------------------------------------------------------

namespace TrustOnboard

namespace Mqtt

variable {E : Type}
variable {C : Contract (Sys E) Event}
variable {port : Port E}
variable {callback : Callback E}

/- A fact, whatever the client state is. -/
abbrev Fact.cond (I : Fact) : Cond :=
  In (fun _ => True) I

/- Message callbacks return without calling the client. -/
def QuietCallbacks (port : Port E) : Prop :=
  ∀ handler data msg e,
    (port.onMessage handler data msg e).1 = []

/- A callback that keeps every assertion. -/
def Harmless
    (C : Contract (Sys E) Event)
    (callback : Callback E) : Prop :=
  ∀ K handler data msg,
    Triple C (Holds K) (callback handler data msg)
      (fun _ => Holds K)

theorem harmless_runCallback
    (hQuiet : QuietCallbacks port)
    (call : ApiCall → Code E IoTError) :
    Harmless C (runCallback port call) := by
  intro K handler data msg
  refine Triple.bind
    (M := fun calls w => calls = [] ∧ Holds K w)
    (Triple.step (fun w hK => Or.inr ⟨hQuiet _ _ _ _, hK⟩)) ?_
  intro calls
  refine Triple.of_fact ?_
  rintro rfl
  exact Triple.same

/- Delivery to such callbacks changes nothing. -/
theorem at_deliverMessage
    (hSingle : port.threadSupport = false)
    (hCb : Harmless C callback)
    {I : Fact}
    (hQuiet :
      ∀ f l e, Event.quiet e = true → I f l →
        I f (e :: l))
    (s : ClientState)
    (msg : Message) :
    Triple C (Holds (At s I))
      (deliverMessage port callback msg)
      (fun rc w => rc = .success ∧ Holds (At s I) w) := by
  refine at_getClientState.bind ?_
  intro clientState
  refine Triple.of_fact ?_
  rintro rfl
  refine (setClientState_of_eq hSingle hQuiet _).bind ?_
  intro rc
  refine Triple.of_fact ?_
  intro _
  refine (holds_read _).bind ?_
  intro c
  refine Triple.bind
    (M := fun _ =>
      Holds (At .connectedWaitForCbReturn I))
    (Triple.each ?_)
    (fun _ => setClientState_of_eq hSingle hQuiet _)
  intro itr _
  refine (holds_read _).bind ?_
  intro c
  dsimp only
  cases c.messageHandlers[itr]? with
  | none => exact Triple.same
  | some slot =>
      refine Triple.ite ?_ (fun _ => Triple.same)
      intro _
      cases slot.pApplicationHandler with
      | none => exact Triple.same
      | some handler =>
          refine Triple.seq ?_ (fun _ => hCb _ _ _ _)
          refine Triple.emit ?_
          intro w hAt
          exact Or.inr ⟨hAt.1, hQuiet _ _ _ rfl hAt.2⟩

/- A PUBACK keeps what survives its events. -/
theorem in_sendPuback
    (hSingle : port.threadSupport = false)
    {φ : ClientState → Prop}
    {I : Fact}
    (hHalt :
      ∀ w : Run E, I w.st.client.frame w.log → C.halted w)
    (hOutput :
      ∀ f l e, Event.isOutput e = true → I f l →
        I f (e :: l))
    (hPacket :
      ∀ f l packet,
        packetType packet = MessageType.puback.nibble →
          I f l → I f (.txPacket packet :: l))
    (fuel : Nat)
    (timer : TimerName)
    (id : UInt16) :
    Triple C (Holds (In φ I))
      (sendSerialized port fuel timer (fun c =>
        serializeAck c.writeBufSize .puback 0 id))
      (fun _ => Holds (In φ I)) := by
  refine
    (in_sendSerialized_sent hSingle hHalt hOutput ?_ fuel
      timer).post ?_
  · intro c rc hError
    rw [serializeAck_error hError]
    decide
  · intro rc w hPost
    rcases hPost with
      ⟨_, hIn⟩ | ⟨_, c, packet, hEnc, hSent⟩
    · exact hIn
    · refine ⟨hSent.1, ?_⟩
      rcases hSent.2 with ⟨l', hLog, hI⟩
      rw [hLog]
      exact hPacket _ _ _ (packetType_puback hEnc) hI

/- The dispatch of a packet to such callbacks. -/
theorem in_dispatchPacket
    (hSingle : port.threadSupport = false)
    (hCb : Harmless C callback)
    {φ : ClientState → Prop}
    {I : Fact}
    (hQuiet :
      ∀ f l e, Event.quiet e = true → I f l →
        I f (e :: l))
    {fuel : Nat}
    {timer : TimerName}
    (hAck :
      ∀ s id, Triple C (Holds (At s I))
        (sendSerialized port fuel timer (fun c =>
          serializeAck c.writeBufSize .puback 0 id))
        (fun _ => Holds (At s I)))
    (type : UInt8) :
    Triple C (Holds (In φ I))
      (dispatchPacket port fuel callback timer type)
      (fun _ => Holds (In φ I)) := by
  refine in_pre ?_
  intro s hState
  refine
    (holds_dispatchPacket (D := fun _ _ _ => False) ?_ (hAck s)
      type).post ?_
  · intro msg
    exact
      (at_deliverMessage hSingle hCb hQuiet s msg).post
        (fun _ _ h => Or.inl h.2)
  · intro rc w hPost
    rcases hPost with hAt | ⟨_, hNo⟩
    · refine ⟨?_, hAt.2⟩
      rw [hAt.1]
      exact hState
    · exact hNo.elim

end Mqtt

end TrustOnboard

------------------------------------------------------------
-- Waiting For A Packet
------------------------------------------------------------

namespace TrustOnboard

namespace Mqtt

variable {E : Type}
variable {C : Contract (Sys E) Event}
variable {port : Port E}
variable {callback : Callback E}
variable {K : Cond}
variable {P : UInt8 → Cond}

/- What holds after a read, by the type of its packet. -/
def AfterRead
    (K : Cond)
    (P : UInt8 → Cond) : Option UInt8 → Cond
  | none => K
  | some type => P type

theorem cycleRead_received
    (hSingle : port.threadSupport = false)
    {fuel : Nat}
    {timer : TimerName}
    (hRead :
      Triple C (Holds K) (readPacket port fuel)
        (fun r => Holds (AfterRead K P r.2)))
    (hDispatch :
      ∀ type, Triple C (Holds (P type))
        (dispatchPacket port fuel callback timer type)
        (fun _ => Holds (P type))) :
    Triple C (Holds K)
      (cycleRead port fuel callback timer)
      (fun r => Holds (AfterRead K P r.2)) := by
  rw [cycleRead_single hSingle]
  refine hRead.bind ?_
  rintro ⟨rc, type⟩
  refine Triple.ite (fun _ => Triple.same) (fun _ => ?_)
  refine Triple.ite (fun _ => Triple.same) (fun _ => ?_)
  cases type with
  | none => exact Triple.same
  | some type =>
      exact (hDispatch type).bind (fun _ => Triple.same)

theorem nibble_ne_zero
    (type : MessageType) :
    (0 : UInt8) ≠ type.nibble := by
  cases type <;> decide

/-
  How a wait can end: without a packet, or with the last one
  it read.  A successful wait ends with a packet of the
  awaited type.
-/
def AfterWait
    (K : Cond)
    (P : UInt8 → Cond)
    (awaited : MessageType)
    (rc : IoTError)
    (w : Run E) : Prop :=
  (rc ≠ .success ∧ Holds K w) ∨
    ∃ type,
      (rc = .success → type = awaited.nibble) ∧
        Holds (P type) w

/- Packets of other types lead a wait back to its start. -/
theorem waitForRead_received
    (hSingle : port.threadSupport = false)
    (hHalt : ∀ w : Run E, Holds K w → C.halted w)
    (hQuiet :
      ∀ s f l e, Event.quiet e = true → K s f l →
        K s f (e :: l))
    {fuel : Nat}
    {timer : TimerName}
    {awaited : MessageType}
    (hRead :
      Triple C (Holds K) (readPacket port fuel)
        (fun r => Holds (AfterRead K P r.2)))
    (hDispatch :
      ∀ type, Triple C (Holds (P type))
        (dispatchPacket port fuel callback timer type)
        (fun _ => Holds (P type)))
    (hOther :
      ∀ type s f l, type ≠ awaited.nibble →
        P type s f l → K s f l) :
    Triple C (Holds K)
      (waitForRead port fuel callback awaited timer)
      (AfterWait K P awaited) := by
  refine
    (Triple.loop
      (fun seen w => seen ≠ awaited.nibble ∧ Holds K w)
      (fun _ w h => hHalt w h.2) ?_).pre
        (fun _ hK => ⟨nibble_ne_zero awaited, hK⟩)
  intro seen
  refine Triple.of_fact ?_
  intro hSeen
  refine (holds_hasTimerExpired hQuiet timer).bind ?_
  intro expired
  refine Triple.ite ?_ ?_
  · intro _
    exact Triple.ret (fun _ hK => Or.inl ⟨by decide, hK⟩)
  · intro _
    refine
      (cycleRead_received hSingle hRead hDispatch).bind ?_
    rintro ⟨rc, type⟩
    dsimp only
    refine Triple.ite ?_ ?_
    · intro hLost
      have hRc : rc ≠ .success := by
        rw [hLost]
        decide
      cases type with
      | none =>
          exact Triple.ret (fun _ hK => Or.inl ⟨hRc, hK⟩)
      | some type =>
          exact
            Triple.ret
              (fun _ hP =>
                Or.inr
                  ⟨type, fun hYes => absurd hYes hRc, hP⟩)
    · intro _
      cases type with
      | none =>
          refine Triple.ite ?_ ?_
          · intro hNo
            exact absurd hNo hSeen
          · intro _
            exact Triple.ret (fun _ hK => ⟨hSeen, hK⟩)
      | some type =>
          refine Triple.ite ?_ ?_
          · intro hType
            exact
              Triple.ret
                (fun _ hP =>
                  Or.inr ⟨type, fun _ => hType, hP⟩)
          · intro hType
            exact
              Triple.ret
                (fun _ hP =>
                  ⟨hType, hOther type _ _ _ hType hP⟩)

/- What a successful wait has read. -/
theorem AfterWait.received
    {awaited : MessageType}
    {rc : IoTError}
    {w : Run E}
    (hWait : AfterWait K P awaited rc w)
    (hRc : rc = .success) :
    Holds (P awaited.nibble) w := by
  rcases hWait with ⟨hNo, _⟩ | ⟨type, hType, hP⟩
  · exact absurd hRc hNo
  · rw [← hType hRc]
    exact hP

end Mqtt

end TrustOnboard

------------------------------------------------------------
-- Successful Operations
------------------------------------------------------------

namespace TrustOnboard

namespace Mqtt

variable {E : Type}
variable {C : Contract (Sys E) Event}
variable {port : Port E}
variable {I J : Fact}

/- The state is put back after a successful operation. -/
theorem withClientState_success
    (hSingle : port.threadSupport = false)
    (hQuiet :
      ∀ f l e, Event.quiet e = true → J f l →
        J f (e :: l))
    {s during : ClientState}
    {P : Run E → Prop}
    {operation : Code E IoTError}
    (hOp :
      Triple C P operation
        (fun rc w => rc = .success → Holds J.cond w)) :
    Triple C P
      (withClientState port s during operation)
      (fun rc w => rc = .success → Holds J.cond w) := by
  refine hOp.bind ?_
  intro opRc
  by_cases hRc : opRc = .success
  · subst hRc
    have hLeave :
        Triple C
          (fun w =>
            IoTError.success = .success → Holds J.cond w)
          (setClientState port during s)
          (fun _ => Holds J.cond) :=
      (setClientState_in hSingle hQuiet during s
        trivial).pre (fun _ h => h rfl)
    refine hLeave.bind ?_
    intro rc
    refine Triple.ite ?_ ?_
    · intro _
      exact Triple.ret (fun _ h _ => h)
    · intro _
      exact Triple.ret (fun _ h _ => h)
  · rw [setClientState_single hSingle]
    refine Triple.bind (M := fun _ _ => True)
      (Triple.step (fun _ _ => Or.inr trivial)) ?_
    intro rc
    refine Triple.ite ?_ ?_
    · rintro ⟨hYes, _⟩
      exact absurd hYes hRc
    · intro _
      exact Triple.ret (fun _ _ hYes => absurd hYes hRc)

/- An operation that succeeds has done its work. -/
theorem enterOperation_success
    (hSingle : port.threadSupport = false)
    (hQuietI :
      ∀ f l e, Event.quiet e = true → I f l →
        I f (e :: l))
    (hQuietJ :
      ∀ f l e, Event.quiet e = true → J f l →
        J f (e :: l))
    {during : ClientState}
    {refused : ClientState → IoTError → Code E IoTError}
    {operation : Code E IoTError}
    (hOp :
      Triple C (Holds I.cond) operation
        (fun rc w => rc = .success → Holds J.cond w)) :
    Triple C (Holds I.cond)
      (enterOperation port during refused operation)
      (fun rc w => rc = .success → Holds J.cond w) := by
  refine in_pre ?_
  intro s _
  refine at_getClientState.bind ?_
  intro seen
  refine Triple.of_fact ?_
  intro _
  refine Triple.ite ?_ ?_
  · intro _
    exact Triple.ret (fun _ _ hNo => by cases hNo)
  · intro _
    refine at_getClientState.bind ?_
    intro clientState
    refine Triple.of_fact ?_
    rintro rfl
    refine Triple.ite ?_ ?_
    · intro _
      exact Triple.ret (fun _ _ hNo => by cases hNo)
    · intro _
      refine
        (setClientState_of_eq hSingle hQuietI during).bind ?_
      intro rc
      refine Triple.of_fact ?_
      rintro rfl
      refine Triple.ite ?_ ?_
      · intro hNo
        exact absurd rfl hNo
      · intro _
        exact
          (withClientState_success hSingle hQuietJ hOp).pre
            (fun _ h => ⟨trivial, h.2⟩)

end Mqtt

end TrustOnboard
