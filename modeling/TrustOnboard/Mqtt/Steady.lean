import TrustOnboard.Mqtt.Requests

/-
  Invariants of everything the client does.

  An invariant that survives reading a packet with all that
  follows from it, sending a request, a ping, a connect and
  the steps that neither send nor receive, is kept by every
  call, with or without threads and whatever the callbacks
  call.  One that does not depend on the client state and
  the counters needs no separate account of the connect.

  Key definitions include:
    * `Aside`
    * `KeptAside`
    * `Steady`

  Key results include:
    * `KeptAside.internalConnect`
    * `KeptAside.steady`
    * `Steady.yield`
    * `Steady.api`
-/

------------------------------------------------------------
-- Steady Invariants
------------------------------------------------------------

namespace TrustOnboard

namespace Mqtt

variable {E : Type}

/- The encoder of the packet a yield sends by itself. -/
def pingRequest (c : Client) : Serialized :=
  serializeZero c.writeBufSize .pingreq

/- The system with another flag for an outstanding ping. -/
def Sys.withPing
    (s : Sys E)
    (outstanding : Bool) : Sys E :=
  { s with
    client :=
      { s.client with isPingOutstanding := outstanding } }

/- The system with another interval between reconnects. -/
def Sys.withInterval
    (s : Sys E)
    (interval : UInt32) : Sys E :=
  { s with
    client :=
      { s.client with
        currentReconnectWaitInterval := interval } }

/- Setting the parameters of a connect keeps the invariant. -/
def SetsParams
    (I : Run E → Prop)
    (params : Option ConnectParams) : Prop :=
  ∀ p, params = some p → ∀ s l, I ⟨s, l⟩ →
    I ⟨{ s with client := setConnectParams s.client p }, l⟩

theorem setsParams_none
    {I : Run E → Prop} :
    SetsParams I none := by
  intro p hNone
  cases hNone

/- An invariant that survives each kind of step. -/
structure Steady
    (port : Port E)
    (C : Contract (Sys E) Event)
    (I : Run E → Prop) : Prop
    extends Requests port C (fun _ => True) I where
  cycle :
    ∀ call, (∀ c, Keeps C I (call c)) → ∀ fuel timer,
      Keeps C I
        (cycleRead port fuel (runCallback port call) timer)
  ping :
    ∀ fuel n,
      Triple C
        (fun w =>
          w.st.client.isPingOutstanding = false ∧
            Ready pingRequest n w.st.client ∧ I w)
        (sendPacket port fuel n .command)
        (fun rc w =>
          (rc = .success → I ⟨w.st.withPing true, w.log⟩) ∧
            (rc ≠ .success → I w))
  interval :
    ∀ s l interval, I ⟨s, l⟩ →
      I ⟨s.withInterval interval, l⟩
  outage :
    ∀ s l env e, Event.isOutage e = true → I ⟨s, l⟩ →
      I ⟨{ s with env := env }, e :: l⟩
  connect :
    ∀ fuel params,
      (∀ c, Keeps C I (api port fuel true c)) →
        SetsParams I params →
          Keeps C I
            (connect port fuel
              (runCallback port (api port fuel true)) params)
  call :
    ∀ s l waiting c, I ⟨s, l⟩ →
      C.excused (.call waiting c :: l) ∨
        (I ⟨s, .call waiting c :: l⟩ ∧
          ∀ params, c = .connect params → SetsParams I params)

end Mqtt

end TrustOnboard

------------------------------------------------------------
-- Invariants That Ignore The Client State
------------------------------------------------------------

namespace TrustOnboard

namespace Mqtt

variable {E : Type}
variable {port : Port E}
variable {C : Contract (Sys E) Event}
variable {I : Run E → Prop}
variable {callback : Callback E}

/- A step aside may change the state and the counters. -/
structure Aside
    (s s' : Sys E)
    (es : List Event) : Prop where
  options : s'.client.options = s.client.options
  writeBufSize :
    s'.client.writeBufSize = s.client.writeBufSize
  readBufSize :
    s'.client.readBufSize = s.client.readBufSize
  events : ∀ e ∈ es, e.aside = true

/- A step with no events. -/
theorem aside_silent
    {s s' : Sys E}
    (hOptions : s'.client.options = s.client.options)
    (hWrite :
      s'.client.writeBufSize = s.client.writeBufSize)
    (hRead : s'.client.readBufSize = s.client.readBufSize) :
    Aside s s' [] :=
  ⟨hOptions, hWrite, hRead, fun _ h => by cases h⟩

theorem Apart.aside
    {s s' : Sys E}
    {es : List Event}
    (hApart : Apart s s' es) :
    Aside s s' es where
  options := congrArg Settings.options hApart.settings
  writeBufSize :=
    congrArg Settings.writeBufSize hApart.settings
  readBufSize :=
    congrArg Settings.readBufSize hApart.settings
  events := fun e he => aside_of_apart (hApart.events e he)

/- An invariant that survives the steps aside. -/
structure KeptAside
    (C : Contract (Sys E) Event)
    (I : Run E → Prop) : Prop where
  halt : ∀ w, I w → C.halted w
  aside :
    ∀ s s' es l, Aside s s' es → I ⟨s, l⟩ →
      I ⟨s', es ++ l⟩

namespace KeptAside

/- A change of the client outside the invariant's reach. -/
theorem change
    (hI : KeptAside C I)
    {s s' : Sys E}
    {l : List Event}
    (hAside : Aside s s' [])
    (hHere : I ⟨s, l⟩) :
    I ⟨s', l⟩ :=
  hI.aside s s' [] l hAside hHere

/- Such an invariant allows every state. -/
theorem states
    (hI : KeptAside C I) :
    KeptStates C (fun _ => True) I where
  halt := hI.halt
  apart := fun s s' es l hApart =>
    hI.aside s s' es l hApart.aside
  inside := fun _ _ => trivial
  state := fun _ _ _ _ =>
    hI.change (aside_silent rfl rfl rfl)
  refused := by
    intro s l expected new hw
    right
    refine hI.aside s s [_] l ⟨rfl, rfl, rfl, ?_⟩ hw
    intro e he
    rw [List.mem_singleton.mp he]
    rfl

/- The handling of a PINGRESP. -/
theorem handlePingresp
    (hI : KeptAside C I) :
    Keeps C I (Mqtt.handlePingresp port) := by
  refine Triple.seq (Triple.modify ?_) ?_
  · exact fun _ => hI.change (aside_silent rfl rfl rfl)
  intro _
  refine (KeptApart.read _).seq ?_
  intro c
  exact
    (hI.states.countdown _ _).seq (fun _ => Triple.same)

/-
  The dispatch of a packet, given the callbacks and the
  PUBACK.
-/
theorem dispatchPacket
    (hI : KeptAside C I)
    (hCb :
      ∀ handler data msg,
        Keeps C I (callback handler data msg))
    {fuel : Nat}
    {timer : TimerName}
    (hAck :
      ∀ id, Keeps C I
        (sendSerialized port fuel timer (fun c =>
          serializeAck c.writeBufSize .puback 0 id)))
    (type : UInt8) :
    Keeps C I
      (Mqtt.dispatchPacket port fuel callback timer type) :=
  hI.states.toKeptApart.dispatchPacket
    (hI.states.deliverMessage trivial hCb) hAck type
    (fun _ => hI.handlePingresp)

/-
  One cycle of the receive path, given the steps of a read,
  the callbacks and the PUBACK.
-/
theorem cycleRead
    (hI : KeptAside C I)
    (hReceive :
      ∀ s s' es l, Receives s s' es → I ⟨s, l⟩ →
        I ⟨s', es ++ l⟩)
    (hCb :
      ∀ handler data msg,
        Keeps C I (callback handler data msg))
    {fuel : Nat}
    {timer : TimerName}
    (hAck :
      ∀ id, Keeps C I
        (sendSerialized port fuel timer (fun c =>
          serializeAck c.writeBufSize .puback 0 id))) :
    Keeps C I
      (Mqtt.cycleRead port fuel callback timer) :=
  hI.states.cycleRead hReceive (hI.dispatchPacket hCb hAck)

/- A connect once its parameters are in place. -/
theorem internalConnect
    (hI : KeptAside C I)
    (hSend :
      ∀ r, Request r → ∀ fuel n,
        Triple C
          (fun w => Ready r n w.st.client ∧ I w)
          (sendPacket port fuel n .command)
          (fun _ => I))
    (hCycle :
      ∀ fuel,
        Keeps C I
          (Mqtt.cycleRead port fuel callback .command))
    (fuel : Nat) :
    Keeps C I
      (Mqtt.internalConnect port fuel callback none) := by
  have hRequests : Requests port C (fun _ => True) I :=
    ⟨hI.states, hSend⟩
  change Keeps C I (netConnect port >>= _)
  refine Triple.seq
    (hI.states.answer port.netConnect _ (fun _ => rfl)) ?_
  intro rc
  refine Triple.ite (fun _ => Triple.same) (fun _ => ?_)
  refine hRequests.connectExchange hCycle ?_ fuel
  refine Triple.modify ?_
  exact fun _ => hI.change (aside_silent rfl rfl rfl)

/- The call of connect. -/
theorem connect
    (hI : KeptAside C I)
    (hSend :
      ∀ r, Request r → ∀ fuel n,
        Triple C
          (fun w => Ready r n w.st.client ∧ I w)
          (sendPacket port fuel n .command)
          (fun _ => I))
    (hCycle :
      ∀ fuel,
        Keeps C I
          (Mqtt.cycleRead port fuel callback .command))
    (fuel : Nat)
    {params : Option ConnectParams}
    (hParams : SetsParams I params) :
    Keeps C I (Mqtt.connect port fuel callback params) := by
  have hInner :=
    hI.internalConnect hSend hCycle fuel
  refine (KeptApart.read _).seq ?_
  intro clientState
  refine Triple.ite (fun _ => Triple.same) (fun _ => ?_)
  refine (hI.states.setClientState _ trivial).seq ?_
  intro _
  refine Triple.seq ?_
    (fun rc => hI.states.finishConnect trivial trivial rc)
  cases params with
  | none => exact hInner
  | some p =>
      change Keeps C I
        (Mqtt.modifyClient _ >>= fun _ =>
          Mqtt.internalConnect port fuel _ none)
      refine Triple.seq ?_ (fun _ => hInner)
      exact
        Triple.modify
          (fun w hw => hParams p rfl w.st w.log hw)

/- Such an invariant is steady when packets keep it. -/
theorem steady
    (hI : KeptAside C I)
    (hSend :
      ∀ r, Request r ∨ r = pingRequest → ∀ fuel n,
        Triple C
          (fun w => Ready r n w.st.client ∧ I w)
          (sendPacket port fuel n .command)
          (fun _ => I))
    (hCycle :
      ∀ call, (∀ c, Keeps C I (call c)) → ∀ fuel timer,
        Keeps C I
          (Mqtt.cycleRead port fuel (runCallback port call)
            timer))
    (hCall :
      ∀ s l waiting c, I ⟨s, l⟩ →
        C.excused (.call waiting c :: l) ∨
          (I ⟨s, .call waiting c :: l⟩ ∧
            ∀ params, c = .connect params →
              SetsParams I params)) :
    Steady port C I where
  toKeptStates := hI.states
  send := fun r hRequest => hSend r (Or.inl hRequest)
  cycle := hCycle
  ping := by
    intro fuel n
    have hPing := hSend pingRequest (Or.inr rfl) fuel n
    refine hPing.conseq (fun _ h => h.2) ?_
    intro rc w hw
    refine ⟨fun _ => ?_, fun _ => hw⟩
    have hAside : Aside w.st (w.st.withPing true) [] :=
      aside_silent rfl rfl rfl
    exact hI.change hAside hw
  interval := fun _ _ _ =>
    hI.change (aside_silent rfl rfl rfl)
  outage := by
    intro s l env e hOutage hHere
    refine
      hI.aside s { s with env := env } [e] l
        ⟨rfl, rfl, rfl, ?_⟩ hHere
    intro e' he'
    rw [List.mem_singleton.mp he']
    cases e <;> first | rfl | cases hOutage
  connect := by
    intro fuel params hNested hParams
    exact
      hI.connect (fun r hRequest => hSend r (Or.inl hRequest))
        (fun fuel => hCycle _ hNested fuel .command) fuel
        hParams
  call := hCall

end KeptAside

end Mqtt

end TrustOnboard

------------------------------------------------------------
-- Calls
------------------------------------------------------------

namespace TrustOnboard

namespace Mqtt

namespace Steady

variable {E : Type}
variable {port : Port E}
variable {C : Contract (Sys E) Event}
variable {I : Run E → Prop}
variable {callback : Callback E}
variable {onLost : HandlerId → Nat → Code E Unit}

theorem disconnect
    (hI : Steady port C I)
    (fuel : Nat) :
    Keeps C I (Mqtt.disconnect port fuel) := by
  refine (KeptApart.read _).seq ?_
  intro clientState
  refine (KeptApart.read _).seq ?_
  intro seen
  refine Triple.ite (fun _ => Triple.same) (fun _ => ?_)
  refine (hI.setClientState _ trivial).seq ?_
  intro rc
  refine Triple.ite (fun _ => Triple.same) (fun _ => ?_)
  refine (hI.internalDisconnect fuel).seq ?_
  intro rc
  exact
    Triple.ite
      (fun _ =>
        (hI.assignClientState trivial).seq
          (fun _ => Triple.same))
      (fun _ =>
        (hI.assignClientState trivial).seq
          (fun _ => Triple.same))

theorem attemptReconnect
    (hI : Steady port C I)
    {fuel : Nat}
    (hConnect :
      Keeps C I (Mqtt.connect port fuel callback none))
    (hCycle :
      ∀ fuel,
        Keeps C I (cycleRead port fuel callback .command)) :
    Keeps C I (Mqtt.attemptReconnect port fuel callback) := by
  refine (KeptApart.read _).seq ?_
  intro seen
  refine Triple.ite (fun _ => Triple.same) (fun _ => ?_)
  refine hConnect.seq ?_
  intro _
  refine (KeptApart.read _).seq ?_
  intro clientState
  refine Triple.ite (fun _ => ?_) (fun _ => ?_)
  · refine (hI.emit (fun _ => rfl)).seq ?_
    intro _
    exact
      (hI.setClientState _ trivial).seq
        (fun _ => Triple.same)
  · refine (hI.resubscribe trivial hCycle fuel).seq ?_
    intro rc
    exact
      Triple.ite (fun _ => Triple.same)
        (fun _ => Triple.same)

/- An event of an outage is recorded. -/
theorem outageEvent
    (hI : Steady port C I)
    {f : Sys E → Event}
    (hOutage : ∀ s, (f s).isOutage = true) :
    Keeps C I (Prog.emit f) :=
  Triple.emit
    (fun w hw =>
      Or.inr
        (hI.outage w.st w.log w.st.env _ (hOutage w.st) hw))

theorem handleDisconnect
    (hI : Steady port C I)
    (hLost : ∀ handler data, Keeps C I (onLost handler data))
    (fuel : Nat) :
    Keeps C I (Mqtt.handleDisconnect port fuel onLost) := by
  refine Triple.seq (hI.outageEvent (fun _ => rfl)) ?_
  intro _
  refine Triple.seq ?_ ?_
  · refine (hI.disconnect fuel).seq ?_
    intro rc
    refine Triple.ite (fun _ => ?_) (fun _ => Triple.same)
    refine (hI.assignClientState trivial).seq ?_
    intro _
    refine hI.netDisconnect.seq ?_
    intro _
    exact (hI.netDestroy _).seq (fun _ => Triple.same)
  intro _
  refine Triple.seq ?_ ?_
  · refine (KeptApart.read _).seq ?_
    intro c
    cases c.disconnectHandler with
    | none => exact Triple.same
    | some handler =>
        exact
          (hLost _ _).seq
            (fun _ => hI.outageEvent (fun _ => rfl))
  intro _
  exact
    (hI.assignClientState trivial).seq (fun _ => Triple.same)

theorem backOff
    (hI : Steady port C I)
    (rc : IoTError) :
    Keeps C I (Mqtt.backOff port rc) := by
  refine Triple.seq (Triple.modify ?_) ?_
  · exact fun w hw => hI.interval w.st w.log _ hw
  intro _
  refine (KeptApart.read _).seq ?_
  intro c
  exact
    Triple.ite (fun _ => Triple.same)
      (fun _ =>
        (hI.countdown _ _).seq (fun _ => Triple.same))

theorem handleReconnect
    (hI : Steady port C I)
    {fuel : Nat}
    (hConnect :
      Keeps C I (Mqtt.connect port fuel callback none))
    (hCycle :
      ∀ fuel,
        Keeps C I (cycleRead port fuel callback .command)) :
    Keeps C I (Mqtt.handleReconnect port fuel callback) := by
  refine Triple.seq (Triple.step ?_) ?_
  · exact
      fun w hw =>
        Or.inr (hI.outage w.st w.log _ _ rfl hw)
  intro expired
  refine Triple.ite (fun _ => Triple.same) (fun _ => ?_)
  refine Triple.seq (hI.platform port.netIsConnected) ?_
  intro rc
  refine Triple.ite (fun _ => ?_) (fun _ => hI.backOff rc)
  refine (hI.attemptReconnect hConnect hCycle).seq ?_
  intro rc
  refine Triple.ite (fun _ => ?_) (fun _ => hI.backOff rc)
  refine (hI.setClientState _ trivial).seq ?_
  intro rc
  exact
    Triple.ite (fun _ => Triple.same) (fun _ => Triple.same)

/- The flag and the timer after a PINGREQ was sent. -/
theorem pinged
    (hI : Steady port C I) :
    Triple C (fun w => I ⟨w.st.withPing true, w.log⟩)
      (do
        modifyClient (fun c =>
          { c with isPingOutstanding := true })
        let c ← getClient
        countdown port .ping
          (c.keepAliveInterval.toNat * 1000)
        pure .success : Code E IoTError)
      (fun _ => I) := by
  refine Triple.bind (M := fun _ => I) ?_ ?_
  · exact Triple.modify (fun _ hw => hw)
  intro _
  refine (KeptApart.read _).seq ?_
  intro c
  exact (hI.countdown _ _).seq (fun _ => Triple.same)

theorem keepAlive
    (hI : Steady port C I)
    (hLost : ∀ handler data, Keeps C I (onLost handler data))
    (fuel : Nat) :
    Keeps C I (Mqtt.keepAlive port fuel onLost) := by
  refine (KeptApart.read _).seq ?_
  intro c
  refine Triple.ite (fun _ => Triple.same) (fun _ => ?_)
  refine (hI.hasTimerExpired (by decide)).seq ?_
  intro expired
  refine Triple.ite (fun _ => Triple.same) (fun _ => ?_)
  refine Triple.bind
    (M := fun c w =>
      c.isPingOutstanding = w.st.client.isPingOutstanding ∧
        I w)
    (Triple.read (fun _ hw => ⟨rfl, hw⟩)) ?_
  intro c
  refine Triple.ite
    (fun _ =>
      (hI.handleDisconnect hLost fuel).pre (fun _ h => h.2))
    ?_
  intro hFlag
  have hQuiet :
      KeptApart C (fun w =>
        c.isPingOutstanding =
          w.st.client.isPingOutstanding ∧ I w) := by
    refine ⟨fun w hw => hI.halt w hw.2, ?_⟩
    intro s s' es l hApart hw
    have hSame :=
      congrArg Settings.isPingOutstanding hApart.settings
    exact
      ⟨hw.1.trans hSame.symm,
        hI.apart s s' es l hApart hw.2⟩
  refine hQuiet.startCommandTimer.seq ?_
  intro _
  refine (hQuiet.serialize_ready _).bind ?_
  intro encoded
  cases encoded with
  | error rc => exact Triple.pure (fun _ h => h.2.2)
  | ok n =>
      refine Triple.bind
        ((hI.ping fuel n).pre ?_) ?_
      · intro w hPre
        have hOff := hPre.2.1.symm
        rw [Bool.not_eq_true] at hFlag
        exact ⟨hOff.trans hFlag, hPre.1, hPre.2.2⟩
      intro rc
      refine Triple.ite ?_ ?_
      · intro hRc
        exact
          (hI.handleDisconnect hLost fuel).pre
            (fun _ h => h.2 hRc)
      · intro hRc
        exact
          hI.pinged.pre
            (fun _ h => h.1 (Classical.not_not.mp hRc))

theorem yieldRead
    (hI : Steady port C I)
    (hCycle :
      ∀ fuel,
        Keeps C I (cycleRead port fuel callback .yield))
    (hLost : ∀ handler data, Keeps C I (onLost handler data))
    (fuel : Nat) :
    Keeps C I
      (Mqtt.yieldRead port fuel callback onLost) := by
  refine (hCycle fuel).seq ?_
  intro r
  refine Triple.ite
    (fun _ => hI.keepAlive hLost fuel) (fun _ => ?_)
  exact
    Triple.ite (fun _ => hI.handleDisconnect hLost fuel)
      (fun _ => Triple.same)

theorem yieldRound
    (hI : Steady port C I)
    {waitCallback : Callback E}
    {fuel : Nat}
    (hConnect :
      Keeps C I (Mqtt.connect port fuel waitCallback none))
    (hWait :
      ∀ fuel,
        Keeps C I
          (cycleRead port fuel waitCallback .command))
    (hCycle :
      ∀ fuel,
        Keeps C I (cycleRead port fuel callback .yield))
    (hLost : ∀ handler data, Keeps C I (onLost handler data)) :
    Keeps C I
      (Mqtt.yieldRound port fuel waitCallback callback
        onLost) := by
  have hTimer :
      ∀ rc, Keeps C I (yieldTimer port rc) := by
    intro rc
    refine (hI.hasTimerExpired (by decide)).seq ?_
    intro expired
    exact
      Triple.ite (fun _ => Triple.same)
        (fun _ => Triple.same)
  have hStart : Keeps C I (startReconnect port) := by
    refine Triple.seq (hI.modifyClient (fun _ => rfl)) ?_
    intro _
    refine (KeptApart.read _).seq ?_
    intro c
    refine Triple.ite (fun _ => ?_) (fun _ => Triple.same)
    refine (hI.setClientState _ trivial).seq ?_
    intro rc
    refine Triple.ite (fun _ => Triple.same) (fun _ => ?_)
    refine (hI.emit (fun _ => rfl)).seq ?_
    intro _
    refine Triple.seq (Triple.modify ?_) ?_
    · exact fun w hw => hI.interval w.st w.log _ hw
    intro _
    exact (hI.countdown _ _).seq (fun _ => Triple.same)
  refine (KeptApart.read _).seq ?_
  intro clientState
  refine Triple.ite (fun _ => ?_) (fun _ => ?_)
  · refine (KeptApart.read _).seq ?_
    intro c
    refine Triple.ite (fun _ => Triple.same) (fun _ => ?_)
    exact (hI.handleReconnect hConnect hWait).seq hTimer
  · refine (hI.yieldRead hCycle hLost fuel).seq ?_
    intro yieldRc
    refine Triple.ite (fun _ => ?_) (fun _ => ?_)
    · refine hStart.seq ?_
      intro r
      cases r with
      | inl rc => exact hTimer rc
      | inr rc => exact Triple.same
    · exact
        Triple.ite (fun _ => Triple.same)
          (fun _ => hTimer _)

theorem yield
    (hI : Steady port C I)
    {waitCallback : Callback E}
    {fuel : Nat}
    (hConnect :
      Keeps C I (Mqtt.connect port fuel waitCallback none))
    (hWait :
      ∀ fuel,
        Keeps C I
          (cycleRead port fuel waitCallback .command))
    (hCycle :
      ∀ fuel,
        Keeps C I (cycleRead port fuel callback .yield))
    (hLost : ∀ handler data, Keeps C I (onLost handler data))
    (timeoutMs : UInt32) :
    Keeps C I
      (Mqtt.yield port fuel waitCallback callback onLost
        timeoutMs) := by
  have hInner :
      Keeps C I
        (internalYield port fuel waitCallback callback onLost
          timeoutMs) := by
    refine (hI.countdown _ _).seq ?_
    intro _
    refine Triple.loop (fun _ => I) (fun _ => hI.halt) ?_
    intro _
    refine
      (hI.yieldRound hConnect hWait hCycle hLost).post ?_
    intro r w hw
    cases r with
    | inl _ => exact hw
    | inr _ => exact hw
  have hFinish :
      ∀ rc, Keeps C I (finishYield port rc) := by
    intro rc
    refine Triple.ite (fun _ => ?_) (fun _ => Triple.same)
    refine (hI.setClientState _ trivial).seq ?_
    intro rc
    exact
      Triple.ite (fun _ => Triple.same)
        (fun _ => Triple.same)
  refine Triple.ite (fun _ => Triple.same) (fun _ => ?_)
  refine (KeptApart.read _).seq ?_
  intro clientState
  refine Triple.ite (fun _ => Triple.same) (fun _ => ?_)
  refine Triple.ite
    (fun _ => hInner.seq hFinish) (fun _ => ?_)
  refine (KeptApart.read _).seq ?_
  intro seen
  refine Triple.ite (fun _ => Triple.same) (fun _ => ?_)
  refine Triple.ite (fun _ => Triple.same) (fun _ => ?_)
  refine (hI.setClientState _ trivial).seq ?_
  intro rc
  exact
    Triple.ite (fun _ => Triple.same)
      (fun _ => hInner.seq hFinish)

/-
  One call with everything its callbacks do.  A connect may
  set parameters only if that keeps the invariant.
-/
theorem apiBody
    (hI : Steady port C I)
    {fuel : Nat}
    (hWait : ∀ c, Keeps C I (Mqtt.api port fuel true c))
    {inYield : ApiCall → Code E IoTError}
    (hYield : ∀ c, Keeps C I (inYield c))
    (c : ApiCall)
    (hParams :
      ∀ params, c = .connect params → SetsParams I params) :
    Keeps C I
      (Mqtt.apiBody port fuel (Mqtt.api port fuel true)
        inYield c) := by
  have hCycle :=
    fun fuel => hI.cycle _ hWait fuel .command
  have hConnect := hI.connect fuel none hWait setsParams_none
  cases c with
  | connect params =>
      exact hI.connect fuel params hWait (hParams _ rfl)
  | disconnect => exact hI.disconnect fuel
  | attemptReconnect =>
      exact hI.attemptReconnect hConnect hCycle
  | publish topic topicLen params =>
      exact hI.publish trivial hCycle fuel _ _ _
  | subscribe topic topicLen qos handler data =>
      exact hI.subscribe trivial hCycle fuel _ _ _ _ _
  | unsubscribe filter filterLen =>
      exact hI.unsubscribe trivial hCycle fuel _ _
  | resubscribe =>
      exact hI.resubscribe trivial hCycle fuel
  | yield timeoutMs =>
      refine
        hI.yield hConnect hCycle
          (fun fuel => hI.cycle inYield hYield fuel .yield) ?_
          timeoutMs
      intro handler data
      exact
        (hI.platform (port.onDisconnect handler data)).seq
          (hI.eachCall hYield)
  | autoreconnectSetStatus status =>
      refine Triple.seq ?_ (fun _ => Triple.same)
      exact hI.modifyClient (fun _ => rfl)
  | setDisconnectHandler handler data =>
      refine
        Triple.ite (fun _ => Triple.same) (fun _ => ?_)
      refine Triple.seq ?_ (fun _ => Triple.same)
      exact hI.modifyClient (fun _ => rfl)

/- Every call keeps the invariant. -/
theorem api
    (hI : Steady port C I)
    (fuel : Nat)
    (waiting : Bool)
    (c : ApiCall) :
    Keeps C I (Mqtt.api port fuel waiting c) := by
  induction fuel generalizing waiting c with
  | zero => exact Triple.stop hI.halt
  | succ fuel ih =>
      refine Triple.bind
        (M := fun _ w =>
          I w ∧
            ∀ params, c = .connect params →
              SetsParams I params)
        (Triple.emit
          (fun w hw => hI.call w.st w.log waiting c hw)) ?_
      intro _ w hPre
      refine Triple.seq ?_ ?_ w hPre.1
      · exact hI.apiBody (ih true) (ih waiting) c hPre.2
      · intro rc
        exact
          (hI.emit (fun _ => rfl)).seq (fun _ => Triple.same)

end Steady

end Mqtt

end TrustOnboard
