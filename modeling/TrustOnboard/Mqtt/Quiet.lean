import TrustOnboard.Mqtt.Outcome
import TrustOnboard.Mqtt.Correlation
import TrustOnboard.Mqtt.Steady

/-
  Receiving with callbacks that do not call the client.

  With such callbacks and no other thread the receive path
  can be described exactly: a delivery calls the handlers of
  the matching slots in the order of the table and leaves the
  client as it was, and a packet that is dispatched changes
  no more than the transmit buffer and the ping flag.

  Key definitions include:
    * `Here`
    * `Calm`
    * `Client.deliveries`
    * `Dispatched`
    * `SendOutcome`
    * `AckRead`

  Key results include:
    * `here_deliverMessage`
    * `here_handleMessage`
    * `dispatchPacket_dispatched`
    * `sendSerialized_outcome`
    * `waitForRead_outcome`
-/

------------------------------------------------------------
-- Deliveries
------------------------------------------------------------

namespace TrustOnboard

namespace Mqtt

variable {E : Type}
variable {C : Contract (Sys E) Event}
variable {port : Port E}
variable {callback : Callback E}
variable {A : E → Prop}

/- Client and log are known, and a fact of the platform. -/
def Here
    (c : Client)
    (l : List Event)
    (A : E → Prop)
    (w : Run E) : Prop :=
  w.st.client = c ∧ w.log = l ∧ A w.st.env

/- No other thread holds a mutex, where there are threads. -/
structure Lockable
    (port : Port E)
    (A : E → Prop)
    (c : Client) : Prop where
  free :
    port.threadSupport = true → ∀ m, c.locked m = false
  trylock :
    port.threadSupport = true →
      ∀ m e, A e →
        (port.mutexTrylock m e).1 = true ∧
          A (port.mutexTrylock m e).2

theorem lockable_of_single
    (hSingle : port.threadSupport = false)
    (A : E → Prop)
    (c : Client) :
    Lockable port A c where
  free := fun hThreads =>
    absurd (hSingle.symm.trans hThreads) Bool.false_ne_true
  trylock := fun hThreads =>
    absurd (hSingle.symm.trans hThreads) Bool.false_ne_true

/- The client while this thread holds a mutex. -/
def Client.holding
    (c : Client)
    (port : Port E)
    (m : Mutex) : Client :=
  if port.threadSupport then c.setLocked m true else c

/- A mutex that nobody holds is had at once. -/
theorem here_lockMutex
    {c : Client}
    (hLocks : Lockable port A c)
    (l : List Event)
    (m : Mutex) :
    Triple C (Here c l A) (lockMutex port m)
      (fun rc w =>
        rc = .success ∧ Here (c.holding port m) l A w) := by
  unfold lockMutex Client.holding
  cases hThreads : port.threadSupport with
  | false => exact Triple.ret (fun _ hHere => ⟨rfl, hHere⟩)
  | true =>
      have hFree := hLocks.free hThreads m
      refine Triple.bind
        (M := fun c' w => c' = c ∧ Here c l A w)
        (Triple.read (fun _ hHere => ⟨hHere.1, hHere⟩)) ?_
      intro c'
      refine Triple.of_fact ?_
      rintro rfl
      refine Triple.ite ?_ ?_
      · intro _
        refine Triple.bind
          (M := fun _ => Here (c'.setLocked m true) l A)
          ?_ (fun _ => Triple.ret (fun _ h => ⟨rfl, h⟩))
        rintro w ⟨hClient, hLog, hA⟩
        right
        simp only [Prog.await, Prog.run, hClient, hFree,
          Bool.not_false, if_true]
        exact ⟨rfl, hLog, hA⟩
      · intro _
        refine Triple.step ?_
        rintro w ⟨hClient, hLog, hA⟩
        right
        have hTry := hLocks.trylock hThreads m w.st.env hA
        simp only [hTry.1, hClient, hFree, Bool.not_false,
          Bool.and_self, if_true]
        exact ⟨trivial, rfl, hLog, hTry.2⟩

/- Giving a mutex back leaves the client as it was. -/
theorem here_unlockMutex
    {c : Client}
    (hLocks : Lockable port A c)
    (l : List Event)
    (m : Mutex) :
    Triple C (Here (c.holding port m) l A)
      (unlockMutex port m)
      (fun rc w => rc = .success ∧ Here c l A w) := by
  unfold unlockMutex Client.holding
  cases hThreads : port.threadSupport with
  | false => exact Triple.ret (fun _ hHere => ⟨rfl, hHere⟩)
  | true =>
      have hSame :
          (c.setLocked m true).setLocked m false = c := by
        have hLocked :
            (fun m' =>
              if m' = m then false
              else if m' = m then true else c.locked m') =
              c.locked := by
          funext m'
          by_cases hEq : m' = m
          · rw [if_pos hEq, hLocks.free hThreads m']
          · rw [if_neg hEq, if_neg hEq]
        unfold Client.setLocked
        dsimp only
        rw [hLocked]
      refine Triple.bind (M := fun _ => Here c l A)
        (Triple.modify ?_)
        (fun _ => Triple.ret (fun _ h => ⟨rfl, h⟩))
      rintro w ⟨hClient, hLog, hA⟩
      refine ⟨?_, hLog, hA⟩
      dsimp only
      rw [hClient]
      exact hSame

/- A callback that changes no more than the platform. -/
def Calm
    (C : Contract (Sys E) Event)
    (A : E → Prop)
    (callback : Callback E) : Prop :=
  ∀ c l handler data msg,
    Keeps C (Here c l A) (callback handler data msg)

theorem calm_runCallback
    (hQuiet : QuietCallbacks port)
    (hKeep :
      ∀ handler data msg e, A e →
        A (port.onMessage handler data msg e).2)
    (call : ApiCall → Code E IoTError) :
    Calm C A (runCallback port call) := by
  intro c l handler data msg
  refine Triple.bind
    (M := fun calls w => calls = [] ∧ Here c l A w)
    (Triple.step ?_) ?_
  · rintro w ⟨hClient, hLog, hA⟩
    exact
      Or.inr
        ⟨hQuiet _ _ _ _, hClient, hLog, hKeep _ _ _ _ hA⟩
  intro calls
  refine Triple.of_fact ?_
  rintro rfl
  exact Triple.same

/- The call of the handler of one slot, if there is one. -/
def Client.delivery
    (c : Client)
    (msg : Message)
    (itr : Nat) : Option Event :=
  match c.messageHandlers[itr]? with
  | none => none
  | some slot =>
      if slot.accepts (c.sees msg).topic then
        slot.pApplicationHandler.map (fun handler =>
          .deliver itr handler slot.pApplicationHandlerData
            (c.sees msg))
      else none

/- The calls of the matching handlers, in their order. -/
def Client.deliveries
    (c : Client)
    (msg : Message) : List Event :=
  (List.range c.messageHandlers.length).filterMap
    (c.delivery msg)

theorem here_deliverToSlot
    (hCb : Calm C A callback)
    (c : Client)
    (l : List Event)
    (msg : Message)
    (itr : Nat) :
    Triple C (Here c l A)
      (deliverToSlot callback msg itr)
      (fun _ =>
        Here c ((c.delivery msg itr).toList ++ l) A) := by
  refine Triple.bind
    (M := fun c' w => c' = c ∧ Here c l A w)
    (Triple.read (fun _ h => ⟨h.1, h⟩)) ?_
  intro c'
  refine Triple.of_fact ?_
  rintro rfl
  unfold Client.delivery
  cases c'.messageHandlers[itr]? with
  | none => exact Triple.same
  | some slot =>
      dsimp only
      refine Triple.ite ?_ ?_
      · intro hMatch
        change slot.accepts (c'.sees msg).topic = true
          at hMatch
        rw [if_pos hMatch]
        cases slot.pApplicationHandler with
        | none => exact Triple.same
        | some handler =>
            refine Triple.bind
              (M := fun _ =>
                Here c'
                  (.deliver itr handler
                    slot.pApplicationHandlerData
                    (c'.sees msg) :: l) A)
              (Triple.emit ?_) (fun _ => hCb _ _ _ _ _)
            rintro w ⟨hClient, rfl, hA⟩
            exact Or.inr ⟨hClient, rfl, hA⟩
      · intro hMatch
        change ¬ slot.accepts (c'.sees msg).topic = true
          at hMatch
        rw [if_neg hMatch]
        exact Triple.same

theorem here_deliverSlots
    (hCb : Calm C A callback)
    (c : Client)
    (l : List Event)
    (msg : Message)
    (slots : List Nat) :
    Triple C (Here c l A)
      (Prog.each (deliverToSlot callback msg) slots)
      (fun _ =>
        Here c
          ((slots.filterMap (c.delivery msg)).reverse ++ l)
          A) := by
  induction slots generalizing l with
  | nil => exact Triple.same
  | cons itr slots ih =>
      refine
        (here_deliverToSlot hCb c l msg itr).bind ?_
      intro _
      refine (ih _).post ?_
      intro _ w hHere
      cases hCall : c.delivery msg itr with
      | none =>
          rw [hCall] at hHere
          rw [List.filterMap_cons_none hCall]
          exact hHere
      | some e =>
          rw [hCall] at hHere
          rw [List.filterMap_cons_some hCall,
            List.reverse_cons, List.append_assoc]
          exact hHere

/- Another state of the client leaves its mutexes alone. -/
theorem Lockable.withState
    {c : Client}
    (hLocks : Lockable port A c)
    (new : ClientState) :
    Lockable port A { c with clientState := new } :=
  ⟨hLocks.free, hLocks.trylock⟩

/- A state change from the known state. -/
theorem here_setClientState
    {c : Client}
    (hLocks : Lockable port A c)
    (l : List Event)
    (new : ClientState) :
    Triple C (Here c l A)
      (setClientState port c.clientState new)
      (fun rc w =>
        rc = .success ∧
          Here { c with clientState := new }
            (.setState c.clientState new c.clientState :: l)
            A w) := by
  refine (here_lockMutex hLocks l _).bind ?_
  intro rc
  refine Triple.of_fact ?_
  rintro rfl
  refine Triple.ite (fun hNo => absurd rfl hNo) ?_
  intro _
  have hHeld :
      Client.holding { c with clientState := new } port
          .stateChange =
        { c.holding port .stateChange with
          clientState := new } := by
    unfold Client.holding
    split
    · rfl
    · rfl
  have hFound :
      (c.holding port .stateChange).clientState =
        c.clientState := by
    unfold Client.holding
    split
    · rfl
    · rfl
  refine Triple.bind
    (M := fun rc w =>
      rc = .success ∧
        Here
          (Client.holding { c with clientState := new } port
            .stateChange)
          (.setState c.clientState new c.clientState :: l) A
          w)
    (Triple.step ?_) ?_
  · rintro w ⟨hClient, rfl, hA⟩
    right
    rw [hClient, hFound, if_pos rfl, hHeld]
    exact ⟨rfl, rfl, rfl, hA⟩
  intro rc
  refine Triple.of_fact ?_
  rintro rfl
  refine
    (here_unlockMutex (hLocks.withState new) _ _).bind ?_
  intro threadRc
  refine Triple.of_fact ?_
  rintro rfl
  refine Triple.ite (fun hNo => absurd rfl hNo.2) ?_
  intro _
  exact Triple.ret (fun _ hHere => ⟨rfl, hHere⟩)

/- The log after a delivery. -/
def Client.deliveredLog
    (c : Client)
    (msg : Message)
    (l : List Event) : List Event :=
  .setState .connectedWaitForCbReturn c.clientState
      .connectedWaitForCbReturn ::
    ((c.deliveries msg).reverse ++
      .setState c.clientState .connectedWaitForCbReturn
        c.clientState :: l)

/-
  A delivery calls the matching handlers and leaves the
  client as it was.
-/
theorem here_deliverMessage
    {c : Client}
    (hLocks : Lockable port A c)
    (hCb : Calm C A callback)
    (l : List Event)
    (msg : Message) :
    Triple C (Here c l A)
      (deliverMessage port callback msg)
      (fun rc w =>
        rc = .success ∧
          Here c (c.deliveredLog msg l) A w) := by
  refine Triple.bind
    (M := fun s w => s = c.clientState ∧ Here c l A w)
    (Triple.read (fun w h => ⟨by rw [h.1], h⟩)) ?_
  intro s
  refine Triple.of_fact ?_
  rintro rfl
  refine (here_setClientState hLocks l _).bind ?_
  intro rc
  refine Triple.of_fact ?_
  intro _
  refine Triple.bind
    (M := fun c' w =>
      c' =
          { c with
            clientState := .connectedWaitForCbReturn } ∧
        Here
          { c with clientState := .connectedWaitForCbReturn }
          (.setState c.clientState .connectedWaitForCbReturn
            c.clientState :: l) A w)
    (Triple.read (fun _ h => ⟨h.1, h⟩)) ?_
  intro c'
  refine Triple.of_fact ?_
  rintro rfl
  refine (here_deliverSlots hCb _ _ msg _).bind ?_
  intro _
  exact
    here_setClientState (hLocks.withState _) _ c.clientState

/- A mutex does not depend on the messages. -/
theorem Lockable.handling
    {c : Client}
    (hLocks : Lockable port A c)
    (msg : Message) :
    Lockable port A (c.handling msg) :=
  ⟨hLocks.free, hLocks.trylock⟩

/-
  Handling a message up to its acknowledgement.  Nobody
  changes its parameters.
-/
theorem here_handleMessage
    {α : Type}
    {c : Client}
    (hLocks : Lockable port A c)
    (hCb : Calm C A callback)
    (l : List Event)
    (msg : Message)
    {finish : IoTError → Client → Code E α}
    {Q : α → Run E → Prop}
    (hFinish :
      Triple C
        (Here c ((c.handling msg).deliveredLog msg l) A)
        (finish .success (c.handling msg)) Q) :
    Triple C (Here c l A)
      (do
        modifyMessages
          (fun messages => msg.params :: messages)
        let rc ← deliverMessage port callback msg
        let c ← getClient
        modifyMessages List.tail
        finish rc c) Q := by
  refine Triple.bind
    (M := fun _ => Here (c.handling msg) l A)
    (Triple.modify ?_) ?_
  · rintro w ⟨rfl, hLog, hA⟩
    exact ⟨rfl, hLog, hA⟩
  intro _
  refine
    (here_deliverMessage (hLocks.handling msg) hCb l
      msg).bind ?_
  intro rc
  refine Triple.of_fact ?_
  rintro rfl
  refine Triple.bind
    (M := fun c' w =>
      c' = c.handling msg ∧
        Here (c.handling msg)
          ((c.handling msg).deliveredLog msg l) A w)
    (Triple.read (fun _ h => ⟨h.1, h⟩)) ?_
  intro c'
  refine Triple.of_fact ?_
  rintro rfl
  refine Triple.bind
    (Triple.modify ?_) (fun _ => hFinish)
  rintro w ⟨hClient, hLog, hA⟩
  refine ⟨?_, hLog, hA⟩
  dsimp only
  rw [hClient]
  rfl

end Mqtt

end TrustOnboard

------------------------------------------------------------
-- Sending
------------------------------------------------------------

namespace TrustOnboard

namespace Mqtt

variable {E : Type}
variable {port : Port E}

/- Nothing is asked of no events. -/
theorem noEvents
    {P : Event → Prop} :
    ∀ e ∈ ([] : List Event), P e :=
  fun _ hNo => by cases hNo

/- A send may touch the transmit buffer and its mutex. -/
def Resent (c c' : Client) : Prop :=
  ∃ writeBuf locked,
    c' = { c with writeBuf := writeBuf, locked := locked }

theorem Resent.refl (c : Client) : Resent c c :=
  ⟨c.writeBuf, c.locked, rfl⟩

/-
  How a send of an encoded packet ends: with an error and no
  packet sent, or with the packet as the newest event.
-/
structure SendOutcome
    (r : Client → Serialized)
    (c : Client)
    (l : List Event)
    (rc : IoTError)
    (w : Run E) : Prop where
  client : Resent c w.st.client
  events :
    ∃ es,
      (∀ e ∈ es, Event.isOutput e = true) ∧
        ((rc ≠ .success ∧ w.log = es ++ l) ∨
          (rc = .success ∧
            ∃ packet,
              r c = some (.ok packet) ∧
                w.log = .txPacket packet :: (es ++ l)))

theorem sendSerialized_outcome
    {r : Client → Serialized}
    (hFails : FailsWithError r)
    (fuel : Nat)
    (timer : TimerName)
    (c : Client)
    (l : List Event) :
    Triple (Contract.plain (Sys E) Event)
      (fun w : Run E => w.st.client = c ∧ w.log = l)
      (sendSerialized port fuel timer r)
      (SendOutcome r c l) := by
  rintro w ⟨rfl, rfl⟩
  have hRead :
      (getClient : Code E Client).run w =
        (some w.st.client, w) := rfl
  cases hEnc : r w.st.client with
  | none =>
      right
      unfold sendSerialized serialize
      rw [Prog.run_bind, Prog.run_bind_of_run hRead, hEnc]
      exact trivial
  | some res =>
      cases res with
      | error rc =>
          right
          have hRun :
              (sendSerialized port fuel timer r).run w =
                (some rc, w) := by
            unfold sendSerialized serialize
            rw [Prog.run_bind, Prog.run_bind_of_run hRead,
              hEnc]
            rfl
          rw [hRun]
          exact
            ⟨Resent.refl _, [], noEvents,
              Or.inl ⟨hFails _ _ hEnc, rfl⟩⟩
      | ok packet =>
          unfold sendSerialized
          rw [Prog.run_bind_of_run (serialize_run hEnc)]
          dsimp only
          -- the packet stays in the buffer during the send
          refine
            sendPacket_steps
              (I := fun w' : Run E =>
                (∃ locked,
                  w'.st.client =
                    { w.st.client with
                      writeBuf :=
                        w.st.client.writeBuf.store 0 packet
                      locked := locked }) ∧
                  ∃ es,
                    w'.log = es ++ w.log ∧
                      ∀ e ∈ es, Event.isOutput e = true)
              (fun _ _ => trivial) ?_ ?_ ?_ fuel _
              ⟨⟨w.st.client.locked, rfl⟩, [], rfl, noEvents⟩
          · rintro s s' es l' ⟨⟨locked, hClient⟩, hOutput⟩
              ⟨⟨locked', hOld⟩, es', hLog, hAll⟩
            change s.client = _ at hOld
            change l' = _ at hLog
            refine ⟨⟨locked, ?_⟩, es ++ es', ?_, ?_⟩
            · change s'.client = _
              rw [hClient, hOld]
            · change es ++ l' = _
              rw [hLog, List.append_assoc]
            · intro e he
              rcases List.mem_append.mp he with he | he
              · exact isOutput_of_isOutputOf (hOutput e he)
              · exact hAll e he
          · rintro w' ⟨⟨locked, hClient⟩, es, hLog, hAll⟩
            refine ⟨⟨_, locked, hClient⟩, es, hAll, Or.inr ?_⟩
            refine ⟨rfl, packet, hEnc, ?_⟩
            rw [← hLog, hClient]
            dsimp only
            rw [Buffer.load_store_self]
          · rintro rc w' hRc ⟨⟨locked, hClient⟩, es, hLog, hAll⟩
            exact
              ⟨⟨_, locked, hClient⟩, es, hAll,
                Or.inl ⟨hRc, hLog⟩⟩

end Mqtt

end TrustOnboard

------------------------------------------------------------
-- Dispatch
------------------------------------------------------------

namespace TrustOnboard

namespace Mqtt

variable {E : Type}
variable {port : Port E}
variable {callback : Callback E}

/- The events of receiving, with such callbacks. -/
def Event.isTraffic : Event → Bool
  | .setState _ _ _ => true
  | .deliver _ _ _ _ => true
  | e => e.isReceive || e.isTransmit

/- Such an event that is not the end of a read. -/
abbrev Event.isAnswer (e : Event) : Prop :=
  e.isTraffic = true ∧ e.isPacketRead = false

/-
  Since the given client and log, nothing changed but the
  transmit buffer, its mutex and the ping flag, and no packet
  was read.
-/
structure Dispatched
    (c : Client)
    (l : List Event)
    (w : Run E) : Prop where
  client :
    ∃ writeBuf locked ping,
      w.st.client =
        { c with
          writeBuf := writeBuf
          locked := locked
          isPingOutstanding := ping }
  events : ∃ es, w.log = es ++ l ∧ ∀ e ∈ es, e.isAnswer

theorem Dispatched.refl
    {c : Client}
    {l : List Event}
    {w : Run E}
    (hClient : w.st.client = c)
    (hLog : w.log = l) :
    Dispatched c l w := by
  subst hClient hLog
  exact
    ⟨⟨w.st.client.writeBuf, w.st.client.locked,
      w.st.client.isPingOutstanding, rfl⟩, [], rfl, noEvents⟩

/- A delivery reads no packet. -/
theorem deliveredLog_isAnswer
    (c : Client)
    (msg : Message)
    (l : List Event) :
    ∃ es,
      c.deliveredLog msg l = es ++ l ∧
        ∀ e ∈ es, e.isAnswer := by
  refine
    ⟨.setState .connectedWaitForCbReturn c.clientState
        .connectedWaitForCbReturn ::
      ((c.deliveries msg).reverse ++
        [.setState c.clientState .connectedWaitForCbReturn
          c.clientState]), ?_, ?_⟩
  · simp [Client.deliveredLog]
  · intro e he
    simp only [List.mem_cons, List.mem_append,
      List.mem_reverse, List.not_mem_nil, or_false] at he
    rcases he with rfl | he | rfl
    · exact ⟨rfl, rfl⟩
    · rcases List.mem_filterMap.mp he with ⟨itr, _, hCall⟩
      unfold Client.delivery at hCall
      split at hCall
      · cases hCall
      · split at hCall
        · rcases Option.map_eq_some_iff.mp hCall with
            ⟨_, _, rfl⟩
          exact ⟨rfl, rfl⟩
        · cases hCall
    · exact ⟨rfl, rfl⟩

theorem isAnswer_of_isOutput
    {e : Event}
    (hOutput : e.isOutput = true) :
    e.isAnswer := by
  cases e <;>
    simp_all [Event.isAnswer, Event.isOutput,
      Event.isPacketRead, Event.isTraffic, Event.isTransmit]

theorem failsWithError_puback
    (id : UInt16) :
    FailsWithError (fun c =>
      serializeAck c.writeBufSize .puback 0 id) := by
  intro c rc hError
  rw [serializeAck_error hError]
  decide

theorem handlePublish_dispatched
    (hSingle : port.threadSupport = false)
    (hCb :
      Calm (Contract.plain (Sys E) Event) (fun _ => True)
        callback)
    (fuel : Nat)
    (timer : TimerName)
    (c : Client)
    (l : List Event) :
    Triple (Contract.plain (Sys E) Event)
      (fun w : Run E => w.st.client = c ∧ w.log = l)
      (handlePublish port fuel callback timer)
      (fun _ => Dispatched c l) := by
  refine Triple.seq (Triple.read (fun _ h => h)) ?_
  intro c'
  cases deserializePublish c'.readBuf c'.readBufSize with
  | error rc =>
      exact Triple.ret (fun w h => Dispatched.refl h.1 h.2)
  | ok msg =>
      refine
        (here_handleMessage (lockable_of_single hSingle _ c)
          hCb l msg ?_).pre
          (fun _ h => ⟨h.1, h.2, trivial⟩)
      refine Triple.ite (fun hNo => absurd rfl hNo) ?_
      intro _
      rcases deliveredLog_isAnswer (c.handling msg) msg l with
        ⟨es, hLog, hNone⟩
      cases ((c.handling msg).sees msg).params.ackId with
      | none =>
          refine Triple.ret ?_
          rintro w ⟨hClient, hHere, _⟩
          exact
            ⟨(Dispatched.refl hClient rfl).client, es,
              hHere.trans hLog, hNone⟩
      | some id =>
          refine
            ((sendSerialized_outcome
              (failsWithError_puback id) fuel timer c
              ((c.handling msg).deliveredLog msg l)).pre
                (fun _ h => ⟨h.1, h.2.1⟩)).post ?_
          rintro rc w
            ⟨⟨writeBuf, locked, hClient⟩, es', hAll, hEnd⟩
          refine
            ⟨⟨writeBuf, locked, c.isPingOutstanding,
              hClient⟩, ?_⟩
          have hOut : ∀ e ∈ es', e.isAnswer :=
            fun e he => isAnswer_of_isOutput (hAll e he)
          rcases hEnd with ⟨_, hEnd⟩ | ⟨_, packet, _, hEnd⟩
          · refine ⟨es' ++ es, ?_, ?_⟩
            · rw [hEnd, hLog, List.append_assoc]
            · intro e he
              rcases List.mem_append.mp he with he | he
              · exact hOut e he
              · exact hNone e he
          · refine ⟨.txPacket packet :: (es' ++ es), ?_, ?_⟩
            · rw [hEnd, hLog, List.cons_append,
                List.append_assoc]
            · intro e he
              rcases List.mem_cons.mp he with rfl | he
              · exact ⟨rfl, rfl⟩
              rcases List.mem_append.mp he with he | he
              · exact hOut e he
              · exact hNone e he

/- The dispatch of a packet disturbs nothing else. -/
theorem dispatchPacket_dispatched
    (hSingle : port.threadSupport = false)
    (hCb :
      Calm (Contract.plain (Sys E) Event) (fun _ => True)
        callback)
    (fuel : Nat)
    (timer : TimerName)
    (type : UInt8)
    (c : Client)
    (l : List Event) :
    Triple (Contract.plain (Sys E) Event)
      (fun w : Run E => w.st.client = c ∧ w.log = l)
      (dispatchPacket port fuel callback timer type)
      (fun _ => Dispatched c l) := by
  have hSame :
      ∀ w : Run E, w.st.client = c ∧ w.log = l →
        Dispatched c l w :=
    fun w h => Dispatched.refl h.1 h.2
  unfold dispatchPacket
  split
  case h_5 =>
    exact
      handlePublish_dispatched hSingle hCb fuel timer c l
  case h_8 =>
    refine Triple.bind
      (M := fun _ w =>
        w.st.client = { c with isPingOutstanding := false } ∧
          w.log = l)
      (Triple.modify ?_) ?_
    · rintro w ⟨rfl, rfl⟩
      exact ⟨rfl, rfl⟩
    intro _
    refine Triple.seq (Triple.read (fun _ h => h)) ?_
    intro c'
    refine Triple.seq (Triple.modify (fun _ h => h)) ?_
    intro _
    refine Triple.ret ?_
    rintro w ⟨hClient, rfl⟩
    exact
      ⟨⟨c.writeBuf, c.locked, false, hClient⟩, [], rfl,
        noEvents⟩
  all_goals exact Triple.ret hSame

end Mqtt

end TrustOnboard

------------------------------------------------------------
-- One Cycle
------------------------------------------------------------

namespace TrustOnboard

namespace Mqtt

variable {E : Type}
variable {port : Port E}
variable {callback : Callback E}

/- Only buffers, mutexes and the ping flag changed. -/
def Touched (c c' : Client) : Prop :=
  ∃ readBuf writeBuf locked ping,
    c' =
      { c with
        readBuf := readBuf
        writeBuf := writeBuf
        locked := locked
        isPingOutstanding := ping }

theorem Touched.refl (c : Client) : Touched c c :=
  ⟨c.readBuf, c.writeBuf, c.locked, c.isPingOutstanding,
    rfl⟩

theorem Touched.trans
    {c c' c'' : Client}
    (hFirst : Touched c c')
    (hSecond : Touched c' c'') :
    Touched c c'' := by
  rcases hFirst with ⟨_, _, _, _, rfl⟩
  rcases hSecond with
    ⟨readBuf, writeBuf, locked, ping, rfl⟩
  exact ⟨readBuf, writeBuf, locked, ping, rfl⟩

theorem touched_of_resent
    {c c' : Client}
    (hResent : Resent c c') :
    Touched c c' := by
  rcases hResent with ⟨writeBuf, locked, rfl⟩
  exact
    ⟨c.readBuf, writeBuf, locked, c.isPingOutstanding, rfl⟩

theorem Dispatched.touched
    {c : Client}
    {l : List Event}
    {w : Run E}
    (hSame : Dispatched c l w) :
    Touched c w.st.client := by
  rcases hSame.client with
    ⟨writeBuf, locked, ping, hClient⟩
  exact ⟨c.readBuf, writeBuf, locked, ping, hClient⟩

/- The acknowledgements a call can wait for. -/
def MessageType.isAck : MessageType → Bool
  | .connack => true
  | .puback => true
  | .suback => true
  | .unsuback => true
  | _ => false

/- Acknowledgements are left to the call that waits. -/
theorem dispatchPacket_ack
    {ack : MessageType}
    (hAck : ack.isAck = true)
    (fuel : Nat)
    (timer : TimerName) :
    dispatchPacket port fuel callback timer ack.nibble =
      pure .success := by
  cases ack <;> first | rfl | cases hAck

/- How a cycle ends that reads no packet of a type. -/
structure Passed
    (ack : MessageType)
    (c : Client)
    (l : List Event)
    (w : Run E) : Prop where
  client : Touched c w.st.client
  events :
    ∃ es,
      w.log = es ++ l ∧ packetsRead ack es = [] ∧
        ∀ e ∈ es, e.isTraffic = true

/-
  How a cycle ends that reads an acknowledgement: it is the
  newest event and stands in the receive buffer.
-/
structure AckRead
    (ack : MessageType)
    (c : Client)
    (l : List Event)
    (w : Run E) : Prop where
  client : Touched c w.st.client
  packet :
    ∃ header body reads,
      headerType header = ack.nibble ∧
        Stored w.st.client.readBuf header body ∧
          w.log =
            .rxPacket
                (header :: (lengthField body ++ body)) ::
              (reads ++ l) ∧
            ∀ e ∈ reads,
              e.isReceive = true ∧ e.isPacketRead = false

theorem isTraffic_of_isReceive
    {e : Event}
    (hReceive : e.isReceive = true) :
    e.isTraffic = true := by
  unfold Event.isTraffic
  split
  · rfl
  · rfl
  · rw [hReceive, Bool.true_or]

theorem packetsRead_of_none
    (type : MessageType)
    {es : List Event}
    (hNone : ∀ e ∈ es, e.isPacketRead = false) :
    packetsRead type es = [] := by
  induction es with
  | nil => rfl
  | cons e es ih =>
      have hOther : ∀ packet, e ≠ .rxPacket packet := by
        rintro packet rfl
        cases hNone _ (List.mem_cons_self ..)
      rw [packetsRead_cons hOther]
      exact
        ih (fun e' he' => hNone e' (List.mem_cons_of_mem _ he'))

/- One cycle, by whether it reads an acknowledgement. -/
theorem cycleRead_outcome
    (hSingle : port.threadSupport = false)
    (hCb :
      Calm (Contract.plain (Sys E) Event) (fun _ => True)
        callback)
    {ack : MessageType}
    (hAck : ack.isAck = true)
    (fuel : Nat)
    (timer : TimerName)
    (c : Client)
    (l : List Event) :
    Triple (Contract.plain (Sys E) Event)
      (fun w : Run E => w.st.client = c ∧ w.log = l)
      (cycleRead port fuel callback timer)
      (fun r w =>
        (r.2 ≠ some ack.nibble ∧ Passed ack c l w) ∨
          (r = (.success, some ack.nibble) ∧
            AckRead ack c l w)) := by
  rintro w ⟨rfl, rfl⟩
  rw [cycleRead_single hSingle, Prog.run_bind]
  cases hRead : (readPacket port fuel).run w with
  | mk result w₁ =>
      cases result with
      | none => exact Or.inr trivial
      | some r =>
          have hOutcome := readPacket_outcome hRead
          have hClient : Touched w.st.client w₁.st.client := by
            rcases hOutcome.client with ⟨readBuf, hClient⟩
            exact
              ⟨readBuf, w.st.client.writeBuf,
                w.st.client.locked,
                w.st.client.isPingOutstanding, hClient⟩
          rcases hOutcome.events with
            ⟨es, hLog, hReceive, _, hEnd⟩
          rcases hEnd with ⟨hNone, hRc, hNoPacket⟩ | hEnd
          · have hPassed :
                Passed ack w.st.client w.log w₁ :=
              ⟨hClient, es, hLog,
                packetsRead_of_none ack hNoPacket,
                fun e he =>
                  isTraffic_of_isReceive (hReceive e he)⟩
            rcases r with ⟨rc, type⟩
            have hType : type = none := hNone
            subst hType
            dsimp only
            split
            · exact Or.inr (Or.inl ⟨nofun, hPassed⟩)
            · exact Or.inr (Or.inl ⟨nofun, hPassed⟩)
          · rcases hEnd with
              ⟨header, body, older, rfl, hStored, _, rfl,
                hOlder⟩
            dsimp only
            rw [if_neg (by decide),
              if_neg (not_not.mpr rfl)]
            by_cases hType :
                headerType header = ack.nibble
            · rw [hType, dispatchPacket_ack hAck]
              refine Or.inr (Or.inr ⟨rfl, hClient, ?_⟩)
              refine
                ⟨header, body, older, hType, hStored, hLog,
                  ?_⟩
              intro e he
              exact
                ⟨hReceive e (List.mem_cons_of_mem _ he),
                  hOlder e he⟩
            · refine
                ((dispatchPacket_dispatched hSingle hCb fuel
                  timer (headerType header) w₁.st.client
                  w₁.log).bind
                    (R := fun
                        (r : IoTError × Option UInt8) w' =>
                      (r.2 ≠ some ack.nibble ∧
                        Passed ack w.st.client w.log w') ∨
                      (r = (.success, some ack.nibble) ∧
                        AckRead ack w.st.client w.log w'))
                    ?_) w₁ ⟨rfl, rfl⟩
              intro rc
              refine Triple.ret ?_
              intro w' hSame
              refine
                Or.inl
                  ⟨fun hNo => hType (Option.some.inj hNo),
                    hClient.trans hSame.touched, ?_⟩
              rcases hSame.events with ⟨es', hLog', hNone⟩
              refine
                ⟨es' ++
                  .rxPacket
                      (header :: (lengthField body ++ body)) ::
                    older, ?_, ?_, ?_⟩
              · rw [hLog', hLog, List.append_assoc]
              · rw [packetsRead_append,
                  packetsRead_of_none ack
                    (fun e he => (hNone e he).2),
                  List.nil_append, packetsRead]
                refine (if_neg hType).trans ?_
                exact packetsRead_of_none ack hOlder
              · intro e he
                rcases List.mem_append.mp he with he | he
                · exact (hNone e he).1
                · exact isTraffic_of_isReceive (hReceive e he)

end Mqtt

end TrustOnboard

------------------------------------------------------------
-- Waiting
------------------------------------------------------------

namespace TrustOnboard

namespace Mqtt

variable {E : Type}
variable {port : Port E}
variable {callback : Callback E}

/-
  How a wait ends that succeeds: its last cycle was begun
  when the timer had not run out, and read the first packet
  of the awaited type.
-/
structure WaitEnded
    (ack : MessageType)
    (timer : TimerName)
    (c : Client)
    (l : List Event)
    (w : Run E) : Prop where
  client : Touched c w.st.client
  packet :
    ∃ header body reads es,
      headerType header = ack.nibble ∧
        Stored w.st.client.readBuf header body ∧
          w.log =
            .rxPacket
                (header :: (lengthField body ++ body)) ::
              (reads ++
                .timerChecked timer false :: (es ++ l)) ∧
            (∀ e ∈ reads,
              e.isReceive = true ∧ e.isPacketRead = false) ∧
              packetsRead ack es = [] ∧
                ∀ e ∈ es, e.isTraffic = true

/- A wait ends with its acknowledgement or without one. -/
theorem waitForRead_outcome
    (hSingle : port.threadSupport = false)
    (hCb :
      Calm (Contract.plain (Sys E) Event) (fun _ => True)
        callback)
    {ack : MessageType}
    (hAck : ack.isAck = true)
    (fuel : Nat)
    (timer : TimerName)
    (c : Client)
    (l : List Event) :
    Triple (Contract.plain (Sys E) Event)
      (fun w : Run E => w.st.client = c ∧ w.log = l)
      (waitForRead port fuel callback ack timer)
      (fun rc w =>
        (rc ≠ .success ∧ Passed ack c l w) ∨
          (rc = .success ∧ WaitEnded ack timer c l w)) := by
  refine
    (Triple.loop
      (fun seen w => seen ≠ ack.nibble ∧ Passed ack c l w)
      (fun _ _ _ => trivial) ?_).pre ?_
  · intro seen
    refine Triple.of_fact ?_
    intro hSeen
    -- the answer of the timer is the newest event
    refine Triple.bind
      (M := fun expired w =>
        ∃ c' es,
          Touched c c' ∧
            (packetsRead ack es = [] ∧
              ∀ e ∈ es, e.isTraffic = true) ∧
              w.st.client = c' ∧
                w.log =
                  .timerChecked timer expired :: (es ++ l))
      (Triple.step ?_) ?_
    · rintro w ⟨hClient, es, hLog, hSince⟩
      refine
        Or.inr ⟨w.st.client, es, hClient, hSince, rfl, ?_⟩
      rw [← hLog]
      rfl
    intro expired
    refine Triple.exists_pre ?_
    intro c'
    refine Triple.exists_pre ?_
    intro es
    refine Triple.of_fact ?_
    intro hTouched
    refine Triple.of_fact ?_
    rintro ⟨hNone, hAll⟩
    have hPassed :
        ∀ (e : Event) (w : Run E),
          e.isAnswer → Passed ack c' (e :: (es ++ l)) w →
            Passed ack c l w := by
      rintro e w hAnswer ⟨hClient, es', hLog, hNone', hAll'⟩
      refine
        ⟨hTouched.trans hClient, es' ++ e :: es, ?_, ?_, ?_⟩
      · rw [hLog, List.append_assoc, List.cons_append]
      · rw [packetsRead_append, hNone', List.nil_append,
          packetsRead_cons, hNone]
        rintro packet rfl
        cases hAnswer.2
      · intro e' he'
        rcases List.mem_append.mp he' with he' | he'
        · exact hAll' e' he'
        rcases List.mem_cons.mp he' with rfl | he'
        · exact hAnswer.1
        · exact hAll e' he'
    cases expired with
    | true =>
        refine Triple.ret ?_
        rintro w ⟨hClient, hLog⟩
        refine Or.inl ⟨by decide, ?_⟩
        refine
          hPassed (.timerChecked timer true) w ⟨rfl, rfl⟩ ?_
        rw [← hClient]
        exact ⟨Touched.refl _, [], hLog, rfl, noEvents⟩
    | false =>
        refine
          (cycleRead_outcome hSingle hCb hAck fuel timer c'
            (.timerChecked timer false :: (es ++ l))).bind ?_
        rintro ⟨rc, type⟩
        dsimp only
        refine Triple.ite ?_ ?_
        · rintro rfl
          refine Triple.ret ?_
          rintro w (⟨_, hEnd⟩ | ⟨hNo, _⟩)
          · exact Or.inl ⟨by decide, hPassed _ w ⟨rfl, rfl⟩ hEnd⟩
          · cases hNo
        intro _
        refine Triple.ite ?_ ?_
        · intro hType
          refine Triple.ret ?_
          rintro w (⟨hOther, _⟩ | ⟨hEq, hEnd⟩)
          · cases type with
            | none => exact absurd hType hSeen
            | some type =>
                exact absurd (congrArg some hType) hOther
          · cases hEq
            rcases hEnd.packet with
              ⟨header, body, reads, hHeader, hStored, hLog,
                hReads⟩
            exact
              Or.inr
                ⟨rfl, hTouched.trans hEnd.client, header,
                  body, reads, es, hHeader, hStored, hLog,
                  hReads, hNone, hAll⟩
        · intro hType
          refine Triple.ret ?_
          rintro w (⟨hOther, hEnd⟩ | ⟨hEq, _⟩)
          · exact ⟨hType, hPassed _ w ⟨rfl, rfl⟩ hEnd⟩
          · cases hEq
            exact absurd rfl hType
  · rintro w ⟨hClient, hLog⟩
    refine
      ⟨nibble_ne_zero ack, ?_, [], hLog, rfl, noEvents⟩
    rw [← hClient]
    exact Touched.refl _

end Mqtt

end TrustOnboard
