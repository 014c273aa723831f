import TrustOnboard.Mqtt.Slices
import TrustOnboard.Mqtt.Wire

/-
  The messages that handlers see when callbacks call the
  interface themselves.

  Topic and payload are slices of the receive buffer.  A call
  a callback makes may read further packets into the buffer,
  and the handlers called afterwards for the same message
  find those packets in their slices.  The identifier is in a
  local variable that the handlers have a pointer to, and a
  publish that is given the pointer stores its own there.

  Key definitions include:
    * `Intact`
    * `Undisturbed`

  Key results include:
    * `intact_iff_undisturbed`
    * `delivery_iff_undisturbed`
-/

------------------------------------------------------------
-- Turns Of The Delivery Loop
------------------------------------------------------------

namespace TrustOnboard

namespace Mqtt

variable {E : Type}
variable {callback : Callback E}
variable {msg : Message}
variable {w : Run E}

/- The world before the turn of slot `itr`. -/
def Turn
    (callback : Callback E)
    (msg : Message)
    (w : Run E)
    (itr : Nat)
    (wc : Run E) : Prop :=
  (Prog.each (deliverToSlot callback msg)
    (List.range itr)).run w = (some (), wc)

/- The world before a turn is determined. -/
theorem Turn.unique
    {itr : Nat}
    {wc wc' : Run E}
    (hLeft : Turn callback msg w itr wc)
    (hRight : Turn callback msg w itr wc') :
    wc = wc' := by
  unfold Turn at hLeft hRight
  rw [hLeft] at hRight
  exact (Prod.mk.inj hRight).2

theorem Turn.succ
    {itr : Nat}
    {wc wc' : Run E}
    (hTurn : Turn callback msg w itr wc)
    (hRun :
      (deliverToSlot callback msg itr).run wc =
        (some (), wc')) :
    Turn callback msg w (itr + 1) wc' := by
  unfold Turn at hTurn ⊢
  rw [List.range_succ, Prog.run_each_append,
    Prog.run_bind_of_run hTurn]
  change
    (deliverToSlot callback msg itr >>= fun _ =>
      pure ()).run wc = _
  rw [Prog.run_bind_of_run hRun]
  rfl

/- Before a turn came all earlier ones. -/
theorem Turn.earlier
    {itr next : Nat}
    {wn : Run E}
    (hTurn : Turn callback msg w next wn)
    (hLe : itr ≤ next) :
    ∃ wc, Turn callback msg w itr wc := by
  rcases Nat.exists_eq_add_of_le hLe with ⟨k, rfl⟩
  unfold Turn at hTurn
  rw [List.range_add] at hTurn
  rcases Prog.run_each_take hTurn with ⟨wc, hFirst, _⟩
  exact ⟨wc, hFirst⟩

/- A turn that was completed. -/
theorem Turn.step
    {itr next : Nat}
    {wc wn : Run E}
    (hTurn : Turn callback msg w itr wc)
    (hNext : Turn callback msg w next wn)
    (hLt : itr < next) :
    ∃ wc',
      (deliverToSlot callback msg itr).run wc =
          (some (), wc') ∧
        Turn callback msg w (itr + 1) wc' := by
  have hLe : itr + 1 ≤ next := by
    omega
  rcases hNext.earlier hLe with ⟨wc', hSucc⟩
  refine ⟨wc', ?_, hSucc⟩
  have hSplit := hSucc
  unfold Turn at hSplit hTurn
  rw [List.range_succ, Prog.run_each_append,
    Prog.run_bind_of_run hTurn] at hSplit
  change
    (deliverToSlot callback msg itr >>= fun _ =>
      pure ()).run wc = _ at hSplit
  rw [Prog.run_bind] at hSplit
  cases hRun : (deliverToSlot callback msg itr).run wc with
  | mk result w' =>
      rw [hRun] at hSplit
      cases result with
      | none => cases hSplit
      | some _ =>
          cases hSplit
          rfl

/- In its turn a slot calls its handler or does nothing. -/
theorem called_or_same
    {itr : Nat}
    (hSlot : itr < w.st.client.messageHandlers.length)
    {wc : Run E}
    (hTurn : Turn callback msg w itr wc) :
    (∃ handler data seen,
      Called callback msg w itr wc handler data seen) ∨
    (deliverToSlot callback msg itr).run wc =
      (some (), wc) := by
  have hRead :
      (getClient : Code E Client).run wc =
        (some wc.st.client, wc) := rfl
  unfold deliverToSlot
  rw [Prog.run_bind_of_run hRead]
  dsimp only
  split
  case h_1 => exact Or.inr rfl
  case h_2 slot hGet =>
    split
    case isFalse => exact Or.inr rfl
    case isTrue hAccepts =>
      split
      case h_1 => exact Or.inr rfl
      case h_2 handler hHandler =>
        left
        exact
          ⟨handler, slot.pApplicationHandlerData, _, hSlot,
            hTurn, rfl, slot, hGet, hAccepts, hHandler, rfl⟩

end Mqtt

end TrustOnboard

------------------------------------------------------------
-- Slices That Stay
------------------------------------------------------------

namespace TrustOnboard

namespace Mqtt

variable {E : Type}
variable {callback : Callback E}
variable {msg : Message}
variable {w : Run E}

/- Topic and payload as a handler would see them now. -/
def Message.slices
    (m : Message)
    (c : Client) : Bytes × Bytes :=
  ((c.sees m).topic, (c.sees m).payload)

/- Every handler called sees the message itself. -/
def Intact
    (callback : Callback E)
    (msg : Message)
    (w : Run E) : Prop :=
  ∀ itr wc handler data seen,
    Called callback msg w itr wc handler data seen →
      seen.topic = msg.topic ∧ seen.payload = msg.payload

/-
  No callback that is followed by another one for the same
  message leaves the slices of the message changed.
-/
def Undisturbed
    (callback : Callback E)
    (msg : Message)
    (w : Run E) : Prop :=
  ∀ itr wc handler data seen wc' next wn handler' data'
      seen',
    Called callback msg w itr wc handler data seen →
    Called callback msg w next wn handler' data' seen' →
    itr < next →
    (callback handler data seen).run
        ⟨wc.st, .deliver itr handler data seen :: wc.log⟩ =
      (some (), wc') →
    msg.slices wc'.st.client = msg.slices wc.st.client

/- A handler sees the slices of its turn. -/
theorem Called.slices
    {itr : Nat}
    {wc : Run E}
    {handler : HandlerId}
    {data : Nat}
    {seen : Message}
    (hCalled :
      Called callback msg w itr wc handler data seen) :
    (seen.topic, seen.payload) = msg.slices wc.st.client := by
  rw [hCalled.seen_eq]
  rfl

theorem Intact.slices
    (hIntact : Intact callback msg w)
    {itr : Nat}
    {wc : Run E}
    {handler : HandlerId}
    {data : Nat}
    {seen : Message}
    (hCalled :
      Called callback msg w itr wc handler data seen) :
    msg.slices wc.st.client = (msg.topic, msg.payload) := by
  rw [← hCalled.slices]
  rcases hIntact _ _ _ _ _ hCalled with ⟨hTopic, hPayload⟩
  rw [hTopic, hPayload]

/-
  Before an intact call the slices are intact at every turn.
  The induction is on the number of turns up to the call.
-/
theorem Intact.before
    (hIntact : Intact callback msg w)
    {next : Nat}
    {wn : Run E}
    {handler : HandlerId}
    {data : Nat}
    {seen : Message}
    (hCalled :
      Called callback msg w next wn handler data seen)
    (k : Nat)
    {itr : Nat}
    {wc : Run E}
    (hTurn : Turn callback msg w itr wc)
    (hSum : itr + k = next) :
    msg.slices wc.st.client = (msg.topic, msg.payload) := by
  induction k generalizing itr wc with
  | zero =>
      have hSame : itr = next := by
        omega
      subst hSame
      rw [hTurn.unique hCalled.before]
      exact hIntact.slices hCalled
  | succ k ih =>
      have hSlot := hCalled.slot_lt
      rcases called_or_same (by omega) hTurn with
        ⟨_, _, _, hHere⟩ | hSame
      · exact hIntact.slices hHere
      · exact ih (hTurn.succ hSame) (by omega)

/- Undisturbed slices are those of the start. -/
theorem Undisturbed.before
    (hQuiet : Undisturbed callback msg w)
    {next : Nat}
    {wn : Run E}
    {handler : HandlerId}
    {data : Nat}
    {seen : Message}
    (hCalled :
      Called callback msg w next wn handler data seen)
    {itr : Nat}
    {wc : Run E}
    (hTurn : Turn callback msg w itr wc)
    (hLe : itr ≤ next) :
    msg.slices wc.st.client = msg.slices w.st.client := by
  induction itr generalizing wc with
  | zero =>
      have hStart : wc = w := by
        cases hTurn
        rfl
      rw [hStart]
  | succ itr ih =>
      have hNext : Turn callback msg w next wn :=
        hCalled.before
      have hSlot := hCalled.slot_lt
      rcases hNext.earlier (by omega : itr ≤ next) with
        ⟨wp, hBefore⟩
      rcases hBefore.step hNext (by omega) with
        ⟨wc', hRun, hSucc⟩
      rw [hTurn.unique hSucc, ← ih hBefore (by omega)]
      rcases called_or_same (by omega) hBefore with
        ⟨_, _, _, hHere⟩ | hSame
      · rw [hHere.turn] at hRun
        exact
          hQuiet _ _ _ _ _ _ _ _ _ _ _ hHere hCalled
            (by omega) hRun
      · rw [hSame] at hRun
        cases hRun
        rfl

/-
  The handlers called for a message all see it exactly when
  the callbacks before the last one leave its slices alone.
-/
theorem intact_iff_undisturbed
    (hStart :
      msg.slices w.st.client = (msg.topic, msg.payload)) :
    Intact callback msg w ↔ Undisturbed callback msg w := by
  constructor
  · intro hIntact itr wc handler data seen wc' next wn
      handler' data' seen' hHere hThere hLt hRun
    have hTurn : Turn callback msg w itr wc := hHere.before
    have hDone :
        (deliverToSlot callback msg itr).run wc =
          (some (), wc') := by
      rw [hHere.turn, hRun]
    rw [hIntact.slices hHere,
      hIntact.before hThere (next - (itr + 1))
        (hTurn.succ hDone) (by omega)]
  · intro hQuiet itr wc handler data seen hCalled
    have hSlices :=
      hQuiet.before hCalled hCalled.before (Nat.le_refl _)
    rw [← hCalled.slices, hStart] at hSlices
    exact Prod.mk.inj hSlices

end Mqtt

end TrustOnboard

------------------------------------------------------------
-- Delivery And Acknowledgement
------------------------------------------------------------

namespace TrustOnboard

namespace Mqtt

variable {E : Type}
variable {port : Port E}
variable {callback : Callback E}
variable {msg : Message}

/- The client has moved to the state of callbacks. -/
def entered (w : Run E) : Run E where
  st :=
    { w.st with
      client :=
        { w.st.client with
          clientState := .connectedWaitForCbReturn } }
  log :=
    .setState w.st.client.clientState
      .connectedWaitForCbReturn w.st.client.clientState ::
        w.log

/- The client has moved back from the state of callbacks. -/
def restored (s : ClientState) (w : Run E) : Run E where
  st :=
    { w.st with
      client := { w.st.client with clientState := s } }
  log :=
    .setState .connectedWaitForCbReturn s
      .connectedWaitForCbReturn :: w.log

/- The parameters of the message are done with. -/
def ended (w : Run E) : Run E where
  st :=
    { w.st with
      client :=
        { w.st.client with
          messageParams := w.st.client.messageParams.tail } }
  log := w.log

/- The PUBACK of a message is the last thing that was sent. -/
def Acked (id : UInt16) (w : Run E) : Prop :=
  ∃ l, w.log = .txPacket (pubackPacket id) :: l

/-
  The callbacks have left the client in their state and the
  message with its identifier, and the timer and the network
  let the PUBACK out.
-/
def AckGoesOut
    (port : Port E)
    (fuel : Nat)
    (callback : Callback E)
    (timer : TimerName)
    (msg : Message)
    (w : Run E)
    (id : UInt16) : Prop :=
  ∃ w₁ w₂,
    Turn callback msg (entered (begun msg w))
        w.st.client.messageHandlers.length w₁ ∧
      w₁.st.client.clientState = .connectedWaitForCbReturn ∧
      (w₁.st.client.sees msg).params.ackId = some id ∧
      (sendSerialized port fuel timer (fun c =>
        serializeAck c.writeBufSize .puback 0 id)).run
          (ended (restored w.st.client.clientState w₁)) =
        (some .success, w₂)

theorem restore_run
    {s : ClientState}
    {w : Run E}
    (hStay :
      w.st.client.clientState = .connectedWaitForCbReturn) :
    (compareAndSetState .connectedWaitForCbReturn s).run w =
      (some .success, restored s w) := by
  simp [compareAndSetState, restored, hStay]

theorem restore_run_of_ne
    {s : ClientState}
    {w : Run E}
    (hMoved :
      w.st.client.clientState ≠ .connectedWaitForCbReturn) :
    (compareAndSetState .connectedWaitForCbReturn s).run w =
      (some .mqttUnexpectedClientStateError,
        ⟨w.st,
          .setState .connectedWaitForCbReturn s
            w.st.client.clientState :: w.log⟩) := by
  simp [compareAndSetState, hMoved.symm]

/- A decoded message refers to the buffer it came from. -/
theorem deserializePublish_buf
    {buf : Buffer}
    {size : Nat}
    (hMsg : deserializePublish buf size = .ok msg) :
    msg.buf = buf := by
  unfold deserializePublish at hMsg
  split at hMsg
  · cases hMsg
  split at hMsg
  · cases hMsg
  split at hMsg
  · cases hMsg
  dsimp only at hMsg
  split at hMsg
  · cases hMsg
  cases hMsg
  rfl

/- A decoded message is what its handlers see at first. -/
theorem slices_begun
    {w : Run E}
    (hMsg :
      deserializePublish w.st.client.readBuf
        w.st.client.readBufSize = .ok msg) :
    msg.slices (entered (begun msg w)).st.client =
      (msg.topic, msg.payload) := by
  have hSees :
      (entered (begun msg w)).st.client.sees msg = msg := by
    rw [Client.sees_of_head rfl]
    change { msg with buf := w.st.client.readBuf } = msg
    rw [← deserializePublish_buf hMsg]
  unfold Message.slices
  rw [hSees]

/- A PUBACK tells its identifier. -/
theorem pubackPacket_injective :
    Function.Injective pubackPacket := by
  intro id id' hEq
  have hIds : writeUint16 id = writeUint16 id' :=
    List.append_cancel_left (List.tail_eq_of_cons_eq hEq)
  have hTaken := takeUint16_written id []
  rw [hIds, takeUint16_written] at hTaken
  exact (Prod.mk.inj (Option.some.inj hTaken)).1.symm

/- The last event is not the end of a send. -/
def NotSending (_ : Frame) (l : List Event) : Prop :=
  ∀ packet l', l ≠ .txPacket packet :: l'

/- A PUBACK that is sent is the last event. -/
theorem acked_iff_sent
    (hSingle : port.threadSupport = false)
    {fuel : Nat}
    {timer : TimerName}
    {id id' : UInt16}
    {w w' : Run E}
    {rc : IoTError}
    (hStart : NotSending w.st.client.frame w.log)
    (hRun :
      (sendSerialized port fuel timer (fun c =>
        serializeAck c.writeBufSize .puback 0 id')).run w =
        (some rc, w')) :
    Acked id w' ↔ id = id' ∧ rc = .success := by
  have hSend :=
    in_sendSerialized_sent
      (C := Contract.plain (Sys E) Event)
      (φ := fun _ => True) (I := NotSending) hSingle
      (fun _ _ => trivial)
      (fun f l e hOutput _ packet l' hEq => by
        cases hEq
        cases hOutput)
      (r := fun c =>
        serializeAck c.writeBufSize .puback 0 id')
      (fun c rc hError => by
        rw [serializeAck_error hError]
        decide)
      fuel timer
  rcases hSend.of_run ⟨trivial, hStart⟩ hRun with
    hNo | ⟨hRc, hIn⟩ | ⟨hRc, c, packet, hEnc, hIn⟩
  · exact hNo.elim
  · constructor
    · rintro ⟨l, hLog⟩
      exact absurd hLog (hIn.2 _ _)
    · rintro ⟨_, hYes⟩
      exact absurd hYes hRc
  · rcases hIn.2 with ⟨l', hLog, _⟩
    rw [serializeAck_puback hEnc] at hLog
    constructor
    · rintro ⟨l, hAcked⟩
      rw [hLog] at hAcked
      cases hPacket :
          pubackPacket_injective
            (Event.txPacket.inj (List.cons.inj hAcked).1)
      exact ⟨rfl, hRc⟩
    · rintro ⟨rfl, _⟩
      exact ⟨l', hLog⟩

/- The delivery of a message without threads. -/
theorem deliverMessage_run
    (hSingle : port.threadSupport = false)
    {w w' : Run E}
    {rc : IoTError}
    (hRun :
      (deliverMessage port callback msg).run w =
        (some rc, w')) :
    ∃ w₁,
      Turn callback msg (entered w)
          w.st.client.messageHandlers.length w₁ ∧
        (compareAndSetState .connectedWaitForCbReturn
          w.st.client.clientState).run w₁ = (some rc, w') := by
  have hState :
      (getClientState : Code E ClientState).run w =
        (some w.st.client.clientState, w) := rfl
  have hEnter :
      (compareAndSetState w.st.client.clientState
        .connectedWaitForCbReturn).run w =
        (some .success, entered w) := by
    simp [compareAndSetState, entered]
  have hClient :
      (getClient : Code E Client).run (entered w) =
        (some (entered w).st.client, entered w) := rfl
  unfold deliverMessage at hRun
  rw [Prog.run_bind_of_run hState,
    setClientState_single hSingle,
    Prog.run_bind_of_run hEnter,
    Prog.run_bind_of_run hClient, Prog.run_bind] at hRun
  cases hLoop :
      (Prog.each (deliverToSlot callback msg)
        (List.range
          (entered w).st.client.messageHandlers.length)).run
        (entered w) with
  | mk result w₁ =>
      rw [hLoop] at hRun
      cases result with
      | none => cases hRun
      | some _ =>
          rw [setClientState_single hSingle] at hRun
          exact ⟨w₁, hLoop, hRun⟩

/- The handling of a message without threads. -/
theorem handlePublish_run
    (hSingle : port.threadSupport = false)
    {fuel : Nat}
    {timer : TimerName}
    {w w' : Run E}
    {rc : IoTError}
    (hMsg :
      deserializePublish w.st.client.readBuf
        w.st.client.readBufSize = .ok msg)
    (hRun :
      (handlePublish port fuel callback timer).run w =
        (some rc, w')) :
    ∃ w₁ rc₁ w₂,
      Turn callback msg (entered (begun msg w))
          w.st.client.messageHandlers.length w₁ ∧
        (compareAndSetState .connectedWaitForCbReturn
          w.st.client.clientState).run w₁ = (some rc₁, w₂) ∧
        (if rc₁ ≠ .success then pure rc₁
          else
            match (w₂.st.client.sees msg).params.ackId with
            | none => pure .success
            | some id =>
                sendSerialized port fuel timer (fun c =>
                  serializeAck c.writeBufSize .puback 0
                    id) : Code E IoTError).run (ended w₂) =
          (some rc, w') := by
  have hClient :
      (getClient : Code E Client).run w =
        (some w.st.client, w) := rfl
  have hBegin :
      (modifyMessages (fun messages =>
        msg.params :: messages) : Code E Unit).run w =
        (some (), begun msg w) := rfl
  unfold handlePublish at hRun
  rw [Prog.run_bind_of_run hClient, hMsg] at hRun
  dsimp only at hRun
  rw [Prog.run_bind_of_run hBegin, Prog.run_bind] at hRun
  cases hDeliver :
      (deliverMessage port callback msg).run
        (begun msg w) with
  | mk result w₂ =>
      rw [hDeliver] at hRun
      cases result with
      | none => cases hRun
      | some rc₁ =>
          rcases deliverMessage_run hSingle hDeliver with
            ⟨w₁, hTurn, hBack⟩
          have hSeen :
              (getClient : Code E Client).run w₂ =
                (some w₂.st.client, w₂) := rfl
          have hEnd :
              (modifyMessages List.tail : Code E Unit).run
                  w₂ = (some (), ended w₂) := rfl
          dsimp only at hRun
          rw [Prog.run_bind_of_run hSeen,
            Prog.run_bind_of_run hEnd] at hRun
          exact ⟨w₁, rc₁, w₂, hTurn, hBack, hRun⟩

/-
  Handling a message: the PUBACK of an identifier is sent
  exactly when the callbacks, the timer and the network let
  it out.
-/
theorem acked_iff_goesOut
    (hSingle : port.threadSupport = false)
    {fuel : Nat}
    {timer : TimerName}
    {w w' : Run E}
    {rc : IoTError}
    {id : UInt16}
    (hMsg :
      deserializePublish w.st.client.readBuf
        w.st.client.readBufSize = .ok msg)
    (hRun :
      (handlePublish port fuel callback timer).run w =
        (some rc, w')) :
    Acked id w' ↔
      AckGoesOut port fuel callback timer msg w id := by
  rcases handlePublish_run hSingle hMsg hRun with
    ⟨w₁, rc₁, w₂, hTurn, hBack, hFinish⟩
  by_cases hStay :
      w₁.st.client.clientState = .connectedWaitForCbReturn
  · rw [restore_run hStay] at hBack
    cases hBack
    rw [if_neg (by simp)] at hFinish
    have hSame :
        ((restored w.st.client.clientState
          w₁).st.client.sees msg).params.ackId =
          (w₁.st.client.sees msg).params.ackId := rfl
    rw [hSame] at hFinish
    cases hAck :
        (w₁.st.client.sees msg).params.ackId with
    | none =>
        rw [hAck] at hFinish
        cases hFinish
        refine iff_of_false ?_ ?_
        · rintro ⟨l, hLog⟩
          cases hLog
        · rintro ⟨w₁', _, hTurn', _, hAck', _⟩
          rw [hTurn'.unique hTurn, hAck] at hAck'
          cases hAck'
    | some id' =>
        rw [hAck] at hFinish
        dsimp only at hFinish
        rw [acked_iff_sent hSingle
          (fun packet l' hEq => by cases hEq) hFinish]
        constructor
        · rintro ⟨rfl, rfl⟩
          exact ⟨w₁, w', hTurn, hStay, hAck, hFinish⟩
        · rintro ⟨w₁', w₃, hTurn', _, hAck', hSent⟩
          rw [hTurn'.unique hTurn] at hAck' hSent
          rw [hAck] at hAck'
          cases hAck'
          rw [hFinish] at hSent
          cases hSent
          exact ⟨rfl, rfl⟩
  · rw [restore_run_of_ne hStay] at hBack
    cases hBack
    rw [if_pos (by decide)] at hFinish
    cases hFinish
    refine iff_of_false ?_ ?_
    · rintro ⟨l, hLog⟩
      cases hLog
    · rintro ⟨w₁', _, hTurn', hStay', _⟩
      rw [hTurn'.unique hTurn] at hStay'
      exact hStay hStay'

/-
  A decoded PUBLISH reaches every handler that is called for
  it as it came, and is acknowledged under its own identifier
  if it has one, exactly when the callbacks before the last
  one leave its slices alone and the PUBACK is let out.
-/
theorem delivery_iff_undisturbed
    (hSingle : port.threadSupport = false)
    {fuel : Nat}
    {timer : TimerName}
    {w w' : Run E}
    {rc : IoTError}
    (hMsg :
      deserializePublish w.st.client.readBuf
        w.st.client.readBufSize = .ok msg)
    (hRun :
      (handlePublish port fuel callback timer).run w =
        (some rc, w')) :
    (Intact callback msg (entered (begun msg w)) ∧
        ∀ id, msg.id = some id → Acked id w') ↔
      (Undisturbed callback msg (entered (begun msg w)) ∧
        ∀ id, msg.id = some id →
          AckGoesOut port fuel callback timer msg w id) := by
  have hStart := slices_begun hMsg
  constructor
  · rintro ⟨hIntact, hAcked⟩
    refine ⟨(intact_iff_undisturbed hStart).mp hIntact, ?_⟩
    intro id hId
    exact
      (acked_iff_goesOut hSingle hMsg hRun).mp
        (hAcked id hId)
  · rintro ⟨hQuiet, hOut⟩
    refine ⟨(intact_iff_undisturbed hStart).mpr hQuiet, ?_⟩
    intro id hId
    exact
      (acked_iff_goesOut hSingle hMsg hRun).mpr
        (hOut id hId)

/- The calls of the scripted callbacks. -/
abbrev scriptCallback : Callback Script :=
  runCallback scriptPort (api scriptPort 6 true)

/-
  Two handlers of one topic, and a message for them with more
  bytes behind it.
-/
def twoHandlers
    (packets : Bytes)
    (callbacks : List (List ApiCall)) : Run Script :=
  scriptStart
    (scriptClient .connectedIdle
      [letterSlot 97 lowerA_ne, letterSlot 97 lowerA_ne])
    { Script.idle with
      incoming := [some packets]
      timers := List.replicate 8 false
      callbacks := callbacks }

/- The first message of the stream is in the buffer. -/
def firstRead
    (packets : Bytes)
    (callbacks : List (List ApiCall)) : Run Script :=
  ((readPacket scriptPort 6).run
    (twoHandlers packets callbacks)).2

theorem firstRead_decodes
    (packets : Bytes)
    (callbacks : List (List ApiCall))
    (hOk :
      (deserializePublish
        (firstRead packets callbacks).st.client.readBuf
        (firstRead packets
          callbacks).st.client.readBufSize).isOk = true) :
    ∃ msg,
      deserializePublish
        (firstRead packets callbacks).st.client.readBuf
        (firstRead packets
          callbacks).st.client.readBufSize = .ok msg := by
  cases hRes :
      deserializePublish
        (firstRead packets callbacks).st.client.readBuf
        (firstRead packets
          callbacks).st.client.readBufSize with
  | error rc =>
      rw [hRes] at hOk
      cases hOk
  | ok msg => exact ⟨msg, rfl⟩

/- A message with the identifier 7 for the two handlers. -/
def numberedMessage : Bytes :=
  [50, 6, 0, 1, 97, 0, 7, 33]

theorem delivery_iff_undisturbed_twoHandlers :
    ∃ msg w',
      deserializePublish
          (firstRead numberedMessage []).st.client.readBuf
          (firstRead numberedMessage
            []).st.client.readBufSize = .ok msg ∧
      (handlePublish scriptPort 6 scriptCallback .yield).run
          (firstRead numberedMessage []) =
        (some .success, w') ∧
      ((Intact scriptCallback msg
            (entered
              (begun msg (firstRead numberedMessage []))) ∧
          ∀ id, msg.id = some id → Acked id w') ↔
        (Undisturbed scriptCallback msg
            (entered
              (begun msg (firstRead numberedMessage []))) ∧
          ∀ id, msg.id = some id →
            AckGoesOut scriptPort 6 scriptCallback .yield msg
              (firstRead numberedMessage []) id)) ∧
      Acked 7 w' := by
  rcases firstRead_decodes numberedMessage []
    (by decide +kernel) with ⟨msg, hMsg⟩
  have hRun :=
    Prog.run_of_returns (a := IoTError.success)
      (p := handlePublish scriptPort 6 scriptCallback .yield)
      (w := firstRead numberedMessage [])
      (by decide +kernel)
  exact
    ⟨msg, _, hMsg, hRun,
      delivery_iff_undisturbed rfl hMsg hRun, ⟨_, rfl⟩⟩

/- A callback that publishes with quality of service one. -/
def publishInside : List (List ApiCall) :=
  [[.publish (some (letter 98 lowerB_ne)) 1
    (some
      { qos := .qos1
        isRetained := 0
        id := 0
        payload := some [1] })]]

/-
  Another message for the topic and the awaited PUBACK come
  in while the first handler publishes.  The second handler
  then sees the payload of the other message.
-/
def overwritingPackets : Bytes :=
  publishPacket 97 ++ [48, 4, 0, 1, 97, 34] ++ [64, 2, 0, 2]

theorem nestedPublish_overwrites :
    ∃ msg,
      deserializePublish
          (firstRead overwritingPackets
            publishInside).st.client.readBuf
          (firstRead overwritingPackets
            publishInside).st.client.readBufSize = .ok msg ∧
      ¬ Intact scriptCallback msg
        (entered
          (begun msg
            (firstRead overwritingPackets
              publishInside))) := by
  rcases firstRead_decodes overwritingPackets publishInside
    (by decide +kernel) with ⟨msg, hMsg⟩
  refine ⟨msg, hMsg, ?_⟩
  have hKnown :
      deserializePublish
          (firstRead overwritingPackets
            publishInside).st.client.readBuf
          (firstRead overwritingPackets
            publishInside).st.client.readBufSize =
        .ok (storedMessage
          (firstRead overwritingPackets
            publishInside).st.client.readBuf
          48 [0, 1, 97, 33]) := rfl
  rw [hMsg] at hKnown
  cases hKnown
  intro hIntact
  have hCalled :
      Called scriptCallback
        (storedMessage
          (firstRead overwritingPackets
            publishInside).st.client.readBuf
          48 [0, 1, 97, 33])
        (entered
          (begun
            (storedMessage
              (firstRead overwritingPackets
                publishInside).st.client.readBuf
              48 [0, 1, 97, 33])
            (firstRead overwritingPackets publishInside)))
        1 _ 0 0 _ :=
    { slot_lt := by decide +kernel
      before := Prog.run_of_returns (by decide +kernel)
      seen_eq := rfl
      matched :=
        ⟨letterSlot 97 lowerA_ne, by decide +kernel,
          by decide +kernel, rfl, rfl⟩ }
  have hPayload := (hIntact _ _ _ _ _ hCalled).2
  revert hPayload
  decide +kernel

/- A callback that passes the message on to publish. -/
def forwardInside : List (List ApiCall) :=
  [[.publish (some (letter 98 lowerB_ne)) 1
    (some
      { qos := .qos1
        isRetained := 0
        id := 7
        payload := some [33]
        forwarded :=
          some { depth := 0, ownPayload := false } })]]

/-
  The publish stores its identifier in the message.  The
  PUBACK for the message with the identifier 7 has that one.
-/
def forwardedPackets : Bytes :=
  numberedMessage ++ [64, 2, 0, 2]

example :
    ∃ msg w',
      deserializePublish
          (firstRead forwardedPackets
            forwardInside).st.client.readBuf
          (firstRead forwardedPackets
            forwardInside).st.client.readBufSize = .ok msg ∧
      msg.id = some 7 ∧
      (handlePublish scriptPort 6 scriptCallback .yield).run
          (firstRead forwardedPackets forwardInside) =
        (some .success, w') ∧
      Acked 2 w' := by
  refine
    ⟨_, _, rfl, by decide +kernel,
      Prog.run_of_returns (by decide +kernel), ?_⟩
  exact ⟨_, rfl⟩

end Mqtt

end TrustOnboard
