import TrustOnboard.Mqtt.Busy
import TrustOnboard.Mqtt.Network
import TrustOnboard.Mqtt.Outcome
import TrustOnboard.Mqtt.Script

/-
  The keep-alive discipline.

  A PINGREQ is only sent when the flag for an outstanding
  ping is clear.  The flag is set with every PINGREQ and
  cleared when a PINGRESP was read, when a connect was
  accepted and by init.  A connect clears it on a connection
  that has seen no PINGREQ, because the calls its callbacks
  make find a busy client; init clears it on a client that
  pings again only on a new connection.

  Key definitions include:
    * `unanswered`
    * `pingedTwice`
    * `opened`
    * `KeepsAlive`
    * `Unpinged`

  Key results include:
    * `keepsAlive_steady`
    * `session_opened`
    * `keepAlive_tearsDown`
    * `pinged_once`
-/

------------------------------------------------------------
-- Pings In A Log
------------------------------------------------------------

namespace TrustOnboard

namespace Mqtt

/- A PINGREQ that was sent. -/
def Event.isPingreq : Event → Bool
  | .txPacket packet =>
      packetType packet == MessageType.pingreq.nibble
  | _ => false

/- A PINGRESP that was read. -/
def Event.isPingresp : Event → Bool
  | .rxPacket packet =>
      packetType packet == MessageType.pingresp.nibble
  | _ => false

def Event.isInit : Event → Bool
  | .init => true
  | _ => false

/-
  A PINGREQ was sent on the current connection and no
  PINGRESP read since.  The newest event comes first.
-/
def unanswered : List Event → Bool
  | [] => false
  | e :: l =>
      e.isPingreq ||
        (!e.isPingresp && !e.opensConnection && unanswered l)

/- A PINGREQ was sent while another was unanswered. -/
def pingedTwice : List Event → Bool
  | [] => false
  | e :: l => (e.isPingreq && unanswered l) || pingedTwice l

/- A connection was opened after the last init. -/
def opened : List Event → Bool
  | [] => true
  | e :: l => e.opensConnection || (!e.isInit && opened l)

/- A PINGREQ was sent between init and a new connection. -/
def unopenedPing : List Event → Bool
  | [] => false
  | e :: l => (e.isPingreq && !opened l) || unopenedPing l

theorem unopenedPing_append
    {l : List Event}
    (es : List Event)
    (hBad : unopenedPing l = true) :
    unopenedPing (es ++ l) = true := by
  induction es with
  | nil => exact hBad
  | cons e es ih => simp [unopenedPing, ih]

/- Events that are no PINGREQ. -/
theorem pingedTwice_append
    {es l : List Event}
    (hNone : ∀ e ∈ es, e.isPingreq = false) :
    pingedTwice (es ++ l) = pingedTwice l := by
  induction es with
  | nil => rfl
  | cons e es ih =>
      have hRest :
          ∀ e ∈ es, Event.isPingreq e = false :=
        fun e he => hNone e (List.mem_cons_of_mem _ he)
      simp [pingedTwice, hNone e List.mem_cons_self,
        ih hRest]

/- What is unanswered after such events was so before. -/
theorem unanswered_append
    {es l : List Event}
    (hNone : ∀ e ∈ es, e.isPingreq = false)
    (hWaits : unanswered (es ++ l) = true) :
    unanswered l = true ∧
      (opened (es ++ l) = true → opened l = true) := by
  induction es with
  | nil => exact ⟨hWaits, fun h => h⟩
  | cons e es ih =>
      have hRest :
          ∀ e ∈ es, Event.isPingreq e = false :=
        fun e he => hNone e (List.mem_cons_of_mem _ he)
      simp only [List.cons_append, unanswered,
        hNone e List.mem_cons_self, Bool.false_or,
        Bool.and_eq_true, Bool.not_eq_true'] at hWaits
      rcases hWaits with ⟨⟨_, hOpens⟩, hWaits⟩
      rcases ih hRest hWaits with ⟨hBefore, hOpened⟩
      refine ⟨hBefore, ?_⟩
      intro hNow
      simp only [List.cons_append, opened, hOpens,
        Bool.false_or, Bool.and_eq_true] at hNow
      exact hOpened hNow.2

/- Without a PINGRESP or a new connection a ping waits. -/
theorem unanswered_of_ping
    {newer older : List Event}
    {ping : Event}
    (hPing : ping.isPingreq = true)
    (hOpens :
      ∀ e ∈ newer, e.opensConnection = false)
    (hNone : ∀ e ∈ newer, e.isPingresp = false) :
    unanswered (newer ++ ping :: older) = true := by
  induction newer with
  | nil => simp [unanswered, hPing]
  | cons e newer ih =>
      have hLater :=
        ih (fun e he => hOpens e (List.mem_cons_of_mem _ he))
          (fun e he => hNone e (List.mem_cons_of_mem _ he))
      simp [unanswered, hOpens e List.mem_cons_self,
        hNone e List.mem_cons_self, hLater]

/- The answer to a ping that no longer waits. -/
theorem answer_of_not_unanswered
    {newer older : List Event}
    {ping : Event}
    (hPing : ping.isPingreq = true)
    (hOpens :
      ∀ e ∈ newer, e.opensConnection = false)
    (hAnswered :
      unanswered (newer ++ ping :: older) = false) :
    ∃ e ∈ newer, e.isPingresp = true := by
  by_contra hNo
  have hNone : ∀ e ∈ newer, Event.isPingresp e = false := by
    intro e he
    cases hHere : e.isPingresp with
    | false => rfl
    | true => exact absurd ⟨e, he, hHere⟩ hNo
  rw [unanswered_of_ping hPing hOpens hNone] at hAnswered
  cases hAnswered

/- No ping was sent while the one before it waited. -/
theorem not_unanswered_of_once
    {newer older : List Event}
    {ping : Event}
    (hPing : ping.isPingreq = true)
    (hOnce : pingedTwice (newer ++ ping :: older) = false) :
    unanswered older = false := by
  induction newer with
  | nil =>
      simp only [List.nil_append, pingedTwice, hPing,
        Bool.true_and, Bool.or_eq_false_iff] at hOnce
      exact hOnce.1
  | cons e newer ih =>
      simp only [List.cons_append, pingedTwice,
        Bool.or_eq_false_iff] at hOnce
      exact ih hOnce.2

theorem isPingreq_of_aside
    {e : Event}
    (hAside : e.aside = true) :
    e.isPingreq = false := by
  cases e <;> first | rfl | cases hAside

theorem isPingreq_of_isReceive
    {e : Event}
    (hReceive : e.isReceive = true) :
    e.isPingreq = false := by
  cases e <;> first | rfl | cases hReceive

theorem isPingreq_of_isOutputOf
    {timer : TimerName}
    {e : Event}
    (hOutput : e.isOutputOf timer = true) :
    e.isPingreq = false := by
  cases e <;> first | rfl | cases hOutput

end Mqtt

end TrustOnboard

------------------------------------------------------------
-- Steps Without A Ping
------------------------------------------------------------

namespace TrustOnboard

namespace Mqtt

variable {E : Type}
variable {port : Port E}

/- Pings on a connection are followed, others end the run. -/
def openedPings (E : Type) : Contract (Sys E) Event where
  excused := fun l => unopenedPing l = true
  excused_append := unopenedPing_append
  halted := fun _ => True

/- Every ping that waits has set the flag. -/
structure KeepsAlive (w : Run E) : Prop where
  once : pingedTwice w.log = false
  flag :
    opened w.log = true → unanswered w.log = true →
      w.st.client.isPingOutstanding = true

/- No ping waits. -/
structure Unpinged (w : Run E) : Prop where
  once : pingedTwice w.log = false
  answered : unanswered w.log = false

/- What survives steps without a ping that keep the flag. -/
def SurvivesSilence (J : Run E → Prop) : Prop :=
  ∀ s s' es l,
    s'.client.isPingOutstanding =
        s.client.isPingOutstanding →
      (∀ e ∈ es, Event.isPingreq e = false) →
        J ⟨s, l⟩ → J ⟨s', es ++ l⟩

theorem keepsAlive_survives :
    SurvivesSilence (KeepsAlive (E := E)) := by
  intro s s' es l hFlag hNone hKeeps
  refine ⟨?_, ?_⟩
  · exact (pingedTwice_append hNone).trans hKeeps.once
  · intro hOpened hWaits
    rcases unanswered_append hNone hWaits with
      ⟨hBefore, hOpen⟩
    exact
      hFlag.trans (hKeeps.flag (hOpen hOpened) hBefore)

theorem unpinged_survives :
    SurvivesSilence (Unpinged (E := E)) := by
  intro s s' es l _ hNone hQuiet
  refine ⟨?_, ?_⟩
  · exact (pingedTwice_append hNone).trans hQuiet.once
  · cases hWaits : unanswered (es ++ l) with
    | false => rfl
    | true =>
        have hBefore := (unanswered_append hNone hWaits).1
        have hAnswered : unanswered l = false :=
          hQuiet.answered
        rw [hAnswered] at hBefore
        cases hBefore

/- A client with no waiting ping keeps its connection alive. -/
theorem Unpinged.keepsAlive
    {w : Run E}
    (hQuiet : Unpinged w) :
    KeepsAlive w := by
  refine ⟨hQuiet.once, ?_⟩
  intro _ hWaits
  rw [hQuiet.answered] at hWaits
  cases hWaits

namespace SurvivesSilence

variable {J : Run E → Prop}

theorem receive
    (hJ : SurvivesSilence J)
    (s s' : Sys E)
    (es l : List Event)
    (hReceives : Receives s s' es)
    (hHere : J ⟨s, l⟩) :
    J ⟨s', es ++ l⟩ := by
  rcases hReceives with ⟨⟨readBuf, hClient⟩, hReceive⟩
  refine hJ s s' es l (by rw [hClient]) ?_ hHere
  exact fun e he => isPingreq_of_isReceive (hReceive e he)

/- One event that is no PINGREQ. -/
theorem event
    (hJ : SurvivesSilence J)
    {s s' : Sys E}
    {l : List Event}
    {e : Event}
    (hFlag :
      s'.client.isPingOutstanding =
        s.client.isPingOutstanding)
    (hNone : e.isPingreq = false)
    (hHere : J ⟨s, l⟩) :
    J ⟨s', e :: l⟩ := by
  refine hJ s s' [e] l hFlag ?_ hHere
  intro e' he'
  rw [List.mem_singleton.mp he']
  exact hNone

/- The steps of a send before the packet is complete. -/
theorem sends
    (hJ : SurvivesSilence J)
    {timer : TimerName}
    (s s' : Sys E)
    (es l : List Event)
    (hSends : Sends timer s s' es)
    (hHere : J ⟨s, l⟩) :
    J ⟨s', es ++ l⟩ := by
  rcases hSends with ⟨⟨locked, hClient⟩, hOutput⟩
  refine hJ s s' es l (by rw [hClient]) ?_ hHere
  exact fun e he => isPingreq_of_isOutputOf (hOutput e he)

/- A packet that is no PINGREQ is sent. -/
theorem send
    (hJ : SurvivesSilence J)
    {r : Client → Serialized}
    (hType :
      ∀ c packet, r c = some (.ok packet) →
        packetType packet ≠ MessageType.pingreq.nibble)
    (fuel n : Nat)
    (timer : TimerName) :
    Triple (openedPings E)
      (fun w => Ready r n w.st.client ∧ J w)
      (sendPacket port fuel n timer)
      (fun _ => J) := by
  refine
    sendPacket_steps (fun _ _ => trivial) ?_ ?_
      (fun _ _ _ h => h.2) fuel
  · intro s s' es l hSends hPre
    exact
      ⟨hPre.1.sends hSends, hJ.sends s s' es l hSends hPre.2⟩
  · rintro w ⟨⟨c, hEnc, _⟩, hHere⟩
    refine hJ.event rfl ?_ hHere
    exact beq_false_of_ne (hType c _ hEnc)

theorem ack
    (hJ : SurvivesSilence J)
    (hKept : KeptApart (openedPings E) J)
    (fuel : Nat)
    (timer : TimerName)
    (id : UInt16) :
    Keeps (openedPings E) J
      (sendSerialized port fuel timer (fun c =>
        serializeAck c.writeBufSize .puback 0 id)) := by
  refine (hKept.serialize_ready _).bind ?_
  intro encoded
  cases encoded with
  | error rc => exact Triple.pure (fun _ h => h.2)
  | ok n =>
      refine hJ.send ?_ fuel n timer
      intro c packet hEnc
      rw [packetType_puback hEnc]
      decide

theorem requests
    (hJ : SurvivesSilence J) :
    Requests port (openedPings E) (fun _ => True) J where
  halt := fun _ _ => trivial
  apart := by
    intro s s' es l hApart hHere
    have hFlag :=
      congrArg Settings.isPingOutstanding hApart.settings
    refine hJ s s' es l hFlag ?_ hHere
    intro e he
    exact
      isPingreq_of_aside (aside_of_apart (hApart.events e he))
  inside := fun _ _ => trivial
  state := fun s l _ _ hHere =>
    hJ s _ [] l rfl (fun _ h => by cases h) hHere
  refused := fun _ _ _ _ hHere =>
    Or.inr (hJ.event rfl rfl hHere)
  send := by
    intro r hRequest fuel n
    exact
      hJ.send (fun _ _ hEnc => (hRequest.packetType hEnc).2.1)
        fuel n .command

end SurvivesSilence

/- Requests alone leave no ping waiting. -/
theorem unpinged_blind :
    Blind port (openedPings E) Unpinged where
  toRequests := unpinged_survives.requests
  flag := fun _ _ _ hQuiet => ⟨hQuiet.once, hQuiet.answered⟩
  receive := unpinged_survives.receive
  ack := by
    intro fuel timer id _
    have hI :
        Requests port (openedPings E) (fun _ => True)
          Unpinged :=
      unpinged_survives.requests
    exact
      unpinged_survives.ack hI.toKeptApart fuel timer id
  call := fun _ _ _ _ hQuiet =>
    unpinged_survives.event rfl rfl hQuiet

end Mqtt

end TrustOnboard

------------------------------------------------------------
-- The Invariant Of All Calls
------------------------------------------------------------

namespace TrustOnboard

namespace Mqtt

variable {E : Type}
variable {port : Port E}

/- A PINGRESP that was read is the answer to every ping. -/
theorem readPacket_answers
    (fuel : Nat) :
    Triple (openedPings E) KeepsAlive
      (readPacket port fuel)
      (fun r w =>
        KeepsAlive w ∧
          (r.2 = some MessageType.pingresp.nibble →
            unanswered w.log = false)) := by
  intro w hKeeps
  right
  cases hRun : (readPacket port fuel).run w with
  | mk result w' =>
      cases result with
      | none => trivial
      | some r =>
          have hRead := readPacket_outcome hRun
          rcases hRead.client with ⟨readBuf, hClient⟩
          rcases hRead.events with
            ⟨es, hLog, hReceive, _, hEnd⟩
          refine ⟨?_, ?_⟩
          · have hNext :=
              keepsAlive_survives.receive w.st w'.st es w.log
                ⟨⟨readBuf, hClient⟩, hReceive⟩ hKeeps
            rw [← hLog] at hNext
            exact hNext
          · intro hType
            rcases hEnd with ⟨hNone, _⟩ | hPacket
            · rw [hNone] at hType
              cases hType
            · rcases hPacket with
                ⟨header, body, older, hFound, _, _, hTop, _⟩
              rw [hFound] at hType
              have hPong :
                  headerType header =
                    MessageType.pingresp.nibble :=
                Option.some.inj hType
              change unanswered w'.log = false
              rw [hLog, hTop]
              simp [unanswered, Event.isPingreq,
                Event.isPingresp, packetType, hPong]

/- The flag is cleared when no ping waits. -/
theorem clearFlag_keepsAlive :
    Triple (openedPings E)
      (fun w => KeepsAlive w ∧ unanswered w.log = false)
      (modifyClient (fun c =>
        { c with isPingOutstanding := false }) : Code E Unit)
      (fun _ => KeepsAlive) := by
  refine Triple.modify ?_
  rintro w ⟨hKeeps, hAnswered⟩
  exact Unpinged.keepsAlive ⟨hKeeps.once, hAnswered⟩

/- One cycle of the receive path, given the callbacks. -/
theorem cycleRead_keepsAlive
    (hSingle : port.threadSupport = false)
    {callback : Callback E}
    (hCb :
      ∀ handler data msg,
        Keeps (openedPings E) KeepsAlive
          (callback handler data msg))
    (fuel : Nat)
    (timer : TimerName) :
    Keeps (openedPings E) KeepsAlive
      (cycleRead port fuel callback timer) := by
  have hI :
      Requests port (openedPings E) (fun _ => True)
        KeepsAlive :=
    keepsAlive_survives.requests
  rw [cycleRead_single hSingle]
  refine (readPacket_answers fuel).bind ?_
  rintro ⟨rc, packetType⟩
  have hSame :
      ∀ {a : IoTError × Option UInt8},
        Triple (openedPings E)
          (fun w : Run E =>
            KeepsAlive w ∧
              (packetType =
                  some MessageType.pingresp.nibble →
                unanswered w.log = false))
          (Prog.ret a) (fun _ => KeepsAlive) :=
    Triple.ret (fun _ h => h.1)
  refine Triple.ite (fun _ => hSame) (fun _ => ?_)
  refine Triple.ite (fun _ => hSame) (fun _ => ?_)
  cases packetType with
  | none => exact hSame
  | some type =>
      refine Triple.bind (M := fun _ => KeepsAlive) ?_
        (fun _ => Triple.same)
      by_cases hPong :
          MessageType.ofNibble type = some .pingresp
      · have hRun :
            dispatchPacket port fuel callback timer type =
              handlePingresp port := by
          unfold dispatchPacket
          rw [hPong]
        rw [hRun]
        refine Triple.bind (M := fun _ => KeepsAlive) ?_ ?_
        · refine clearFlag_keepsAlive.pre ?_
          intro w hPre
          refine ⟨hPre.1, hPre.2 ?_⟩
          exact congrArg some (MessageType.eq_nibble hPong)
        · intro _
          refine (KeptApart.read _).seq ?_
          intro c
          exact
            (hI.countdown _ _).seq (fun _ => Triple.same)
      · refine Triple.pre ?_ (fun _ h => h.1)
        exact
          hI.toKeptApart.dispatchPacket
            (hI.deliverMessage trivial hCb)
            (keepsAlive_survives.ack hI.toKeptApart fuel
              timer)
            type (fun hType => absurd hType hPong)

/-
  A PINGREQ goes out while the flag is clear, so that no
  other ping waits, and the flag is set behind it.
-/
theorem sendPing_keepsAlive
    (fuel n : Nat) :
    Triple (openedPings E)
      (fun w =>
        w.st.client.isPingOutstanding = false ∧
          Ready pingRequest n w.st.client ∧ KeepsAlive w)
      (sendPacket port fuel n .command)
      (fun rc w =>
        (rc = .success →
            KeepsAlive
              (⟨w.st.withPing true, w.log⟩ : Run E)) ∧
          (rc ≠ .success → KeepsAlive w)) := by
  refine Triple.of_or_excused ?_
  refine
    sendPacket_steps (fun _ _ => trivial) ?_ ?_ ?_ fuel
  · rintro s s' es l hSends ⟨hFlag, hReady, hKeeps⟩
    refine
      ⟨?_, hReady.sends hSends,
        keepsAlive_survives.sends s s' es l hSends hKeeps⟩
    rcases hSends.1 with ⟨locked, hClient⟩
    change s'.client.isPingOutstanding = false
    rw [hClient]
    exact hFlag
  · rintro w ⟨hFlag, ⟨c, hEnc, _⟩, hKeeps⟩
    have hPing :
        (Event.txPacket
          (w.st.client.writeBuf.load 0 n)).isPingreq =
            true := by
      have hType := packetType_zero hEnc
      change (packetType _ == _) = true
      rw [hType]
      rfl
    cases hOpened : opened w.log with
    | false =>
        left
        change unopenedPing (_ :: w.log) = true
        simp [unopenedPing, hPing, hOpened]
    | true =>
        right
        refine ⟨fun _ => ⟨?_, fun _ _ => rfl⟩, ?_⟩
        · have hQuiet : unanswered w.log = false := by
            cases hWaits : unanswered w.log with
            | false => rfl
            | true =>
                have hSet := hKeeps.flag hOpened hWaits
                rw [hFlag] at hSet
                cases hSet
          change pingedTwice (_ :: w.log) = false
          simp [pingedTwice, hQuiet, hKeeps.once]
        · exact fun hNo => absurd rfl hNo
  · rintro rc w hRc ⟨_, _, hKeeps⟩
    exact Or.inr ⟨fun hYes => absurd hYes hRc, fun _ => hKeeps⟩

/-
  The inner function of connect.  Once the connection is
  open no ping waits, and the calls of the callbacks find
  the client busy until the flag is cleared.
-/
theorem internalConnect_keepsAlive
    (hSingle : port.threadSupport = false)
    (hCalls : KeepsConnection port)
    (depth fuel : Nat) :
    Triple (openedPings E) (WithinBusy KeepsAlive)
      (internalConnect port fuel
        (runCallback port (api port depth true)) none)
      (fun _ => KeepsAlive) := by
  change Triple _ _ (netConnect port >>= _) _
  refine Triple.bind
    (M := fun rc w =>
      (rc ≠ .success → KeepsAlive w) ∧
        (rc = .success → WithinBusy Unpinged w))
    (Triple.step ?_) ?_
  · intro w hw
    right
    refine ⟨fun _ => ?_, ?_⟩
    · exact
        keepsAlive_survives.event (s := w.st) (l := w.log)
          rfl rfl hw.2
    · intro hRc
      dsimp only at hRc
      refine ⟨hw.1, ?_, ?_⟩
      · change pingedTwice (_ :: w.log) = false
        simp [pingedTwice, Event.isPingreq, hw.2.once]
      · change unanswered (_ :: w.log) = false
        simp [unanswered, Event.isPingreq,
          Event.isPingresp, Event.opensConnection, hRc]
  intro rc
  refine Triple.ite ?_ ?_
  · intro hRc
    exact Triple.ret (fun _ h => h.1 hRc)
  intro hRc
  have hRequests :
      Requests port (openedPings E)
        (fun s => s.isBusy = true) (WithinBusy Unpinged) :=
    unpinged_blind.within
  refine
    (hRequests.connectExchange
      (unpinged_blind.cycleRead hSingle hCalls
        (fun _ h => h) depth true (by decide))
      (Triple.modify ?_) fuel).conseq
        (fun _ h => h.2 (Classical.not_not.mp hRc))
        (fun _ _ h => h.2.keepsAlive)
  exact fun w hw => ⟨hw.1, hw.2.once, hw.2.answered⟩

theorem connect_keepsAlive
    (hSingle : port.threadSupport = false)
    (hCalls : KeepsConnection port)
    (depth fuel : Nat)
    (params : Option ConnectParams) :
    Keeps (openedPings E) KeepsAlive
      (connect port fuel
        (runCallback port (api port depth true)) params) := by
  have hI :
      Requests port (openedPings E) (fun _ => True)
        KeepsAlive :=
    keepsAlive_survives.requests
  have hInner :=
    internalConnect_keepsAlive hSingle hCalls depth fuel
  refine Triple.bind
    (M := fun s w =>
      s = w.st.client.clientState ∧ KeepsAlive w)
    (Triple.read (fun _ hw => ⟨rfl, hw⟩)) ?_
  intro clientState
  refine Triple.ite
    (fun _ => Triple.ret (fun _ h => h.2)) (fun _ => ?_)
  refine Triple.bind
    (M := fun _ => WithinBusy KeepsAlive) ?_ ?_
  · rw [setClientState_single hSingle]
    refine Triple.step ?_
    rintro w ⟨rfl, hKeeps⟩
    right
    rw [if_pos rfl]
    refine ⟨rfl, ?_⟩
    exact
      keepsAlive_survives.event (s := w.st) (l := w.log) rfl
        rfl hKeeps
  intro _
  refine Triple.bind (M := fun _ => KeepsAlive) ?_
    (fun rc => hI.finishConnect trivial trivial rc)
  cases params with
  | none => exact hInner
  | some p =>
      change Triple _ _
        (modifyClient _ >>= fun _ =>
          internalConnect port fuel _ none) _
      refine Triple.seq (Triple.modify ?_) (fun _ => hInner)
      exact
        fun w hw => ⟨hw.1, hw.2.once, hw.2.flag⟩

/- Every call keeps the discipline. -/
theorem keepsAlive_steady
    (hSingle : port.threadSupport = false)
    (hCalls : KeepsConnection port) :
    Steady port (openedPings E) KeepsAlive where
  toRequests := keepsAlive_survives.requests
  cycle := by
    intro call hCall fuel timer
    refine cycleRead_keepsAlive hSingle ?_ fuel timer
    intro handler data msg
    have hI :
        Requests port (openedPings E) (fun _ => True)
          KeepsAlive :=
      keepsAlive_survives.requests
    exact
      (hI.platform (port.onMessage handler data msg)).seq
        (hI.eachCall hCall)
  ping := sendPing_keepsAlive
  interval := fun s l _ hKeeps =>
    keepsAlive_survives s _ [] l rfl
      (fun _ h => by cases h) hKeeps
  outage := by
    intro s l env e hOutage hKeeps
    refine
      keepsAlive_survives.event (s := s) rfl ?_ hKeeps
    cases e <;> first | rfl | cases hOutage
  connect := fun fuel params _ _ =>
    connect_keepsAlive hSingle hCalls fuel fuel params
  call := by
    intro s l waiting c hKeeps
    right
    refine ⟨keepsAlive_survives.event rfl rfl hKeeps, ?_⟩
    intro params _ p _ s l hHere
    exact
      keepsAlive_survives s _ [] l rfl
        (fun _ h => by cases h) hHere

theorem init_keepsAlive
    (params : Option InitParams) :
    Keeps (openedPings E) KeepsAlive (init port params) := by
  have hI :
      Requests port (openedPings E) (fun _ => True)
        KeepsAlive :=
    keepsAlive_survives.requests
  cases params with
  | none => exact Triple.same
  | some p =>
      refine Triple.ite (fun _ => Triple.same) (fun _ => ?_)
      refine Triple.bind
        (M := fun _ w =>
          pingedTwice w.log = false ∧
            opened w.log = false) ?_ ?_
      · refine Triple.emit ?_
        intro w hKeeps
        right
        refine ⟨?_, rfl⟩
        change pingedTwice (_ :: w.log) = false
        simp [pingedTwice, Event.isPingreq, hKeeps.once]
      intro _
      refine Triple.bind (M := fun _ => KeepsAlive) ?_ ?_
      · refine Triple.modify ?_
        rintro w ⟨hOnce, hUnopened⟩
        refine ⟨hOnce, ?_⟩
        intro hOpened
        change opened w.log = true at hOpened
        rw [hUnopened] at hOpened
        cases hOpened
      intro _
      refine Triple.seq (hI.platform port.tlsInit) ?_
      intro rc
      refine Triple.ite (fun _ => ?_) (fun _ => ?_)
      · exact
          (hI.assignClientState trivial).seq
            (fun _ => Triple.same)
      · refine (hI.countdown .ping 0).seq ?_
        intro _
        refine (hI.countdown .reconnectDelay 0).seq ?_
        intro _
        exact
          (hI.assignClientState trivial).seq
            (fun _ => Triple.same)

end Mqtt

end TrustOnboard

------------------------------------------------------------
-- Pings Are Sent On Open Connections
------------------------------------------------------------

namespace TrustOnboard

namespace Mqtt

variable {E : Type}
variable {port : Port E}

/- A connected client has opened a connection since init. -/
def openedRegime (E : Type) : Regime E where
  contract := Contract.plain (Sys E) Event
  live := fun _ l =>
    opened l = true ∧ unopenedPing l = false
  down := fun _ l => unopenedPing l = false
  cut := False
  allowed := fun c => c ≠ .disconnect

theorem openedRegime_mode
    {I : Fact}
    (hMode : (openedRegime E).Mode I) :
    I = (openedRegime E).live := by
  rcases hMode with hLive | ⟨hNo, _⟩
  · exact hLive
  · exact hNo.elim

/- An event other than init on an open connection. -/
theorem openedRegime_live_cons
    {f f' : Frame}
    {l : List Event}
    {e : Event}
    (hInit : e.isInit = false)
    (hLive : (openedRegime E).live f l) :
    (openedRegime E).live f' (e :: l) := by
  rcases hLive with ⟨hOpened, hPings⟩
  refine ⟨?_, ?_⟩
  · simp [opened, hInit, hOpened]
  · simp [unopenedPing, hOpened, hPings]

/- An event other than a ping. -/
theorem openedRegime_down_cons
    {f g : Frame}
    {l : List Event}
    {e : Event}
    (hPing : e.isPingreq = false)
    (hDown : (openedRegime E).down f l) :
    (openedRegime E).down g (e :: l) := by
  have hPings : unopenedPing l = false := hDown
  change unopenedPing (e :: l) = false
  simp [unopenedPing, hPing, hPings]

theorem openedRegime_down_of_either
    {f : Frame}
    {l : List Event}
    (hEither :
      (openedRegime E).live f l ∨
        (openedRegime E).down f l) :
    (openedRegime E).down f l :=
  hEither.elim (fun hLive => hLive.2) (fun hDown => hDown)

theorem openedRegime_lawful
    (hSingle : port.threadSupport = false)
    (hCalls : KeepsConnection port) :
    (openedRegime E).Lawful port where
  single := hSingle
  halt_live := fun _ _ => trivial
  halt_down := fun _ _ => trivial
  neutral_live := by
    intro f l e hNeutral hLive
    refine openedRegime_live_cons ?_ hLive
    cases e <;> first | rfl | cases hNeutral
  neutral_down := by
    intro f l e hNeutral hDown
    refine openedRegime_down_cons ?_ hDown
    cases e <;> first | rfl | cases hNeutral
  read := by
    intro φ I fuel hMode
    rw [openedRegime_mode hMode]
    refine in_readPacket (fun _ _ => trivial) ?_ fuel
    intro f l e hReceive hLive
    refine openedRegime_live_cons ?_ hLive
    cases e <;> first | rfl | cases hReceive
  send := by
    intro φ I fuel length timer hMode
    rw [openedRegime_mode hMode]
    refine
      (in_sendPacket hSingle (fun _ _ => trivial) ?_ fuel
        length timer).pre (fun _ h => h.2)
    intro f l e hTransmit hLive
    refine openedRegime_live_cons ?_ hLive
    cases e <;> first | rfl | cases hTransmit
  connected := by
    intro f l hDown
    right
    refine ⟨rfl, ?_⟩
    exact openedRegime_down_cons (f := f) (g := f) rfl hDown
  refused := fun _ _ _ _ hDown =>
    openedRegime_down_cons rfl hDown
  destroyed := fun _ _ _ _ _ _ hEither =>
    openedRegime_down_cons rfl
      (openedRegime_down_of_either hEither)
  destroyedCut := fun _ _ _ _ hCut _ => hCut.elim
  closed := by
    intro I f l found hMode hI
    rw [openedRegime_mode hMode] at hI
    exact
      openedRegime_down_cons rfl
        (openedRegime_down_of_either (Or.inl hI))
  notClosed := by
    intro I f l rc found hMode _ hI
    rw [openedRegime_mode hMode] at hI ⊢
    exact Or.inr (openedRegime_live_cons rfl hI)
  handlerConnected := fun _ _ _ _ hLive =>
    Or.inr
      (openedRegime_down_cons rfl
        (openedRegime_down_of_either (Or.inl hLive)))
  handlerDisconnected := fun _ _ _ hDown =>
    openedRegime_down_cons rfl hDown
  ret_live := fun _ _ _ _ _ hLive =>
    openedRegime_live_cons rfl hLive
  ret_down := fun _ _ _ _ _ hDown =>
    openedRegime_down_cons rfl hDown
  uncut := fun _ _ _ hAllowed _ => absurd rfl hAllowed
  calls := hCalls
  reset := fun _ _ hEither =>
    Or.inr
      (openedRegime_down_cons rfl
        (openedRegime_down_of_either hEither))

theorem openedRegime_tableBlind :
    (openedRegime E).TableBlind where
  table := by
    intro I f l table hSide hI
    rcases hSide with rfl | rfl
    · exact hI
    · exact hI
  registered := by
    intro I f l slot previous hSide hI
    rcases hSide with rfl | rfl
    · exact openedRegime_live_cons rfl hI
    · exact openedRegime_down_cons rfl hI
  ret := by
    intro I f l c rc hSide hI
    rcases hSide with rfl | rfl
    · exact openedRegime_live_cons rfl hI
    · exact openedRegime_down_cons rfl hI

/- Where a session leaves the client. -/
theorem session_opened
    (hSingle : port.threadSupport = false)
    (hCalls : KeepsConnection port)
    {fuel : Nat}
    {calls : List TopCall}
    {s : Sys E}
    {w' : Run E}
    (hStable : s.client.clientState.isStable = true)
    (hRun :
      (session port fuel calls).run ⟨s, []⟩ =
        (some (), w')) :
    unopenedPing w'.log = false ∧
      (isClientConnected w'.st.client.clientState = true →
        opened w'.log = true) := by
  have hR := openedRegime_lawful hSingle hCalls
  have hSession :=
    hR.session (hR.tableLaws openedRegime_tableBlind) fuel
      calls
  have hRest :
      Holds (openedRegime E).Rest (⟨s, []⟩ : Run E) :=
    ⟨hStable, fun _ => ⟨rfl, rfl⟩, fun _ => rfl⟩
  rcases hSession.of_run hRest hRun with hNo | hPost
  · exact hNo.elim
  · refine ⟨?_, fun hOn => (hPost.2.1 hOn).1⟩
    cases hOn : isClientConnected w'.st.client.clientState with
    | true => exact (hPost.2.1 hOn).2
    | false => exact hPost.2.2 hOn

end Mqtt

end TrustOnboard

------------------------------------------------------------
-- The End Of An Interval
------------------------------------------------------------

namespace TrustOnboard

namespace Mqtt

variable {E : Type}
variable {port : Port E}

/- The network was closed after the log was `l₀`. -/
def ClosedSince (l₀ l : List Event) : Prop :=
  ∃ es, l = es ++ l₀ ∧ .netDisconnect ∈ es

/- The log has grown from `l₀`. -/
def GrownFrom (l₀ l : List Event) : Prop :=
  ∃ es, l = es ++ l₀

theorem closedSince_append
    {l₀ : List Event}
    (es l : List Event)
    (hClosed : ClosedSince l₀ l) :
    ClosedSince l₀ (es ++ l) := by
  rcases hClosed with ⟨es', rfl, hMem⟩
  exact
    ⟨es ++ es', (List.append_assoc _ _ _).symm,
      List.mem_append_right _ hMem⟩

theorem grownFrom_append
    {l₀ : List Event}
    (es l : List Event)
    (hGrown : GrownFrom l₀ l) :
    GrownFrom l₀ (es ++ l) := by
  rcases hGrown with ⟨es', rfl⟩
  exact ⟨es ++ es', (List.append_assoc _ _ _).symm⟩

theorem netDisconnect_closes
    (l₀ : List Event) :
    Triple (Contract.plain (Sys E) Event)
      (fun w => GrownFrom l₀ w.log)
      (netDisconnect port)
      (fun _ w => ClosedSince l₀ w.log) := by
  refine Triple.step ?_
  rintro w ⟨es, hLog⟩
  right
  refine ⟨.netDisconnect :: es, ?_, List.mem_cons_self⟩
  change .netDisconnect :: w.log = _
  rw [hLog]
  rfl

theorem failsWithError_disconnect :
    FailsWithError (fun c =>
      serializeZero c.writeBufSize .disconnect) := by
  intro c rc hEnc
  dsimp only [serializeZero] at hEnc
  split at hEnc
  · cases hEnc
    decide
  · cases hEnc

/- A disconnect that succeeds has closed the network. -/
theorem internalDisconnect_closes
    (l₀ : List Event)
    (fuel : Nat) :
    Triple (Contract.plain (Sys E) Event)
      (fun w => GrownFrom l₀ w.log)
      (internalDisconnect port fuel)
      (fun rc w =>
        GrownFrom l₀ w.log ∧
          (rc = .success → ClosedSince l₀ w.log)) := by
  have hTail :
      ∀ rc, Triple (Contract.plain (Sys E) Event)
        (fun w => GrownFrom l₀ w.log)
        (if rc ≠ .success then pure rc
        else do
          netDisconnect port
          let rc ← netDestroy port .disconnect
          if rc ≠ .success then
            pure .failure
          else
            pure .success : Code E IoTError)
        (fun rc w =>
          GrownFrom l₀ w.log ∧
            (rc = .success → ClosedSince l₀ w.log)) := by
    intro rc
    refine Triple.ite ?_ ?_
    · intro hRc
      exact
        Triple.ret (fun _ h => ⟨h, fun hNo => absurd hNo hRc⟩)
    intro _
    refine (netDisconnect_closes l₀).bind ?_
    intro _
    refine (Triple.log_mono closedSince_append).bind ?_
    intro rc
    have hEnd :
        ∀ w : Run E, ClosedSince l₀ w.log →
          GrownFrom l₀ w.log := by
      rintro w ⟨es, hLog, _⟩
      exact ⟨es, hLog⟩
    exact
      Triple.ite
        (fun _ =>
          Triple.ret (fun w h => ⟨hEnd w h, fun _ => h⟩))
        (fun _ =>
          Triple.ret (fun w h => ⟨hEnd w h, fun _ => h⟩))
  refine
    (holds_serialize_packet (K := fun _ _ l => GrownFrom l₀ l)
      (fun _ _ => trivial) failsWithError_disconnect).bind ?_
  intro res
  cases res with
  | error rc =>
      exact
        Triple.ret
          (fun _ h => ⟨h.2, fun hNo => absurd hNo h.1⟩)
  | ok n =>
      refine Triple.exists_pre ?_
      intro c
      refine Triple.exists_pre ?_
      intro packet
      refine Triple.of_fact (fun _ => ?_)
      refine
        Triple.pre (A := fun w : Run E => GrownFrom l₀ w.log)
          ?_ (fun _ h => h.2)
      refine (Triple.log_mono grownFrom_append).bind ?_
      intro _
      refine Triple.ite (fun _ => ?_) (fun _ => ?_)
      · exact (Triple.log_mono grownFrom_append).bind hTail
      · exact hTail .success

theorem disconnect_closes
    (l₀ : List Event)
    (fuel : Nat) :
    Triple (Contract.plain (Sys E) Event)
      (fun w => GrownFrom l₀ w.log)
      (disconnect port fuel)
      (fun rc w =>
        GrownFrom l₀ w.log ∧
          (rc = .success → ClosedSince l₀ w.log)) := by
  refine (Triple.log_mono grownFrom_append).bind ?_
  intro clientState
  refine (Triple.log_mono grownFrom_append).bind ?_
  intro seen
  refine Triple.ite ?_ ?_
  · intro _
    exact Triple.ret (fun _ h => ⟨h, fun hNo => by cases hNo⟩)
  intro _
  refine (Triple.log_mono grownFrom_append).bind ?_
  intro rc
  refine Triple.ite ?_ ?_
  · intro hRc
    exact
      Triple.ret (fun _ h => ⟨h, fun hNo => absurd hNo hRc⟩)
  intro _
  refine (internalDisconnect_closes l₀ fuel).bind ?_
  intro rc
  refine Triple.ite (fun _ => ?_) (fun _ => ?_)
  · exact
      Triple.bind (Triple.modify (fun _ h => h))
        (fun _ => Triple.ret (fun _ h => h))
  · exact
      Triple.bind (Triple.modify (fun _ h => h))
        (fun _ => Triple.ret (fun _ h => h))

/- The handling of a loss closes the network. -/
theorem disconnectOrForce_closes
    (l₀ : List Event)
    (fuel : Nat) :
    Triple (Contract.plain (Sys E) Event)
      (fun w => GrownFrom l₀ w.log)
      (disconnectOrForce port fuel)
      (fun _ w => ClosedSince l₀ w.log) := by
  refine (disconnect_closes l₀ fuel).bind ?_
  intro rc
  refine Triple.ite ?_ ?_
  · intro _
    refine Triple.bind
      (M := fun _ w => GrownFrom l₀ w.log)
      (Triple.modify (fun _ h => h.1)) ?_
    intro _
    refine (netDisconnect_closes l₀).bind ?_
    intro _
    exact
      (Triple.log_mono closedSince_append).bind
        (fun _ => Triple.ret (fun _ h => h))
  · intro hRc
    exact
      Triple.ret (fun _ h => h.2 (Classical.not_not.mp hRc))

/-
  A keep-alive interval that ends while a ping is outstanding
  tears the connection down.
-/
theorem keepAlive_tearsDown
    {onLost : HandlerId → Nat → Code E Unit}
    {fuel : Nat}
    {w w' : Run E}
    {rc : IoTError}
    (hFlag : w.st.client.isPingOutstanding = true)
    (hInterval : w.st.client.keepAliveInterval ≠ 0)
    (hExpired :
      (port.hasTimerExpired .ping w.st.env).1 = true)
    (hRun :
      (keepAlive port fuel onLost).run w = (some rc, w')) :
    rc = .networkDisconnectedError ∧
      w'.st.client.clientState = .disconnectedError ∧
        ClosedSince
          (.connectionLost :: .timerChecked .ping true ::
            w.log) w'.log := by
  let l₀ : List Event :=
    .connectionLost :: .timerChecked .ping true :: w.log
  have hLoss :
      Triple (Contract.plain (Sys E) Event)
        (fun w₁ =>
          w₁.log = .timerChecked .ping true :: w.log)
        (handleDisconnect port fuel onLost)
        (fun rc w₁ =>
          rc = .networkDisconnectedError ∧
            w₁.st.client.clientState = .disconnectedError ∧
              ClosedSince l₀ w₁.log) := by
    refine Triple.bind
      (M := fun _ w₁ => GrownFrom l₀ w₁.log)
      (Triple.emit ?_) ?_
    · intro w₁ hLog
      right
      refine ⟨[], ?_⟩
      change .connectionLost :: w₁.log = l₀
      rw [hLog]
    intro _
    refine (disconnectOrForce_closes l₀ fuel).bind ?_
    intro _
    refine (Triple.log_mono closedSince_append).bind ?_
    intro _
    refine Triple.bind
      (M := fun _ w₁ =>
        w₁.st.client.clientState = .disconnectedError ∧
          ClosedSince l₀ w₁.log)
      (Triple.modify (fun _ h => ⟨rfl, h⟩)) ?_
    intro _
    exact Triple.ret (fun _ h => ⟨rfl, h⟩)
  have hKeep :
      Triple (Contract.plain (Sys E) Event)
        (fun w₁ => w₁ = w)
        (keepAlive port fuel onLost)
        (fun rc w₁ =>
          rc = .networkDisconnectedError ∧
            w₁.st.client.clientState = .disconnectedError ∧
              ClosedSince l₀ w₁.log) := by
    refine Triple.bind
      (M := fun c w₁ => c = w.st.client ∧ w₁ = w)
      (Triple.read (fun _ h => ⟨by rw [h], h⟩)) ?_
    intro c
    refine Triple.of_fact ?_
    rintro rfl
    rw [if_neg hInterval]
    refine Triple.bind
      (M := fun expired w₁ =>
        expired = true ∧ w₁.st.client = w.st.client ∧
          w₁.log = .timerChecked .ping true :: w.log)
      (Triple.step ?_) ?_
    · rintro w₁ rfl
      right
      refine ⟨hExpired, rfl, ?_⟩
      change .timerChecked .ping _ :: w₁.log = _
      rw [hExpired]
    intro expired
    refine Triple.of_fact ?_
    rintro rfl
    rw [if_neg (by simp)]
    refine Triple.bind
      (M := fun c w₁ =>
        c = w.st.client ∧
          w₁.log = .timerChecked .ping true :: w.log)
      (Triple.read (fun _ h => h)) ?_
    intro c
    refine Triple.of_fact ?_
    rintro rfl
    rw [if_pos hFlag]
    exact hLoss
  rcases hKeep.of_run rfl hRun with hNo | hPost
  · exact hNo.elim
  · exact hPost

end Mqtt

end TrustOnboard

------------------------------------------------------------
-- The Discipline
------------------------------------------------------------

namespace TrustOnboard

namespace Mqtt

variable {E : Type}

/-
  Between two PINGREQ packets on one connection a PINGRESP
  was read, and a PINGREQ of the current connection that has
  no answer is known to an idle client by its flag.  While
  the flag is set, the end of the next keep-alive interval
  tears the connection down.
-/
theorem pinged_once
    (port : Port E)
    (hSingle : port.threadSupport = false)
    (hCalls : KeepsConnection port)
    (fuel : Nat)
    (calls : List TopCall)
    (s : Sys E)
    (hStable : s.client.clientState.isStable = true)
    (w' : Run E)
    (hRun :
      (session port fuel calls).run ⟨s, []⟩ =
        (some (), w')) :
    (∀ newer second between first older,
      w'.log =
          newer ++ second :: (between ++ first :: older) →
        second.isPingreq = true → first.isPingreq = true →
          (∀ e ∈ between, e.opensConnection = false) →
            ∃ e ∈ between, e.isPingresp = true) ∧
      (w'.st.client.clientState = .connectedIdle →
        w'.st.client.isPingOutstanding = false →
          ∀ newer ping older,
            w'.log = newer ++ ping :: older →
              ping.isPingreq = true →
                (∀ e ∈ newer, e.opensConnection = false) →
                  ∃ e ∈ newer, e.isPingresp = true) ∧
      (∀ onLost rc (w w₁ : Run E),
        w.st.client.isPingOutstanding = true →
          w.st.client.keepAliveInterval ≠ 0 →
            (port.hasTimerExpired .ping w.st.env).1 = true →
              (keepAlive port fuel onLost).run w =
                  (some rc, w₁) →
                rc = .networkDisconnectedError ∧
                  w₁.st.client.clientState =
                      .disconnectedError ∧
                    ClosedSince
                      (.connectionLost ::
                        .timerChecked .ping true :: w.log)
                      w₁.log) := by
  have hSteady := keepsAlive_steady hSingle hCalls
  have hSession :
      Keeps (openedPings E) KeepsAlive
        (session port fuel calls) := by
    refine Triple.each ?_
    intro c _
    cases c with
    | init params =>
        exact
          (init_keepsAlive params).seq (fun _ => Triple.same)
    | api c =>
        exact
          (hSteady.api fuel false c).seq (fun _ => Triple.same)
  have hStart : KeepsAlive (⟨s, []⟩ : Run E) :=
    ⟨rfl, fun _ hWaits => by cases hWaits⟩
  rcases session_opened hSingle hCalls hStable hRun with
    ⟨hPings, hOpened⟩
  rcases hSession.of_run hStart hRun with hBad | hKeeps
  · have hBad : unopenedPing w'.log = true := hBad
    rw [hPings] at hBad
    cases hBad
  refine ⟨?_, ?_, ?_⟩
  · intro newer second between first older hLog hSecond
      hFirst hOpens
    have hOnce := hKeeps.once
    rw [hLog] at hOnce
    exact
      answer_of_not_unanswered hFirst hOpens
        (not_unanswered_of_once hSecond hOnce)
  · intro hIdle hFlag newer ping older hLog hPing hOpens
    have hOn :
        isClientConnected w'.st.client.clientState =
          true := by
      rw [hIdle]
      rfl
    have hAnswered : unanswered w'.log = false := by
      cases hWaits : unanswered w'.log with
      | false => rfl
      | true =>
          have hSet := hKeeps.flag (hOpened hOn) hWaits
          rw [hFlag] at hSet
          cases hSet
    rw [hLog] at hAnswered
    exact answer_of_not_unanswered hPing hOpens hAnswered
  · intro onLost rc w w₁ hFlag hInterval hExpired hLoss
    exact keepAlive_tearsDown hFlag hInterval hExpired hLoss

/- Two keep-alive intervals pass, and the first is answered. -/
def pingAnswered : Run Script :=
  scriptStart
    { scriptClient .connectedIdle [freeSlot] with
      keepAliveInterval := 60 }
    { Script.idle with
      incoming := [some [], some [208, 0]]
      timers := [true, false, true, true, false, true] }

theorem pinged_once_pingAnswered :
    ∃ w',
      (session quietPort 4
          [.api (.yield 1000), .api (.yield 1000)]).run
          pingAnswered = (some (), w') ∧
        (w'.log.filter Event.isPingreq).length = 2 ∧
        ∀ newer second between first older,
          w'.log =
              newer ++
                second :: (between ++ first :: older) →
            second.isPingreq = true →
              first.isPingreq = true →
                (∀ e ∈ between,
                  e.opensConnection = false) →
                  ∃ e ∈ between, e.isPingresp = true := by
  have hRun :=
    Prog.run_of_returns
      (p := session quietPort 4
        [.api (.yield 1000), .api (.yield 1000)])
      (w := pingAnswered) (a := ()) (by decide +kernel)
  refine ⟨_, hRun, by decide +kernel, ?_⟩
  exact
    (pinged_once quietPort rfl (fun _ _ _ _ _ h => by cases h)
      4 _ _ rfl _ hRun).1

end Mqtt

end TrustOnboard
