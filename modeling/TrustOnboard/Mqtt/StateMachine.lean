import TrustOnboard.Mqtt.Script
import TrustOnboard.Mqtt.Footprint
import TrustOnboard.Mqtt.Regime.Run

/-
  Closure of the client state machine in single-threaded
  runs: between calls the client is in one of its stable
  states, and a request that no callback disconnects returns
  the state it found.

  Key definitions include:
    * `plainRegime`
    * `ApiCall.isRequest`

  Key results include:
    * `plainRegime_lawful`
    * `clientState_closed`
-/

------------------------------------------------------------
-- Regimes Of One Fact
------------------------------------------------------------

namespace TrustOnboard

namespace Mqtt

variable {E : Type}

/- A regime with one fact for both situations. -/
def plainRegime
    (C : Contract (Sys E) Event)
    (I : List Event → Prop)
    (cut : Prop) : Regime E where
  contract := C
  live := fun _ l => I l
  down := fun _ l => I l
  cut := cut
  allowed := fun _ => True

variable {C : Contract (Sys E) Event}
variable {I : List Event → Prop}
variable {cut : Prop}
variable {port : Port E}

theorem plainRegime_mode
    {J : Fact}
    (hMode : (plainRegime C I cut).Mode J) :
    J = fun _ l => I l := by
  rcases hMode with hEq | ⟨_, hEq⟩
  · exact hEq
  · exact hEq

/- Events that move no bytes. -/
def Event.isOther (e : Event) : Bool :=
  e.quiet || (!e.isReceive && !e.isTransmit)

theorem isOther_of_neutral
    {e : Event}
    (hNeutral : e.neutral = true) :
    e.isOther = true := by
  cases e <;>
    simp_all [Event.neutral, Event.quiet, Event.isOther,
      Event.isReceive, Event.isInput, Event.isTransmit,
      Event.isOutput]

/-
  A fact of the log that survives the transfer of packets and
  every other event gives a lawful regime.  Callbacks may cut,
  or a disconnect inside a wait is excused.
-/
theorem plainRegime_lawful_of_transfers
    (hSingle : port.threadSupport = false)
    (hHalt : ∀ w : Run E, I w.log → C.halted w)
    (hRead :
      ∀ φ fuel,
        Triple C (Holds (In φ (fun _ l => I l)))
          (readPacket port fuel)
          (fun _ => Holds (In φ (fun _ l => I l))))
    (hSend :
      ∀ φ fuel length timer,
        Triple C
          (fun w =>
            Sendable (w.st.client.writeBuf.load 0 length) ∧
              Holds (In φ (fun _ l => I l)) w)
          (sendPacket port fuel length timer)
          (fun _ => Holds (In φ (fun _ l => I l))))
    (hEvent :
      ∀ l e, Event.isOther e = true → I l → I (e :: l))
    (hUncut :
      ¬ cut → ∀ l, I l →
        C.excused (.call true .disconnect :: l)) :
    (plainRegime C I cut).Lawful port where
  single := hSingle
  halt_live := hHalt
  halt_down := hHalt
  neutral_live := fun _ l e hE hI =>
    hEvent l e (isOther_of_neutral hE) hI
  neutral_down := fun _ l e hE hI =>
    hEvent l e (isOther_of_neutral hE) hI
  read := by
    intro φ J fuel hMode
    rw [plainRegime_mode hMode]
    exact hRead φ fuel
  send := by
    intro φ J fuel length timer hMode
    rw [plainRegime_mode hMode]
    exact hSend φ fuel length timer
  connected := fun _ l hI => Or.inr (hEvent l _ rfl hI)
  refused := fun _ l _ _ hI => hEvent l _ rfl hI
  destroyed := fun _ l _ _ _ _ hI =>
    hEvent l _ rfl (hI.elim id id)
  destroyedCut := fun _ _ l _ _ hRest =>
    Or.inr
      ⟨hRest.1, fun hOn => hEvent l _ rfl (hRest.2.1 hOn),
        fun hOff => hEvent l _ rfl (hRest.2.2 hOff)⟩
  closed := by
    intro J f l found hMode hJ
    rw [plainRegime_mode hMode] at hJ
    exact hEvent l _ rfl hJ
  notClosed := by
    intro J f l rc found hMode _ hJ
    rw [plainRegime_mode hMode] at hJ ⊢
    exact Or.inr (hEvent l _ rfl hJ)
  handlerConnected := fun _ l _ _ hI =>
    Or.inr (hEvent l _ rfl hI)
  handlerDisconnected := fun _ l _ hI => hEvent l _ rfl hI
  ret_live := fun _ l _ _ _ hI => hEvent l _ rfl hI
  ret_down := fun _ l _ _ _ hI => hEvent l _ rfl hI
  uncut := fun _ l hNot _ hI => hUncut hNot l hI
  calls := fun _ _ _ _ _ _ => trivial
  reset := fun _ l hI =>
    Or.inr (hEvent l _ rfl (hI.elim id id))

/- The same for a fact that survives every event. -/
theorem plainRegime_lawful
    (hSingle : port.threadSupport = false)
    (hHalt : ∀ w : Run E, I w.log → C.halted w)
    (hEvent : ∀ l e, I l → I (e :: l))
    (hUncut :
      ¬ cut → ∀ l, I l →
        C.excused (.call true .disconnect :: l)) :
    (plainRegime C I cut).Lawful port := by
  refine
    plainRegime_lawful_of_transfers hSingle hHalt ?_ ?_
      (fun l e _ => hEvent l e) hUncut
  · intro φ fuel
    exact
      in_readPacket hHalt (fun _ l e _ h => hEvent l e h) fuel
  · intro φ fuel length timer
    exact
      (in_sendPacket hSingle hHalt
        (fun _ l e _ h => hEvent l e h) fuel length
        timer).pre (fun _ h => h.2)

theorem plainRegime_tableBlind
    (hEvent :
      ∀ l e, Event.isOther e = true → I l → I (e :: l)) :
    (plainRegime C I cut).TableBlind where
  table := by
    intro J f l table hJ hFact
    have hEq : J = fun _ l => I l := hJ.elim id id
    rw [hEq] at hFact ⊢
    exact hFact
  registered := by
    intro J f l slot previous hJ hFact
    have hEq : J = fun _ l => I l := hJ.elim id id
    rw [hEq] at hFact ⊢
    exact hEvent l _ rfl hFact
  ret := by
    intro J f l c rc hJ hFact
    have hEq : J = fun _ l => I l := hJ.elim id id
    rw [hEq] at hFact ⊢
    exact hEvent l _ rfl hFact

end Mqtt

end TrustOnboard

------------------------------------------------------------
-- Between Calls
------------------------------------------------------------

namespace TrustOnboard

namespace Mqtt

variable {E : Type}
variable {port : Port E}

/- The regime that only follows the client state. -/
abbrev stateRegime : Regime E :=
  plainRegime (Contract.plain (Sys E) Event) (fun _ => True)
    True

theorem stateRegime_lawful
    (hSingle : port.threadSupport = false) :
    (stateRegime (E := E)).Lawful port :=
  plainRegime_lawful hSingle (fun _ _ => trivial)
    (fun _ _ _ => trivial) (fun hNo => absurd trivial hNo)

/- Every session ends in a stable state. -/
theorem session_isStable
    (hSingle : port.threadSupport = false)
    {fuel : Nat}
    {calls : List TopCall}
    {w w' : Run E}
    (hStart : w.st.client.clientState.isStable = true)
    (hRun :
      (session port fuel calls).run w = (some (), w')) :
    w'.st.client.clientState.isStable = true := by
  have hLawful := stateRegime_lawful hSingle
  have hSession :=
    hLawful.session
      (hLawful.tableLaws
        (plainRegime_tableBlind (fun _ _ _ _ => trivial)))
      fuel calls
  have hRest : Holds (stateRegime (E := E)).Rest w :=
    ⟨hStart, fun _ => trivial, fun _ => trivial⟩
  rcases hSession.of_run hRest hRun with hNo | hPost
  · exact hNo.elim
  · exact hPost.1

end Mqtt

end TrustOnboard

------------------------------------------------------------
-- Requests
------------------------------------------------------------

namespace TrustOnboard

namespace Mqtt

variable {E : Type}
variable {port : Port E}

/- Publish, subscribe, unsubscribe and resubscribe. -/
def ApiCall.isRequest : ApiCall → Bool
  | .publish _ _ _ => true
  | .subscribe _ _ _ _ _ => true
  | .unsubscribe _ _ => true
  | .resubscribe => true
  | _ => false

/- A disconnect called by a callback inside a wait. -/
def Event.isDisconnectInWait : Event → Bool
  | .call true .disconnect => true
  | _ => false

/-
  The contract that excuses a disconnect made by a callback
  inside a wait, from a given point of the log on.
-/
def sinceContract (l₀ : List Event) :
    Contract (Sys E) Event where
  excused := fun l =>
    ∃ es, l = es ++ l₀ ∧
      ∃ e ∈ es, Event.isDisconnectInWait e = true
  excused_append := by
    intro l es hBad
    rcases hBad with ⟨es', rfl, e, hMem, hKind⟩
    exact ⟨es ++ es', by simp, e, by simp [hMem], hKind⟩
  halted := fun _ => True

/- The regime of one request. -/
abbrev requestRegime (l₀ : List Event) : Regime E :=
  plainRegime (sinceContract l₀) (fun l => ∃ es, l = es ++ l₀)
    False

theorem extends_cons
    {l₀ : List Event}
    (l : List Event)
    (e : Event)
    (hExt : ∃ es, l = es ++ l₀) :
    ∃ es, e :: l = es ++ l₀ := by
  rcases hExt with ⟨es, rfl⟩
  exact ⟨e :: es, rfl⟩

theorem requestRegime_lawful
    (hSingle : port.threadSupport = false)
    (l₀ : List Event) :
    (requestRegime (E := E) l₀).Lawful port := by
  refine plainRegime_lawful hSingle (fun _ _ => trivial)
    extends_cons ?_
  intro _ l hExt
  rcases hExt with ⟨es, rfl⟩
  exact
    ⟨.call true .disconnect :: es, rfl,
      .call true .disconnect, by simp, rfl⟩

/- An operation refused because another is in progress. -/
theorem enterOperation_busy
    {C : Contract (Sys E) Event}
    {I : Fact}
    {s : ClientState}
    (hBusy : s.isReady = false)
    {during : ClientState}
    {refused : ClientState → IoTError → Code E IoTError}
    {operation : Code E IoTError} :
    Triple C (Holds (At s I))
      (enterOperation port during refused operation)
      (fun _ => Holds (At s I)) := by
  refine at_getClientState.bind ?_
  intro seen
  refine Triple.of_fact ?_
  rintro rfl
  refine Triple.ite (fun _ => Triple.same) (fun _ => ?_)
  refine at_getClientState.bind ?_
  intro clientState
  refine Triple.of_fact ?_
  rintro rfl
  refine Triple.ite (fun _ => Triple.same) ?_
  intro hNo
  exfalso
  apply hNo
  constructor
  · rintro rfl
    cases hBusy
  · rintro rfl
    cases hBusy

/- Where no callback may cut, a phase is its state. -/
theorem at_of_phase
    {R : Regime E}
    (hUncut : ¬ R.cut)
    {s s' : ClientState}
    {I : Fact}
    {f : Frame}
    {l : List Event}
    (hPhase : R.Phase s I s' f l) :
    At s I s' f l := by
  rcases hPhase with hAt | hOut
  · exact hAt
  · exact absurd (hOut.1 rfl) hUncut

/- A request that starts its work. -/
theorem request_ready
    {R : Regime E}
    (hR : R.Lawful port)
    (hTable : R.TableLaws port)
    (hUncut : ¬ R.cut)
    (hRet :
      ∀ f l c rc, R.live f l →
        R.live f (.ret c rc f.table :: l))
    {inWait inYield : ApiCall → Code E IoTError}
    (hWait : R.Reentry (runCallback port inWait) true)
    {s : ClientState}
    (hReady : s.isReady = true)
    (fuel : Nat)
    {c : ApiCall}
    (hRequest : c.isRequest = true) :
    Triple R.contract (Holds (At s R.live))
      (logReturn c (apiBody port fuel inWait inYield c))
      (fun _ => Holds (At s R.live)) := by
  have hLog :
      ∀ {body : Code E IoTError},
        Triple R.contract (Holds (At s R.live)) body
          (fun _ => Holds (At s R.live)) →
        Triple R.contract (Holds (At s R.live))
          (logReturn c body)
          (fun _ => Holds (At s R.live)) := by
    intro body hBody
    refine Regime.holds_logReturn (φ := fun _ => True)
      (fun _ f l rc _ h => ⟨h.1, hRet f l c rc h.2⟩)
      (hBody.post (fun _ _ h => ⟨trivial, h⟩))
  have hAt :
      ∀ (_ : IoTError) (w : Run E),
        Holds (R.Phase s R.live) w →
          Holds (At s R.live) w :=
    fun _ _ h => at_of_phase hUncut h
  cases c with
  | publish topic topicLen params =>
      exact
        hLog
          ((hR.publish hWait Regime.live_mode hReady fuel
            topic topicLen params).post hAt)
  | subscribe topic topicLen qos handler data =>
      exact
        (hTable.subscribe _ _ _ fuel topic topicLen qos
          handler data hWait Regime.live_mode hReady).post
            hAt
  | unsubscribe filter filterLen =>
      exact
        (hTable.unsubscribe _ _ _ fuel filter filterLen
          hWait Regime.live_mode hReady).post hAt
  | resubscribe =>
      refine hLog ?_
      by_cases hIdle : s = .connectedIdle
      · subst hIdle
        exact (hR.resubscribe hWait fuel).post hAt
      · exact Regime.resubscribe_off hIdle fuel
  | connect params => cases hRequest
  | disconnect => cases hRequest
  | attemptReconnect => cases hRequest
  | yield timeoutMs => cases hRequest
  | autoreconnectSetStatus status => cases hRequest
  | setDisconnectHandler handler data => cases hRequest

/- A request that is refused. -/
theorem request_busy
    {C : Contract (Sys E) Event}
    {I : Fact}
    (hRet :
      ∀ f l c rc, I f l → I f (.ret c rc f.table :: l))
    {inWait inYield : ApiCall → Code E IoTError}
    {s : ClientState}
    (hBusy : s.isReady = false)
    (fuel : Nat)
    {c : ApiCall}
    (hRequest : c.isRequest = true) :
    Triple C (Holds (At s I))
      (logReturn c (apiBody port fuel inWait inYield c))
      (fun _ => Holds (At s I)) := by
  refine Regime.holds_logReturn (φ := fun _ => True)
    (fun _ f l rc _ h => ⟨h.1, hRet f l c rc h.2⟩) ?_
  refine Triple.post (B := fun _ => Holds (At s I)) ?_
    (fun _ _ h => ⟨trivial, h⟩)
  cases c with
  | publish topic topicLen params =>
      unfold apiBody publish
      cases params with
      | none => exact Triple.same
      | some params =>
          exact
            Triple.ite (fun _ => Triple.same)
              (fun _ => enterOperation_busy hBusy)
  | subscribe topic topicLen qos handler data =>
      exact
        Triple.ite (fun _ => Triple.same)
          (fun _ => enterOperation_busy hBusy)
  | unsubscribe filter filterLen =>
      exact
        Triple.ite (fun _ => Triple.same)
          (fun _ => enterOperation_busy hBusy)
  | resubscribe =>
      refine Regime.resubscribe_off ?_ fuel
      rintro rfl
      cases hBusy
  | connect params => cases hRequest
  | disconnect => cases hRequest
  | attemptReconnect => cases hRequest
  | yield timeoutMs => cases hRequest
  | autoreconnectSetStatus status => cases hRequest
  | setDisconnectHandler handler data => cases hRequest

/- A request returns the state it found. -/
theorem request_keepsState
    (hSingle : port.threadSupport = false)
    {fuel : Nat}
    {waiting : Bool}
    {c : ApiCall}
    (hRequest : c.isRequest = true)
    {w w' : Run E}
    {rc : IoTError}
    (hRun :
      (api port fuel waiting c).run w = (some rc, w'))
    {es : List Event}
    (hLog : w'.log = es ++ w.log)
    (hCalm : ∀ e ∈ es, Event.isDisconnectInWait e = false) :
    w'.st.client.clientState = w.st.client.clientState := by
  have hR := requestRegime_lawful hSingle w.log
  have hTable :=
    hR.tableLaws
      (plainRegime_tableBlind
        (fun l e _ => extends_cons l e))
  have hBody :
      Triple (sinceContract w.log)
        (Holds (At w.st.client.clientState
          (fun _ l => ∃ es, l = es ++ w.log)))
        (api port fuel waiting c)
        (fun _ => Holds (At w.st.client.clientState
          (fun _ l => ∃ es, l = es ++ w.log))) := by
    cases fuel with
    | zero => exact Triple.stop (fun _ _ => trivial)
    | succ fuel =>
        refine
          (hR.record_call_mode Regime.live_mode waiting
            c).bind ?_
        intro _
        cases hReady : w.st.client.clientState.isReady with
        | true =>
            exact
              request_ready hR hTable (fun h => h)
                (fun _ l _ _ h => extends_cons l _ h)
                (hR.reentry_of_callSpec
                  (hR.callSpec hTable fuel) true)
                hReady fuel hRequest
        | false =>
            exact
              request_busy
                (fun _ l _ _ h => extends_cons l _ h)
                hReady fuel hRequest
  rcases hBody.of_run ⟨rfl, [], rfl⟩ hRun with
    ⟨es', hLog', e, hMem, hKind⟩ | hPost
  · rw [hLog] at hLog'
    rw [List.append_cancel_right hLog'] at hCalm
    rw [hCalm e hMem] at hKind
    cases hKind
  · exact hPost.1

/-
  The state machine is closed.  Whatever the network, the
  timers, the message callbacks and the disconnect handler
  do, the client is in a stable state between calls; and a
  request during which no callback disconnects returns with
  the client state it found.
-/
theorem clientState_closed
    (port : Port E)
    (hSingle : port.threadSupport = false)
    (fuel : Nat) :
    (∀ (calls : List TopCall) (w w' : Run E),
      w.st.client.clientState.isStable = true →
      (session port fuel calls).run w = (some (), w') →
        w'.st.client.clientState.isStable = true) ∧
    (∀ (waiting : Bool) (c : ApiCall) (w w' : Run E)
      (rc : IoTError) (es : List Event),
      c.isRequest = true →
      (api port fuel waiting c).run w = (some rc, w') →
      w'.log = es ++ w.log →
      (∀ e ∈ es, Event.isDisconnectInWait e = false) →
        w'.st.client.clientState =
          w.st.client.clientState) := by
  constructor
  · intro calls w w' hStart hRun
    exact session_isStable hSingle hStart hRun
  · intro waiting c w w' rc es hRequest hRun hLog hCalm
    exact
      request_keepsState hSingle hRequest hRun hLog hCalm

/-
  A client with one subscription waits for a SUBACK.  The
  message that arrives first makes its callback subscribe to
  a second topic.
-/
def nestedSubscribe : Run Script :=
  scriptStart
    (scriptClient .connectedIdle
      [letterSlot 84 upperT_ne, freeSlot, freeSlot])
    { Script.idle with
      incoming :=
        [some (publishPacket 84 ++ subackPacket 3 ++
          subackPacket 2)]
      timers := List.replicate 12 false
      callbacks := [[subscribeLetter 66 upperB_ne]] }

theorem clientState_closed_nestedSubscribe :
    (∃ w',
      (session scriptPort 6
        [.api (subscribeLetter 65 upperA_ne)]).run
          nestedSubscribe = (some (), w') ∧
        w'.st.client.clientState.isStable = true) ∧
    (∃ w',
      (api scriptPort 6 false
        (subscribeLetter 65 upperA_ne)).run
          nestedSubscribe = (some .success, w') ∧
        w'.st.client.clientState = .connectedIdle) := by
  have hClosed := clientState_closed scriptPort rfl 6
  have hSession :
      (session scriptPort 6
        [.api (subscribeLetter 65 upperA_ne)]).run
          nestedSubscribe =
        (some (),
          ((session scriptPort 6
            [.api (subscribeLetter 65 upperA_ne)]).run
              nestedSubscribe).2) :=
    Prod.ext (by decide +kernel) rfl
  have hCall :
      (api scriptPort 6 false
        (subscribeLetter 65 upperA_ne)).run
          nestedSubscribe =
        (some .success,
          ((api scriptPort 6 false
            (subscribeLetter 65 upperA_ne)).run
              nestedSubscribe).2) :=
    Prod.ext (by decide +kernel) rfl
  refine
    ⟨⟨_, hSession, hClosed.1 _ _ _ rfl hSession⟩,
      ⟨_, hCall, ?_⟩⟩
  exact
    hClosed.2 false _ _ _ _ _ rfl hCall
      (List.append_nil _).symm (by decide +kernel)

end Mqtt

end TrustOnboard
