import TrustOnboard.Mqtt.Regime.Yield

/-
  Whole runs in a regime.

  The calls that change the handler table are described by
  `Regime.TableLaws`, since a regime may say something about
  the table.  Everything else follows by induction on the
  nesting depth of calls.

  Key definitions include:
    * `Regime.TableLaws`

  Key results include:
    * `Regime.Lawful.api_inside`
    * `Regime.Lawful.api_rest`
    * `Regime.Lawful.session`
-/

------------------------------------------------------------
-- Calls
------------------------------------------------------------

namespace TrustOnboard

namespace Mqtt

namespace Regime

variable {E : Type}
variable {R : Regime E}
variable {port : Port E}
variable {call : ApiCall → Code E IoTError}
variable {waiting : Bool}

/-
  The calls that change the table, together with the record
  of their return.
-/
structure TableLaws
    (R : Regime E)
    (port : Port E) : Prop where
  subscribe :
    ∀ (callback : Callback E) I s fuel topic topicLen qos
      handler data,
      R.Reentry callback true → R.Mode I →
        s.isReady = true →
          Triple R.contract (Holds (At s I))
            (logReturn
              (.subscribe topic topicLen qos handler data)
              (Mqtt.subscribe port fuel callback topic
                topicLen qos handler data))
            (fun _ => Holds (R.Phase s I))
  unsubscribe :
    ∀ (callback : Callback E) I s fuel filter filterLen,
      R.Reentry callback true → R.Mode I →
        s.isReady = true →
          Triple R.contract (Holds (At s I))
            (logReturn (.unsubscribe filter filterLen)
              (Mqtt.unsubscribe port fuel callback filter
                filterLen))
            (fun _ => Holds (R.Phase s I))

/- The record of a return keeps what the body established. -/
theorem holds_logReturn
    {C : Contract (Sys E) Event}
    {P : Run E → Prop}
    {K : Cond}
    {φ : IoTError → Prop}
    {c : ApiCall}
    {body : Code E IoTError}
    (hRet :
      ∀ s f l rc, φ rc → K s f l →
        K s f (.ret c rc f.table :: l))
    (hBody :
      Triple C P body (fun rc w => φ rc ∧ Holds K w)) :
    Triple C P (logReturn c body) (fun _ => Holds K) := by
  refine hBody.bind ?_
  intro rc
  refine Triple.of_fact ?_
  intro hRc
  refine Triple.bind (M := fun _ => Holds K)
    (Triple.emit ?_) (fun _ => Triple.same)
  intro w hK
  exact Or.inr (hRet _ _ _ rc hRc hK)

namespace Lawful

theorem ret_rest
    (hR : R.Lawful port)
    {c : ApiCall}
    (s : ClientState)
    (f : Frame)
    (l : List Event)
    (rc : IoTError)
    (hCode : c.changesTable = true → rc ≠ .success)
    (hRest : R.Rest s f l) :
    R.Rest s f (.ret c rc f.table :: l) :=
  ⟨hRest.1,
    fun hOn => hR.ret_live f l c rc hCode (hRest.2.1 hOn),
    fun hOff => hR.ret_down f l c rc hCode
      (hRest.2.2 hOff)⟩

theorem ret_mode
    (hR : R.Lawful port)
    {I : Fact}
    (hMode : R.Mode I)
    {c : ApiCall}
    (f : Frame)
    (l : List Event)
    (rc : IoTError)
    (hCode : c.changesTable = true → rc ≠ .success)
    (hI : I f l) :
    I f (.ret c rc f.table :: l) := by
  rcases hMode with rfl | ⟨_, rfl⟩
  · exact hR.ret_live f l c rc hCode hI
  · exact hR.ret_down f l c rc hCode hI

theorem ret_callbackPhase
    (hR : R.Lawful port)
    {I : Fact}
    (hMode : R.Mode I)
    {c : ApiCall}
    (s : ClientState)
    (f : Frame)
    (l : List Event)
    (rc : IoTError)
    (hCode : c.changesTable = true → rc ≠ .success)
    (hPhase : R.CallbackPhase waiting I s f l) :
    R.CallbackPhase waiting I s f
      (.ret c rc f.table :: l) := by
  rcases hPhase with ⟨hState, hI⟩ | ⟨hCut, hRest⟩
  · exact Or.inl
      ⟨hState, hR.ret_mode hMode f l rc hCode hI⟩
  · exact Or.inr
      ⟨hCut, hR.ret_rest s f l rc hCode hRest⟩

/- A phase of callbacks that may be over. -/
theorem callbackPhase_of_phase
    {I : Fact}
    {s : ClientState}
    {f : Frame}
    {l : List Event}
    (hPhase : R.Phase .connectedWaitForCbReturn I s f l) :
    R.CallbackPhase waiting I s f l := by
  rcases hPhase with hAt | hOut
  · exact Or.inl hAt
  · exact Or.inr ⟨fun _ => hOut.1 rfl, hOut.2⟩

/- A call of a callback, given the call itself. -/
theorem makeCall_call
    {C : Contract (Sys E) Event}
    {K L : Cond}
    {c : ApiCall}
    (hCall :
      Triple C (Holds K) (call c) (fun _ => Holds L)) :
    Triple C (Holds K) (makeCall call c)
      (fun _ => Holds L) := by
  refine (holds_modifyMessages _).bind ?_
  intro _
  exact hCall.bind (fun _ => Triple.same)

/- Callbacks whose calls behave, behave. -/
theorem reentry_runCallback
    (hR : R.Lawful port)
    (hInside :
      ∀ I c, R.Mode I → R.allowed c →
        Triple R.contract
          (Holds (At .connectedWaitForCbReturn I))
          (call c)
          (fun _ => Holds (R.CallbackPhase waiting I)))
    (hOutside :
      ∀ c, Triple R.contract (Holds (R.Out waiting))
        (call c) (fun _ => Holds (R.Out waiting))) :
    R.Reentry (runCallback port call) waiting where
  inside := by
    intro I handler data msg hMode
    refine Triple.bind
      (M := fun calls w =>
        (∀ c ∈ calls, R.allowed c) ∧
          Holds (R.CallbackPhase waiting I) w) ?_ ?_
    · refine Triple.step ?_
      intro w hAt
      exact Or.inr ⟨hR.calls _ _ _ _, Or.inl hAt⟩
    · intro calls
      refine Triple.of_fact ?_
      intro hAllowed
      refine Triple.each ?_
      intro c hMem
      refine makeCall_call ?_
      refine or_pre (hInside I c hMode (hAllowed c hMem)) ?_
      exact (hOutside c).post (fun _ _ h => Or.inr h)
  outside := by
    intro handler data msg
    refine Triple.bind
      (M := fun _ => Holds (R.Out waiting))
      (Triple.step (fun _ h => Or.inr h)) ?_
    intro calls
    refine Triple.each ?_
    intro c _
    exact makeCall_call (hOutside c)

theorem handlerRests_runDisconnectHandler
    (hCall :
      ∀ c, Triple R.contract (Holds R.Rest) (call c)
        (fun _ => Holds R.Rest)) :
    R.HandlerRests (runDisconnectHandler port call) := by
  intro handler data
  refine Triple.bind (M := fun _ => Holds R.Rest)
    (Triple.step (fun _ h => Or.inr h)) ?_
  intro calls
  refine Triple.each ?_
  intro c _
  exact makeCall_call (hCall c)

/- The body of a call made inside a callback. -/
theorem apiBody_inside
    (hR : R.Lawful port)
    (hTable : R.TableLaws port)
    {inWait inYield : ApiCall → Code E IoTError}
    (hWait : R.Reentry (runCallback port inWait) true)
    {I : Fact}
    (hMode : R.Mode I)
    (fuel : Nat)
    (c : ApiCall)
    (hCut : c = .disconnect → waiting = true → R.cut) :
    Triple R.contract
      (Holds (At .connectedWaitForCbReturn I))
      (logReturn c (apiBody port fuel inWait inYield c))
      (fun _ => Holds (R.CallbackPhase waiting I)) := by
  have hStay :
      ∀ {body : Code E IoTError}, c.changesTable = false →
        Triple R.contract
          (Holds (At .connectedWaitForCbReturn I)) body
          (fun _ =>
            Holds (At .connectedWaitForCbReturn I)) →
        Triple R.contract
          (Holds (At .connectedWaitForCbReturn I))
          (logReturn c body)
          (fun _ => Holds (R.CallbackPhase waiting I)) := by
    intro body hKind hBody
    refine holds_logReturn (φ := fun _ => True) ?_
      (hBody.post (fun _ _ h => ⟨trivial, Or.inl h⟩))
    intro s f l rc _ hPhase
    refine hR.ret_callbackPhase hMode s f l rc ?_ hPhase
    intro hYes
    rw [hKind] at hYes
    cases hYes
  cases c with
  | connect params =>
      exact hStay rfl (connect_off rfl fuel params)
  | disconnect =>
      refine holds_logReturn (φ := fun _ => True) ?_ ?_
      · intro s f l rc _ hPhase
        exact
          hR.ret_callbackPhase hMode s f l rc (fun h => by cases h)
            hPhase
      · refine (hR.disconnect hMode rfl fuel).post ?_
        intro rc w hPost
        refine ⟨trivial, ?_⟩
        rcases hPost with ⟨_, hAt⟩ | ⟨_, hAt⟩
        · exact Or.inr ⟨hCut rfl, (rest_of_at rfl rfl hAt).1⟩
        · exact Or.inl hAt
  | attemptReconnect =>
      exact hStay rfl (attemptReconnect_on rfl fuel)
  | publish topic topicLen params =>
      refine holds_logReturn (φ := fun _ => True) ?_ ?_
      · intro s f l rc _ hPhase
        exact
          hR.ret_callbackPhase hMode s f l rc (fun h => by cases h)
            hPhase
      · refine
          (hR.publish hWait hMode rfl fuel topic topicLen
            params).post ?_
        intro rc w hPhase
        exact ⟨trivial, callbackPhase_of_phase hPhase⟩
  | subscribe topic topicLen qos handler data =>
      exact
        (hTable.subscribe _ _ _ fuel topic topicLen qos
          handler data hWait hMode rfl).post
            (fun _ _ h => callbackPhase_of_phase h)
  | unsubscribe filter filterLen =>
      exact
        (hTable.unsubscribe _ _ _ fuel filter filterLen hWait
          hMode rfl).post
            (fun _ _ h => callbackPhase_of_phase h)
  | resubscribe =>
      exact hStay rfl (resubscribe_off (by decide) fuel)
  | yield timeoutMs =>
      exact
        hStay rfl
          (yield_busy (by decide) (by decide) fuel timeoutMs)
  | autoreconnectSetStatus status =>
      refine hStay rfl ?_
      exact
        Triple.seq
          (holds_modifyClient (fun _ => rfl) (fun _ => rfl))
          (fun _ => Triple.same)
  | setDisconnectHandler handler data =>
      refine hStay rfl ?_
      refine Triple.ite (fun _ => Triple.same) (fun _ => ?_)
      exact
        Triple.seq
          (holds_modifyClient (fun _ => rfl) (fun _ => rfl))
          (fun _ => Triple.same)

/- The body of a call made on a client at rest. -/
theorem apiBody_rest
    (hR : R.Lawful port)
    (hTable : R.TableLaws port)
    {inWait inYield : ApiCall → Code E IoTError}
    (hWait : R.Reentry (runCallback port inWait) true)
    (hYield : R.Reentry (runCallback port inYield) waiting)
    (hLost :
      R.HandlerRests (runDisconnectHandler port inYield))
    (fuel : Nat)
    (c : ApiCall) :
    Triple R.contract (Holds R.Rest)
      (logReturn c (apiBody port fuel inWait inYield c))
      (fun _ => Holds R.Rest) := by
  have hLog :
      ∀ {P : Run E → Prop} {body : Code E IoTError},
        c.changesTable = false →
        Triple R.contract P body (fun _ => Holds R.Rest) →
        Triple R.contract P (logReturn c body)
          (fun _ => Holds R.Rest) := by
    intro P body hKind hBody
    refine holds_logReturn (φ := fun _ => True) ?_
      (hBody.post (fun _ _ h => ⟨trivial, h⟩))
    intro s f l rc _ hRest
    refine hR.ret_rest s f l rc ?_ hRest
    intro hYes
    rw [hKind] at hYes
    cases hYes
  have hIdle :
      ∀ (w : Run E),
        Holds (At .connectedIdle R.live) w →
          Holds R.Rest w :=
    fun _ h => rest_of_phase_idle (phase_of_at h)
  cases c with
  | connect params =>
      refine hLog rfl (rest_pre ?_ ?_)
      · exact (connect_off rfl fuel params).post
          (fun _ w h => hIdle w h)
      · intro s hStable hOff
        cases hValid : isClientStateValidForConnect s with
        | true =>
            exact (hR.connect hWait hValid fuel params).post
              (fun _ _ h => rest_of_settled rfl rfl h)
        | false =>
            exact (connect_off hValid fuel params).post
              (fun _ _ h => (rest_of_at hStable hOff h).1)
  | disconnect =>
      refine hLog rfl (rest_pre ?_ ?_)
      · refine (hR.disconnect live_mode rfl fuel).post ?_
        intro rc w hPost
        rcases hPost with ⟨_, hAt⟩ | ⟨_, hAt⟩
        · exact (rest_of_at rfl rfl hAt).1
        · exact hIdle w hAt
      · intro s hStable hOff
        exact (disconnect_off hOff fuel).post
          (fun _ _ h => (rest_of_at hStable hOff h.2).1)
  | attemptReconnect =>
      refine hLog rfl (rest_pre ?_ ?_)
      · exact (attemptReconnect_on rfl fuel).post
          (fun _ w h => hIdle w h)
      · intro s hStable hOff
        cases hValid : isClientStateValidForConnect s with
        | true =>
            refine
              (hR.attemptReconnect hWait hValid fuel).post ?_
            intro rc w hPost
            rcases hPost with ⟨_, hAt⟩ | hPhase
            · exact (rest_of_at rfl rfl hAt).1
            · exact rest_of_phase_idle hPhase
        | false =>
            have hInvalid : s = .invalid := by
              cases s <;>
                simp [isClientStateValidForConnect,
                  isClientConnected,
                  ClientState.isStable] at *
            subst hInvalid
            exact
              (attemptReconnect_invalid hR.single
                hR.quiet_down fuel).post
                  (fun _ _ h => (rest_of_at rfl rfl h).1)
  | publish topic topicLen params =>
      refine hLog rfl (rest_pre ?_ ?_)
      · exact
          (hR.publish hWait live_mode rfl fuel topic topicLen
            params).post
              (fun _ _ h => rest_of_phase_idle h)
      · intro s hStable hOff
        exact
          (publish_off hOff fuel topic topicLen params).post
            (fun _ _ h => (rest_of_at hStable hOff h).1)
  | subscribe topic topicLen qos handler data =>
      refine rest_pre ?_ ?_
      · exact
          (hTable.subscribe _ _ _ fuel topic topicLen qos
            handler data hWait live_mode rfl).post
              (fun _ _ h => rest_of_phase_idle h)
      · intro s hStable hOff
        refine holds_logReturn
          (φ := fun rc => rc ≠ .success) ?_
          ((subscribe_off hOff fuel topic topicLen qos handler
            data).post (fun _ _ h =>
              ⟨h.1, (rest_of_at hStable hOff h.2).1⟩))
        intro s f l rc hRc hRest
        exact hR.ret_rest s f l rc (fun _ => hRc) hRest
  | unsubscribe filter filterLen =>
      refine rest_pre ?_ ?_
      · exact
          (hTable.unsubscribe _ _ _ fuel filter filterLen
            hWait live_mode rfl).post
              (fun _ _ h => rest_of_phase_idle h)
      · intro s hStable hOff
        refine holds_logReturn
          (φ := fun rc => rc ≠ .success) ?_
          ((unsubscribe_off hOff fuel filter filterLen).post
            (fun _ _ h =>
              ⟨h.1, (rest_of_at hStable hOff h.2).1⟩))
        intro s f l rc hRc hRest
        exact hR.ret_rest s f l rc (fun _ => hRc) hRest
  | resubscribe =>
      refine hLog rfl (rest_pre ?_ ?_)
      · exact (hR.resubscribe hWait fuel).post
          (fun _ _ h => rest_of_phase_idle h)
      · intro s hStable hOff
        have hBusy : s ≠ .connectedIdle := by
          rintro rfl
          cases hOff
        exact (resubscribe_off hBusy fuel).post
          (fun _ _ h => (rest_of_at hStable hOff h).1)
  | yield timeoutMs =>
      exact
        hLog rfl
          (hR.yield hWait hYield hLost fuel timeoutMs)
  | autoreconnectSetStatus status =>
      refine hLog rfl ?_
      exact
        Triple.seq
          (holds_modifyClient (fun _ => rfl) (fun _ => rfl))
          (fun _ => Triple.same)
  | setDisconnectHandler handler data =>
      refine hLog rfl ?_
      refine Triple.ite (fun _ => Triple.same) (fun _ => ?_)
      exact
        Triple.seq
          (holds_modifyClient (fun _ => rfl) (fun _ => rfl))
          (fun _ => Triple.same)

end Lawful

end Regime

end Mqtt

end TrustOnboard

------------------------------------------------------------
-- Nested Calls And Sessions
------------------------------------------------------------

namespace TrustOnboard

namespace Mqtt

namespace Regime

variable {E : Type}
variable {R : Regime E}
variable {port : Port E}

namespace Lawful

theorem record_call_mode
    (hR : R.Lawful port)
    {I : Fact}
    (hMode : R.Mode I)
    (waiting : Bool)
    (c : ApiCall)
    {φ : ClientState → Prop} :
    Triple R.contract (Holds (In φ I))
      (record (.call waiting c))
      (fun _ => Holds (In φ I)) := by
  refine Triple.emit ?_
  intro w hIn
  exact Or.inr
    ⟨hIn.1, hR.neutral_mode hMode _ _ _ rfl hIn.2⟩

theorem record_call_rest
    (hR : R.Lawful port)
    (waiting : Bool)
    (c : ApiCall) :
    Triple R.contract (Holds R.Rest)
      (record (.call waiting c))
      (fun _ => Holds R.Rest) := by
  refine Triple.emit ?_
  intro w hRest
  exact Or.inr (hR.quiet_rest rfl hRest)

/-
  What a call does at a given nesting depth, inside a callback
  and on a client at rest.
-/
def CallSpec
    (R : Regime E)
    (port : Port E)
    (fuel : Nat) : Prop :=
  (∀ I waiting c, R.Mode I →
    (waiting = true → R.allowed c) →
      Triple R.contract
        (Holds (At .connectedWaitForCbReturn I))
        (api port fuel waiting c)
        (fun _ => Holds (R.CallbackPhase waiting I))) ∧
  (∀ waiting c, (waiting = true → R.cut) →
    Triple R.contract (Holds R.Rest)
      (api port fuel waiting c)
      (fun _ => Holds R.Rest))

/- Callbacks behave when the calls one level deeper do. -/
theorem reentry_of_callSpec
    (hR : R.Lawful port)
    {fuel : Nat}
    (hSpec : CallSpec R port fuel)
    (waiting : Bool) :
    R.Reentry (runCallback port (api port fuel waiting))
      waiting := by
  refine hR.reentry_runCallback ?_ ?_
  · intro I c hMode hAllowed
    exact hSpec.1 I waiting c hMode (fun _ => hAllowed)
  · intro c
    refine Triple.of_fact ?_
    intro hCut
    exact (hSpec.2 waiting c hCut).post
      (fun _ _ h => ⟨hCut, h⟩)

/-
  Induction on the nesting depth.  A disconnect inside a wait
  is either permitted to cut the wait or excuses the run.
-/
theorem callSpec
    (hR : R.Lawful port)
    (hTable : R.TableLaws port)
    (fuel : Nat) :
    CallSpec R port fuel := by
  induction fuel with
  | zero =>
      constructor
      · intro I waiting c hMode _
        exact
          Triple.stop (fun w h => hR.halt_mode hMode w h.2)
      · intro waiting c _
        exact Triple.stop (fun w h => hR.halt_rest w h)
  | succ fuel ih =>
      have hWait := hR.reentry_of_callSpec ih true
      constructor
      · intro I waiting c hMode hAllowed
        by_cases hCut :
            c = .disconnect → waiting = true → R.cut
        · refine
            (hR.record_call_mode hMode waiting c).bind ?_
          intro _
          exact
            hR.apiBody_inside hTable hWait hMode fuel c hCut
        · have hBad :
              c = .disconnect ∧ waiting = true ∧ ¬ R.cut := by
            by_contra hNo
            apply hCut
            intro hc hw
            by_contra hNotCut
            exact hNo ⟨hc, hw, hNotCut⟩
          rcases hBad with ⟨rfl, rfl, hNotCut⟩
          refine Triple.bind (M := fun _ _ => False) ?_
            (fun _ => Triple.false_pre (fun _ h => h))
          refine Triple.emit ?_
          intro w hAt
          have hLive : I = R.live := by
            rcases hMode with hLive | ⟨hCut, _⟩
            · exact hLive
            · exact absurd hCut hNotCut
          rw [hLive] at hAt
          exact Or.inl
            (hR.uncut _ _ hNotCut (hAllowed rfl) hAt.2)
      · intro waiting c hCut
        refine (hR.record_call_rest waiting c).bind ?_
        intro _
        refine
          hR.apiBody_rest hTable hWait
            (hR.reentry_of_callSpec ih waiting) ?_ fuel c
        refine handlerRests_runDisconnectHandler ?_
        intro c'
        exact ih.2 waiting c' hCut

theorem initClient_frame
    (p : InitParams)
    (c : Client) :
    (initClient port p c).frame = initFrame port c.frame := by
  unfold initClient
  dsimp only [setConnectParams]
  split
  · rfl
  · rfl

/- `aws_iot_mqtt_init`. -/
theorem init
    (hR : R.Lawful port)
    (params : Option InitParams) :
    Triple R.contract (Holds R.Rest)
      (init port params)
      (fun _ => Holds R.Rest) := by
  cases params with
  | none => exact Triple.same
  | some p =>
      refine Triple.ite (fun _ => Triple.same) (fun _ => ?_)
      refine Triple.bind
        (M := fun _ w =>
          R.down (initFrame port w.st.client.frame) w.log)
        ?_ ?_
      · refine Triple.emit ?_
        intro w hRest
        refine hR.reset _ _ ?_
        cases hOn :
            isClientConnected w.st.client.clientState with
        | true => exact Or.inl (hRest.2.1 hOn)
        | false => exact Or.inr (hRest.2.2 hOn)
      intro _
      refine Triple.bind
        (M := fun _ => Holds (In (fun _ => True) R.down))
        ?_ ?_
      · refine Triple.modify ?_
        intro w hDown
        refine ⟨trivial, ?_⟩
        rw [← initClient_frame p] at hDown
        exact hDown
      intro _
      refine Triple.bind
        (M := fun _ => Holds (In (fun _ => True) R.down))
        (Triple.step (fun _ h => Or.inr h)) ?_
      intro rc
      refine Triple.ite ?_ ?_
      · intro _
        refine (in_assignClientState _).bind ?_
        intro _
        exact Triple.ret
          (fun _ h => (rest_of_at rfl rfl h).1)
      · intro _
        refine (holds_countdown _ _).bind ?_
        intro _
        refine (holds_countdown _ _).bind ?_
        intro _
        refine (in_assignClientState _).bind ?_
        intro _
        exact Triple.ret
          (fun _ h => (rest_of_at rfl rfl h).1)

/- A session keeps a client at rest between its calls. -/
theorem session
    (hR : R.Lawful port)
    (hTable : R.TableLaws port)
    (fuel : Nat)
    (calls : List TopCall) :
    Triple R.contract (Holds R.Rest)
      (session port fuel calls)
      (fun _ => Holds R.Rest) := by
  refine Triple.each ?_
  intro call _
  cases call with
  | init params =>
      exact (hR.init params).seq (fun _ => Triple.same)
  | api c =>
      refine Triple.seq ?_ (fun _ => Triple.same)
      exact
        (hR.callSpec hTable fuel).2 false c
          (fun h => by cases h)

end Lawful

end Regime

end Mqtt

end TrustOnboard

------------------------------------------------------------
-- Regimes That Say Nothing Of The Table
------------------------------------------------------------

namespace TrustOnboard

namespace Mqtt

namespace Regime

variable {E : Type}
variable {R : Regime E}
variable {port : Port E}

/-
  The facts of the regime survive every change of the table,
  every store of a subscription and every return.
-/
structure TableBlind (R : Regime E) : Prop where
  table :
    ∀ I f l table, I = R.live ∨ I = R.down → I f l →
      I { f with table := table } l
  registered :
    ∀ I f l slot previous, I = R.live ∨ I = R.down →
      I f l → I f (.registered slot previous :: l)
  ret :
    ∀ I f l c rc, I = R.live ∨ I = R.down → I f l →
      I f (.ret c rc f.table :: l)

/- A phase survives what both facts survive. -/
theorem phase_map
    {I : Fact}
    (hMode : R.Mode I)
    {s s' : ClientState}
    {f f' : Frame}
    {l l' : List Event}
    (hMap :
      ∀ J, J = R.live ∨ J = R.down → J f l → J f' l')
    (hPhase : R.Phase s I s' f l) :
    R.Phase s I s' f' l' := by
  rcases hPhase with ⟨hState, hI⟩ | ⟨hCut, hRest⟩
  · refine Or.inl ⟨hState, hMap I ?_ hI⟩
    rcases hMode with hLive | ⟨_, hDown⟩
    · exact Or.inl hLive
    · exact Or.inr hDown
  · exact Or.inr
      ⟨hCut, hRest.1,
        fun hOn => hMap _ (Or.inl rfl) (hRest.2.1 hOn),
        fun hOff => hMap _ (Or.inr rfl) (hRest.2.2 hOff)⟩

namespace Lawful

/-
  Such a regime needs no special treatment of subscribe and
  unsubscribe.
-/
theorem tableLaws
    (hR : R.Lawful port)
    (hBlind : R.TableBlind) :
    R.TableLaws port where
  subscribe := by
    intro callback I s fuel topic topicLen qos handler data
      hCb hMode hReady
    refine holds_logReturn (φ := fun _ => True)
      (fun _ f l rc _ h =>
        phase_map hMode
          (fun J hJ => hBlind.ret J f l _ rc hJ) h) ?_
    refine Triple.post
      (B := fun _ => Holds (R.Phase s I)) ?_
      (fun _ _ h => ⟨trivial, h⟩)
    refine Triple.ite
      (fun _ => Triple.ret (fun _ h => phase_of_at h))
      (fun _ => ?_)
    refine
      hR.enterOperation (J := fun _ => I) hMode
        (fun _ => hR.quiet_mode hMode)
        (fun _ _ _ _ h => h) rfl hReady ?_
    refine
      (hR.keptInWaits hCb hMode _).internalSubscribe
        (fun _ _ _ h => h) fuel topic topicLen qos handler
        data ?_
    intro _ f _ _ _
    refine Triple.step ?_
    intro w hPhase
    refine Or.inr ?_
    refine phase_map hMode ?_ hPhase
    intro J hJ hFact
    have hTable :=
      fun table => hBlind.table J _ _ table hJ hFact
    dsimp only
    cases w.st.client.messageHandlers[
        getFreeMessageHandlerIndex f.table]? with
    | none => exact hTable _
    | some previous =>
        exact hBlind.registered J _ _ _ _ hJ (hTable _)
  unsubscribe := by
    intro callback I s fuel filter filterLen hCb hMode hReady
    refine holds_logReturn (φ := fun _ => True)
      (fun _ f l rc _ h =>
        phase_map hMode
          (fun J hJ => hBlind.ret J f l _ rc hJ) h) ?_
    refine Triple.post
      (B := fun _ => Holds (R.Phase s I)) ?_
      (fun _ _ h => ⟨trivial, h⟩)
    refine Triple.ite
      (fun _ => Triple.ret (fun _ h => phase_of_at h))
      (fun _ => ?_)
    refine
      hR.enterOperation (J := fun _ => I) hMode
        (fun _ => hR.quiet_mode hMode)
        (fun _ _ _ _ h => h) rfl hReady ?_
    refine
      (hR.keptInWaits hCb hMode _).internalUnsubscribe
        (fun _ _ _ h => h) fuel filter filterLen ?_
    intro _ _ _ _ _
    refine Triple.modify ?_
    intro w hPhase
    refine phase_map hMode ?_ hPhase
    intro J hJ hFact
    exact hBlind.table J _ _ _ hJ hFact

end Lawful

end Regime

end Mqtt

end TrustOnboard
