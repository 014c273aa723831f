import TrustOnboard.Mqtt.Regime.Basic

/-
  The operations of the interface in a regime.

  Each operation is described from the two situations it can
  be called in: inside a callback or at rest while connected,
  where it works and ends in the phase it started from, and
  at rest while not connected, where most operations return
  at once.

  Key results include:
    * `Regime.Lawful.enterOperation`
    * `Regime.Lawful.publish`
    * `Regime.Lawful.resubscribe`
    * `Regime.Lawful.connect`
    * `Regime.Lawful.disconnect`
    * `Regime.Lawful.attemptReconnect`
-/

------------------------------------------------------------
-- Entering And Leaving An Operation
------------------------------------------------------------

namespace TrustOnboard

namespace Mqtt

/- The two states an operation may start from. -/
def ClientState.isReady : ClientState → Bool
  | .connectedIdle => true
  | .connectedWaitForCbReturn => true
  | _ => false

theorem isConnected_of_isReady
    {s : ClientState}
    (hReady : s.isReady = true) :
    isClientConnected s = true := by
  cases s <;>
    simp [ClientState.isReady, isClientConnected] at *

namespace Regime

variable {E : Type}
variable {R : Regime E}
variable {port : Port E}

/- A state change that does not fit a client at rest. -/
theorem Lawful.setClientState_rest
    (hR : R.Lawful port)
    {expected : ClientState}
    (hBusy : expected.isStable = false)
    (new : ClientState) :
    Triple R.contract (Holds R.Rest)
      (setClientState port expected new)
      (fun rc w =>
        rc = .mqttUnexpectedClientStateError ∧
          Holds R.Rest w) := by
  refine setClientState_of_ne hR.single ?_ ?_ new
  · intro s f l e hE hRest
    exact hR.quiet_rest (neutral_of_quiet hE) hRest
  · intro s f l hRest hEq
    have hStable := hRest.1
    rw [hEq, hBusy] at hStable
    cases hStable

namespace Lawful

/-
  Leaving a phase: the state is put back, unless a callback
  has left the phase.
-/
theorem leavePhase
    (hR : R.Lawful port)
    {J : Fact}
    (hQuiet :
      ∀ f l e, Event.quiet e = true → J f l →
        J f (e :: l))
    {during : ClientState}
    (hBusy : during.isStable = false)
    (s : ClientState) :
    Triple R.contract (Holds (R.Phase during J))
      (setClientState port during s)
      (fun rc w =>
        (rc = .success ∧ Holds (At s J) w) ∨
          Holds (R.Out true) w) := by
  refine phase_pre ?_ ?_
  · exact
      (setClientState_of_eq hR.single hQuiet s).post
        (fun _ _ h => Or.inl h)
  · intro hCut
    exact (hR.setClientState_rest hBusy s).post
      (fun _ _ h => Or.inr (out_of_rest hCut h.2))

/-
  An operation between its two state changes.  What it
  establishes may depend on its code.
-/
theorem withClientState
    (hR : R.Lawful port)
    {I : Fact}
    {J : IoTError → Fact}
    (hQuiet :
      ∀ rc f l e, Event.quiet e = true → J rc f l →
        J rc f (e :: l))
    {during : ClientState}
    (hBusy : during.isStable = false)
    (s : ClientState)
    {operation : Code E IoTError}
    (hOp :
      Triple R.contract (Holds (R.Phase during I)) operation
        (fun rc => Holds (R.Phase during (J rc)))) :
    Triple R.contract (Holds (R.Phase during I))
      (withClientState port s during operation)
      (fun rc => Holds (R.Phase s (J rc))) := by
  refine hOp.bind ?_
  intro opRc
  refine (hR.leavePhase (hQuiet opRc) hBusy s).bind ?_
  intro rc
  refine Triple.ite ?_ ?_
  · rintro ⟨_, hRc⟩
    refine Triple.ret ?_
    intro w hPost
    rcases hPost with ⟨hEq, _⟩ | hOut
    · exact absurd hEq hRc
    · exact Or.inr hOut
  · intro _
    refine Triple.ret ?_
    intro w hPost
    rcases hPost with ⟨_, hAt⟩ | hOut
    · exact Or.inl hAt
    · exact Or.inr hOut

/- An operation that starts from a ready client. -/
theorem enterOperation
    (hR : R.Lawful port)
    {I : Fact}
    (hMode : R.Mode I)
    {J : IoTError → Fact}
    (hQuiet :
      ∀ rc f l e, Event.quiet e = true → J rc f l →
        J rc f (e :: l))
    (hFail : ∀ rc f l, rc ≠ .success → I f l → J rc f l)
    {during : ClientState}
    (hBusy : during.isStable = false)
    {s : ClientState}
    (hReady : s.isReady = true)
    {refused : ClientState → IoTError → Code E IoTError}
    {operation : Code E IoTError}
    (hOp :
      Triple R.contract (Holds (R.Phase during I)) operation
        (fun rc => Holds (R.Phase during (J rc)))) :
    Triple R.contract (Holds (At s I))
      (enterOperation port during refused operation)
      (fun rc => Holds (R.Phase s (J rc))) := by
  refine at_getClientState.bind ?_
  intro seen
  refine Triple.of_fact ?_
  rintro rfl
  refine Triple.ite ?_ ?_
  · intro hOff
    exact absurd (isConnected_of_isReady hReady) hOff
  · intro _
    refine at_getClientState.bind ?_
    intro clientState
    refine Triple.of_fact ?_
    rintro rfl
    refine Triple.ite ?_ ?_
    · intro _
      refine Triple.ret (fun w hAt => Or.inl ⟨hAt.1, ?_⟩)
      exact hFail _ _ _ (by decide) hAt.2
    · intro _
      refine
        (setClientState_of_eq hR.single
          (hR.quiet_mode hMode) during).bind ?_
      intro rc
      refine Triple.of_fact ?_
      rintro rfl
      refine Triple.ite ?_ ?_
      · intro hNo
        exact absurd rfl hNo
      · intro _
        exact
          (hR.withClientState hQuiet hBusy _ hOp).pre
            (fun _ h => phase_of_at h)

end Lawful

/- An operation on a client that is not connected. -/
theorem enterOperation_off
    {C : Contract (Sys E) Event}
    {I : Fact}
    {s : ClientState}
    (hOff : isClientConnected s = false)
    {during : ClientState}
    {refused : ClientState → IoTError → Code E IoTError}
    {operation : Code E IoTError} :
    Triple C (Holds (At s I))
      (enterOperation port during refused operation)
      (fun rc w =>
        rc ≠ .success ∧ Holds (At s I) w) := by
  refine at_getClientState.bind ?_
  intro seen
  refine Triple.of_fact ?_
  rintro rfl
  refine Triple.ite ?_ ?_
  · intro _
    exact Triple.ret (fun _ h => ⟨by decide, h⟩)
  · intro hOn
    rw [hOff] at hOn
    exact absurd (by decide) hOn

end Regime

end Mqtt

end TrustOnboard

------------------------------------------------------------
-- Publish And Resubscribe
------------------------------------------------------------

namespace TrustOnboard

namespace Mqtt

namespace Regime

variable {E : Type}
variable {R : Regime E}
variable {port : Port E}
variable {callback : Callback E}

namespace Lawful

theorem publish
    (hR : R.Lawful port)
    (hCb : R.Reentry callback true)
    {I : Fact}
    (hMode : R.Mode I)
    {s : ClientState}
    (hReady : s.isReady = true)
    (fuel : Nat)
    (topic : Option CString)
    (topicLen : UInt16)
    (params : Option PublishParams) :
    Triple R.contract (Holds (At s I))
      (publish port fuel callback topic topicLen params)
      (fun _ => Holds (R.Phase s I)) := by
  unfold Mqtt.publish
  cases params with
  | none => exact Triple.ret (fun _ h => phase_of_at h)
  | some params =>
      refine Triple.ite ?_ ?_
      · intro _
        exact Triple.ret (fun _ h => phase_of_at h)
      · intro _
        refine
          hR.enterOperation (J := fun _ => I) hMode
            (fun _ => hR.quiet_mode hMode)
            (fun _ _ _ _ h => h) rfl hReady ?_
        exact
          (hR.keptInWaits hCb hMode _).internalPublish fuel
            topic topicLen params

theorem resubscribe
    (hR : R.Lawful port)
    (hCb : R.Reentry callback true)
    (fuel : Nat) :
    Triple R.contract (Holds (At .connectedIdle R.live))
      (resubscribe port fuel callback)
      (fun _ =>
        Holds (R.Phase .connectedIdle R.live)) := by
  refine at_getClientState.bind ?_
  intro seen
  refine Triple.of_fact ?_
  rintro rfl
  refine Triple.ite ?_ ?_
  · intro hOff
    exact absurd rfl hOff
  · intro _
    refine at_getClientState.bind ?_
    intro clientState
    refine Triple.of_fact ?_
    rintro rfl
    refine Triple.ite ?_ ?_
    · intro hNo
      exact absurd rfl hNo
    · intro _
      refine
        (setClientState_of_eq hR.single hR.quiet_live
          _).bind ?_
      intro rc
      refine Triple.of_fact ?_
      rintro rfl
      refine Triple.ite ?_ ?_
      · intro hNo
        exact absurd rfl hNo
      · intro _
        refine
          (hR.withClientState (J := fun _ => R.live)
            (fun _ => hR.quiet_live) rfl _ ?_).pre
            (fun _ h => phase_of_at h)
        exact
          (hR.keptInWaits hCb live_mode
            _).internalResubscribe fuel

end Lawful

theorem publish_off
    {C : Contract (Sys E) Event}
    {I : Fact}
    {s : ClientState}
    (hOff : isClientConnected s = false)
    (fuel : Nat)
    (topic : Option CString)
    (topicLen : UInt16)
    (params : Option PublishParams) :
    Triple C (Holds (At s I))
      (publish port fuel callback topic topicLen params)
      (fun _ => Holds (At s I)) := by
  unfold Mqtt.publish
  cases params with
  | none => exact Triple.same
  | some params =>
      refine Triple.ite ?_ ?_
      · intro _
        exact Triple.same
      · intro _
        exact
          (enterOperation_off hOff).post (fun _ _ h => h.2)

theorem subscribe_off
    {C : Contract (Sys E) Event}
    {I : Fact}
    {s : ClientState}
    (hOff : isClientConnected s = false)
    (fuel : Nat)
    (topic : Option CString)
    (topicLen : UInt16)
    (qos : QoS)
    (handler : Option HandlerId)
    (data : Nat) :
    Triple C (Holds (At s I))
      (subscribe port fuel callback topic topicLen qos
        handler data)
      (fun rc w =>
        rc ≠ .success ∧ Holds (At s I) w) := by
  refine Triple.ite ?_ ?_
  · intro _
    exact Triple.ret (fun _ h => ⟨by decide, h⟩)
  · intro _
    exact enterOperation_off hOff

theorem unsubscribe_off
    {C : Contract (Sys E) Event}
    {I : Fact}
    {s : ClientState}
    (hOff : isClientConnected s = false)
    (fuel : Nat)
    (filter : Option CString)
    (filterLen : UInt16) :
    Triple C (Holds (At s I))
      (unsubscribe port fuel callback filter filterLen)
      (fun rc w =>
        rc ≠ .success ∧ Holds (At s I) w) := by
  refine Triple.ite ?_ ?_
  · intro _
    exact Triple.ret (fun _ h => ⟨by decide, h⟩)
  · intro _
    exact enterOperation_off hOff

/- Outside the idle state resubscribe returns at once. -/
theorem resubscribe_off
    {C : Contract (Sys E) Event}
    {I : Fact}
    {s : ClientState}
    (hBusy : s ≠ .connectedIdle)
    (fuel : Nat) :
    Triple C (Holds (At s I))
      (resubscribe port fuel callback)
      (fun _ => Holds (At s I)) := by
  refine at_getClientState.bind ?_
  intro seen
  refine Triple.of_fact ?_
  rintro rfl
  refine Triple.ite ?_ ?_
  · intro _
    exact Triple.same
  · intro _
    refine at_getClientState.bind ?_
    intro clientState
    refine Triple.of_fact ?_
    rintro rfl
    refine Triple.ite ?_ ?_
    · intro _
      exact Triple.same
    · intro hNo
      exact absurd hBusy hNo

end Regime

end Mqtt

end TrustOnboard
