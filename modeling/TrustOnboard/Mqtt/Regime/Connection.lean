import TrustOnboard.Mqtt.Regime.Operations

/-
  Opening and closing the connection in a regime.

  Key results include:
    * `Regime.Lawful.connect`
    * `Regime.Lawful.disconnect`
    * `Regime.Lawful.attemptReconnect`
    * `Regime.Lawful.forceClientDisconnect`
-/

------------------------------------------------------------
-- Teardown
------------------------------------------------------------

namespace TrustOnboard

namespace Mqtt

namespace Regime

variable {E : Type}
variable {R : Regime E}
variable {port : Port E}
variable {φ : ClientState → Prop}

namespace Lawful

theorem netDisconnect_live
    (hR : R.Lawful port) :
    Triple R.contract (Holds (In φ R.live))
      (netDisconnect port)
      (fun _ => Holds (In φ R.live)) := by
  refine Triple.step ?_
  intro w hIn
  exact Or.inr
    ⟨hIn.1, hR.neutral_live _ _ .netDisconnect rfl hIn.2⟩

theorem netDisconnect_down
    (hR : R.Lawful port) :
    Triple R.contract (Holds (In φ R.down))
      (netDisconnect port)
      (fun _ => Holds (In φ R.down)) := by
  refine Triple.step ?_
  intro w hIn
  exact Or.inr
    ⟨hIn.1, hR.neutral_down _ _ .netDisconnect rfl hIn.2⟩

theorem netDisconnect_mode
    (hR : R.Lawful port)
    {I : Fact}
    (hMode : R.Mode I) :
    Triple R.contract (Holds (In φ I))
      (netDisconnect port)
      (fun _ => Holds (In φ I)) := by
  rcases hMode with rfl | ⟨_, rfl⟩
  · exact hR.netDisconnect_live
  · exact hR.netDisconnect_down

/- Disconnecting and destroying leaves the connection down. -/
theorem tearDown
    (hR : R.Lawful port)
    (site : Teardown)
    (hSite : site ≠ .disconnect) :
    Triple R.contract
      (Holds ((In φ R.live).or (In φ R.down)))
      (do
        netDisconnect port
        netDestroy port site)
      (fun _ => Holds (In φ R.down)) := by
  refine Triple.bind
    (M := fun _ =>
      Holds ((In φ R.live).or (In φ R.down))) ?_ ?_
  · refine or_pre ?_ ?_
    · exact hR.netDisconnect_live.post
        (fun _ _ h => Or.inl h)
    · exact hR.netDisconnect_down.post
        (fun _ _ h => Or.inr h)
  · intro _
    refine Triple.step ?_
    intro w hPre
    refine Or.inr ?_
    rcases hPre with ⟨hState, hLive⟩ | ⟨hState, hDown⟩
    · exact
        ⟨hState,
          hR.destroyed _ _ _ _ _ hSite (Or.inl hLive)⟩
    · exact
        ⟨hState,
          hR.destroyed _ _ _ _ _ hSite (Or.inr hDown)⟩

theorem forceClientDisconnect
    (hR : R.Lawful port) :
    Triple R.contract
      (Holds ((In φ R.live).or (In φ R.down)))
      (forceClientDisconnect port)
      (fun _ => Holds (At .disconnectedError R.down)) := by
  refine Triple.bind
    (M := fun _ =>
      Holds ((At .disconnectedError R.live).or
        (At .disconnectedError R.down))) ?_ ?_
  · refine or_pre ?_ ?_
    · exact (in_assignClientState _).post
        (fun _ _ h => Or.inl h)
    · exact (in_assignClientState _).post
        (fun _ _ h => Or.inr h)
  · intro _
    have hDown :=
      hR.tearDown
        (φ := fun s => s = ClientState.disconnectedError)
        .forceClientDisconnect (by decide)
    exact hDown

end Lawful

end Regime

end Mqtt

end TrustOnboard

------------------------------------------------------------
-- Disconnect
------------------------------------------------------------

namespace TrustOnboard

namespace Mqtt

namespace Regime

variable {E : Type}
variable {R : Regime E}
variable {port : Port E}

namespace Lawful

/- The end of a disconnect, after its packet was sent. -/
theorem closeConnection
    (hR : R.Lawful port)
    {I : Fact}
    (hMode : R.Mode I)
    (s : ClientState) :
    Triple R.contract (Holds (At s I))
      (do
        netDisconnect port
        let rc ← netDestroy port .disconnect
        if rc ≠ .success then pure .failure
        else pure .success : Code E IoTError)
      (fun rc w =>
        (rc = .success ∧ Holds (At s R.down) w) ∨
          (rc ≠ .success ∧ Holds (At s I) w)) := by
  refine (hR.netDisconnect_mode hMode).bind ?_
  intro _
  refine Triple.bind
    (M := fun rc w =>
      (rc = .success ∧ Holds (At s R.down) w) ∨
        (rc ≠ .success ∧ Holds (At s I) w)) ?_ ?_
  · refine Triple.step ?_
    intro w hAt
    by_cases hRc : (port.netDestroy w.st.env).1 = .success
    · have hDown := hR.closed I _ _
        w.st.client.clientState hMode hAt.2
      rw [← hRc] at hDown
      exact Or.inr (Or.inl ⟨hRc, hAt.1, hDown⟩)
    · rcases hR.notClosed I _ _ _
        w.st.client.clientState hMode hRc hAt.2 with
        hBad | hLive
      · exact Or.inl hBad
      · exact Or.inr (Or.inr ⟨hRc, hAt.1, hLive⟩)
  · intro rc
    refine Triple.ite ?_ ?_
    · intro hRc
      refine Triple.ret ?_
      intro w hPost
      rcases hPost with ⟨hNo, _⟩ | ⟨_, hAt⟩
      · exact absurd hNo hRc
      · exact Or.inr ⟨by decide, hAt⟩
    · intro hRc
      refine Triple.ret ?_
      intro w hPost
      rcases hPost with ⟨_, hAt⟩ | ⟨hNo, _⟩
      · exact Or.inl ⟨rfl, hAt⟩
      · exact absurd hNo hRc

/-
  The inner disconnect brings the connection down exactly
  when it reports success.
-/
theorem internalDisconnect
    (hR : R.Lawful port)
    {I : Fact}
    (hMode : R.Mode I)
    (s : ClientState)
    (fuel : Nat) :
    Triple R.contract (Holds (At s I))
      (internalDisconnect port fuel)
      (fun rc w =>
        (rc = .success ∧ Holds (At s R.down) w) ∨
          (rc ≠ .success ∧ Holds (At s I) w)) := by
  have hKept := hR.keptIn hMode (fun s' => s' = s)
  refine
    (holds_serialize hKept.halt
      (serializeZero_encodes .disconnect)).bind ?_
  intro encoded
  cases encoded with
  | error rc =>
      refine Triple.ret ?_
      intro w hPre
      rcases hPre with ⟨⟨c, hError⟩, hAt⟩
      have hCode := serializeZero_error hError
      exact Or.inr ⟨by rw [hCode]; decide, hAt⟩
  | ok n =>
      refine Triple.bind
        (M := fun _ w =>
          Sendable (w.st.client.writeBuf.load 0 n) ∧
            Holds (At s I) w) ?_ ?_
      · refine Triple.seq (Triple.read (fun _ h => h)) ?_
        intro c
        exact Triple.modify (fun _ h => h)
      · intro _
        have hSend :
            ∀ rc : IoTError,
              Triple R.contract (Holds (At s I))
                (if rc ≠ .success then pure rc
                else do
                  netDisconnect port
                  let rc ← netDestroy port .disconnect
                  if rc ≠ .success then pure .failure
                  else pure .success)
                (fun rc w =>
                  (rc = .success ∧
                    Holds (At s R.down) w) ∨
                  (rc ≠ .success ∧
                    Holds (At s I) w)) := by
          intro rc
          refine Triple.ite ?_ ?_
          · intro hRc
            exact Triple.ret (fun _ h => Or.inr ⟨hRc, h⟩)
          · intro _
            exact hR.closeConnection hMode s
        refine Triple.ite ?_ ?_
        · intro _
          exact (hKept.send fuel n .command).bind hSend
        · intro _
          exact (hSend .success).pre (fun _ h => h.2)

/- `aws_iot_mqtt_disconnect` on a connected client. -/
theorem disconnect
    (hR : R.Lawful port)
    {I : Fact}
    (hMode : R.Mode I)
    {s : ClientState}
    (hOn : isClientConnected s = true)
    (fuel : Nat) :
    Triple R.contract (Holds (At s I))
      (disconnect port fuel)
      (fun rc w =>
        (rc = .success ∧
          Holds (At .disconnectedManually R.down) w) ∨
        (rc ≠ .success ∧ Holds (At s I) w)) := by
  refine at_getClientState.bind ?_
  intro clientState
  refine Triple.of_fact ?_
  rintro rfl
  refine at_getClientState.bind ?_
  intro seen
  refine Triple.of_fact ?_
  rintro rfl
  refine Triple.ite ?_ ?_
  · intro hOff
    exact absurd hOn hOff
  · intro _
    refine
      (setClientState_of_eq hR.single (hR.quiet_mode hMode)
        .disconnecting).bind ?_
    intro rc
    refine Triple.of_fact ?_
    rintro rfl
    refine Triple.ite ?_ ?_
    · intro hNo
      exact absurd rfl hNo
    · intro _
      refine (hR.internalDisconnect hMode _ fuel).bind ?_
      intro rc
      refine Triple.ite ?_ ?_
      · intro hRc
        refine Triple.pre
          (A := Holds (At .disconnecting I)) ?_ ?_
        · refine (in_assignClientState _).bind ?_
          intro _
          exact Triple.ret (fun _ h => Or.inr ⟨hRc, h⟩)
        · intro w hPost
          rcases hPost with ⟨hNo, _⟩ | ⟨_, hAt⟩
          · exact absurd hNo hRc
          · exact hAt
      · intro hRc
        have hOk : rc = .success := not_not.mp hRc
        refine Triple.pre
          (A := Holds (At .disconnecting R.down)) ?_ ?_
        · refine (in_assignClientState _).bind ?_
          intro _
          exact Triple.ret (fun _ h => Or.inl ⟨hOk, h⟩)
        · intro w hPost
          rcases hPost with ⟨_, hAt⟩ | ⟨hNo, _⟩
          · exact hAt
          · exact absurd hOk hNo

end Lawful

/- `aws_iot_mqtt_disconnect` on a client not connected. -/
theorem disconnect_off
    {C : Contract (Sys E) Event}
    {I : Fact}
    {s : ClientState}
    (hOff : isClientConnected s = false)
    (fuel : Nat) :
    Triple C (Holds (At s I))
      (disconnect port fuel)
      (fun rc w =>
        rc ≠ .success ∧ Holds (At s I) w) := by
  refine at_getClientState.bind ?_
  intro clientState
  refine Triple.of_fact ?_
  rintro rfl
  refine at_getClientState.bind ?_
  intro seen
  refine Triple.of_fact ?_
  rintro rfl
  refine Triple.ite ?_ ?_
  · intro _
    exact Triple.ret (fun _ h => ⟨by decide, h⟩)
  · intro hOn
    rw [hOff] at hOn
    exact absurd (by decide) hOn

end Regime

end Mqtt

end TrustOnboard

------------------------------------------------------------
-- Connect And Reconnect
------------------------------------------------------------

namespace TrustOnboard

namespace Mqtt

namespace Regime

variable {E : Type}
variable {R : Regime E}
variable {port : Port E}
variable {callback : Callback E}

/-
  What a connect leaves behind: the error state with the
  connection down, or the end of a phase that leads to the
  idle state.
-/
def Settled (R : Regime E) (s : ClientState) : Cond :=
  (At s R.down).or (R.Phase .connectedIdle R.live)

theorem valid_off
    {s : ClientState}
    (hValid : isClientStateValidForConnect s = true) :
    s.isStable = true ∧ isClientConnected s = false := by
  cases s <;>
    simp [isClientStateValidForConnect, isClientConnected,
      ClientState.isStable] at *

namespace Lawful

theorem internalConnect
    (hR : R.Lawful port)
    (hCb : R.Reentry callback true)
    (fuel : Nat)
    (params : Option ConnectParams) :
    Triple R.contract (Holds (At .connecting R.down))
      (internalConnect port fuel callback params)
      (fun rc w =>
        (rc ≠ .success ∧ Holds (At .connecting R.down) w) ∨
          Holds (R.Phase .connecting R.live) w) := by
  have hOpen :
      Triple R.contract (Holds (At .connecting R.down))
        (do
          let rc ← netConnect port
          if rc ≠ .success then pure rc
          else connectExchange port fuel callback)
        (fun rc w =>
          (rc ≠ .success ∧
            Holds (At .connecting R.down) w) ∨
          Holds (R.Phase .connecting R.live) w) := by
    refine Triple.bind
      (M := fun rc w =>
        (rc ≠ .success ∧ Holds (At .connecting R.down) w) ∨
          (rc = .success ∧
            Holds (At .connecting R.live) w)) ?_ ?_
    · refine Triple.step ?_
      intro w hAt
      by_cases hRc :
          (port.netConnect w.st.env).1 = .success
      · have hNext := hR.connected _ _ hAt.2
        rw [← hRc] at hNext
        rcases hNext with hBad | hLive
        · exact Or.inl hBad
        · exact Or.inr (Or.inr ⟨hRc, hAt.1, hLive⟩)
      · have hDown := hR.refused _ _ _ hRc hAt.2
        exact Or.inr (Or.inl ⟨hRc, hAt.1, hDown⟩)
    · intro rc
      refine Triple.ite ?_ ?_
      · intro hRc
        refine Triple.ret ?_
        intro w hPre
        rcases hPre with ⟨_, hAt⟩ | ⟨hNo, _⟩
        · exact Or.inl ⟨hRc, hAt⟩
        · exact absurd hNo hRc
      · intro hRc
        refine
          ((hR.keptInWaits hCb live_mode
            .connecting).connectExchange fuel).conseq ?_
              (fun _ _ h => Or.inr h)
        intro w hPre
        rcases hPre with ⟨hNo, _⟩ | ⟨_, hAt⟩
        · exact absurd hNo hRc
        · exact phase_of_at hAt
  cases params with
  | none => exact hOpen
  | some params =>
      refine Triple.seq
        (holds_modifyClient (fun _ => rfl)
          (fun _ => rfl)) ?_
      intro _
      exact hOpen

/-
  The failure path of connect tears the network down.  Where
  a callback has left the phase, this may hit a connection it
  opened.
-/
theorem connectFailed
    (hR : R.Lawful port)
    (rc : IoTError) :
    Triple R.contract
      (Holds ((At .connecting R.down).or
        (R.Phase .connecting R.live)))
      (do
        netDisconnect port
        let _ ← netDestroy port .connect
        let _ ←
          setClientState port .connecting .disconnectedError
        pure rc)
      (fun _ => Holds (R.Settled .disconnectedError)) := by
  have hAt :
      Triple R.contract
        (Holds ((At .connecting R.live).or
          (At .connecting R.down)))
        (do
          netDisconnect port
          let _ ← netDestroy port .connect
          let _ ←
            setClientState port .connecting
              .disconnectedError
          pure rc)
        (fun _ => Holds (R.Settled .disconnectedError)) := by
    have hTear :=
      hR.tearDown (φ := fun s' => s' = .connecting)
        .connect (by decide)
    have hSet :
        Triple R.contract (Holds (At .connecting R.down))
          (do
            let _ ←
              setClientState port .connecting
                .disconnectedError
            pure rc)
          (fun _ =>
            Holds (R.Settled .disconnectedError)) := by
      refine
        (setClientState_of_eq hR.single hR.quiet_down
          _).bind ?_
      intro _
      exact Triple.ret (fun _ h => Or.inl h.2)
    exact hTear.bind (fun _ => hSet)
  refine or_pre (hAt.pre (fun _ h => Or.inr h)) ?_
  refine phase_pre (hAt.pre (fun _ h => Or.inl h)) ?_
  intro hCut
  refine Triple.bind (M := fun _ => Holds R.Rest) ?_ ?_
  · refine Triple.step ?_
    intro w hRest
    exact Or.inr (hR.quiet_rest rfl hRest)
  intro _
  refine Triple.bind (M := fun _ => Holds R.Rest) ?_ ?_
  · refine Triple.step ?_
    intro w hRest
    exact hR.destroyedCut _ _ _ _ hCut hRest
  intro _
  refine (hR.setClientState_rest rfl _).bind ?_
  intro _
  exact
    Triple.ret
      (fun _ h => Or.inr (Or.inr (out_of_rest hCut h.2)))

/- `aws_iot_mqtt_connect` from a state it accepts. -/
theorem connect
    (hR : R.Lawful port)
    (hCb : R.Reentry callback true)
    {s : ClientState}
    (hValid : isClientStateValidForConnect s = true)
    (fuel : Nat)
    (params : Option ConnectParams) :
    Triple R.contract (Holds (At s R.down))
      (connect port fuel callback params)
      (fun _ => Holds (R.Settled .disconnectedError)) := by
  refine at_getClientState.bind ?_
  intro clientState
  refine Triple.of_fact ?_
  rintro rfl
  refine Triple.ite ?_ ?_
  · intro hNo
    exact absurd hValid hNo
  · intro _
    refine
      (setClientState_of_eq hR.single hR.quiet_down
        .connecting).bind ?_
    intro rc
    refine Triple.of_fact ?_
    intro _
    refine (hR.internalConnect hCb fuel params).bind ?_
    intro rc
    refine Triple.ite ?_ ?_
    · intro _
      refine (hR.connectFailed rc).pre ?_
      intro w hPre
      rcases hPre with ⟨_, hAt⟩ | hPhase
      · exact Or.inl hAt
      · exact Or.inr hPhase
    · intro hRc
      refine Triple.bind
        (M := fun _ =>
          Holds (R.Phase .connectedIdle R.live))
        ?_ (fun _ => Triple.ret (fun _ h => Or.inr h))
      refine
        (hR.leavePhase hR.quiet_live rfl _).conseq ?_ ?_
      · intro w hPre
        rcases hPre with ⟨hNo, _⟩ | hPhase
        · exact absurd hNo hRc
        · exact hPhase
      · intro _ w hPost
        rcases hPost with ⟨_, hAt⟩ | hOut
        · exact Or.inl hAt
        · exact Or.inr hOut

/- The move to the pending state keeps a client at rest. -/
theorem setPending
    (hR : R.Lawful port)
    {s : ClientState}
    (hStable : s.isStable = true)
    (hOff : isClientConnected s = false) :
    Triple R.contract (Holds (At s R.down))
      (setClientState port .disconnectedError
        .pendingReconnect)
      (fun _ => Holds R.Rest) := by
  refine
    ((setClientState_in
      (φ := fun s' =>
        s'.isStable = true ∧ isClientConnected s' = false)
      hR.single hR.quiet_down _ _ ⟨rfl, rfl⟩).pre ?_).post ?_
  · intro w hAt
    refine ⟨?_, hAt.2⟩
    rw [hAt.1]
    exact ⟨hStable, hOff⟩
  · intro _ w hIn
    exact rest_of_down hIn.1.1 hIn.1.2 hIn.2

/-
  `aws_iot_mqtt_attempt_reconnect` from a state that connect
  accepts.
-/
theorem attemptReconnect
    (hR : R.Lawful port)
    (hCb : R.Reentry callback true)
    {s : ClientState}
    (hValid : isClientStateValidForConnect s = true)
    (fuel : Nat) :
    Triple R.contract (Holds (At s R.down))
      (attemptReconnect port fuel callback)
      (fun rc w =>
        (rc ≠ .networkReconnected ∧
          Holds (At .pendingReconnect R.down) w) ∨
        Holds (R.Phase .connectedIdle R.live) w) := by
  have hRecorded :
      ∀ {s' : ClientState},
        Triple R.contract (Holds (At s' R.down))
          (Prog.emit (fun s : Sys E =>
            .reconnectFailed s.client.clientState
              s.client.currentReconnectWaitInterval))
          (fun _ => Holds (At s' R.down)) :=
    holds_emit
      (fun _ f l e hE hAt =>
        ⟨hAt.1, hR.quiet_down f l e hE hAt.2⟩)
      (fun _ => rfl)
  refine at_getClientState.bind ?_
  intro seen
  refine Triple.of_fact ?_
  rintro rfl
  refine Triple.ite ?_ ?_
  · intro hOn
    rw [(valid_off hValid).2] at hOn
    cases hOn
  · intro _
    refine (hR.connect hCb hValid fuel none).bind ?_
    intro _
    refine or_pre ?_ ?_
    · refine at_getClientState.bind ?_
      intro clientState
      refine Triple.of_fact ?_
      rintro rfl
      refine Triple.ite ?_ ?_
      · intro _
        refine hRecorded.seq ?_
        intro _
        refine
          (setClientState_of_eq hR.single hR.quiet_down
            _).bind ?_
        intro rc
        exact
          Triple.ret
            (fun _ h => Or.inl ⟨by decide, h.2⟩)
      · intro hNo
        exact absurd (by decide) hNo
    · refine Triple.pre
        (A := Holds (R.Phase .connectedIdle R.live)) ?_
        (fun _ h => h)
      have hIdle :
          Triple R.contract
            (Holds (At .connectedIdle R.live))
            (do
              let clientState ← getClientState
              if clientState ≠ .connectedIdle then do
                Prog.emit (fun s =>
                  .reconnectFailed s.client.clientState
                    s.client.currentReconnectWaitInterval)
                let _ ←
                  setClientState port .disconnectedError
                    .pendingReconnect
                pure .networkAttemptingReconnect
              else do
                let rc ←
                  Mqtt.resubscribe port fuel callback
                if rc ≠ .success then
                  pure rc
                else
                  pure .networkReconnected : Code E IoTError)
            (fun rc w =>
              (rc ≠ .networkReconnected ∧
                Holds (At .pendingReconnect R.down) w) ∨
              Holds (R.Phase .connectedIdle R.live) w) := by
        refine at_getClientState.bind ?_
        intro clientState
        refine Triple.of_fact ?_
        rintro rfl
        refine Triple.ite
          (fun h => absurd rfl h) (fun _ => ?_)
        refine (hR.resubscribe hCb fuel).bind ?_
        intro rc
        refine Triple.ite ?_ ?_
        · intro _
          exact Triple.ret (fun _ h => Or.inr h)
        · intro _
          exact Triple.ret (fun _ h => Or.inr h)
      refine phase_pre hIdle ?_
      intro hCut
      refine rest_pre hIdle ?_
      intro s' hStable hOff
      refine at_getClientState.bind ?_
      intro clientState
      refine Triple.of_fact ?_
      rintro rfl
      refine Triple.ite ?_ ?_
      · intro _
        refine hRecorded.seq ?_
        intro _
        refine Triple.bind (M := fun _ => Holds R.Rest) ?_
          (fun _ => Triple.ret
            (fun _ h => Or.inr (Or.inr
              (out_of_rest hCut h))))
        exact hR.setPending hStable hOff
      · intro hEq
        rw [not_not.mp hEq] at hOff
        cases hOff

end Lawful

/- Connect refuses every other state. -/
theorem connect_off
    {C : Contract (Sys E) Event}
    {I : Fact}
    {s : ClientState}
    (hInvalid : isClientStateValidForConnect s = false)
    (fuel : Nat)
    (params : Option ConnectParams) :
    Triple C (Holds (At s I))
      (connect port fuel callback params)
      (fun _ => Holds (At s I)) := by
  refine at_getClientState.bind ?_
  intro clientState
  refine Triple.of_fact ?_
  rintro rfl
  refine Triple.ite ?_ ?_
  · intro _
    exact Triple.same
  · intro hNo
    rw [hInvalid] at hNo
    exact absurd (by decide) hNo

/- A connected client is not reconnected. -/
theorem attemptReconnect_on
    {C : Contract (Sys E) Event}
    {I : Fact}
    {s : ClientState}
    (hOn : isClientConnected s = true)
    (fuel : Nat) :
    Triple C (Holds (At s I))
      (attemptReconnect port fuel callback)
      (fun _ => Holds (At s I)) := by
  refine at_getClientState.bind ?_
  intro seen
  refine Triple.of_fact ?_
  rintro rfl
  refine Triple.ite ?_ ?_
  · intro _
    exact Triple.same
  · intro hNo
    exact absurd hOn hNo

/- A client that was never initialised is not reconnected. -/
theorem attemptReconnect_invalid
    {C : Contract (Sys E) Event}
    {I : Fact}
    (hSingle : port.threadSupport = false)
    (hQuiet :
      ∀ f l e, Event.quiet e = true → I f l →
        I f (e :: l))
    (fuel : Nat) :
    Triple C (Holds (At .invalid I))
      (attemptReconnect port fuel callback)
      (fun _ => Holds (At .invalid I)) := by
  refine at_getClientState.bind ?_
  intro seen
  refine Triple.of_fact ?_
  rintro rfl
  refine Triple.ite ?_ ?_
  · intro hOn
    cases hOn
  · intro _
    refine (connect_off rfl fuel none).bind ?_
    intro _
    refine at_getClientState.bind ?_
    intro clientState
    refine Triple.of_fact ?_
    rintro rfl
    refine Triple.ite ?_ ?_
    · intro _
      refine Triple.seq
        (holds_emit
          (fun _ f l e hE hAt =>
            ⟨hAt.1, hQuiet f l e hE hAt.2⟩)
          (fun _ => rfl)) ?_
      intro _
      refine Triple.bind
        (setClientState_of_ne hSingle ?_ ?_ _) ?_
      · intro s f l e hE hAt
        exact ⟨hAt.1, hQuiet f l e hE hAt.2⟩
      · intro s f l hAt hEq
        rw [hAt.1] at hEq
        cases hEq
      · intro _
        exact Triple.ret (fun _ h => h.2)
    · intro hNo
      exact absurd (by decide) hNo

end Regime

end Mqtt

end TrustOnboard
