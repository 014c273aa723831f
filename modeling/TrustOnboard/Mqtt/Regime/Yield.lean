import TrustOnboard.Mqtt.Regime.Connection

/-
  Yield in a regime: reading, keeping alive, losing the
  connection and getting it back.

  Key definitions include:
    * `Ordinary`
    * `Regime.Yielding`
    * `Regime.Yielded`

  Key results include:
    * `cycleRead_common`
    * `Regime.Lawful.handleDisconnect`
    * `Regime.Lawful.keepAlive`
    * `Regime.Lawful.handleReconnect`
    * `Regime.Lawful.yieldRound`
    * `Regime.Lawful.yield`
-/

------------------------------------------------------------
-- Codes Of The Receive Path
------------------------------------------------------------

namespace TrustOnboard

namespace Mqtt

variable {E : Type}
variable {port : Port E}
variable {callback : Callback E}

/-
  The codes after which yield puts the client back into the
  idle state.
-/
def Ordinary (rc : IoTError) : Prop :=
  rc ≠ .networkDisconnectedError ∧
    rc ≠ .networkAttemptingReconnect

instance (rc : IoTError) : Decidable (Ordinary rc) :=
  inferInstanceAs (Decidable (_ ∧ _))

theorem ordinary_success : Ordinary .success := by
  decide

/-
  The codes that say nothing of the connection or the handler
  table.
-/
def Common (rc : IoTError) : Prop :=
  Ordinary rc ∧ rc ≠ .networkReconnected ∧
    rc ≠ .mqttMaxSubscriptionsReachedError

instance (rc : IoTError) : Decidable (Common rc) :=
  inferInstanceAs (Decidable (_ ∧ _))

theorem common_success : Common .success := by
  decide

/- A program whose code is always a common one. -/
abbrev ReturnsCommon (p : Code E IoTError) : Prop :=
  Triple (Contract.plain (Sys E) Event) (fun _ => True) p
    (fun rc _ => Common rc)

theorem setClientState_common
    (hSingle : port.threadSupport = false)
    (expected new : ClientState) :
    ReturnsCommon (setClientState port expected new) := by
  rw [setClientState_single hSingle]
  refine Triple.step ?_
  intro w _
  refine Or.inr ?_
  by_cases hState : expected = w.st.client.clientState
  · simp only [hState, if_true]
    decide
  · simp only [hState, if_false]
    decide

theorem sendPacket_common
    (hSingle : port.threadSupport = false)
    (fuel length : Nat)
    (timer : TimerName) :
    ReturnsCommon (sendPacket port fuel length timer) := by
  rw [sendPacket_single hSingle]
  refine Triple.anything.bind ?_
  intro c
  refine Triple.ite ?_ ?_
  · intro _
    exact Triple.ret (fun _ _ => by decide)
  · intro _
    refine Triple.anything.bind ?_
    intro sent
    refine Triple.ite ?_ ?_
    · intro _
      refine Triple.anything.bind ?_
      intro _
      exact Triple.ret (fun _ _ => by decide)
    · intro _
      exact Triple.ret (fun _ _ => by decide)

theorem readResult_common
    {n : Nat}
    (r : ReadResult n) :
    Common r.rc := by
  cases r with
  | success bs h =>
      simp only [ReadResult.rc]
      decide
  | nothingToRead h =>
      simp only [ReadResult.rc]
      decide
  | readTimeout bs hPos h =>
      simp only [ReadResult.rc]
      decide
  | readError bs h =>
      simp only [ReadResult.rc]
      decide

theorem decodePacketRemainingLen_common
    (fuel : Nat) :
    Triple (Contract.plain (Sys E) Event) (fun _ => True)
      (decodePacketRemainingLen port fuel)
      (fun res _ => ∀ rc, res = .error rc → Common rc) := by
  refine
    Triple.loop (fun _ _ => True) (fun _ _ _ => trivial) ?_
  intro v
  refine Triple.ite ?_ ?_
  · intro _
    refine Triple.ret ?_
    intro _ _ rc hEq
    cases hEq
    decide
  · intro _
    refine Triple.anything.bind ?_
    intro r
    have hCode := readResult_common r
    cases r with
    | success bs h =>
        refine Triple.ite ?_ ?_
        · intro _
          exact Triple.ret (fun _ _ => trivial)
        · intro _
          refine Triple.ret ?_
          intro _ _ rc hEq
          cases hEq
    | nothingToRead h =>
        refine Triple.ret ?_
        intro _ _ rc hEq
        cases hEq
        exact hCode
    | readTimeout bs hPos h =>
        refine Triple.ret ?_
        intro _ _ rc hEq
        cases hEq
        exact hCode
    | readError bs h =>
        refine Triple.ret ?_
        intro _ _ rc hEq
        cases hEq
        exact hCode

theorem readPacket_common
    (fuel : Nat) :
    Triple (Contract.plain (Sys E) Event) (fun _ => True)
      (readPacket port fuel)
      (fun r _ => Common r.1) := by
  refine Triple.anything.bind ?_
  intro c
  refine Triple.anything.bind ?_
  intro _
  refine Triple.anything.bind ?_
  intro r
  have hCode := readResult_common r
  cases r with
  | nothingToRead h =>
      exact Triple.ret (fun _ _ => by decide)
  | readTimeout bs hPos h =>
      exact Triple.ret (fun _ _ => hCode)
  | readError bs h =>
      exact Triple.ret (fun _ _ => hCode)
  | success bs h =>
      refine
        (decodePacketRemainingLen_common fuel).bind ?_
      intro decoded
      cases decoded with
      | error rc => exact Triple.ret (fun _ h => h rc rfl)
      | ok remLen =>
          refine Triple.anything.bind ?_
          intro c
          refine Triple.ite ?_ ?_
          · intro _
            refine Triple.anything.bind ?_
            intro _
            exact Triple.ret (fun _ _ => by decide)
          · intro _
            refine Triple.anything.bind ?_
            intro _
            refine Triple.anything.bind ?_
            intro complete
            refine Triple.ite ?_ ?_
            · intro _
              refine Triple.anything.bind ?_
              intro _
              refine Triple.anything.bind ?_
              intro _
              exact Triple.ret (fun _ _ => common_success)
            · intro _
              exact Triple.ret (fun _ _ => by decide)

/- Decoding a PUBLISH fails with a common code. -/
theorem deserializePublish_common
    {buf : Buffer}
    {rxBufLen : Nat}
    {rc : IoTError}
    (hError :
      deserializePublish buf rxBufLen = .error rc) :
    Common rc := by
  unfold deserializePublish at hError
  by_cases hShort : 4 > rxBufLen
  · rw [if_pos hShort] at hError
    cases hError
    decide
  rw [if_neg hShort] at hError
  by_cases hType :
      headerType (buf 0) ≠ MessageType.publish.nibble
  · rw [if_pos hType] at hError
    cases hError
    decide
  rw [if_neg hType] at hError
  cases hLen : decodeRemainingLengthFromBuffer buf 1 with
  | error rc' =>
      rw [hLen] at hError
      cases hError
      rw [decodeLenRounds_error hLen]
      decide
  | ok field =>
      rw [hLen] at hError
      dsimp only at hError
      split at hError
      · cases hError
        decide
      · cases hError

theorem sendAck_common
    (hSingle : port.threadSupport = false)
    (fuel : Nat)
    (timer : TimerName)
    (id : UInt16) :
    ReturnsCommon
      (sendSerialized port fuel timer (fun c =>
        serializeAck c.writeBufSize .puback 0 id)) := by
  refine
    ((holds_serialize (K := fun _ _ _ => True)
      (fun _ _ => trivial)
      (serializeAck_encodes .puback 0 id)).pre
        (fun _ _ => trivial)).bind ?_
  intro encoded
  cases encoded with
  | error rc =>
      refine Triple.ret ?_
      intro w hPre
      rcases hPre with ⟨⟨c, hError⟩, _⟩
      rw [serializeAck_error hError]
      decide
  | ok n =>
      exact
        (sendPacket_common hSingle fuel n timer).pre
          (fun _ _ => trivial)

theorem handlePublish_common
    (hSingle : port.threadSupport = false)
    (fuel : Nat)
    (timer : TimerName) :
    ReturnsCommon
      (handlePublish port fuel callback timer) := by
  refine Triple.anything.bind ?_
  intro c
  cases hMsg : deserializePublish c.readBuf c.readBufSize with
  | error rc =>
      exact Triple.ret
        (fun _ _ => deserializePublish_common hMsg)
  | ok msg =>
      refine Triple.anything.bind ?_
      intro _
      refine Triple.bind (M := fun rc _ => Common rc)
        ?_ ?_
      · refine Triple.anything.bind ?_
        intro clientState
        refine Triple.anything.bind ?_
        intro _
        refine Triple.anything.bind ?_
        intro c
        refine Triple.anything.bind ?_
        intro _
        exact setClientState_common hSingle _ _
      · intro rc
        refine
          Triple.pre (Triple.of_fact (P := fun _ => True) ?_)
            (fun _ h => ⟨h, trivial⟩)
        intro hCommon
        refine Triple.anything.bind ?_
        intro c'
        refine Triple.anything.bind ?_
        intro _
        refine Triple.ite ?_ ?_
        · intro _
          exact Triple.ret (fun _ _ => hCommon)
        · intro _
          cases (c'.sees msg).params.ackId with
          | none =>
              exact Triple.ret (fun _ _ => common_success)
          | some id =>
              exact
                (sendAck_common hSingle fuel timer id).pre
                  (fun _ _ => trivial)

theorem dispatchPacket_common
    (hSingle : port.threadSupport = false)
    (fuel : Nat)
    (timer : TimerName)
    (packetType : UInt8) :
    ReturnsCommon
      (dispatchPacket port fuel callback timer
        packetType) := by
  unfold dispatchPacket
  split
  case h_5 =>
      exact handlePublish_common hSingle fuel timer
  case h_8 =>
      refine Triple.anything.bind ?_
      intro _
      refine Triple.anything.bind ?_
      intro _
      refine Triple.anything.bind ?_
      intro _
      exact Triple.ret (fun _ _ => common_success)
  all_goals exact Triple.ret (fun _ _ => by decide)

/-
  No code of the receive path is taken for a lost connection
  by the end of yield.
-/
theorem cycleRead_common
    (hSingle : port.threadSupport = false)
    (fuel : Nat)
    (timer : TimerName) :
    Triple (Contract.plain (Sys E) Event) (fun _ => True)
      (cycleRead port fuel callback timer)
      (fun r _ => Common r.1) := by
  rw [cycleRead_single hSingle]
  refine (readPacket_common fuel).bind ?_
  rintro ⟨rc, packetType⟩
  refine Triple.ite ?_ ?_
  · intro _
    exact Triple.ret (fun _ _ => common_success)
  · intro _
    refine Triple.ite ?_ ?_
    · intro _
      exact Triple.ret (fun _ h => h)
    · intro _
      cases packetType with
      | none => exact Triple.ret (fun _ h => h)
      | some type =>
          refine Triple.bind (M := fun rc _ => Common rc)
            ?_ (fun _ => Triple.ret (fun _ h => h))
          refine Triple.pre
            (dispatchPacket_common hSingle fuel timer type)
            (fun _ _ => trivial)

end Mqtt

end TrustOnboard

------------------------------------------------------------
-- Losing The Connection
------------------------------------------------------------

namespace TrustOnboard

namespace Mqtt

namespace Regime

variable {E : Type}
variable {R : Regime E}
variable {port : Port E}
variable {callback : Callback E}
variable {onLost : HandlerId → Nat → Code E Unit}

/- The disconnect handler keeps a client at rest. -/
abbrev HandlerRests
    (R : Regime E)
    (onLost : HandlerId → Nat → Code E Unit) : Prop :=
  ∀ handler data, Triple R.contract (Holds R.Rest)
    (onLost handler data) (fun _ => Holds R.Rest)

namespace Lawful

/- The disconnect that starts the handling of a loss. -/
theorem disconnectOrForce
    (hR : R.Lawful port)
    {I : Fact}
    (hMode : R.Mode I)
    (s : ClientState)
    (fuel : Nat) :
    Triple R.contract (Holds (At s I))
      (disconnectOrForce port fuel)
      (fun _ => Holds (fun s f l =>
        R.Rest s f l ∧ isClientConnected s = false)) := by
  have hDisconnect :
      Triple R.contract (Holds (At s I))
        (Mqtt.disconnect port fuel)
        (fun rc w =>
          (rc = .success ∧
            Holds (At .disconnectedManually R.down) w) ∨
          (rc ≠ .success ∧ Holds (At s I) w)) := by
    cases hOn : isClientConnected s with
    | true => exact hR.disconnect hMode hOn fuel
    | false =>
        exact (disconnect_off hOn fuel).post
          (fun _ _ h => Or.inr h)
  refine hDisconnect.bind ?_
  intro rc
  refine Triple.ite ?_ ?_
  · intro hRc
    refine
      (hR.forceClientDisconnect
        (φ := fun s' => s' = s)).conseq ?_ ?_
    · intro w hPre
      rcases hPre with ⟨hNo, _⟩ | ⟨_, hAt⟩
      · exact absurd hNo hRc
      · rcases hMode with rfl | ⟨_, rfl⟩
        · exact Or.inl hAt
        · exact Or.inr hAt
    · intro _ w hAt
      exact rest_of_at rfl rfl hAt
  · intro hRc
    refine Triple.ret ?_
    intro w hPre
    rcases hPre with ⟨_, hAt⟩ | ⟨hNo, _⟩
    · exact rest_of_at rfl rfl hAt
    · exact absurd hNo hRc

/- The disconnect handler must leave the connection down. -/
theorem callDisconnectHandler
    (hR : R.Lawful port)
    (hLost : R.HandlerRests onLost) :
    Triple R.contract
      (Holds (fun s f l =>
        R.Rest s f l ∧ isClientConnected s = false))
      (callDisconnectHandler onLost)
      (fun _ => Holds (In (fun _ => True) R.down)) := by
  refine (holds_read _).bind ?_
  intro c
  cases c.disconnectHandler with
  | none =>
      exact Triple.ret (fun _ h => ⟨trivial, h.1.2.2 h.2⟩)
  | some handler =>
      refine ((hLost handler _).pre (fun _ h => h.1)).bind ?_
      intro _
      refine Triple.emit ?_
      intro w hRest
      cases hOn :
          isClientConnected w.st.client.clientState with
      | true =>
          rcases hR.handlerConnected _ _ _ hOn
            (hRest.2.1 hOn) with hBad | hDown
          · exact Or.inl hBad
          · exact Or.inr ⟨trivial, hDown⟩
      | false =>
          exact Or.inr
            ⟨trivial,
              hR.handlerDisconnected _ _ _ (hRest.2.2 hOn)⟩

/-
  `_aws_iot_mqtt_handle_disconnect` always ends in the error
  state with the connection down.
-/
theorem handleDisconnect
    (hR : R.Lawful port)
    (hLost : R.HandlerRests onLost)
    {I : Fact}
    (hMode : R.Mode I)
    (s : ClientState)
    (fuel : Nat) :
    Triple R.contract (Holds (At s I))
      (handleDisconnect port fuel onLost)
      (fun rc w =>
        rc = .networkDisconnectedError ∧
          Holds (At .disconnectedError R.down) w) := by
  refine Triple.bind (M := fun _ => Holds (At s I))
    ?_ ?_
  · refine Triple.emit ?_
    intro w hAt
    exact Or.inr
      ⟨hAt.1,
        hR.neutral_mode hMode _ _ .connectionLost rfl
          hAt.2⟩
  intro _
  refine (hR.disconnectOrForce hMode s fuel).bind ?_
  intro _
  refine (hR.callDisconnectHandler hLost).bind ?_
  intro _
  refine (in_assignClientState _).bind ?_
  intro _
  exact Triple.ret (fun _ h => ⟨rfl, h⟩)

end Lawful

end Regime

end Mqtt

end TrustOnboard

------------------------------------------------------------
-- Rounds Of Yield
------------------------------------------------------------

namespace TrustOnboard

namespace Mqtt

namespace Regime

variable {E : Type}
variable {R : Regime E}
variable {port : Port E}
variable {callback waitCallback yieldCallback : Callback E}
variable {onLost : HandlerId → Nat → Code E Unit}
variable {waiting : Bool}

/-
  Between two rounds of yield the client is yielding, idle
  after a reconnect that was not completed, or waiting to
  reconnect.
-/
def Yielding (R : Regime E) : Cond :=
  (R.Settled .pendingReconnect).or
    (At .connectedYieldInProgress R.live)

/-
  At the end of the rounds the client is at rest, or it is
  yielding and the code lets the end of yield put it back.
-/
def Yielded
    (R : Regime E)
    (rc : IoTError)
    (w : Run E) : Prop :=
  Holds R.Rest w ∨
    (Ordinary rc ∧
      Holds (At .connectedYieldInProgress R.live) w)

/- The work of one round is done with the given code. -/
def Tried
    (R : Regime E)
    (rc : IoTError)
    (w : Run E) : Prop :=
  Holds (R.Settled .pendingReconnect) w ∨
    (Ordinary rc ∧
      Holds (At .connectedYieldInProgress R.live) w)

/- What one round of yield hands to the next, or returns. -/
def RoundDone
    (R : Regime E)
    (r : Unit ⊕ IoTError)
    (w : Run E) : Prop :=
  match r with
  | .inl _ => Holds R.Yielding w
  | .inr rc => R.Yielded rc w

/-
  The connection was found lost and is down, or the client is
  still in its state.
-/
def LostOrAt
    (R : Regime E)
    (s : ClientState)
    (I : Fact)
    (rc : IoTError)
    (w : Run E) : Prop :=
  (rc = .networkDisconnectedError ∧
    Holds (At .disconnectedError R.down) w) ∨
  (Ordinary rc ∧ Holds (At s I) w)

namespace Lawful

theorem rest_of_settled
    {s s' : ClientState}
    {f : Frame}
    {l : List Event}
    (hStable : s.isStable = true)
    (hOff : isClientConnected s = false)
    (hSettled : R.Settled s s' f l) :
    R.Rest s' f l := by
  rcases hSettled with ⟨hState, hDown⟩ | hPhase
  · rw [hState]
    exact rest_of_down hStable hOff hDown
  · exact rest_of_phase_idle hPhase

/- `_aws_iot_mqtt_keep_alive`. -/
theorem keepAlive
    (hR : R.Lawful port)
    (hLost : R.HandlerRests onLost)
    {I : Fact}
    (hMode : R.Mode I)
    (s : ClientState)
    (fuel : Nat) :
    Triple R.contract (Holds (At s I))
      (keepAlive port fuel onLost)
      (fun rc => R.LostOrAt s I rc) := by
  have hKept := hR.keptIn hMode (fun s' => s' = s)
  have hHandle :=
    (hR.handleDisconnect hLost hMode s fuel).post
      (Q := fun rc => R.LostOrAt s I rc)
      (fun _ _ h => Or.inl h)
  have hDone :
      ∀ w : Run E, Holds (At s I) w →
        R.LostOrAt s I .success w :=
    fun _ h => Or.inr ⟨ordinary_success, h⟩
  refine (holds_read _).bind ?_
  intro c
  refine Triple.ite ?_ ?_
  · intro _
    exact Triple.ret hDone
  · intro _
    refine (holds_hasTimerExpired hKept.quiet _).bind ?_
    intro expired
    refine Triple.ite ?_ ?_
    · intro _
      exact Triple.ret hDone
    · intro _
      refine (holds_read _).bind ?_
      intro c
      refine Triple.ite ?_ ?_
      · intro _
        exact hHandle
      · intro _
        refine holds_startCommandTimer.bind ?_
        intro _
        refine
          (holds_serialize hKept.halt
            (serializeZero_encodes .pingreq)).bind ?_
        intro encoded
        cases encoded with
        | error rc =>
            refine Triple.ret ?_
            intro w hPre
            rcases hPre with ⟨⟨c, hError⟩, hAt⟩
            refine Or.inr ⟨?_, hAt⟩
            rw [serializeZero_error hError]
            decide
        | ok n =>
            refine (hKept.send fuel n .command).bind ?_
            intro rc
            refine Triple.ite ?_ ?_
            · intro _
              exact hHandle
            · intro _
              refine Triple.seq
                (holds_modifyClient (fun _ => rfl)
                  (fun _ => rfl)) ?_
              intro _
              refine (holds_read _).bind ?_
              intro c
              refine (holds_countdown _ _).bind ?_
              intro _
              exact Triple.ret hDone

/- The reading half of one round. -/
theorem yieldRead
    (hR : R.Lawful port)
    (hCb : R.Reentry callback waiting)
    (hLost : R.HandlerRests onLost)
    {I : Fact}
    (hMode : R.Mode I)
    (s : ClientState)
    (fuel : Nat) :
    Triple R.contract (Holds (At s I))
      (yieldRead port fuel callback onLost)
      (fun rc w =>
        (rc = .networkDisconnectedError ∧
          Holds (At .disconnectedError R.down) w) ∨
        (Ordinary rc ∧
          (Holds (At s I) w ∨
            (rc ≠ .success ∧ Holds R.Rest w)))) := by
  have hCycle :=
    ((hR.keptIn hMode (fun s' => s' = s)).cycleRead hR.single
      (hR.deliverMessage hCb hMode s) fuel .yield).and_plain
      (cycleRead_common hR.single fuel .yield)
  refine (hCycle.pre (fun _ h => ⟨h, trivial⟩)).bind ?_
  rintro ⟨rc, packetType⟩
  refine Triple.ite ?_ ?_
  · intro hRc
    refine (hR.keepAlive hLost hMode s fuel).conseq ?_ ?_
    · intro w hPre
      rcases hPre.1 with hAt | ⟨hLeft, _⟩
      · exact hAt
      · rw [hLeft] at hRc
        cases hRc
    · intro rc w hPost
      rcases hPost with hOff | ⟨hRc, hAt⟩
      · exact Or.inl hOff
      · exact Or.inr ⟨hRc, Or.inl hAt⟩
  · intro hRc
    refine Triple.ite ?_ ?_
    · intro hTerminal
      refine (hR.handleDisconnect hLost hMode s fuel).conseq ?_ ?_
      · intro w hPre
        rcases hPre.1 with hAt | ⟨hLeft, _⟩
        · exact hAt
        · rw [hLeft] at hTerminal
          cases hTerminal
      · intro _ w hPost
        exact Or.inl hPost
    · intro _
      refine Triple.ret ?_
      intro w hPre
      rcases hPre with ⟨hAt | ⟨_, hOut⟩, hOrd⟩
      · exact Or.inr ⟨hOrd.1, Or.inl hAt⟩
      · exact Or.inr ⟨hOrd.1, Or.inr ⟨hRc, hOut.2⟩⟩

/- The step from a lost connection to the pending state. -/
theorem startReconnect
    (hR : R.Lawful port) :
    Triple R.contract
      (Holds (At .disconnectedError R.down))
      (startReconnect port)
      (fun r w =>
        match r with
        | .inl _ => Holds (At .pendingReconnect R.down) w
        | .inr _ => Holds R.Rest w) := by
  refine Triple.bind
    (M := fun _ => Holds (At .disconnectedError R.down))
    (holds_modifyClient (fun _ => rfl) (fun _ => rfl)) ?_
  intro _
  refine (holds_read _).bind ?_
  intro c
  refine Triple.ite ?_ ?_
  · intro _
    refine
      (setClientState_of_eq hR.single hR.quiet_down
        .pendingReconnect).bind ?_
    intro rc
    refine Triple.of_fact ?_
    rintro rfl
    refine Triple.ite ?_ ?_
    · intro hNo
      exact absurd rfl hNo
    · intro _
      refine Triple.bind
        (M := fun _ => Holds (At .pendingReconnect R.down))
        (holds_emit
          (fun _ f l e hE hAt =>
            ⟨hAt.1, hR.quiet_down f l e hE hAt.2⟩)
          (fun _ => rfl)) ?_
      intro _
      refine Triple.bind
        (M := fun _ => Holds (At .pendingReconnect R.down))
        (holds_modifyClient (fun _ => rfl)
          (fun _ => rfl)) ?_
      intro _
      refine (holds_countdown _ _).bind ?_
      intro _
      exact Triple.ret (fun _ h => h)
  · intro _
    exact Triple.ret (fun _ h => (rest_of_at rfl rfl h).1)

/- The wait before the next attempt. -/
theorem backOff
    {C : Contract (Sys E) Event}
    {K : Cond}
    (rc : IoTError) :
    Triple C (Holds K) (backOff port rc)
      (fun _ => Holds K) := by
  refine Triple.seq
    (holds_modifyClient (fun _ => rfl) (fun _ => rfl)) ?_
  intro _
  refine (holds_read _).bind ?_
  intro c
  refine Triple.ite ?_ ?_
  · intro _
    exact Triple.same
  · intro _
    exact (holds_countdown _ _).seq (fun _ => Triple.same)

/- The return to yield after a completed reconnect. -/
theorem resumeYield
    (hR : R.Lawful port) :
    Triple R.contract (Holds (At .connectedIdle R.live))
      (do
        let rc ←
          setClientState port .connectedIdle
            .connectedYieldInProgress
        if rc ≠ .success then
          pure rc
        else
          pure .networkReconnected)
      (fun rc => R.Tried rc) := by
  refine
    (setClientState_of_eq hR.single hR.quiet_live
      .connectedYieldInProgress).bind ?_
  intro rc
  refine Triple.of_fact ?_
  rintro rfl
  refine Triple.ite (fun h => absurd rfl h) (fun _ => ?_)
  exact Triple.ret (fun _ h => Or.inr ⟨by decide, h⟩)

/- `_aws_iot_mqtt_handle_reconnect`. -/
theorem handleReconnect
    (hR : R.Lawful port)
    (hCb : R.Reentry callback true)
    (fuel : Nat) :
    Triple R.contract
      (Holds (At .pendingReconnect R.down))
      (handleReconnect port fuel callback)
      (fun rc => R.Tried rc) := by
  refine
    (holds_hasTimerExpired
      (fun _ _ _ _ hE h =>
        ⟨h.1, hR.quiet_down _ _ _ hE h.2⟩) _).bind ?_
  intro expired
  refine Triple.ite ?_ ?_
  · intro _
    exact Triple.ret (fun _ h => Or.inl (Or.inl h))
  · intro _
    refine holds_netIsConnected.bind ?_
    intro rc
    refine Triple.ite ?_ ?_
    · intro _
      refine (hR.attemptReconnect hCb rfl fuel).bind ?_
      intro rc
      refine Triple.ite ?_ ?_
      · intro hRc
        refine Triple.pre
          (A := Holds (R.Phase .connectedIdle R.live)) ?_ ?_
        · refine phase_pre ?_ ?_
          · exact hR.resumeYield
          · intro hCut
            refine rest_pre hR.resumeYield ?_
            intro s' hStable hOff
            refine Triple.bind
              (M := fun rc w =>
                rc = .mqttUnexpectedClientStateError ∧
                  Holds (At s' R.down) w) ?_ ?_
            · refine
                setClientState_of_ne hR.single ?_ ?_ _
              · intro _ f l e hE hAt
                exact
                  ⟨hAt.1, hR.quiet_down f l e hE hAt.2⟩
              · intro _ f l hAt hEq
                rw [← hAt.1, hEq] at hOff
                cases hOff
            · intro rc
              refine Triple.of_fact ?_
              rintro rfl
              refine Triple.ite ?_ ?_
              · intro _
                refine Triple.ret ?_
                intro w hAt
                exact Or.inl (Or.inr (Or.inr
                  (out_of_rest hCut
                    (rest_of_at hStable hOff hAt).1)))
              · intro hNo
                exact absurd (by decide) hNo
        · intro w hPre
          rcases hPre with ⟨hNo, _⟩ | hPhase
          · exact absurd hRc hNo
          · exact hPhase
      · intro _
        refine
          ((backOff (K := R.Settled .pendingReconnect)
            rc).pre ?_).post (fun _ _ h => Or.inl h)
        intro w hPre
        rcases hPre with ⟨_, hAt⟩ | hPhase
        · exact Or.inl hAt
        · exact Or.inr hPhase
    · intro _
      exact
        ((backOff (K := R.Settled .pendingReconnect)
          rc).pre (fun _ h => Or.inl h)).post
            (fun _ _ h => Or.inl h)

theorem yielded_of_tried
    {rc : IoTError}
    {w : Run E}
    (hTried : R.Tried rc w) :
    R.Yielded rc w := by
  rcases hTried with hSettled | hYield
  · exact Or.inl (rest_of_settled rfl rfl hSettled)
  · exact Or.inr hYield

/- What a round has done survives an answer of a timer. -/
theorem quiet_tried
    (hR : R.Lawful port)
    {rc : IoTError}
    {s s' : Sys E}
    {l : List Event}
    {e : Event}
    (hClient : s'.client = s.client)
    (hQuiet : e.quiet = true)
    (hTried : R.Tried rc ⟨s, l⟩) :
    R.Tried rc ⟨s', e :: l⟩ := by
  unfold Tried Holds at *
  dsimp only at *
  rw [hClient]
  rcases hTried with (hAt | hPhase) | ⟨hOrd, hAt⟩
  · exact
      Or.inl (Or.inl
        ⟨hAt.1, hR.quiet_down _ _ _ hQuiet hAt.2⟩)
  · exact
      Or.inl (Or.inr
        ((hR.keptPhase live_mode _).quiet _ _ _ _ hQuiet
          hPhase))
  · exact
      Or.inr
        ⟨hOrd, hAt.1, hR.quiet_live _ _ _ hQuiet hAt.2⟩

/- The yield timer ends the round or starts the next. -/
theorem yieldTimer
    (hR : R.Lawful port)
    (rc : IoTError) :
    Triple R.contract (R.Tried rc)
      (Mqtt.yieldTimer port rc)
      (fun r => R.RoundDone r) := by
  refine Triple.bind (M := fun _ => R.Tried rc)
    (Triple.step
      (fun _ h => Or.inr (hR.quiet_tried rfl rfl h))) ?_
  intro expired
  refine Triple.ite ?_ ?_
  · intro _
    exact Triple.ret (fun _ h => yielded_of_tried h)
  · intro _
    refine Triple.ret ?_
    intro w hTried
    rcases hTried with hSettled | ⟨_, hAt⟩
    · exact Or.inl hSettled
    · exact Or.inr hAt

/- A round in the pending state. -/
theorem yieldRound_pending
    (hR : R.Lawful port)
    (hWait : R.Reentry waitCallback true)
    (fuel : Nat) :
    Triple R.contract
      (Holds (At .pendingReconnect R.down))
      (yieldRound port fuel waitCallback yieldCallback onLost)
      (fun r => R.RoundDone r) := by
  refine at_getClientState.bind ?_
  intro clientState
  refine Triple.of_fact ?_
  rintro rfl
  refine Triple.ite ?_ ?_
  · intro _
    refine (holds_read _).bind ?_
    intro c
    refine Triple.ite ?_ ?_
    · intro _
      exact Triple.ret
        (fun _ h => Or.inl (rest_of_at rfl rfl h).1)
    · intro _
      refine (hR.handleReconnect hWait fuel).bind ?_
      intro rc
      exact hR.yieldTimer rc
  · intro hNo
    exact absurd rfl hNo

/- A round that reads. -/
theorem yieldRound_reading
    (hR : R.Lawful port)
    (hYield : R.Reentry yieldCallback waiting)
    (hLost : R.HandlerRests onLost)
    {I : Fact}
    (hMode : R.Mode I)
    {s : ClientState}
    (hPending : s ≠ .pendingReconnect)
    (hTried :
      ∀ rc (w : Run E), Ordinary rc →
        Holds (At s I) w → R.Tried rc w)
    (fuel : Nat) :
    Triple R.contract (Holds (At s I))
      (yieldRound port fuel waitCallback yieldCallback onLost)
      (fun r => R.RoundDone r) := by
  refine at_getClientState.bind ?_
  intro clientState
  refine Triple.of_fact ?_
  rintro rfl
  refine Triple.ite ?_ ?_
  · intro hEq
    exact absurd hEq hPending
  · intro _
    refine (hR.yieldRead hYield hLost hMode _ fuel).bind ?_
    intro rc
    refine Triple.ite ?_ ?_
    · intro hRc
      refine Triple.pre
        (A := Holds (At .disconnectedError R.down)) ?_ ?_
      · refine hR.startReconnect.bind ?_
        intro r
        cases r with
        | inl rc =>
            exact (hR.yieldTimer rc).pre
              (fun _ h => Or.inl (Or.inl h))
        | inr rc => exact Triple.ret (fun _ h => Or.inl h)
      · intro w hPre
        rcases hPre with ⟨_, hAt⟩ | ⟨hOrd, _⟩
        · exact hAt
        · exact absurd hRc hOrd.1
    · intro hRc
      refine Triple.ite ?_ ?_
      · intro _
        refine Triple.ret ?_
        intro w hPre
        rcases hPre with ⟨hEq, _⟩ | ⟨hOrd, hAt | hRest⟩
        · exact absurd hEq hRc
        · exact yielded_of_tried (hTried rc w hOrd hAt)
        · exact Or.inl hRest.2
      · intro hOk
        refine (hR.yieldTimer rc).pre ?_
        intro w hPre
        rcases hPre with ⟨hEq, _⟩ | ⟨hOrd, hAt | hRest⟩
        · exact absurd hEq hRc
        · exact hTried rc w hOrd hAt
        · exact absurd hRest.1 hOk

/- One round of `_aws_iot_mqtt_internal_yield`. -/
theorem yieldRound
    (hR : R.Lawful port)
    (hWait : R.Reentry waitCallback true)
    (hYield : R.Reentry yieldCallback waiting)
    (hLost : R.HandlerRests onLost)
    (fuel : Nat) :
    Triple R.contract (Holds R.Yielding)
      (yieldRound port fuel waitCallback yieldCallback onLost)
      (fun r => R.RoundDone r) := by
  have hIdle :
      Triple R.contract (Holds (At .connectedIdle R.live))
        (Mqtt.yieldRound port fuel waitCallback yieldCallback
          onLost)
        (fun r => R.RoundDone r) :=
    hR.yieldRound_reading hYield hLost live_mode (by decide)
      (fun _ _ _ h => Or.inl (Or.inr (phase_of_at h))) fuel
  refine or_pre (or_pre ?_ ?_) ?_
  · exact hR.yieldRound_pending hWait fuel
  · refine phase_pre hIdle ?_
    intro hCut
    refine rest_pre hIdle ?_
    intro s hStable hOff
    by_cases hPending : s = .pendingReconnect
    · subst hPending
      exact hR.yieldRound_pending hWait fuel
    · refine
        hR.yieldRound_reading hYield hLost
          (Or.inr ⟨hCut, rfl⟩) hPending ?_ fuel
      intro _ w _ hAt
      exact Or.inl (Or.inr (Or.inr
        (out_of_rest hCut (rest_of_at hStable hOff hAt).1)))
  · exact
      hR.yieldRound_reading hYield hLost live_mode
        (by decide) (fun _ _ hRc h => Or.inr ⟨hRc, h⟩) fuel

theorem halt_yielding
    (hR : R.Lawful port)
    (w : Run E)
    (hYielding : Holds R.Yielding w) :
    R.contract.halted w := by
  rcases hYielding with (hAt | (hAt | hOut)) | hAt
  · exact hR.halt_down w hAt.2
  · exact hR.halt_live w hAt.2
  · exact hR.halt_rest w hOut.2
  · exact hR.halt_live w hAt.2

/- All rounds and the end of yield. -/
theorem yieldToEnd
    (hR : R.Lawful port)
    (hWait : R.Reentry waitCallback true)
    (hYield : R.Reentry yieldCallback waiting)
    (hLost : R.HandlerRests onLost)
    (fuel : Nat)
    (timeoutMs : UInt32) :
    Triple R.contract (Holds R.Yielding)
      (do
        let yieldRc ←
          internalYield port fuel waitCallback
            yieldCallback onLost timeoutMs
        finishYield port yieldRc)
      (fun _ => Holds R.Rest) := by
  refine Triple.bind (M := fun rc => R.Yielded rc) ?_ ?_
  · refine (holds_countdown _ _).bind ?_
    intro _
    exact
      Triple.loop (fun _ => Holds R.Yielding)
        (fun _ w h => hR.halt_yielding w h)
        (fun _ => (hR.yieldRound hWait hYield hLost fuel).post
          (fun r _ h => by cases r <;> exact h))
  · intro rc
    refine Triple.ite ?_ ?_
    · intro _
      refine Triple.bind (M := fun _ => Holds R.Rest) ?_ ?_
      · refine Triple.pre
          (A := Holds
            (R.Rest.or
              (At .connectedYieldInProgress R.live))) ?_ ?_
        · refine or_pre ?_ ?_
          · exact (hR.setClientState_rest rfl _).post
              (fun _ _ h => h.2)
          · refine
              (setClientState_of_eq hR.single hR.quiet_live
                _).post ?_
            intro _ w hAt
            exact rest_of_phase_idle (phase_of_at hAt.2)
        · intro w hYielded
          rcases hYielded with hRest | ⟨_, hAt⟩
          · exact Or.inl hRest
          · exact Or.inr hAt
      · intro rc
        refine Triple.ite ?_ ?_
        · intro _
          exact Triple.same
        · intro _
          exact Triple.same
    · intro hNot
      refine Triple.ret ?_
      intro w hYielded
      rcases hYielded with hRest | ⟨hOrd, _⟩
      · exact hRest
      · exact absurd hOrd hNot

/- `aws_iot_mqtt_yield` on a client at rest. -/
theorem yield
    (hR : R.Lawful port)
    (hWait : R.Reentry waitCallback true)
    (hYield : R.Reentry yieldCallback waiting)
    (hLost : R.HandlerRests onLost)
    (fuel : Nat)
    (timeoutMs : UInt32) :
    Triple R.contract (Holds R.Rest)
      (yield port fuel waitCallback yieldCallback onLost
        timeoutMs)
      (fun _ => Holds R.Rest) := by
  have hEnd :=
    hR.yieldToEnd hWait hYield hLost fuel timeoutMs
  refine Triple.ite ?_ ?_
  · intro _
    exact Triple.same
  · intro _
    refine rest_pre ?_ ?_
    · refine at_getClientState.bind ?_
      intro clientState
      refine Triple.of_fact ?_
      rintro rfl
      refine Triple.ite (fun h => by cases h) (fun _ => ?_)
      refine Triple.ite (fun h => by cases h) (fun _ => ?_)
      refine at_getClientState.bind ?_
      intro seen
      refine Triple.of_fact ?_
      rintro rfl
      refine Triple.ite
        (fun h => absurd rfl h) (fun _ => ?_)
      refine Triple.ite
        (fun h => absurd rfl h) (fun _ => ?_)
      refine
        (setClientState_of_eq hR.single hR.quiet_live
          .connectedYieldInProgress).bind ?_
      intro rc
      refine Triple.of_fact ?_
      rintro rfl
      refine Triple.ite
        (fun h => absurd rfl h) (fun _ => ?_)
      exact hEnd.pre (fun _ h => Or.inr h)
    · intro s hStable hOff
      refine at_getClientState.bind ?_
      intro clientState
      refine Triple.of_fact ?_
      rintro rfl
      have hRest :
          ∀ w : Run E,
            Holds (At clientState R.down) w →
              Holds R.Rest w :=
        fun _ h => (rest_of_at hStable hOff h).1
      refine Triple.ite ?_ ?_
      · intro _
        exact Triple.ret hRest
      · intro _
        refine Triple.ite ?_ ?_
        · rintro rfl
          exact hEnd.pre (fun _ h => Or.inl (Or.inl h))
        · intro _
          refine at_getClientState.bind ?_
          intro seen
          refine Triple.of_fact ?_
          rintro rfl
          refine Triple.ite ?_ ?_
          · intro _
            exact Triple.ret hRest
          · intro hOn
            rw [hOff] at hOn
            exact absurd (by decide) hOn

end Lawful

/- Yield returns at once unless the client is idle or lost. -/
theorem yield_busy
    {C : Contract (Sys E) Event}
    {I : Fact}
    {s : ClientState}
    (hIdle : s ≠ .connectedIdle)
    (hPending : s ≠ .pendingReconnect)
    (fuel : Nat)
    (timeoutMs : UInt32) :
    Triple C (Holds (At s I))
      (yield port fuel waitCallback yieldCallback onLost
        timeoutMs)
      (fun _ => Holds (At s I)) := by
  refine Triple.ite (fun _ => Triple.same) (fun _ => ?_)
  refine at_getClientState.bind ?_
  intro clientState
  refine Triple.of_fact ?_
  rintro rfl
  refine Triple.ite (fun _ => Triple.same) (fun _ => ?_)
  refine Triple.ite (fun h => absurd h hPending) (fun _ => ?_)
  refine at_getClientState.bind ?_
  intro seen
  refine Triple.of_fact ?_
  rintro rfl
  refine Triple.ite (fun _ => Triple.same) (fun _ => ?_)
  refine Triple.ite (fun _ => Triple.same) ?_
  intro hNo
  exact absurd hIdle hNo

end Regime

end Mqtt

end TrustOnboard
