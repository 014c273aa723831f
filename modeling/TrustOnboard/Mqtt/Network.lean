import TrustOnboard.Mqtt.StateMachine

/-
  The client state and the network connection in
  single-threaded runs.

  The first part compares `aws_iot_mqtt_is_client_connected`
  with the network being up.  The second part shows when the
  network is not used after it was torn down.  Both hold as
  long as a run avoids certain events, which are collected in
  `disturbed` and `careless`.

  Key definitions include:
    * `networkUp`
    * `disturbed`
    * `tornDown`
    * `misused`
    * `careless`

  Key results include:
    * `connected_iff_networkUp`
    * `not_misused`
-/

------------------------------------------------------------
-- The Network In The Log
------------------------------------------------------------

namespace TrustOnboard

namespace Mqtt

/-
  The last of a successful connect and a destroy is the
  connect.
-/
def networkUp : List Event → Bool
  | [] => false
  | .netConnect rc :: l =>
      if rc = .success then true else networkUp l
  | .netDestroy _ _ _ :: _ => false
  | _ :: l => networkUp l

/- A new connection is opened. -/
def Event.opensConnection : Event → Bool
  | .netConnect rc => decide (rc = .success)
  | _ => false

/-
  The steps after which client state and network part ways:
  the disconnect handler returns with the client connected
  again, although the state is about to become an error
  state; a disconnect puts the connected state back because
  destroy failed; a failed connect destroys a connection that
  a callback opened meanwhile; init runs on a network that is
  up.
-/
def disturbs (l : List Event) : Event → Bool
  | .disconnectHandlerReturned s => isClientConnected s
  | .netDestroy .disconnect rc _ =>
      decide (rc ≠ .success) && networkUp l
  | .netDestroy .connect _ s => isClientConnected s
  | .init => networkUp l
  | _ => false

/- Some step of the run is of this kind. -/
def disturbed : List Event → Bool
  | [] => false
  | e :: l => disturbs l e || disturbed l

theorem networkUp_neutral
    {e : Event}
    (hNeutral : e.neutral = true)
    (l : List Event) :
    networkUp (e :: l) = networkUp l := by
  cases e <;>
    simp_all [Event.neutral, Event.quiet, networkUp]

theorem networkUp_receive
    {e : Event}
    (hKind : e.isReceive = true)
    (l : List Event) :
    networkUp (e :: l) = networkUp l := by
  cases e <;>
    simp_all [Event.isReceive, Event.isInput, networkUp]

theorem networkUp_transmit
    {e : Event}
    (hKind : e.isTransmit = true)
    (l : List Event) :
    networkUp (e :: l) = networkUp l := by
  cases e <;>
    simp_all [Event.isTransmit, Event.isOutput, networkUp]

theorem opens_of_receive
    {e : Event}
    (hKind : e.isReceive = true) :
    e.opensConnection = false := by
  cases e <;>
    simp_all [Event.isReceive, Event.isInput,
      Event.opensConnection]

theorem opens_of_transmit
    {e : Event}
    (hKind : e.isTransmit = true) :
    e.opensConnection = false := by
  cases e <;>
    simp_all [Event.isTransmit, Event.isOutput,
      Event.opensConnection]

theorem opens_of_neutral
    {e : Event}
    (hNeutral : e.neutral = true) :
    e.opensConnection = false := by
  cases e <;>
    simp_all [Event.neutral, Event.quiet,
      Event.opensConnection]

theorem disturbed_append
    {l : List Event}
    (es : List Event)
    (hBad : disturbed l = true) :
    disturbed (es ++ l) = true := by
  induction es with
  | nil => exact hBad
  | cons e es ih =>
      simp only [List.cons_append, disturbed, ih,
        Bool.or_true]

end Mqtt

end TrustOnboard

------------------------------------------------------------
-- Agreement Of State And Network
------------------------------------------------------------

namespace TrustOnboard

namespace Mqtt

variable {E : Type}
variable {port : Port E}

/- Runs are followed until they are disturbed. -/
def undisturbed : Contract (Sys E) Event where
  excused := fun l => disturbed l = true
  excused_append := disturbed_append
  halted := fun _ => True

/- The network is up exactly while the client is connected. -/
def networkRegime : Regime E where
  contract := undisturbed
  live := fun _ l => networkUp l = true
  down := fun _ l => networkUp l = false
  cut := True
  allowed := fun _ => True

/- The facts of the regime, as the value they give. -/
theorem networkRegime_mode
    {I : Fact}
    (hMode : (networkRegime (E := E)).Mode I) :
    ∃ b, I = fun _ l => networkUp l = b := by
  rcases hMode with rfl | ⟨_, rfl⟩
  · exact ⟨true, rfl⟩
  · exact ⟨false, rfl⟩

theorem networkRegime_lawful
    (hSingle : port.threadSupport = false) :
    (networkRegime (E := E)).Lawful port where
  single := hSingle
  halt_live := fun _ _ => trivial
  halt_down := fun _ _ => trivial
  neutral_live := fun _ l _ hE hUp =>
    (networkUp_neutral hE l).trans hUp
  neutral_down := fun _ l _ hE hUp =>
    (networkUp_neutral hE l).trans hUp
  read := by
    intro φ I fuel hMode
    rcases networkRegime_mode hMode with ⟨b, rfl⟩
    exact
      in_readPacket (fun _ _ => trivial)
        (fun _ l _ hE hUp =>
          (networkUp_receive hE l).trans hUp) fuel
  send := by
    intro φ I fuel length timer hMode
    rcases networkRegime_mode hMode with ⟨b, rfl⟩
    exact
      (in_sendPacket hSingle (fun _ _ => trivial)
        (fun _ l _ hE hUp =>
          (networkUp_transmit hE l).trans hUp) fuel length
        timer).pre (fun _ h => h.2)
  connected := fun _ _ _ => Or.inr rfl
  refused := by
    intro f l rc hRc hDown
    have hUp : networkUp l = false := hDown
    change networkUp (.netConnect rc :: l) = false
    simp [networkUp, hRc, hUp]
  destroyed := fun _ _ _ _ _ _ _ => rfl
  destroyedCut := by
    intro s f l rc _ hRest
    cases hOn : isClientConnected s with
    | true =>
        left
        change disturbed (_ :: l) = true
        simp [disturbed, disturbs, hOn]
    | false =>
        right
        exact Regime.rest_of_down hRest.1 hOn rfl
  closed := fun _ _ _ _ _ _ => rfl
  notClosed := by
    intro I f l rc found hMode hRc hI
    rcases hMode with rfl | ⟨_, rfl⟩
    · left
      have hUp : networkUp l = true := hI
      change disturbed (_ :: l) = true
      simp [disturbed, disturbs, hRc, hUp]
    · exact Or.inr rfl
  handlerConnected := by
    intro f l s hOn _
    left
    change disturbed (_ :: l) = true
    simp [disturbed, disturbs, hOn]
  handlerDisconnected := fun _ _ _ hUp => hUp
  ret_live := fun _ _ _ _ _ hUp => hUp
  ret_down := fun _ _ _ _ _ hUp => hUp
  uncut := fun _ _ hNo _ _ => absurd trivial hNo
  calls := fun _ _ _ _ _ _ => trivial
  reset := by
    intro f l hEither
    cases hUp : networkUp l with
    | true =>
        left
        change disturbed (_ :: l) = true
        simp [disturbed, disturbs, hUp]
    | false => exact Or.inr hUp

theorem networkRegime_tableBlind :
    (networkRegime (E := E)).TableBlind where
  table := by
    intro I f l table hSide hI
    rcases hSide with rfl | rfl
    · exact hI
    · exact hI
  registered := by
    intro I f l slot previous hSide hI
    rcases hSide with rfl | rfl
    · exact hI
    · exact hI
  ret := by
    intro I f l c rc hSide hI
    rcases hSide with rfl | rfl
    · exact hI
    · exact hI

/- State and network agree. -/
def Agrees (w : Run E) : Prop :=
  isClientConnected w.st.client.clientState = true ↔
    networkUp w.log = true

instance (w : Run E) : Decidable (Agrees w) :=
  inferInstanceAs (Decidable (_ ↔ _))

/-
  In every run without a disturbing step the client counts as
  connected between calls exactly when the network is up.
-/
theorem connected_iff_networkUp
    (port : Port E)
    (hSingle : port.threadSupport = false)
    (fuel : Nat)
    (calls : List TopCall)
    (w w' : Run E)
    (hStable : w.st.client.clientState.isStable = true)
    (hStart : Agrees w)
    (hRun :
      (session port fuel calls).run w = (some (), w'))
    (hCalm : disturbed w'.log = false) :
    isClientConnected w'.st.client.clientState = true ↔
      networkUp w'.log = true := by
  have hR := networkRegime_lawful hSingle
  have hSession :=
    hR.session (hR.tableLaws networkRegime_tableBlind)
      fuel calls
  have hRest : Holds (networkRegime (E := E)).Rest w := by
    refine ⟨hStable, fun hOn => hStart.mp hOn, ?_⟩
    intro hOff
    change networkUp w.log = false
    cases hUp : networkUp w.log with
    | true =>
        rw [hStart.mpr hUp] at hOff
        cases hOff
    | false => rfl
  rcases hSession.of_run hRest hRun with hBad | hPost
  · have hYes : disturbed w'.log = true := hBad
    rw [hCalm] at hYes
    cases hYes
  · constructor
    · exact hPost.2.1
    · intro hUp
      by_contra hOff
      have hDown : networkUp w'.log = false :=
        hPost.2.2 (by simpa using hOff)
      rw [hDown] at hUp
      cases hUp

/-
  The connection is opened and then lost in a yield.  The
  disconnect handler makes the given calls.
-/
def lostConnection (calls : List ApiCall) : Run Script :=
  scriptStart (scriptClient .invalid [freeSlot])
    { Script.idle with
      incoming :=
        [some connackPacket, none, some connackPacket]
      timers := List.replicate 8 false
      handlers := [calls] }

/- The calls of the application in that run. -/
def lostConnectionCalls : List TopCall :=
  [.init (some scriptInit), .api (.connect none),
    .api (.yield 1000)]

theorem connected_iff_networkUp_lostConnection :
    ∃ w',
      (session scriptPort 6 lostConnectionCalls).run
          (lostConnection []) = (some (), w') ∧
        (isClientConnected w'.st.client.clientState = true ↔
          networkUp w'.log = true) := by
  have hRun :
      (session scriptPort 6 lostConnectionCalls).run
          (lostConnection []) =
        (some (),
          ((session scriptPort 6 lostConnectionCalls).run
            (lostConnection [])).2) :=
    Prod.ext (by decide +kernel) rfl
  exact
    ⟨_, hRun,
      connected_iff_networkUp scriptPort rfl 6
        lostConnectionCalls _ _ rfl (by decide) hRun
        (by decide +kernel)⟩

/-
  A handler that reconnects, as the sample application does,
  leaves the client in an error state with the network up.
-/
theorem reconnectingHandler_disagrees :
    ∃ w',
      (session scriptPort 6 lostConnectionCalls).run
          (lostConnection [.attemptReconnect]) =
            (some (), w') ∧
        Agrees (lostConnection [.attemptReconnect]) ∧
        ¬ (isClientConnected
              w'.st.client.clientState = true ↔
            networkUp w'.log = true) := by
  refine
    ⟨((session scriptPort 6 lostConnectionCalls).run
      (lostConnection [.attemptReconnect])).2, ?_, ?_, ?_⟩
  · exact Prod.ext (by decide +kernel) rfl
  · decide
  · decide +kernel

end Mqtt

end TrustOnboard

------------------------------------------------------------
-- Use Of A Torn-Down Connection
------------------------------------------------------------

namespace TrustOnboard

namespace Mqtt

/- Destroy was called after the last successful connect. -/
def tornDown : List Event → Bool
  | [] => false
  | .netConnect rc :: l =>
      if rc = .success then false else tornDown l
  | .netDestroy _ _ _ :: _ => true
  | _ :: l => tornDown l

/- The calls of the network's read and write. -/
def Event.isNetworkUse : Event → Bool
  | .netRead _ _ _ _ => true
  | .netWrite _ _ _ => true
  | _ => false

/- The network was used after it was torn down. -/
def misused : List Event → Bool
  | [] => false
  | e :: l => (e.isNetworkUse && tornDown l) || misused l

/-
  The steps that lead there: a callback inside a wait
  disconnects, so that the wait goes on without a connection,
  or a disconnect puts the connected state back although
  destroy was called.
-/
def Event.isCareless : Event → Bool
  | .call true .disconnect => true
  | .netDestroy .disconnect rc _ => decide (rc ≠ .success)
  | _ => false

/- Some step of the run is of this kind. -/
def careless (l : List Event) : Bool :=
  l.any Event.isCareless

theorem tornDown_cons
    {e : Event}
    (hOther :
      (∀ rc, e ≠ .netConnect rc) ∧
        ∀ site rc found, e ≠ .netDestroy site rc found)
    (l : List Event) :
    tornDown (e :: l) = tornDown l := by
  rcases hOther with ⟨hConnect, hDestroy⟩
  cases e <;> simp_all [tornDown]

/- An event that is not a use of the network is harmless. -/
theorem misused_cons
    {e : Event}
    (hUse : e.isNetworkUse = false)
    (l : List Event) :
    misused (e :: l) = misused l := by
  simp [misused, hUse]

/- A use of a network that is not torn down is harmless. -/
theorem misused_cons_of_up
    (e : Event)
    {l : List Event}
    (hUp : tornDown l = false) :
    misused (e :: l) = misused l := by
  simp [misused, hUp]

variable {E : Type}
variable {port : Port E}

/- The contract also covers runs that never return. -/
def careful : Contract (Sys E) Event where
  excused := fun l => careless l = true
  excused_append := by
    intro l es hBad
    simp only [careless, List.any_append, Bool.or_eq_true]
      at hBad ⊢
    exact Or.inr hBad
  halted := fun w => misused w.log = false

/- While connected the network is not torn down. -/
def useRegime : Regime E where
  contract := careful
  live := fun _ l => tornDown l = false ∧ misused l = false
  down := fun _ l => misused l = false
  cut := False
  allowed := fun _ => True

theorem useRegime_mode
    {I : Fact}
    (hMode : (useRegime (E := E)).Mode I) :
    I = (useRegime (E := E)).live := by
  rcases hMode with hLive | ⟨hNo, _⟩
  · exact hLive
  · exact hNo.elim

/- A live fact survives everything but a teardown. -/
theorem useRegime_live_cons
    (f : Frame)
    (l : List Event)
    (e : Event)
    (hOther :
      (∀ rc, e ≠ .netConnect rc) ∧
        ∀ site rc found, e ≠ .netDestroy site rc found)
    (hLive : (useRegime (E := E)).live f l) :
    (useRegime (E := E)).live f (e :: l) := by
  refine ⟨(tornDown_cons hOther l).trans hLive.1, ?_⟩
  rw [misused_cons_of_up e hLive.1]
  exact hLive.2

theorem useRegime_down_cons
    (f : Frame)
    (l : List Event)
    (e : Event)
    (hUse : e.isNetworkUse = false)
    (hDown : (useRegime (E := E)).down f l) :
    (useRegime (E := E)).down f (e :: l) :=
  (misused_cons hUse l).trans hDown

theorem useRegime_lawful
    (hSingle : port.threadSupport = false) :
    (useRegime (E := E)).Lawful port where
  single := hSingle
  halt_live := fun _ hLive => hLive.2
  halt_down := fun _ hDown => hDown
  neutral_live := by
    intro f l e hE hLive
    refine useRegime_live_cons f l e ?_ hLive
    constructor
    · rintro rc rfl
      cases hE
    · rintro site rc found rfl
      cases hE
  neutral_down := by
    intro f l e hE hDown
    refine useRegime_down_cons f l e ?_ hDown
    cases e <;>
      simp_all [Event.neutral, Event.quiet,
        Event.isNetworkUse]
  read := by
    intro φ I fuel hMode
    rw [useRegime_mode hMode]
    refine in_readPacket (fun _ hLive => hLive.2) ?_ fuel
    intro f l e hE hLive
    refine useRegime_live_cons f l e ?_ hLive
    constructor
    · rintro rc rfl
      cases hE
    · rintro site rc found rfl
      cases hE
  send := by
    intro φ I fuel length timer hMode
    rw [useRegime_mode hMode]
    refine
      (in_sendPacket hSingle (fun _ hLive => hLive.2) ?_ fuel
        length timer).pre (fun _ h => h.2)
    intro f l e hE hLive
    refine useRegime_live_cons f l e ?_ hLive
    constructor
    · rintro rc rfl
      cases hE
    · rintro site rc found rfl
      cases hE
  connected := fun _ l hDown =>
    Or.inr ⟨rfl, (misused_cons rfl l).trans hDown⟩
  refused := fun f l rc _ hDown =>
    useRegime_down_cons f l _ rfl hDown
  destroyed := by
    intro f l site rc found _ hEither
    refine useRegime_down_cons f l _ rfl ?_
    rcases hEither with hLive | hDown
    · exact hLive.2
    · exact hDown
  destroyedCut := fun _ _ _ _ hNo _ => hNo.elim
  closed := by
    intro I f l found hMode hI
    rw [useRegime_mode hMode] at hI
    exact useRegime_down_cons f l _ rfl hI.2
  notClosed := by
    intro I f l rc found _ hRc _
    left
    change careless (_ :: l) = true
    simp [careless, Event.isCareless, hRc]
  handlerConnected := fun f l s _ hLive =>
    Or.inr (useRegime_down_cons f l _ rfl hLive.2)
  handlerDisconnected := fun f l s hDown =>
    useRegime_down_cons f l _ rfl hDown
  ret_live := by
    intro f l c rc _ hLive
    refine useRegime_live_cons f l _ ?_ hLive
    constructor
    · intro rc' hEq
      cases hEq
    · intro site rc' found hEq
      cases hEq
  ret_down := fun f l c rc _ hDown =>
    useRegime_down_cons f l _ rfl hDown
  uncut := by
    intro f l _ _ _
    change careless (_ :: l) = true
    simp [careless, Event.isCareless]
  calls := fun _ _ _ _ _ _ => trivial
  reset := by
    intro f l hEither
    refine Or.inr (useRegime_down_cons _ l _ rfl ?_)
    rcases hEither with hLive | hDown
    · exact hLive.2
    · exact hDown

theorem useRegime_tableBlind :
    (useRegime (E := E)).TableBlind where
  table := by
    intro I f l table hSide hI
    rcases hSide with rfl | rfl
    · exact hI
    · exact hI
  registered := by
    intro I f l slot previous hSide hI
    rcases hSide with rfl | rfl
    · refine useRegime_live_cons f l _ ?_ hI
      constructor
      · intro rc hEq
        cases hEq
      · intro site rc found hEq
        cases hEq
    · exact useRegime_down_cons f l _ rfl hI
  ret := by
    intro I f l c rc hSide hI
    rcases hSide with rfl | rfl
    · refine useRegime_live_cons f l _ ?_ hI
      constructor
      · intro rc' hEq
        cases hEq
      · intro site rc' found hEq
        cases hEq
    · exact useRegime_down_cons f l _ rfl hI

/-
  In every run without a careless step, whether it returns or
  not, the network is never used after it was torn down.
-/
theorem not_misused
    (port : Port E)
    (hSingle : port.threadSupport = false)
    (fuel : Nat)
    (calls : List TopCall)
    (w : Run E)
    (hStable : w.st.client.clientState.isStable = true)
    (hConnected :
      isClientConnected w.st.client.clientState = true →
        tornDown w.log = false)
    (hStart : misused w.log = false)
    (hCareful :
      careless ((session port fuel calls).run w).2.log =
        false) :
    misused ((session port fuel calls).run w).2.log =
      false := by
  have hR := useRegime_lawful hSingle
  have hSession :=
    hR.session (hR.tableLaws useRegime_tableBlind) fuel calls
  have hRest : Holds (useRegime (E := E)).Rest w :=
    ⟨hStable, fun hOn => ⟨hConnected hOn, hStart⟩,
      fun _ => hStart⟩
  rcases hSession w hRest with hBad | hMeets
  · have hYes :
        careless ((session port fuel calls).run w).2.log =
          true := hBad
    rw [hCareful] at hYes
    cases hYes
  · cases hRes : ((session port fuel calls).run w).1 with
    | none =>
        rw [hRes] at hMeets
        exact hMeets
    | some a =>
        rw [hRes] at hMeets
        exact hR.halt_rest _ hMeets

/-
  A publish waits for its PUBACK while a message arrives whose
  callback makes the given calls.
-/
def publishInterrupted (calls : List ApiCall) : Run Script :=
  scriptStart
    (scriptClient .connectedIdle [letterSlot 84 upperT_ne])
    { Script.idle with
      incoming := [some (publishPacket 84)]
      timers := List.replicate 4 false
      callbacks := [calls] }

/- The publish of that run. -/
def publishOnce : TopCall :=
  .api (.publish (some (letter 65 upperA_ne)) 1
    (some
      { qos := .qos1
        isRetained := 0
        id := 0
        payload := some [33] }))

theorem not_misused_publishInterrupted :
    misused
        ((session scriptPort 6 [publishOnce]).run
          (publishInterrupted [])).2.log = false :=
  not_misused scriptPort rfl 6 [publishOnce]
    (publishInterrupted []) rfl (fun _ => rfl) rfl
    (by decide +kernel)

/- A callback that disconnects inside the wait. -/
theorem disconnectInWait_misused :
    misused
        ((session scriptPort 6 [publishOnce]).run
          (publishInterrupted [.disconnect])).2.log =
      true := by
  decide +kernel

end Mqtt

end TrustOnboard
