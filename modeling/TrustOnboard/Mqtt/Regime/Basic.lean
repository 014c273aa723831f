import TrustOnboard.Mqtt.Exchange
import TrustOnboard.Mqtt.Api

/-
  Regimes: invariants of single-threaded runs with re-entrant
  callbacks.

  A regime consists of a fact that holds while the client
  counts as connected, a fact that holds while it does not,
  and a decision whether a callback inside a wait may leave
  the connected states.  The laws of a regime say how its
  facts survive single steps.  Everything a call does is
  derived from the laws, once for all regimes.

  Key definitions include:
    * `ClientState.isStable`
    * `Regime`
    * `Regime.Rest`
    * `Regime.Mode`
    * `Regime.Phase`
    * `Regime.Lawful`
    * `Regime.Reentry`

  Key results include:
    * `Regime.Lawful.deliverMessage`
    * `Regime.Lawful.keptInWaits`
    * `Regime.Lawful.enterOperation`
-/

------------------------------------------------------------
-- Regimes
------------------------------------------------------------

namespace TrustOnboard

namespace Mqtt

variable {E : Type}

/- The states a client may rest in between calls. -/
def ClientState.isStable : ClientState → Bool
  | .invalid => true
  | .initialized => true
  | .connectedIdle => true
  | .disconnectedError => true
  | .disconnectedManually => true
  | .pendingReconnect => true
  | _ => false

/- The calls whose success changes the handler table. -/
def ApiCall.changesTable : ApiCall → Bool
  | .subscribe _ _ _ _ _ => true
  | .unsubscribe _ _ => true
  | _ => false

/- Events outside the transfer of packets that say little. -/
def Event.neutral : Event → Bool
  | .netDisconnect => true
  | .connectionLost => true
  | .call _ _ => true
  | e => e.quiet

/-
  `live` holds while the client is connected, `down` while it
  is not.  When `cut` holds, a callback inside a wait may
  leave the state of the waiting call.  Message callbacks
  make only allowed calls.
-/
structure Regime (E : Type) where
  contract : Contract (Sys E) Event
  live : Fact
  down : Fact
  cut : Prop
  allowed : ApiCall → Prop

/- The frame `aws_iot_mqtt_init` leaves. -/
def initFrame (port : Port E) (f : Frame) : Frame where
  table := clearedTable f.table
  writeBufSize := port.txBufLen
  readBufSize := port.rxBufLen

namespace Regime

/- No operation is under way. -/
def Rest (R : Regime E) : Cond :=
  fun s f l =>
    s.isStable = true ∧
      (isClientConnected s = true → R.live f l) ∧
      (isClientConnected s = false → R.down f l)

/- A callback has left the state of the call around it. -/
def Out (R : Regime E) (waiting : Bool) : Cond :=
  fun s f l => (waiting = true → R.cut) ∧ R.Rest s f l

/-
  The facts an operation may work under.  A wait that was cut
  goes on although the connection is down.
-/
def Mode (R : Regime E) (I : Fact) : Prop :=
  I = R.live ∨ (R.cut ∧ I = R.down)

/-
  An operation in state `s` is under way: the client is in
  that state, or a callback has left it.
-/
def Phase
    (R : Regime E)
    (s : ClientState)
    (I : Fact) : Cond :=
  (At s I).or (R.Out true)

/- How the facts of a regime survive single steps. -/
structure Lawful
    (R : Regime E)
    (port : Port E) : Prop where
  single : port.threadSupport = false
  halt_live :
    ∀ w : Run E, R.live w.st.client.frame w.log →
      R.contract.halted w
  halt_down :
    ∀ w : Run E, R.down w.st.client.frame w.log →
      R.contract.halted w
  neutral_live :
    ∀ f l e, Event.neutral e = true → R.live f l →
      R.live f (e :: l)
  neutral_down :
    ∀ f l e, Event.neutral e = true → R.down f l →
      R.down f (e :: l)
  read :
    ∀ φ I fuel, R.Mode I →
      Triple R.contract (Holds (In φ I))
        (readPacket port fuel)
        (fun _ => Holds (In φ I))
  send :
    ∀ φ I fuel length timer, R.Mode I →
      Triple R.contract
        (fun w =>
          Sendable (w.st.client.writeBuf.load 0 length) ∧
            Holds (In φ I) w)
        (sendPacket port fuel length timer)
        (fun _ => Holds (In φ I))
  connected :
    ∀ f l, R.down f l →
      R.contract.excused (.netConnect .success :: l) ∨
        R.live f (.netConnect .success :: l)
  refused :
    ∀ f l rc, rc ≠ .success → R.down f l →
      R.down f (.netConnect rc :: l)
  destroyed :
    ∀ f l site rc found, site ≠ .disconnect →
      R.live f l ∨ R.down f l →
        R.down f (.netDestroy site rc found :: l)
  destroyedCut :
    ∀ s f l rc, R.cut → R.Rest s f l →
      R.contract.excused (.netDestroy .connect rc s :: l) ∨
        R.Rest s f (.netDestroy .connect rc s :: l)
  closed :
    ∀ I f l found, R.Mode I → I f l →
      R.down f
        (.netDestroy .disconnect .success found :: l)
  notClosed :
    ∀ I f l rc found, R.Mode I → rc ≠ .success → I f l →
      R.contract.excused
          (.netDestroy .disconnect rc found :: l) ∨
        I f (.netDestroy .disconnect rc found :: l)
  handlerConnected :
    ∀ f l s, isClientConnected s = true → R.live f l →
      R.contract.excused
          (.disconnectHandlerReturned s :: l) ∨
        R.down f (.disconnectHandlerReturned s :: l)
  handlerDisconnected :
    ∀ f l s, R.down f l →
      R.down f (.disconnectHandlerReturned s :: l)
  ret_live :
    ∀ f l c rc,
      (c.changesTable = true → rc ≠ .success) →
        R.live f l → R.live f (.ret c rc f.table :: l)
  ret_down :
    ∀ f l c rc,
      (c.changesTable = true → rc ≠ .success) →
        R.down f l → R.down f (.ret c rc f.table :: l)
  uncut :
    ∀ f l, ¬ R.cut → R.allowed .disconnect → R.live f l →
      R.contract.excused (.call true .disconnect :: l)
  calls :
    ∀ handler data msg e,
      ∀ c ∈ (port.onMessage handler data msg e).1,
        R.allowed c
  reset :
    ∀ f l, R.live f l ∨ R.down f l →
      R.contract.excused (.init :: l) ∨
        R.down (initFrame port f) (.init :: l)

end Regime

end Mqtt

end TrustOnboard

------------------------------------------------------------
-- Basic Facts
------------------------------------------------------------

namespace TrustOnboard

namespace Mqtt

namespace Regime

variable {E : Type}
variable {R : Regime E}
variable {port : Port E}

theorem isConnected_of_isStable
    {s : ClientState}
    (hStable : s.isStable = true)
    (hConnected : isClientConnected s = true) :
    s = .connectedIdle := by
  cases s <;>
    simp [ClientState.isStable, isClientConnected] at *

theorem neutral_of_quiet
    {e : Event}
    (hQuiet : e.quiet = true) :
    e.neutral = true := by
  cases e <;> simp_all [Event.quiet, Event.neutral]

/- A connected client at rest. -/
theorem rest_of_idle
    {f : Frame}
    {l : List Event}
    (hLive : R.live f l) :
    R.Rest .connectedIdle f l :=
  ⟨rfl, fun _ => hLive, fun hNo => by cases hNo⟩

/- A disconnected client at rest. -/
theorem rest_of_down
    {s : ClientState}
    {f : Frame}
    {l : List Event}
    (hStable : s.isStable = true)
    (hOff : isClientConnected s = false)
    (hDown : R.down f l) :
    R.Rest s f l := by
  refine ⟨hStable, ?_, fun _ => hDown⟩
  intro hOn
  rw [hOff] at hOn
  cases hOn

/- The same for a world in a known state. -/
theorem rest_of_at
    {s : ClientState}
    {w : Run E}
    (hStable : s.isStable = true)
    (hOff : isClientConnected s = false)
    (hAt : Holds (At s R.down) w) :
    Holds
      (fun s f l =>
        R.Rest s f l ∧ isClientConnected s = false) w := by
  rcases hAt with ⟨hState, hDown⟩
  unfold Holds
  rw [hState]
  exact ⟨rest_of_down hStable hOff hDown, hOff⟩

theorem live_mode : R.Mode R.live :=
  Or.inl rfl

theorem phase_of_at
    {I : Fact}
    {s s' : ClientState}
    {f : Frame}
    {l : List Event}
    (hAt : At s I s' f l) :
    R.Phase s I s' f l :=
  Or.inl hAt

/- The end of a phase that returns to the idle state. -/
theorem rest_of_phase_idle
    {s : ClientState}
    {f : Frame}
    {l : List Event}
    (hPhase : R.Phase .connectedIdle R.live s f l) :
    R.Rest s f l := by
  rcases hPhase with ⟨rfl, hLive⟩ | ⟨_, hRest⟩
  · exact rest_of_idle hLive
  · exact hRest

/- Split a client at rest by whether it is connected. -/
theorem rest_pre
    {α : Type}
    {p : Code E α}
    {Q : α → Run E → Prop}
    (hIdle :
      Triple R.contract
        (Holds (At .connectedIdle R.live)) p Q)
    (hOff :
      ∀ s, s.isStable = true →
        isClientConnected s = false →
          Triple R.contract (Holds (At s R.down)) p Q) :
    Triple R.contract (Holds R.Rest) p Q := by
  intro w hRest
  cases hOn : isClientConnected w.st.client.clientState with
  | true =>
      have hState := isConnected_of_isStable hRest.1 hOn
      exact hIdle w ⟨hState, hRest.2.1 hOn⟩
  | false =>
      exact hOff _ hRest.1 hOn w ⟨rfl, hRest.2.2 hOn⟩

/-
  Treat both sides of a phase.  On the side a callback has
  left, the regime permits it.
-/
theorem phase_pre
    {α : Type}
    {I : Fact}
    {s : ClientState}
    {p : Code E α}
    {Q : α → Run E → Prop}
    (hAt : Triple R.contract (Holds (At s I)) p Q)
    (hOut :
      R.cut → Triple R.contract (Holds R.Rest) p Q) :
    Triple R.contract (Holds (R.Phase s I)) p Q := by
  refine or_pre hAt ?_
  intro w hPre
  exact hOut (hPre.1 rfl) w hPre.2

theorem out_of_rest
    {waiting : Bool}
    {w : Run E}
    (hCut : R.cut)
    (hRest : Holds R.Rest w) :
    Holds (R.Out waiting) w :=
  ⟨fun _ => hCut, hRest⟩

namespace Lawful

theorem neutral_mode
    (hR : R.Lawful port)
    {I : Fact}
    (hMode : R.Mode I)
    (f : Frame)
    (l : List Event)
    (e : Event)
    (hNeutral : e.neutral = true)
    (hI : I f l) :
    I f (e :: l) := by
  rcases hMode with rfl | ⟨_, rfl⟩
  · exact hR.neutral_live f l e hNeutral hI
  · exact hR.neutral_down f l e hNeutral hI

theorem quiet_mode
    (hR : R.Lawful port)
    {I : Fact}
    (hMode : R.Mode I)
    (f : Frame)
    (l : List Event)
    (e : Event)
    (hQuiet : e.quiet = true)
    (hI : I f l) :
    I f (e :: l) :=
  hR.neutral_mode hMode f l e (neutral_of_quiet hQuiet) hI

theorem quiet_live
    (hR : R.Lawful port)
    (f : Frame)
    (l : List Event)
    (e : Event)
    (hQuiet : e.quiet = true)
    (hLive : R.live f l) :
    R.live f (e :: l) :=
  hR.quiet_mode live_mode f l e hQuiet hLive

theorem quiet_down
    (hR : R.Lawful port)
    (f : Frame)
    (l : List Event)
    (e : Event)
    (hQuiet : e.quiet = true)
    (hDown : R.down f l) :
    R.down f (e :: l) :=
  hR.neutral_down f l e (neutral_of_quiet hQuiet) hDown

theorem halt_mode
    (hR : R.Lawful port)
    {I : Fact}
    (hMode : R.Mode I)
    (w : Run E)
    (hI : I w.st.client.frame w.log) :
    R.contract.halted w := by
  rcases hMode with rfl | ⟨_, rfl⟩
  · exact hR.halt_live w hI
  · exact hR.halt_down w hI

theorem quiet_rest
    (hR : R.Lawful port)
    {s : ClientState}
    {f : Frame}
    {l : List Event}
    {e : Event}
    (hNeutral : e.neutral = true)
    (hRest : R.Rest s f l) :
    R.Rest s f (e :: l) :=
  ⟨hRest.1,
    fun hOn => hR.neutral_live f l e hNeutral
      (hRest.2.1 hOn),
    fun hOff => hR.neutral_down f l e hNeutral
      (hRest.2.2 hOff)⟩

theorem halt_rest
    (hR : R.Lawful port)
    (w : Run E)
    (hRest : Holds R.Rest w) :
    R.contract.halted w := by
  cases hOn : isClientConnected w.st.client.clientState with
  | true => exact hR.halt_live w (hRest.2.1 hOn)
  | false => exact hR.halt_down w (hRest.2.2 hOn)

/- The transfer of packets keeps the facts of a regime. -/
theorem keptIn
    (hR : R.Lawful port)
    {I : Fact}
    (hMode : R.Mode I)
    (φ : ClientState → Prop) :
    Kept port R.contract (In φ I) where
  halt := fun w hIn => hR.halt_mode hMode w hIn.2
  quiet := fun _ f l e hQuiet hIn =>
    ⟨hIn.1, hR.quiet_mode hMode f l e hQuiet hIn.2⟩
  read := fun fuel => hR.read φ I fuel hMode
  send := fun fuel length timer =>
    hR.send φ I fuel length timer hMode

/- Keep a client at rest by keeping both facts. -/
theorem rest_of_modes
    (hCut : R.cut)
    {α : Type}
    {P : Run E → Prop}
    {p : Code E α}
    (hModes :
      ∀ I s, R.Mode I →
        Triple R.contract
          (fun w => P w ∧ Holds (At s I) w) p
          (fun _ => Holds (At s I))) :
    Triple R.contract (fun w => P w ∧ Holds R.Rest w) p
      (fun _ => Holds R.Rest) := by
  intro w hPre
  rcases hPre with ⟨hP, hRest⟩
  cases hOn : isClientConnected w.st.client.clientState with
  | true =>
      have hState := isConnected_of_isStable hRest.1 hOn
      refine
        ((hModes R.live .connectedIdle live_mode).post ?_) w
          ⟨hP, hState, hRest.2.1 hOn⟩
      exact fun _ _ h => rest_of_phase_idle (phase_of_at h)
  | false =>
      refine
        ((hModes R.down _ (Or.inr ⟨hCut, rfl⟩)).post ?_) w
          ⟨hP, rfl, hRest.2.2 hOn⟩
      exact fun _ _ h => (rest_of_at hRest.1 hOn h).1

/- The same for a client that a callback left at rest. -/
theorem keptRest
    (hR : R.Lawful port)
    (hCut : R.cut) :
    Kept port R.contract R.Rest where
  halt := hR.halt_rest
  quiet := fun _ _ _ _ hQuiet hRest =>
    hR.quiet_rest (neutral_of_quiet hQuiet) hRest
  read := fun fuel =>
    (rest_of_modes (P := fun _ => True) hCut
      (fun _ s hMode =>
        ((hR.keptIn hMode (fun s' => s' = s)).read fuel).pre
          (fun _ h => h.2))).pre (fun _ h => ⟨trivial, h⟩)
  send := fun fuel length timer =>
    rest_of_modes hCut
      (fun _ s hMode =>
        (hR.keptIn hMode (fun s' => s' = s)).send fuel length
          timer)

/- A phase is kept by the transfer of packets. -/
theorem keptPhase
    (hR : R.Lawful port)
    {I : Fact}
    (hMode : R.Mode I)
    (s : ClientState) :
    Kept port R.contract (R.Phase s I) where
  halt := by
    intro w hPhase
    rcases hPhase with hAt | hOut
    · exact hR.halt_mode hMode w hAt.2
    · exact hR.halt_rest w hOut.2
  quiet := by
    intro s' f l e hQuiet hPhase
    rcases hPhase with hAt | hOut
    · exact Or.inl
        ⟨hAt.1, hR.quiet_mode hMode f l e hQuiet hAt.2⟩
    · exact Or.inr
        ⟨hOut.1,
          hR.quiet_rest (neutral_of_quiet hQuiet) hOut.2⟩
  read := by
    intro fuel
    refine phase_pre ?_ ?_
    · exact
        ((hR.keptIn hMode _).read fuel).post
          (fun _ _ h => phase_of_at h)
    · intro hCut
      exact ((hR.keptRest hCut).read fuel).post
        (fun _ _ h => Or.inr (out_of_rest hCut h))
  send := by
    intro fuel length timer w hPre
    rcases hPre with ⟨hSend, hAt | hOut⟩
    · exact
        (((hR.keptIn hMode _).send fuel length timer).post
          (fun _ _ h => phase_of_at h)) w ⟨hSend, hAt⟩
    · have hCut := hOut.1 rfl
      exact
        (((hR.keptRest hCut).send fuel length timer).post
          (fun _ _ h => Or.inr (out_of_rest hCut h)))
          w ⟨hSend, hOut.2⟩

end Lawful

end Regime

end Mqtt

end TrustOnboard

------------------------------------------------------------
-- Delivery And Waits
------------------------------------------------------------

namespace TrustOnboard

namespace Mqtt

namespace Regime

variable {E : Type}
variable {R : Regime E}
variable {port : Port E}
variable {callback : Callback E}
variable {waiting : Bool}

/- The state of callbacks, or a callback has left it. -/
def CallbackPhase
    (R : Regime E)
    (waiting : Bool)
    (I : Fact) : Cond :=
  (At .connectedWaitForCbReturn I).or (R.Out waiting)

/-
  A callback called in the state for callbacks stays there or
  leaves it, and once outside it stays outside.
-/
structure Reentry
    (R : Regime E)
    (callback : Callback E)
    (waiting : Bool) : Prop where
  inside :
    ∀ I handler data msg, R.Mode I →
      Triple R.contract
        (Holds (At .connectedWaitForCbReturn I))
        (callback handler data msg)
        (fun _ => Holds (R.CallbackPhase waiting I))
  outside :
    ∀ handler data msg, Triple R.contract
      (Holds (R.Out waiting))
      (callback handler data msg)
      (fun _ => Holds (R.Out waiting))

namespace Lawful

/- One slot's turn in the delivery loop. -/
theorem deliverToSlot
    (hR : R.Lawful port)
    (hCb : R.Reentry callback waiting)
    {I : Fact}
    (hMode : R.Mode I)
    (msg : Message)
    (itr : Nat) :
    Triple R.contract (Holds (R.CallbackPhase waiting I))
      (deliverToSlot callback msg itr)
      (fun _ => Holds (R.CallbackPhase waiting I)) := by
  refine (holds_read _).bind ?_
  intro c
  dsimp only
  cases c.messageHandlers[itr]? with
  | none => exact Triple.same
  | some slot =>
      refine Triple.ite ?_ ?_
      · intro _
        cases slot.pApplicationHandler with
        | none => exact Triple.same
        | some handler =>
            refine Triple.seq ?_ ?_
            · refine Triple.emit ?_
              intro w hPhase
              refine Or.inr ?_
              rcases hPhase with hAt | hOut
              · exact Or.inl
                  ⟨hAt.1,
                    hR.quiet_mode hMode _ _ _ rfl hAt.2⟩
              · exact Or.inr
                  ⟨hOut.1, hR.quiet_rest rfl hOut.2⟩
            · intro _
              refine or_pre ?_ ?_
              · exact hCb.inside I handler _ _ hMode
              · exact (hCb.outside handler _ _).post
                  (fun _ _ hOut => Or.inr hOut)
      · intro _
        exact Triple.same

/-
  The delivery of a message ends in the state it started
  from, or its code says that a callback has left it.
-/
theorem deliverMessage
    (hR : R.Lawful port)
    (hCb : R.Reentry callback waiting)
    {I : Fact}
    (hMode : R.Mode I)
    (s : ClientState)
    (msg : Message) :
    Triple R.contract (Holds (At s I))
      (deliverMessage port callback msg)
      (fun rc =>
        KeptOrLeft (At s I) (R.Out waiting) rc) := by
  refine at_getClientState.bind ?_
  intro clientState
  refine Triple.of_fact ?_
  intro hState
  subst hState
  refine
    (setClientState_of_eq hR.single (hR.quiet_mode hMode)
      .connectedWaitForCbReturn).bind ?_
  intro rc
  refine Triple.of_fact ?_
  intro _
  refine (holds_read _).bind ?_
  intro c
  have hSlots :
      Triple R.contract
        (Holds (R.CallbackPhase waiting I))
        (Prog.each (Mqtt.deliverToSlot callback msg)
          (List.range c.messageHandlers.length))
        (fun _ => Holds (R.CallbackPhase waiting I)) :=
    Triple.each
      (fun itr _ => hR.deliverToSlot hCb hMode msg itr)
  refine (hSlots.pre (fun _ h => Or.inl h)).bind ?_
  intro _
  refine or_pre ?_ ?_
  · exact
      (setClientState_of_eq hR.single
        (hR.quiet_mode hMode) _).post
          (fun _ _ h => Or.inl h.2)
  · refine
      (setClientState_of_ne hR.single ?_ ?_ _).post
        (fun _ _ h => Or.inr h)
    · intro s f l e hE hOut
      exact
        ⟨hOut.1,
          hR.quiet_rest (neutral_of_quiet hE) hOut.2⟩
    · intro s f l hOut hEq
      have hStable := hOut.2.1
      rw [hEq] at hStable
      cases hStable

/- A phase survives every exchange that waits. -/
theorem keptInWaits
    (hR : R.Lawful port)
    (hCb : R.Reentry callback true)
    {I : Fact}
    (hMode : R.Mode I)
    (s : ClientState) :
    KeptInWaits port R.contract callback (R.Phase s I) := by
  have hKept := hR.keptPhase hMode s
  refine ⟨hKept, hKept.waitForRead ?_⟩
  refine hKept.cycleRead_of_deliver hR.single ?_
  intro msg
  refine phase_pre ?_ ?_
  · refine (hR.deliverMessage hCb hMode s msg).post ?_
    intro rc w hPost
    rcases hPost with hAt | ⟨_, hOut⟩
    · exact Or.inl hAt
    · exact Or.inr hOut
  · intro hCut
    refine rest_pre ?_ ?_
    · refine (hR.deliverMessage hCb live_mode _ msg).post ?_
      intro rc w hPost
      rcases hPost with hAt | ⟨_, hOut⟩
      · exact Or.inr
          (out_of_rest hCut
            (rest_of_phase_idle (phase_of_at hAt)))
      · exact Or.inr hOut
    · intro s' hStable hOff
      refine
        (hR.deliverMessage hCb (Or.inr ⟨hCut, rfl⟩) s'
          msg).post ?_
      intro rc w hPost
      rcases hPost with hAt | ⟨_, hOut⟩
      · exact Or.inr
          (out_of_rest hCut
            (rest_of_at hStable hOff hAt).1)
      · exact Or.inr hOut

end Lawful

end Regime

end Mqtt

end TrustOnboard
