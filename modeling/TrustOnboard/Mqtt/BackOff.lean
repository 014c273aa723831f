import Mathlib.Data.Nat.Log
import TrustOnboard.Mqtt.Busy
import TrustOnboard.Mqtt.Script
import TrustOnboard.Mqtt.Regime.Run

/-
  The back-off between attempts to reconnect.

  A yield that finds the connection lost moves the client to
  the pending state with the smallest interval, and doubles
  the interval with every attempt that fails.  The interval
  therefore counts the attempts of an outage, which end when
  it exceeds the largest one.  An attempt the application
  makes by itself enters the pending state with whatever
  interval is there, and a yield that goes on behind its
  disconnect handler starts again with the smallest one,
  whatever the handler has attempted.  Runs are followed as
  long as neither goes wrong.

  Key definitions include:
    * `Sane`
    * `attempts`
    * `peak`
    * `onTime`
    * `BacksOff`
    * `Paced`

  Key results include:
    * `backOff_doubles`
    * `yield_backsOff`
    * `api_backsOff`
    * `yield_gaveUp`
    * `backsOff_onTime`
-/

------------------------------------------------------------
-- Intervals And Attempts
------------------------------------------------------------

namespace TrustOnboard

namespace Mqtt

variable {E : Type}

/- The interval is the smallest one doubled some times. -/
def Sane (port : Port E) (interval : UInt32) : Prop :=
  ∃ k,
    interval.toNat =
        port.minReconnectWaitInterval.toNat * 2 ^ k ∧
      interval.toNat ≤
        2 * port.maxReconnectWaitInterval.toNat

/- An interval has 32 bits, so few doublings fit into it. -/
theorem sane_iff_bounded
    {port : Port E}
    {interval : UInt32} :
    (∃ k < 32,
        interval.toNat =
            port.minReconnectWaitInterval.toNat * 2 ^ k ∧
          interval.toNat ≤
            2 * port.maxReconnectWaitInterval.toNat) ↔
      Sane port interval := by
  constructor
  · rintro ⟨k, _, hSane⟩
    exact ⟨k, hSane⟩
  · rintro ⟨k, hInterval, hLe⟩
    by_cases hZero : port.minReconnectWaitInterval.toNat = 0
    · refine ⟨0, by decide, ?_, hLe⟩
      rw [hInterval, hZero, Nat.zero_mul, Nat.zero_mul]
    · refine ⟨k, ?_, hInterval, hLe⟩
      by_contra hLarge
      have hBound := interval.toNat_lt
      have hPow : 2 ^ 32 ≤ 2 ^ k :=
        Nat.pow_le_pow_right (by decide) (by omega)
      have hFactor :
          2 ^ k ≤ port.minReconnectWaitInterval.toNat * 2 ^ k :=
        Nat.le_mul_of_pos_left _ (by omega)
      omega

instance
    (port : Port E)
    (interval : UInt32) :
    Decidable (Sane port interval) :=
  decidable_of_iff _ sane_iff_bounded

/- What the configuration of the intervals must satisfy. -/
structure SaneIntervals (port : Port E) : Prop where
  positive : 0 < port.minReconnectWaitInterval.toNat
  ordered :
    port.minReconnectWaitInterval.toNat ≤
      port.maxReconnectWaitInterval.toNat
  bounded :
    2 * port.maxReconnectWaitInterval.toNat < 2 ^ 32

/- The delay before an attempt of a yield has passed. -/
def Event.isAttempt : Event → Bool
  | .timerChecked .reconnectDelay true => true
  | _ => false

/-
  The beginning of an outage, or its end with the client
  yielding again.
-/
def Event.boundsOutage : Event → Bool
  | .connectionLost => true
  | .setState .connectedIdle .connectedYieldInProgress
      .connectedIdle => true
  | _ => false

/-
  The attempts of yields to reconnect in the current outage.
  The newest event comes first.
-/
def attempts : List Event → Nat
  | [] => 0
  | e :: l =>
      if e.isAttempt then attempts l + 1
      else if e.boundsOutage then 0
      else attempts l

/- The most attempts of an outage at any moment so far. -/
def peak : List Event → Nat
  | [] => 0
  | e :: l => max (attempts (e :: l)) (peak l)

theorem attempts_le_peak
    (l : List Event) :
    attempts l ≤ peak l := by
  cases l with
  | nil => exact Nat.le_refl _
  | cons e l => exact Nat.le_max_left _ _

/- The peak accounts for every earlier moment. -/
theorem peak_append_le
    (es l : List Event) :
    peak l ≤ peak (es ++ l) := by
  induction es with
  | nil => exact Nat.le_refl _
  | cons e es ih => exact Nat.le_trans ih (Nat.le_max_right _ _)

/-
  A step at its right time.  The smallest interval is set
  before the first attempt of an outage, and an attempt that
  moves the client to the pending state finds an interval
  that yield has set.
-/
def onTimeStep
    (port : Port E)
    (l : List Event) : Event → Bool
  | .backOffStarted => attempts l = 0
  | .reconnectFailed found interval =>
      found = .disconnectedError → Sane port interval
  | _ => true

/- Every step was at its right time. -/
def onTime (port : Port E) : List Event → Bool
  | [] => true
  | e :: l => onTimeStep port l e && onTime port l

theorem onTime_of_append
    {port : Port E}
    {l : List Event}
    (es : List Event)
    (hOnTime : onTime port (es ++ l) = true) :
    onTime port l = true := by
  induction es with
  | nil => exact hOnTime
  | cons e es ih =>
      exact ih (Bool.and_eq_true_iff.mp hOnTime).2

/- Runs are followed while they are on time. -/
def inTime (port : Port E) : Contract (Sys E) Event where
  excused := fun l => onTime port l = false
  excused_append := by
    intro l es hLate
    by_contra hNot
    have hOnTime := onTime_of_append es (by simpa using hNot)
    rw [hLate] at hOnTime
    cases hOnTime
  halted := fun _ => True

/- A step at a wrong time. -/
theorem not_onTime_of_step
    {port : Port E}
    {e : Event}
    {l : List Event}
    (hLate : onTimeStep port l e = false) :
    onTime port (e :: l) = false := by
  rw [onTime, hLate, Bool.false_and]

theorem attempts_cons_le
    {e : Event}
    {l : List Event}
    (hNone : e.isAttempt = false) :
    attempts (e :: l) ≤ attempts l := by
  simp only [attempts, hNone, Bool.false_eq_true, if_false]
  split
  · exact Nat.zero_le _
  · exact Nat.le_refl _

theorem isAttempt_of_apart
    {e : Event}
    (hApart : e.apart = true) :
    e.isAttempt = false := by
  cases e with
  | timerChecked timer expired =>
      cases timer <;> first | rfl | cases hApart
  | _ => rfl

theorem isAttempt_of_isReceive
    {e : Event}
    (hReceive : e.isReceive = true) :
    e.isAttempt = false := by
  cases e <;> first | rfl | cases hReceive

theorem isAttempt_of_isOutputOf
    {timer : TimerName}
    (hTimer : timer ≠ .reconnectDelay)
    {e : Event}
    (hOutput : e.isOutputOf timer = true) :
    e.isAttempt = false := by
  cases e with
  | timerChecked timer' expired =>
      have hSame : timer' = timer := beq_iff_eq.mp hOutput
      subst hSame
      cases timer' <;> first | rfl | exact absurd rfl hTimer
  | _ => rfl

/-
  The interval accounts for the attempts: there were none, or
  each of them doubled it.
-/
def Tied
    (port : Port E)
    (interval : UInt32)
    (count : Nat) : Prop :=
  count = 0 ∨
    ∃ k,
      interval.toNat =
          port.minReconnectWaitInterval.toNat * 2 ^ k ∧
        count ≤ k

/- The state a client may be in with a given interval. -/
def Timed
    (port : Port E)
    (interval : UInt32)
    (s : ClientState) : Prop :=
  s = .pendingReconnect → Sane port interval

/- A number of doublings the intervals have room for. -/
def Few (port : Port E) (count : Nat) : Prop :=
  port.minReconnectWaitInterval.toNat * 2 ^ count ≤
    2 * port.maxReconnectWaitInterval.toNat

/- The invariant between the calls. -/
structure BacksOff
    (port : Port E)
    (w : Run E) : Prop where
  timed :
    Timed port w.st.client.currentReconnectWaitInterval
      w.st.client.clientState
  tied :
    Tied port w.st.client.currentReconnectWaitInterval
      (attempts w.log)
  few : Few port (peak w.log)

/- The interval stands and few enough attempts were made. -/
structure Paced
    (interval : UInt32)
    (count top : Nat)
    (w : Run E) : Prop where
  interval :
    w.st.client.currentReconnectWaitInterval = interval
  count : attempts w.log ≤ count
  peak : peak w.log ≤ top

variable {port : Port E}

theorem timed_of_isBusy
    {interval : UInt32}
    (s : ClientState)
    (hBusy : s.isBusy = true) :
    Timed port interval s := by
  rintro rfl
  cases hBusy

theorem timed_of_ne
    {interval : UInt32}
    {s : ClientState}
    (hNot : s ≠ .pendingReconnect) :
    Timed port interval s :=
  fun hPending => absurd hPending hNot

theorem Tied.mono
    {interval : UInt32}
    {count count' : Nat}
    (hTied : Tied port interval count)
    (hLe : count' ≤ count) :
    Tied port interval count' := by
  rcases hTied with hZero | ⟨k, hInterval, hCount⟩
  · left
    omega
  · right
    exact ⟨k, hInterval, Nat.le_trans hLe hCount⟩

/- Fewer attempts keep the bound. -/
theorem Few.mono
    {count count' : Nat}
    (hFew : Few port count)
    (hLe : count' ≤ count) :
    Few port count' := by
  have hPow : 2 ^ count' ≤ 2 ^ count :=
    Nat.pow_le_pow_right (by decide) hLe
  exact Nat.le_trans (Nat.mul_le_mul_left _ hPow) hFew

theorem Few.max
    {count count' : Nat}
    (hFew : Few port count)
    (hFew' : Few port count') :
    Few port (max count count') := by
  rcases Nat.le_total count count' with hLe | hLe
  · rwa [Nat.max_eq_right hLe]
  · rwa [Nat.max_eq_left hLe]

/- What keeps the pace keeps the invariant. -/
theorem BacksOff.of_paced
    {interval : UInt32}
    {count top : Nat}
    {w : Run E}
    (hTied : Tied port interval count)
    (hFew : Few port top)
    (hPaced :
      Within (Timed port interval)
        (Paced interval count top) w) :
    BacksOff port w := by
  rcases hPaced with ⟨hTimed, rfl, hCount, hPeak⟩
  exact ⟨hTimed, hTied.mono hCount, hFew.mono hPeak⟩

theorem BacksOff.paced
    {w : Run E}
    (hBacks : BacksOff port w) :
    Within
      (Timed port w.st.client.currentReconnectWaitInterval)
      (Paced w.st.client.currentReconnectWaitInterval
        (attempts w.log) (peak w.log)) w :=
  ⟨hBacks.timed, rfl, Nat.le_refl _, Nat.le_refl _⟩

theorem keeps_backsOff
    {α : Type}
    {p : Code E α}
    (hPaced :
      ∀ interval count top,
        Keeps (inTime port)
          (Within (Timed port interval)
            (Paced interval count top)) p) :
    Keeps (inTime port) (BacksOff port) p := by
  intro w hBacks
  refine
    (hPaced _ _ _).post ?_ w hBacks.paced
  intro _ w' hw'
  exact BacksOff.of_paced hBacks.tied hBacks.few hw'

end Mqtt

end TrustOnboard

------------------------------------------------------------
-- Calls That Keep The Pace
------------------------------------------------------------

namespace TrustOnboard

namespace Mqtt

variable {E : Type}
variable {port : Port E}
variable {interval : UInt32}
variable {count top : Nat}
variable {φ : ClientState → Prop}

/- A step that keeps the interval and attempts nothing. -/
theorem Paced.event
    {s t : Sys E}
    {e : Event}
    {l : List Event}
    (hPaced : Paced interval count top ⟨s, l⟩)
    (hInterval :
      t.client.currentReconnectWaitInterval =
        s.client.currentReconnectWaitInterval)
    (hNone : e.isAttempt = false) :
    Paced interval count top ⟨t, e :: l⟩ := by
  have hLe := attempts_cons_le (l := l) hNone
  refine
    ⟨hInterval.trans hPaced.interval,
      Nat.le_trans hLe hPaced.count, ?_⟩
  refine Nat.max_le.mpr ⟨?_, hPaced.peak⟩
  exact
    Nat.le_trans hLe
      (Nat.le_trans (attempts_le_peak l) hPaced.peak)

theorem Paced.append
    {s s' : Sys E}
    {es l : List Event}
    (hPaced : Paced interval count top ⟨s, l⟩)
    (hInterval :
      s'.client.currentReconnectWaitInterval =
        s.client.currentReconnectWaitInterval)
    (hNone : ∀ e ∈ es, e.isAttempt = false) :
    Paced interval count top ⟨s', es ++ l⟩ := by
  induction es with
  | nil =>
      exact
        ⟨hInterval.trans hPaced.interval, hPaced.count,
          hPaced.peak⟩
  | cons e es ih =>
      have hRest :=
        ih (fun e he => hNone e (List.mem_cons_of_mem _ he))
      exact hRest.event rfl (hNone e List.mem_cons_self)

/- Sending any packet keeps the pace. -/
theorem sendPacket_paced
    {timer : TimerName}
    (hTimer : timer ≠ .reconnectDelay)
    (fuel n : Nat) :
    Keeps (inTime port)
      (Paced interval count top)
      (sendPacket port fuel n timer) := by
  refine
    sendPacket_steps
      (Q := fun _ => Paced interval count top)
      (fun _ _ => trivial) ?_ ?_ (fun _ _ _ h => h) fuel
  · rintro s s' es l ⟨⟨locked, hClient⟩, hOutput⟩ hPaced
    refine hPaced.append (by rw [hClient]) ?_
    exact
      fun e he => isAttempt_of_isOutputOf hTimer (hOutput e he)
  · intro w hPaced
    exact Paced.event (s := w.st) (l := w.log) hPaced rfl rfl

theorem paced_apart :
    KeptApart (inTime port)
      (Paced interval count top) where
  halt := fun _ _ => trivial
  apart := by
    intro s s' es l hApart hPaced
    refine
      hPaced.append
        (congrArg Settings.currentReconnectWaitInterval
          hApart.settings) ?_
    exact fun e he => isAttempt_of_apart (hApart.events e he)

theorem paced_blind :
    Blind port (inTime port)
      (Paced interval count top) where
  toKeptApart := paced_apart
  inside := fun _ _ => trivial
  state := fun _ _ _ _ hPaced =>
    ⟨hPaced.interval, hPaced.count, hPaced.peak⟩
  refused := fun _ _ _ _ hPaced =>
    Or.inr (hPaced.event rfl rfl)
  send := fun _ _ fuel n =>
    (sendPacket_paced (by decide) fuel n).pre (fun _ h => h.2)
  flag := fun _ _ _ hPaced =>
    ⟨hPaced.interval, hPaced.count, hPaced.peak⟩
  receive := by
    rintro s s' es l ⟨⟨readBuf, hClient⟩, hReceive⟩ hPaced
    refine hPaced.append (by rw [hClient]) ?_
    exact fun e he => isAttempt_of_isReceive (hReceive e he)
  ack := by
    intro fuel timer id hTimer
    refine (paced_apart.serialize_ready _).bind ?_
    intro encoded
    cases encoded with
    | error rc => exact Triple.pure (fun _ h => h.2)
    | ok n =>
        exact
          (sendPacket_paced hTimer fuel n).pre
            (fun _ h => h.2)
  call := fun _ _ _ _ hPaced => hPaced.event rfl rfl

theorem connect_paced
    (hSingle : port.threadSupport = false)
    (hCalls : KeepsConnection port)
    (hBusy : ∀ s, s.isBusy = true → φ s)
    (hError : φ .disconnectedError)
    (hIdle : φ .connectedIdle)
    (depth fuel : Nat)
    (params : Option ConnectParams) :
    Keeps (inTime port)
      (Within φ (Paced interval count top))
      (connect port fuel
        (runCallback port (api port depth true)) params) := by
  have hI :
      Requests port (inTime port) φ
        (Within φ (Paced interval count top)) :=
    paced_blind.within
  have hInner :
      Keeps (inTime port)
        (Within φ (Paced interval count top))
        (internalConnect port fuel
          (runCallback port (api port depth true)) none) := by
    change Keeps _ _ (netConnect port >>= _)
    refine Triple.seq
      (hI.answer port.netConnect _ (fun _ => rfl)) ?_
    intro rc
    refine Triple.ite (fun _ => Triple.same) (fun _ => ?_)
    refine
      hI.connectExchange
        (paced_blind.cycleRead hSingle hCalls hBusy depth true
          (by decide)) (Triple.modify ?_) fuel
    exact fun w hw => ⟨hw.1, hw.2.interval, hw.2.count, hw.2.peak⟩
  refine (KeptApart.read _).seq ?_
  intro clientState
  refine Triple.ite (fun _ => Triple.same) (fun _ => ?_)
  refine (hI.setClientState _ (hBusy _ rfl)).seq ?_
  intro _
  refine Triple.seq ?_
    (fun rc => hI.finishConnect hError hIdle rc)
  cases params with
  | none => exact hInner
  | some p =>
      change Keeps _ _
        (modifyClient _ >>= fun _ =>
          internalConnect port fuel _ none)
      refine Triple.seq (Triple.modify ?_) (fun _ => hInner)
      exact fun w hw => ⟨hw.1, hw.2.interval, hw.2.count, hw.2.peak⟩

theorem disconnect_paced
    (hDisconnecting : φ .disconnecting)
    (hManually : φ .disconnectedManually)
    (fuel : Nat) :
    Keeps (inTime port)
      (Within φ (Paced interval count top))
      (disconnect port fuel) := by
  have hI :
      Requests port (inTime port) φ
        (Within φ (Paced interval count top)) :=
    paced_blind.within
  refine hI.getClientState.bind ?_
  intro clientState
  refine Triple.of_fact ?_
  intro hState
  refine (KeptApart.read _).seq ?_
  intro seen
  refine Triple.ite (fun _ => Triple.same) (fun _ => ?_)
  refine (hI.setClientState _ hDisconnecting).seq ?_
  intro rc
  refine Triple.ite (fun _ => Triple.same) (fun _ => ?_)
  refine (hI.internalDisconnect fuel).seq ?_
  intro rc
  refine Triple.ite (fun _ => ?_) (fun _ => ?_)
  · exact
      (hI.assignClientState hState).seq (fun _ => Triple.same)
  · exact
      (hI.assignClientState hManually).seq
        (fun _ => Triple.same)

/-
  An attempt moves the client to the pending state only when
  it finds an interval that yield has set.
-/
theorem attemptReconnect_paced
    (hSingle : port.threadSupport = false)
    (hCalls : KeepsConnection port)
    (depth fuel : Nat) :
    Keeps (inTime port)
      (Within (Timed port interval)
        (Paced interval count top))
      (attemptReconnect port fuel
        (runCallback port (api port depth true))) := by
  have hI :
      Requests port (inTime port) (Timed port interval)
        (Within (Timed port interval)
          (Paced interval count top)) :=
    paced_blind.within
  refine (KeptApart.read _).seq ?_
  intro seen
  refine Triple.ite (fun _ => Triple.same) (fun _ => ?_)
  refine
    (connect_paced hSingle hCalls timed_of_isBusy
      (timed_of_ne (by decide)) (timed_of_ne (by decide))
      depth fuel none).seq ?_
  intro _
  refine (KeptApart.read _).seq ?_
  intro clientState
  refine Triple.ite (fun _ => ?_) (fun _ => ?_)
  · refine Triple.bind
      (M := fun _ w =>
        Within (Timed port interval)
            (Paced interval count top) w ∧
          (w.st.client.clientState = .disconnectedError →
            Sane port interval))
      (Triple.emit ?_) ?_
    · rintro w ⟨hTimed, hPaced⟩
      by_cases hSane :
          w.st.client.clientState = .disconnectedError →
            Sane port w.st.client.currentReconnectWaitInterval
      · right
        refine
          ⟨⟨hTimed,
            Paced.event (s := w.st) (l := w.log) hPaced rfl
              rfl⟩, ?_⟩
        rw [← hPaced.interval]
        exact hSane
      · left
        exact not_onTime_of_step (decide_eq_false hSane)
    intro _
    refine Triple.bind
      (M := fun _ =>
        Within (Timed port interval)
          (Paced interval count top)) ?_
      (fun _ => Triple.same)
    rw [setClientState_single hSingle]
    refine Triple.step ?_
    rintro w ⟨⟨hTimed, hPaced⟩, hSane⟩
    right
    have hNext :=
      Paced.event (s := w.st)
        (t := w.st.inState .pendingReconnect)
        (e := .setState .disconnectedError .pendingReconnect
          w.st.client.clientState)
        (l := w.log) hPaced rfl rfl
    by_cases hState :
        ClientState.disconnectedError =
          w.st.client.clientState
    · rw [if_pos hState]
      exact ⟨fun _ => hSane hState.symm, hNext⟩
    · rw [if_neg hState]
      exact
        ⟨hTimed, hNext.interval, hNext.count, hNext.peak⟩
  · refine
      (hI.resubscribe (timed_of_isBusy _ rfl)
        (paced_blind.cycleRead hSingle hCalls timed_of_isBusy
          depth true (by decide)) fuel).seq ?_
    intro rc
    exact
      Triple.ite (fun _ => Triple.same)
        (fun _ => Triple.same)

/- One call other than a yield. -/
theorem apiBody_paced
    (hSingle : port.threadSupport = false)
    (hCalls : KeepsConnection port)
    {inYield : ApiCall → Code E IoTError}
    (fuel : Nat)
    (c : ApiCall)
    (hYield : ∀ timeoutMs, c ≠ .yield timeoutMs) :
    Keeps (inTime port)
      (Within (Timed port interval) (Paced interval count top))
      (apiBody port fuel (api port fuel true) inYield c) := by
  have hI :
      Requests port (inTime port)
        (Timed port interval)
        (Within (Timed port interval)
          (Paced interval count top)) :=
    paced_blind.within
  have hCycle :
      ∀ fuel', Keeps (inTime port)
        (Within (Timed port interval) (Paced interval count top))
        (cycleRead port fuel'
          (runCallback port (api port fuel true))
          .command) :=
    paced_blind.cycleRead hSingle hCalls timed_of_isBusy fuel
      true (by decide)
  cases c with
  | connect params =>
      exact
        connect_paced hSingle hCalls timed_of_isBusy
          (timed_of_ne (by decide)) (timed_of_ne (by decide))
          fuel fuel params
  | disconnect =>
      exact
        disconnect_paced (timed_of_ne (by decide))
          (timed_of_ne (by decide)) fuel
  | attemptReconnect =>
      exact attemptReconnect_paced hSingle hCalls fuel fuel
  | publish topic topicLen params =>
      exact
        hI.publish (timed_of_isBusy _ rfl) hCycle fuel _ _ _
  | subscribe topic topicLen qos handler data =>
      exact
        hI.subscribe (timed_of_isBusy _ rfl) hCycle fuel _ _ _
          _ _
  | unsubscribe filter filterLen =>
      exact
        hI.unsubscribe (timed_of_isBusy _ rfl) hCycle fuel _ _
  | resubscribe =>
      exact hI.resubscribe (timed_of_isBusy _ rfl) hCycle fuel
  | yield timeoutMs => exact absurd rfl (hYield timeoutMs)
  | autoreconnectSetStatus status =>
      refine Triple.seq ?_ (fun _ => Triple.same)
      exact hI.modifyClient (fun _ => rfl)
  | setDisconnectHandler handler data =>
      refine
        Triple.ite (fun _ => Triple.same) (fun _ => ?_)
      refine Triple.seq ?_ (fun _ => Triple.same)
      exact hI.modifyClient (fun _ => rfl)

end Mqtt

end TrustOnboard

------------------------------------------------------------
-- Losing And Restoring The Connection
------------------------------------------------------------

namespace TrustOnboard

namespace Mqtt

variable {E : Type}
variable {port : Port E}
variable {interval : UInt32}
variable {count top : Nat}
variable {onLost : HandlerId → Nat → Code E Unit}

/- Recording an event changes nothing of the invariant. -/
theorem BacksOff.event
    {w : Run E}
    {e : Event}
    (hNone : e.isAttempt = false)
    (hBacks : BacksOff port w) :
    BacksOff port ⟨w.st, e :: w.log⟩ :=
  BacksOff.of_paced hBacks.tied hBacks.few
    ⟨hBacks.timed,
      Paced.event (s := w.st) (l := w.log) hBacks.paced.2 rfl
        hNone⟩

/- The connection is lost, and the disconnect handler done. -/
structure Lost (port : Port E) (w : Run E) : Prop where
  state : w.st.client.clientState = .disconnectedError
  backsOff : BacksOff port w

/- The disconnect handler keeps the invariant. -/
abbrev HandlerBacksOff
    (port : Port E)
    (onLost : HandlerId → Nat → Code E Unit) : Prop :=
  ∀ handler data,
    Keeps (inTime port) (BacksOff port) (onLost handler data)

/- The client is not pending and keeps the pace. -/
abbrev PacedOn
    (interval : UInt32)
    (count top : Nat) : Run E → Prop :=
  Within (fun s => s ≠ .pendingReconnect)
    (Paced interval count top)

/- The disconnect that starts an outage. -/
theorem disconnectOrForce_paced
    (fuel : Nat) :
    Keeps (inTime port)
      (Within (Timed port interval)
        (Paced interval count top))
      (disconnectOrForce port fuel) := by
  have hI :
      Requests port (inTime port) (Timed port interval)
        (Within (Timed port interval)
          (Paced interval count top)) :=
    paced_blind.within
  refine
    (disconnect_paced (timed_of_ne (by decide))
      (timed_of_ne (by decide)) fuel).seq ?_
  intro rc
  refine Triple.ite (fun _ => ?_) (fun _ => Triple.same)
  refine
    (hI.assignClientState (timed_of_ne (by decide))).seq ?_
  intro _
  refine hI.netDisconnect.seq ?_
  intro _
  exact (hI.netDestroy _).seq (fun _ => Triple.same)

/-
  An outage begins.  The disconnect handler may already have
  attempted to end it.
-/
theorem handleDisconnect_lost
    (hFew : Few port top)
    (hLost : HandlerBacksOff port onLost)
    (fuel : Nat) :
    Triple (inTime port) (PacedOn interval count top)
      (handleDisconnect port fuel onLost)
      (fun _ => Lost port) := by
  refine Triple.bind
    (M := fun _ =>
      Within (Timed port interval) (Paced interval 0 top))
    (Triple.emit ?_) ?_
  · rintro w ⟨hNot, hPaced⟩
    right
    refine
      ⟨timed_of_ne hNot, hPaced.interval, Nat.le_refl _, ?_⟩
    exact Nat.max_le.mpr ⟨Nat.zero_le _, hPaced.peak⟩
  intro _
  refine Triple.bind (M := fun _ => BacksOff port) ?_ ?_
  · exact
      (disconnectOrForce_paced fuel).post
        (fun _ _ h => BacksOff.of_paced (Or.inl rfl) hFew h)
  intro _
  refine Triple.seq ?_ ?_
  · refine Triple.seq (Triple.read (fun _ h => h)) ?_
    intro c
    cases c.disconnectHandler with
    | none => exact Triple.same
    | some handler =>
        refine (hLost handler _).seq ?_
        intro _
        exact Triple.emit (fun _ h => Or.inr (h.event rfl))
  intro _
  refine Triple.bind (M := fun _ => Lost port)
    (Triple.modify ?_) (fun _ => Triple.ret (fun _ h => h))
  intro w hBacks
  exact
    ⟨rfl, timed_of_ne (fun hNo => by cases hNo), hBacks.tied,
      hBacks.few⟩

theorem serializeZero_code
    (type : MessageType) :
    Triple (Contract.plain (Sys E) Event) (fun _ => True)
      (serialize (fun c =>
        serializeZero c.writeBufSize type))
      (fun res _ =>
        ∀ rc, res = .error rc →
          rc = .mqttTxBufferTooShortError) := by
  intro w _
  right
  unfold serialize
  have hRead :
      (getClient : Code E Client).run w =
        (some w.st.client, w) := rfl
  rw [Prog.run_bind_of_run hRead]
  dsimp only [serializeZero]
  by_cases hSmall : 4 > w.st.client.writeBufSize
  · rw [if_pos hSmall]
    intro rc hRc
    cases hRc
    rfl
  · rw [if_neg hSmall]
    intro rc hRc
    cases hRc

theorem ne_pending_of_isBusy
    (s : ClientState)
    (hBusy : s.isBusy = true) :
    s ≠ .pendingReconnect := by
  rintro rfl
  cases hBusy

/- What a step of yield on a connection has found. -/
def FoundLost
    (port : Port E)
    (interval : UInt32)
    (count top : Nat)
    (rc : IoTError)
    (w : Run E) : Prop :=
  Lost port w ∨
    (rc ≠ .networkDisconnectedError ∧
      PacedOn interval count top w)

theorem keepAlive_paced
    (hFew : Few port top)
    (hLost : HandlerBacksOff port onLost)
    (fuel : Nat) :
    Triple (inTime port)
      (PacedOn interval count top)
      (keepAlive port fuel onLost)
      (fun rc => FoundLost port interval count top rc) := by
  have hI :
      Requests port (inTime port)
        (fun s => s ≠ .pendingReconnect)
        (PacedOn interval count top) :=
    paced_blind.within
  have hOn :
      ∀ {rc : IoTError}, rc ≠ .networkDisconnectedError →
        Triple (inTime port)
          (PacedOn interval count top) (Prog.ret rc)
          (fun rc => FoundLost port interval count top rc) :=
    fun hRc => Triple.ret (fun _ h => Or.inr ⟨hRc, h⟩)
  have hLoss :
      Triple (inTime port) (PacedOn interval count top)
        (handleDisconnect port fuel onLost)
        (fun rc => FoundLost port interval count top rc) :=
    (handleDisconnect_lost hFew hLost fuel).post
      (fun _ _ h => Or.inl h)
  refine (KeptApart.read _).seq ?_
  intro c
  refine Triple.ite (fun _ => hOn (by decide)) (fun _ => ?_)
  refine (hI.hasTimerExpired (by decide)).seq ?_
  intro expired
  refine Triple.ite (fun _ => hOn (by decide)) (fun _ => ?_)
  refine (KeptApart.read _).seq ?_
  intro c
  refine Triple.ite (fun _ => hLoss) (fun _ => ?_)
  refine hI.startCommandTimer.seq ?_
  intro _
  refine
    (((hI.serialize_ready pingRequest).and_plain
      (serializeZero_code .pingreq)).pre
        (fun _ h => ⟨h, trivial⟩)).bind ?_
  intro encoded
  cases encoded with
  | error rc =>
      refine Triple.ret ?_
      rintro w ⟨⟨_, hPaced⟩, hCode⟩
      rw [hCode rc rfl]
      exact Or.inr ⟨by decide, hPaced⟩
  | ok n =>
      refine Triple.bind
        (M := fun _ => PacedOn interval count top) ?_ ?_
      · exact
          ((sendPacket_paced (by decide) fuel n).and_plain
            (sendPacket_inState
              (φ := fun s => s ≠ .pendingReconnect) fuel n
              .command)).conseq
              (fun _ h => ⟨h.1.2.2, h.1.2.1⟩)
              (fun _ _ h => ⟨h.2, h.1⟩)
      intro rc
      refine Triple.ite (fun _ => hLoss) (fun _ => ?_)
      refine Triple.seq (Triple.modify ?_) ?_
      · exact fun w hw =>
          ⟨hw.1, hw.2.interval, hw.2.count, hw.2.peak⟩
      intro _
      refine (KeptApart.read _).seq ?_
      intro c
      exact
        (hI.countdown _ _).seq (fun _ => hOn (by decide))

theorem yieldRead_paced
    (hSingle : port.threadSupport = false)
    (hCalls : KeepsConnection port)
    (hFew : Few port top)
    (hLost : HandlerBacksOff port onLost)
    (depth : Nat)
    (waiting : Bool)
    (fuel : Nat) :
    Triple (inTime port)
      (PacedOn interval count top)
      (yieldRead port fuel
        (runCallback port (api port depth waiting)) onLost)
      (fun rc => FoundLost port interval count top rc) := by
  refine
    (((paced_blind.cycleRead hSingle hCalls
      ne_pending_of_isBusy depth waiting (by decide)
      fuel).and_plain
        (cycleRead_common hSingle fuel .yield)).pre
          (fun _ h => ⟨h, trivial⟩)).bind ?_
  intro r
  refine Triple.ite (fun _ => ?_) (fun _ => ?_)
  · exact
      (keepAlive_paced hFew hLost fuel).pre (fun _ h => h.1)
  refine Triple.ite (fun _ => ?_) (fun _ => ?_)
  · exact
      (handleDisconnect_lost hFew hLost fuel).conseq
        (fun _ h => h.1) (fun _ _ h => Or.inl h)
  · exact
      Triple.ret (fun _ h => Or.inr ⟨h.2.1.1, h.1⟩)

/- The regime in which callbacks keep the connection. -/
def boundRegime (E : Type) : Regime E where
  contract := Contract.plain (Sys E) Event
  live := fun _ _ => True
  down := fun _ _ => True
  cut := False
  allowed := fun c => c ≠ .disconnect

theorem boundRegime_lawful
    (hSingle : port.threadSupport = false)
    (hCalls : KeepsConnection port) :
    (boundRegime E).Lawful port where
  single := hSingle
  halt_live := fun _ _ => trivial
  halt_down := fun _ _ => trivial
  neutral_live := fun _ _ _ _ _ => trivial
  neutral_down := fun _ _ _ _ _ => trivial
  read := by
    intro φ I fuel hMode
    rcases hMode with rfl | ⟨hNo, _⟩
    · exact
        in_readPacket (fun _ _ => trivial)
          (fun _ _ _ _ _ => trivial) fuel
    · exact hNo.elim
  send := by
    intro φ I fuel length timer hMode
    rcases hMode with rfl | ⟨hNo, _⟩
    · exact
        (in_sendPacket hSingle (fun _ _ => trivial)
          (fun _ _ _ _ _ => trivial) fuel length
          timer).pre (fun _ h => h.2)
    · exact hNo.elim
  connected := fun _ _ _ => Or.inr trivial
  refused := fun _ _ _ _ _ => trivial
  destroyed := fun _ _ _ _ _ _ _ => trivial
  destroyedCut := fun _ _ _ _ hNo _ => hNo.elim
  closed := fun _ _ _ _ _ _ => trivial
  notClosed := by
    intro I f l rc found hMode _ hI
    rcases hMode with rfl | ⟨hNo, _⟩
    · exact Or.inr trivial
    · exact hNo.elim
  handlerConnected := fun _ _ _ _ _ => Or.inr trivial
  handlerDisconnected := fun _ _ _ _ => trivial
  ret_live := fun _ _ _ _ _ _ => trivial
  ret_down := fun _ _ _ _ _ _ => trivial
  uncut := fun _ _ _ hAllowed _ => absurd rfl hAllowed
  calls := hCalls
  reset := fun _ _ _ => Or.inr trivial

theorem boundRegime_tableBlind :
    (boundRegime E).TableBlind where
  table := by
    intro I f l table hSide hI
    rcases hSide with rfl | rfl <;> trivial
  registered := by
    intro I f l slot previous hSide hI
    rcases hSide with rfl | rfl <;> trivial
  ret := by
    intro I f l c rc hSide hI
    rcases hSide with rfl | rfl <;> trivial

/- An attempt leaves the client pending or idle. -/
theorem attemptReconnect_state
    (hSingle : port.threadSupport = false)
    (hCalls : KeepsConnection port)
    (depth fuel : Nat) :
    Triple (Contract.plain (Sys E) Event)
      (fun w =>
        w.st.client.clientState = .pendingReconnect)
      (attemptReconnect port fuel
        (runCallback port (api port depth true)))
      (fun rc w =>
        (rc ≠ .networkReconnected ∧
            w.st.client.clientState = .pendingReconnect) ∨
          w.st.client.clientState = .connectedIdle) := by
  have hR := boundRegime_lawful hSingle hCalls
  have hCb :=
    hR.reentry_of_callSpec
      (hR.callSpec (hR.tableLaws boundRegime_tableBlind)
        depth) true
  refine
    (hR.attemptReconnect hCb
      (s := .pendingReconnect) rfl fuel).conseq
        (fun _ h => ⟨h, trivial⟩) ?_
  intro rc w hPost
  rcases hPost with ⟨hRc, hAt⟩ | hAt | hOut
  · exact Or.inl ⟨hRc, hAt.1⟩
  · exact Or.inr hAt.1
  · exact (hOut.1 rfl).elim

/- The interval an attempt that fails leaves. -/
theorem double_toNat
    (hIntervals : SaneIntervals port)
    (hLow :
      ¬ port.maxReconnectWaitInterval < interval) :
    (interval * 2).toNat = 2 * interval.toNat := by
  have hBound := hIntervals.bounded
  have hLe :
      interval.toNat ≤
        port.maxReconnectWaitInterval.toNat := by
    have hNot := UInt32.not_lt.mp hLow
    exact UInt32.le_iff_toNat_le.mp hNot
  rw [UInt32.toNat_mul]
  have hTwo : (2 : UInt32).toNat = 2 := rfl
  rw [hTwo]
  omega

/- The interval after one more attempt. -/
theorem doubled
    (hIntervals : SaneIntervals port)
    (hSane : Sane port interval)
    (hTied : Tied port interval count)
    (hLow :
      ¬ port.maxReconnectWaitInterval < interval) :
    Sane port (interval * 2) ∧
      Tied port (interval * 2) (count + 1) ∧
        Few port (count + 1) := by
  have hDouble := double_toNat hIntervals hLow
  have hLe :
      interval.toNat ≤
        port.maxReconnectWaitInterval.toNat :=
    UInt32.le_iff_toNat_le.mp (UInt32.not_lt.mp hLow)
  rcases hSane with ⟨k, hInterval, _⟩
  have hNext :
      (interval * 2).toNat =
        port.minReconnectWaitInterval.toNat *
          2 ^ (k + 1) := by
    rw [hDouble, hInterval, Nat.pow_succ]
    ring
  have hCount : count ≤ k := by
    rcases hTied with hZero | ⟨k', hInterval', hCount⟩
    · omega
    · have hPow : 2 ^ k = 2 ^ k' :=
        Nat.eq_of_mul_eq_mul_left hIntervals.positive
          (hInterval.symm.trans hInterval')
      have hSame : k = k' :=
        Nat.pow_right_injective (Nat.le_refl 2) hPow
      omega
  refine ⟨⟨k + 1, hNext, ?_⟩, Or.inr ⟨k + 1, hNext, ?_⟩, ?_⟩
  · rw [hDouble]
    omega
  · omega
  · have hFew : 2 ^ (count + 1) ≤ 2 ^ (k + 1) :=
      Nat.pow_le_pow_right (by decide) (by omega)
    calc
      port.minReconnectWaitInterval.toNat * 2 ^ (count + 1) ≤
          port.minReconnectWaitInterval.toNat *
            2 ^ (k + 1) :=
        Nat.mul_le_mul_left _ hFew
      _ = 2 * interval.toNat := by rw [← hNext, hDouble]
      _ ≤ 2 * port.maxReconnectWaitInterval.toNat := by
        omega

/- A client that is still pending with too large an interval. -/
def GaveUp
    (port : Port E)
    (w : Run E) : Prop :=
  w.st.client.clientState = .pendingReconnect ∧
    port.maxReconnectWaitInterval <
      w.st.client.currentReconnectWaitInterval

/- What yield owes at the end of a round. -/
def YieldsWith
    (port : Port E)
    (rc : IoTError)
    (w : Run E) : Prop :=
  BacksOff port w ∧
    (GaveUp port w → rc = .networkReconnectTimedOutError)

/- A client that is not pending owes no code. -/
theorem yieldsWith_of_ne
    {w : Run E}
    (hNot : w.st.client.clientState ≠ .pendingReconnect)
    (hTied :
      Tied port w.st.client.currentReconnectWaitInterval
        (attempts w.log))
    (hFew : Few port (peak w.log))
    (rc : IoTError) :
    YieldsWith port rc w :=
  ⟨⟨timed_of_ne hNot, hTied, hFew⟩,
    fun hGaveUp => absurd hGaveUp.1 hNot⟩

theorem Lost.yields
    {w : Run E}
    (hLost : Lost port w)
    (rc : IoTError) :
    YieldsWith port rc w := by
  refine
    yieldsWith_of_ne ?_ hLost.backsOff.tied
      hLost.backsOff.few rc
  rw [hLost.state]
  decide

theorem FoundLost.yields
    (hTied : Tied port interval count)
    (hFew : Few port top)
    {rc : IoTError}
    {w : Run E}
    (hFound : FoundLost port interval count top rc w) :
    YieldsWith port rc w := by
  rcases hFound with hLost | ⟨_, hNot, rfl, hCount, hPeak⟩
  · exact hLost.yields rc
  · exact
      yieldsWith_of_ne hNot (hTied.mono hCount)
        (hFew.mono hPeak) rc

/- An attempt that failed doubles the interval. -/
theorem backOff_doubles
    (hIntervals : SaneIntervals port)
    (hSane : Sane port interval)
    (hTied : Tied port interval count)
    (hFew : Few port top)
    (hLow :
      ¬ port.maxReconnectWaitInterval < interval)
    (rc : IoTError) :
    Triple (inTime port)
      (Paced interval (count + 1) top)
      (backOff port rc)
      (fun rc => YieldsWith port rc) := by
  rcases doubled hIntervals hSane hTied hLow with
    ⟨hSane', hTied', _⟩
  have hBacks :
      ∀ w : Run E, Paced (interval * 2) (count + 1) top w →
        BacksOff port w :=
    fun w hw =>
      BacksOff.of_paced hTied' hFew ⟨fun _ => hSane', hw⟩
  refine Triple.bind
    (M := fun _ => Paced (interval * 2) (count + 1) top)
    (Triple.modify ?_) ?_
  · rintro w ⟨rfl, hCount, hPeak⟩
    exact ⟨rfl, hCount, hPeak⟩
  intro _
  refine Triple.bind
    (M := fun c w =>
      c.currentReconnectWaitInterval = interval * 2 ∧
        Paced (interval * 2) (count + 1) top w)
    (Triple.read (fun _ h => ⟨h.interval, h⟩)) ?_
  intro c
  refine Triple.of_fact ?_
  intro hInterval
  refine Triple.ite ?_ ?_
  · intro _
    exact Triple.ret (fun w h => ⟨hBacks w h, fun _ => rfl⟩)
  · intro hNot
    refine (paced_apart.countdown _ _).seq ?_
    intro _
    refine Triple.ret ?_
    intro w hw
    refine ⟨hBacks w hw, ?_⟩
    intro hGaveUp
    have hOver := hGaveUp.2
    rw [hw.interval, ← hInterval] at hOver
    exact absurd hOver hNot

/- The client resumes its yield and the outage is over. -/
theorem resumeYield_backsOff
    (hSingle : port.threadSupport = false)
    (hFew : Few port top) :
    Triple (inTime port)
      (fun w =>
        w.st.client.clientState = .connectedIdle ∧
          Paced interval count top w)
      (do
        let rc ←
          setClientState port .connectedIdle
            .connectedYieldInProgress
        if rc ≠ .success then
          pure rc
        else
          pure .networkReconnected : Code E IoTError)
      (fun rc => YieldsWith port rc) := by
  refine Triple.bind
    (M := fun _ w =>
      w.st.client.clientState = .connectedYieldInProgress ∧
        attempts w.log = 0 ∧ peak w.log ≤ top) ?_ ?_
  · rw [setClientState_single hSingle]
    refine Triple.step ?_
    rintro w ⟨hState, hPaced⟩
    right
    have hFresh :
        attempts
          (.setState .connectedIdle .connectedYieldInProgress
            w.st.client.clientState :: w.log) = 0 := by
      rw [hState]
      rfl
    rw [if_pos hState.symm]
    refine ⟨rfl, hFresh, ?_⟩
    refine Nat.max_le.mpr ⟨?_, hPaced.peak⟩
    exact Nat.le_trans (Nat.le_of_eq hFresh) (Nat.zero_le _)
  intro rc
  have hEnd :
      ∀ rc (w : Run E),
        w.st.client.clientState =
              .connectedYieldInProgress ∧
            attempts w.log = 0 ∧ peak w.log ≤ top →
          YieldsWith port rc w := by
    rintro rc w ⟨hState, hFresh, hPeak⟩
    refine
      yieldsWith_of_ne ?_ (Or.inl hFresh) (hFew.mono hPeak) rc
    rw [hState]
    decide
  exact
    Triple.ite (fun _ => Triple.ret (hEnd _))
      (fun _ => Triple.ret (hEnd _))

theorem handleReconnect_backsOff
    (hSingle : port.threadSupport = false)
    (hCalls : KeepsConnection port)
    (hIntervals : SaneIntervals port)
    (hSane : Sane port interval)
    (hTied : Tied port interval count)
    (hFew : Few port top)
    (hLow :
      ¬ port.maxReconnectWaitInterval < interval)
    (depth fuel : Nat) :
    Triple (inTime port)
      (fun w =>
        w.st.client.clientState = .pendingReconnect ∧
          Paced interval count top w)
      (handleReconnect port fuel
        (runCallback port (api port depth true)))
      (fun rc => YieldsWith port rc) := by
  rcases doubled hIntervals hSane hTied hLow with
    ⟨_, _, hFewNext⟩
  have hFew' := hFew.max hFewNext
  have hBackOff :=
    backOff_doubles hIntervals hSane hTied hFew' hLow
  refine Triple.bind
    (M := fun expired w =>
      (expired = false → Paced interval count top w) ∧
        w.st.client.clientState = .pendingReconnect ∧
          Paced interval (count + 1) (max top (count + 1)) w)
    (Triple.step ?_) ?_
  · rintro w ⟨hState, hPaced⟩
    right
    rcases hTimer :
      port.hasTimerExpired .reconnectDelay w.st.env with
      ⟨expired, env⟩
    simp only [List.singleton_append]
    cases expired with
    | false =>
        have hWaits :
            Paced interval count top
              (⟨{ client := w.st.client, env := env },
                .timerChecked .reconnectDelay false ::
                  w.log⟩ : Run E) :=
          Paced.event (s := w.st) (l := w.log) hPaced rfl rfl
        refine
          ⟨fun _ => hWaits, hState, hWaits.interval, ?_, ?_⟩
        · exact Nat.le_succ_of_le hWaits.count
        · exact Nat.le_trans hWaits.peak (Nat.le_max_left _ _)
    | true =>
        have hNext :
            attempts
              (.timerChecked .reconnectDelay true :: w.log) ≤
                count + 1 :=
          Nat.succ_le_succ hPaced.count
        refine
          ⟨fun hNo => (by cases hNo), hState, hPaced.interval,
            hNext, ?_⟩
        refine Nat.max_le.mpr ⟨?_, ?_⟩
        · exact Nat.le_trans hNext (Nat.le_max_right _ _)
        · exact Nat.le_trans hPaced.peak (Nat.le_max_left _ _)
  intro expired
  refine Triple.ite ?_ ?_
  · intro hWaits
    refine Triple.ret ?_
    rintro w ⟨hPaced, hState, _⟩
    have hHere := hPaced (by simpa using hWaits)
    refine
      ⟨BacksOff.of_paced hTied hFew
        ⟨fun _ => hSane, hHere⟩, ?_⟩
    rintro ⟨_, hOver⟩
    rw [hHere.interval] at hOver
    exact absurd hOver hLow
  intro _
  refine Triple.bind
    (M := fun _ w =>
      w.st.client.clientState = .pendingReconnect ∧
        Paced interval (count + 1) (max top (count + 1)) w)
    (Triple.step
      (fun w h =>
        Or.inr
          ⟨h.2.1, h.2.2.interval, h.2.2.count, h.2.2.peak⟩))
    ?_
  intro rc
  refine Triple.ite ?_
    (fun _ => (hBackOff rc).pre (fun _ h => h.2))
  intro _
  refine Triple.bind
    (((attemptReconnect_paced hSingle hCalls depth
      fuel).and_plain
        (attemptReconnect_state hSingle hCalls depth
          fuel)).pre
            (fun _ h => ⟨⟨fun _ => hSane, h.2⟩, h.1⟩)) ?_
  intro rc
  refine Triple.ite ?_
    (fun _ => (hBackOff rc).pre (fun _ h => h.1.2))
  intro hRc
  refine
    (@resumeYield_backsOff _ port interval (count + 1) _
      hSingle hFew').pre ?_
  rintro w ⟨⟨_, hPaced⟩, ⟨hNo, _⟩ | hIdle⟩
  · exact absurd hRc hNo
  · exact ⟨hIdle, hPaced⟩

/-
  Behind an outage whose attempts are still to come, the
  client waits with the smallest interval.
-/
theorem startReconnect_backsOff
    (hSingle : port.threadSupport = false)
    (hIntervals : SaneIntervals port) :
    Triple (inTime port) (Lost port)
      (startReconnect port)
      (fun r w =>
        match r with
        | .inl rc => YieldsWith port rc w
        | .inr rc => YieldsWith port rc w) := by
  have hOrdered := hIntervals.ordered
  refine Triple.bind (M := fun _ => Lost port)
    (Triple.modify
      (fun _ h =>
        ⟨h.state, h.backsOff.timed, h.backsOff.tied,
          h.backsOff.few⟩)) ?_
  intro _
  refine Triple.seq (Triple.read (fun _ h => h)) ?_
  intro c
  refine Triple.ite ?_
    (fun _ => Triple.ret (fun w h => h.yields _))
  intro _
  refine Triple.bind
    (M := fun rc w =>
      rc = .success ∧ Few port (peak w.log)) ?_ ?_
  · rw [setClientState_single hSingle]
    refine Triple.step ?_
    rintro w ⟨hState, hBacks⟩
    right
    rw [if_pos hState.symm]
    exact ⟨rfl, (hBacks.event rfl).few⟩
  intro rc
  refine Triple.of_fact ?_
  rintro rfl
  rw [if_neg (by simp)]
  refine Triple.bind
    (M := fun _ w =>
      attempts w.log = 0 ∧ Few port (peak w.log))
    (Triple.emit ?_) ?_
  · intro w hFew
    by_cases hFresh : attempts w.log = 0
    · right
      refine ⟨hFresh, hFew.mono ?_⟩
      refine Nat.max_le.mpr ⟨?_, Nat.le_refl _⟩
      exact Nat.le_trans (Nat.le_of_eq hFresh) (Nat.zero_le _)
    · left
      exact not_onTime_of_step (decide_eq_false hFresh)
  intro _
  refine Triple.bind
    (M := fun _ w =>
      w.st.client.currentReconnectWaitInterval =
          port.minReconnectWaitInterval ∧
        attempts w.log = 0 ∧ Few port (peak w.log))
    (Triple.modify (fun _ h => ⟨rfl, h⟩)) ?_
  intro _
  refine Triple.seq (Triple.modify (fun _ h => h)) ?_
  intro _
  refine Triple.ret ?_
  rintro w ⟨hInterval, hFresh, hFew⟩
  refine ⟨⟨?_, Or.inl hFresh, hFew⟩, ?_⟩
  · intro _
    rw [hInterval]
    exact ⟨0, by simp, by omega⟩
  · rintro ⟨_, hOver⟩
    rw [hInterval] at hOver
    have hNot := UInt32.lt_iff_toNat_lt.mp hOver
    omega

end Mqtt

end TrustOnboard

------------------------------------------------------------
-- Yield
------------------------------------------------------------

namespace TrustOnboard

namespace Mqtt

variable {E : Type}
variable {port : Port E}
variable {onLost : HandlerId → Nat → Code E Unit}

theorem backsOff_apart :
    KeptApart (inTime port)
      (BacksOff port) where
  halt := fun _ _ => trivial
  apart := by
    intro s s' es l hApart hBacks
    have hI :
        Requests port (inTime port)
          (Timed port s.client.currentReconnectWaitInterval)
          (Within
            (Timed port
              s.client.currentReconnectWaitInterval)
            (Paced s.client.currentReconnectWaitInterval
              (attempts l) (peak l))) :=
      paced_blind.within
    have hPaced := hI.apart s s' es l hApart hBacks.paced
    exact
      BacksOff.of_paced hBacks.tied hBacks.few hPaced

/- What a round of yield hands to the next, or returns. -/
def RoundEnds
    (port : Port E)
    (r : Unit ⊕ IoTError)
    (w : Run E) : Prop :=
  match r with
  | .inl _ => BacksOff port w
  | .inr rc => YieldsWith port rc w

theorem yieldTimer_backsOff
    (rc : IoTError) :
    Triple (inTime port)
      (YieldsWith port rc)
      (yieldTimer port rc)
      (fun r => RoundEnds port r) := by
  refine Triple.bind (M := fun _ => YieldsWith port rc)
    (Triple.step ?_) ?_
  · rintro w ⟨hBacks, hCode⟩
    right
    refine ⟨?_, hCode⟩
    exact
      backsOff_apart.apart w.st _ [_] w.log
        (apart_event rfl rfl) hBacks
  intro expired
  exact
    Triple.ite (fun _ => Triple.ret (fun _ h => h))
      (fun _ => Triple.ret (fun _ h => h.1))

theorem yieldRound_backsOff
    (hSingle : port.threadSupport = false)
    (hCalls : KeepsConnection port)
    (hIntervals : SaneIntervals port)
    (hLost : HandlerBacksOff port onLost)
    (depth : Nat)
    (waiting : Bool)
    (fuel : Nat) :
    Triple (inTime port) (BacksOff port)
      (yieldRound port fuel
        (runCallback port (api port depth true))
        (runCallback port (api port depth waiting)) onLost)
      (fun r => RoundEnds port r) := by
  refine Triple.bind
    (M := fun s w =>
      s = w.st.client.clientState ∧ BacksOff port w)
    (Triple.read (fun _ h => ⟨rfl, h⟩)) ?_
  intro clientState
  refine Triple.ite ?_ ?_
  · rintro rfl
    refine Triple.bind
      (M := fun c w =>
        c = w.st.client ∧
          w.st.client.clientState = .pendingReconnect ∧
            BacksOff port w)
      (Triple.read (fun _ h => ⟨rfl, h.1.symm, h.2⟩)) ?_
    intro c
    refine Triple.ite ?_ ?_
    · intro _
      exact
        Triple.ret (fun _ h => ⟨h.2.2, fun _ => rfl⟩)
    · intro hLow
      rintro w ⟨rfl, hState, hBacks⟩
      exact
        (handleReconnect_backsOff hSingle hCalls hIntervals
          (hBacks.timed hState) hBacks.tied hBacks.few hLow
          depth fuel).bind yieldTimer_backsOff w
            ⟨hState, hBacks.paced.2⟩
  · intro hNot
    rintro w ⟨rfl, hBacks⟩
    refine
      (yieldRead_paced hSingle hCalls hBacks.few hLost depth
        waiting fuel).bind ?_ w ⟨hNot, hBacks.paced.2⟩
    intro yieldRc
    have hYields :
        ∀ w', FoundLost port
            w.st.client.currentReconnectWaitInterval
            (attempts w.log) (peak w.log) yieldRc w' →
          YieldsWith port yieldRc w' :=
      fun _ hFound => hFound.yields hBacks.tied hBacks.few
    refine Triple.ite ?_ ?_
    · rintro rfl
      refine
        ((startReconnect_backsOff hSingle hIntervals).pre
          ?_).bind ?_
      · rintro w' (hFound | ⟨hNo, _⟩)
        · exact hFound
        · exact absurd rfl hNo
      intro r
      cases r with
      | inl rc => exact yieldTimer_backsOff rc
      | inr rc => exact Triple.ret (fun _ h => h)
    · intro _
      refine Triple.ite ?_ ?_
      · exact fun _ => Triple.ret hYields
      · exact
          fun _ => (yieldTimer_backsOff yieldRc).pre hYields

theorem internalYield_backsOff
    (hSingle : port.threadSupport = false)
    (hCalls : KeepsConnection port)
    (hIntervals : SaneIntervals port)
    (hLost : HandlerBacksOff port onLost)
    (depth : Nat)
    (waiting : Bool)
    (fuel : Nat)
    (timeoutMs : UInt32) :
    Triple (inTime port) (BacksOff port)
      (internalYield port fuel
        (runCallback port (api port depth true))
        (runCallback port (api port depth waiting)) onLost
        timeoutMs)
      (fun rc => YieldsWith port rc) := by
  refine (backsOff_apart.countdown _ _).seq ?_
  intro _
  refine
    Triple.loop (fun _ => BacksOff port)
      (fun _ _ _ => trivial) ?_
  intro _
  refine
    (yieldRound_backsOff hSingle hCalls hIntervals hLost
      depth waiting fuel).post ?_
  intro r w hEnds
  cases r with
  | inl _ => exact hEnds
  | inr rc => exact hEnds

/- The end of yield leaves a pending client alone. -/
theorem finishYield_backsOff
    (hSingle : port.threadSupport = false)
    (yieldRc : IoTError) :
    Triple (inTime port)
      (YieldsWith port yieldRc)
      (finishYield port yieldRc)
      (fun rc => YieldsWith port rc) := by
  refine Triple.ite (fun _ => ?_)
    (fun _ => Triple.ret (fun _ h => h))
  refine Triple.bind
    (M := fun _ w =>
      BacksOff port w ∧
        (GaveUp port w →
          yieldRc = .networkReconnectTimedOutError)) ?_ ?_
  · rw [setClientState_single hSingle]
    refine Triple.step ?_
    rintro w ⟨hBacks, hCode⟩
    right
    dsimp only
    split
    · have hPaced := hBacks.paced.2
      have hNext :
          Within
            (Timed port
              w.st.client.currentReconnectWaitInterval)
            (Paced w.st.client.currentReconnectWaitInterval
              (attempts w.log) (peak w.log))
            (⟨w.st.inState .connectedIdle,
              .setState .connectedYieldInProgress
                .connectedIdle w.st.client.clientState ::
                w.log⟩ : Run E) :=
        ⟨timed_of_ne (fun hNo => by cases hNo),
          Paced.event (s := w.st) (l := w.log) hPaced rfl
            rfl⟩
      refine
        ⟨BacksOff.of_paced hBacks.tied hBacks.few hNext, ?_⟩
      rintro ⟨hPending, _⟩
      cases hPending
    · refine ⟨?_, hCode⟩
      exact
        backsOff_apart.apart w.st w.st [_] w.log
          (apart_event rfl rfl) hBacks
  intro rc
  refine Triple.ite ?_
    (fun _ => Triple.ret (fun _ h => h))
  rintro ⟨hSuccess, _⟩
  refine Triple.ret ?_
  rintro w ⟨hBacks, hCode⟩
  refine ⟨hBacks, ?_⟩
  intro hGaveUp
  have hNo := hCode hGaveUp
  rw [hSuccess] at hNo
  cases hNo

/- The invariant of a client that is not pending. -/
def BacksOn (port : Port E) (w : Run E) : Prop :=
  w.st.client.clientState ≠ .pendingReconnect ∧
    BacksOff port w

theorem backsOn_states :
    KeptStates (inTime port)
      (fun s => s ≠ .pendingReconnect) (BacksOn port) where
  halt := fun _ _ => trivial
  apart := by
    intro s s' es l hApart hOn
    have hSame :=
      congrArg Settings.clientState hApart.settings
    refine ⟨?_, backsOff_apart.apart s s' es l hApart hOn.2⟩
    change s'.client.settings.clientState ≠ _
    rw [hSame]
    exact hOn.1
  inside := fun _ hOn => hOn.1
  refused := fun s l _ _ hOn =>
    Or.inr
      ⟨hOn.1, BacksOff.event (w := ⟨s, l⟩) rfl hOn.2⟩
  state := fun _ _ _ hNew hOn =>
    ⟨hNew, timed_of_ne hNew, hOn.2.tied, hOn.2.few⟩

theorem yield_backsOff
    (hSingle : port.threadSupport = false)
    (hCalls : KeepsConnection port)
    (hIntervals : SaneIntervals port)
    (hLost : HandlerBacksOff port onLost)
    (depth : Nat)
    (waiting : Bool)
    (fuel : Nat)
    (timeoutMs : UInt32) :
    Triple (inTime port) (BacksOff port)
      (yield port fuel
        (runCallback port (api port depth true))
        (runCallback port (api port depth waiting)) onLost
        timeoutMs)
      (fun rc w =>
        BacksOff port w ∧
          (timeoutMs ≠ 0 → GaveUp port w →
            rc = .networkReconnectTimedOutError)) := by
  have hInner :
      Triple (inTime port) (BacksOff port)
        (internalYield port fuel
            (runCallback port (api port depth true))
            (runCallback port (api port depth waiting))
            onLost timeoutMs >>= finishYield port)
        (fun rc w =>
          BacksOff port w ∧
            (timeoutMs ≠ 0 → GaveUp port w →
              rc = .networkReconnectTimedOutError)) :=
    ((internalYield_backsOff hSingle hCalls hIntervals hLost
      depth waiting fuel timeoutMs).bind
        (finishYield_backsOff hSingle)).post
          (fun _ _ h => ⟨h.1, fun _ => h.2⟩)
  have hOn :
      ∀ {rc : IoTError},
        Triple (inTime port) (BacksOn port)
          (Prog.ret rc)
          (fun rc w =>
            BacksOff port w ∧
              (timeoutMs ≠ 0 → GaveUp port w →
                rc = .networkReconnectTimedOutError)) :=
    Triple.ret
      (fun _ h =>
        ⟨h.2, fun _ hGaveUp => absurd hGaveUp.1 h.1⟩)
  refine Triple.ite ?_ (fun _ => ?_)
  · intro hZero
    exact
      Triple.ret (fun _ h => ⟨h, fun hNo => absurd hZero hNo⟩)
  refine Triple.bind
    (M := fun s w =>
      s = w.st.client.clientState ∧ BacksOff port w)
    (Triple.read (fun _ h => ⟨rfl, h⟩)) ?_
  intro clientState
  refine Triple.ite ?_ (fun _ => ?_)
  · intro hManually
    refine hOn.pre ?_
    rintro w ⟨rfl, hBacks⟩
    refine ⟨?_, hBacks⟩
    rw [hManually]
    decide
  refine Triple.ite ?_ ?_
  · exact fun _ => hInner.pre (fun _ h => h.2)
  intro hNot
  refine Triple.pre (A := BacksOn port) ?_ ?_
  · refine (KeptApart.read _).seq ?_
    intro seen
    refine Triple.ite (fun _ => hOn) (fun _ => ?_)
    refine Triple.ite (fun _ => hOn) (fun _ => ?_)
    refine
      (backsOn_states.setClientState _
        (fun hNo => by cases hNo)).seq ?_
    intro rc
    refine Triple.ite (fun _ => hOn) (fun _ => ?_)
    exact hInner.pre (fun _ h => h.2)
  · rintro w ⟨rfl, hBacks⟩
    exact ⟨hNot, hBacks⟩

/-
  A yield of a client that gave up returns at once, without
  another attempt and without touching the client.
-/
theorem yield_gaveUp
    (hSingle : port.threadSupport = false)
    {waitCallback yieldCallback : Callback E}
    {fuel : Nat}
    {timeoutMs : UInt32}
    (hTimeout : timeoutMs ≠ 0)
    (w₀ : Run E)
    (hGaveUp : GaveUp port w₀) :
    Triple (Contract.plain (Sys E) Event)
      (fun w => w = w₀)
      (yield port fuel waitCallback yieldCallback onLost
        timeoutMs)
      (fun rc w =>
        rc = .networkReconnectTimedOutError ∧
          w.st.client = w₀.st.client ∧
            w.log =
              .setState .connectedYieldInProgress
                .connectedIdle .pendingReconnect ::
                w₀.log) := by
  rcases hGaveUp with ⟨hState, hOver⟩
  rw [yield, if_neg hTimeout]
  refine Triple.bind
    (M := fun s w => s = .pendingReconnect ∧ w = w₀)
    (Triple.read ?_) ?_
  · rintro w rfl
    exact ⟨hState, rfl⟩
  intro clientState
  refine Triple.of_fact ?_
  rintro rfl
  rw [if_neg (by decide), if_pos rfl]
  refine Triple.bind
    (M := fun rc w =>
      rc = .networkReconnectTimedOutError ∧
        w.st.client = w₀.st.client ∧ w.log = w₀.log) ?_ ?_
  · refine Triple.bind
      (M := fun _ w =>
        w.st.client = w₀.st.client ∧ w.log = w₀.log)
      (Triple.modify ?_) ?_
    · rintro w rfl
      exact ⟨rfl, rfl⟩
    intro _
    refine
      Triple.loop
        (fun _ (w : Run E) =>
          w.st.client = w₀.st.client ∧ w.log = w₀.log)
        (fun _ _ _ => trivial) ?_
    intro _
    refine Triple.bind
      (M := fun s w =>
        s = .pendingReconnect ∧
          w.st.client = w₀.st.client ∧ w.log = w₀.log)
      (Triple.read ?_) ?_
    · rintro w ⟨hClient, hLog⟩
      refine ⟨?_, hClient, hLog⟩
      rw [hClient]
      exact hState
    intro s
    refine Triple.of_fact ?_
    rintro rfl
    rw [if_pos rfl]
    refine Triple.bind
      (M := fun c w =>
        c = w₀.st.client ∧
          w.st.client = w₀.st.client ∧ w.log = w₀.log)
      (Triple.read (fun _ h => ⟨h.1, h⟩)) ?_
    intro c
    refine Triple.of_fact ?_
    rintro rfl
    rw [if_pos hOver]
    exact Triple.ret (fun _ h => ⟨rfl, h⟩)
  intro rc
  refine Triple.of_fact ?_
  rintro rfl
  rw [finishYield, if_pos (by decide),
    setClientState_single hSingle]
  refine Triple.bind
    (M := fun _ w =>
      w.st.client = w₀.st.client ∧
        w.log =
          .setState .connectedYieldInProgress .connectedIdle
            .pendingReconnect :: w₀.log)
    (Triple.step ?_) ?_
  · rintro w ⟨hClient, hLog⟩
    right
    rw [hClient, hState, if_neg (by decide)]
    exact ⟨hClient, congrArg _ hLog⟩
  intro rc
  refine Triple.ite ?_ ?_
  · rintro ⟨hNo, _⟩
    cases hNo
  · exact fun _ => Triple.ret (fun _ h => ⟨rfl, h⟩)

end Mqtt

end TrustOnboard

------------------------------------------------------------
-- Runs
------------------------------------------------------------

namespace TrustOnboard

namespace Mqtt

variable {E : Type}
variable {port : Port E}

/- Calls made one after another. -/
inductive Reaches
    (port : Port E) : Run E → Run E → Prop where
  | nil
      (w : Run E) :
      Reaches port w w
  | cons
      (fuel : Nat)
      (c : TopCall)
      {w w₁ w₂ : Run E}
      (hRun : (topCall port fuel c).run w = (some (), w₁))
      (hRest : Reaches port w₁ w₂) :
      Reaches port w w₂

/- A run only extends the log. -/
theorem Reaches.onTime_start
    {w w' : Run E}
    (hRun : Reaches port w w')
    (hOnTime : onTime port w'.log = true) :
    onTime port w.log = true := by
  induction hRun with
  | nil w => exact hOnTime
  | cons fuel c hCall hRest ih =>
      rename_i w w₁ w₂
      rcases (topCall port fuel c).run_log_suffix w with
        ⟨es, hLog⟩
      rw [hCall] at hLog
      have hLater := ih hOnTime
      rw [hLog] at hLater
      exact onTime_of_append es hLater

/- A parameter without which `aws_iot_mqtt_init` refuses. -/
def InitParams.lacksOne (p : InitParams) : Prop :=
  p.pHostURL.isNone ∨ p.port = 0 ∨
    p.pRootCALocation.isNone ∨
    p.pDevicePrivateKeyLocation.isNone ∨
    p.pDeviceCertLocation.isNone

instance (p : InitParams) : Decidable p.lacksOne :=
  inferInstanceAs (Decidable (_ ∨ _))

/- The part of the invariant that ignores the state. -/
def Counted (port : Port E) (w : Run E) : Prop :=
  Tied port w.st.client.currentReconnectWaitInterval
      (attempts w.log) ∧
    Few port (peak w.log)

/- Init leaves the client in a state that is not pending. -/
theorem init_counted
    (p : InitParams) :
    Triple (inTime port)
      (fun w =>
        Counted port w ∧ (p.lacksOne → BacksOff port w))
      (init port (some p))
      (fun _ => BacksOff port) := by
  have hAssign :
      ∀ {s : ClientState}, s ≠ .pendingReconnect →
        ∀ rc, Triple (inTime port)
          (Counted port)
          (do
            assignClientState s
            pure rc : Code E IoTError)
          (fun _ => BacksOff port) := by
    intro s hNot rc
    refine Triple.bind (M := fun _ => BacksOff port)
      (Triple.modify ?_) (fun _ => Triple.ret (fun _ h => h))
    exact fun w hw => ⟨timed_of_ne hNot, hw.1, hw.2⟩
  refine Triple.ite
    (fun hLacks => Triple.ret (fun _ h => h.2 hLacks))
    (fun _ => ?_)
  refine Triple.bind (M := fun _ => Counted port)
    (Triple.emit ?_) ?_
  · rintro w ⟨⟨hTied, hFew⟩, _⟩
    right
    refine ⟨hTied, hFew.mono ?_⟩
    exact
      Nat.max_le.mpr
        ⟨attempts_le_peak w.log, Nat.le_refl _⟩
  intro _
  refine Triple.seq (Triple.modify ?_) ?_
  · intro w hw
    have hSame :
        (initClient port p
          w.st.client).currentReconnectWaitInterval =
          w.st.client.currentReconnectWaitInterval := by
      unfold initClient setConnectParams
      cases port.threadSupport
      · rfl
      · rfl
    unfold Counted
    dsimp only
    rw [hSame]
    exact hw
  intro _
  refine Triple.seq (Triple.step (fun _ h => Or.inr h)) ?_
  intro rc
  refine Triple.ite
    (fun _ => hAssign (by decide) rc) (fun _ => ?_)
  refine Triple.seq (Triple.modify (fun _ h => h)) ?_
  intro _
  refine Triple.seq (Triple.modify (fun _ h => h)) ?_
  exact fun _ => hAssign (by decide) _

/- The disconnect handler is as good as its calls. -/
theorem runDisconnectHandler_backsOff
    {call : ApiCall → Code E IoTError}
    (hCall :
      ∀ c, Keeps (inTime port) (BacksOff port) (call c)) :
    HandlerBacksOff port
      (runDisconnectHandler port call) := by
  intro handler data
  refine Triple.seq (Triple.step ?_) ?_
  · intro w hBacks
    exact Or.inr ⟨hBacks.timed, hBacks.tied, hBacks.few⟩
  intro calls
  refine Triple.each ?_
  intro c _
  refine Triple.seq (Triple.modify ?_)
    (fun _ => (hCall c).seq (fun _ => Triple.same))
  intro w hBacks
  exact ⟨hBacks.timed, hBacks.tied, hBacks.few⟩

/- What a call owes when it returns. -/
def ReturnsWith
    (port : Port E)
    (c : ApiCall)
    (rc : IoTError)
    (w : Run E) : Prop :=
  BacksOff port w ∧
    ∀ timeoutMs, c = .yield timeoutMs → timeoutMs ≠ 0 →
      GaveUp port w → rc = .networkReconnectTimedOutError

theorem apiBody_backsOff
    (hSingle : port.threadSupport = false)
    (hCalls : KeepsConnection port)
    (hIntervals : SaneIntervals port)
    (fuel : Nat)
    (waiting : Bool)
    (hInner :
      ∀ c,
        Keeps (inTime port) (BacksOff port)
          (api port fuel waiting c))
    (c : ApiCall) :
    Triple (inTime port) (BacksOff port)
      (apiBody port fuel (api port fuel true)
        (api port fuel waiting) c)
      (ReturnsWith port c) := by
  by_cases hYield : ∃ timeoutMs, c = .yield timeoutMs
  · rcases hYield with ⟨timeoutMs, rfl⟩
    refine
      (yield_backsOff hSingle hCalls hIntervals
        (runDisconnectHandler_backsOff hInner) fuel waiting
        fuel timeoutMs).post ?_
    rintro rc w ⟨hBacks, hCode⟩
    refine ⟨hBacks, ?_⟩
    intro _ hSame
    cases hSame
    exact hCode
  · have hNot : ∀ timeoutMs, c ≠ .yield timeoutMs :=
      fun timeoutMs hNo => hYield ⟨timeoutMs, hNo⟩
    refine
      (keeps_backsOff (fun _ _ _ =>
        apiBody_paced hSingle hCalls fuel c hNot)).post ?_
    intro rc w hBacks
    exact
      ⟨hBacks, fun timeoutMs hNo => absurd hNo (hNot timeoutMs)⟩

/-
  Every call keeps the invariant, those the disconnect handler
  makes included.
-/
theorem api_backsOff
    (hSingle : port.threadSupport = false)
    (hCalls : KeepsConnection port)
    (hIntervals : SaneIntervals port)
    (fuel : Nat)
    (waiting : Bool)
    (c : ApiCall) :
    Triple (inTime port) (BacksOff port)
      (api port fuel waiting c) (ReturnsWith port c) := by
  induction fuel generalizing waiting c with
  | zero => exact Triple.stop (fun _ _ => trivial)
  | succ fuel ih =>
      refine Triple.bind (M := fun _ => BacksOff port)
        (Triple.emit (fun _ h => Or.inr (h.event rfl))) ?_
      intro _
      refine
        (apiBody_backsOff hSingle hCalls hIntervals fuel
          waiting
          (fun c => (ih waiting c).post (fun _ _ h => h.1))
          c).bind ?_
      intro rc
      refine Triple.bind
        (M := fun _ => ReturnsWith port c rc) (Triple.emit ?_)
        (fun _ => Triple.ret (fun _ h => h))
      rintro w ⟨hBacks, hCode⟩
      exact Or.inr ⟨hBacks.event rfl, hCode⟩

/- One call keeps the invariant. -/
theorem topCall_backsOff
    (hSingle : port.threadSupport = false)
    (hCalls : KeepsConnection port)
    (hIntervals : SaneIntervals port)
    (fuel : Nat)
    (c : TopCall) :
    Keeps (inTime port) (BacksOff port)
      (topCall port fuel c) := by
  cases c with
  | api c =>
      exact
        (api_backsOff hSingle hCalls hIntervals fuel false
          c).bind (fun _ => Triple.ret (fun _ h => h.1))
  | init params =>
      cases params with
      | none => exact Triple.ret (fun _ h => h)
      | some p =>
          refine
            ((init_counted p).pre ?_).bind
              (fun _ => Triple.ret (fun _ h => h))
          intro w hBacks
          exact ⟨⟨hBacks.tied, hBacks.few⟩, fun _ => hBacks⟩

/- So does a whole run. -/
theorem Reaches.backsOff
    (hSingle : port.threadSupport = false)
    (hCalls : KeepsConnection port)
    (hIntervals : SaneIntervals port)
    {w w' : Run E}
    (hRun : Reaches port w w')
    (hOnTime : onTime port w'.log = true)
    (hBacks : BacksOff port w) :
    BacksOff port w' := by
  induction hRun with
  | nil w => exact hBacks
  | cons fuel c hCall hRest ih =>
      refine ih hOnTime ?_
      rcases
        (topCall_backsOff hSingle hCalls hIntervals fuel
          c).of_run hBacks hCall with hLate | hNext
      · exact
          absurd hLate (by simp [inTime, hRest.onTime_start hOnTime])
      · exact hNext

/- The number of doublings up to twice the largest one. -/
theorem attempts_le_log
    {low high count : Nat}
    (hLow : 0 < low)
    (hFew : low * 2 ^ count ≤ 2 * high) :
    count ≤ Nat.log 2 (high / low) + 1 := by
  cases count with
  | zero => exact Nat.zero_le _
  | succ count =>
      have hHalf : low * 2 ^ count ≤ high := by
        rw [Nat.pow_succ, ← Nat.mul_assoc] at hFew
        omega
      have hRatio : 2 ^ count ≤ high / low :=
        (Nat.le_div_iff_mul_le hLow).mpr
          (by rw [Nat.mul_comm]; exact hHalf)
      have hLog : count ≤ Nat.log 2 (high / low) :=
        Nat.le_log_of_pow_le (by decide) hRatio
      exact Nat.succ_le_succ hLog

/- The attempts an outage has room for. -/
def attemptLimit (port : Port E) : Nat :=
  Nat.log 2
      (port.maxReconnectWaitInterval.toNat /
        port.minReconnectWaitInterval.toNat) + 1

/- Once all of them have failed, the client has given up. -/
theorem BacksOff.gaveUp
    (hIntervals : SaneIntervals port)
    {w : Run E}
    (hBacks : BacksOff port w)
    (hState : w.st.client.clientState = .pendingReconnect)
    (hAll : attempts w.log = attemptLimit port) :
    GaveUp port w := by
  refine ⟨hState, ?_⟩
  rw [UInt32.lt_iff_toNat_lt]
  rcases hBacks.tied with hZero | ⟨k, hInterval, hCount⟩
  · rw [hAll] at hZero
    cases hZero
  rw [hInterval]
  rw [hAll, attemptLimit] at hCount
  have hLog :
      port.maxReconnectWaitInterval.toNat /
          port.minReconnectWaitInterval.toNat < 2 ^ k :=
    Nat.lt_pow_of_log_lt (by decide) hCount
  have hOver :=
    (Nat.div_lt_iff_lt_mul hIntervals.positive).mp hLog
  rw [Nat.mul_comm]
  exact hOver

/- A yield of a client that gave up, between the calls. -/
theorem yieldCall_gaveUp
    (hSingle : port.threadSupport = false)
    {fuel : Nat}
    {timeoutMs : UInt32}
    (hTimeout : timeoutMs ≠ 0)
    {w w' : Run E}
    {rc : IoTError}
    (hGaveUp : GaveUp port w)
    (hRun :
      (api port fuel false (.yield timeoutMs)).run w =
        (some rc, w')) :
    rc = .networkReconnectTimedOutError ∧
      w'.st.client = w.st.client ∧
        attempts w'.log = attempts w.log := by
  cases fuel with
  | zero => cases hRun
  | succ fuel =>
      have hCall :
          Triple (Contract.plain (Sys E) Event)
            (fun v => v = w)
            (api port (fuel + 1) false (.yield timeoutMs))
            (fun rc v =>
              rc = .networkReconnectTimedOutError ∧
                v.st.client = w.st.client ∧
                  attempts v.log = attempts w.log) := by
        refine Triple.bind
          (M := fun _ v =>
            v = ⟨w.st, .call false (.yield timeoutMs) ::
              w.log⟩) (Triple.emit ?_) ?_
        · rintro v rfl
          exact Or.inr rfl
        intro _
        refine
          (yield_gaveUp hSingle hTimeout
            ⟨w.st, .call false (.yield timeoutMs) :: w.log⟩
            hGaveUp).bind ?_
        intro rc
        refine Triple.bind
          (M := fun _ v =>
            rc = .networkReconnectTimedOutError ∧
              v.st.client = w.st.client ∧
                attempts v.log = attempts w.log)
          (Triple.emit ?_)
          (fun _ => Triple.ret (fun _ h => h))
        rintro v ⟨hRc, hClient, hLog⟩
        refine Or.inr ⟨hRc, hClient, ?_⟩
        change attempts v.log = attempts w.log
        rw [hLog]
        rfl
      have hHere := hCall.of_run rfl hRun
      exact hHere.resolve_left (fun hNo => hNo)

/-
  From init on, whatever the client's memory held: a pending
  client waits for a doubling of the smallest interval, the
  yields of an outage make no more attempts than there is
  room for, at any moment, and a yield that has made them all
  returns the time-out and attempts nothing more.
-/
theorem backsOff_onTime
    (port : Port E)
    (hSingle : port.threadSupport = false)
    (hCalls : KeepsConnection port)
    (hIntervals : SaneIntervals port)
    (s : Sys E)
    (p : InitParams)
    (hComplete : ¬ p.lacksOne)
    {rc : IoTError}
    {w₀ w : Run E}
    (hInit :
      (init port (some p)).run ⟨s, []⟩ = (some rc, w₀))
    (hRun : Reaches port w₀ w)
    (hOnTime : onTime port w.log = true) :
    (w.st.client.clientState = .pendingReconnect →
        Sane port
          w.st.client.currentReconnectWaitInterval) ∧
      (∀ es l, w.log = es ++ l →
        attempts l ≤ attemptLimit port) ∧
        (w.st.client.clientState = .pendingReconnect →
          attempts w.log = attemptLimit port →
            GaveUp port w) ∧
          ∀ fuel timeoutMs rc w',
            timeoutMs ≠ 0 →
              (api port fuel false (.yield timeoutMs)).run w =
                  (some rc, w') →
                (onTime port w'.log = true → GaveUp port w' →
                    rc = .networkReconnectTimedOutError) ∧
                  (GaveUp port w →
                    rc = .networkReconnectTimedOutError ∧
                      w'.st.client = w.st.client ∧
                        attempts w'.log =
                          attempts w.log) := by
  have hOrdered := hIntervals.ordered
  have hCounted : Counted port ⟨s, []⟩ := by
    refine ⟨Or.inl rfl, ?_⟩
    change _ * 2 ^ 0 ≤ _
    omega
  have hStart : BacksOff port w₀ := by
    have hHere :=
      (init_counted p).of_run
        ⟨hCounted, fun hNo => absurd hNo hComplete⟩ hInit
    exact
      hHere.resolve_left
        (by simp [inTime, hRun.onTime_start hOnTime])
  have hBacks :=
    hRun.backsOff hSingle hCalls hIntervals hOnTime hStart
  refine
    ⟨hBacks.timed, ?_,
      fun hState hAll =>
        hBacks.gaveUp hIntervals hState hAll, ?_⟩
  · intro es l hLog
    have hPeak :
        attempts l ≤ peak w.log := by
      rw [hLog]
      exact
        Nat.le_trans (attempts_le_peak l) (peak_append_le es l)
    exact
      Nat.le_trans hPeak
        (attempts_le_log hIntervals.positive hBacks.few)
  · intro fuel timeoutMs rc w' hTimeout hYield
    refine
      ⟨?_,
        fun hGaveUp =>
          yieldCall_gaveUp hSingle hTimeout hGaveUp hYield⟩
    intro hLater hGaveUp
    rcases
      (api_backsOff hSingle hCalls hIntervals fuel false
        (.yield timeoutMs)).of_run hBacks hYield with
      hLate | ⟨_, hCode⟩
    · exact absurd hLate (by simp [inTime, hLater])
    · exact hCode timeoutMs rfl hTimeout hGaveUp

/- Parameters for init that ask for reconnecting. -/
def reconnectInit : InitParams :=
  { scriptInit with enableAutoReconnect := true }

/- Memory init is given, before one outage of a connection. -/
def oneOutage : Run Script :=
  scriptStart
    { scriptClient .invalid [] with
      currentReconnectWaitInterval := 7 }
    { Script.idle with
      incoming := [some connackPacket, none]
      timers := [false, false, false, false, true, true]
      connects := [.success, .networkErrNetConnectFailed] }

theorem backsOff_onTime_oneOutage :
    ∃ w₀ w,
      (init quietPort (some reconnectInit)).run oneOutage =
          (some .success, w₀) ∧
        Reaches quietPort w₀ w ∧
          w.st.client.clientState = .pendingReconnect ∧
            attempts w.log = 1 ∧
              Sane quietPort
                w.st.client.currentReconnectWaitInterval := by
  have hInit :=
    Prog.run_of_returns
      (p := init quietPort (some reconnectInit))
      (w := oneOutage) (a := .success) (by decide +kernel)
  have hConnect :=
    Prog.run_of_returns
      (p := topCall quietPort 5 (.api (.connect none)))
      (w := ((init quietPort (some reconnectInit)).run
        oneOutage).2)
      (a := ()) (by decide +kernel)
  have hYield :=
    Prog.run_of_returns
      (p := topCall quietPort 5 (.api (.yield 1000)))
      (w := ((topCall quietPort 5 (.api (.connect none))).run
        ((init quietPort (some reconnectInit)).run
          oneOutage).2).2)
      (a := ()) (by decide +kernel)
  have hRun : Reaches quietPort _ _ :=
    .cons 5 (.api (.connect none)) hConnect
      (.cons 5 (.api (.yield 1000)) hYield (.nil _))
  refine
    ⟨_, _, hInit, hRun, by decide +kernel,
      by decide +kernel, ?_⟩
  have hHolds :=
    backsOff_onTime quietPort rfl
      (fun _ _ _ _ _ hNo => by cases hNo)
      ⟨by decide, by decide, by decide⟩ oneOutage.st
      reconnectInit (by decide) hInit hRun (by decide +kernel)
  exact hHolds.1 (by decide +kernel)

/- The network refuses the connection after init. -/
def refusedAttempt : Run Script :=
  scriptStart
    { scriptClient .invalid [] with
      currentReconnectWaitInterval := 7 }
    { Script.idle with
      connects := [.networkErrNetConnectFailed] }

theorem not_sane_refusedAttempt :
    ∃ w,
      (session scriptPort 4
          [.init (some scriptInit),
            .api .attemptReconnect]).run refusedAttempt =
          (some (), w) ∧
        w.st.client.clientState = .pendingReconnect ∧
          w.st.client.currentReconnectWaitInterval = 7 ∧
            ¬ Sane scriptPort
              w.st.client.currentReconnectWaitInterval := by
  have hRun :=
    Prog.run_of_returns
      (p := session scriptPort 4
        [.init (some scriptInit), .api .attemptReconnect])
      (w := refusedAttempt) (a := ()) (by decide +kernel)
  have hSeven :
      ((session scriptPort 4
          [.init (some scriptInit),
            .api .attemptReconnect]).run
          refusedAttempt).2.st.client.currentReconnectWaitInterval =
        7 := by
    decide +kernel
  refine ⟨_, hRun, by decide +kernel, hSeven, ?_⟩
  rw [hSeven]
  rintro ⟨k, hInterval, _⟩
  have hPow : 0 < 2 ^ k := Nat.pow_pos (by decide)
  have hNo : 7 = 1000 * 2 ^ k := hInterval
  omega

end Mqtt

end TrustOnboard
