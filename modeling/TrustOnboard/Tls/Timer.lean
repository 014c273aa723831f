import TrustOnboard.Program.Triple
import TrustOnboard.Tls.Accounting
import Mathlib.Data.Nat.Find

/-
  The timers of Linux, `timer.c`, and the transfers of the
  TLS layer under them.

  A countdown has run out if and only if its time has passed.
  Over a clock that never goes back and gets past every time
  no read and no write hangs or gives up before its time,
  whatever the library does.

  Key definitions include:
    * `Timeval`
    * `hasTimerExpired`
    * `countdownMs`
    * `Ticking`
    * `Clock`
    * `Host`
    * `onLinux`

  Key results include:
    * `hasTimerExpired_iff`
    * `expired_after_iff`
    * `Ticking.iotTlsRead_returns`
    * `Ticking.iotTlsWrite_returns`
    * `linux_transfers_return`
-/

------------------------------------------------------------
-- Times
------------------------------------------------------------

namespace TrustOnboard

namespace Linux

/- `struct timeval`, as the clock and its macros keep it. -/
structure Timeval where
  sec : Int
  usec : Int
  hUsec : 0 ≤ usec ∧ usec < 1000000

/- The time in microseconds. -/
def Timeval.micros (t : Timeval) : Int :=
  t.sec * 1000000 + t.usec

/- `timeradd`. -/
def timeradd (a b : Timeval) : Timeval :=
  if hCarry : 1000000 ≤ a.usec + b.usec then
    { sec := a.sec + b.sec + 1
      usec := a.usec + b.usec - 1000000
      hUsec := by
        have hLeft := a.hUsec
        have hRight := b.hUsec
        omega }
  else
    { sec := a.sec + b.sec
      usec := a.usec + b.usec
      hUsec := by
        have hLeft := a.hUsec
        have hRight := b.hUsec
        omega }

/- `timersub`. -/
def timersub (a b : Timeval) : Timeval :=
  if hBorrow : a.usec - b.usec < 0 then
    { sec := a.sec - b.sec - 1
      usec := a.usec - b.usec + 1000000
      hUsec := by
        have hLeft := a.hUsec
        have hRight := b.hUsec
        omega }
  else
    { sec := a.sec - b.sec
      usec := a.usec - b.usec
      hUsec := by
        have hLeft := a.hUsec
        have hRight := b.hUsec
        omega }

theorem micros_timeradd
    (a b : Timeval) :
    (timeradd a b).micros = a.micros + b.micros := by
  unfold timeradd Timeval.micros
  split
  · dsimp only
    omega
  · dsimp only
    omega

theorem micros_timersub
    (a b : Timeval) :
    (timersub a b).micros = a.micros - b.micros := by
  unfold timersub Timeval.micros
  split
  · dsimp only
    omega
  · dsimp only
    omega

/- `has_timer_expired`, when the clock shows `now`. -/
def hasTimerExpired (endTime now : Timeval) : Bool :=
  let res := timersub endTime now
  decide (res.sec < 0) ||
    (decide (res.sec = 0) && decide (res.usec ≤ 0))

/- The interval `countdown_ms` adds to the time. -/
def intervalMs (timeout : UInt32) : Timeval where
  sec := timeout.toNat / 1000
  usec := timeout.toNat % 1000 * 1000
  hUsec := by omega

/- `countdown_ms`. -/
def countdownMs (now : Timeval) (timeout : UInt32) : Timeval :=
  timeradd now (intervalMs timeout)

/- A timer has run out when the clock has reached its end. -/
theorem hasTimerExpired_iff
    (endTime now : Timeval) :
    hasTimerExpired endTime now = true ↔
      endTime.micros ≤ now.micros := by
  have hMicros := micros_timersub endTime now
  have hUsec := (timersub endTime now).hUsec
  unfold hasTimerExpired
  unfold Timeval.micros at hMicros ⊢
  simp only [Bool.or_eq_true, Bool.and_eq_true,
    decide_eq_true_eq]
  omega

theorem micros_countdownMs
    (now : Timeval)
    (timeout : UInt32) :
    (countdownMs now timeout).micros =
      now.micros + timeout.toNat * 1000 := by
  unfold countdownMs
  rw [micros_timeradd]
  unfold intervalMs Timeval.micros
  dsimp only
  omega

/- A countdown runs out when its time has passed, not before. -/
theorem expired_after_iff
    (start now : Timeval)
    (timeout : UInt32) :
    hasTimerExpired (countdownMs start timeout) now = true ↔
      (timeout.toNat : Int) * 1000 ≤
        now.micros - start.micros := by
  rw [hasTimerExpired_iff, micros_countdownMs]
  omega

end Linux

end TrustOnboard

------------------------------------------------------------
-- Transfers While A Clock Runs
------------------------------------------------------------

namespace TrustOnboard

namespace Tls

open Mqtt (IoTError)

variable {E : Type}
variable {port : Port E}
variable {left : E → Nat}
variable {C : Contract (Sys E) Event}

/-
  A timer that comes closer to its end every time it is found
  not to have run out, is at its end when it is found to, and
  goes back under no call.
-/
structure Ticking
    (port : Port E)
    (left : E → Nat) : Prop where
  check :
    ∀ e,
      (port.hasTimerExpired e).1 = false →
        left (port.hasTimerExpired e).2 < left e
  expired :
    ∀ e,
      (port.hasTimerExpired e).1 = true →
        left (port.hasTimerExpired e).2 = 0
  check_le :
    ∀ e, left (port.hasTimerExpired e).2 ≤ left e
  read : ∀ n e, left (port.sslRead n e).2 ≤ left e
  write : ∀ bs e, left (port.sslWrite bs e).2 ≤ left e

/- Looking at the timer. -/
theorem Ticking.timer_step
    (hTicking : Ticking port left)
    (site : Site)
    (n : Nat) :
    Triple C (fun w => left w.st.env ≤ n)
      (hasTimerExpired port site)
      (fun expired w =>
        (expired = true → left w.st.env = 0) ∧
          (expired = false → left w.st.env < n)) := by
  apply Triple.step
  intro w hLeft
  right
  refine ⟨hTicking.expired _, ?_⟩
  intro hRuns
  exact Nat.lt_of_lt_of_le (hTicking.check _ hRuns) hLeft

/- A call of the library in a read. -/
theorem Ticking.sslRead_step
    (hTicking : Ticking port left)
    (off len n : Nat) :
    Triple C (fun w => left w.st.env ≤ n)
      (sslRead port off len)
      (fun _ w => left w.st.env ≤ n) := by
  apply Triple.step
  intro w hLeft
  right
  exact Nat.le_trans (hTicking.read _ _) hLeft

/- What a read comes to: only time makes it give up. -/
def ReadEnds
    (left : E → Nat)
    (r : IoTError × Option Nat)
    (w : Run E) : Prop :=
  r.1 = .success ∨ r.1 = .networkSslReadError ∨
    left w.st.env = 0

/-
  Every read returns, whatever the library does, and does not
  give up before the timer is at its end.
-/
theorem Ticking.iotTlsRead_returns
    (hTicking : Ticking port left)
    (fuel len : Nat) :
    Triple C (fun w => left w.st.env < fuel)
      (iotTlsRead port fuel len) (ReadEnds left) := by
  refine
    Triple.pre
      (Triple.loop_measured (fun _ _ => True)
        (fun _ w => left w.st.env) ?_ fuel _)
      (fun _ hLeft => ⟨trivial, hLeft⟩)
  intro v n
  apply Triple.ite
  · intro _
    refine Triple.bind
      (M := fun _ w => left w.st.env ≤ n)
      ((hTicking.sslRead_step _ _ n).pre
        (fun _ hP => Nat.le_of_eq hP.2)) ?_
    intro ret
    apply Triple.ite
    · intro _
      exact Triple.pure (fun _ _ => Or.inr (Or.inl rfl))
    · intro _
      refine (hTicking.timer_step .round n).bind ?_
      intro expired
      cases expired with
      | true =>
          apply Triple.pure
          intro w hP
          exact Or.inr (Or.inr (hP.1 rfl))
      | false =>
          apply Triple.pure
          intro w hP
          exact ⟨trivial, hP.2 rfl⟩
  · intro hAll
    apply Triple.pure
    intro w _
    left
    unfold readResult
    rw [if_pos (Nat.eq_zero_of_not_pos hAll)]

/- The inner loop of a write returns. -/
theorem Ticking.writeAttempts_returns
    (hTicking : Ticking port left)
    {fuel n : Nat}
    (hFuel : n ≤ fuel)
    (writtenSoFar len : Nat)
    (ret : Int) :
    Triple C (fun w => left w.st.env < n)
      (writeAttempts port fuel writtenSoFar len ret)
      (fun _ w => left w.st.env < n) := by
  refine
    Triple.pre
      (Triple.loop_measured (fun _ w => left w.st.env < n)
        (fun _ w => left w.st.env) ?_ fuel _) ?_
  · intro s k
    refine Triple.bind
      (M := fun expired w =>
        left w.st.env < n ∧
          (expired = false → left w.st.env < k)) ?_ ?_
    · apply Triple.step
      rintro w ⟨hLeft, rfl⟩
      right
      exact
        ⟨Nat.lt_of_le_of_lt (hTicking.check_le _) hLeft,
          hTicking.check _⟩
    intro expired
    cases expired with
    | true => exact Triple.pure (fun _ hP => hP.1)
    | false =>
        refine Triple.bind
          (M := fun _ w =>
            left w.st.env < n ∧ left w.st.env < k) ?_ ?_
        · apply Triple.step
          intro w hP
          right
          have hWrite :=
            hTicking.write
              (w.st.msg.load writtenSoFar
                (len - writtenSoFar)) w.st.env
          exact
            ⟨Nat.lt_of_le_of_lt hWrite hP.1,
              Nat.lt_of_le_of_lt hWrite (hP.2 rfl)⟩
        intro ret
        apply Triple.ite
        · intro _
          apply Triple.ite
          · intro _
            exact Triple.pure (fun _ hP => hP.1)
          · intro _
            exact Triple.pure (fun _ hP => hP)
        · intro _
          exact Triple.pure (fun _ hP => hP.1)
  · intro w hLeft
    exact ⟨hLeft, Nat.lt_of_lt_of_le hLeft hFuel⟩

/-
  The outer loop of a write returns, and stops short of the
  length only for an error or when the timer is at its end.
-/
theorem Ticking.writeRounds_returns
    (hTicking : Ticking port left)
    (fuel len : Nat)
    (ret : Int) :
    Triple C (fun w => left w.st.env < fuel)
      (writeRounds port fuel len ret)
      (fun r w =>
        r.1 = false → len ≤ r.2 ∨ left w.st.env = 0) := by
  refine
    Triple.pre
      (Triple.loop_measured
        (fun _ w => left w.st.env < fuel)
        (fun _ w => left w.st.env) ?_ fuel _)
      (fun _ hLeft => ⟨hLeft, hLeft⟩)
  intro v n
  apply Triple.ite
  · intro _
    refine Triple.bind
      (M := fun expired w =>
        n < fuel ∧
          (expired = true → left w.st.env = 0) ∧
          (expired = false → left w.st.env < n)) ?_ ?_
    · apply Triple.step
      rintro w ⟨hLeft, rfl⟩
      right
      exact ⟨hLeft, hTicking.expired _, hTicking.check _⟩
    intro expired
    apply Triple.of_fact
    intro hFuel
    cases expired with
    | true =>
        apply Triple.pure
        intro w hP _
        exact Or.inr (hP.1 rfl)
    | false =>
        refine
          Triple.bind
            ((hTicking.writeAttempts_returns
              (Nat.le_of_lt hFuel) v.writtenSoFar len
              v.ret).pre (fun _ hP => hP.2 rfl)) ?_
        intro r
        apply Triple.ite
        · intro _
          apply Triple.pure
          intro w _ hNo
          cases hNo
        · intro _
          apply Triple.pure
          intro w hLeft
          exact ⟨Nat.lt_trans hLeft hFuel, hLeft⟩
  · intro hAll
    apply Triple.pure
    intro w _ _
    exact Or.inl (Nat.le_of_not_lt hAll)

/-
  What a write comes to: it succeeds for no fewer bytes than
  it was asked for, and only time makes it give up.
-/
def WriteEnds
    (left : E → Nat)
    (len : Nat)
    (r : IoTError × Nat)
    (w : Run E) : Prop :=
  r.1 = .success ∧ len ≤ r.2 ∨
    r.1 = .networkSslWriteError ∨
    r.1 = .networkSslWriteTimeoutError ∧ left w.st.env = 0

/-
  Every write returns, whatever the library does, and does
  not give up before the timer is at its end.
-/
theorem Ticking.iotTlsWrite_returns
    (hTicking : Ticking port left)
    (fuel len : Nat)
    (ret : Int) :
    Triple C (fun w => left w.st.env < fuel)
      (iotTlsWrite port fuel len ret)
      (WriteEnds left len) := by
  refine (hTicking.writeRounds_returns fuel len ret).bind ?_
  intro r
  apply Triple.ite
  · intro _
    exact Triple.pure (fun _ _ => Or.inr (Or.inl rfl))
  · intro hGood
    refine Triple.bind
      (M := fun expired w =>
        (expired = true → left w.st.env = 0) ∧
          (expired = false → len ≤ r.2)) ?_ ?_
    · apply Triple.step
      intro w hRounds
      right
      refine ⟨hTicking.expired _, ?_⟩
      intro hRuns
      rcases hRounds (Bool.eq_false_iff.mpr hGood) with
        hAll | hNone
      · exact hAll
      -- A timer at its end is not found to run.
      · have hLess := hTicking.check _ hRuns
        rw [hNone] at hLess
        exact absurd hLess (Nat.not_lt_zero _)
    intro expired
    apply Triple.ite
    · rintro ⟨hExpired, _⟩
      apply Triple.pure
      intro w hP
      exact Or.inr (Or.inr ⟨rfl, hP.1 hExpired⟩)
    · intro hOther
      apply Triple.pure
      intro w hP
      refine Or.inl ⟨rfl, ?_⟩
      cases expired with
      | true =>
          by_contra hShort
          exact hOther
            ⟨rfl, fun hEq => hShort (Nat.le_of_eq hEq.symm)⟩
      | false => exact hP.2 rfl

end Tls

end TrustOnboard

------------------------------------------------------------
-- The Layer On Linux
------------------------------------------------------------

namespace TrustOnboard

namespace Tls

open Linux (Timeval)
open Mqtt (IoTError)

variable {E : Type}

/-
  A clock, by the time each look at it shows: it never goes
  back, and it gets past every time.
-/
structure Clock where
  shows : Nat → Timeval
  hOnward :
    ∀ i j, i ≤ j → (shows i).micros ≤ (shows j).micros
  hPasses : ∀ t : Int, ∃ i, t ≤ (shows i).micros

/- A host, its library and its clock. -/
structure Host (E : Type) where
  sslWrite : (bs : Bytes) → E → SslReturn bs.length × E
  sslRead : (n : Nat) → E → SslReturn n × E
  clock : Clock

/- The library, and the looks at the clock so far. -/
structure Machine (E : Type) where
  lib : E
  looks : Nat

/- What the clock of a machine shows. -/
def Host.now (host : Host E) (m : Machine E) : Timeval :=
  host.clock.shows m.looks

/- The TLS layer on such a host, under a timer. -/
def onLinux
    (host : Host E)
    (endTime : Timeval) : Port (Machine E) where
  hasTimerExpired := fun m =>
    (Linux.hasTimerExpired endTime (host.now m),
      { m with looks := m.looks + 1 })
  sslWrite := fun bs m =>
    let r := host.sslWrite bs m.lib
    (r.1, { m with lib := r.2 })
  sslRead := fun n m =>
    let r := host.sslRead n m.lib
    (r.1, { m with lib := r.2 })

/- A clock shows the end of every timer some time. -/
theorem Clock.reaches
    (clock : Clock)
    (endTime : Timeval)
    (looks : Nat) :
    ∃ k, endTime.micros ≤
      (clock.shows (looks + k)).micros := by
  rcases clock.hPasses endTime.micros with ⟨i, hPast⟩
  refine ⟨i, Int.le_trans hPast ?_⟩
  exact clock.hOnward i (looks + i) (Nat.le_add_left i looks)

/- The looks a timer is found running, from this one on. -/
def Clock.looksLeft
    (clock : Clock)
    (endTime : Timeval)
    (looks : Nat) : Nat :=
  Nat.find (clock.reaches endTime looks)

theorem Clock.looksLeft_spec
    (clock : Clock)
    (endTime : Timeval)
    (looks : Nat) :
    endTime.micros ≤
      (clock.shows
        (looks + clock.looksLeft endTime looks)).micros :=
  Nat.find_spec (clock.reaches endTime looks)

theorem Clock.looksLeft_le
    (clock : Clock)
    {endTime : Timeval}
    {looks k : Nat}
    (hEnd :
      endTime.micros ≤ (clock.shows (looks + k)).micros) :
    clock.looksLeft endTime looks ≤ k :=
  Nat.find_min' (clock.reaches endTime looks) hEnd

/- One more look leaves no more of them. -/
theorem Clock.looksLeft_succ_le
    (clock : Clock)
    (endTime : Timeval)
    (looks : Nat) :
    clock.looksLeft endTime (looks + 1) ≤
      clock.looksLeft endTime looks := by
  apply clock.looksLeft_le
  apply Int.le_trans (clock.looksLeft_spec endTime looks)
  apply clock.hOnward
  omega

/- A look that finds the timer running leaves fewer. -/
theorem Clock.looksLeft_succ_lt
    (clock : Clock)
    {endTime : Timeval}
    {looks : Nat}
    (hRuns :
      (clock.shows looks).micros < endTime.micros) :
    clock.looksLeft endTime (looks + 1) <
      clock.looksLeft endTime looks := by
  have hSpec := clock.looksLeft_spec endTime looks
  cases hLeft : clock.looksLeft endTime looks with
  | zero =>
      rw [hLeft] at hSpec
      exact absurd hRuns (Int.not_lt.mpr hSpec)
  | succ k =>
      rw [hLeft] at hSpec
      apply Nat.lt_succ_of_le
      apply clock.looksLeft_le
      rw [Nat.add_assoc, Nat.add_comm 1 k]
      exact hSpec

/- The looks that still find a timer running. -/
def Host.left
    (host : Host E)
    (endTime : Timeval)
    (m : Machine E) : Nat :=
  host.clock.looksLeft endTime m.looks

/- None is left when the timer has run out. -/
theorem Host.left_eq_zero_iff
    (host : Host E)
    (endTime : Timeval)
    (m : Machine E) :
    host.left endTime m = 0 ↔
      Linux.hasTimerExpired endTime (host.now m) = true := by
  rw [Linux.hasTimerExpired_iff]
  constructor
  · intro hNone
    have hSpec := host.clock.looksLeft_spec endTime m.looks
    change host.clock.looksLeft endTime m.looks = 0 at hNone
    rw [hNone] at hSpec
    exact hSpec
  · intro hEnd
    exact Nat.le_zero.mp (host.clock.looksLeft_le hEnd)

theorem ticking_onLinux
    (host : Host E)
    (endTime : Timeval) :
    Ticking (onLinux host endTime) (host.left endTime) where
  check := by
    intro m hRuns
    apply host.clock.looksLeft_succ_lt
    apply Int.not_le.mp
    rw [← Linux.hasTimerExpired_iff]
    exact Bool.eq_false_iff.mp hRuns
  expired := by
    intro m hExpired
    have hNone := (host.left_eq_zero_iff endTime m).mpr hExpired
    apply Nat.le_zero.mp
    rw [← hNone]
    exact host.clock.looksLeft_succ_le endTime m.looks
  check_le := fun m =>
    host.clock.looksLeft_succ_le endTime m.looks
  read := fun _ m => Nat.le_refl (host.left endTime m)
  write := fun _ m => Nat.le_refl (host.left endTime m)

/-
  On Linux no transfer hangs or gives up early: whatever the
  library does, a read and a write of any length under a
  countdown return after as many rounds of each of their
  loops as there are looks at the clock that find the timer
  running, and one more; a read that neither succeeds nor
  meets an error, and a write that reports a timeout, end when
  the time of the countdown has passed; and no write reports
  success with a count below the length it was asked for.
-/
theorem linux_transfers_return
    (host : Host E)
    (start : Timeval)
    (timeout : UInt32)
    (m : Machine E)
    (msg : Buffer)
    (len : Nat)
    (ret : Int) :
    (∃ r w,
        (iotTlsRead
            (onLinux host (Linux.countdownMs start timeout))
            (host.left (Linux.countdownMs start timeout) m + 1)
            len).run
            ⟨⟨msg, m⟩, []⟩ = (some r, w) ∧
          (r.1 = .success ∨ r.1 = .networkSslReadError ∨
            (timeout.toNat : Int) * 1000 ≤
              (host.now w.st.env).micros - start.micros)) ∧
      ∃ r w,
        (iotTlsWrite
            (onLinux host (Linux.countdownMs start timeout))
            (host.left (Linux.countdownMs start timeout) m + 1)
            len ret).run
            ⟨⟨msg, m⟩, []⟩ = (some r, w) ∧
          (r.1 = .success ∧ len ≤ r.2 ∨
            r.1 = .networkSslWriteError ∨
            r.1 = .networkSslWriteTimeoutError ∧
              (timeout.toNat : Int) * 1000 ≤
                (host.now w.st.env).micros - start.micros) := by
  have hTicking :=
    ticking_onLinux host (Linux.countdownMs start timeout)
  have hFuel :
      host.left (Linux.countdownMs start timeout) m <
        host.left (Linux.countdownMs start timeout) m + 1 :=
    Nat.lt_succ_self _
  constructor
  · rcases Triple.returns
        (hTicking.iotTlsRead_returns
          (host.left (Linux.countdownMs start timeout) m + 1)
          len)
        (w := ⟨⟨msg, m⟩, []⟩) hFuel with
      ⟨r, w, hRun, hEnds⟩
    refine ⟨r, w, hRun, ?_⟩
    rw [← Linux.expired_after_iff, ← host.left_eq_zero_iff]
    exact hEnds
  · rcases Triple.returns
        (hTicking.iotTlsWrite_returns
          (host.left (Linux.countdownMs start timeout) m + 1)
          len ret)
        (w := ⟨⟨msg, m⟩, []⟩) hFuel with
      ⟨r, w, hRun, hEnds⟩
    refine ⟨r, w, hRun, ?_⟩
    rw [← Linux.expired_after_iff, ← host.left_eq_zero_iff]
    exact hEnds

/- A clock that shows one more second at each look. -/
def secondsClock : Clock where
  shows := fun i =>
    { sec := i
      usec := 0
      hUsec := ⟨Int.le_refl 0, by decide⟩ }
  hOnward := by
    intro i j hLe
    unfold Timeval.micros
    dsimp only
    omega
  hPasses := by
    intro t
    refine ⟨t.toNat, ?_⟩
    unfold Timeval.micros
    dsimp only
    omega

/-
  A library that takes one byte of a write and then, as in a
  read, always says that it would have to wait.
-/
def waitingHost : Host Bool where
  sslWrite := fun bs started =>
    if hTakes : started = false ∧ 0 < bs.length then
      (.moved (bs.take 1)
        (by rw [List.length_take]; omega)
        (by rw [List.length_take]; omega)
        (by rw [List.length_take]; omega), true)
    else
      (.code wantWrite (by decide) (by decide),
        started)
  sslRead := fun _ started =>
    (.code wantRead (by decide) (by decide),
      started)
  clock := secondsClock

/- Three bytes and two seconds: both transfers end in time. -/
theorem linux_transfers_return_waiting :
    (∃ r w,
        (iotTlsRead
            (onLinux waitingHost
              (Linux.countdownMs (secondsClock.shows 5) 2000))
            (waitingHost.left
              (Linux.countdownMs (secondsClock.shows 5) 2000)
              ⟨false, 5⟩ + 1) 3).run
            ⟨⟨fun _ => 0, ⟨false, 5⟩⟩, []⟩ = (some r, w) ∧
          (r.1 = .success ∨ r.1 = .networkSslReadError ∨
            ((2000 : UInt32).toNat : Int) * 1000 ≤
              (waitingHost.now w.st.env).micros -
                (secondsClock.shows 5).micros)) ∧
      ∃ r w,
        (iotTlsWrite
            (onLinux waitingHost
              (Linux.countdownMs (secondsClock.shows 5) 2000))
            (waitingHost.left
              (Linux.countdownMs (secondsClock.shows 5) 2000)
              ⟨false, 5⟩ + 1) 3 0).run
            ⟨⟨fun _ => 0, ⟨false, 5⟩⟩, []⟩ = (some r, w) ∧
          (r.1 = .success ∧ 3 ≤ r.2 ∨
            r.1 = .networkSslWriteError ∨
            r.1 = .networkSslWriteTimeoutError ∧
              ((2000 : UInt32).toNat : Int) * 1000 ≤
                (waitingHost.now w.st.env).micros -
                  (secondsClock.shows 5).micros) :=
  linux_transfers_return waitingHost (secondsClock.shows 5) 2000
    ⟨false, 5⟩ (fun _ => 0) 3 0

end Tls

end TrustOnboard
