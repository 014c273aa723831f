import TrustOnboard.Program.Basic

/-
  Programs that are interrupted.

  A schedule tells what happens before each action of a
  program: any number of signals, each of which changes the
  state on its own.  A program is sound when it returns and
  its result holds for every schedule; what is known between
  two of its actions has to last under the signals.

  Key definitions include:
    * `Schedule`
    * `handleAll`
    * `Prog.interrupted`
    * `Lasting`
    * `Sound`

  Key results include:
    * `Prog.interrupted_bind`
    * `Sound.step`
    * `Sound.bind`
    * `Sound.loop`
-/

------------------------------------------------------------
-- Schedules
------------------------------------------------------------

namespace TrustOnboard

/- The signals before each action. -/
abbrev Schedule (I : Type) := List (List I)

/- A reaction to a signal. -/
abbrev Handler (I S Ev : Type) := I → S → S × List Ev

variable {I S Ev : Type}
variable {α β σ : Type}

/- A world after a signal. -/
def World.signal
    (handler : Handler I S Ev)
    (w : World S Ev)
    (i : I) : World S Ev :=
  ⟨(handler i w.st).1, (handler i w.st).2 ++ w.log⟩

/- A world after some signals. -/
def World.signals
    (handler : Handler I S Ev)
    (w : World S Ev)
    (is : List I) : World S Ev :=
  is.foldl (World.signal handler) w

/- What some signals do to a state, and what they show. -/
def handleAll
    (handler : Handler I S Ev)
    (is : List I)
    (s : S) : S × List Ev :=
  ((World.signals handler ⟨s, []⟩ is).st,
    (World.signals handler ⟨s, []⟩ is).log)

theorem World.signals_log
    (handler : Handler I S Ev)
    (s : S)
    (l : List Ev)
    (is : List I) :
    World.signals handler ⟨s, l⟩ is =
      ⟨(handleAll handler is s).1,
        (handleAll handler is s).2 ++ l⟩ := by
  have hAll :
      ∀ (s : S) (k l : List Ev),
        World.signals handler ⟨s, k ++ l⟩ is =
          ⟨(World.signals handler ⟨s, k⟩ is).st,
            (World.signals handler ⟨s, k⟩ is).log ++ l⟩ := by
    induction is with
    | nil => exact fun _ _ _ => rfl
    | cons i is ih =>
        intro s k l
        have hStep := ih (handler i s).1 ((handler i s).2 ++ k) l
        rw [List.append_assoc] at hStep
        exact hStep
  exact hAll s [] l

/- A program together with a schedule. -/
def Prog.interrupted
    (handler : Handler I S Ev) :
    Prog S Ev α → Prog (S × Schedule I) Ev α
  | .ret a => .ret a
  | .stop => .stop
  | .act f k =>
      .act
        (fun s =>
          let r := handleAll handler (s.2.headD []) s.1
          (f r.1).map (fun t => ((t.1, s.2.tail), t.2 ++ r.2)))
        (fun s =>
          (k (handleAll handler (s.2.headD []) s.1).1).interrupted
            handler)

theorem Prog.interrupted_bind
    (handler : Handler I S Ev)
    (p : Prog S Ev α)
    (q : α → Prog S Ev β) :
    (p >>= q).interrupted handler =
      p.interrupted handler >>=
        fun a => (q a).interrupted handler := by
  induction p with
  | ret a => rfl
  | stop => rfl
  | act f k ih =>
      change Prog.act _ _ = Prog.act _ _
      congr 1
      funext s
      exact ih _

end TrustOnboard

------------------------------------------------------------
-- Soundness
------------------------------------------------------------

namespace TrustOnboard

variable {I S Ev : Type}
variable {α β σ : Type}

/- What a signal does not change the truth of. -/
def Lasting
    (handler : Handler I S Ev)
    (P : World S Ev → Prop) : Prop :=
  ∀ w i, P w → P (w.signal handler i)

theorem Lasting.signals
    {handler : Handler I S Ev}
    {P : World S Ev → Prop}
    (hLasting : Lasting handler P)
    {w : World S Ev}
    (hPre : P w)
    (is : List I) :
    P (w.signals handler is) := by
  induction is generalizing w with
  | nil => exact hPre
  | cons i is ih => exact ih (hLasting w i hPre)

/- The world without the rest of the schedule. -/
def World.base
    (w : World (S × Schedule I) Ev) : World S Ev :=
  ⟨w.st.1, w.log⟩

/-
  For every schedule, a program returns from where the first
  condition holds to where the second one does.
-/
def Sound
    (handler : Handler I S Ev)
    (P : World S Ev → Prop)
    (p : Prog S Ev α)
    (Q : α → World S Ev → Prop) : Prop :=
  ∀ w : World (S × Schedule I) Ev,
    P w.base →
      ∃ a w',
        (p.interrupted handler).run w = (some a, w') ∧
          Q a w'.base

namespace Sound

variable {handler : Handler I S Ev}
variable {P P' : World S Ev → Prop}

theorem ret
    {a : α}
    {Q : α → World S Ev → Prop}
    (hDone : ∀ w, P w → Q a w) :
    Sound handler P (.ret a) Q :=
  fun w hPre => ⟨a, w, rfl, hDone w.base hPre⟩

theorem bind
    {p : Prog S Ev α}
    {q : α → Prog S Ev β}
    {M : α → World S Ev → Prop}
    {Q : β → World S Ev → Prop}
    (hFirst : Sound handler P p M)
    (hSecond : ∀ a, Sound handler (M a) (q a) Q) :
    Sound handler P (p >>= q) Q := by
  intro w hPre
  rcases hFirst w hPre with ⟨a, w₁, hRun, hMid⟩
  rcases hSecond a w₁ hMid with ⟨b, w₂, hRun', hPost⟩
  refine ⟨b, w₂, ?_, hPost⟩
  rw [Prog.interrupted_bind, Prog.run_bind, hRun]
  exact hRun'

/- An action meets the state the signals have left. -/
theorem step
    {f : S → α × S × List Ev}
    {Q : α → World S Ev → Prop}
    (hLasting : Lasting handler P)
    (hStep :
      ∀ w : World S Ev, P w →
        Q (f w.st).1 ⟨(f w.st).2.1, (f w.st).2.2 ++ w.log⟩) :
    Sound handler P (.step f) Q := by
  rintro ⟨⟨s, sch⟩, l⟩ hPre
  have hMet := hLasting.signals hPre (sch.headD [])
  have hDone := hStep _ hMet
  change P ⟨s, l⟩ at hPre
  have hLog := World.signals_log handler s l (sch.headD [])
  have hBase :
      (World.base (I := I) ⟨(s, sch), l⟩) = ⟨s, l⟩ := rfl
  rw [hBase, hLog, ← List.append_assoc] at hDone
  exact ⟨_, _, rfl, hDone⟩

theorem read
    {f : S → α}
    {Q : α → World S Ev → Prop}
    (hLasting : Lasting handler P)
    (hRead : ∀ w : World S Ev, P w → Q (f w.st) w) :
    Sound handler P (.read f) Q :=
  step hLasting hRead

theorem modify
    {f : S → S}
    {Q : Unit → World S Ev → Prop}
    (hLasting : Lasting handler P)
    (hModify :
      ∀ w : World S Ev, P w → Q () ⟨f w.st, w.log⟩) :
    Sound handler P (.modify f) Q :=
  step hLasting hModify

theorem pre
    {p : Prog S Ev α}
    {Q : α → World S Ev → Prop}
    (hSound : Sound handler P p Q)
    (hPre : ∀ w, P' w → P w) :
    Sound handler P' p Q :=
  fun w hHere => hSound w (hPre _ hHere)

theorem post
    {p : Prog S Ev α}
    {Q Q' : α → World S Ev → Prop}
    (hSound : Sound handler P p Q)
    (hPost : ∀ a w, Q a w → Q' a w) :
    Sound handler P p Q' := by
  intro w hPre
  rcases hSound w hPre with ⟨a, w', hRun, hDone⟩
  exact ⟨a, w', hRun, hPost a _ hDone⟩

/- A fact beside a condition. -/
theorem of_fact
    {φ : Prop}
    {p : Prog S Ev α}
    {Q : α → World S Ev → Prop}
    (hSound : φ → Sound handler P p Q) :
    Sound handler (fun w => φ ∧ P w) p Q :=
  fun w hPre => hSound hPre.1 w hPre.2

theorem exists_pre
    {ι : Type}
    {R : ι → World S Ev → Prop}
    {p : Prog S Ev α}
    {Q : α → World S Ev → Prop}
    (hSound : ∀ i, Sound handler (R i) p Q) :
    Sound handler (fun w => ∃ i, R i w) p Q := by
  rintro w ⟨i, hPre⟩
  exact hSound i w hPre

/-
  A loop whose rounds bring a number down returns before the
  fuel of that number is used up.
-/
theorem loop
    {body : σ → Prog S Ev (σ ⊕ α)}
    {R : σ → World S Ev → Prop}
    {Q : α → World S Ev → Prop}
    {fuel : Nat}
    {s : σ}
    (measure : σ → Nat)
    (hBody :
      ∀ s,
        Sound handler (R s) (body s)
          (fun r w =>
            match r with
            | .inl s' => measure s' < measure s ∧ R s' w
            | .inr a => Q a w))
    (hFuel : measure s < fuel) :
    Sound handler (R s) (.loop fuel body s) Q := by
  induction fuel generalizing s with
  | zero => exact absurd hFuel (Nat.not_lt_zero _)
  | succ fuel ih =>
      rw [Prog.loop_succ]
      refine (hBody s).bind ?_
      intro r
      cases r with
      | inl s' =>
          apply of_fact
          intro hLess
          exact ih (by omega)
      | inr a => exact ret (fun w hDone => hDone)

end Sound

end TrustOnboard
