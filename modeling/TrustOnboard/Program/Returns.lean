import TrustOnboard.Program.Basic

/-
  Programs without their fuel.

  A loop that returns does so with any more fuel.  For
  programs built from such loops it is enough to ask what
  they return with some amount of it.

  Key definitions include:
    * `Prog.Stable`
    * `Prog.Returns`
    * `Prog.Iterates`
    * `Prog.LeadsTo`
    * `Prog.Reaches`
    * `Prog.Commutes`

  Key results include:
    * `Prog.returns_bind`
    * `Prog.returns_loop`
    * `Prog.Returns.unique`
    * `Prog.LeadsTo.bind`
-/

------------------------------------------------------------
-- More Fuel
------------------------------------------------------------

namespace TrustOnboard

namespace Prog

variable {S Ev : Type}
variable {α β σ : Type}

/- Programs, one for every fuel, that agree when they return. -/
def Stable (p : Nat → Prog S Ev α) : Prop :=
  ∀ m n w a w', m ≤ n →
    (p m).run w = (some a, w') → (p n).run w = (some a, w')

namespace Stable

theorem const
    (p : Prog S Ev α) :
    Stable (fun _ => p) :=
  fun _ _ _ _ _ _ hRun => hRun

theorem bind
    {p : Nat → Prog S Ev α}
    {q : Nat → α → Prog S Ev β}
    (hFirst : Stable p)
    (hRest : ∀ a, Stable (fun n => q n a)) :
    Stable (fun n => p n >>= q n) := by
  intro m n w b w'' hLe hRun
  dsimp only at hRun ⊢
  rw [run_bind] at hRun ⊢
  rcases hStart : (p m).run w with ⟨r, w'⟩
  rw [hStart] at hRun
  cases r with
  | none => cases hRun
  | some a =>
      rw [hFirst m n w a w' hLe hStart]
      exact hRest a m n w' b w'' hLe hRun

theorem ite
    {c : Prop}
    [Decidable c]
    {p q : Nat → Prog S Ev α}
    (hThen : Stable p)
    (hElse : Stable q) :
    Stable (fun n => if c then p n else q n) := by
  split
  · exact hThen
  · exact hElse

/- More rounds, each with more fuel. -/
theorem rounds
    {body : Nat → σ → Prog S Ev (σ ⊕ α)}
    (hBody : ∀ s, Stable (fun n => body n s))
    {k k' m n : Nat}
    (hRounds : k ≤ k')
    (hLe : m ≤ n)
    {s : σ}
    {w w' : World S Ev}
    {a : α}
    (hRun : (loop k (body m) s).run w = (some a, w')) :
    (loop k' (body n) s).run w = (some a, w') := by
  induction k generalizing k' s w with
  | zero => cases hRun
  | succ k ih =>
      obtain ⟨j, rfl⟩ :=
        Nat.exists_eq_succ_of_ne_zero (show k' ≠ 0 by omega)
      rw [loop_succ, run_bind] at hRun ⊢
      rcases hStart : (body m s).run w with ⟨r, w₁⟩
      rw [hStart] at hRun
      cases r with
      | none => cases hRun
      | some r =>
          rw [hBody s m n w r w₁ hLe hStart]
          cases r with
          | inl s' => exact ih (by omega) hRun
          | inr b => exact hRun

theorem loop
    {body : Nat → σ → Prog S Ev (σ ⊕ α)}
    (hBody : ∀ s, Stable (fun n => body n s))
    (s : σ) :
    Stable (fun n => Prog.loop n (body n) s) :=
  fun _ _ _ _ _ hLe hRun => rounds hBody hLe hLe hRun

end Stable

end Prog

end TrustOnboard

------------------------------------------------------------
-- What A Program Returns
------------------------------------------------------------

namespace TrustOnboard

namespace Prog

variable {S Ev : Type}
variable {α β σ : Type}
variable {w w' w'' : World S Ev}

/- With enough fuel a program returns. -/
def Returns
    (p : Nat → Prog S Ev α)
    (w : World S Ev)
    (a : α)
    (w' : World S Ev) : Prop :=
  ∃ n, (p n).run w = (some a, w')

/- A composite run that returns has passed its middle. -/
theorem of_run_bind
    {p : Prog S Ev α}
    {q : α → Prog S Ev β}
    {b : β}
    (hRun : (p >>= q).run w = (some b, w'')) :
    ∃ a w',
      p.run w = (some a, w') ∧
        (q a).run w' = (some b, w'') := by
  rw [run_bind] at hRun
  rcases hFirst : p.run w with ⟨result, w'⟩
  rw [hFirst] at hRun
  cases result with
  | none => cases hRun
  | some a => exact ⟨a, w', rfl, hRun⟩

theorem returns_const
    {p : Prog S Ev α}
    {a : α} :
    Returns (fun _ => p) w a w' ↔ p.run w = (some a, w') :=
  ⟨fun ⟨_, hRun⟩ => hRun, fun hRun => ⟨0, hRun⟩⟩

/- A program returns one thing only. -/
theorem Returns.unique
    {p : Nat → Prog S Ev α}
    (hStable : Stable p)
    {a b : α}
    (hLeft : Returns p w a w')
    (hRight : Returns p w b w'') :
    a = b ∧ w' = w'' := by
  rcases hLeft with ⟨m, hLeft⟩
  rcases hRight with ⟨n, hRight⟩
  have hFirst :=
    hStable m (max m n) w a w' (by omega) hLeft
  have hSecond :=
    hStable n (max m n) w b w'' (by omega) hRight
  rw [hFirst] at hSecond
  cases hSecond
  exact ⟨rfl, rfl⟩

/- A composite returns when its parts do, one by one. -/
theorem returns_bind
    {p : Nat → Prog S Ev α}
    {q : Nat → α → Prog S Ev β}
    (hFirst : Stable p)
    (hRest : ∀ a, Stable (fun n => q n a))
    {b : β} :
    Returns (fun n => p n >>= q n) w b w'' ↔
      ∃ a w', Returns p w a w' ∧
        Returns (fun n => q n a) w' b w'' := by
  constructor
  case mp =>
    rintro ⟨n, hRun⟩
    dsimp only at hRun
    rw [run_bind] at hRun
    rcases hStart : (p n).run w with ⟨r, w'⟩
    rw [hStart] at hRun
    cases r with
    | none => cases hRun
    | some a => exact ⟨a, w', ⟨n, hStart⟩, n, hRun⟩
  case mpr =>
    rintro ⟨a, w', ⟨m, hStart⟩, n, hRun⟩
    refine ⟨max m n, ?_⟩
    dsimp only
    rw [run_bind_of_run
      (hFirst m (max m n) w a w' (by omega) hStart)]
    exact hRest a n (max m n) w' b w'' (by omega) hRun

/- A loop with the fuel of its rounds taken away. -/
inductive Iterates
    (body : Nat → σ → Prog S Ev (σ ⊕ α)) :
    σ → World S Ev → α → World S Ev → Prop where
  | last {s : σ} {w w' : World S Ev} {a : α}
      (hBody : Returns (fun n => body n s) w (.inr a) w') :
      Iterates body s w a w'
  | next {s s' : σ} {w w₁ w' : World S Ev} {a : α}
      (hBody : Returns (fun n => body n s) w (.inl s') w₁)
      (hRest : Iterates body s' w₁ a w') :
      Iterates body s w a w'

/- A loop returns what its rounds lead to. -/
theorem returns_loop
    {body : Nat → σ → Prog S Ev (σ ⊕ α)}
    (hStable : ∀ s, Stable (fun n => body n s))
    {s : σ}
    {a : α} :
    Returns (fun n => loop n (body n) s) w a w' ↔
      Iterates body s w a w' := by
  constructor
  case mp =>
    rintro ⟨n, hRun⟩
    have hAll : ∀ k s w,
        (loop k (body n) s).run w = (some a, w') →
          Iterates body s w a w' := by
      intro k
      induction k with
      | zero =>
          intro s w hRun
          cases hRun
      | succ k ih =>
          intro s w hRun
          rw [loop_succ, run_bind] at hRun
          rcases hStart : (body n s).run w with ⟨r, w₁⟩
          rw [hStart] at hRun
          cases r with
          | none => cases hRun
          | some r =>
              cases r with
              | inl s' =>
                  exact .next ⟨n, hStart⟩ (ih s' w₁ hRun)
              | inr b =>
                  cases hRun
                  exact .last ⟨n, hStart⟩
    exact hAll n s w hRun
  case mpr =>
    intro hIterates
    induction hIterates with
    | @last s w w' a hBody =>
        rcases hBody with ⟨m, hRun⟩
        refine ⟨m + 1, ?_⟩
        dsimp only
        rw [loop_succ, run_bind_of_run
          (hStable s m (m + 1) w _ w' (by omega) hRun)]
        rfl
    | @next s s' w w₁ w' a hBody hRest ih =>
        rcases hBody with ⟨m, hRun⟩
        rcases ih with ⟨n, hLater⟩
        refine ⟨max m n + 1, ?_⟩
        dsimp only
        rw [loop_succ, run_bind_of_run
          (hStable s m (max m n + 1) w _ w₁ (by omega) hRun)]
        exact Stable.rounds hStable (by omega) (by omega)
          hLater

end Prog

end TrustOnboard

------------------------------------------------------------
-- What A Program Leads To
------------------------------------------------------------

namespace TrustOnboard

namespace Prog

variable {S Ev : Type}
variable {α β : Type}
variable {w w' w'' : World S Ev}

/- With enough fuel a program goes on as another one. -/
def LeadsTo
    (p : Nat → Prog S Ev α)
    (w : World S Ev)
    (q : Nat → Prog S Ev α)
    (w' : World S Ev) : Prop :=
  ∃ m, ∀ n, m ≤ n → (p n).run w = (q n).run w'

/- A program returns, with whatever fuel is enough. -/
abbrev Settles
    (p : Nat → Prog S Ev α)
    (w : World S Ev)
    (a : α)
    (w' : World S Ev) : Prop :=
  LeadsTo p w (fun _ => pure a) w'

theorem Returns.settles
    {p : Nat → Prog S Ev α}
    (hStable : Stable p)
    {a : α}
    (hReturns : Returns p w a w') :
    Settles p w a w' := by
  rcases hReturns with ⟨m, hRun⟩
  exact ⟨m, fun n hLe => hStable m n w a w' hLe hRun⟩

namespace LeadsTo

theorem refl
    (p : Nat → Prog S Ev α)
    (w : World S Ev) :
    LeadsTo p w p w :=
  ⟨0, fun _ _ => rfl⟩

theorem trans
    {p q r : Nat → Prog S Ev α}
    (hFirst : LeadsTo p w q w')
    (hThen : LeadsTo q w' r w'') :
    LeadsTo p w r w'' := by
  rcases hFirst with ⟨m, hFirst⟩
  rcases hThen with ⟨k, hThen⟩
  refine ⟨max m k, ?_⟩
  intro n hLe
  rw [hFirst n (by omega), hThen n (by omega)]

/- A composite leads to what is left of it. -/
theorem bind
    {p : Nat → Prog S Ev α}
    {a : α}
    (hFirst : Settles p w a w')
    (q : Nat → α → Prog S Ev β) :
    LeadsTo (fun n => p n >>= q n) w (fun n => q n a) w' := by
  rcases hFirst with ⟨m, hFirst⟩
  refine ⟨m, ?_⟩
  intro n hLe
  dsimp only
  rw [run_bind_of_run (hFirst n hLe)]

/- Leading to a program inside of a composite. -/
theorem andThen
    {p q : Nat → Prog S Ev α}
    (hFirst : LeadsTo p w q w')
    (r : Nat → α → Prog S Ev β) :
    LeadsTo (fun n => p n >>= r n) w (fun n => q n >>= r n)
      w' := by
  rcases hFirst with ⟨m, hFirst⟩
  refine ⟨m, ?_⟩
  intro n hLe
  dsimp only
  rw [run_bind, run_bind, hFirst n hLe]

/- What is returned is what the other program returns. -/
theorem returns_iff
    {p q : Nat → Prog S Ev α}
    (hLeads : LeadsTo p w q w')
    (hLeft : Stable p)
    (hRight : Stable q)
    {a : α} :
    Returns p w a w'' ↔ Returns q w' a w'' := by
  rcases hLeads with ⟨m, hLeads⟩
  constructor
  case mp =>
    rintro ⟨n, hRun⟩
    have hMore :=
      hLeft n (max m n) w a w'' (by omega) hRun
    rw [hLeads _ (by omega)] at hMore
    exact ⟨_, hMore⟩
  case mpr =>
    rintro ⟨n, hRun⟩
    have hMore :=
      hRight n (max m n) w' a w'' (by omega) hRun
    rw [← hLeads _ (by omega)] at hMore
    exact ⟨_, hMore⟩

end LeadsTo

/-
  A program leads to one, in a state, that are as required.
-/
def Reaches
    (p : Nat → Prog S Ev α)
    (w : World S Ev)
    (Q : (Nat → Prog S Ev α) → World S Ev → Prop) : Prop :=
  ∃ q w', LeadsTo p w q w' ∧ Q q w'

namespace Reaches

variable {Q : (Nat → Prog S Ev β) → World S Ev → Prop}

theorem done
    {q : Nat → Prog S Ev β}
    (hRequired : Q q w) :
    Reaches q w Q :=
  ⟨q, w, .refl q w, hRequired⟩

theorem of_leadsTo
    {p q : Nat → Prog S Ev β}
    (hLeads : LeadsTo p w q w')
    (hRest : Reaches q w' Q) :
    Reaches p w Q := by
  rcases hRest with ⟨r, w'', hLater, hRequired⟩
  exact ⟨r, w'', hLeads.trans hLater, hRequired⟩

theorem bind
    {p : Nat → Prog S Ev α}
    {q : Nat → α → Prog S Ev β}
    {a : α}
    (hFirst : Settles p w a w')
    (hRest : Reaches (fun n => q n a) w' Q) :
    Reaches (fun n => p n >>= q n) w Q :=
  of_leadsTo (.bind hFirst q) hRest

/- An action in front of a program. -/
theorem step
    {f : S → α × S × List Ev}
    {q : Nat → α → Prog S Ev β}
    (hRest :
      Reaches (fun n => q n (f w.st).1)
        ⟨(f w.st).2.1, (f w.st).2.2 ++ w.log⟩ Q) :
    Reaches (fun n => Prog.step f >>= q n) w Q :=
  of_leadsTo ⟨0, fun _ _ => rfl⟩ hRest

theorem read
    {f : S → α}
    {q : Nat → α → Prog S Ev β}
    (hRest : Reaches (fun n => q n (f w.st)) w Q) :
    Reaches (fun n => Prog.read f >>= q n) w Q :=
  step hRest

end Reaches

end Prog

end TrustOnboard

------------------------------------------------------------
-- Changes A Program Does Not Notice
------------------------------------------------------------

namespace TrustOnboard

variable {S Ev : Type}
variable {α β σ : Type}
variable {g : S → S}

/- A world with its state changed. -/
def World.change (g : S → S) (w : World S Ev) : World S Ev :=
  ⟨g w.st, w.log⟩

namespace Prog

/-
  A program does the same after a change of the state, which
  is still there afterwards.
-/
def Commutes (g : S → S) (p : Prog S Ev α) : Prop :=
  ∀ w,
    p.run (w.change g) = ((p.run w).1, (p.run w).2.change g)

namespace Commutes

theorem pure
    (a : α) :
    Commutes g (Pure.pure a : Prog S Ev α) :=
  fun _ => rfl

theorem step
    {f : S → α × S × List Ev}
    (hStep : ∀ s, f (g s) = ((f s).1, g (f s).2.1, (f s).2.2)) :
    Commutes g (Prog.step f) := by
  intro w
  rw [run_step]
  change (some (f (g w.st)).1,
    (⟨(f (g w.st)).2.1, (f (g w.st)).2.2 ++ w.log⟩ :
      World S Ev)) = _
  rw [hStep]
  rfl

theorem bind
    {p : Prog S Ev α}
    {q : α → Prog S Ev β}
    (hFirst : Commutes g p)
    (hRest : ∀ a, Commutes g (q a)) :
    Commutes g (p >>= q) := by
  intro w
  rw [run_bind, run_bind, hFirst w]
  rcases (p.run w) with ⟨r, w'⟩
  cases r with
  | none => rfl
  | some a => exact hRest a w'

theorem loop
    {fuel : Nat}
    {body : σ → Prog S Ev (σ ⊕ α)}
    {s : σ}
    (hBody : ∀ s, Commutes g (body s)) :
    Commutes g (Prog.loop fuel body s) := by
  induction fuel generalizing s with
  | zero => exact fun _ => rfl
  | succ fuel ih =>
      rw [loop_succ]
      refine (hBody s).bind ?_
      intro r
      cases r with
      | inl s' => exact ih
      | inr a => exact pure a

/- What a program returns after a change. -/
theorem returns
    {p : Nat → Prog S Ev α}
    (hAll : ∀ n, Commutes g (p n))
    {w w' : World S Ev}
    {a : α}
    (hReturns : Returns p w a w') :
    Returns p (w.change g) a (w'.change g) := by
  rcases hReturns with ⟨n, hRun⟩
  refine ⟨n, ?_⟩
  rw [hAll n w, hRun]

end Commutes

end Prog

end TrustOnboard
