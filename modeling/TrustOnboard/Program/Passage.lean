import TrustOnboard.Program.Returns

/-
  Relations between the world a program starts in and the one
  it returns in.

  Where a relation of worlds can be chained, a program keeps
  to it when its parts do.  Unlike `Prog.Uses`, the relation
  is one of whole runs, and need not hold of each action.

  Key definitions include:
    * `Passage`
    * `Prog.Relates`

  Key results include:
    * `Prog.Relates.bind`
    * `Prog.Relates.loop`
    * `Prog.Relates.returns`
-/

------------------------------------------------------------
-- Passages
------------------------------------------------------------

namespace TrustOnboard

/- A relation of worlds that can be chained. -/
structure Passage (S Ev : Type) where
  rel : World S Ev → World S Ev → Prop
  refl : ∀ w, rel w w
  trans : ∀ {w w' w''}, rel w w' → rel w' w'' → rel w w''

/- A program that returns has kept to a passage. -/
def Prog.Relates
    {S Ev α : Type}
    (R : Passage S Ev)
    (p : Prog S Ev α) : Prop :=
  ∀ w a w', p.run w = (some a, w') → R.rel w w'

end TrustOnboard

------------------------------------------------------------
-- Structural Rules
------------------------------------------------------------

namespace TrustOnboard

namespace Prog

namespace Relates

variable {S Ev : Type}
variable {α β σ : Type}
variable {R : Passage S Ev}

theorem pure
    (a : α) :
    Relates R (Pure.pure a : Prog S Ev α) := by
  intro w b w' hRun
  cases hRun
  exact R.refl w

theorem step
    {f : S → α × S × List Ev}
    (hStep : ∀ w : World S Ev,
      R.rel w ⟨(f w.st).2.1, (f w.st).2.2 ++ w.log⟩) :
    Relates R (Prog.step f) := by
  intro w a w' hRun
  cases hRun
  exact hStep w

theorem read
    (f : S → α) :
    Relates R (Prog.read f : Prog S Ev α) :=
  step R.refl

theorem bind
    {p : Prog S Ev α}
    {q : α → Prog S Ev β}
    (hFirst : Relates R p)
    (hRest : ∀ a, Relates R (q a)) :
    Relates R (p >>= q) := by
  intro w b w'' hRun
  rcases of_run_bind hRun with ⟨a, w', hStart, hLater⟩
  exact R.trans (hFirst w a w' hStart)
    (hRest a w' b w'' hLater)

theorem ite
    {c : Prop}
    [Decidable c]
    {p q : Prog S Ev α}
    (hThen : Relates R p)
    (hElse : Relates R q) :
    Relates R (if c then p else q) := by
  split
  · exact hThen
  · exact hElse

theorem loop
    {fuel : Nat}
    {body : σ → Prog S Ev (σ ⊕ α)}
    {s : σ}
    (hBody : ∀ s, Relates R (body s)) :
    Relates R (Prog.loop fuel body s) := by
  induction fuel generalizing s with
  | zero =>
      intro w a w' hRun
      cases hRun
  | succ fuel ih =>
      rw [loop_succ]
      refine (hBody s).bind ?_
      intro r
      cases r with
      | inl s' => exact ih
      | inr a => exact pure a

/- Whatever the fuel is with which a program returns. -/
theorem returns
    {p : Nat → Prog S Ev α}
    (hAll : ∀ n, Relates R (p n))
    {w w' : World S Ev}
    {a : α}
    (hReturns : Returns p w a w') :
    R.rel w w' := by
  rcases hReturns with ⟨n, hRun⟩
  exact hAll n w a w' hRun

end Relates

end Prog

end TrustOnboard
