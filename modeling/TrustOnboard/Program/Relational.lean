import TrustOnboard.Program.Triple

/-
  Two programs side by side.

  `Coupled P p q Q` says of two programs, from worlds that
  are in `P` together, that both return or both do not, and
  that they return together in `Q`.  The programs may have
  different states and events.

  Key definitions include:
    * `Coupled`

  Key results include:
    * `Coupled.bind`
    * `Coupled.loop`
    * `Coupled.step`
    * `Coupled.same_result`
-/

------------------------------------------------------------
-- Coupled Programs
------------------------------------------------------------

namespace TrustOnboard

/- What two finished runs owe to each other. -/
def Coupled.Meets
    {S Ev α T Fv β : Type}
    (Q : α → β → World S Ev → World T Fv → Prop)
    (r : Option α × World S Ev)
    (r' : Option β × World T Fv) : Prop :=
  match r.1, r'.1 with
  | some a, some b => Q a b r.2 r'.2
  | none, none => True
  | _, _ => False

/- Two programs that return together or not at all. -/
def Coupled
    {S Ev α T Fv β : Type}
    (P : World S Ev → World T Fv → Prop)
    (p : Prog S Ev α)
    (q : Prog T Fv β)
    (Q : α → β → World S Ev → World T Fv → Prop) : Prop :=
  ∀ w v, P w v → Coupled.Meets Q (p.run w) (q.run v)

end TrustOnboard

------------------------------------------------------------
-- Structural Rules
------------------------------------------------------------

namespace TrustOnboard

namespace Coupled

variable {S Ev T Fv : Type}
variable {α α' β β' σ τ : Type}
variable {P P' : World S Ev → World T Fv → Prop}
variable {Q Q' : α → β → World S Ev → World T Fv → Prop}

theorem pre
    {p : Prog S Ev α}
    {q : Prog T Fv β}
    (hCoupled : Coupled P' p q Q)
    (hPre : ∀ w v, P w v → P' w v) :
    Coupled P p q Q :=
  fun w v hP => hCoupled w v (hPre w v hP)

theorem ret
    {a : α}
    {b : β}
    (hPost : ∀ w v, P w v → Q a b w v) :
    Coupled P (Prog.ret a) (Prog.ret b) Q :=
  hPost

theorem step
    {f : S → α × S × List Ev}
    {g : T → β × T × List Fv}
    (hPost :
      ∀ w v, P w v →
        Q (f w.st).1 (g v.st).1
          ⟨(f w.st).2.1, (f w.st).2.2 ++ w.log⟩
          ⟨(g v.st).2.1, (g v.st).2.2 ++ v.log⟩) :
    Coupled P (Prog.step f) (Prog.step g) Q :=
  hPost

/- Sequential composition. -/
theorem bind
    {p : Prog S Ev α}
    {q : Prog T Fv β}
    {p' : α → Prog S Ev α'}
    {q' : β → Prog T Fv β'}
    {R : α' → β' → World S Ev → World T Fv → Prop}
    (hFirst : Coupled P p q Q)
    (hRest : ∀ a b, Coupled (Q a b) (p' a) (q' b) R) :
    Coupled P (p >>= p') (q >>= q') R := by
  intro w v hP
  have hMeets := hFirst w v hP
  rw [Prog.run_bind, Prog.run_bind]
  unfold Meets at hMeets
  cases hLeft : p.run w with
  | mk a w' =>
      cases hRight : q.run v with
      | mk b v' =>
          rw [hLeft, hRight] at hMeets
          cases a with
          | none =>
              cases b with
              | none => trivial
              | some b => exact hMeets.elim
          | some a =>
              cases b with
              | none => exact hMeets.elim
              | some b => exact hRest a b w' v' hMeets

/- A read on one side only. -/
theorem read_left
    {γ : Type}
    {f : S → γ}
    {p : γ → Prog S Ev α}
    {q : Prog T Fv β}
    (hEach :
      ∀ c, Coupled (fun w v => f w.st = c ∧ P w v) (p c) q Q) :
    Coupled P (Prog.read f >>= p) q Q :=
  fun w v hP => hEach (f w.st) w v ⟨rfl, hP⟩

/- A pure fact of the precondition may be assumed. -/
theorem of_fact
    {φ : Prop}
    {p : Prog S Ev α}
    {q : Prog T Fv β}
    (hCoupled : φ → Coupled P p q Q) :
    Coupled (fun w v => φ ∧ P w v) p q Q :=
  fun w v hPre => hCoupled hPre.1 w v hPre.2

/- Two loops that go on together. -/
theorem loop
    {fuel : Nat}
    {body : σ → Prog S Ev (σ ⊕ α)}
    {body' : τ → Prog T Fv (τ ⊕ β)}
    {s : σ}
    {t : τ}
    (J : σ → τ → World S Ev → World T Fv → Prop)
    (hBody :
      ∀ s t,
        Coupled (J s t) (body s) (body' t)
          (fun r r' w v =>
            match r, r' with
            | .inl s', .inl t' => J s' t' w v
            | .inr a, .inr b => Q a b w v
            | _, _ => False)) :
    Coupled (J s t) (Prog.loop fuel body s)
      (Prog.loop fuel body' t) Q := by
  induction fuel generalizing s t with
  | zero => exact fun _ _ _ => trivial
  | succ fuel ih =>
      rw [Prog.loop_succ, Prog.loop_succ]
      refine (hBody s t).bind ?_
      intro r r'
      cases r with
      | inl s' =>
          cases r' with
          | inl t' => exact ih
          | inr b => exact fun _ _ hNo => hNo.elim
      | inr a =>
          cases r' with
          | inl t' => exact fun _ _ hNo => hNo.elim
          | inr b => exact ret (fun _ _ hQ => hQ)

/- Programs that return the same have the same result. -/
theorem same_result
    {R : World S Ev → World T Fv → Prop}
    {p : Prog S Ev α}
    {q : Prog T Fv α}
    (hCoupled :
      Coupled P p q (fun a b w v => a = b ∧ R w v))
    {w : World S Ev}
    {v : World T Fv}
    (hP : P w v) :
    (p.run w).1 = (q.run v).1 ∧
      ((p.run w).1.isSome = true →
        R (p.run w).2 (q.run v).2) := by
  have hMeets := hCoupled w v hP
  unfold Meets at hMeets
  cases hLeft : (p.run w).1 with
  | none =>
      cases hRight : (q.run v).1 with
      | none => exact ⟨rfl, fun hNo => by cases hNo⟩
      | some b =>
          rw [hLeft, hRight] at hMeets
          exact hMeets.elim
  | some a =>
      cases hRight : (q.run v).1 with
      | none =>
          rw [hLeft, hRight] at hMeets
          exact hMeets.elim
      | some b =>
          rw [hLeft, hRight] at hMeets
          rcases hMeets with ⟨rfl, hEnd⟩
          exact ⟨rfl, fun _ => hEnd⟩

end Coupled

end TrustOnboard
