import Mathlib.Algebra.Group.Int.Defs
import Mathlib.Algebra.Group.Nat.Defs
import Mathlib.Data.List.Basic

/-
  Step programs over a shared state with an event log.

  A program is a tree of atomic actions.  Each action reads
  the current state, may be blocked, and otherwise produces
  the next state together with the events it makes visible.
  `Prog.run` runs a tree alone, up to its end or up to an
  action that is blocked.

  Key definitions include:
    * `World`
    * `Prog`
    * `Prog.run`
    * `Prog.step`
    * `Prog.loop`
    * `Prog.each`

  Key results include:
    * `Prog.run_bind`
    * `Prog.run_log_suffix`
    * `Prog.run_from_empty`
-/

------------------------------------------------------------
-- Worlds And Programs
------------------------------------------------------------

namespace TrustOnboard

/-
  A state together with the events seen so far, the newest
  event first.
-/
structure World (S Ev : Type) where
  st : S
  log : List Ev

/-
  A program returns a value, performs one atomic action and
  continues, or never returns.  The continuation receives
  the state the action started from.
-/
inductive Prog (S Ev : Type) (α : Type) where
  | ret (a : α)
  | act
      (f : S → Option (S × List Ev))
      (k : S → Prog S Ev α)
  | stop

namespace Prog

variable {S Ev : Type}
variable {α β γ σ : Type}

/- Sequential composition. -/
def bind
    (p : Prog S Ev α)
    (q : α → Prog S Ev β) : Prog S Ev β :=
  match p with
  | .ret a => q a
  | .act f k => .act f (fun s => (k s).bind q)
  | .stop => .stop

instance : Monad (Prog S Ev) where
  pure := .ret
  bind := .bind

/-
  Run a program alone.  The result is `none` when the
  program stops or meets a blocked action; the world is the
  one reached at that point.
-/
def run
    (p : Prog S Ev α)
    (w : World S Ev) : Option α × World S Ev :=
  match p with
  | .ret a => (some a, w)
  | .stop => (none, w)
  | .act f k =>
      match f w.st with
      | none => (none, w)
      | some (s, es) =>
          (k w.st).run ⟨s, es ++ w.log⟩

/- One atomic action that cannot block. -/
def step
    (f : S → α × S × List Ev) : Prog S Ev α :=
  .act (fun s => some (f s).2) (fun s => .ret (f s).1)

/- One atomic action that waits until its guard holds. -/
def await
    (guard : S → Bool)
    (f : S → S) : Prog S Ev Unit :=
  .act
    (fun s => if guard s then some (f s, []) else none)
    (fun _ => .ret ())

/- Read the state. -/
def read
    (f : S → α) : Prog S Ev α :=
  step (fun s => (f s, s, []))

/- Change the state. -/
def modify
    (f : S → S) : Prog S Ev Unit :=
  step (fun s => ((), f s, []))

/- Record an event that depends on the state. -/
def emit
    (f : S → Ev) : Prog S Ev Unit :=
  step (fun s => ((), s, [f s]))

/-
  Repeat a body until it delivers a result.  The fuel bounds
  the number of rounds; a program out of fuel never returns.
-/
def loop
    (fuel : Nat)
    (body : σ → Prog S Ev (σ ⊕ α))
    (s : σ) : Prog S Ev α :=
  match fuel with
  | 0 => .stop
  | fuel + 1 =>
      body s >>= fun
        | .inl s' => loop fuel body s'
        | .inr a => pure a

/- Perform a program for each element of a list in turn. -/
def each
    (body : α → Prog S Ev Unit) :
    List α → Prog S Ev Unit
  | [] => pure ()
  | a :: as => body a >>= fun _ => each body as

end Prog

end TrustOnboard

------------------------------------------------------------
-- Running Composite Programs
------------------------------------------------------------

namespace TrustOnboard

namespace Prog

variable {S Ev : Type}
variable {α β γ σ : Type}

@[simp] theorem pure_eq
    (a : α) :
    (pure a : Prog S Ev α) = .ret a :=
  rfl

@[simp] theorem run_ret
    (a : α)
    (w : World S Ev) :
    (Prog.ret a : Prog S Ev α).run w = (some a, w) :=
  rfl

@[simp] theorem run_stop
    (w : World S Ev) :
    (Prog.stop : Prog S Ev α).run w = (none, w) :=
  rfl

@[simp] theorem run_step
    (f : S → α × S × List Ev)
    (w : World S Ev) :
    (step f).run w =
      (some (f w.st).1,
        ⟨(f w.st).2.1, (f w.st).2.2 ++ w.log⟩) :=
  rfl

@[simp] theorem ret_bind
    (a : α)
    (q : α → Prog S Ev β) :
    (Prog.ret a >>= q) = q a :=
  rfl

theorem bind_ret
    (p : Prog S Ev α) :
    (p >>= fun a => Prog.ret a) = p := by
  induction p with
  | ret a => rfl
  | stop => rfl
  | act f k ih =>
      change Prog.act f (fun s => (k s).bind .ret) = _
      exact congrArg (Prog.act f) (funext ih)

theorem bind_assoc
    (p : Prog S Ev α)
    (q : α → Prog S Ev β)
    (r : β → Prog S Ev γ) :
    (p >>= q) >>= r = p >>= fun a => q a >>= r := by
  induction p with
  | ret a => rfl
  | stop => rfl
  | act f k ih =>
      change Prog.act f (fun s => ((k s).bind q).bind r) = _
      exact congrArg (Prog.act f) (funext ih)

/- A composite run first runs its first part. -/
theorem run_bind
    (p : Prog S Ev α)
    (q : α → Prog S Ev β)
    (w : World S Ev) :
    (p >>= q).run w =
      match p.run w with
      | (some a, w') => (q a).run w'
      | (none, w') => (none, w') := by
  induction p generalizing w with
  | ret a => rfl
  | stop => rfl
  | act f k ih =>
      change ((Prog.act f k).bind q).run w = _
      simp only [bind, run]
      cases hStep : f w.st with
      | none => rfl
      | some next =>
          rcases next with ⟨s, es⟩
          exact ih w.st ⟨s, es ++ w.log⟩

/- A composite run after a returning first part. -/
theorem run_bind_of_run
    {p : Prog S Ev α}
    {q : α → Prog S Ev β}
    {w w' : World S Ev}
    {a : α}
    (hRun : p.run w = (some a, w')) :
    (p >>= q).run w = (q a).run w' := by
  rw [run_bind, hRun]

/- A run that returns, as a pair. -/
theorem run_of_returns
    {p : Prog S Ev α}
    {w : World S Ev}
    {a : α}
    (hReturns : (p.run w).1 = some a) :
    p.run w = (some a, (p.run w).2) :=
  Prod.ext hReturns rfl

theorem loop_succ
    (fuel : Nat)
    (body : σ → Prog S Ev (σ ⊕ α))
    (s : σ) :
    loop (fuel + 1) body s =
      body s >>= fun
        | .inl s' => loop fuel body s'
        | .inr a => pure a :=
  rfl

/- Two lists of programs in a row. -/
theorem run_each_append
    (body : α → Prog S Ev Unit)
    (as bs : List α)
    (w : World S Ev) :
    (each body (as ++ bs)).run w =
      (each body as >>= fun _ => each body bs).run w := by
  induction as generalizing w with
  | nil => rfl
  | cons a as ih =>
      rw [List.cons_append, each, each, run_bind, run_bind,
        run_bind]
      cases hRun : (body a).run w with
      | mk result w' =>
          cases result with
          | none => rfl
          | some _ =>
              dsimp only
              rw [ih, run_bind]

/- The run of a list of programs has passed every prefix. -/
theorem run_each_take
    {body : α → Prog S Ev Unit}
    {as bs : List α}
    {w w' : World S Ev}
    (hRun : (each body (as ++ bs)).run w = (some (), w')) :
    ∃ w₁,
      (each body as).run w = (some (), w₁) ∧
        (each body bs).run w₁ = (some (), w') := by
  rw [run_each_append, run_bind] at hRun
  cases hFirst : (each body as).run w with
  | mk result w₁ =>
      rw [hFirst] at hRun
      cases result with
      | none => cases hRun
      | some _ => exact ⟨w₁, rfl, hRun⟩

/- Running only ever extends the log. -/
theorem run_log_suffix
    (p : Prog S Ev α)
    (w : World S Ev) :
    ∃ es, (p.run w).2.log = es ++ w.log := by
  induction p generalizing w with
  | ret a => exact ⟨[], rfl⟩
  | stop => exact ⟨[], rfl⟩
  | act f k ih =>
      simp only [run]
      cases hStep : f w.st with
      | none => exact ⟨[], rfl⟩
      | some next =>
          rcases next with ⟨s, es⟩
          rcases ih w.st ⟨s, es ++ w.log⟩ with
            ⟨later, hLater⟩
          refine ⟨later ++ es, ?_⟩
          simpa using hLater

/-
  A run does not depend on the log it starts with: it adds
  the events it would add to an empty one.
-/
theorem run_from_empty
    (p : Prog S Ev α)
    (s : S)
    (es l : List Ev) :
    p.run ⟨s, es ++ l⟩ =
      ((p.run ⟨s, es⟩).1,
        ⟨(p.run ⟨s, es⟩).2.st,
          (p.run ⟨s, es⟩).2.log ++ l⟩) := by
  induction p generalizing s es with
  | ret a => rfl
  | stop => rfl
  | act f k ih =>
      simp only [run]
      cases hStep : f s with
      | none => rfl
      | some next =>
          rcases next with ⟨s', new⟩
          have hNext := ih s s' (new ++ es)
          rw [List.append_assoc] at hNext
          exact hNext

end Prog

end TrustOnboard
