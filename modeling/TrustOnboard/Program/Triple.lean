import TrustOnboard.Program.Basic

/-
  Pre- and postconditions for step programs.

  A `Contract` fixes two things once for a whole
  development: which logs excuse a run from any further
  obligation, and what must hold of a run that never
  returns.  `Triple C P p Q` then says that from a world in
  `P` the program `p` either ends in an excused log, or
  returns in `Q`, or halts in `C.halted`.

  `Prog.Uses R p` is the static counterpart: every action of
  `p` relates its two states and its events by `R`.

  Key definitions include:
    * `Contract`
    * `Contract.total`
    * `Triple`
    * `Keeps`
    * `Prog.Uses`
    * `Prog.Built`

  Key results include:
    * `Triple.returns`
    * `Triple.bind`
    * `Triple.loop`
    * `Triple.loop_measured`
    * `Triple.each`
    * `Triple.of_events`
    * `Triple.and_plain`
    * `Prog.Uses.triple`
    * `Prog.Uses.final`
    * `Prog.Built.keeps`
-/

------------------------------------------------------------
-- Contracts And Triples
------------------------------------------------------------

namespace TrustOnboard

/-
  What a family of triples may assume away and what it owes
  when a program never returns.
-/
structure Contract (S Ev : Type) where
  excused : List Ev → Prop
  excused_append :
    ∀ {l : List Ev} (es : List Ev),
      excused l → excused (es ++ l)
  halted : World S Ev → Prop

/- The contract with no excuse and no duty on halting. -/
def Contract.plain (S Ev : Type) : Contract S Ev where
  excused := fun _ => False
  excused_append := fun _ h => h
  halted := fun _ => True

/- The contract of programs that return. -/
def Contract.total (S Ev : Type) : Contract S Ev where
  excused := fun _ => False
  excused_append := fun _ h => h
  halted := fun _ => False

/- The obligation on one finished run. -/
def Contract.Meets
    {S Ev α : Type}
    (C : Contract S Ev)
    (Q : α → World S Ev → Prop)
    (r : Option α × World S Ev) : Prop :=
  C.excused r.2.log ∨
    match r.1 with
    | some a => Q a r.2
    | none => C.halted r.2

/- Partial correctness of a program under a contract. -/
def Triple
    {S Ev α : Type}
    (C : Contract S Ev)
    (P : World S Ev → Prop)
    (p : Prog S Ev α)
    (Q : α → World S Ev → Prop) : Prop :=
  ∀ w, P w → C.Meets Q (p.run w)

/- A program keeps an assertion. -/
abbrev Keeps
    {S Ev α : Type}
    (C : Contract S Ev)
    (P : World S Ev → Prop)
    (p : Prog S Ev α) : Prop :=
  Triple C P p (fun _ => P)

end TrustOnboard

------------------------------------------------------------
-- Structural Rules
------------------------------------------------------------

namespace TrustOnboard

namespace Triple

variable {S Ev : Type}
variable {α β σ : Type}
variable {C : Contract S Ev}
variable {P A : World S Ev → Prop}
variable {Q B : α → World S Ev → Prop}

/- A returning run of a triple is excused or meets `Q`. -/
theorem of_run
    {p : Prog S Ev α}
    (hTriple : Triple C P p Q)
    {w w' : World S Ev}
    {a : α}
    (hP : P w)
    (hRun : p.run w = (some a, w')) :
    C.excused w'.log ∨ Q a w' := by
  have hMeets := hTriple w hP
  rw [hRun] at hMeets
  exact hMeets

/- Under the total contract a run returns in `Q`. -/
theorem returns
    {p : Prog S Ev α}
    (hTriple : Triple (Contract.total S Ev) P p Q)
    {w : World S Ev}
    (hP : P w) :
    ∃ a w', p.run w = (some a, w') ∧ Q a w' := by
  have hMeets := hTriple w hP
  cases hRun : p.run w with
  | mk result w' =>
      rw [hRun] at hMeets
      rcases hMeets with hNo | hMeets
      · exact hNo.elim
      · cases result with
        | none => exact hMeets.elim
        | some a => exact ⟨a, w', rfl, hMeets⟩

/- Strengthen the precondition, weaken the postcondition. -/
theorem conseq
    {p : Prog S Ev α}
    (hTriple : Triple C A p B)
    (hPre : ∀ w, P w → A w)
    (hPost : ∀ a w, B a w → Q a w) :
    Triple C P p Q := by
  intro w hP
  rcases hTriple w (hPre w hP) with hBad | hMeets
  · exact Or.inl hBad
  · refine Or.inr ?_
    cases hRes : (p.run w).1 with
    | none => simpa [hRes] using hMeets
    | some a =>
        rw [hRes] at hMeets
        exact hPost a _ hMeets

theorem pre
    {p : Prog S Ev α}
    (hTriple : Triple C A p Q)
    (hPre : ∀ w, P w → A w) :
    Triple C P p Q :=
  hTriple.conseq hPre (fun _ _ h => h)

theorem post
    {p : Prog S Ev α}
    (hTriple : Triple C P p B)
    (hPost : ∀ a w, B a w → Q a w) :
    Triple C P p Q :=
  hTriple.conseq (fun _ h => h) hPost

/- A precondition that already excuses the run. -/
theorem of_excused
    {p : Prog S Ev α}
    (hPre : ∀ w, P w → C.excused w.log) :
    Triple C P p Q := by
  intro w hP
  rcases p.run_log_suffix w with ⟨es, hLog⟩
  refine Or.inl ?_
  rw [hLog]
  exact C.excused_append es (hPre w hP)

/- Allow the precondition an excused alternative. -/
theorem or_excused
    {p : Prog S Ev α}
    (hTriple : Triple C P p Q) :
    Triple C
      (fun w => C.excused w.log ∨ P w) p Q := by
  intro w hPre
  rcases hPre with hBad | hP
  · exact
      of_excused (P := fun w => C.excused w.log)
        (fun _ h => h) w hBad
  · exact hTriple w hP

/- Allow the postcondition an excused alternative. -/
theorem of_or_excused
    {p : Prog S Ev α}
    (hTriple :
      Triple C P p (fun a w => C.excused w.log ∨ Q a w)) :
    Triple C P p Q := by
  intro w hP
  rcases hTriple w hP with hBad | hMeets
  · exact Or.inl hBad
  · cases hRes : (p.run w).1 with
    | none =>
        rw [hRes] at hMeets
        exact Or.inr (by rw [hRes]; exact hMeets)
    | some a =>
        rw [hRes] at hMeets
        rcases hMeets with hBad | hQ
        · exact Or.inl hBad
        · exact Or.inr (by rw [hRes]; exact hQ)

theorem ret
    {a : α}
    (hPost : ∀ w, P w → Q a w) :
    Triple C P (Prog.ret a) Q := by
  intro w hP
  exact Or.inr (hPost w hP)

theorem pure
    {a : α}
    (hPost : ∀ w, P w → Q a w) :
    Triple C P (Pure.pure a : Prog S Ev α) Q :=
  ret hPost

/- Returning at once keeps the precondition. -/
theorem same
    {a : α} :
    Triple C P (Prog.ret a) (fun _ => P) :=
  ret (fun _ hP => hP)

theorem stop
    (hHalt : ∀ w, P w → C.halted w) :
    Triple C P (Prog.stop : Prog S Ev α) Q := by
  intro w hP
  exact Or.inr (hHalt w hP)

/- An action that cannot block. -/
theorem step
    {f : S → α × S × List Ev}
    (hPost :
      ∀ w, P w →
        C.excused ((f w.st).2.2 ++ w.log) ∨
          Q (f w.st).1
            ⟨(f w.st).2.1, (f w.st).2.2 ++ w.log⟩) :
    Triple C P (Prog.step f) Q := by
  intro w hP
  simp only [Prog.run_step, Contract.Meets]
  exact hPost w hP

theorem read
    {f : S → α}
    (hPost : ∀ w, P w → Q (f w.st) w) :
    Triple C P (Prog.read f) Q :=
  step (fun w hP => Or.inr (hPost w hP))

theorem modify
    {f : S → S}
    {Q : Unit → World S Ev → Prop}
    (hPost : ∀ w, P w → Q () ⟨f w.st, w.log⟩) :
    Triple C P (Prog.modify f) Q :=
  step (fun w hP => Or.inr (hPost w hP))

theorem emit
    {f : S → Ev}
    {Q : Unit → World S Ev → Prop}
    (hPost :
      ∀ w, P w →
        C.excused (f w.st :: w.log) ∨
          Q () ⟨w.st, f w.st :: w.log⟩) :
    Triple C P (Prog.emit f) Q :=
  step hPost

/- Sequential composition through an intermediate claim. -/
theorem bind
    {p : Prog S Ev α}
    {q : α → Prog S Ev β}
    {M : α → World S Ev → Prop}
    {R : β → World S Ev → Prop}
    (hFirst : Triple C P p M)
    (hRest : ∀ a, Triple C (M a) (q a) R) :
    Triple C P (p >>= q) R := by
  intro w hP
  have hMeets := hFirst w hP
  rw [Prog.run_bind]
  cases hRun : p.run w with
  | mk result w' =>
      rw [hRun] at hMeets
      cases result with
      | none => exact hMeets
      | some a => exact (hRest a).or_excused w' hMeets

/- The first part only has to keep the precondition. -/
theorem seq
    {p : Prog S Ev α}
    {q : α → Prog S Ev β}
    {R : β → World S Ev → Prop}
    (hFirst : Triple C P p (fun _ => P))
    (hRest : ∀ a, Triple C P (q a) R) :
    Triple C P (p >>= q) R :=
  hFirst.bind hRest

/-
  A loop keeps its invariant in every round.  The invariant
  must also satisfy the halting duty, since a loop may run
  out of fuel in any round.
-/
theorem loop
    {fuel : Nat}
    {body : σ → Prog S Ev (σ ⊕ α)}
    {s : σ}
    (J : σ → World S Ev → Prop)
    (hHalt : ∀ s w, J s w → C.halted w)
    (hBody :
      ∀ s, Triple C (J s) (body s)
        (fun r w =>
          match r with
          | .inl s' => J s' w
          | .inr a => Q a w)) :
    Triple C (J s) (Prog.loop fuel body s) Q := by
  induction fuel generalizing s with
  | zero => exact stop (hHalt s)
  | succ fuel ih =>
      rw [Prog.loop_succ]
      refine (hBody s).bind ?_
      intro r
      cases r with
      | inl s' => exact ih
      | inr a => exact pure (fun _ h => h)

/-
  A loop returns when every round makes a measure of the
  world smaller and the fuel exceeds it.
-/
theorem loop_measured
    {body : σ → Prog S Ev (σ ⊕ α)}
    (J : σ → World S Ev → Prop)
    (measure : σ → World S Ev → Nat)
    (hBody :
      ∀ s n,
        Triple C (fun w => J s w ∧ measure s w = n) (body s)
          (fun r w =>
            match r with
            | .inl s' => J s' w ∧ measure s' w < n
            | .inr a => Q a w))
    (fuel : Nat)
    (s : σ) :
    Triple C (fun w => J s w ∧ measure s w < fuel)
      (Prog.loop fuel body s) Q := by
  induction fuel generalizing s with
  | zero => exact fun w hP => absurd hP.2 (Nat.not_lt_zero _)
  | succ fuel ih =>
      intro w hP
      rw [Prog.loop_succ]
      refine (hBody s (measure s w)).bind ?_ w ⟨hP.1, rfl⟩
      intro r
      cases r with
      | inl s' =>
          intro w' hNext
          exact ih s' w' ⟨hNext.1, by omega⟩
      | inr a => exact pure (fun _ h => h)

/- A list of programs keeps an invariant of each of them. -/
theorem each
    {body : α → Prog S Ev Unit}
    {as : List α}
    (hBody :
      ∀ a ∈ as, Triple C P (body a) (fun _ => P)) :
    Triple C P (Prog.each body as) (fun _ => P) := by
  induction as with
  | nil => exact pure (fun _ h => h)
  | cons a as ih =>
      refine (hBody a (by simp)).bind ?_
      intro _
      apply ih
      intro b hb
      exact hBody b (by simp [hb])

/- A conditional program. -/
theorem ite
    {c : Prop}
    [Decidable c]
    {p q : Prog S Ev α}
    (hThen : c → Triple C P p Q)
    (hElse : ¬ c → Triple C P q Q) :
    Triple C P (if c then p else q) Q := by
  by_cases hCond : c
  · rw [if_pos hCond]
    exact hThen hCond
  · rw [if_neg hCond]
    exact hElse hCond

/- Case split on a disjunctive precondition. -/
theorem or_pre
    {p : Prog S Ev α}
    (hLeft : Triple C P p Q)
    (hRight : Triple C A p Q) :
    Triple C (fun w => P w ∨ A w) p Q := by
  intro w hPre
  rcases hPre with hP | hP
  · exact hLeft w hP
  · exact hRight w hP

/- Fix the part of the precondition that names a value. -/
theorem exists_pre
    {ι : Type}
    {F : ι → World S Ev → Prop}
    {p : Prog S Ev α}
    (hEach : ∀ i, Triple C (F i) p Q) :
    Triple C (fun w => ∃ i, F i w) p Q := by
  intro w hPre
  rcases hPre with ⟨i, hF⟩
  exact hEach i w hF

/- A pure fact of the precondition may be assumed. -/
theorem of_fact
    {φ : Prop}
    {p : Prog S Ev α}
    (hTriple : φ → Triple C P p Q) :
    Triple C (fun w => φ ∧ P w) p Q := by
  intro w hPre
  exact hTriple hPre.1 w hPre.2

/- A false precondition carries any triple. -/
theorem false_pre
    {p : Prog S Ev α}
    (hNo : ∀ w, ¬ P w) :
    Triple C P p Q := by
  intro w hP
  exact absurd hP (hNo w)

/- The plain contract asks nothing by itself. -/
theorem anything
    {p : Prog S Ev α} :
    Triple (Contract.plain S Ev) P p (fun _ _ => True) := by
  intro w _
  refine Or.inr ?_
  cases (p.run w).1 with
  | none => trivial
  | some a => trivial

/- A log only grows, so what survives growth is kept. -/
theorem log_mono
    {I : List Ev → Prop}
    (hMono : ∀ es l, I l → I (es ++ l))
    {p : Prog S Ev α} :
    Triple (Contract.plain S Ev) (fun w => I w.log) p
      (fun _ w => I w.log) := by
  intro w hI
  rcases p.run_log_suffix w with ⟨es, hLog⟩
  refine Or.inr ?_
  cases (p.run w).1 with
  | none => trivial
  | some a =>
      dsimp only
      rw [hLog]
      exact hMono es _ hI

/-
  What a triple says of runs from the empty log holds of the
  events every run adds to its own.
-/
theorem of_events
    {P : S → Prop}
    {Q : α → S → List Ev → Prop}
    {p : Prog S Ev α}
    (hTriple :
      Triple (Contract.plain S Ev)
        (fun w => P w.st ∧ w.log = []) p
        (fun a w => Q a w.st w.log))
    {w w' : World S Ev}
    {a : α}
    {es : List Ev}
    (hP : P w.st)
    (hRun : p.run w = (some a, w'))
    (hLog : w'.log = es ++ w.log) :
    Q a w'.st es := by
  have hSplit := Prog.run_from_empty p w.st [] w.log
  rw [List.nil_append] at hSplit
  have hSame : p.run ⟨w.st, w.log⟩ = (some a, w') := hRun
  rw [hSame, Prod.mk.injEq] at hSplit
  rcases hSplit with ⟨hResult, hEnd⟩
  have hMeets := hTriple ⟨w.st, []⟩ ⟨hP, rfl⟩
  rcases hMeets with hNo | hMeets
  · exact hNo.elim
  · rw [← hResult] at hMeets
    rw [hEnd, List.append_cancel_right_eq] at hLog
    rw [← hLog, hEnd]
    exact hMeets

/-
  Add a fact proved under the plain contract.  Both triples
  speak of the same run, because running is deterministic.
-/
theorem and_plain
    {p : Prog S Ev α}
    (hMain : Triple C P p Q)
    (hPlain : Triple (Contract.plain S Ev) A p B) :
    Triple C
      (fun w => P w ∧ A w) p
      (fun a w => Q a w ∧ B a w) := by
  intro w hPre
  have hLeft := hMain w hPre.1
  have hRight := hPlain w hPre.2
  rcases hLeft with hBad | hLeft
  · exact Or.inl hBad
  · rcases hRight with hNo | hRight
    · exact hNo.elim
    · refine Or.inr ?_
      cases hRes : (p.run w).1 with
      | none => simpa [hRes] using hLeft
      | some a =>
          rw [hRes] at hLeft hRight
          exact ⟨hLeft, hRight⟩

end Triple

end TrustOnboard

------------------------------------------------------------
-- Static Footprints
------------------------------------------------------------

namespace TrustOnboard

namespace Prog

variable {S Ev : Type}
variable {α β σ : Type}
variable {R R' : S → S → List Ev → Prop}

/- Every action of the program stays inside `R`. -/
def Uses
    (R : S → S → List Ev → Prop) :
    Prog S Ev α → Prop
  | .ret _ => True
  | .stop => True
  | .act f k =>
      ∀ s,
        (∀ s' es, f s = some (s', es) → R s s' es) ∧
          (k s).Uses R

namespace Uses

theorem pure
    (a : α) :
    (Pure.pure a : Prog S Ev α).Uses R :=
  trivial

theorem step
    {f : S → α × S × List Ev}
    (hStep : ∀ s, R s (f s).2.1 (f s).2.2) :
    (Prog.step f).Uses R := by
  intro s
  refine ⟨?_, trivial⟩
  intro s' es hEq
  have hPair : (f s).2 = (s', es) :=
    Option.some.inj hEq
  have hHere := hStep s
  rw [hPair] at hHere
  exact hHere

theorem await
    {guard : S → Bool}
    {f : S → S}
    (hStep : ∀ s, R s (f s) []) :
    (Prog.await guard f : Prog S Ev Unit).Uses R := by
  intro s
  refine ⟨?_, trivial⟩
  intro s' es hEq
  by_cases hGuard : guard s = true
  · simp only [hGuard, if_true, Option.some.injEq,
      Prod.mk.injEq] at hEq
    rcases hEq with ⟨rfl, rfl⟩
    exact hStep s
  · simp [hGuard] at hEq

theorem bind
    {p : Prog S Ev α}
    {q : α → Prog S Ev β}
    (hFirst : p.Uses R)
    (hRest : ∀ a, (q a).Uses R) :
    (p >>= q).Uses R := by
  induction p with
  | ret a => exact hRest a
  | stop => trivial
  | act f k ih =>
      intro s
      exact ⟨(hFirst s).1, ih s (hFirst s).2⟩

theorem loop
    {fuel : Nat}
    {body : σ → Prog S Ev (σ ⊕ α)}
    {s : σ}
    (hBody : ∀ s, (body s).Uses R) :
    (Prog.loop fuel body s).Uses R := by
  induction fuel generalizing s with
  | zero => trivial
  | succ fuel ih =>
      rw [Prog.loop_succ]
      refine (hBody s).bind ?_
      intro r
      cases r with
      | inl s' => exact ih
      | inr a => exact pure a

theorem mono
    {p : Prog S Ev α}
    (hUses : p.Uses R)
    (hSub : ∀ s s' es, R s s' es → R' s s' es) :
    p.Uses R' := by
  induction p with
  | ret a => trivial
  | stop => trivial
  | act f k ih =>
      intro s
      refine ⟨?_, ih s (hUses s).2⟩
      intro s' es hEq
      exact hSub s s' es ((hUses s).1 s' es hEq)

/-
  A property closed under the actions of a program is kept
  by the whole program.
-/
theorem triple
    {C : Contract S Ev}
    {I : World S Ev → Prop}
    {p : Prog S Ev α}
    (hUses : p.Uses R)
    (hHalt : ∀ w, I w → C.halted w)
    (hKeep :
      ∀ s s' es l,
        R s s' es → I ⟨s, l⟩ → I ⟨s', es ++ l⟩) :
    Triple C I p (fun _ => I) := by
  induction p with
  | ret a => exact Triple.ret (fun _ h => h)
  | stop => exact Triple.stop hHalt
  | act f k ih =>
      intro w hI
      simp only [run]
      cases hStep : f w.st with
      | none => exact Or.inr (hHalt w hI)
      | some next =>
          rcases next with ⟨s, es⟩
          apply ih w.st (hUses w.st).2
          exact
            hKeep w.st s es w.log
              ((hUses w.st).1 s es hStep) hI

/-
  A property that steps keep as long as the log is good holds
  at the end of a run whose whole log is good.
-/
theorem final
    {G : List Ev → Prop}
    {I : World S Ev → Prop}
    {p : Prog S Ev α}
    (hUses : p.Uses R)
    (hPrefix : ∀ es l, G (es ++ l) → G l)
    (hKeep :
      ∀ s s' es l,
        R s s' es → G (es ++ l) → I ⟨s, l⟩ →
          I ⟨s', es ++ l⟩)
    {w : World S Ev}
    (hStart : I w)
    (hGood : G (p.run w).2.log) :
    I (p.run w).2 := by
  have hKept :
      Triple
        (⟨fun _ => False, fun _ h => h,
          fun w => G w.log → I w⟩ : Contract S Ev)
        (fun w => G w.log → I w) p
        (fun _ w => G w.log → I w) := by
    refine hUses.triple (fun _ h => h) ?_
    intro s s' es l hStep hBefore hAfter
    exact
      hKeep s s' es l hStep hAfter
        (hBefore (hPrefix es l hAfter))
  rcases hKept w (fun _ => hStart) with hNo | hMeets
  · exact hNo.elim
  · cases hResult : (p.run w).1 with
    | none =>
        rw [hResult] at hMeets
        exact hMeets hGood
    | some a =>
        rw [hResult] at hMeets
        exact hMeets hGood

end Uses

end Prog

end TrustOnboard

------------------------------------------------------------
-- Programs Built From Others
------------------------------------------------------------

namespace TrustOnboard

namespace Prog

variable {S Ev : Type}
variable {α β : Type}
variable {R R' : S → S → List Ev → Prop}
variable {Q Q' : Prog S Ev β → Prop}

/-
  A program put together from actions inside `R` and from the
  programs of `Q`.
-/
inductive Built
    (R : S → S → List Ev → Prop)
    (Q : Prog S Ev β → Prop) :
    ∀ {α : Type}, Prog S Ev α → Prop where
  | ret {α : Type} (a : α) : Built R Q (Prog.ret a)
  | step
      {α : Type}
      {f : S → α × S × List Ev}
      (hStep : ∀ s, R s (f s).2.1 (f s).2.2) :
      Built R Q (Prog.step f)
  | part
      {p : Prog S Ev β}
      (hPart : Q p) :
      Built R Q p
  | bind
      {α γ : Type}
      {p : Prog S Ev α}
      {q : α → Prog S Ev γ}
      (hFirst : Built R Q p)
      (hRest : ∀ a, Built R Q (q a)) :
      Built R Q (p >>= q)

namespace Built

theorem each
    {body : α → Prog S Ev Unit}
    {as : List α}
    (hBody : ∀ a, Built R Q (body a)) :
    Built R Q (Prog.each body as) := by
  induction as with
  | nil => exact .ret ()
  | cons a as ih => exact (hBody a).bind (fun _ => ih)

theorem ite
    {c : Prop}
    [Decidable c]
    {p q : Prog S Ev α}
    (hThen : Built R Q p)
    (hElse : Built R Q q) :
    Built R Q (if c then p else q) := by
  split
  · exact hThen
  · exact hElse

/- More actions and other parts. -/
theorem mono
    {p : Prog S Ev α}
    (hBuilt : Built R Q p)
    (hSub : ∀ s s' es, R s s' es → R' s s' es)
    (hParts : ∀ p, Q p → Built R' Q' p) :
    Built R' Q' p := by
  induction hBuilt with
  | ret a => exact .ret a
  | step hStep => exact .step (fun s => hSub _ _ _ (hStep s))
  | part hPart => exact hParts _ hPart
  | bind hFirst hRest ihFirst ihRest =>
      exact ihFirst.bind ihRest

theorem uses
    {p : Prog S Ev α}
    (hBuilt : Built R Q p)
    (hParts : ∀ p, Q p → p.Uses R) :
    p.Uses R := by
  induction hBuilt with
  | ret a => exact Uses.pure a
  | step hStep => exact Uses.step hStep
  | part hPart => exact hParts _ hPart
  | bind hFirst hRest ihFirst ihRest =>
      exact ihFirst.bind ihRest

/- An assertion the actions and the parts keep. -/
theorem keeps
    {C : Contract S Ev}
    {I : World S Ev → Prop}
    {p : Prog S Ev α}
    (hBuilt : Built R Q p)
    (hKeep :
      ∀ s s' es l,
        R s s' es → I ⟨s, l⟩ →
          C.excused (es ++ l) ∨ I ⟨s', es ++ l⟩)
    (hParts : ∀ p, Q p → Keeps C I p) :
    Keeps C I p := by
  induction hBuilt with
  | ret a => exact Triple.ret (fun _ hI => hI)
  | step hStep =>
      exact
        Triple.step (fun w hI => hKeep _ _ _ w.log (hStep _) hI)
  | part hPart => exact hParts _ hPart
  | bind hFirst hRest ihFirst ihRest =>
      exact ihFirst.bind ihRest

end Built

end Prog

end TrustOnboard
