import Mathlib.Data.List.Basic

/-
  Statements about every event of a log.

  A log has its newest event first, so that what stands
  behind an event is what had happened before it.

  Key definitions include:
    * `Along`
    * `reached`

  Key results include:
    * `along_cons`
    * `Along.append`
    * `reached_append`
-/

------------------------------------------------------------
-- Every Event And What Came Before It
------------------------------------------------------------

namespace TrustOnboard

variable {Ev : Type}
variable {P : Ev → List Ev → Prop}

/- Every event is as it should be after what came before. -/
def Along
    (P : Ev → List Ev → Prop)
    (log : List Ev) : Prop :=
  ∀ later e earlier, log = later ++ e :: earlier → P e earlier

theorem along_nil : Along P [] := by
  intro later e earlier hSplit
  exact absurd hSplit.symm (by simp)

theorem along_cons
    {e : Ev}
    {log : List Ev} :
    Along P (e :: log) ↔ P e log ∧ Along P log := by
  refine ⟨fun hAlong => ⟨?_, ?_⟩, ?_⟩
  · exact hAlong [] e log rfl
  · intro later e' earlier hSplit
    exact hAlong (e :: later) e' earlier (by rw [hSplit]; rfl)
  · rintro ⟨hHead, hTail⟩ later e' earlier hSplit
    cases later with
    | nil =>
        cases hSplit
        exact hHead
    | cons first later =>
        cases hSplit
        exact hTail later e' earlier rfl

/- New events for which nothing has to be shown. -/
theorem Along.append
    {log es : List Ev}
    (hAlong : Along P log)
    (hFree : ∀ e ∈ es, ∀ earlier, P e earlier) :
    Along P (es ++ log) := by
  induction es with
  | nil => exact hAlong
  | cons e es ih =>
      refine along_cons.mpr ⟨hFree e (by simp) _, ?_⟩
      apply ih
      intro e' hMem
      exact hFree e' (List.mem_cons_of_mem e hMem)

/- What is true along a log was true along its beginning. -/
theorem Along.earlier
    {es log : List Ev}
    (hAlong : Along P (es ++ log)) :
    Along P log := by
  intro later e earlier hSplit
  exact hAlong (es ++ later) e earlier (by simp [hSplit])

instance decidableAlong
    [∀ e l, Decidable (P e l)] :
    ∀ log : List Ev, Decidable (Along P log)
  | [] => .isTrue along_nil
  | e :: log =>
      have : Decidable (Along P log) := decidableAlong log
      decidable_of_iff (P e log ∧ Along P log) along_cons.symm

end TrustOnboard

------------------------------------------------------------
-- Automata
------------------------------------------------------------

namespace TrustOnboard

variable {Ev σ : Type}
variable {next : σ → Ev → Option σ}
variable {s s' : σ}

/-
  The state of an automaton behind a log, if it allows every
  event of it.
-/
def reached
    (next : σ → Ev → Option σ)
    (s : σ) :
    List Ev → Option σ
  | [] => some s
  | e :: log => (reached next s log).bind (fun s => next s e)

theorem reached_cons
    {e : Ev}
    {log : List Ev}
    (hReached : reached next s log = some s') :
    reached next s (e :: log) = next s' e := by
  rw [reached, hReached, Option.bind_some]

theorem reached_append
    (later earlier : List Ev) :
    reached next s (later ++ earlier) =
      (reached next s earlier).bind
        (fun s' => reached next s' later) := by
  induction later with
  | nil => simp [reached]
  | cons e later ih =>
      rw [List.cons_append, reached, ih, Option.bind_assoc]
      rfl

/- Events an automaton does not notice. -/
theorem reached_unnoticed
    {es log : List Ev}
    (hFree : ∀ e ∈ es, ∀ s, next s e = some s) :
    reached next s (es ++ log) = reached next s log := by
  induction es with
  | nil => rfl
  | cons e es ih =>
      have hRest :=
        ih (fun e' he' => hFree e' (List.mem_cons_of_mem e he'))
      rw [List.cons_append, reached, hRest]
      cases reached next s log with
      | none => rfl
      | some s' => exact hFree e List.mem_cons_self s'

end TrustOnboard
