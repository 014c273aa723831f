import Mathlib.Data.List.FinRange
import TrustOnboard.Shadow.Records

/-
  Searching and changing the lists of the shadow client.

  Every search runs from the first entry on and ends at the
  lowest one that satisfies its test.

  Key results include:
    * `find_finRange_eq_some_iff`
    * `State.firstFree_eq_some_iff`
-/

------------------------------------------------------------
-- Searching
------------------------------------------------------------

namespace TrustOnboard

namespace Shadow

/- A search for the lowest index. -/
theorem find_finRange_eq_some_iff
    {n : Nat}
    (p : Fin n → Bool)
    (k : Fin n) :
    (List.finRange n).find? p = some k ↔
      p k = true ∧ ∀ j < k, p j = false := by
  rw [List.find?_eq_some_iff_getElem]
  refine and_congr_right fun _ => ?_
  constructor
  · rintro ⟨i, hi, hk, hBefore⟩ j hj
    have hEq : i = k.val := by
      rw [List.getElem_finRange] at hk
      exact congrArg Fin.val hk
    have hLow : j.val < i := hEq ▸ hj
    have hNot := hBefore j.val hLow
    rw [List.getElem_finRange] at hNot
    simpa using hNot
  · intro hBefore
    refine ⟨k.val, by simp, ?_, ?_⟩
    · rw [List.getElem_finRange]
      rfl
    · intro j hj
      rw [List.getElem_finRange]
      have hNot := hBefore ⟨j, by omega⟩ hj
      simpa using hNot

theorem find_finRange_eq_none_iff
    {n : Nat}
    (p : Fin n → Bool) :
    (List.finRange n).find? p = none ↔
      ∀ k, p k = false := by
  rw [List.find?_eq_none]
  simp

namespace State

variable (s : State)

theorem firstFree_eq_some_iff
    (k : Fin maxTopics) :
    s.firstFree = some k ↔
      (s.subscriptionList k).isFree = true ∧
        ∀ j < k, (s.subscriptionList j).isFree = false :=
  find_finRange_eq_some_iff _ k

theorem firstFree_eq_none_iff :
    s.firstFree = none ↔
      ∀ k, (s.subscriptionList k).isFree = false :=
  find_finRange_eq_none_iff _

end State

end Shadow

end TrustOnboard

------------------------------------------------------------
-- Changing
------------------------------------------------------------

namespace TrustOnboard

namespace Shadow

namespace State

variable (s : State)

@[simp]
theorem setSubscription_same
    (k : Fin maxTopics)
    (f : SubscriptionRecord → SubscriptionRecord) :
    (s.setSubscription k f).subscriptionList k =
      f (s.subscriptionList k) :=
  Function.update_self _ _ _

theorem setSubscription_other
    {j k : Fin maxTopics}
    (hNe : j ≠ k)
    (f : SubscriptionRecord → SubscriptionRecord) :
    (s.setSubscription k f).subscriptionList j =
      s.subscriptionList j :=
  Function.update_of_ne hNe _ _

end State

end Shadow

end TrustOnboard
