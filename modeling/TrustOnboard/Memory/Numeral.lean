import TrustOnboard.Memory.Text

/-
  Decimal numerals read back digit by digit.

  A reader multiplies what it has by ten and adds the digit,
  in an unsigned type.  Whatever is lost on the way, a
  numeral that was printed for a number comes back as the
  number in that type.

  Key definitions include:
    * `addDecimal`

  Key results include:
    * `foldl_addDecimal_decimal`
-/

------------------------------------------------------------
-- Accumulating Digits
------------------------------------------------------------

namespace TrustOnboard

/- One more digit, in a type of some number of values. -/
def addDecimal
    (modulus n : Nat)
    (c : UInt8) : Nat :=
  (n * 10 % modulus + (c - 48).toNat) % modulus

/- The value of a printed digit. -/
theorem digitByte_sub
    {d : Nat}
    (hSmall : d < 10) :
    (digitByte d - 48).toNat = d := by
  have hAll : ∀ i : Fin 10, (digitByte i - 48).toNat = i := by
    decide
  exact hAll ⟨d, hSmall⟩

/- The digits of a number, most significant first. -/
theorem foldl_addDecimal_reverse
    (modulus : Nat)
    {ds : List Nat}
    (hSmall : ∀ d ∈ ds, d < 10) :
    (ds.reverse.map digitByte).foldl (addDecimal modulus) 0 =
      Nat.ofDigits 10 ds % modulus := by
  rw [List.foldl_map, List.foldl_reverse]
  induction ds with
  | nil =>
      rw [Nat.ofDigits_nil]
      exact (Nat.zero_mod modulus).symm
  | cons d ds ih =>
      have hRest :=
        ih (fun d' hd' => hSmall d' (List.mem_cons_of_mem d hd'))
      have hHere := digitByte_sub (hSmall d List.mem_cons_self)
      rw [List.foldr_cons, hRest, Nat.ofDigits_cons, addDecimal,
        hHere]
      rw [Nat.add_mod, Nat.mod_mod, ← Nat.add_mod]
      rw [Nat.add_mod, Nat.mul_mod, Nat.mod_mod,
        ← Nat.mul_mod, ← Nat.add_mod]
      rw [Nat.add_comm, Nat.mul_comm]

/- A numeral is read as the number it was printed for. -/
theorem foldl_addDecimal_decimal
    (modulus n : Nat) :
    (decimal n).foldl (addDecimal modulus) 0 =
      n % modulus := by
  unfold decimal
  split
  · rename_i hZero
    rw [hZero]
    simp [addDecimal]
  · rw [foldl_addDecimal_reverse modulus
      (fun d hd => Nat.digits_lt_base (by decide) hd),
      Nat.ofDigits_digits]

end TrustOnboard
